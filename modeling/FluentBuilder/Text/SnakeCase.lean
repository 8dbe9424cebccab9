import FluentBuilder.Text.LetterCase
import FluentBuilder.Text.Cluster

/-!
# Snake case

A name is scanned from left to right as a list of grapheme clusters.  A separator ends a word and is
dropped; a boundary between two clusters ends a word and keeps both.  The words are written in lower
case and joined with underscores, and empty words are kept, so that doubled separators stay visible.

* `isSeparator` and `splitsBetween`: what ends a word at the head of a scan.
* `wordsFrom`, `words`: the scan as a recursion on the list of clusters.
* `snakeCase`: the joined result.
-/

namespace FluentBuilder.Text

/-- A cluster of ASCII digits only. -/
def isDigitCluster (g : List Char) : Bool :=
  g.all isAsciiDigit

/-- A cluster that has letter case and is in upper case. -/
def isUpperCluster (g : List Char) : Bool :=
  upper g != lower g && g == upper g

/-- A cluster that has letter case and is in lower case. -/
def isLowerCluster (g : List Char) : Bool :=
  upper g != lower g && g == lower g

/-- A cluster that separates words and belongs to none. -/
def isSeparator (g : List Char) : Bool :=
  g == ['_'] || g == ['-'] || g == [' ']

/-- Whether a word ends between two neighbouring clusters, of which the second is followed by
`next`. -/
def splitsBetween (a b : List Char) (next : Option (List Char)) : Bool :=
  (isLowerCluster a && isUpperCluster b)
    || (isLowerCluster a && isDigitCluster b)
    || (isUpperCluster a && isDigitCluster b)
    || (isDigitCluster a && isLowerCluster b)
    || (isDigitCluster a && isUpperCluster b)
    || (isUpperCluster a && isUpperCluster b && next.any isLowerCluster)

/-- The words of a list of clusters; `word` holds the reversed start of the word under way. -/
def wordsFrom (word : List (List Char)) : List (List Char) → List (List (List Char))
  | [] => [word.reverse]
  | a :: rest =>
    if isSeparator a then word.reverse :: wordsFrom [] rest
    else
      match rest with
      | [] => [(a :: word).reverse]
      | b :: more =>
        if splitsBetween a b more.head? then (a :: word).reverse :: wordsFrom [] (b :: more)
        else wordsFrom (a :: word) (b :: more)

/-- The words of a name. -/
def words (name : List Char) : List (List Char) :=
  (wordsFrom [] (clusters name)).map List.flatten

/-- A name in snake case. -/
def snakeCase (name : String) : String :=
  String.intercalate "_" ((words name.toList).map fun w => String.ofList (lower w))

end FluentBuilder.Text
