import FluentBuilder.Layout.MacroLayout

/-!
# The layout of attributes

The arguments of an attribute are tokens.  They are written with spaces between words and behind
commas, and a line may break inside round brackets.  Documentation is written as a comment wherever
a comment can hold it.

* `attributeArgumentsLayout`: the arguments of an attribute.
* `comment?`: an attribute that is written as a comment.
* `attributeFrame`: any other attribute around its content.
-/

namespace FluentBuilder.Layout

open FluentBuilder.Code

/-! ### Arguments -/

/-- What the last of the tokens of an attribute was. -/
inductive AttributeState where
  | word
  | punct
  | trailingComma
  deriving DecidableEq, Repr

mutual
/-- The layout of one token of an attribute, and what it leaves behind; `last` says whether it ends
its group. -/
def attributeTreeLayout (before : AttributeState) (last : Bool) :
    TokenTree → List Document × AttributeState
  | .leaf (.punct c _) =>
    let lead := textIf (before == .word && c == '=') " "
    if c == ',' && last then (lead ++ [commaBreak], .trailingComma)
    else
      (lead ++ [.text (String.ofList [c])]
        ++ (if c == '=' then [.text " "] else if c == ',' then [softSpace] else []), .punct)
  | .leaf (.lifetime name) => ([.text (Token.lifetime name).text], .word)
  | .leaf token => ((if before == .word then [softSpace] else []) ++ [.text token.text], .word)
  | .group .paren inner =>
    let (pieces, after) := attributeTokensLayout .punct inner
    let closing := if after == .trailingComma then [] else [softBreak]
    ([.text "("] ++ indented (outdent (softBreak :: pieces ++ closing)) ++ [.text ")"], .punct)
  | .group .bracket inner =>
    ([.text "["] ++ (attributeTokensLayout .punct inner).1 ++ [.text "]"], .punct)
  | .group .brace inner =>
    ([.text "\x7b"] ++ (attributeTokensLayout .punct inner).1 ++ [.text "\x7d"], .punct)

/-- The layout of the tokens of an attribute, and what they leave behind. -/
def attributeTokensLayout (before : AttributeState) :
    List TokenTree → List Document × AttributeState
  | [] => ([], before)
  | tree :: rest =>
    let (here, after) := attributeTreeLayout before rest.isEmpty tree
    let (others, last) := attributeTokensLayout after rest
    (here ++ others, last)
end

/-- The layout of the arguments of an attribute. -/
def attributeArgumentsLayout (arguments : TokenTree) : List Document :=
  (attributeTreeLayout .word true arguments).1

/-! ### Comments -/

/-- Whether every comment between delimiters that opens in a text is closed in it, `depth` of them
being open. -/
def closesComments (depth : Nat) : List Char → Bool
  | '/' :: '*' :: rest => closesComments (depth + 1) rest
  | '*' :: '/' :: rest => depth != 0 && closesComments (depth - 1) rest
  | _ :: rest => closesComments depth rest
  | [] => depth == 0

/-- Whether a text can stand inside a comment between delimiters. -/
def isCommentText (text : List Char) : Bool :=
  closesComments 0 text && text.getLast? != some '/'

/-- A text without its trailing spaces. -/
def trimSpaces (text : List Char) : List Char :=
  (text.reverse.dropWhile (· == ' ')).reverse

/-- A text without the spaces in front of line ends. -/
def trimLines (text : List Char) : List Char :=
  match text.splitOn '\n' with
  | [] => []
  | lines => (((lines.dropLast.map trimSpaces) ++ lines.getLast?.toList).intersperse ['\n']).flatten

/-- A comment up to the end of its line. -/
def lineComment (opening : String) (text : List Char) : List Document :=
  [.text opening, .text (String.ofList (trimSpaces text)), hardBreak]

/-- A comment between delimiters. -/
def blockComment (opening : String) (text : List Char) : List Document :=
  [.text opening, .text (String.ofList (trimLines text)), .text "*/", hardBreak]

/-- The comment in which a documentation text is written, if one can hold it; `inner` says whether
the text documents what it stands in. -/
def documentation? (inner : Bool) (text : List Char) : Option (List Document) :=
  let starts (c : Char) : Bool := text.head? == some c
  if !text.contains '\n' && (inner || !starts '/') then
    some (lineComment (if inner then "//!" else "///") text)
  else if isCommentText text && (inner || !(starts '*' || starts '/')) then
    some (blockComment (if inner then "/*!" else "/**") text)
  else none

/-- The comment in which a remark is written, if one can hold it. -/
def remark? (text : List Char) : Option (List Document) :=
  let starts (c : Char) : Bool := text.head? == some c
  if !text.contains '\n' then some (lineComment "//" text)
  else if isCommentText text && !(starts '*' || starts '!') then some (blockComment "/*" text)
  else none

/-- The comment in which an attribute is written that is given a text. -/
def comment? (inner : Bool) (path : ModulePath) (value : Expr) : Option (List Document) :=
  match value with
  | .literal literal => do
    let text ← stringValue? literal
    if path == ⟨false, ["doc"]⟩ then documentation? inner text.toList
    else if path == ⟨false, ["comment"]⟩ then remark? text.toList
    else none
  | _ => none

/-- An attribute around its content. -/
def attributeFrame (inner : Bool) (content : List Document) : List Document :=
  [.text (if inner then "#![" else "#[")] ++ content ++ [.text "]", softSpace]

end FluentBuilder.Layout
