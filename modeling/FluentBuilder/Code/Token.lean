/-!
# Tokens of source text

A source text is a list of token trees: single tokens, and groups between matching delimiters.  A
punctuation token is one character that records whether another one follows directly, so an operator
of several characters is a run of joint punctuation.

* `TokenTree.text`, `tokensText`: the one-line text of tokens.  Tokens are separated by one space,
  except behind joint punctuation and just inside round and square brackets.
* `punctuation`: the tokens of an operator.
-/

namespace FluentBuilder.Code

/-- The three kinds of brackets that enclose a group. -/
inductive Delimiter where
  | paren
  | bracket
  | brace
  deriving Repr, DecidableEq, Inhabited

/-- A token without inner structure. -/
inductive Token where
  /-- An identifier or keyword; a raw identifier keeps its mark. -/
  | ident (name : String)
  /-- One punctuation character, `joint` when more punctuation follows directly. -/
  | punct (char : Char) (joint : Bool)
  /-- A literal in the spelling of the source. -/
  | literal (text : String)
  /-- A lifetime, without its quote. -/
  | lifetime (name : String)
  deriving Repr, DecidableEq, Inhabited

/-- A token, or a group of trees between delimiters. -/
inductive TokenTree where
  | leaf (token : Token)
  | group (delimiter : Delimiter) (inner : List TokenTree)
  deriving Repr, Inhabited

/-- A sequence of token trees. -/
abbrev Tokens := List TokenTree

/-- The text of a single token. -/
def Token.text : Token → String
  | .ident name => name
  | .punct char _ => String.ofList [char]
  | .literal text => text
  | .lifetime name => String.ofList ('\'' :: name.toList)

/-- Whether the next token follows without a space. -/
def TokenTree.isJoint : TokenTree → Bool
  | .leaf (.punct _ joint) => joint
  | _ => false

mutual
/-- The text of a token tree on one line. -/
def TokenTree.text : TokenTree → String
  | .leaf token => token.text
  | .group .paren inner => "(" ++ tokensText inner ++ ")"
  | .group .bracket inner => "[" ++ tokensText inner ++ "]"
  | .group .brace [] => "\x7b \x7d"
  | .group .brace inner => "\x7b " ++ tokensText inner ++ " \x7d"

/-- The text of a sequence of token trees on one line. -/
def tokensText : List TokenTree → String
  | [] => ""
  | [tree] => tree.text
  | tree :: next :: rest =>
    tree.text ++ (if tree.isJoint then "" else " ") ++ tokensText (next :: rest)
end

mutual
/-- Equality of token trees. -/
def TokenTree.beq : TokenTree → TokenTree → Bool
  | .leaf a, .leaf b => a == b
  | .group d as, .group e bs => d == e && TokenTree.beqList as bs
  | _, _ => false

/-- Equality of sequences of token trees. -/
def TokenTree.beqList : List TokenTree → List TokenTree → Bool
  | [], [] => true
  | a :: as, b :: bs => a.beq b && TokenTree.beqList as bs
  | _, _ => false
end

instance : BEq TokenTree where
  beq := TokenTree.beq

/-- An identifier or keyword as a token tree. -/
def word (name : String) : TokenTree :=
  .leaf (.ident name)

/-- The tokens of an operator: every character but the last is joint to the next. -/
def punctuationOf : List Char → Tokens
  | [] => []
  | [c] => [.leaf (.punct c false)]
  | c :: d :: rest => .leaf (.punct c true) :: punctuationOf (d :: rest)

/-- The tokens of an operator. -/
def punctuation (operator : String) : Tokens :=
  punctuationOf operator.toList

/-- Whether a token tree is a group in braces. -/
def TokenTree.isBraceGroup : TokenTree → Bool
  | .group .brace _ => true
  | _ => false

/-- What stands between the delimiters of a group. -/
def TokenTree.inner : TokenTree → Tokens
  | .group _ inner => inner
  | .leaf _ => []

end FluentBuilder.Code
