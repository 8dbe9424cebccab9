import FluentBuilder.Code.Token
import FluentBuilder.Code.LiteralScan
import FluentBuilder.Text.Quoted

/-!
# Reading tokens

A source text becomes a list of lexemes, and the lexemes become token trees.  Blanks and comments
separate tokens and vanish; a documentation comment stands for the attribute that it abbreviates.

* `lexemes?`: the flat list of lexemes, with opening and closing delimiters among them.
* `assemble?`: the trees of a balanced list of lexemes.
* `tokens?`: both steps, behind an optional byte order mark.
-/

namespace FluentBuilder.Code

open FluentBuilder.Text

/-- A lexeme: a whole tree, or one end of a group. -/
inductive Lexeme where
  | tree (tree : TokenTree)
  | opening (delimiter : Delimiter)
  | closing (delimiter : Delimiter)
  deriving Repr, Inhabited

/-! ### Comments and blanks -/

/-- The text up to the end of the line, and the characters from that line feed on. -/
def splitLine : List Char → List Char × List Char
  | [] => ([], [])
  | '\n' :: rest => ([], '\n' :: rest)
  | '\r' :: '\n' :: rest => ([], '\n' :: rest)
  | c :: rest =>
    let (line, rest) := splitLine rest
    (c :: line, rest)

/-- The inside of a block comment whose opening mark has been read, without the last closing mark,
and the characters behind that mark.  Comments nest; `depth` counts the enclosing ones. -/
def splitComment? (depth : Nat) : List Char → Option (List Char × List Char)
  | [] => none
  | '/' :: '*' :: rest => (splitComment? (depth + 1) rest).map fun r => ('/' :: '*' :: r.1, r.2)
  | '*' :: '/' :: rest =>
    match depth with
    | 0 => some ([], rest)
    | depth + 1 => (splitComment? depth rest).map fun r => ('*' :: '/' :: r.1, r.2)
  | c :: rest => (splitComment? depth rest).map fun r => (c :: r.1, r.2)

/-- Whether a line comment that is not documentation starts here. -/
def startsLineComment (input : List Char) : Bool :=
  startsWith ['/', '/'] input && !startsWith ['/', '/', '!'] input
    && (!startsWith ['/', '/', '/'] input || startsWith ['/', '/', '/', '/'] input)

/-- Whether a block comment that is not documentation starts here. -/
def startsBlockComment (input : List Char) : Bool :=
  startsWith ['/', '*'] input && !startsWith ['/', '*', '!'] input
    && (!startsWith ['/', '*', '*'] input || startsWith ['/', '*', '*', '*'] input
      || startsWith ['/', '*', '*', '/'] input)

/-- The characters behind blanks and comments.  The fuel bounds the number of steps; the length of
the input is enough.  A block comment without an end is left in place. -/
def skipBlanks : Nat → List Char → List Char
  | 0, input => input
  | _ + 1, [] => []
  | fuel + 1, c :: rest =>
    if startsLineComment (c :: rest) then skipBlanks fuel (splitLine (c :: rest)).2
    else if startsBlockComment (c :: rest) then
      match splitComment? 0 (rest.drop 1) with
      | some (_, rest) => skipBlanks fuel rest
      | none => c :: rest
    else if isBlank c then skipBlanks fuel rest
    else c :: rest

/-! ### Documentation -/

/-- Whether every carriage return is followed by a line feed. -/
def hasNoLoneReturn : List Char → Bool
  | [] => true
  | '\r' :: '\n' :: rest => hasNoLoneReturn rest
  | c :: rest => c != '\r' && hasNoLoneReturn rest

/-- The literal of a text: quotes, backslashes, controls and unprintable characters are escaped, and
single quotes stand for themselves. -/
def textLiteral (text : List Char) : String :=
  String.ofList ('"' :: escape text ++ ['"'])
where
  /-- The escaped characters of the text. -/
  escape : List Char → List Char
    | [] => []
    | c :: rest =>
      if c.toNat == 0 then
        match rest with
        | d :: _ =>
          if '0' ≤ d && d ≤ '7' then ['\\', 'x', '0', '0'] ++ escape rest
          else ['\\', '0'] ++ escape rest
        | [] => ['\\', '0']
      else escapedChar c ++ escape rest

/-- The attribute that a documentation comment stands for. -/
def documentation (inner : Bool) (text : List Char) : List TokenTree :=
  punctuation "#" ++ (if inner then punctuation "!" else [])
    ++ [.group .bracket (word "doc" :: punctuation "=" ++ [.leaf (.literal (textLiteral text))])]

/-- The documentation comment at the head of the input: whether it belongs to the enclosing item,
its text, and the characters behind it. -/
def splitDocumentation? (input : List Char) : Option (Bool × List Char × List Char) := do
  let (inner, text, rest) ←
    match input with
    | '/' :: '/' :: '!' :: rest =>
      let (text, rest) := splitLine rest
      some (true, text, rest)
    | '/' :: '*' :: '!' :: rest => do
      let (text, rest) ← splitComment? 0 rest
      some (true, text, rest)
    | '/' :: '/' :: '/' :: rest =>
      if startsWith ['/'] rest then none
      else
        let (text, rest) := splitLine rest
        some (false, text, rest)
    | '/' :: '*' :: '*' :: rest =>
      if startsWith ['*'] rest || startsWith ['/'] rest then none
      else do
        let (text, rest) ← splitComment? 0 rest
        some (false, text, rest)
    | _ => none
  if hasNoLoneReturn text then some (inner, text, rest) else none

/-! ### Single lexemes -/

/-- The characters that can be punctuation. -/
def punctuationChars : List Char :=
  "~!@#$%^&*-=+|;:,<.>/?'".toList

/-- Whether punctuation stands at the head of the input; the slash of a comment is none. -/
def startsPunctuation (input : List Char) : Bool :=
  match input with
  | [] => false
  | c :: _ =>
    punctuationChars.contains c && !startsWith ['/', '/'] input && !startsWith ['/', '*'] input

/-- The characters of the input before its remainder `rest`. -/
def spelling (input rest : List Char) : String :=
  String.ofList (input.take (input.length - rest.length))

/-- An identifier, raw or not.  A raw identifier is not one of the words that may not be raw. -/
def splitIdentifier? (input : List Char) : Option (String × List Char) :=
  match input with
  | 'r' :: '#' :: raw => do
    let rest ← scanIdentifier? raw
    let name := spelling raw rest
    if ["_", "super", "self", "Self", "crate"].contains name then none
    else some ("r#" ++ name, rest)
  | _ => do
    let rest ← scanIdentifier? input
    some (spelling input rest, rest)

/-- The openings of literals that an identifier may not start with. -/
def literalOpenings : List (List Char) :=
  [['r', '"'], ['r', '#', '"'], ['r', '#', '#'], ['b', '"'], ['b', '\''], ['b', 'r', '"'],
    ['b', 'r', '#'], ['c', '"'], ['c', 'r', '"'], ['c', 'r', '#']]

/-- The identifier behind the quote of a lifetime, which no quote closes. -/
def splitLifetime? (input : List Char) : Option (String × List Char) := do
  let (name, rest) ← splitIdentifier? input
  if startsWith ['\''] rest || (startsWith ['#'] rest && !startsWith ['r', '#'] input) then none
  else some (name, rest)

/-- An identifier in a place where a literal would have been read if there were one. -/
def splitWord? (input : List Char) : Option (String × List Char) :=
  if literalOpenings.any fun opening => startsWith opening input then none
  else splitIdentifier? input

/-- What a quote starts that opens no character: a lifetime.  Where a literal follows whose first
letters could be the name of a lifetime, the quote stands by itself, joint to the literal. -/
def splitQuote? (input : List Char) : Option (Token × List Char) := do
  let _ ← splitLifetime? input
  if (scanLiteral? input).isSome then some (.punct '\'' true, input)
  else
    let (name, rest) ← splitWord? input
    some (.lifetime name, rest)

/-- A literal, a lifetime, punctuation or an identifier, tried in this order. -/
def splitLeaf? (input : List Char) : Option (Token × List Char) :=
  match scanLiteral? input with
  | some rest => some (.literal (spelling input rest), rest)
  | none =>
    match input with
    | [] => none
    | c :: rest =>
      if startsPunctuation input then
        if c == '\'' then splitQuote? rest
        else some (.punct c (startsPunctuation rest), rest)
      else (splitWord? input).map fun r => (.ident r.1, r.2)

/-- The lexemes at the head of an input without leading blanks, and the characters behind them. -/
def splitLexeme? (input : List Char) : Option (List Lexeme × List Char) :=
  match splitDocumentation? input with
  | some (inner, text, rest) => some ((documentation inner text).map .tree, rest)
  | none =>
    match input with
    | '(' :: rest => some ([.opening .paren], rest)
    | '[' :: rest => some ([.opening .bracket], rest)
    | '\x7b' :: rest => some ([.opening .brace], rest)
    | ')' :: rest => some ([.closing .paren], rest)
    | ']' :: rest => some ([.closing .bracket], rest)
    | '\x7d' :: rest => some ([.closing .brace], rest)
    | _ => (splitLeaf? input).map fun r => ([.tree (.leaf r.1)], r.2)

/-- The lexemes of a text.  The fuel bounds the number of steps; one more than the length is
enough. -/
def lexemesWith? : Nat → List Char → Option (List Lexeme)
  | 0, _ => none
  | fuel + 1, input =>
    match skipBlanks (fuel + 1) input with
    | [] => some []
    | c :: rest => do
      let (here, rest) ← splitLexeme? (c :: rest)
      let others ← lexemesWith? fuel rest
      some (here ++ others)

/-- The lexemes of a text. -/
def lexemes? (input : List Char) : Option (List Lexeme) :=
  lexemesWith? (input.length + 1) input

/-! ### Trees -/

/-- The trees of a list of lexemes. `done` holds the trees of the open group in reverse, and `open`
the enclosing groups from the inside out, each with the reversed trees before it. -/
def assembleWith? (done : List TokenTree) (enclosing : List (Delimiter × List TokenTree)) :
    List Lexeme → Option (List TokenTree)
  | [] => if enclosing.isEmpty then some done.reverse else none
  | .tree tree :: rest => assembleWith? (tree :: done) enclosing rest
  | .opening delimiter :: rest => assembleWith? [] ((delimiter, done) :: enclosing) rest
  | .closing delimiter :: rest =>
    match enclosing with
    | [] => none
    | (expected, before) :: enclosing =>
      if delimiter == expected then
        assembleWith? (.group delimiter done.reverse :: before) enclosing rest
      else none

/-- The trees of a balanced list of lexemes. -/
def assemble? (lexemes : List Lexeme) : Option (List TokenTree) :=
  assembleWith? [] [] lexemes

/-- The input behind a byte order mark, if it starts with one. -/
def dropByteOrderMark : List Char → List Char
  | [] => []
  | c :: rest => if c.toNat == 0xFEFF then rest else c :: rest

/-- The token trees of a source text. -/
def tokens? (source : List Char) : Option (List TokenTree) :=
  lexemes? (dropByteOrderMark source) >>= assemble?

end FluentBuilder.Code
