import FluentBuilder.Code.Lexer

/-!
# Values of literals

What a literal token stands for, as far as this library needs to know: the text of a string literal,
whether a number is an integer or a float, and the value of an integer.

* `stringValue?`: the text of a string literal, with escapes and line continuations resolved.
* `isNumber`, `isFloat`: the two kinds of numbers.
* `integerValue?`: the value of an integer without suffix.
* `isSimpleLiteral`: the literals that stand close together in a list.
-/

namespace FluentBuilder.Code

open FluentBuilder.Text

/-- The blanks that a line continuation swallows. -/
def dropContinuation : List Char → List Char
  | [] => []
  | c :: rest =>
    if c == ' ' || c == '\t' || c == '\n' || c == '\r' then dropContinuation rest else c :: rest

/-- The value of the characters between quotes, up to the closing quote.  A line end of two
characters counts as one line feed.  The fuel bounds the number of steps; the length of the input is
enough. -/
def quotedValue? : Nat → List Char → Option (List Char)
  | 0, _ => none
  | _ + 1, [] => none
  | fuel + 1, c :: rest =>
    if c == '"' then some []
    else if c == '\r' then
      match rest with
      | '\n' :: rest => (quotedValue? fuel rest).map ('\n' :: ·)
      | _ => none
    else if c == '\\' then
      match rest with
      | 'x' :: a :: b :: rest =>
        (quotedValue? fuel rest).map (Char.ofNat (hexValue a * 16 + hexValue b) :: ·)
      | 'u' :: rest =>
        match scanUnicodeEscape? rest with
        | some (value, rest) => (quotedValue? fuel rest).map (value :: ·)
        | none => none
      | 'n' :: rest => (quotedValue? fuel rest).map ('\n' :: ·)
      | 'r' :: rest => (quotedValue? fuel rest).map ('\r' :: ·)
      | 't' :: rest => (quotedValue? fuel rest).map ('\t' :: ·)
      | '0' :: rest => (quotedValue? fuel rest).map (Char.ofNat 0 :: ·)
      | '\n' :: rest => quotedValue? fuel (dropContinuation rest)
      | '\r' :: rest => quotedValue? fuel (dropContinuation rest)
      | e :: rest => (quotedValue? fuel rest).map (e :: ·)
      | [] => none
    else (quotedValue? fuel rest).map (c :: ·)

/-- The value of a raw string: the characters before the closing quote and its number signs. -/
def rawValue? (closing : List Char) : List Char → Option (List Char)
  | [] => none
  | c :: rest =>
    if c == '"' && startsWith closing rest then some []
    else (rawValue? closing rest).map (c :: ·)

/-- The text of a string literal; other literals have none. -/
def stringValue? (literal : String) : Option String :=
  match literal.toList with
  | '"' :: rest => (quotedValue? (rest.length + 1) rest).map String.ofList
  | 'r' :: rest => do
    let (signs, body) ← rawOpening? 0 rest
    (rawValue? (List.replicate signs '#') body).map String.ofList
  | _ => none

/-- Whether a literal is a number. -/
def isNumber (literal : String) : Bool :=
  match literal.toList with
  | c :: _ => isAsciiDigit c
  | [] => false

/-- Whether a literal is a float: a decimal number with a point or an exponent. -/
def isFloat (literal : String) : Bool :=
  isNumber literal && (scanFloatDigits? literal.toList).isSome

/-- The value of digits in the given base, read behind those that make up `value`; underscores do
not count. -/
def digitsValue? (base value : Nat) : List Char → Option Nat
  | [] => some value
  | c :: rest =>
    if c == '_' then digitsValue? base value rest
    else if isHexDigit c && decide (hexValue c < base) then
      digitsValue? base (value * base + hexValue c) rest
    else none

/-- The value of an integer without suffix, in whatever base it is written. -/
def integerValue? (literal : String) : Option Nat :=
  match literal.toList with
  | '0' :: 'x' :: digits => digitsValue? 16 0 digits
  | '0' :: 'o' :: digits => digitsValue? 8 0 digits
  | '0' :: 'b' :: digits => digitsValue? 2 0 digits
  | [] => none
  | digits => digitsValue? 10 0 digits

/-- Whether a literal is an integer, a character, a byte or a truth value. -/
def isSimpleLiteral (literal : String) : Bool :=
  match literal.toList with
  | '\'' :: _ => true
  | 'b' :: '\'' :: _ => true
  | _ => literal == "true" || literal == "false" || (isNumber literal && !isFloat literal)

end FluentBuilder.Code
