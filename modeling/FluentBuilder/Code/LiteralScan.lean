import FluentBuilder.Text.CharacterClass

/-!
# The extent of literals

Each scanner takes the characters at which a literal may start and answers with the characters
behind it, or with nothing when no literal of its kind stands there.  The spelling of a literal is
what lies between.

* `scanLiteral?`: the kinds in the order in which they are tried.
* `scanIdentifier?`: identifiers without a raw mark, which also serve as suffixes of literals.
-/

namespace FluentBuilder.Code

open FluentBuilder.Text

/-- The characters behind a fixed text, when the input starts with it. -/
def skip? : List Char → List Char → Option (List Char)
  | [], input => some input
  | _ :: _, [] => none
  | p :: ps, c :: input => if p == c then skip? ps input else none

/-- Whether the input starts with a fixed text. -/
def startsWith (start : List Char) (input : List Char) : Bool :=
  (skip? start input).isSome

/-- The end of the run of identifier characters at the head of the input. -/
def skipIdentifierRest : List Char → List Char
  | [] => []
  | c :: rest => if isIdentifierContinue c then skipIdentifierRest rest else c :: rest

/-- The characters behind an identifier without a raw mark. -/
def scanIdentifier? : List Char → Option (List Char)
  | [] => none
  | c :: rest => if isIdentifierStart c then some (skipIdentifierRest rest) else none

/-- The characters behind an optional suffix. -/
def skipSuffix (input : List Char) : List Char :=
  (scanIdentifier? input).getD input

/-- Whether an identifier character stands at the head of the input. -/
def continuesWord : List Char → Bool
  | [] => false
  | c :: _ => isIdentifierContinue c

/-! ### Escapes -/

/-- The body of a Unicode escape behind its opening brace: the code point and the characters behind
the closing brace.  One to six digits are allowed, and underscores behind the first of them. -/
def scanCodePoint? (value digits : Nat) : List Char → Option (Char × List Char)
  | [] => none
  | c :: rest =>
    if isHexDigit c then
      if digits == 6 then none else scanCodePoint? (value * 16 + hexValue c) (digits + 1) rest
    else if digits == 0 then none
    else if c == '_' then scanCodePoint? value digits rest
    else if c == '\x7d' then
      if h : value.isValidChar then some (Char.ofNatAux value h, rest) else none
    else none

/-- The rest of a Unicode escape behind its letter. -/
def scanUnicodeEscape? : List Char → Option (Char × List Char)
  | '\x7b' :: rest => scanCodePoint? 0 0 rest
  | _ => none

/-- A two-digit escape below 128. -/
def scanAsciiEscape? : List Char → Option (List Char)
  | a :: b :: rest => if '0' ≤ a && a ≤ '7' && isHexDigit b then some rest else none
  | _ => none

/-- A two-digit escape of any byte. -/
def scanByteEscape? : List Char → Option (List Char)
  | a :: b :: rest => if isHexDigit a && isHexDigit b then some rest else none
  | _ => none

/-- A two-digit escape of any byte but zero. -/
def scanNonzeroEscape? : List Char → Option (List Char)
  | a :: b :: rest =>
    if isHexDigit a && isHexDigit b && !(a == '0' && b == '0') then some rest else none
  | _ => none

/-- The characters behind the blanks that follow a backslash at the end of a line, of which `last`
was the first.  A carriage return has to be followed by a line feed, and the text may not end
here. -/
def skipLineContinuation? (last : Char) : List Char → Option (List Char)
  | [] => none
  | c :: rest =>
    if last == '\r' then
      if c == '\n' then skipLineContinuation? '\n' rest else none
    else if c == ' ' || c == '\t' || c == '\n' || c == '\r' then skipLineContinuation? c rest
    else some (c :: rest)

/-! ### Quoted literals -/

/-- What may stand inside a quoted literal. -/
structure QuotedForm where
  /-- Accepts a character that stands for itself. -/
  plain : Char → Bool
  /-- The letters that may follow a backslash on their own. -/
  letters : List Char
  /-- The two-digit escape. -/
  hexEscape : List Char → Option (List Char)
  /-- Whether Unicode escapes are allowed, and which of their values. -/
  unicode : Option (Char → Bool)

/-- Text strings. -/
def textForm : QuotedForm :=
  ⟨fun _ => true, ['n', 'r', 't', '\\', '\'', '"', '0'], scanAsciiEscape?, some fun _ => true⟩

/-- Byte strings. -/
def byteForm : QuotedForm :=
  ⟨fun c => decide (c.toNat < 128), ['n', 'r', 't', '\\', '0', '\'', '"'], scanByteEscape?, none⟩

/-- Strings that end in a zero byte and may not hold one. -/
def terminatedForm : QuotedForm :=
  ⟨fun c => c.toNat != 0, ['n', 'r', 't', '\\', '\'', '"'], scanNonzeroEscape?,
    some fun c => c.toNat != 0⟩

/-- The characters behind the closing quote of a quoted literal.  The fuel bounds the number of
steps; the length of the input is enough. -/
def scanQuoted? (form : QuotedForm) : Nat → List Char → Option (List Char)
  | 0, _ => none
  | _ + 1, [] => none
  | fuel + 1, c :: rest =>
    if c == '"' then some rest
    else if c == '\r' then
      match rest with
      | '\n' :: rest => scanQuoted? form fuel rest
      | _ => none
    else if c == '\\' then
      match rest with
      | [] => none
      | e :: rest =>
        if e == 'x' then form.hexEscape rest >>= scanQuoted? form fuel
        else if form.letters.contains e then scanQuoted? form fuel rest
        else if e == 'u' then
          match form.unicode, scanUnicodeEscape? rest with
          | some allowed, some (value, rest) =>
            if allowed value then scanQuoted? form fuel rest else none
          | _, _ => none
        else if e == '\n' || e == '\r' then skipLineContinuation? e rest >>= scanQuoted? form fuel
        else none
    else if form.plain c then scanQuoted? form fuel rest
    else none

/-- The number signs before the opening quote of a raw string, and the characters behind that
quote. -/
def rawOpening? (signs : Nat) : List Char → Option (Nat × List Char)
  | '#' :: rest => rawOpening? (signs + 1) rest
  | '"' :: rest => if signs ≤ 255 then some (signs, rest) else none
  | _ => none

/-- The characters behind the closing quote of a raw string. -/
def scanRawBody? (plain : Char → Bool) (closing : List Char) : List Char → Option (List Char)
  | [] => none
  | c :: rest =>
    if c == '"' && startsWith closing rest then skip? closing rest
    else if c == '\r' then
      match rest with
      | '\n' :: rest => scanRawBody? plain closing rest
      | _ => none
    else if plain c then scanRawBody? plain closing rest
    else none

/-- A raw string behind its letters. -/
def scanRaw? (plain : Char → Bool) (input : List Char) : Option (List Char) := do
  let (signs, rest) ← rawOpening? 0 input
  scanRawBody? plain (List.replicate signs '#') rest

/-- A string of the given form, quoted or raw, behind the letters that announce it. -/
def scanString? (form : QuotedForm) (mark : List Char) (input : List Char) : Option (List Char) :=
  match skip? (mark ++ ['"']) input with
  | some rest => (scanQuoted? form (rest.length + 1) rest).map skipSuffix
  | none => do
    let rest ← skip? (mark ++ ['r']) input
    (scanRaw? form.plain rest).map skipSuffix

/-- The single character of a character literal, behind the opening quote. -/
def scanCharBody? (hexEscape : List Char → Option (List Char)) (unicode : Bool) :
    List Char → Option (List Char)
  | [] => none
  | '\\' :: e :: rest =>
    if e == 'x' then hexEscape rest
    else if e == 'u' then
      if unicode then (scanUnicodeEscape? rest).map (·.2) else none
    else if ['n', 'r', 't', '\\', '0', '\'', '"'].contains e then some rest
    else none
  | '\\' :: [] => none
  | _ :: rest => some rest

/-- A character literal behind its opening quote. -/
def scanCharacter? (input : List Char) : Option (List Char) := do
  let rest ← scanCharBody? scanAsciiEscape? true input
  (skip? ['\''] rest).map skipSuffix

/-- A byte literal behind its opening quote. -/
def scanByte? (input : List Char) : Option (List Char) :=
  match input with
  | [] => none
  | c :: _ =>
    if 128 ≤ c.toNat then none
    else do
      let rest ← scanCharBody? scanByteEscape? false input
      (skip? ['\''] rest).map skipSuffix

/-! ### Numbers -/

/-- The suffix of a number, after which no identifier character may follow. -/
def endNumber? (input : List Char) : Option (List Char) :=
  let rest := skipSuffix input
  if continuesWord rest then none else some rest

/-- The decimal digits and underscores at the head of the input are skipped. -/
def skipDecimal : List Char → List Char
  | [] => []
  | c :: rest => if isAsciiDigit c || c == '_' then skipDecimal rest else c :: rest

/-- The exponent of a float behind its letter, `none` when it has no digit. -/
def scanExponent? (signed digits : Bool) : List Char → Option (List Char)
  | [] => if digits then some [] else none
  | c :: rest =>
    if c == '+' || c == '-' then
      if digits then some (c :: rest) else if signed then none else scanExponent? true digits rest
    else if isAsciiDigit c then scanExponent? signed true rest
    else if c == '_' then scanExponent? signed digits rest
    else if digits then some (c :: rest) else none

/-- The digits of a float: it has a point or an exponent, and behind the point stands neither
another point nor an identifier.  When the exponent has no digits, a float with a point ends before
its letter. -/
def scanFloatDigits? (input : List Char) : Option (List Char) :=
  match input with
  | [] => none
  | c :: _ =>
    if !isAsciiDigit c then none
    else
      match skipDecimal input with
      | '.' :: rest =>
        let blocked := match rest with
          | d :: _ => d == '.' || isIdentifierStart d
          | [] => false
        if blocked then none
        else
          match skipDecimal rest with
          | e :: after =>
            if e == 'e' || e == 'E' then some ((scanExponent? false false after).getD (e :: after))
            else some (e :: after)
          | [] => some []
      | e :: after => if e == 'e' || e == 'E' then scanExponent? false false after else none
      | [] => none

/-- A float with its suffix. -/
def scanFloat? (input : List Char) : Option (List Char) :=
  scanFloatDigits? input >>= endNumber?

/-- The digits of an integer of the given base.  A decimal digit that the base does not have makes
the number invalid; a letter that it does not have ends it. -/
def scanDigits? (base : Nat) (empty : Bool) : List Char → Option (List Char)
  | [] => if empty then none else some []
  | c :: rest =>
    if isAsciiDigit c then
      if base ≤ hexValue c then none else scanDigits? base false rest
    else if isHexDigit c then
      if base ≤ hexValue c then (if empty then none else some (c :: rest))
      else scanDigits? base false rest
    else if c == '_' then
      if empty && base == 10 then none else scanDigits? base empty rest
    else if empty then none
    else some (c :: rest)

/-- An integer with its suffix. -/
def scanInteger? (input : List Char) : Option (List Char) :=
  let digits :=
    match input with
    | '0' :: 'x' :: rest => scanDigits? 16 true rest
    | '0' :: 'o' :: rest => scanDigits? 8 true rest
    | '0' :: 'b' :: rest => scanDigits? 2 true rest
    | _ => scanDigits? 10 true input
  digits >>= endNumber?

/-! ### All literals -/

/-- The characters behind the literal at the head of the input. -/
def scanLiteral? (input : List Char) : Option (List Char) :=
  scanString? textForm [] input
    <|> scanString? byteForm ['b'] input
    <|> scanString? terminatedForm ['c'] input
    <|> (skip? ['b', '\''] input >>= scanByte?)
    <|> (skip? ['\''] input >>= scanCharacter?)
    <|> scanFloat? input
    <|> scanInteger? input

end FluentBuilder.Code
