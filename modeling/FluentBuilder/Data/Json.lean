import FluentBuilder.Data.Decimal
import FluentBuilder.Data.Value

/-!
# JSON

Reading is strict: one value, no byte order mark, no trailing text.  What is well-formed but has no
meaning is read as an unreadable value: a number beyond the range of floats, half of a surrogate
pair, and what is nested deeper than the limit.  Numbers are read by parts: the leading digits and
the power of ten are floats whose product may be infinite where the number itself is not.

* `Value.readJson?`: the value of a text.
* `Value.prettyJson`: a value with an entry to a line.
-/

namespace FluentBuilder.Data

open FluentBuilder.Text

/-! ### Numbers -/

/-- The digits behind the point of a number, if there is one. -/
def scanFraction? : List Char → Option (List Char × List Char)
  | '.' :: rest =>
    match splitDigits rest with
    | ([], _) => none
    | r => some r
  | input => some ([], input)

/-- The exponent of a number. -/
def scanExponent? (input : List Char) : Option (Int × List Char) :=
  let digits (negative : Bool) (s : List Char) : Option (Int × List Char) :=
    match splitDigits s with
    | ([], _) => none
    | (ds, rest) => some (if negative then -(digitsValue ds : Int) else digitsValue ds, rest)
  match input with
  | c :: rest =>
    if c == 'e' || c == 'E' then
      match rest with
      | '+' :: rest => digits false rest
      | '-' :: rest => digits true rest
      | rest => digits false rest
    else some (0, input)
  | [] => some (0, [])

/-- A number at the head of the input, without its sign. -/
def scanDecimal? (input : List Char) : Option (Decimal × List Char) := do
  let (whole, rest) := splitDigits input
  match whole with
  | [] => none
  | '0' :: _ :: _ => none
  | _ =>
    let (fraction, rest) ← scanFraction? rest
    let (exponent, rest) ← scanExponent? rest
    return (⟨whole, fraction, exponent⟩, rest)

/-- A number at the head of the input. -/
def readNumber? (input : List Char) : Option (Value × List Char) := do
  let unsigned := match input with
    | '-' :: rest => rest
    | _ => input
  let (decimal, rest) ← scanDecimal? unsigned
  let literal := String.ofList (input.take (input.length - rest.length))
  return (if decimal.isFiniteByParts then .number literal else .unreadable, rest)

/-! ### Texts -/

/-- The value of four hexadecimal digits. -/
def hexQuad? : List Char → Option (Nat × List Char)
  | a :: b :: c :: d :: rest =>
    if [a, b, c, d].all isHexDigit then
      some (((hexValue a * 16 + hexValue b) * 16 + hexValue c) * 16 + hexValue d, rest)
    else none
  | _ => none

/-- The second half of a surrogate pair at the head of the input. -/
def lowSurrogate? : List Char → Option (Nat × List Char)
  | '\\' :: 'u' :: rest =>
    match hexQuad? rest with
    | some (n, rest) => if 0xDC00 ≤ n && n ≤ 0xDFFF then some (n, rest) else none
    | none => none
  | _ => none

/-- The character of an escape behind its backslash; `none` inside for half of a surrogate pair. -/
def readEscape? : List Char → Option (Option Char × List Char)
  | '"' :: rest => some ('"', rest)
  | '\\' :: rest => some ('\\', rest)
  | '/' :: rest => some ('/', rest)
  | 'b' :: rest => some (Char.ofNat 8, rest)
  | 'f' :: rest => some (Char.ofNat 12, rest)
  | 'n' :: rest => some ('\n', rest)
  | 'r' :: rest => some ('\r', rest)
  | 't' :: rest => some ('\t', rest)
  | 'u' :: rest =>
    match hexQuad? rest with
    | none => none
    | some (n, rest) =>
      if 0xD800 ≤ n && n ≤ 0xDBFF then
        match lowSurrogate? rest with
        | some (low, rest) =>
          some (some (Char.ofNat (0x10000 + (n - 0xD800) * 0x400 + (low - 0xDC00))), rest)
        | none => some (none, rest)
      else if 0xDC00 ≤ n && n ≤ 0xDFFF then some (none, rest)
      else some (some (Char.ofNat n), rest)
  | _ => none

/-- The characters up to the closing quote, `none` inside when some of them have no meaning.  The
fuel bounds the number of characters. -/
def readTextWith? : Nat → List Char → Option (Option (List Char) × List Char)
  | 0, _ => none
  | _ + 1, [] => none
  | fuel + 1, c :: rest =>
    if c == '"' then some (some [], rest)
    else if c == '\\' then do
      let (here, rest) ← readEscape? rest
      let (others, rest) ← readTextWith? fuel rest
      return (do return (← here) :: (← others), rest)
    else if c.toNat < 0x20 then none
    else do
      let (others, rest) ← readTextWith? fuel rest
      return (others.map (c :: ·), rest)

/-- The text behind an opening quote. -/
def readText? (input : List Char) : Option (Option String × List Char) :=
  (readTextWith? (input.length + 1) input).map fun r => (r.1.map String.ofList, r.2)

/-! ### Values -/

/-- The input without blanks in front. -/
def skipJsonBlanks (input : List Char) : List Char :=
  input.dropWhile fun c => c == ' ' || c == '\n' || c == '\t' || c == '\r'

/-- The input behind a word, if it starts with it. -/
def behindWord? (word : String) (input : List Char) : Option (List Char) :=
  if word.toList.isPrefixOf input then some (input.drop word.length) else none

/-- The depth of nesting up to which values are read. -/
def jsonDepth : Nat := 127

/-- A value of the given depth, unless that is beyond the limit. -/
def limited (depth : Nat) (v : Value) : Value :=
  if depth ≤ jsonDepth then v else .unreadable

/-- The entries of a table; `none` inside when a key has no meaning. -/
def tableOf : List (Option String × Value) → Option (List (String × Value))
  | [] => some []
  | (key, v) :: rest => do return (← key, v) :: (← tableOf rest)

mutual
/-- A value at the head of the input, inside `depth` others.  The fuel bounds the number of
steps. -/
def readValueWith? (depth : Nat) : Nat → List Char → Option (Value × List Char)
  | 0, _ => none
  | fuel + 1, input =>
    match skipJsonBlanks input with
    | '"' :: rest => (readText? rest).map fun r => ((r.1.map Value.text).getD .unreadable, r.2)
    | '[' :: rest =>
      match skipJsonBlanks rest with
      | ']' :: rest => some (limited (depth + 1) (.list []), rest)
      | _ =>
        (readItemsWith? (depth + 1) fuel rest).map fun r => (limited (depth + 1) (.list r.1), r.2)
    | '\x7b' :: rest =>
      match skipJsonBlanks rest with
      | '\x7d' :: rest => some (limited (depth + 1) (.table []), rest)
      | _ =>
        (readEntriesWith? (depth + 1) fuel rest).map fun r =>
          (limited (depth + 1) (((tableOf r.1).map Value.table).getD .unreadable), r.2)
    | input =>
      match behindWord? "true" input, behindWord? "false" input, behindWord? "null" input with
      | some rest, _, _ => some (.bool true, rest)
      | _, some rest, _ => some (.bool false, rest)
      | _, _, some rest => some (.null, rest)
      | none, none, none => readNumber? input

/-- The items of a list up to its closing bracket. -/
def readItemsWith? (depth : Nat) : Nat → List Char → Option (List Value × List Char)
  | 0, _ => none
  | fuel + 1, input => do
    let (v, rest) ← readValueWith? depth fuel input
    match skipJsonBlanks rest with
    | ',' :: rest =>
      let (others, rest) ← readItemsWith? depth fuel rest
      return (v :: others, rest)
    | ']' :: rest => return ([v], rest)
    | _ => none

/-- The entries of a table up to its closing brace. -/
def readEntriesWith? (depth : Nat) :
    Nat → List Char → Option (List (Option String × Value) × List Char)
  | 0, _ => none
  | fuel + 1, input => do
    match skipJsonBlanks input with
    | '"' :: rest =>
      let (key, rest) ← readText? rest
      match skipJsonBlanks rest with
      | ':' :: rest =>
        let (v, rest) ← readValueWith? depth fuel rest
        match skipJsonBlanks rest with
        | ',' :: rest =>
          let (others, rest) ← readEntriesWith? depth fuel rest
          return ((key, v) :: others, rest)
        | '\x7d' :: rest => return ([(key, v)], rest)
        | _ => none
      | _ => none
    | _ => none
end

/-- The value of a text. -/
def Value.readJson? (text : String) : Option Value := do
  let input := text.toList
  let (v, rest) ← readValueWith? 0 (2 * input.length + 2) input
  if (skipJsonBlanks rest).isEmpty then some v else none

/-! ### Writing -/

/-- A digit in base sixteen. -/
def hexDigit (n : Nat) : Char :=
  if n < 10 then Char.ofNat ('0'.toNat + n) else Char.ofNat ('a'.toNat + (n - 10))

/-- The escaped form of a character inside a text. -/
def jsonEscape (c : Char) : List Char :=
  if c == '"' || c == '\\' then ['\\', c]
  else if c == '\n' then ['\\', 'n']
  else if c == '\r' then ['\\', 'r']
  else if c == '\t' then ['\\', 't']
  else if c.toNat == 8 then ['\\', 'b']
  else if c.toNat == 12 then ['\\', 'f']
  else if c.toNat < 0x20 then
    ['\\', 'u', '0', '0', hexDigit (c.toNat / 16), hexDigit (c.toNat % 16)]
  else [c]

/-- A text between quotes. -/
def jsonText (s : String) : String :=
  String.ofList ('"' :: s.toList.flatMap jsonEscape ++ ['"'])

/-- The line break in front of an entry of the given depth. -/
def jsonBreak (depth : Nat) : String :=
  String.ofList ('\n' :: List.replicate (2 * depth) ' ')

mutual
/-- A value with an entry to a line, indented two spaces to a level. -/
def Value.prettyJson (depth : Nat) : Value → String
  | .null => "null"
  | .bool b => if b then "true" else "false"
  | .number literal => literal
  | .wide literal => literal
  | .text s => jsonText s
  | .list [] => "[]"
  | .list items => "[" ++ prettyItems (depth + 1) items ++ jsonBreak depth ++ "]"
  | .table [] => "\x7b\x7d"
  | .table entries => "\x7b" ++ prettyEntries (depth + 1) entries ++ jsonBreak depth ++ "\x7d"
  | .unreadable => "null"

/-- The items of a list, each on a line. -/
def prettyItems (depth : Nat) : List Value → String
  | [] => ""
  | [v] => jsonBreak depth ++ v.prettyJson depth
  | v :: rest => jsonBreak depth ++ v.prettyJson depth ++ "," ++ prettyItems depth rest

/-- The entries of a table, each on a line. -/
def prettyEntries (depth : Nat) : List (String × Value) → String
  | [] => ""
  | [(key, v)] => jsonBreak depth ++ jsonText key ++ ": " ++ v.prettyJson depth
  | (key, v) :: rest =>
    jsonBreak depth ++ jsonText key ++ ": " ++ v.prettyJson depth ++ "," ++ prettyEntries depth rest
end

end FluentBuilder.Data
