import FluentBuilder.Data.Decimal
import FluentBuilder.Data.Value

/-!
# Scalars of TOML

Numbers, truth values and points in time, each given by the characters it is written with.

* `scalar?`: the value of a scalar.
* `isMoment`: whether characters spell a date, a time or both.
-/

namespace FluentBuilder.Data

open FluentBuilder.Text

/-! ### Numbers -/

/-- Whether characters are digits with single underscores between them. -/
def isDigitRun (digit : Char → Bool) : List Char → Bool
  | [] => false
  | [c] => digit c
  | c :: '_' :: rest => digit c && isDigitRun digit rest
  | c :: rest => digit c && isDigitRun digit rest

/-- Whether characters are decimal digits without a needless zero in front. -/
def isWholeNumber (cs : List Char) : Bool :=
  isDigitRun isAsciiDigit cs && (cs.length == 1 || cs.head? != some '0')

/-- Characters without a sign in front. -/
def unsigned : List Char → List Char
  | '+' :: rest => rest
  | '-' :: rest => rest
  | cs => cs

/-- The number that digits of a base spell; other characters do not count. -/
def digitsIn (base : Nat) (cs : List Char) : Nat :=
  (cs.filter isHexDigit).foldl (fun n c => n * base + hexValue c) 0

/-- The integer that characters spell. -/
def integer? (cs : List Char) : Option Int :=
  let inBase (base : Nat) (digit : Char → Bool) (digits : List Char) : Option Int :=
    if isDigitRun digit digits then some (digitsIn base digits) else none
  match cs with
  | '0' :: 'x' :: rest => inBase 16 isHexDigit rest
  | '0' :: 'o' :: rest => inBase 8 (fun c => '0' ≤ c && c ≤ '7') rest
  | '0' :: 'b' :: rest => inBase 2 (fun c => c == '0' || c == '1') rest
  | _ =>
    let size : Int := digitsIn 10 cs
    if isWholeNumber (unsigned cs) then some (if cs.head? == some '-' then -size else size)
    else none

/-- Whether an integer takes no more than the given bits, one of them for the sign if it is
negative. -/
def fitsIn (bits : Nat) (n : Int) : Bool :=
  -(Nat.pow 2 (bits - 1) : Int) ≤ n && n < (Nat.pow 2 bits : Int)

/-- An integer as a value. -/
def integerValue (literal : String) (n : Int) : Value :=
  if fitsIn 64 n then .number literal
  else if fitsIn 128 n then .wide literal
  else .unreadable

/-- The parts of a float in front of the exponent mark and behind it. -/
def splitExponent (cs : List Char) : List Char × Option (List Char) :=
  let isMark := fun c : Char => c == 'e' || c == 'E'
  match cs.dropWhile fun c => !isMark c with
  | [] => (cs, none)
  | _ :: rest => (cs.takeWhile fun c => !isMark c, some rest)

/-- The parts of a number in front of the point and behind it. -/
def splitPoint (cs : List Char) : List Char × Option (List Char) :=
  match cs.dropWhile (· != '.') with
  | [] => (cs, none)
  | _ :: rest => (cs.takeWhile (· != '.'), some rest)

/-- The decimal number that characters spell as a float, without its sign. -/
def floatDecimal? (cs : List Char) : Option Decimal :=
  let (mantissa, exponent) := splitExponent (unsigned cs)
  let (whole, fraction) := splitPoint mantissa
  let fractionOk := fraction.all (isDigitRun isAsciiDigit)
  let exponentOk := exponent.all fun e => isDigitRun isAsciiDigit (unsigned e)
  if isWholeNumber whole && fractionOk && exponentOk && (fraction.isSome || exponent.isSome) then
    let digits (s : List Char) : List Char := s.filter isAsciiDigit
    let size : Int := match exponent with
      | some ('-' :: e) => -(digitsValue (digits e) : Int)
      | some e => digitsValue (digits e)
      | none => 0
    some ⟨digits whole, digits (fraction.getD []), size⟩
  else none

/-! ### Points in time -/

/-- The number that two digits spell, if it is within bounds. -/
def twoDigits? (low high : Nat) : List Char → Option (Nat × List Char)
  | a :: b :: rest =>
    if isAsciiDigit a && isAsciiDigit b then
      let n := digitsValue [a, b]
      if low ≤ n && n ≤ high then some (n, rest) else none
    else none
  | _ => none

/-- The input behind a character, if it starts with it. -/
def behind? (c : Char) : List Char → Option (List Char)
  | d :: rest => if c == d then some rest else none
  | [] => none

/-- The number of days of a month. -/
def daysOf (year month : Nat) : Nat :=
  if month == 2 then
    if year % 4 == 0 && (year % 100 != 0 || year % 400 == 0) then 29 else 28
  else if [4, 6, 9, 11].contains month then 30 else 31

/-- The input behind a date. -/
def behindDate? (cs : List Char) : Option (List Char) := do
  let year := cs.take 4
  if year.length != 4 || !year.all isAsciiDigit then none
  let rest ← behind? '-' (cs.drop 4)
  let (month, rest) ← twoDigits? 1 12 rest
  let rest ← behind? '-' rest
  let (_, rest) ← twoDigits? 1 (daysOf (digitsValue year) month) rest
  return rest

/-- The input behind the fraction of a second. -/
def behindFraction? : List Char → Option (List Char)
  | '.' :: rest =>
    match splitDigits rest with
    | ([], _) => none
    | (_, rest) => some rest
  | cs => some cs

/-- The input behind a time of day; the seconds may be left out. -/
def behindTime? (cs : List Char) : Option (List Char) := do
  let (_, rest) ← twoDigits? 0 23 cs
  let rest ← behind? ':' rest
  let (_, rest) ← twoDigits? 0 59 rest
  match rest with
  | ':' :: rest =>
    let (_, rest) ← twoDigits? 0 60 rest
    behindFraction? rest
  | _ => return rest

/-- Whether characters are nothing or the distance from universal time. -/
def isOffset (cs : List Char) : Bool :=
  match cs with
  | [] => true
  | [c] => c == 'Z' || c == 'z'
  | c :: rest =>
    (c == '+' || c == '-') &&
      (do
        let (_, rest) ← twoDigits? 0 23 rest
        let rest ← behind? ':' rest
        twoDigits? 0 59 rest : Option (Nat × List Char)).any (·.2.isEmpty)

/-- Whether characters spell a date, a time or both. -/
def isMoment (cs : List Char) : Bool :=
  match behindDate? cs with
  | some [] => true
  | some (c :: rest) => (c == 'T' || c == 't' || c == ' ') && (behindTime? rest).any isOffset
  | none => (behindTime? cs).any List.isEmpty

/-! ### Scalars -/

/-- The value of a scalar.  A point in time is a table with an entry that no reader of tables
knows. -/
def scalar? (cs : List Char) : Option Value :=
  let literal := String.ofList cs
  if literal == "true" then some (.bool true)
  else if literal == "false" then some (.bool false)
  else if ["inf", "nan"].contains (String.ofList (unsigned cs)) then some (.number literal)
  else if isMoment cs then some (.table [("moment:", .text literal)])
  else
    match integer? cs, floatDecimal? cs with
    | some n, _ => some (integerValue literal n)
    | none, some d => some (if d.isFinite then .number literal else .unreadable)
    | none, none => none

end FluentBuilder.Data
