import FluentBuilder.Text.CharacterClass

/-!
# Decimal numbers

Numbers as they are written, by digits and a power of ten, and whether floats of double precision
reach them.  All arithmetic is exact.

* `Decimal.isFinite`: whether the nearest float is finite.
* `roundHalfEven`: a whole number cut to a count of bits.
* `Decimal.isFiniteByParts`: whether the float is finite that is made of the leading digits and a
  power of ten, both rounded by themselves.
-/

namespace FluentBuilder.Data

open FluentBuilder.Text

/-- The digits at the head of the input. -/
def splitDigits (input : List Char) : List Char × List Char :=
  (input.takeWhile isAsciiDigit, input.dropWhile isAsciiDigit)

/-- The value of a decimal digit. -/
def digitValue (c : Char) : Nat :=
  c.toNat - '0'.toNat

/-- The number that digits spell. -/
def digitsValue (digits : List Char) : Nat :=
  digits.foldl (fun n c => n * 10 + digitValue c) 0

/-- A decimal number: its digits in front of the point and behind it, and a power of ten. -/
structure Decimal where
  whole : List Char
  fraction : List Char
  exponent : Int

/-- The least number that is nearer to infinity than to the largest float of double precision. -/
def floatLimit : Nat :=
  Nat.pow 2 1024 - Nat.pow 2 970

/-- Whether a decimal number is within the range of floats of double precision, when it is rounded
to nearest. -/
def Decimal.isFinite (d : Decimal) : Bool :=
  let digits := (d.whole ++ d.fraction).dropWhile (· == '0')
  let exponent := d.exponent - d.fraction.length
  let magnitude : Int := digits.length + exponent
  if digits.isEmpty || magnitude < 309 then true
  else if 309 < magnitude then false
  else if 0 ≤ exponent then digitsValue digits * Nat.pow 10 exponent.toNat < floatLimit
  else digitsValue digits < floatLimit * Nat.pow 10 (-exponent).toNat

/-! ### Parts -/

/-- The multiple of a power of two nearest to a number that has `bits` significant bits; of two such
multiples the even one. -/
def roundHalfEven (bits n : Nat) : Nat :=
  if n < Nat.pow 2 bits then n
  else
    let unit := Nat.pow 2 (n.log2 + 1 - bits)
    let quotient := n / unit
    let remainder := n % unit
    if unit < 2 * remainder || (unit == 2 * remainder && quotient % 2 == 1) then
      (quotient + 1) * unit
    else quotient * unit

/-- The bits of the significand of a float of double precision. -/
def significandBits : Nat := 53

/-- The largest number of 64 bits. -/
def maxWord : Nat := Nat.pow 2 64 - 1

/-- A number continued by digits as long as it takes no more than 64 bits, and the digits left
over. -/
def extendWord (n : Nat) : List Char → Nat × List Char
  | [] => (n, [])
  | c :: rest =>
    if n * 10 + digitValue c ≤ maxWord then extendWord (n * 10 + digitValue c) rest
    else (n, c :: rest)

/-- Whether the product of a number and a power of ten is finite, each of the two being rounded to a
float before they are multiplied.  There is no float for a power of ten beyond the 308th. -/
def isFiniteProduct (n : Nat) (exponent : Int) : Bool :=
  if n == 0 || exponent < 0 then true
  else if 308 < exponent then false
  else
    roundHalfEven significandBits n * roundHalfEven significandBits (Nat.pow 10 exponent.toNat)
      < floatLimit

/-- Whether a decimal number is finite when only its leading digits are read.  Digits in front of
the point that are left over count as zeros, and those behind it are ignored. -/
def Decimal.isFiniteByParts (d : Decimal) : Bool :=
  let (whole, zeros) := extendWord 0 d.whole
  let (n, ignored) := extendWord whole d.fraction
  isFiniteProduct n (d.exponent + zeros.length - (d.fraction.length - ignored.length : Nat))

end FluentBuilder.Data
