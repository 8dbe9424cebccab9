import FluentBuilder.Text.IdentifierTable
import FluentBuilder.Text.PrintableTable

/-!
# Character classes

The classes of characters that the readers of this library ask about: identifier characters, blanks,
digits and characters with a printed form.  ASCII is decided by comparison and the rest by range
tables, so that a class can be evaluated on source text without walking a table for every letter.

* `isIdentifierStart`, `isIdentifierContinue`: the two classes that make an identifier.
* `isBlank`: the characters that separate tokens.
* `isHexDigit`, `hexValue`: digits of base sixteen.
-/

namespace FluentBuilder.Text

/-- Membership of a code point in a table of ranges with both ends included. -/
def inRanges (table : List (Nat × Nat)) (n : Nat) : Bool :=
  table.any fun r => decide (r.1 ≤ n) && decide (n ≤ r.2)

/-- Letters `a` to `z` and `A` to `Z`. -/
def isAsciiLetter (c : Char) : Bool :=
  ('a' ≤ c && c ≤ 'z') || ('A' ≤ c && c ≤ 'Z')

/-- Digits `0` to `9`. -/
def isAsciiDigit (c : Char) : Bool :=
  '0' ≤ c && c ≤ '9'

/-- Digits of base sixteen, in either case. -/
def isHexDigit (c : Char) : Bool :=
  isAsciiDigit c || ('a' ≤ c && c ≤ 'f') || ('A' ≤ c && c ≤ 'F')

/-- The value of a digit of base sixteen; other characters have value zero. -/
def hexValue (c : Char) : Nat :=
  if isAsciiDigit c then c.toNat - '0'.toNat
  else if 'a' ≤ c && c ≤ 'f' then c.toNat - 'a'.toNat + 10
  else if 'A' ≤ c && c ≤ 'F' then c.toNat - 'A'.toNat + 10
  else 0

/-- A character that can start an identifier: an underscore or a letter in the sense of
`XID_Start`. -/
def isIdentifierStart (c : Char) : Bool :=
  c == '_' || isAsciiLetter c || (decide (128 ≤ c.toNat) && inRanges identifierStartRanges c.toNat)

/-- A character that can stand inside an identifier, in the sense of `XID_Continue`. -/
def isIdentifierContinue (c : Char) : Bool :=
  c == '_' || isAsciiLetter c || isAsciiDigit c
    || (decide (128 ≤ c.toNat) && inRanges identifierContinueRanges c.toNat)

/-- White space in the sense of Unicode. -/
def isWhiteSpace (c : Char) : Bool :=
  c == ' ' || (9 ≤ c.toNat && c.toNat ≤ 13)
    || inRanges [(133, 133), (160, 160), (5760, 5760), (8192, 8202), (8232, 8233), (8239, 8239),
      (8287, 8287), (12288, 12288)] c.toNat

/-- White space and the two direction marks, which separate tokens as well. -/
def isBlank (c : Char) : Bool :=
  isWhiteSpace c || c.toNat == 0x200E || c.toNat == 0x200F

/-- A letter or a number of any script. -/
def isAlphanumeric (c : Char) : Bool :=
  isAsciiLetter c || isAsciiDigit c
    || (decide (128 ≤ c.toNat) && inRanges alphanumericRanges c.toNat)

/-- A character with a printed form of its own: neither a control, format or separator character
(the plain space apart) nor a mark that extends the character before it. -/
def isPrintable (c : Char) : Bool :=
  (' ' ≤ c && c ≤ '~')
    || (decide (128 ≤ c.toNat) && !inRanges unprintableRanges c.toNat
      && !inRanges extendingRanges c.toNat)

end FluentBuilder.Text
