/-!
# UTF-8

Texts as bytes.

* `decodeUtf8?`: the text that bytes spell.
* `decodeLossy`: the same with a replacement character for each byte that spells nothing.
-/

namespace FluentBuilder.Text

/-- The value of a byte that continues a character. -/
def continuation? (b : UInt8) : Option Nat :=
  if 0x80 ≤ b.toNat && b.toNat ≤ 0xBF then some (b.toNat - 0x80) else none

/-- The character at the head of some bytes, in its shortest form, with the number of its bytes. -/
def headCharacter? : List UInt8 → Option (Char × Nat)
  | [] => none
  | a :: rest =>
    let n := a.toNat
    if n < 0x80 then some (Char.ofNat n, 1)
    else
      match rest.take 3 |>.map continuation? with
      | some b :: more =>
        if 0xC2 ≤ n && n ≤ 0xDF then some (Char.ofNat ((n - 0xC0) * 0x40 + b), 2)
        else
          match more with
          | some c :: more =>
            if 0xE0 ≤ n && n ≤ 0xEF then
              let code := ((n - 0xE0) * 0x40 + b) * 0x40 + c
              if code < 0x800 || (0xD800 ≤ code && code ≤ 0xDFFF) then none
              else some (Char.ofNat code, 3)
            else
              match more with
              | some d :: _ =>
                if 0xF0 ≤ n && n ≤ 0xF4 then
                  let code := (((n - 0xF0) * 0x40 + b) * 0x40 + c) * 0x40 + d
                  if code < 0x10000 || 0x10FFFF < code then none else some (Char.ofNat code, 4)
                else none
              | _ => none
          | _ => none
      | _ => none

/-- The text that bytes spell; `skip` counts the bytes that belong to the character before. -/
def decodeFrom? (skip : Nat) : List UInt8 → Option (List Char)
  | [] => some []
  | b :: rest =>
    match skip with
    | skip + 1 => decodeFrom? skip rest
    | 0 =>
      match headCharacter? (b :: rest) with
      | some (c, size) => (decodeFrom? (size - 1) rest).map (c :: ·)
      | none => none

/-- The text that bytes spell. -/
def decodeUtf8? (bytes : List UInt8) : Option String :=
  (decodeFrom? 0 bytes).map String.ofList

/-- The characters that bytes spell, with a replacement for what spells none. -/
def lossyFrom (skip : Nat) : List UInt8 → List Char
  | [] => []
  | b :: rest =>
    match skip with
    | skip + 1 => lossyFrom skip rest
    | 0 =>
      match headCharacter? (b :: rest) with
      | some (c, size) => c :: lossyFrom (size - 1) rest
      | none => Char.ofNat 0xFFFD :: lossyFrom 0 rest

/-- The text that bytes spell, with a replacement for what spells none. -/
def decodeLossy (bytes : List UInt8) : String :=
  String.ofList (lossyFrom 0 bytes)

end FluentBuilder.Text
