import Mathlib
import FluentBuilder.Code.LiteralValue

/-!
# The literal of a text

* `stringValue?_textLiteral` — the literal of a text stands for the text.
-/

namespace FluentBuilder.Code

open FluentBuilder.Text

/-! ### Code points -/

theorem hexValue_digitChar {n : Nat} (h : n < 16) :
    isHexDigit n.digitChar = true ∧ hexValue n.digitChar = n := by
  have hall : ∀ m : Fin 16, isHexDigit m.val.digitChar = true
    ∧ hexValue m.val.digitChar = m.val := by decide
  exact hall ⟨n, h⟩

/-- The digits of a number are read one behind the other. -/
theorem scanCodePoint?_toDigits (n : Nat) : ∀ (value digits : Nat) (rest : List Char),
    digits + (Nat.toDigits 16 n).length ≤ 6 →
      scanCodePoint? value digits (Nat.toDigits 16 n ++ rest)
        = scanCodePoint? (value * 16 ^ (Nat.toDigits 16 n).length + n)
          (digits + (Nat.toDigits 16 n).length) rest := by
  have hdigit : ∀ {d : Nat} (value digits : Nat) (rest : List Char), d < 16 → digits < 6 →
      scanCodePoint? value digits (d.digitChar :: rest)
        = scanCodePoint? (value * 16 + d) (digits + 1) rest := by
    intro d value digits rest hd hdigits
    obtain ⟨hhex, hvalue⟩ := hexValue_digitChar hd
    rw [scanCodePoint?, if_pos hhex, if_neg, hvalue]
    simpa using Nat.ne_of_lt hdigits
  induction n using Nat.strong_induction_on with
  | _ n ih =>
    intro value digits rest hlength
    rw [Nat.toDigits_eq_if (by decide)] at hlength ⊢
    split at hlength
    · next hn =>
      rw [if_pos hn]
      rw [List.length_singleton] at hlength
      rw [List.singleton_append, hdigit value digits rest hn (by omega), List.length_singleton,
        Nat.pow_one]
    · next hn =>
      rw [if_neg hn]
      rw [List.length_append, List.length_singleton] at hlength
      rw [List.append_assoc, ih (n / 16) (by omega) value digits _ (by omega),
        List.singleton_append, hdigit _ _ rest (Nat.mod_lt n (by decide)) (by omega),
        List.length_append, List.length_singleton]
      congr 1
      rw [Nat.pow_succ]
      have hdiv := Nat.div_add_mod n 16
      calc (value * 16 ^ (Nat.toDigits 16 (n / 16)).length + n / 16) * 16 + n % 16
          = value * 16 ^ (Nat.toDigits 16 (n / 16)).length * 16 + (16 * (n / 16) + n % 16) := by
            ring
        _ = value * (16 ^ (Nat.toDigits 16 (n / 16)).length * 16) + n := by rw [hdiv, Nat.mul_assoc]

theorem scanUnicodeEscape?_hexDigits (c : Char) (rest : List Char) :
    scanUnicodeEscape? ('\x7b' :: (hexDigits c.toNat ++ '\x7d' :: rest)) = some (c, rest) := by
  have hlength : (Nat.toDigits 16 c.toNat).length ≤ 6 := by
    refine Nat.toDigits_length 16 c.toNat 6 (by decide) ?_
    have hmax := c.valid
    have : c.toNat < 0x110000 := by
      rcases hmax with h | ⟨-, h⟩
      · exact Nat.lt_trans h (by decide)
      · exact h
    omega
  show scanCodePoint? 0 0 (Nat.toDigits 16 c.toNat ++ '\x7d' :: rest) = some (c, rest)
  rw [scanCodePoint?_toDigits c.toNat 0 0 _ (by omega), Nat.zero_mul, Nat.zero_add, Nat.zero_add]
  have hpos : 0 < (Nat.toDigits 16 c.toNat).length := Nat.length_toDigits_pos
  rw [scanCodePoint?, if_neg (by decide), if_neg, if_neg (by decide), if_pos (by decide),
    dif_pos (show c.toNat.isValidChar from c.valid)]
  · rfl
  · rw [beq_iff_eq]
    omega

/-! ### Escaped characters -/

/-- A character that stands for itself between quotes. -/
theorem quotedValue?_plain {c : Char} (hquote : c ≠ '"') (hreturn : c ≠ '\r') (hescape : c ≠ '\\')
    (fuel : Nat) (rest : List Char) :
    quotedValue? (fuel + 1) (c :: rest) = (quotedValue? fuel rest).map (c :: ·) := by
  conv =>
    lhs
    unfold quotedValue?
  rw [if_neg (by simpa using hquote), if_neg (by simpa using hreturn),
    if_neg (by simpa using hescape)]

/-- An escape of a code point stands for its character. -/
theorem quotedValue?_unicode {escape rest : List Char} {c : Char}
    (h : scanUnicodeEscape? escape = some (c, rest)) (fuel : Nat) :
    quotedValue? (fuel + 1) ('\\' :: 'u' :: escape) = (quotedValue? fuel rest).map (c :: ·) := by
  conv =>
    lhs
    unfold quotedValue?
  rw [if_neg (by decide), if_neg (by decide), if_pos (by decide)]
  simp only [h]

/-- **An escaped character stands for the character.** -/
theorem quotedValue?_escapedChar (c : Char) (fuel : Nat) (rest : List Char) :
    quotedValue? (fuel + 1) (escapedChar c ++ rest) = (quotedValue? fuel rest).map (c :: ·) := by
  unfold escapedChar
  split
  · next h =>
    rcases Bool.or_eq_true_iff.1 h with h | h
    · rw [eq_of_beq h]
      rfl
    · rw [eq_of_beq h]
      rfl
  · next hquoted =>
    simp only [Bool.or_eq_true, beq_iff_eq, not_or] at hquoted
    split
    · next h =>
      rw [eq_of_beq h]
      rfl
    · split
      · next h =>
        rw [eq_of_beq h]
        rfl
      · next hreturn =>
        split
        · next h =>
          rw [eq_of_beq h]
          rfl
        · split
          · next h =>
            have hzero : c = Char.ofNat 0 := by
              rw [← Char.ofNat_toNat c, eq_of_beq h]
            rw [hzero]
            rfl
          · split
            · exact quotedValue?_plain hquoted.1 (by simpa using hreturn) hquoted.2 fuel rest
            · rw [List.append_assoc, List.append_assoc]
              exact quotedValue?_unicode (scanUnicodeEscape?_hexDigits c rest) fuel

/-- What stands between the quotes of a text's literal. -/
theorem quotedValue?_escape (text : List Char) : ∀ fuel, text.length < fuel →
    quotedValue? fuel (textLiteral.escape text ++ ['"']) = some text := by
  induction text with
  | nil =>
    intro fuel hfuel
    obtain ⟨fuel, rfl⟩ : ∃ n, fuel = n + 1 := ⟨fuel - 1, by omega⟩
    rfl
  | cons c rest ih =>
    intro fuel hfuel
    rw [List.length_cons] at hfuel
    obtain ⟨fuel, rfl⟩ : ∃ n, fuel = n + 1 := ⟨fuel - 1, by omega⟩
    have hrest := ih fuel (by omega)
    unfold textLiteral.escape
    split
    · next h =>
      have hzero : c = Char.ofNat 0 := by
        rw [← Char.ofNat_toNat c, eq_of_beq h]
      rw [hzero]
      split
      · next d others =>
        split
        · show (quotedValue? fuel (textLiteral.escape (d :: others) ++ ['"'])).map
            (Char.ofNat 0 :: ·) = _
          rw [hrest]
          rfl
        · show (quotedValue? fuel (textLiteral.escape (d :: others) ++ ['"'])).map
            (Char.ofNat 0 :: ·) = _
          rw [hrest]
          rfl
      · show (quotedValue? fuel (textLiteral.escape [] ++ ['"'])).map (Char.ofNat 0 :: ·) = _
        rw [hrest]
        rfl
    · rw [List.append_assoc, quotedValue?_escapedChar, hrest]
      rfl

theorem escapedChar_ne_nil (c : Char) : escapedChar c ≠ [] := by
  unfold escapedChar
  repeat' split
  all_goals exact List.cons_ne_nil _ _

theorem length_le_escape (text : List Char) : text.length ≤ (textLiteral.escape text).length := by
  induction text with
  | nil => exact Nat.le_refl 0
  | cons c rest ih =>
    have hpos := List.length_pos_iff.2 (escapedChar_ne_nil c)
    unfold textLiteral.escape
    repeat' split
    all_goals
      simp only [List.length_append, List.length_cons, List.length_nil] at ih ⊢
      omega

/-- **The literal of a text stands for the text.** -/
theorem stringValue?_textLiteral (text : List Char) :
    stringValue? (textLiteral text) = some (String.ofList text) := by
  have hliteral : (textLiteral text).toList = '"' :: (textLiteral.escape text ++ ['"']) :=
    String.toList_ofList
  have hlength := length_le_escape text
  have hvalue : quotedValue? ((textLiteral.escape text ++ ['"']).length + 1)
        (textLiteral.escape text ++ ['"'])
      = some text := by
    refine quotedValue?_escape text _ ?_
    rw [List.length_append]
    omega
  unfold stringValue?
  rw [hliteral]
  show (quotedValue? ((textLiteral.escape text ++ ['"']).length + 1)
    (textLiteral.escape text ++ ['"'])).map String.ofList = _
  rw [hvalue]
  rfl

end FluentBuilder.Code
