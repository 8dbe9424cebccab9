import FluentBuilder.Text.CharacterClass

/-!
# Identifier characters and blanks

The classes of characters are given by comparisons for ASCII and by tables of ranges beyond it.  The
tables are compared here once, so that a character is placed by its class alone.

* `toNat_of_isIdentifierStart`, `toNat_of_isBlank` — where the two classes lie;
* `isBlank_of_isIdentifierStart` — no character is in both.
-/

namespace FluentBuilder.Text

theorem inRanges_iff {table : List (Nat × Nat)} {n : Nat} :
    inRanges table n = true ↔ ∃ r ∈ table, r.1 ≤ n ∧ n ≤ r.2 := by
  unfold inRanges
  rw [List.any_eq_true]
  simp only [Bool.and_eq_true, decide_eq_true_eq]

/-! ### Tables -/

/-- The ranges of blanks beyond ASCII: white space and the two direction marks. -/
def blankRanges : List (Nat × Nat) :=
  [(133, 133), (160, 160), (5760, 5760), (8192, 8202), (8232, 8233), (8239, 8239), (8287, 8287),
    (12288, 12288)]
    ++ [(0x200E, 0x200F)]

theorem blankRanges_beyond_ascii : ∀ r ∈ blankRanges, 128 ≤ r.1 := by
  decide

/-- No range of identifier characters meets a range of blanks. -/
theorem identifierStartRanges_apart : ∀ s ∈ identifierStartRanges, ∀ r ∈ blankRanges, r.2 < s.1
    ∨ s.2 < r.1 := by
  decide +kernel

/-! ### Classes -/

/-- The code points that an identifier starts with: ASCII letters and the underscore lie between `A`
and `z`. -/
theorem toNat_of_isIdentifierStart {c : Char} (h : isIdentifierStart c = true) :
    65 ≤ c.toNat ∧ c.toNat ≤ 122 ∨ ∃ s ∈ identifierStartRanges, 128 ≤ c.toNat ∧ s.1 ≤ c.toNat
      ∧ c.toNat ≤ s.2 := by
  unfold isIdentifierStart isAsciiLetter at h
  simp only [Bool.or_eq_true, Bool.and_eq_true, beq_iff_eq, decide_eq_true_eq, inRanges_iff] at h
  rcases h with (rfl | ⟨ha, hz⟩ | ⟨ha, hz⟩) | ⟨hbeyond, s, hs, hin⟩
  · exact .inl (by decide)
  · have hfirst : 97 ≤ c.toNat := ha
    have hlast : c.toNat ≤ 122 := hz
    omega
  · have hfirst : 65 ≤ c.toNat := ha
    have hlast : c.toNat ≤ 90 := hz
    omega
  · exact .inr ⟨s, hs, hbeyond, hin⟩

/-- The code points of blanks. -/
theorem toNat_of_isBlank {c : Char} (h : isBlank c = true) :
    c.toNat ≤ 32 ∨ ∃ r ∈ blankRanges, r.1 ≤ c.toNat ∧ c.toNat ≤ r.2 := by
  unfold isBlank isWhiteSpace at h
  simp only [Bool.or_eq_true, Bool.and_eq_true, beq_iff_eq, decide_eq_true_eq, inRanges_iff] at h
  rcases h with (((rfl | hascii) | ⟨r, hr, hin⟩) | hmark) | hmark
  · exact .inl (by decide)
  · exact .inl (by omega)
  · exact .inr ⟨r, List.mem_append_left _ hr, hin⟩
  · exact .inr ⟨(0x200E, 0x200F), by decide, by omega, by omega⟩
  · exact .inr ⟨(0x200E, 0x200F), by decide, by omega, by omega⟩

/-- **No identifier starts with a blank.** -/
theorem isBlank_of_isIdentifierStart {c : Char} (h : isIdentifierStart c = true) :
    isBlank c = false := by
  cases hblank : isBlank c with
  | false => rfl
  | true =>
    rcases toNat_of_isIdentifierStart h with hascii | ⟨s, hs, hbeyond, hin⟩
    · rcases toNat_of_isBlank hblank with hlow | ⟨r, hr, hbetween⟩
      · omega
      · have hhigh := blankRanges_beyond_ascii r hr
        omega
    · rcases toNat_of_isBlank hblank with hlow | ⟨r, hr, hbetween⟩
      · omega
      · have hapart := identifierStartRanges_apart s hs r hr
        omega

end FluentBuilder.Text
