import Mathlib.Data.List.Infix
import Mathlib.Data.List.TakeWhile
import FluentBuilder.Config

/-!
# References in texts

The references of a text are the leftmost ones that do not overlap.

* `Reference.IsWritten` — what a reference looks like; `referenceAt?_eq_some_iff`: it is found
  wherever it stands.
* `SplitInto` — a text taken apart into its references and the characters beside them, in one way
  only; `references_of_splitInto`: the references of a text are those.
* `substitute_of_not_refers` — a text without references stays as it is.
-/

namespace FluentBuilder

variable {r : Reference} {text rest : List Char}

/-! ### One reference -/

/-- What stands behind the name of a reference: nothing, or the default. -/
def defaultText : Option (List Char) → List Char
  | none => []
  | some d => ':' :: '-' :: d

/-- A reference as it is written: `$NAME` or `$NAME:-DEFAULT`, with braces behind the dollar sign
and at the end. -/
structure Reference.IsWritten (r : Reference) : Prop where
  name_ne_nil : r.name ≠ []
  name_plain : ∀ c ∈ r.name, c ≠ '\x7d' ∧ c ≠ ':'
  default_plain : ∀ d ∈ r.default, '\x7d' ∉ d
  written : r.written = '$' :: '\x7b' :: (r.name ++ defaultText r.default ++ ['\x7d'])

/-- A text in which a reference stands. -/
def Refers (text : List Char) : Prop :=
  ∃ r : Reference, r.IsWritten ∧ r.written <:+: text

/-- The only closing brace of a reference stands at its end. -/
theorem Reference.IsWritten.exists_end (h : r.IsWritten) :
    ∃ front, r.written = front ++ ['\x7d'] ∧ '\x7d' ∉ front := by
  refine ⟨'$' :: '\x7b' :: (r.name ++ defaultText r.default), by rw [h.written]; rfl, ?_⟩
  have hname : '\x7d' ∉ r.name := fun hmem => (h.name_plain _ hmem).1 rfl
  have hdefault : '\x7d' ∉ defaultText r.default := by
    cases hd : r.default with
    | none => simp [defaultText]
    | some d =>
      have := h.default_plain d hd
      simp [defaultText, this]
  simp [hname, hdefault]

theorem Reference.IsWritten.exists_dollar (h : r.IsWritten) : ∃ more, r.written = '$' :: more :=
  ⟨_, h.written⟩

theorem Reference.IsWritten.ne_nil (h : r.IsWritten) : r.written ≠ [] := by
  rw [h.written]
  exact List.cons_ne_nil _ _

/-- A run of characters ends at the first one that is not of its kind. -/
theorem takeWhile_dropWhile_run {p : Char → Bool} {run : List Char} {c : Char}
    (hrun : ∀ a ∈ run, p a = true) (hc : p c = false) (rest : List Char) :
    (run ++ c :: rest).takeWhile p = run ∧ (run ++ c :: rest).dropWhile p = c :: rest := by
  rw [List.takeWhile_append_of_pos hrun, List.dropWhile_append_of_pos hrun,
    List.takeWhile_cons_of_neg (by simp [hc]), List.dropWhile_cons_of_neg (by simp [hc]),
    List.append_nil]
  exact ⟨rfl, rfl⟩

/-- A text is the run at its front and what stands behind, which begins with a character of another
kind. -/
theorem eq_of_dropWhile_cons {p : Char → Bool} {c : Char} {last : List Char}
    (h : text.dropWhile p = c :: last) :
    text = text.takeWhile p ++ c :: last ∧ p c = false := by
  refine ⟨by rw [← h, List.takeWhile_append_dropWhile], ?_⟩
  have hhead := List.head?_dropWhile_not p text
  simpa [h] using hhead

/-- A reference is found where it stands. -/
theorem referenceAt?_written (h : r.IsWritten) (rest : List Char) :
    referenceAt? (r.written ++ rest) = some r := by
  obtain ⟨written, name, default⟩ := r
  obtain ⟨hne, hname, hdefault, hwritten⟩ := h
  simp only at hne hname hdefault hwritten
  subst hwritten
  have hplain : ∀ c ∈ name, (c != '\x7d' && c != ':') = true := by
    intro c hc
    simp [hname c hc]
  have hempty : name.isEmpty = false := by simpa using hne
  cases default with
  | none =>
    obtain ⟨htake, hdrop⟩ := takeWhile_dropWhile_run (c := '\x7d') hplain rfl rest
    simp [referenceAt?, defaultText, htake, hdrop, hne]
  | some d =>
    obtain ⟨htake, hdrop⟩ :=
      takeWhile_dropWhile_run (c := ':') hplain rfl ('-' :: (d ++ '\x7d' :: rest))
    have hd : ∀ c ∈ d, (c != '\x7d') = true := by
      intro c hc
      refine bne_iff_ne.2 ?_
      rintro rfl
      exact hdefault d rfl hc
    obtain ⟨htake', hdrop'⟩ := takeWhile_dropWhile_run (c := '\x7d') hd rfl rest
    simp [referenceAt?, defaultText, htake, hdrop, htake', hdrop', hne]

/-- What is found is a reference that stands there. -/
theorem isWritten_of_referenceAt? (h : referenceAt? text = some r) :
    r.IsWritten ∧ r.written <+: text := by
  unfold referenceAt? at h
  split at h
  · next rest =>
    have hname : ∀ c ∈ rest.takeWhile (fun c => c != '\x7d' && c != ':'), c ≠ '\x7d' ∧ c ≠ ':' := by
      intro c hc
      simpa using List.mem_takeWhile_imp hc
    simp only at h
    split at h
    · cases h
    · next hne =>
      have hne : rest.takeWhile (fun c => c != '\x7d' && c != ':') ≠ [] := by simpa using hne
      split at h
      · next last hlast =>
        -- the name ends the reference
        obtain rfl := Option.some.inj h
        refine ⟨⟨hne, hname, by simp, by simp [defaultText]⟩, last, ?_⟩
        conv => rhs; rw [(eq_of_dropWhile_cons hlast).1]
        simp
      · next behind hbehind =>
        -- a default stands behind the name
        split at h
        · cases h
        · next hend =>
          obtain rfl := Option.some.inj h
          have hdefault : '\x7d' ∉ behind.takeWhile (fun c => c != '\x7d') := by
            intro hc
            simpa using List.mem_takeWhile_imp hc
          obtain ⟨c, last, hlast⟩ := List.exists_cons_of_ne_nil
            (show behind.dropWhile (fun c => c != '\x7d') ≠ [] by simpa using hend)
          obtain ⟨hsplit, hc⟩ := eq_of_dropWhile_cons hlast
          obtain rfl : c = '\x7d' := by simpa using hc
          refine ⟨⟨hne, hname, by simpa using hdefault, by simp [defaultText]⟩, last, ?_⟩
          conv => rhs; rw [(eq_of_dropWhile_cons hbehind).1, hsplit]
          simp
      · cases h
  · cases h

theorem referenceAt?_eq_some_iff :
    referenceAt? text = some r ↔ r.IsWritten ∧ r.written <+: text := by
  refine ⟨isWritten_of_referenceAt?, ?_⟩
  rintro ⟨h, rest, rfl⟩
  exact referenceAt?_written h rest

/-- No more than one reference begins at a place. -/
theorem Reference.IsWritten.eq_of_prefix {other : Reference} (h : r.IsWritten)
    (hother : other.IsWritten) (hbegins : other.written <+: r.written ++ rest) : other = r := by
  have hfound := referenceAt?_eq_some_iff.2 ⟨hother, hbegins⟩
  rw [referenceAt?_written h rest] at hfound
  exact (Option.some.inj hfound).symm

/-! ### All references -/

/-- A piece of a text. -/
inductive Piece where
  | plain (c : Char)
  | reference (r : Reference)

/-- A text taken apart from the left: where a reference begins it is a piece, and any other
character is one. -/
inductive SplitInto : List Char → List Piece → Prop
  | nil : SplitInto [] []
  | reference {r : Reference} {rest : List Char} {pieces : List Piece} :
      r.IsWritten → SplitInto rest pieces → SplitInto (r.written ++ rest) (.reference r :: pieces)
  | plain {c : Char} {rest : List Char} {pieces : List Piece} :
      (∀ r : Reference, r.IsWritten → ¬ r.written <+: c :: rest) → SplitInto rest pieces →
      SplitInto (c :: rest) (.plain c :: pieces)

/-- The references among pieces. -/
def referencesOf : List Piece → List Reference
  | [] => []
  | .plain _ :: pieces => referencesOf pieces
  | .reference r :: pieces => r :: referencesOf pieces

variable {pieces : List Piece}

theorem mem_referencesOf : r ∈ referencesOf pieces ↔ Piece.reference r ∈ pieces := by
  induction pieces with
  | nil => simp [referencesOf]
  | cons p pieces ih => cases p <;> simp [referencesOf, ih]

theorem exists_splitInto (text : List Char) : ∃ pieces, SplitInto text pieces := by
  -- a reference takes away more than one character
  induction hlength : text.length using Nat.strong_induction_on generalizing text with
  | _ n ih =>
    cases text with
    | nil => exact ⟨[], .nil⟩
    | cons c rest =>
      by_cases hat : ∃ r : Reference, r.IsWritten ∧ r.written <+: c :: rest
      · obtain ⟨r, hr, behind, hsplit⟩ := hat
        obtain ⟨more, hmore⟩ := hr.exists_dollar
        have hshorter : behind.length < n := by
          rw [← hlength, ← hsplit, hmore, List.length_append, List.length_cons]
          omega
        obtain ⟨pieces, hpieces⟩ := ih _ hshorter behind rfl
        exact ⟨.reference r :: pieces, hsplit ▸ .reference hr hpieces⟩
      · obtain ⟨pieces, hpieces⟩ := ih rest.length (by rw [← hlength]; simp) rest rfl
        exact ⟨.plain c :: pieces, .plain (fun r hr hbegins => hat ⟨r, hr, hbegins⟩) hpieces⟩

/-- A text is taken apart in one way only. -/
theorem SplitInto.unique {others : List Piece} (h : SplitInto text pieces)
    (hothers : SplitInto text others) :
    others = pieces := by
  induction h generalizing others with
  | nil =>
    generalize htext : ([] : List Char) = text at hothers
    cases hothers with
    | nil => rfl
    | reference hr _ => exact absurd (List.append_eq_nil_iff.1 htext.symm).1 hr.ne_nil
    | plain _ _ => cases htext
  | @reference r rest pieces hr _ ih =>
    generalize htext : r.written ++ rest = text at hothers
    cases hothers with
    | nil => exact absurd (List.append_eq_nil_iff.1 htext).1 hr.ne_nil
    | @reference r' rest' pieces' hr' hrest' =>
      obtain rfl := hr'.eq_of_prefix hr (htext ▸ List.prefix_append _ _)
      obtain rfl := List.append_cancel_left htext
      rw [ih hrest']
    | plain hnone _ => exact absurd (htext ▸ List.prefix_append _ _) (hnone r hr)
  | @plain c rest pieces hnone _ ih =>
    generalize htext : c :: rest = text at hothers
    cases hothers with
    | nil => cases htext
    | reference hr' _ => exact absurd (htext ▸ List.prefix_append _ _) (hnone _ hr')
    | plain _ hrest' =>
      obtain ⟨rfl, rfl⟩ := List.cons.inj htext
      rw [ih hrest']

theorem referencesFrom_skip (front rest : List Char) :
    referencesFrom front.length (front ++ rest) = referencesFrom 0 rest := by
  induction front with
  | nil => rfl
  | cons c front ih => exact ih

/-- **The references of a text** are those of its pieces. -/
theorem references_of_splitInto (h : SplitInto text pieces) :
    references text = referencesOf pieces := by
  unfold references
  induction h with
  | nil => rfl
  | @reference r rest pieces hr _ ih =>
    obtain ⟨more, hmore⟩ := hr.exists_dollar
    have hat := referenceAt?_written hr rest
    rw [hmore, List.cons_append] at hat ⊢
    simp only [referencesFrom, hat, hmore, List.length_cons, Nat.add_sub_cancel,
      referencesFrom_skip, ih, referencesOf]
  | @plain c rest pieces hnone _ ih =>
    have hat : referenceAt? (c :: rest) = none := by
      cases hat : referenceAt? (c :: rest) with
      | none => rfl
      | some r =>
        exact absurd (isWritten_of_referenceAt? hat).2 (hnone r (isWritten_of_referenceAt? hat).1)
    simp only [referencesFrom, hat, ih, referencesOf]

theorem SplitInto.isWritten (h : SplitInto text pieces) :
    ∀ r ∈ referencesOf pieces, r.IsWritten := by
  induction h with
  | nil => simp [referencesOf]
  | reference hr _ ih => exact List.forall_mem_cons.2 ⟨hr, ih⟩
  | plain _ _ ih => exact ih

theorem SplitInto.isInfix (h : SplitInto text pieces) :
    ∀ r ∈ referencesOf pieces, r.written <:+: text := by
  induction h with
  | nil => simp [referencesOf]
  | @reference r rest pieces _ _ ih =>
    refine List.forall_mem_cons.2 ⟨(List.prefix_append _ _).isInfix, ?_⟩
    intro r' hr'
    exact (ih r' hr').trans (List.suffix_append _ _).isInfix
  | @plain c rest pieces _ _ ih =>
    intro r hr
    exact (ih r hr).trans (List.suffix_cons c rest).isInfix

/-- **A text without references** is not changed. -/
theorem substitute_of_not_refers (env : Environment) {text : String} (h : ¬ Refers text.toList) :
    substitute env text = .ok text := by
  obtain ⟨pieces, hpieces⟩ := exists_splitInto text.toList
  have hnone : referencesOf pieces = [] := by
    refine List.eq_nil_iff_forall_not_mem.2 ?_
    intro r hr
    exact h ⟨r, hpieces.isWritten r hr, hpieces.isInfix r hr⟩
  rw [substitute, references_of_splitInto hpieces, hnone]
  show Except.ok (String.ofList text.toList) = _
  rw [String.ofList_toList]

end FluentBuilder
