import Mathlib.Data.List.TakeWhile
import FluentBuilder.Proofs.Code.SpelledName

/-!
# Names in a text

A name is a word that is read as one token, and it is read in this way in front of everything that
stands apart from it: what neither continues the word nor makes a literal of it.

* `scanLiteral?_word_eq_none` — no literal starts with a word;
* `IsName`, `IsName.splitWord?` — names, and how they are read off a text.
-/

namespace FluentBuilder.Code

open FluentBuilder.Text

/-! ### Texts without literals -/

theorem skip?_cons_of_ne {p c : Char} (h : p ≠ c) (ps rest : List Char) :
    skip? (p :: ps) (c :: rest) = none := by
  unfold skip?
  rw [beq_eq_false_iff_ne.2 h]
  rfl

theorem scanString?_eq_none {form : QuotedForm} {mark input : List Char}
    (hquoted : skip? (mark ++ ['"']) input = none) (hraw : skip? (mark ++ ['r']) input = none) :
    scanString? form mark input = none := by
  unfold scanString?
  rw [hquoted, hraw]
  rfl

theorem hexValue_of_not_isAsciiDigit {c : Char} (hdigit : isAsciiDigit c = false)
    (hhex : isHexDigit c = true) :
    10 ≤ hexValue c := by
  unfold isHexDigit at hhex
  unfold hexValue
  rw [hdigit] at hhex ⊢
  simp only [Bool.false_or, Bool.or_eq_true] at hhex
  rw [if_neg Bool.false_ne_true]
  split
  · omega
  · next hlower =>
    rw [if_pos (hhex.resolve_left hlower)]
    omega

/-- No number starts with a character that is not a digit. -/
theorem scanNumber?_eq_none {c : Char} (hdigit : isAsciiDigit c = false) (rest : List Char) :
    scanFloat? (c :: rest) = none ∧ scanInteger? (c :: rest) = none := by
  constructor
  · unfold scanFloat? scanFloatDigits?
    dsimp only
    rw [hdigit]
    rfl
  · have hzero : c ≠ '0' := by
      rintro rfl
      exact absurd hdigit (by decide)
    have hdigits : scanDigits? 10 true (c :: rest) = none := by
      unfold scanDigits?
      rw [hdigit, if_neg Bool.false_ne_true]
      split
      · next hhex => rw [if_pos (hexValue_of_not_isAsciiDigit hdigit hhex)]; rfl
      · split <;> rfl
    unfold scanInteger?
    split
    case h_4 =>
      dsimp only
      rw [hdigits]
      rfl
    all_goals
      next h =>
      injection h with hc _
      exact absurd hc hzero

theorem isIdentifierStart_ne {c d : Char} (h : isIdentifierStart c = true)
    (hd : isIdentifierStart d = false) :
    c ≠ d := by
  rintro rfl
  rw [h] at hd
  cases hd

theorem isAsciiDigit_of_isIdentifierStart {c : Char} (h : isIdentifierStart c = true) :
    isAsciiDigit c = false := by
  cases hdigit : isAsciiDigit c with
  | false => rfl
  | true =>
    unfold isAsciiDigit at hdigit
    rw [Bool.and_eq_true, decide_eq_true_eq, decide_eq_true_eq] at hdigit
    have hlow : 48 ≤ c.toNat := hdigit.1
    have hhigh : c.toNat ≤ 57 := hdigit.2
    rcases toNat_of_isIdentifierStart h with hascii | ⟨s, -, hbeyond, -⟩ <;> omega

/-! ### What stands apart from a word -/

/-- The characters that make a literal of a word in front of them. -/
def literalMarks : List Char :=
  ['"', '\'', '#']

theorem not_mem_literalMarks {c : Char}
    (h : isIdentifierStart c = true ∨ isIdentifierContinue c = true) :
    c ∉ literalMarks := by
  have hnone : literalMarks.all (fun m => !isIdentifierStart m && !isIdentifierContinue m)
    = true := by decide
  intro hc
  have hmark := List.all_eq_true.1 hnone c hc
  rw [Bool.and_eq_true, Bool.not_eq_true', Bool.not_eq_true'] at hmark
  rcases h with h | h
  · rw [hmark.1] at h
    cases h
  · rw [hmark.2] at h
    cases h

theorem not_mem_literalMarks_of_word {c : Char} {cs : List Char} (hc : isIdentifierStart c = true)
    (hcs : ∀ d ∈ cs, isIdentifierContinue d = true) : ∀ d ∈ c :: cs, d ∉ literalMarks :=
  List.forall_mem_cons.2
    ⟨not_mem_literalMarks (.inl hc), fun d hd => not_mem_literalMarks (.inr (hcs d hd))⟩

/-- Whether a character neither continues a word in front of it nor makes a literal of it. -/
def standsApart (c : Char) : Bool :=
  !isIdentifierContinue c && !literalMarks.contains c

/-- Whether a text stands apart from a word in front of it. -/
def Apart : List Char → Prop
  | [] => True
  | c :: _ => standsApart c = true

theorem Apart.head {c : Char} {rest : List Char} (h : Apart (c :: rest)) :
    isIdentifierContinue c = false ∧ c ∉ literalMarks := by
  have hapart : (!isIdentifierContinue c && !literalMarks.contains c) = true := h
  rw [Bool.and_eq_true, Bool.not_eq_true', Bool.not_eq_true'] at hapart
  exact ⟨hapart.1, by simpa using hapart.2⟩

/-- The letters of a word with a mark behind them do not open a text that starts with a word. -/
theorem skip?_word_eq_none {letters word rest : List Char} {mark : Char}
    (hletters : ∀ l ∈ letters, isIdentifierContinue l = true) (hword : ∀ d ∈ word, d ∉ literalMarks)
    (hrest : Apart rest) (hmark : mark ∈ literalMarks) (behind : List Char) :
    skip? (letters ++ mark :: behind) (word ++ rest) = none := by
  induction letters generalizing word with
  | nil =>
    cases word with
    | nil =>
      cases rest with
      | nil => rfl
      | cons e rest =>
        refine skip?_cons_of_ne ?_ _ _
        rintro rfl
        exact hrest.head.2 hmark
    | cons d word =>
      refine skip?_cons_of_ne ?_ _ _
      rintro rfl
      exact hword mark List.mem_cons_self hmark
  | cons l letters ih =>
    obtain ⟨hl, hletters⟩ := List.forall_mem_cons.1 hletters
    cases word with
    | nil =>
      cases rest with
      | nil => rfl
      | cons e rest =>
        refine skip?_cons_of_ne ?_ _ _
        rintro rfl
        rw [hrest.head.1] at hl
        cases hl
    | cons d word =>
      show (if l == d then skip? (letters ++ mark :: behind) (word ++ rest) else none) = none
      split
      · exact ih hletters (List.forall_mem_cons.1 hword).2
      · rfl

/-- Behind letters of a word the word goes on. -/
theorem exists_word_of_skip? {letters word rest behind : List Char}
    (hletters : ∀ l ∈ letters, isIdentifierContinue l = true) (hword : ∀ d ∈ word, d ∉ literalMarks)
    (hrest : Apart rest) (h : skip? letters (word ++ rest) = some behind) :
    ∃ more, behind = more ++ rest ∧ ∀ d ∈ more, d ∉ literalMarks := by
  induction letters generalizing word with
  | nil =>
    cases h
    exact ⟨word, rfl, hword⟩
  | cons l letters ih =>
    obtain ⟨hl, hletters⟩ := List.forall_mem_cons.1 hletters
    cases word with
    | nil =>
      cases rest with
      | nil => cases h
      | cons e rest =>
        rw [List.nil_append, skip?_cons_of_ne] at h
        · cases h
        · rintro rfl
          rw [hrest.head.1] at hl
          cases hl
    | cons d word =>
      rw [List.cons_append, skip?, Option.ite_none_right_eq_some] at h
      exact ih hletters (List.forall_mem_cons.1 hword).2 h.2

/-- No raw string starts inside a word. -/
theorem scanRaw?_word_eq_none {word rest : List Char} (plain : Char → Bool)
    (hword : ∀ d ∈ word, d ∉ literalMarks) (hrest : Apart rest) :
    scanRaw? plain (word ++ rest) = none := by
  have hhead : ∀ mark ∈ literalMarks, ∀ behind, word ++ rest ≠ mark :: behind := by
    intro mark hmark behind hsplit
    cases word with
    | nil =>
      rw [List.nil_append] at hsplit
      rw [hsplit] at hrest
      exact hrest.head.2 hmark
    | cons d word =>
      injection hsplit with hd _
      exact hword d List.mem_cons_self (hd ▸ hmark)
  have hopening : rawOpening? 0 (word ++ rest) = none := by
    unfold rawOpening?
    split
    · next behind hsplit => exact absurd hsplit (hhead '#' (by decide) behind)
    · next behind hsplit => exact absurd hsplit (hhead '"' (by decide) behind)
    · rfl
  unfold scanRaw?
  rw [hopening]
  rfl

/-- No string starts with a word. -/
theorem scanString?_word_eq_none {form : QuotedForm} {mark word rest : List Char}
    (hmark : ∀ l ∈ mark, isIdentifierContinue l = true) (hword : ∀ d ∈ word, d ∉ literalMarks)
    (hrest : Apart rest) : scanString? form mark (word ++ rest) = none := by
  unfold scanString?
  rw [skip?_word_eq_none hmark hword hrest (by decide)]
  dsimp only
  cases hraw : skip? (mark ++ ['r']) (word ++ rest) with
  | none => rfl
  | some behind =>
    have hletters : ∀ l ∈ mark ++ ['r'], isIdentifierContinue l = true := by
      intro l hl
      rcases List.mem_append.1 hl with hl | hl
      · exact hmark l hl
      · rw [List.mem_singleton.1 hl]
        decide
    obtain ⟨more, rfl, hmore⟩ := exists_word_of_skip? hletters hword hrest hraw
    rw [Option.bind_eq_bind, Option.bind_some, scanRaw?_word_eq_none _ hmore hrest]
    rfl

/-- **No literal starts with a word.** -/
theorem scanLiteral?_word_eq_none {c : Char} {cs rest : List Char} (hc : isIdentifierStart c = true)
    (hcs : ∀ d ∈ cs, isIdentifierContinue d = true) (hrest : Apart rest) :
    scanLiteral? (c :: cs ++ rest) = none := by
  have hword := not_mem_literalMarks_of_word hc hcs
  obtain ⟨hfloat, hinteger⟩ := scanNumber?_eq_none (isAsciiDigit_of_isIdentifierStart hc)
    (cs ++ rest)
  have hb : ∀ l ∈ ['b'], isIdentifierContinue l = true := List.all_eq_true.1 (by decide)
  have hbyte : skip? ['b', '\''] (c :: cs ++ rest) = none :=
    skip?_word_eq_none hb hword hrest (by decide) []
  have hquote : skip? ['\''] (c :: cs ++ rest) = none :=
    skip?_word_eq_none (List.forall_mem_nil _) hword hrest (by decide) []
  unfold scanLiteral?
  rw [scanString?_word_eq_none (List.forall_mem_nil _) hword hrest,
    scanString?_word_eq_none hb hword hrest,
    scanString?_word_eq_none (List.all_eq_true.1 (by decide)) hword hrest, hbyte, hquote]
  rw [List.cons_append, hfloat, hinteger]
  rfl

/-! ### Names -/

/-- Whether a text is read as a word and nothing else: a name as it may stand in a source text. -/
def IsName (name : String) : Prop :=
  splitWord? name.toList = some (name, [])

instance (name : String) : Decidable (IsName name) :=
  inferInstanceAs (Decidable (_ = _))

theorem takeWhile_word {word rest : List Char} (hword : ∀ d ∈ word, isIdentifierContinue d = true)
    (hrest : Apart rest) : (word ++ rest).takeWhile isIdentifierContinue = word
      ∧ (word ++ rest).dropWhile isIdentifierContinue = rest := by
  have hnone : rest.takeWhile isIdentifierContinue = []
      ∧ rest.dropWhile isIdentifierContinue = rest := by
    cases rest with
    | nil => exact ⟨rfl, rfl⟩
    | cons c rest =>
      rw [List.takeWhile_cons_of_neg, List.dropWhile_cons_of_neg]
      · exact ⟨rfl, rfl⟩
      all_goals
        rw [hrest.head.1]
        exact Bool.false_ne_true
  rw [List.takeWhile_append_of_pos hword, List.dropWhile_append_of_pos hword, hnone.1, hnone.2,
    List.append_nil]
  exact ⟨rfl, rfl⟩

/-- An identifier without a raw mark, in front of what stands apart from it. -/
theorem scanIdentifier?_word {c : Char} {cs rest : List Char} (hc : isIdentifierStart c = true)
    (hcs : ∀ d ∈ cs, isIdentifierContinue d = true) (hrest : Apart rest) :
    scanIdentifier? (c :: cs ++ rest) = some rest
      ∧ spelling (c :: cs ++ rest) rest = String.ofList (c :: cs) := by
  obtain ⟨htake, hdrop⟩ := takeWhile_word hcs hrest
  have hfirst : firstWord (c :: cs ++ rest) = (c :: cs, rest) := by
    unfold firstWord
    rw [List.cons_append]
    dsimp only
    rw [htake, hdrop]
  refine ⟨scanIdentifier?_eq_some_iff.2 ⟨c, cs ++ rest, rfl, hc, ?_⟩, ?_⟩
  · rw [hfirst]
  · have hspelling := spelling_firstWord (c :: cs ++ rest)
    rwa [hfirst] at hspelling

/-- The characters of a word, with or without a raw mark in front. -/
def IsWrittenWord (name : String) : Prop :=
  ∃ c cs, isIdentifierStart c = true ∧ (∀ d ∈ cs, isIdentifierContinue d = true)
    ∧ (name.toList = c :: cs
      ∨ name.toList = 'r' :: '#' :: c :: cs
        ∧ ["_", "super", "self", "Self", "crate"].contains (String.ofList (c :: cs)) = false)

/-- A name is a word, with or without a raw mark in front. -/
theorem IsName.cases {name : String} (h : IsName name) : IsWrittenWord name := by
  unfold IsName splitWord? at h
  rw [Option.ite_none_left_eq_some] at h
  replace h := h.2
  unfold splitIdentifier? at h
  split at h
  · next raw hraw =>
    obtain ⟨behind, hbehind, h⟩ := Option.bind_eq_some_iff.1 h
    obtain ⟨c, cs, rfl, hstart, rfl⟩ := scanIdentifier?_eq_some_iff.1 hbehind
    rw [Option.ite_none_left_eq_some, Bool.not_eq_true] at h
    obtain ⟨hplain, h⟩ := h
    have hnil : cs.dropWhile isIdentifierContinue = [] := (Prod.mk.inj (Option.some.inj h)).2
    have hall := List.dropWhile_eq_nil_iff.1 hnil
    refine ⟨c, cs, hstart, hall, .inr ⟨hraw, ?_⟩⟩
    have hword : (firstWord (c :: cs)).1 = c :: cs := by
      show c :: cs.takeWhile isIdentifierContinue = c :: cs
      rw [List.takeWhile_eq_self_iff.2 hall]
    rwa [spelling_firstWord, hword] at hplain
  · obtain ⟨behind, hbehind, h⟩ := Option.bind_eq_some_iff.1 h
    obtain ⟨c, cs, hname, hstart, rfl⟩ := scanIdentifier?_eq_some_iff.1 hbehind
    have hnil := (Prod.mk.inj (Option.some.inj h)).2
    rw [hname] at hnil
    exact ⟨c, cs, hstart, List.dropWhile_eq_nil_iff.1 hnil, .inl hname⟩

/-- No literal starts with a name. -/
theorem IsName.scanLiteral? {name : String} {rest : List Char} (h : IsName name)
    (hrest : Apart rest) :
    scanLiteral? (name.toList ++ rest) = none := by
  obtain ⟨c, cs, hc, hcs, hname | ⟨hname, -⟩⟩ := h.cases
  · rw [hname]
    exact scanLiteral?_word_eq_none hc hcs hrest
  · rw [hname]
    have hhash : c ≠ '#' := isIdentifierStart_ne hc (by decide)
    have hquote : c ≠ '"' := isIdentifierStart_ne hc (by decide)
    have hraw : scanRaw? textForm.plain ('#' :: c :: cs ++ rest) = none := by
      unfold scanRaw?
      have hopening : rawOpening? 0 ('#' :: c :: cs ++ rest) = none := by
        show rawOpening? 1 (c :: (cs ++ rest)) = none
        unfold rawOpening?
        split
        · next h =>
          injection h with h _
          exact absurd h hhash
        · next h =>
          injection h with h _
          exact absurd h hquote
        · rfl
      rw [hopening]
      rfl
    have htext : scanString? textForm [] ('r' :: '#' :: c :: cs ++ rest) = none := by
      show (scanRaw? textForm.plain ('#' :: c :: cs ++ rest)).map skipSuffix = none
      rw [hraw]
      rfl
    unfold FluentBuilder.Code.scanLiteral?
    rw [htext]
    rfl

/-- **A word is read off in front of what stands apart from it.** -/
theorem IsWrittenWord.splitWord? {name : String} {rest : List Char} (h : IsWrittenWord name)
    (hrest : Apart rest) :
    splitWord? (name.toList ++ rest) = some (name, rest) := by
  obtain ⟨c, cs, hc, hcs, hname | ⟨hname, hplain⟩⟩ := h
  · have hword := not_mem_literalMarks_of_word hc hcs
    have hopening : (literalOpenings.any fun opening => startsWith opening (c :: cs ++ rest))
        = false := by
      have hnone : ∀ letters mark behind, letters.all isIdentifierContinue = true →
        mark ∈ literalMarks →
          startsWith (letters ++ mark :: behind) (c :: cs ++ rest) = false := by
        intro letters mark behind hletters hmark
        unfold startsWith
        rw [skip?_word_eq_none (List.all_eq_true.1 hletters) hword hrest hmark]
        rfl
      have hr := hnone ['r'] '"' [] (by decide) (by decide)
      have hrq := hnone ['r'] '#' ['"'] (by decide) (by decide)
      have hrs := hnone ['r'] '#' ['#'] (by decide) (by decide)
      have hb := hnone ['b'] '"' [] (by decide) (by decide)
      have hbc := hnone ['b'] '\'' [] (by decide) (by decide)
      have hbr := hnone ['b', 'r'] '"' [] (by decide) (by decide)
      have hbs := hnone ['b', 'r'] '#' [] (by decide) (by decide)
      have hcq := hnone ['c'] '"' [] (by decide) (by decide)
      have hcr := hnone ['c', 'r'] '"' [] (by decide) (by decide)
      have hcs := hnone ['c', 'r'] '#' [] (by decide) (by decide)
      simp only [List.cons_append, List.nil_append] at hr hrq hrs hb hbc hbr hbs hcq hcr hcs ⊢
      simp only [literalOpenings, List.any_cons, List.any_nil, hr, hrq, hrs, hb, hbc, hbr, hbs,
        hcq, hcr, hcs, Bool.or_self]
    obtain ⟨hscan, hspelling⟩ := scanIdentifier?_word hc hcs hrest
    unfold FluentBuilder.Code.splitWord?
    rw [hname, hopening, if_neg Bool.false_ne_true]
    unfold splitIdentifier?
    split
    · next raw hraw =>
      -- the character behind the first one is no number sign
      exfalso
      cases cs with
      | nil =>
        injection hraw with _ htail
        rw [show rest = '#' :: raw from htail] at hrest
        exact hrest.head.2 (by decide)
      | cons d cs =>
        injection hraw with _ htail
        injection htail with hd _
        have hcontinue := hcs d List.mem_cons_self
        rw [hd] at hcontinue
        exact absurd hcontinue (by decide)
    · rw [hscan, Option.bind_eq_bind, Option.bind_some, hspelling, ← hname, String.ofList_toList]
  · have hhash : ('#' == c) = false :=
      beq_eq_false_iff_ne.2 (isIdentifierStart_ne hc (by decide)).symm
    have hquote : ('"' == c) = false :=
      beq_eq_false_iff_ne.2 (isIdentifierStart_ne hc (by decide)).symm
    have hopening : (literalOpenings.any fun opening => startsWith opening
        ('r' :: '#' :: c :: cs ++ rest)) = false := by
      show (false || ((if '"' == c then _ else none).isSome
        || ((if '#' == c then _ else none).isSome || _))) = false
      rw [hhash, hquote]
      rfl
    obtain ⟨hscan, hspelling⟩ := scanIdentifier?_word hc hcs hrest
    unfold FluentBuilder.Code.splitWord?
    rw [hname, hopening, if_neg Bool.false_ne_true]
    have hraw : "r#" ++ String.ofList (c :: cs) = name := by
      rw [← String.toList_inj, hname]
      simp only [String.toList_append, String.toList_ofList]
      rfl
    show (scanIdentifier? (c :: cs ++ rest) >>= fun behind =>
      if ["_", "super", "self", "Self", "crate"].contains (spelling (c :: cs ++ rest) behind) then
        none
      else some ("r#" ++ spelling (c :: cs ++ rest) behind, behind)) = some (name, rest)
    rw [hscan, Option.bind_eq_bind, Option.bind_some, hspelling, hplain, if_neg Bool.false_ne_true,
      hraw]

/-- A name is read off in front of what stands apart from it. -/
theorem IsName.splitWord? {name : String} {rest : List Char} (h : IsName name)
    (hrest : Apart rest) :
    splitWord? (name.toList ++ rest) = some (name, rest) :=
  h.cases.splitWord? hrest

theorem IsWrittenWord.isName {name : String} (h : IsWrittenWord name) : IsName name := by
  have hread : Code.splitWord? (name.toList ++ []) = some (name, []) := h.splitWord? trivial
  rwa [List.append_nil] at hread

/-- **What is read as an identifier is a name.** -/
theorem isName_of_splitIdentifier? {input rest : List Char} {name : String}
    (h : splitIdentifier? input = some (name, rest)) : IsName name := by
  refine IsWrittenWord.isName ?_
  have hword : ∀ {text behind : List Char}, scanIdentifier? text = some behind → ∃ c cs,
    isIdentifierStart c = true
      ∧ (∀ d ∈ cs, isIdentifierContinue d = true)
      ∧ spelling text behind = String.ofList (c :: cs) := by
    intro text behind hscan
    obtain ⟨c, cs, rfl, hc, rfl⟩ := scanIdentifier?_eq_some_iff.1 hscan
    exact ⟨c, cs.takeWhile isIdentifierContinue, hc, List.all_eq_true.1 List.all_takeWhile,
      spelling_firstWord (c :: cs)⟩
  unfold splitIdentifier? at h
  split at h
  · obtain ⟨behind, hbehind, h⟩ := Option.bind_eq_some_iff.1 h
    obtain ⟨c, cs, hc, hcs, hspelling⟩ := hword hbehind
    rw [Option.ite_none_left_eq_some, Bool.not_eq_true, hspelling] at h
    obtain ⟨hplain, h⟩ := h
    refine ⟨c, cs, hc, hcs, .inr ⟨?_, hplain⟩⟩
    rw [← (Prod.mk.inj (Option.some.inj h)).1, String.toList_append, String.toList_ofList,
      String.toList_ofList]
    rfl
  · obtain ⟨behind, hbehind, h⟩ := Option.bind_eq_some_iff.1 h
    obtain ⟨c, cs, hc, hcs, hspelling⟩ := hword hbehind
    refine ⟨c, cs, hc, hcs, .inl ?_⟩
    rw [← (Prod.mk.inj (Option.some.inj h)).1, hspelling, String.toList_ofList]

end FluentBuilder.Code
