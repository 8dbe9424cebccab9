import FluentBuilder.Code.Parser

/-!
# What parsers leave of their input

Every parser leaves an end of its input.  The property is a class, so that it is found by following
the way in which a parser is put together.

* `Consumes` — a parser that leaves an end of its input, with one instance for each way to put
  parsers together;
* `Consumes.bind`, `Consumes.ite`, `Consumes.otherwise` — the same as steps of a proof;
* `exists_of_mem_repeatWhile` — each result of a repetition is read off an end of the input.
-/

namespace FluentBuilder.Code

variable {α β : Type}

/-- What one parser behind another reads. -/
theorem bind_eq_some_iff {p : Parser α} {f : α → Parser β} {input rest : Tokens} {b : β} :
    (p >>= f) input = some (b, rest) ↔ ∃ a mid, p input = some (a, mid) ∧ f a mid = some
    (b, rest) := by
  constructor
  · intro h
    obtain ⟨⟨a, mid⟩, hp, hf⟩ := Option.bind_eq_some_iff.1 h
    exact ⟨a, mid, hp, hf⟩
  · rintro ⟨a, mid, hp, hf⟩
    exact Option.bind_eq_some_iff.2 ⟨(a, mid), hp, hf⟩

/-- A parser that leaves an end of its input. -/
class Consumes (p : Parser α) : Prop where
  suffix : ∀ {input rest : Tokens} {a : α}, p input = some (a, rest) → rest <:+ input

/-! ### Steps and choices -/

instance consumes_pure (a : α) : Consumes (pure a : Parser α) where
  suffix h := by
    cases h
    exact List.suffix_rfl

instance consumes_failure : Consumes (failure : Parser α) where
  suffix h := by
    cases h

instance consumes_bind {p : Parser α} {f : α → Parser β} [hp : Consumes p]
    [hf : ∀ a, Consumes (f a)] :
    Consumes (p >>= f) where
  suffix h := by
    obtain ⟨a, mid, hmid, hrest⟩ := bind_eq_some_iff.1 h
    exact ((hf a).suffix hrest).trans (hp.suffix hmid)

instance consumes_ite {c : Prop} [Decidable c] {p q : Parser α} [hp : Consumes p]
    [hq : Consumes q] :
    Consumes (if c then p else q) := by
  split
  · exact hp
  · exact hq

theorem Consumes.bind {p : Parser α} {f : α → Parser β} (hp : Consumes p)
    (hf : ∀ a, Consumes (f a)) :
    Consumes (p >>= f) :=
  consumes_bind

theorem Consumes.ite {c : Prop} [Decidable c] {p q : Parser α} (hp : Consumes p) (hq : Consumes q) :
    Consumes (if c then p else q) :=
  consumes_ite

/-- A choice by a test, one alternative of which is left to show. -/
theorem Consumes.otherwise {test : Parser Bool} {p q : Parser α} [Consumes test] [Consumes p]
    (hq : Consumes q) :
    Consumes (do if ← test then p else q) :=
  .bind inferInstance fun _ => .ite inferInstance hq

/-! ### Looking ahead -/

/-- What is computed from the input leaves it in place. -/
instance consumes_reader (f : Tokens → α) :
    Consumes (fun input => some (f input, input) : Parser α) where
  suffix h := by
    cases h
    exact List.suffix_rfl

instance consumes_get : Consumes (get : Parser Tokens) :=
  consumes_reader id

instance consumes_look (test : Tokens → Bool) : Consumes (look test) :=
  consumes_reader test

instance consumes_ahead (p : Parser α) : Consumes (ahead p) :=
  consumes_reader fun input => (p input).map Prod.fst

instance consumes_expect (test : Tokens → Bool) : Consumes (expect test) where
  suffix h := by
    unfold expect at h
    rw [Option.ite_none_right_eq_some] at h
    cases h.2
    exact List.suffix_rfl

/-! ### Single tokens -/

instance consumes_advance (count : Nat) : Consumes (advance count) where
  suffix h := by
    cases h
    exact List.drop_suffix count _

instance consumes_punct (operator : String) : Consumes (punct operator) := by
  unfold punct
  infer_instance

instance consumes_punct? (operator : String) : Consumes (punct? operator) := by
  unfold punct?
  infer_instance

instance consumes_keyword (name : String) : Consumes (keyword name) := by
  unfold keyword
  infer_instance

instance consumes_keyword? (name : String) : Consumes (keyword? name) := by
  unfold keyword?
  infer_instance

theorem anyWord_eq_some_iff {input rest : Tokens} {name : String} :
    anyWord input = some (name, rest) ↔ input = word name :: rest := by
  constructor
  · intro h
    unfold anyWord at h
    split at h
    · cases h
      rfl
    · cases h
  · rintro rfl
    rfl

instance consumes_anyWord : Consumes anyWord where
  suffix h := by
    rw [anyWord_eq_some_iff.1 h]
    exact List.suffix_cons _ _

/-- An identifier is a word that is not reserved. -/
theorem identifier_eq_some_iff {input rest : Tokens} {name : String} :
    identifier input = some (name, rest) ↔ input = word name :: rest ∧ isKeyword name = false := by
  constructor
  · intro h
    unfold identifier at h
    split at h
    · rw [Option.ite_none_left_eq_some] at h
      obtain ⟨hplain, h⟩ := h
      cases h
      exact ⟨rfl, Bool.eq_false_iff.2 hplain⟩
    · cases h
  · rintro ⟨rfl, hplain⟩
    show (if isKeyword name then none else some (name, rest)) = some (name, rest)
    rw [hplain]
    rfl

instance consumes_identifier : Consumes identifier where
  suffix h := by
    rw [(identifier_eq_some_iff.1 h).1]
    exact List.suffix_cons _ _

instance consumes_lifetime : Consumes lifetime where
  suffix h := by
    unfold lifetime at h
    split at h
    · cases h
      exact List.suffix_cons _ _
    · cases h

instance consumes_lifetime? : Consumes lifetime? where
  suffix h := by
    unfold lifetime? at h
    split at h
    · cases h
      exact List.suffix_cons _ _
    · cases h
      exact List.suffix_rfl

instance consumes_literal : Consumes literal where
  suffix h := by
    unfold literal splitLiteral? at h
    split at h
    · cases h
      exact List.suffix_cons _ _
    · rw [Option.ite_none_right_eq_some] at h
      cases h.2
      exact List.suffix_cons _ _
    · rw [Option.ite_none_right_eq_some] at h
      cases h.2
      exact (List.suffix_cons _ _).trans (List.suffix_cons _ _)
    · cases h

/-! ### Groups -/

/-- A group stands in front of what is left behind it. -/
theorem group_eq_some_iff {delimiter : Delimiter} {input inner rest : Tokens} :
    group delimiter input = some (inner, rest) ↔ input = .group delimiter inner :: rest := by
  constructor
  · intro h
    unfold group at h
    split at h
    · rw [Option.ite_none_right_eq_some, beq_iff_eq] at h
      obtain ⟨rfl, h⟩ := h
      cases h
      rfl
    · cases h
  · rintro rfl
    exact if_pos (beq_self_eq_true delimiter)

instance consumes_group (delimiter : Delimiter) : Consumes (group delimiter) where
  suffix h := by
    rw [group_eq_some_iff.1 h]
    exact List.suffix_cons _ _

instance consumes_anyGroup : Consumes anyGroup where
  suffix h := by
    unfold anyGroup at h
    split at h
    · cases h
      exact List.suffix_cons _ _
    · cases h

theorem parseAll?_eq_some_iff {p : Parser α} {input : Tokens} {a : α} :
    parseAll? p input = some a ↔ p input = some (a, []) := by
  unfold parseAll?
  split
  · next b hp =>
    rw [hp, Option.some.injEq, Option.some.injEq, Prod.mk.injEq]
    exact ⟨fun h => ⟨h, rfl⟩, And.left⟩
  · next hp =>
    exact ⟨nofun, fun h => absurd h (hp a)⟩

/-- What stands inside a group is read in full. -/
theorem inside_eq_some_iff {delimiter : Delimiter} {p : Parser α} {input rest : Tokens} {a : α} :
    inside delimiter p input = some (a, rest)
      ↔ ∃ inner, input = .group delimiter inner :: rest ∧ p inner = some (a, []) := by
  unfold inside
  rw [bind_eq_some_iff]
  constructor
  · rintro ⟨inner, mid, hgroup, h⟩
    cases hinner : parseAll? p inner with
    | none =>
      rw [hinner] at h
      cases h
    | some b =>
      rw [hinner] at h
      cases h
      exact ⟨inner, group_eq_some_iff.1 hgroup, parseAll?_eq_some_iff.1 hinner⟩
  · rintro ⟨inner, hgroup, hinner⟩
    refine ⟨inner, rest, group_eq_some_iff.2 hgroup, ?_⟩
    rw [parseAll?_eq_some_iff.2 hinner]
    rfl

instance consumes_inside (delimiter : Delimiter) (p : Parser α) :
    Consumes (inside delimiter p) where
  suffix h := by
    obtain ⟨inner, hinput, -⟩ := inside_eq_some_iff.1 h
    rw [hinput]
    exact List.suffix_cons _ _

theorem withTokens_eq_some_iff {p : Parser α} {input rest tokens : Tokens} {a : α} :
    withTokens p input = some ((a, tokens), rest)
      ↔ p input = some (a, rest) ∧ tokens = input.take (input.length - rest.length) := by
  unfold withTokens
  split
  · next b left hp =>
    rw [hp, Option.some.injEq, Option.some.injEq, Prod.mk.injEq, Prod.mk.injEq, Prod.mk.injEq]
    constructor
    · rintro ⟨⟨rfl, rfl⟩, rfl⟩
      exact ⟨⟨rfl, rfl⟩, rfl⟩
    · rintro ⟨⟨rfl, rfl⟩, rfl⟩
      exact ⟨⟨rfl, rfl⟩, rfl⟩
  · next hp =>
    rw [hp]
    exact ⟨nofun, fun h => nomatch h.1⟩

instance consumes_withTokens {p : Parser α} [hp : Consumes p] : Consumes (withTokens p) where
  suffix h := hp.suffix (withTokens_eq_some_iff.1 h).1

/-! ### Repetition -/

instance consumes_whileAt (test : Tokens → Bool) {p : Parser α} [Consumes p] (fuel : Nat) :
    Consumes (whileAt test p fuel) := by
  induction fuel with
  | zero => exact consumes_failure
  | succ fuel ih =>
    unfold whileAt
    infer_instance

instance consumes_foldAt (test : Tokens → Bool) {step : α → Parser α} [∀ a, Consumes (step a)]
    (fuel : Nat) (a : α) :
    Consumes (foldAt test step fuel a) := by
  induction fuel generalizing a with
  | zero => exact consumes_failure
  | succ fuel ih =>
    unfold foldAt
    infer_instance

instance consumes_untilAt (stop : Tokens → Bool) (separator : String) {p : Parser α} [Consumes p]
    (fuel : Nat) :
    Consumes (untilAt stop separator p fuel) := by
  induction fuel with
  | zero => exact consumes_failure
  | succ fuel ih =>
    unfold untilAt
    infer_instance

instance consumes_linkedAt (stop : Tokens → Bool) (separator : String) {p : Parser α} [Consumes p]
    (fuel : Nat) :
    Consumes (linkedAt stop separator p fuel) := by
  induction fuel with
  | zero => exact consumes_failure
  | succ fuel ih =>
    unfold linkedAt
    infer_instance

instance consumes_repeatWhile (test : Tokens → Bool) {p : Parser α} [Consumes p] :
    Consumes (repeatWhile test p) where
  suffix h := (consumes_whileAt test _).suffix h

instance consumes_foldWhile (test : Tokens → Bool) {step : α → Parser α} [∀ a, Consumes (step a)]
    (a : α) :
    Consumes (foldWhile test step a) where
  suffix h := (consumes_foldAt test _ a).suffix h

instance consumes_listUntil (stop : Tokens → Bool) (separator : String) {p : Parser α}
    [Consumes p] :
    Consumes (listUntil stop separator p) where
  suffix h := (consumes_untilAt stop separator _).suffix h

instance consumes_listWhile (stop : Tokens → Bool) (separator : String) {p : Parser α}
    [Consumes p] :
    Consumes (listWhile stop separator p) where
  suffix h := (consumes_linkedAt stop separator _).suffix h

theorem exists_of_mem_whileAt {test : Tokens → Bool} {p : Parser α} [hp : Consumes p] {fuel : Nat}
    {input rest : Tokens} {as : List α} {a : α} (h : whileAt test p fuel input = some (as, rest))
    (ha : a ∈ as) :
    ∃ here left, here <:+ input ∧ p here = some (a, left) := by
  induction fuel generalizing input as with
  | zero => cases h
  | succ fuel ih =>
    obtain ⟨more, _, hlook, h⟩ := bind_eq_some_iff.1 h
    cases hlook
    cases hmore : test input with
    | false =>
      rw [hmore] at h
      cases h
      cases ha
    | true =>
      rw [hmore] at h
      obtain ⟨first, mid, hfirst, h⟩ := bind_eq_some_iff.1 h
      obtain ⟨others, _, hothers, h⟩ := bind_eq_some_iff.1 h
      cases h
      rcases List.mem_cons.1 ha with rfl | ha
      · exact ⟨input, mid, List.suffix_rfl, hfirst⟩
      · obtain ⟨here, left, hsuffix, hhere⟩ := ih hothers ha
        exact ⟨here, left, hsuffix.trans (hp.suffix hfirst), hhere⟩

/-- Each result of a repetition is read off an end of the input. -/
theorem exists_of_mem_repeatWhile {test : Tokens → Bool} {p : Parser α} [Consumes p]
    {input rest : Tokens} {as : List α} {a : α} (h : repeatWhile test p input = some (as, rest))
    (ha : a ∈ as) :
    ∃ here left, here <:+ input ∧ p here = some (a, left) :=
  exists_of_mem_whileAt h ha

end FluentBuilder.Code
