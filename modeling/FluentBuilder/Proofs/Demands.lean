import FluentBuilder.Proofs.Outcome

/-!
# Demands in order

A computation that checks one thing behind the other makes a list of demands.  It succeeds when all
of them are met, and fails as the first says that is not.  The demands of a composed computation are
those of its parts, in order.

* `FirstUnmet` — the failure of the first demand that is not met;
* `Makes` — a computation and the demands that it makes;
* `Makes.bind`, `Makes.mapM`, `Makes.foldlM` — the demands of composed computations;
* `Makes.without` — a demand that follows from those in front of it never decides;
* `Makes.exists_eq_ok_iff`, `Makes.eq_error_iff` — when a computation succeeds, and how it fails.
-/

namespace FluentBuilder

variable {α β ε ε' : Type}

/-- What a computation asks for, and how it fails where that does not hold. -/
structure Demand (ε : Type) where
  Met : Prop
  failure : ε

/-- The failure of the first demand that is not met. -/
inductive FirstUnmet : List (Demand ε) → ε → Prop
  | here {d : Demand ε} (rest : List (Demand ε)) : ¬ d.Met → FirstUnmet (d :: rest) d.failure
  | behind {d : Demand ε} {rest : List (Demand ε)} {e : ε} : d.Met → FirstUnmet rest e →
    FirstUnmet (d :: rest) e

/-- A computation that makes the given demands in order. -/
inductive Makes (demands : List (Demand ε)) : Except ε α → Prop
  | ok (a : α) : (∀ d ∈ demands, d.Met) → Makes demands (.ok a)
  | error {e : ε} : FirstUnmet demands e → Makes demands (.error e)

/-! ### The first unmet demand -/

theorem FirstUnmet.exists_not_met {demands : List (Demand ε)} {e : ε} (h : FirstUnmet demands e) :
    ∃ d ∈ demands, ¬ d.Met := by
  induction h with
  | here rest hnot => exact ⟨_, List.mem_cons_self, hnot⟩
  | behind _ _ ih =>
    obtain ⟨d, hd, hnot⟩ := ih
    exact ⟨d, List.mem_cons_of_mem _ hd, hnot⟩

theorem FirstUnmet.unique {demands : List (Demand ε)} {e e' : ε} (h : FirstUnmet demands e)
    (h' : FirstUnmet demands e') : e = e' := by
  induction h with
  | here rest hnot =>
    cases h' with
    | here => rfl
    | behind hmet _ => exact absurd hmet hnot
  | behind hmet _ ih =>
    cases h' with
    | here _ hnot => exact absurd hmet hnot
    | behind _ h' => exact ih h'

theorem firstUnmet_append_iff {front back : List (Demand ε)} {e : ε} :
    FirstUnmet (front ++ back) e ↔ FirstUnmet front e ∨ (∀ d ∈ front, d.Met)
      ∧ FirstUnmet back e := by
  induction front with
  | nil => exact ⟨fun h => .inr ⟨nofun, h⟩, fun h => h.elim nofun And.right⟩
  | cons d rest ih =>
    constructor
    · intro h
      cases h with
      | here _ hnot => exact .inl (.here rest hnot)
      | behind hmet h =>
        rcases ih.1 h with h | ⟨hrest, h⟩
        · exact .inl (.behind hmet h)
        · exact .inr ⟨List.forall_mem_cons.2 ⟨hmet, hrest⟩, h⟩
    · rintro (h | ⟨hfront, h⟩)
      · cases h with
        | here _ hnot => exact .here _ hnot
        | behind hmet h => exact .behind hmet (ih.2 (.inl h))
      · obtain ⟨hmet, hrest⟩ := List.forall_mem_cons.1 hfront
        exact .behind hmet (ih.2 (.inr ⟨hrest, h⟩))

/-! ### Success and failure -/

/-- A computation succeeds exactly when its demands are met. -/
theorem Makes.exists_eq_ok_iff {demands : List (Demand ε)} {x : Except ε α} (h : Makes demands x) :
    (∃ a, x = .ok a) ↔ ∀ d ∈ demands, d.Met := by
  cases h with
  | ok a hmet => exact iff_of_true ⟨a, rfl⟩ hmet
  | error h =>
    obtain ⟨d, hd, hnot⟩ := h.exists_not_met
    exact iff_of_false nofun fun hmet => hnot (hmet d hd)

/-- It fails exactly as the first demand says that is not met. -/
theorem Makes.eq_error_iff {demands : List (Demand ε)} {x : Except ε α} (h : Makes demands x)
    {e : ε} :
    x = .error e ↔ FirstUnmet demands e := by
  cases h with
  | ok a hmet =>
    refine iff_of_false nofun fun h => ?_
    obtain ⟨d, hd, hnot⟩ := h.exists_not_met
    exact hnot (hmet d hd)
  | error h =>
    rw [Except.error.injEq]
    exact ⟨fun he => he ▸ h, h.unique⟩

/-! ### Composed computations -/

/-- A computation with one way to fail makes one demand. -/
theorem makes_singleton {met : Prop} {failure : ε} {x : Except ε α} (hok : (∃ a, x = .ok a) ↔ met)
    (herror : ∀ e, x = .error e → e = failure) : Makes [⟨met, failure⟩] x := by
  cases x with
  | ok a => exact .ok a (List.forall_mem_singleton.2 (hok.1 ⟨a, rfl⟩))
  | error e =>
    cases herror e rfl
    exact .error (.here [] fun hmet => nomatch hok.2 hmet)

theorem Makes.done (a : α) : Makes ([] : List (Demand ε)) (.ok a) :=
  .ok a nofun

/-- A demand that is met is not noticed. -/
theorem Makes.cons {d : Demand ε} {demands : List (Demand ε)} {x : Except ε α} (hmet : d.Met)
    (h : Makes demands x) :
    Makes (d :: demands) x := by
  cases h with
  | ok a hall => exact .ok a (List.forall_mem_cons.2 ⟨hmet, hall⟩)
  | error h => exact .error (.behind hmet h)

/-- A test in front of a computation makes a demand. -/
theorem makes_check {c met : Prop} [Decidable c] {failure : ε} {demands : List (Demand ε)}
    {x : Except ε α} (hc : c ↔ met) (h : c → Makes demands x) :
    Makes (⟨met, failure⟩ :: demands) (if c then x else .error failure) := by
  by_cases hmet : c
  · rw [if_pos hmet]
    exact (h hmet).cons (hc.1 hmet)
  · rw [if_neg hmet]
    exact .error (.here demands fun h => hmet (hc.2 h))

/-- So does a test for a failure. -/
theorem makes_check_not {c met : Prop} [Decidable c] {failure : ε} {demands : List (Demand ε)}
    {x : Except ε α} (hc : ¬ c ↔ met) (h : ¬ c → Makes demands x) :
    Makes (⟨met, failure⟩ :: demands) (if c then .error failure else x) := by
  rw [← ite_not]
  exact makes_check hc h

theorem Makes.bind {demands more : List (Demand ε)} {x : Except ε α} {f : α → Except ε β}
    (h : Makes demands x) (hf : ∀ a, x = .ok a → Makes more (f a)) :
    Makes (demands ++ more) (x >>= f) := by
  cases h with
  | error h => exact .error (firstUnmet_append_iff.2 (.inl h))
  | ok a hmet =>
    show Makes (demands ++ more) (f a)
    have hmore := hf a rfl
    generalize f a = y at hmore
    cases hmore with
    | ok b hmore => exact .ok b (List.forall_mem_append.2 ⟨hmet, hmore⟩)
    | error h => exact .error (firstUnmet_append_iff.2 (.inr ⟨hmet, h⟩))

/-- What is done with the result makes no demand. -/
theorem Makes.map {demands : List (Demand ε)} {x : Except ε α} {f : α → β} (h : Makes demands x) :
    Makes demands (x >>= fun a => .ok (f a)) := by
  have hbind : Makes (demands ++ []) (x >>= fun a => .ok (f a)) := h.bind fun a _ => .done (f a)
  rwa [List.append_nil] at hbind

/-- The same step for each element of a list makes the demands of each. -/
theorem Makes.mapM {demands : α → List (Demand ε)} {f : α → Except ε β} {xs : List α}
    (h : ∀ x ∈ xs, Makes (demands x) (f x)) : Makes (xs.flatMap demands) (xs.mapM f) := by
  induction xs with
  | nil => exact .done []
  | cons x rest ih =>
    obtain ⟨hhere, hrest⟩ := List.forall_mem_cons.1 h
    rw [List.mapM_cons, List.flatMap_cons]
    exact hhere.bind fun _ _ => (ih hrest).map

theorem Makes.mapM_singleton {demand : α → Demand ε} {f : α → Except ε β} {xs : List α}
    (h : ∀ x ∈ xs, Makes [demand x] (f x)) : Makes (xs.map demand) (xs.mapM f) := by
  rw [List.map_eq_flatMap]
  exact .mapM h

/-- A fold makes the demands of each element, if they do not depend on what came before. -/
theorem Makes.foldlM {demands : α → List (Demand ε)} {f : β → α → Except ε β} {xs : List α}
    (h : ∀ x ∈ xs, ∀ b, Makes (demands x) (f b x)) (b : β) :
    Makes (xs.flatMap demands) (xs.foldlM f b) := by
  induction xs generalizing b with
  | nil => exact .done b
  | cons x rest ih =>
    obtain ⟨hhere, hrest⟩ := List.forall_mem_cons.1 h
    rw [List.foldlM_cons, List.flatMap_cons]
    exact (hhere b).bind fun next _ => ih hrest next

/-- Demands that follow from those in front of them never decide. -/
theorem Makes.without {front between back : List (Demand ε)} {x : Except ε α}
    (h : Makes (front ++ between ++ back) x) (hmet : (∀ d ∈ front, d.Met) → ∀ d ∈ between, d.Met) :
    Makes (front ++ back) x := by
  cases h with
  | ok a hall =>
    rw [List.forall_mem_append, List.forall_mem_append] at hall
    exact .ok a (List.forall_mem_append.2 ⟨hall.1.1, hall.2⟩)
  | error h =>
    refine .error (firstUnmet_append_iff.2 ?_)
    rcases firstUnmet_append_iff.1 h with h | ⟨hfront, h⟩
    · rcases firstUnmet_append_iff.1 h with h | ⟨hfront, h⟩
      · exact .inl h
      · obtain ⟨d, hd, hnot⟩ := h.exists_not_met
        exact absurd (hmet hfront d hd) hnot
    · exact .inr ⟨(List.forall_mem_append.1 hfront).1, h⟩

theorem Makes.without_last {front back : List (Demand ε)} {x : Except ε α}
    (h : Makes (front ++ back) x) (hmet : (∀ d ∈ front, d.Met) → ∀ d ∈ back, d.Met) :
    Makes front x := by
  rw [← List.append_nil (front ++ back)] at h
  have hfront := h.without hmet
  rwa [List.append_nil] at hfront

end FluentBuilder
