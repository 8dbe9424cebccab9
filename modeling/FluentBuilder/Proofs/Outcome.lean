import Mathlib.Data.List.Forall2

/-!
# Outcomes step by step

A computation that can fail is opened one step at a time: what a sequence of steps gives is said by
what its steps give.

* `bind_eq_ok_iff`, `mapError_eq_ok_iff` — one step behind another, and a step with another kind of
  failure;
* `mapM_eq_ok_iff`, `mapM_eq_error_iff` — the same step for each element of a list;
* `foldlM_ok_of`, `foldlM_ok_of_mem` — a property that the steps of a fold keep, or that one of them
  brings about;
* `mapM_ok_eq_map`, `foldlM_ok_eq_foldl` — steps that give what a function says;
* `exists_of_mem_right` — each result comes from an element;
* `Alike` — two computations that both fail, or both succeed with results in a relation.
-/

namespace FluentBuilder

variable {α β ε ε' : Type}

theorem bind_eq_ok_iff {x : Except ε α} {f : α → Except ε β} {b : β} :
    x >>= f = .ok b ↔ ∃ a, x = .ok a ∧ f a = .ok b := by
  constructor
  · intro h
    cases x with
    | error e => cases h
    | ok a => exact ⟨a, rfl, h⟩
  · rintro ⟨a, rfl, hf⟩
    exact hf

theorem mapError_eq_ok_iff {x : Except ε α} {f : ε → ε'} {a : α} :
    x.mapError f = .ok a ↔ x = .ok a := by
  constructor
  · intro h
    cases x with
    | error e => cases h
    | ok b =>
      cases h
      rfl
  · rintro rfl
    rfl

/-- What a test on the result of a step says about the step. -/
theorem exists_ok_of_any {x : Except ε α} {p : α → Bool} (h : x.toOption.any p = true) :
    ∃ a, x = .ok a ∧ p a = true := by
  cases x with
  | error e => cases h
  | ok a => exact ⟨a, rfl, h⟩

/-- The same step for each element of a list succeeds when it does so for each of them. -/
theorem mapM_eq_ok_iff {f : α → Except ε β} {xs : List α} {ys : List β} :
    xs.mapM f = .ok ys ↔ List.Forall₂ (fun x y => f x = .ok y) xs ys := by
  induction xs generalizing ys with
  | nil =>
    rw [List.mapM_nil, List.forall₂_nil_left_iff]
    constructor
    · intro h
      cases h
      rfl
    · rintro rfl
      rfl
  | cons x rest ih =>
    rw [List.mapM_cons, bind_eq_ok_iff]
    constructor
    · rintro ⟨y, hy, hrest⟩
      obtain ⟨others, hothers, hys⟩ := bind_eq_ok_iff.1 hrest
      cases hys
      exact .cons hy (ih.1 hothers)
    · intro h
      cases h with
      | cons hy hothers => exact ⟨_, hy, bind_eq_ok_iff.2 ⟨_, ih.2 hothers, rfl⟩⟩

theorem mapM_append_eq_ok_iff {f : α → Except ε β} {xs ys : List α} {zs : List β} :
    (xs ++ ys).mapM f = .ok zs ↔ ∃ front back, xs.mapM f = .ok front ∧ ys.mapM f = .ok back
      ∧ zs = front ++ back := by
  rw [List.mapM_append, bind_eq_ok_iff]
  constructor
  · rintro ⟨front, hfront, h⟩
    obtain ⟨back, hback, h⟩ := bind_eq_ok_iff.1 h
    cases h
    exact ⟨front, back, hfront, hback, rfl⟩
  · rintro ⟨front, back, hfront, hback, rfl⟩
    exact ⟨front, hfront, bind_eq_ok_iff.2 ⟨back, hback, rfl⟩⟩

theorem mapM_singleton_eq_ok_iff {f : α → Except ε β} {x : α} {ys : List β} :
    [x].mapM f = .ok ys ↔ ∃ y, f x = .ok y ∧ ys = [y] := by
  rw [List.mapM_cons, List.mapM_nil, bind_eq_ok_iff]
  refine exists_congr fun y => and_congr_right fun _ => ?_
  show Except.ok [y] = Except.ok ys ↔ _
  rw [Except.ok.injEq, eq_comm]

theorem exists_mapM_eq_ok_iff {f : α → Except ε β} {xs : List α} :
    (∃ ys, xs.mapM f = .ok ys) ↔ ∀ x ∈ xs, ∃ y, f x = .ok y := by
  simp only [mapM_eq_ok_iff]
  induction xs with
  | nil => simp
  | cons x rest ih =>
    rw [List.forall_mem_cons, ← ih]
    constructor
    · rintro ⟨ys, h⟩
      cases h with
      | cons hx hrest => exact ⟨⟨_, hx⟩, ⟨_, hrest⟩⟩
    · rintro ⟨⟨y, hy⟩, ys, hys⟩
      exact ⟨y :: ys, .cons hy hys⟩

/-- It fails as it does for the first element for which it fails. -/
theorem mapM_eq_error_iff {f : α → Except ε β} {xs : List α} {e : ε} :
    xs.mapM f = .error e
      ↔ ∃ front x back, xs = front ++ x :: back ∧ (∀ x' ∈ front, ∃ y, f x' = .ok y)
        ∧ f x = .error e := by
  induction xs with
  | nil => simp [List.mapM_nil, pure, Except.pure]
  | cons x rest ih =>
    rw [List.mapM_cons]
    cases hx : f x with
    | error reason =>
      constructor
      · intro h
        cases h
        exact ⟨[], x, rest, rfl, nofun, hx⟩
      · rintro ⟨front, x', back, hsplit, hfront, hx'⟩
        cases front with
        | nil =>
          cases hsplit
          rw [hx] at hx'
          cases hx'
          rfl
        | cons first more =>
          cases hsplit
          obtain ⟨y, hy⟩ := hfront x List.mem_cons_self
          rw [hx] at hy
          cases hy
    | ok y =>
      have hrest : ((Except.ok y : Except ε β) >>= fun y => rest.mapM f >>= fun ys =>
        pure (y :: ys)) = .error e
          ↔ rest.mapM f = .error e := by
        cases rest.mapM f <;> simp [bind, Except.bind, pure, Except.pure]
      rw [hrest, ih]
      constructor
      · rintro ⟨front, x', back, rfl, hfront, hx'⟩
        exact ⟨x :: front, x', back, rfl, List.forall_mem_cons.2 ⟨⟨y, hx⟩, hfront⟩, hx'⟩
      · rintro ⟨front, x', back, hsplit, hfront, hx'⟩
        cases front with
        | nil =>
          cases hsplit
          rw [hx] at hx'
          cases hx'
        | cons first more =>
          cases hsplit
          exact ⟨more, x', back, rfl, (List.forall_mem_cons.1 hfront).2, hx'⟩

/-- What every step of a fold keeps holds at its end. -/
theorem foldlM_ok_of {f : β → α → Except ε β} {P : β → Prop} {xs : List α} {b b' : β}
    (hkeeps : ∀ x ∈ xs, ∀ b b', f b x = .ok b' → P b → P b') (h : xs.foldlM f b = .ok b')
    (hb : P b) : P b' := by
  induction xs generalizing b with
  | nil =>
    cases h
    exact hb
  | cons x rest ih =>
    obtain ⟨next, hnext, hrest⟩ := bind_eq_ok_iff.1 h
    obtain ⟨hhere, hkeeps⟩ := List.forall_mem_cons.1 hkeeps
    exact ih hkeeps hrest (hhere b next hnext hb)

/-- What one step of a fold brings about, and every step keeps, holds at its end. -/
theorem foldlM_ok_of_mem {f : β → α → Except ε β} {P : β → Prop} {xs : List α} {x : α} {b b' : β}
    (hkeeps : ∀ b b' x, f b x = .ok b' → P b → P b') (hx : x ∈ xs)
    (hbrings : ∀ b b', f b x = .ok b' → P b') (h : xs.foldlM f b = .ok b') : P b' := by
  induction xs generalizing b with
  | nil => cases hx
  | cons y rest ih =>
    obtain ⟨next, hnext, hrest⟩ := bind_eq_ok_iff.1 h
    rcases List.mem_cons.1 hx with rfl | hx
    · exact foldlM_ok_of (fun x _ b b' => hkeeps b b' x) hrest (hbrings b next hnext)
    · exact ih hx hrest

/-- A step that answers on everything of a kind answers on a list of such. -/
theorem mapM_map_of_some {γ : Type} {f : β → Option γ} {g : α → β} {h : α → γ}
    (hf : ∀ a, f (g a) = some (h a)) (xs : List α) : (xs.map g).mapM f = some (xs.map h) := by
  induction xs with
  | nil => rfl
  | cons x rest ih =>
    rw [List.map_cons, List.mapM_cons, hf, ih]
    rfl

/-- Where each step gives what a function says, so do all of them. -/
theorem mapM_ok_eq_map {f : α → Except ε β} {g : α → β} (hfg : ∀ x y, f x = .ok y → y = g x)
    {xs : List α} {ys : List β} (h : xs.mapM f = .ok ys) : ys = xs.map g := by
  have hall := mapM_eq_ok_iff.1 h
  induction hall with
  | nil => rfl
  | cons hhead htail ih => rw [List.map_cons, ← hfg _ _ hhead, ← ih (mapM_eq_ok_iff.2 htail)]

theorem foldlM_ok_eq_foldl {f : β → α → Except ε β} {g : β → α → β}
    (hfg : ∀ b x b', f b x = .ok b' → b' = g b x) {xs : List α} {b b' : β}
    (h : xs.foldlM f b = .ok b') : b' = xs.foldl g b := by
  induction xs generalizing b with
  | nil =>
    cases h
    rfl
  | cons x rest ih =>
    obtain ⟨next, hnext, hrest⟩ := bind_eq_ok_iff.1 h
    rw [ih hrest, hfg b x next hnext, List.foldl_cons]

/-- Each element of a list stands for one of the list that it was made from. -/
theorem exists_of_mem_right {r : α → β → Prop} {as : List α} {bs : List β} {b : β}
    (h : List.Forall₂ r as bs) (hb : b ∈ bs) : ∃ a ∈ as, r a b := by
  induction h with
  | nil => cases hb
  | @cons a c as bs hac _ ih =>
    rcases List.mem_cons.1 hb with rfl | hb
    · exact ⟨a, List.mem_cons_self, hac⟩
    · obtain ⟨a', ha', hr⟩ := ih hb
      exact ⟨a', List.mem_cons_of_mem a ha', hr⟩

/-! ### Two computations side by side -/

/-- Two outcomes of the same kind: two failures, or two results in a relation. -/
inductive Alike (r : α → β → Prop) : Except ε α → Except ε' β → Prop where
  | ok {a : α} {b : β} : r a b → Alike r (.ok a) (.ok b)
  | error (e : ε) (e' : ε') : Alike r (.error e) (.error e')

theorem Alike.mono {r q : α → β → Prop} {x : Except ε α} {y : Except ε' β} (h : Alike r x y)
    (hrq : ∀ a b, r a b → q a b) : Alike q x y := by
  cases h with
  | ok hr => exact .ok (hrq _ _ hr)
  | error e e' => exact .error e e'

/-- The results are what the second computation gives. -/
theorem Alike.and_eq_ok {r : α → β → Prop} {x : Except ε α} {y : Except ε' β} (h : Alike r x y) :
    Alike (fun a b => r a b ∧ y = .ok b) x y := by
  cases h with
  | ok hr => exact .ok ⟨hr, rfl⟩
  | error e e' => exact .error e e'

/-- Steps that are alike, one behind the other. -/
theorem Alike.bind {γ δ : Type} {r : α → β → Prop} {q : γ → δ → Prop} {x : Except ε α}
    {y : Except ε' β} {f : α → Except ε γ} {g : β → Except ε' δ} (h : Alike r x y)
    (hfg : ∀ a b, r a b → Alike q (f a) (g b)) :
    Alike q (x >>= f) (y >>= g) := by
  cases h with
  | ok hr => exact hfg _ _ hr
  | error e e' => exact .error e e'

theorem Alike.map {γ δ : Type} {r : α → β → Prop} {q : γ → δ → Prop} {x : Except ε α}
    {y : Except ε' β} {f : α → γ}
    {g : β → δ} (h : Alike r x y) (hfg : ∀ a b, r a b → q (f a) (g b)) :
    Alike q (x.map f) (y.map g) := by
  cases h with
  | ok hr => exact .ok (hfg _ _ hr)
  | error e e' => exact .error e e'

/-- Steps that are alike for the elements of two lists. -/
theorem Alike.mapM {γ δ : Type} {p : α → β → Prop} {r : γ → δ → Prop} {f : α → Except ε γ}
    {g : β → Except ε' δ} {xs : List α} {ys : List β} (h : List.Forall₂ p xs ys)
    (hfg : ∀ x ∈ xs, ∀ y, p x y → Alike r (f x) (g y)) :
    Alike (List.Forall₂ r) (xs.mapM f) (ys.mapM g) := by
  induction h with
  | nil => exact .ok .nil
  | @cons x y xs ys hxy _ ih =>
    obtain ⟨hhere, hrest⟩ := List.forall_mem_cons.1 hfg
    rw [List.mapM_cons, List.mapM_cons]
    exact (hhere y hxy).bind fun _ _ hr => (ih hrest).bind fun _ _ hrs => .ok (.cons hr hrs)

end FluentBuilder
