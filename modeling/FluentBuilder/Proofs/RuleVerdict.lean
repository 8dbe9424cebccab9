import FluentBuilder.BuilderModel

/-!
# What the usual rules accept

The rules are programs that look for a violation.  This file says without them which types are
accepted, and which violation comes first:

* `Field.Offered`, `Constructor.Callable`, `Field.Hides` — the conditions on members that the rules
  ask about;
* `FirstViolation` — the first violation of a type in the order abstract, constructor, collision;
* `TypeDescriptor.Buildable` — the types that have none;
* `validate_of_buildable`, `validate_of_firstViolation` — the verdict of the usual chain on the two
  kinds of types;
* `buildable_or_firstViolation` — every type is of one kind.

The lemmas on `validate` in front of them hold of every chain.
-/

namespace FluentBuilder

/-! ### Members -/

/-- A field that the builder offers: unmarked, and a sibling of its type may assign it. -/
def Field.Offered (field : Field) : Prop :=
  field.excluded = false ∧ field.isStatic = false ∧ field.isFinal = false ∧ field.visibility ≠ .priv

instance (field : Field) : Decidable field.Offered :=
  inferInstanceAs (Decidable (_ ∧ _ ∧ _ ∧ _))

/-- A constructor that a sibling of its type can call without arguments. -/
def Constructor.Callable (c : Constructor) : Prop :=
  c.params = [] ∧ c.visibility ≠ .priv

/-- A field whose name is that of a fixed method behind any number of raw marks. -/
def Field.Hides (field : Field) (method : FixedMethod) : Prop :=
  ∃ marks, field.name.toList = (List.replicate marks ['r', '#']).flatten ++ method.name.toList

theorem Visibility.isRestricted_eq_false_iff (v : Visibility) :
    v.isRestricted = false ↔ v ≠ .priv := by
  cases v <;> simp [Visibility.isRestricted]

theorem Field.isEligible_iff_offered (field : Field) : field.isEligible = true ↔ field.Offered := by
  rw [Field.isEligible_iff, Visibility.isRestricted_eq_false_iff]
  rfl

theorem Constructor.isAccessible_iff_callable (c : Constructor) :
    c.isAccessible = true ↔ c.Callable := by
  rw [Constructor.isAccessible, Bool.and_eq_true, List.isEmpty_iff, Bool.not_eq_true',
    Visibility.isRestricted_eq_false_iff]
  rfl

/-- The fields that a builder offers are the offered ones, in declaration order. -/
theorem TypeDescriptor.eligible_eq_filter_offered (t : TypeDescriptor) :
    t.eligible = t.fields.filter fun field => decide field.Offered := by
  unfold TypeDescriptor.eligible
  congr 1
  funext field
  rw [Bool.eq_iff_iff, Field.isEligible_iff_offered, decide_eq_true_iff]

theorem TypeDescriptor.mem_eligible_iff {t : TypeDescriptor} {field : Field} :
    field ∈ t.eligible ↔ field ∈ t.fields ∧ field.Offered := by
  rw [TypeDescriptor.eligible, List.mem_filter, Field.isEligible_iff_offered]

/-- The constructor that is pinned is the first callable one. -/
theorem TypeDescriptor.accessibleConstructor?_eq_some_iff {t : TypeDescriptor} {c : Constructor} :
    t.accessibleConstructor? = some c ↔ ∃ before after, t.constructors = before ++ c :: after
      ∧ c.Callable ∧ ∀ d ∈ before, ¬ d.Callable := by
  rw [TypeDescriptor.accessibleConstructor?, List.find?_eq_some_iff_append,
    Constructor.isAccessible_iff_callable]
  constructor
  · rintro ⟨hc, before, after, hsplit, hbefore⟩
    refine ⟨before, after, hsplit, hc, fun d hd hcall => ?_⟩
    have hno := hbefore d hd
    rw [(Constructor.isAccessible_iff_callable d).2 hcall] at hno
    exact Bool.noConfusion hno
  · rintro ⟨before, after, hsplit, hc, hbefore⟩
    refine ⟨hc, before, after, hsplit, fun d hd => ?_⟩
    rw [Bool.not_eq_true', Bool.eq_false_iff]
    exact fun hacc => hbefore d hd ((Constructor.isAccessible_iff_callable d).1 hacc)

theorem TypeDescriptor.accessibleConstructor?_eq_none_iff {t : TypeDescriptor} :
    t.accessibleConstructor? = none ↔ ∀ c ∈ t.constructors, ¬ c.Callable := by
  rw [TypeDescriptor.accessibleConstructor?, List.find?_eq_none]
  constructor
  · exact fun h c hc hcall => h c hc ((Constructor.isAccessible_iff_callable c).2 hcall)
  · exact fun h c hc hacc => h c hc ((Constructor.isAccessible_iff_callable c).1 hacc)

/-! ### Raw marks -/

theorem dropRawMarks_marks (marks : Nat) (name : List Char) :
    dropRawMarks ((List.replicate marks ['r', '#']).flatten ++ name) = dropRawMarks name := by
  induction marks with
  | zero => rfl
  | succ marks ih =>
    rw [List.replicate_succ, List.flatten_cons, List.append_assoc]
    show dropRawMarks ((List.replicate marks ['r', '#']).flatten ++ name) = dropRawMarks name
    exact ih

/-- Dropping the raw marks of a name takes away nothing else. -/
theorem exists_marks_dropRawMarks (name : List Char) :
    ∃ marks, name = (List.replicate marks ['r', '#']).flatten ++ dropRawMarks name := by
  fun_induction dropRawMarks name with
  | case1 rest ih =>
    obtain ⟨marks, hrest⟩ := ih
    refine ⟨marks + 1, ?_⟩
    rw [List.replicate_succ, List.flatten_cons, List.append_assoc, ← hrest]
    rfl
  | case2 name _ => exact ⟨0, rfl⟩

theorem FixedMethod.dropRawMarks_name (method : FixedMethod) :
    dropRawMarks method.name.toList = method.name.toList := by
  cases method <;> rfl

/-- A field hides a method exactly when its name without raw marks is the name of the method. -/
theorem Field.hides_iff {field : Field} {method : FixedMethod} :
    field.Hides method ↔ String.ofList (dropRawMarks field.name.toList) = method.name := by
  constructor
  · rintro ⟨marks, hname⟩
    rw [hname, dropRawMarks_marks, method.dropRawMarks_name, String.ofList_toList]
  · intro h
    obtain ⟨marks, hname⟩ := exists_marks_dropRawMarks field.name.toList
    refine ⟨marks, ?_⟩
    rw [← h, String.toList_ofList]
    exact hname

theorem Field.collision?_eq_some_iff {field : Field} {method : FixedMethod} :
    field.collision? = some method ↔ field.Hides method := by
  rw [Field.hides_iff]
  simp only [Field.collision?]
  constructor
  · intro h
    split at h
    · next hf => cases h; exact hf
    · split at h
      · next ht => cases h; exact ht
      · cases h
  · intro h
    cases method with
    | factory => rw [if_pos h]
    | terminal =>
      have hf : String.ofList (dropRawMarks field.name.toList) ≠ FixedMethod.factory.name := by
        rw [h]; decide
      rw [if_neg hf, if_pos h]

theorem Field.collision?_eq_none_iff {field : Field} :
    field.collision? = none ↔ ∀ method, ¬ field.Hides method := by
  rw [Option.eq_none_iff_forall_ne_some]
  exact forall_congr' fun method => not_congr Field.collision?_eq_some_iff

/-! ### Single rules -/

theorem Rule.check?_noAbstractType_eq_none_iff {t : TypeDescriptor} :
    Rule.check? t .noAbstractType = none ↔ t.isAbstract = false := by
  simp only [Rule.check?]
  cases t.isAbstract <;> simp

theorem Rule.check?_requiresConstructor_eq_none_iff {t : TypeDescriptor} :
    Rule.check? t .requiresConstructor = none ↔ ∃ c ∈ t.constructors, c.Callable := by
  simp only [Rule.check?]
  cases hc : t.accessibleConstructor? with
  | none =>
    have hno := TypeDescriptor.accessibleConstructor?_eq_none_iff.1 hc
    simpa using hno
  | some c =>
    obtain ⟨before, after, hsplit, hcall, -⟩ :=
      TypeDescriptor.accessibleConstructor?_eq_some_iff.1 hc
    simp only [Option.isSome_some, if_true, true_iff]
    exact ⟨c, by rw [hsplit]; simp, hcall⟩

theorem Rule.check?_noMethodCollision_eq_none_iff {t : TypeDescriptor} :
    Rule.check? t .noMethodCollision = none
      ↔ ∀ field ∈ t.fields, field.Offered → ∀ method, ¬ field.Hides method := by
  simp only [Rule.check?, List.findSome?_eq_none_iff, Option.map_eq_none_iff,
    Field.collision?_eq_none_iff, TypeDescriptor.mem_eligible_iff, and_imp]

/-- What the collision rule looks for in a field. -/
theorem Field.collision_map_eq_none_iff {field : Field} {name : QualifiedName} :
    field.collision?.map (Violation.collision name field.name) = none ↔ ∀ method,
      ¬ field.Hides method := by
  rw [Option.map_eq_none_iff, Field.collision?_eq_none_iff]

/-- The first offered field that hides a method, with the fields in front of it. -/
structure FirstCollision (t : TypeDescriptor) (field : Field) (method : FixedMethod)
    (before after : List Field) :
    Prop where
  split : t.fields = before ++ field :: after
  offered : field.Offered
  hides : field.Hides method
  first : ∀ other ∈ before, other.Offered → ∀ method, ¬ other.Hides method

/-- The violation of the collision rule is that of the first offered field that hides a method. -/
theorem Rule.check?_noMethodCollision_of_first {t : TypeDescriptor} {before after : List Field}
    {field : Field} {method : FixedMethod} (h : FirstCollision t field method before after) :
    Rule.check? t .noMethodCollision = some (.collision t.name field.name method) := by
  have heligible : t.eligible
      = before.filter Field.isEligible ++ field :: after.filter Field.isEligible := by
    rw [TypeDescriptor.eligible, h.split, List.filter_append,
      List.filter_cons_of_pos ((Field.isEligible_iff_offered field).2 h.offered)]
  have hskip : (before.filter Field.isEligible).findSome?
      (fun other => other.collision?.map (Violation.collision t.name other.name)) = none := by
    rw [List.findSome?_eq_none_iff]
    intro other hother
    obtain ⟨hmem, helig⟩ := List.mem_filter.1 hother
    exact Field.collision_map_eq_none_iff.2
      (h.first other hmem ((Field.isEligible_iff_offered other).1 helig))
  simp only [Rule.check?]
  rw [heligible, List.findSome?_append, hskip, Option.none_or, List.findSome?_cons,
    Field.collision?_eq_some_iff.2 h.hides]
  rfl

theorem Rule.exists_first_of_check?_noMethodCollision {t : TypeDescriptor} {v : Violation}
    (h : Rule.check? t .noMethodCollision = some v) :
    ∃ field method before after, FirstCollision t field method before after := by
  simp only [Rule.check?] at h
  obtain ⟨left, field, right, heligible, hfield, hleft⟩ := List.findSome?_eq_some_iff.1 h
  obtain ⟨method, hmethod, -⟩ := Option.map_eq_some_iff.1 hfield
  -- the eligible fields are a filtered list, so the cut of them comes from a cut of all fields
  obtain ⟨front, back, hfields, hfront, hback⟩ := List.filter_eq_append_iff.1 heligible
  obtain ⟨gap, after, hsplit, hgap, helig, -⟩ := List.filter_eq_cons_iff.1 hback
  refine ⟨field, method, front ++ gap, after, ?_, (Field.isEligible_iff_offered field).1 helig,
    Field.collision?_eq_some_iff.1 hmethod, ?_⟩
  · rw [hfields, hsplit, List.append_assoc]
  · intro other hother hoff
    have hotherElig := (Field.isEligible_iff_offered other).2 hoff
    rcases List.mem_append.1 hother with hfr | hgp
    · have hmem : other ∈ left := by
        rw [← hfront]
        exact List.mem_filter.2 ⟨hfr, hotherElig⟩
      exact Field.collision_map_eq_none_iff.1 (hleft other hmem)
    · exact absurd hotherElig (hgap other hgp)

/-! ### Chains -/

/-- A chain of rules that are built in answers as the first of them that is violated. -/
theorem findSome?_checks (rules : List Rule) (t : TypeDescriptor) :
    (rules : List Check).findSome? (fun check => check t) = rules.findSome? (Rule.check? t) :=
  List.findSome?_map

theorem validate_of_findSome?_eq_some {rules : List Check} {t : TypeDescriptor} {v : Violation}
    (h : rules.findSome? (fun check => check t) = some v) : validate rules t = .error v := by
  unfold validate
  rw [h]

theorem validate_of_findSome?_eq_none {rules : List Check} {t : TypeDescriptor} {c : Constructor}
    (h : rules.findSome? (fun check => check t) = none) (hc : t.accessibleConstructor? = some c) :
    validate rules t = .ok ⟨t, c, hc⟩ := by
  unfold validate
  rw [h]
  dsimp only
  split
  · next d hd =>
    have hdc : d = c := Option.some.inj (hd.symm.trans hc)
    subst hdc
    rfl
  · next hd => rw [hc] at hd; cases hd

/-- What a chain validates is the type that it was given. -/
theorem validate_type {rules : List Check} {t : TypeDescriptor} {v : Validated}
    (h : validate rules t = .ok v) :
    v.type = t := by
  unfold validate at h
  split at h
  · cases h
  · split at h
    · cases h
      rfl
    · cases h

/-! ### The usual chain -/

/-- The first violation of a type in the order abstract, constructor, collision. -/
inductive FirstViolation (t : TypeDescriptor) : Violation → Prop where
  | abstract (habstract : t.isAbstract = true) : FirstViolation t (.abstract t.name)
  | noConstructor (hconcrete : t.isAbstract = false) (hnone : ∀ c ∈ t.constructors, ¬ c.Callable) :
    FirstViolation t (.noConstructor t.name)
  | collision {field : Field} {method : FixedMethod} {before after : List Field}
    (hconcrete : t.isAbstract = false) (hcall : ∃ c ∈ t.constructors, c.Callable)
    (hfirst : FirstCollision t field method before after) :
    FirstViolation t (.collision t.name field.name method)

/-- A type that violates none of the usual rules. -/
structure TypeDescriptor.Buildable (t : TypeDescriptor) : Prop where
  concrete : t.isAbstract = false
  constructible : ∃ c ∈ t.constructors, c.Callable
  unhidden : ∀ field ∈ t.fields, field.Offered → ∀ method, ¬ field.Hides method

/-- **Every type is accepted or has a first violation.** -/
theorem buildable_or_firstViolation (t : TypeDescriptor) :
    t.Buildable ∨ ∃ v, FirstViolation t v := by
  cases habs : t.isAbstract with
  | true => exact .inr ⟨_, .abstract habs⟩
  | false =>
    by_cases hcall : ∃ c ∈ t.constructors, c.Callable
    · cases hcheck : Rule.check? t .noMethodCollision with
      | none => exact .inl ⟨habs, hcall, Rule.check?_noMethodCollision_eq_none_iff.1 hcheck⟩
      | some v =>
        obtain ⟨field, method, before, after, hfirst⟩ :=
          Rule.exists_first_of_check?_noMethodCollision hcheck
        exact .inr ⟨_, .collision habs hcall hfirst⟩
    · exact .inr ⟨_, .noConstructor habs fun c hc hcallable => hcall ⟨c, hc, hcallable⟩⟩

/-- **A first violation is the verdict of the usual chain.** -/
theorem validate_of_firstViolation {t : TypeDescriptor} {v : Violation} (h : FirstViolation t v) :
    validate defaultRules t = .error v := by
  apply validate_of_findSome?_eq_some
  rw [findSome?_checks, defaultRules]
  cases h with
  | abstract habstract =>
    rw [List.findSome?_cons, show Rule.check? t .noAbstractType = some (.abstract t.name) by
      simp only [Rule.check?]; rw [if_pos habstract]]
  | noConstructor hconcrete hnone =>
    rw [List.findSome?_cons, Rule.check?_noAbstractType_eq_none_iff.2 hconcrete]
    show List.findSome? (Rule.check? t) [.requiresConstructor, .noMethodCollision] = _
    rw [List.findSome?_cons, show Rule.check? t .requiresConstructor
      = some (.noConstructor t.name) by
        simp only [Rule.check?]
        rw [TypeDescriptor.accessibleConstructor?_eq_none_iff.2 hnone]
        rfl]
  | collision hconcrete hcall hfirst =>
    rw [List.findSome?_cons, Rule.check?_noAbstractType_eq_none_iff.2 hconcrete]
    show List.findSome? (Rule.check? t) [.requiresConstructor, .noMethodCollision] = _
    rw [List.findSome?_cons, Rule.check?_requiresConstructor_eq_none_iff.2 hcall]
    show List.findSome? (Rule.check? t) [.noMethodCollision] = _
    rw [List.findSome?_cons, Rule.check?_noMethodCollision_of_first hfirst]

/-- **An accepted type is validated with its first callable constructor.** -/
theorem validate_of_buildable {t : TypeDescriptor} (h : t.Buildable) :
    ∃ c, ∃ hc : t.accessibleConstructor? = some c, validate defaultRules t = .ok ⟨t, c, hc⟩ := by
  obtain ⟨c, hc⟩ : ∃ c, t.accessibleConstructor? = some c := by
    cases hfind : t.accessibleConstructor? with
    | some c => exact ⟨c, rfl⟩
    | none =>
      obtain ⟨c, hmem, hcall⟩ := h.constructible
      exact absurd hcall (TypeDescriptor.accessibleConstructor?_eq_none_iff.1 hfind c hmem)
  refine ⟨c, hc, validate_of_findSome?_eq_none ?_ hc⟩
  rw [findSome?_checks, defaultRules, List.findSome?_eq_none_iff]
  intro rule _
  cases rule with
  | noAbstractType => exact Rule.check?_noAbstractType_eq_none_iff.2 h.concrete
  | requiresConstructor => exact Rule.check?_requiresConstructor_eq_none_iff.2 h.constructible
  | noMethodCollision => exact Rule.check?_noMethodCollision_eq_none_iff.2 h.unhidden

end FluentBuilder
