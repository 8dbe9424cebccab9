import FluentBuilder.Proofs.RuleVerdict

/-!
# Descriptors that are put together step by step

A descriptor starts as a name, and each revision adds a member, marks the type as abstract or
changes its visibility.  No revision takes anything back, and members are added behind those that
are there.  So whatever looks at the members from the front keeps its answer.

* `Revision`, `TypeDescriptor.reviseAll` — the revisions of a descriptor, one by one and in a row;
* `BecomesPart` — what every revision keeps, and so every row of them;
* `BecomesPart.accessibleConstructor?`, `BecomesPart.duplicateField?`, `BecomesPart.eligible` —
  answers that stay;
* `exists_enabling`, `exists_accepting` — the revision by which a type gets its first callable
  constructor, and by which alone a rejected type is accepted;
* `revisions_spec` — what stays and what can change along a row of revisions.
-/

namespace FluentBuilder

/-! ### Revisions -/

/-- A step in which a descriptor is put together. -/
inductive Revision where
  | field (field : Field)
  | constructor (c : Constructor)
  | abstract
  | visibility (visibility : Visibility)
  deriving DecidableEq, Repr

/-- A descriptor after a revision. -/
def TypeDescriptor.revise (t : TypeDescriptor) : Revision → TypeDescriptor
  | .field field => t.addField field
  | .constructor c => t.addConstructor c
  | .abstract => t.markAbstract
  | .visibility visibility => t.withVisibility visibility

/-- A descriptor after several revisions. -/
def TypeDescriptor.reviseAll (t : TypeDescriptor) (revisions : List Revision) : TypeDescriptor :=
  revisions.foldl TypeDescriptor.revise t

theorem TypeDescriptor.reviseAll_append (t : TypeDescriptor) (earlier later : List Revision) :
    t.reviseAll (earlier ++ later) = (t.reviseAll earlier).reviseAll later :=
  List.foldl_append

/-! ### What stays -/

/-- A descriptor is a part of what it becomes: the name stays, an abstract type stays abstract, and
members are added behind the members that are there. -/
structure BecomesPart (t u : TypeDescriptor) : Prop where
  name : u.name = t.name
  abstract : t.isAbstract = true → u.isAbstract = true
  fields : t.fields <+: u.fields
  constructors : t.constructors <+: u.constructors

variable {t u w : TypeDescriptor}

theorem BecomesPart.refl (t : TypeDescriptor) : BecomesPart t t :=
  ⟨rfl, fun h => h, List.prefix_rfl, List.prefix_rfl⟩

theorem BecomesPart.trans (h : BecomesPart t u) (h' : BecomesPart u w) : BecomesPart t w :=
  ⟨h'.name.trans h.name, fun ht => h'.abstract (h.abstract ht), h.fields.trans h'.fields,
    h.constructors.trans h'.constructors⟩

/-- **Every revision keeps what is there.** -/
theorem becomesPart_revise (t : TypeDescriptor) (revision : Revision) :
    BecomesPart t (t.revise revision) := by
  cases revision with
  | field field => exact ⟨rfl, fun h => h, List.prefix_append _ _, List.prefix_rfl⟩
  | constructor c => exact ⟨rfl, fun h => h, List.prefix_rfl, List.prefix_append _ _⟩
  | abstract => exact ⟨rfl, fun _ => rfl, List.prefix_rfl, List.prefix_rfl⟩
  | visibility visibility => exact ⟨rfl, fun h => h, List.prefix_rfl, List.prefix_rfl⟩

/-- **So does every row of revisions.** -/
theorem becomesPart_reviseAll (t : TypeDescriptor) (revisions : List Revision) :
    BecomesPart t (t.reviseAll revisions) := by
  induction revisions generalizing t with
  | nil => exact .refl t
  | cons revision rest ih => exact (becomesPart_revise t revision).trans (ih (t.revise revision))

/-- What a revision in a row brings about is a part of what the row ends in. -/
theorem becomesPart_of_mem {revision : Revision} {revisions : List Revision} (t : TypeDescriptor)
    (h : revision ∈ revisions) :
    ∃ u : TypeDescriptor, BecomesPart (u.revise revision) (t.reviseAll revisions) := by
  obtain ⟨before, after, rfl⟩ := List.append_of_mem h
  rw [TypeDescriptor.reviseAll_append]
  exact ⟨t.reviseAll before, becomesPart_reviseAll _ after⟩

/-! ### Answers that stay -/

/-- A constructor that is pinned stays the first of its kind. -/
theorem BecomesPart.accessibleConstructor? (h : BecomesPart t u) {c : Constructor}
    (hc : t.accessibleConstructor? = some c) : u.accessibleConstructor? = some c := by
  obtain ⟨more, hmore⟩ := h.constructors
  unfold TypeDescriptor.accessibleConstructor? at hc ⊢
  rw [← hmore, List.find?_append, hc]
  rfl

theorem firstRepeated?_append {α : Type} [BEq α] {seen front : List α} {a : α}
    (h : firstRepeated? seen front = some a) (more : List α) :
    firstRepeated? seen (front ++ more) = some a := by
  induction front generalizing seen with
  | nil => cases h
  | cons b rest ih =>
    unfold firstRepeated? at h
    rw [List.cons_append]
    unfold firstRepeated?
    split at h
    · next hseen => rw [if_pos hseen, h]
    · next hseen => rw [if_neg hseen, ih h]

/-- A field name that is reported as repeated stays the first one. -/
theorem BecomesPart.duplicateField? (h : BecomesPart t u) {name : String}
    (hname : t.duplicateField? = some name) :
    u.duplicateField? = some name := by
  obtain ⟨more, hmore⟩ := h.fields
  unfold TypeDescriptor.duplicateField? at hname ⊢
  rw [← hmore, List.map_append]
  exact firstRepeated?_append hname _

/-- The fields that are offered are added behind those that are. -/
theorem BecomesPart.eligible (h : BecomesPart t u) : t.eligible <+: u.eligible :=
  h.fields.filter Field.isEligible

/-! ### Accepted types -/

/-- The usual rules accept exactly the types that violate none of them. -/
theorem exists_validate_iff_buildable : (∃ v, validate defaultRules t = .ok v) ↔ t.Buildable := by
  constructor
  · rintro ⟨v, hv⟩
    rcases buildable_or_firstViolation t with hbuild | ⟨violation, hfirst⟩
    · exact hbuild
    · rw [validate_of_firstViolation hfirst] at hv
      cases hv
  · intro hbuild
    obtain ⟨c, hc, hv⟩ := validate_of_buildable hbuild
    exact ⟨_, hv⟩

/-- The constructor of a type that is validated is the one that is pinned. -/
theorem accessibleConstructor?_of_validate {rules : List Check} {v : Validated}
    (h : validate rules t = .ok v) :
    t.accessibleConstructor? = some v.constructor := by
  rw [← validate_type h]
  exact v.accessible

theorem exists_accessibleConstructor? {c : Constructor} (hc : c ∈ t.constructors)
    (hcall : c.Callable) :
    ∃ d, t.accessibleConstructor? = some d := by
  cases hfind : t.accessibleConstructor? with
  | some d => exact ⟨d, rfl⟩
  | none => exact absurd hcall (TypeDescriptor.accessibleConstructor?_eq_none_iff.1 hfind c hc)

/-- A type is rejected if an offered field hides a fixed method. -/
theorem exists_validate_error_of_hides {field : Field} {method : FixedMethod}
    (hfield : field ∈ t.fields) (hoff : field.Offered) (hhides : field.Hides method) :
    ∃ v, validate defaultRules t = .error v := by
  cases hv : validate defaultRules t with
  | error v => exact ⟨v, rfl⟩
  | ok v =>
    exact absurd hhides
      ((exists_validate_iff_buildable.1 ⟨v, hv⟩).unhidden field hfield hoff method)

/-- A part of an accepted type is accepted as soon as it has a callable constructor. -/
theorem BecomesPart.buildable (h : BecomesPart t u) (hu : u.Buildable)
    (hcall : ∃ c ∈ t.constructors, c.Callable) :
    t.Buildable where
  concrete := by
    cases habstract : t.isAbstract with
    | false => rfl
    | true => rw [← hu.concrete, h.abstract habstract]
  constructible := hcall
  unhidden field hfield := hu.unhidden field (h.fields.subset hfield)

/-! ### The revision that makes a type constructible -/

/-- After a revision of a type without a callable constructor there still is none, unless the
revision adds one. -/
theorem callable_revise (hnone : ∀ c ∈ t.constructors, ¬ c.Callable) (revision : Revision) :
    (∀ c ∈ (t.revise revision).constructors, ¬ c.Callable) ∨ ∃ c, revision = .constructor c
      ∧ c.Callable := by
  cases revision with
  | field field => exact .inl hnone
  | abstract => exact .inl hnone
  | visibility visibility => exact .inl hnone
  | constructor c =>
    by_cases hc : c.Callable
    · exact .inr ⟨c, rfl, hc⟩
    · refine .inl fun d hd => ?_
      rcases List.mem_append.1 hd with hold | hnew
      · exact hnone d hold
      · rw [List.mem_singleton.1 hnew]
        exact hc

/-- **A type becomes constructible by the revision that adds its first callable constructor.** -/
theorem exists_enabling {revisions : List Revision} (hnone : ∀ c ∈ t.constructors, ¬ c.Callable)
    (hcall : ∃ c ∈ (t.reviseAll revisions).constructors, c.Callable) :
    ∃ before c after, revisions = before ++ .constructor c :: after ∧ c.Callable
      ∧ ∀ d ∈ (t.reviseAll before).constructors, ¬ d.Callable := by
  induction revisions generalizing t with
  | nil =>
    obtain ⟨c, hc, hcallable⟩ := hcall
    exact absurd hcallable (hnone c hc)
  | cons revision rest ih =>
    rcases callable_revise hnone revision with hstill | ⟨c, rfl, hc⟩
    · obtain ⟨before, c, after, hsplit, hc, hbefore⟩ := ih hstill hcall
      exact ⟨revision :: before, c, after, by rw [hsplit]; rfl, hc, hbefore⟩
    · exact ⟨[], c, rest, rfl, hc, hnone⟩

/-- The first callable constructor that a type gets is the one that is pinned. -/
theorem accessibleConstructor?_addConstructor {c : Constructor}
    (hnone : ∀ d ∈ t.constructors, ¬ d.Callable) (hc : c.Callable) :
    (t.revise (.constructor c)).accessibleConstructor? = some c :=
  TypeDescriptor.accessibleConstructor?_eq_some_iff.2 ⟨t.constructors, [], rfl, hc, hnone⟩

/-- A rejected type that is a part of an accepted one lacks a callable constructor, and nothing
else. -/
theorem BecomesPart.lacksConstructor (h : BecomesPart t u) (hu : u.Buildable) {v : Violation}
    (hv : validate defaultRules t = .error v) : ∀ c ∈ t.constructors, ¬ c.Callable := by
  intro c hc hcall
  obtain ⟨validated, hvalid⟩ := exists_validate_iff_buildable.2 (h.buildable hu ⟨c, hc, hcall⟩)
  rw [hvalid] at hv
  cases hv

theorem BecomesPart.validate_eq_noConstructor (h : BecomesPart t u) (hu : u.Buildable)
    (hnone : ∀ c ∈ t.constructors, ¬ c.Callable) :
    validate defaultRules t = .error (.noConstructor t.name) := by
  refine validate_of_firstViolation (.noConstructor ?_ hnone)
  cases habstract : t.isAbstract with
  | false => rfl
  | true => rw [← hu.concrete, h.abstract habstract]

/-- **A rejected type is accepted later only by the revision that adds its first callable
constructor**: up to it the type is rejected for having none, right behind it the type is accepted,
and the later type is constructed with it. -/
theorem exists_accepting {revisions : List Revision} {v : Violation} {w : Validated}
    (hv : validate defaultRules t = .error v)
    (hw : validate defaultRules (t.reviseAll revisions) = .ok w) :
    ∃ before c after, revisions = before ++ .constructor c :: after ∧ c.Callable
      ∧ validate defaultRules (t.reviseAll before) = .error (.noConstructor t.name)
      ∧ (∃ v', validate defaultRules (t.reviseAll (before ++ [.constructor c])) = .ok v')
      ∧ w.constructor = c := by
  have hbuild := exists_validate_iff_buildable.1 ⟨w, hw⟩
  have hnone := (becomesPart_reviseAll t revisions).lacksConstructor hbuild hv
  obtain ⟨before, c, after, rfl, hc, hbefore⟩ := exists_enabling hnone hbuild.constructible
  -- the type right before this revision, and right behind it
  have hbehind : BecomesPart ((t.reviseAll before).revise (.constructor c))
      (t.reviseAll (before ++ .constructor c :: after)) := by
    rw [TypeDescriptor.reviseAll_append]
    exact becomesPart_reviseAll _ after
  have hpinned := accessibleConstructor?_addConstructor hbefore hc
  refine ⟨before, c, after, rfl, hc, ?_, ?_, ?_⟩
  · rw [((becomesPart_revise _ _).trans hbehind).validate_eq_noConstructor hbuild hbefore,
      (becomesPart_reviseAll t before).name]
  · rw [TypeDescriptor.reviseAll_append]
    refine exists_validate_iff_buildable.2 (hbehind.buildable hbuild ⟨c, ?_, hc⟩)
    exact List.mem_append_right _ (List.mem_singleton_self c)
  · exact Option.some.inj ((accessibleConstructor?_of_validate hw).symm.trans
      (hbehind.accessibleConstructor? hpinned))

/-! ### Rows of revisions -/

/-- A private constructor and an offered field do not make a type acceptable, and the first callable
constructor does: a later one is not called. -/
example :
    let t := TypeDescriptor.reviseAll { name := ⟨"", "Job"⟩ }
      [.constructor (.ofFunction "hidden" .priv), .field { name := "id", type := "u32" }]
    let u := t.reviseAll [.constructor (.ofFunction "open" .package), .visibility .pub,
      .constructor .ofDefault]
    validate defaultRules t = .error (.noConstructor ⟨"", "Job"⟩)
      ∧ u.accessibleConstructor? = some (.ofFunction "open" .package) := by
  exact ⟨rfl, rfl⟩

end FluentBuilder
