import FluentBuilder.Proofs.RuleVerdict

/-!
# What synthesis gives

Synthesis validates a type, selects its fields and writes down the model of its builder.  The rule
on collisions and the writer each select the fields on their own; what they find is the same list,
the offered fields in declaration order.

* `IsBuilderOf` — the model of the builder of a type, said from the members of the type alone;
* `synthesize_ok_of_buildable`, `synthesize_error_of_firstViolation` — the two ways in which
  synthesis ends;
* `synthesize_spec` — synthesis succeeds exactly for the buildable types, its failure is the first
  violation, and its success is the builder of the type.
-/

namespace FluentBuilder

/-! ### Outcomes -/

theorem synthesizeWith_of_validate_ok {rules : List Check} {t : TypeDescriptor} {v : Validated}
    (h : validate rules t = .ok v) : synthesizeWith rules t = .ok (v.builder t.eligible) := by
  unfold synthesizeWith
  rw [h]
  rfl

theorem synthesizeWith_of_validate_error {rules : List Check} {t : TypeDescriptor} {v : Violation}
    (h : validate rules t = .error v) : synthesizeWith rules t = .error v := by
  unfold synthesizeWith
  rw [h]
  rfl

/-- The call that an unnamed constructor and a function of the type stand for. -/
theorem Constructor.construction_eq (c : Constructor) :
    c.construction = c.name.elim .default .associated := by
  unfold Constructor.construction
  cases c.name <;> rfl

/-! ### The builder of a type -/

/-- The model of the builder of a type: its name, one slot and one setter for each offered field,
and the call of the first callable constructor. -/
structure IsBuilderOf (t : TypeDescriptor) (b : BuilderModel) : Prop where
  name : b.name = ⟨t.name.package, t.name.name ++ "Builder"⟩
  target : b.target = t.name
  visibility : b.visibility = t.visibility
  slots : b.slots = (t.fields.filter fun f => decide f.Offered).map fun f => ⟨f.name, f.type⟩
  methods : ∃ before c after, t.constructors = before ++ c :: after ∧ c.Callable
    ∧ (∀ d ∈ before, ¬ d.Callable)
    ∧ b.methods =
      [.factory "builder"]
        ++ (t.fields.filter fun f => decide f.Offered).map
          (fun f => .setter f.name ⟨f.name, f.type⟩)
        ++ [.terminal "build" t.name (c.name.elim .default .associated)
            ((t.fields.filter fun f => decide f.Offered).map Field.name)]

theorem Validated.isBuilderOf (v : Validated) : IsBuilderOf v.type (v.builder v.type.eligible) := by
  obtain ⟨before, after, hsplit, hcall, hbefore⟩ :=
    TypeDescriptor.accessibleConstructor?_eq_some_iff.1 v.accessible
  refine ⟨rfl, rfl, rfl, ?_, before, v.constructor, after, hsplit, hcall, hbefore, ?_⟩
  · rw [← TypeDescriptor.eligible_eq_filter_offered]
    rfl
  · rw [← TypeDescriptor.eligible_eq_filter_offered, ← Constructor.construction_eq]
    rfl

/-- Whatever rules a type passes, it gets the builder of the type. -/
theorem isBuilderOf_of_synthesizeWith {rules : List Check} {t : TypeDescriptor} {b : BuilderModel}
    (h : synthesizeWith rules t = .ok b) : IsBuilderOf t b := by
  cases hvalid : validate rules t with
  | error v =>
    rw [synthesizeWith_of_validate_error hvalid] at h
    cases h
  | ok v =>
    rw [synthesizeWith_of_validate_ok hvalid] at h
    cases h
    have htype : v.type = t := validate_type hvalid
    rw [← htype]
    exact v.isBuilderOf

/-! ### The usual rules -/

theorem synthesize_error_of_firstViolation {t : TypeDescriptor} {v : Violation}
    (h : FirstViolation t v) :
    synthesize t = .error v :=
  synthesizeWith_of_validate_error (validate_of_firstViolation h)

theorem synthesize_ok_of_buildable {t : TypeDescriptor} (h : t.Buildable) :
    ∃ b, synthesize t = .ok b ∧ IsBuilderOf t b := by
  obtain ⟨c, hc, hvalid⟩ := validate_of_buildable h
  exact ⟨_, synthesizeWith_of_validate_ok hvalid, Validated.isBuilderOf ⟨t, c, hc⟩⟩

theorem FirstViolation.typeName_eq {t : TypeDescriptor} {v : Violation} (h : FirstViolation t v) :
    v.typeName = t.name := by
  cases h <;> rfl

/-- The message of a collision names the first offered field that hides a method. -/
theorem FirstViolation.message_of_collision {t : TypeDescriptor} {v : Violation}
    (h : FirstViolation t v) (hrule : v.rule = .noMethodCollision) :
    ∃ field method before after, FirstCollision t field method before after
      ∧ v.message = "The field '" ++ field.name ++ "' of " ++ t.name.text
        ++ " collides with the generated '"
        ++ method.name ++ "' method" := by
  cases h with
  | abstract _ => cases hrule
  | noConstructor _ _ => cases hrule
  | collision _ _ hfirst => exact ⟨_, _, _, _, hfirst, rfl⟩

end FluentBuilder
