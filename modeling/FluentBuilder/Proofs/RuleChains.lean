import FluentBuilder.Proofs.RuleVerdict

/-!
# Chains of rules

A chain holds rules in any order, repeats some and lacks others.  Whether it accepts a type depends
on the set of its rules alone, and the rule on constructors is asked in any case; the violation it
reports depends on the order.

* `Rule.Accepts`, `Rule.Rejects` — what a rule asks of a type, and the violation it answers with
  otherwise, both said from the members of the type;
* `ChainRejects` — the violation that a chain reports;
* `validate_eq_ok_iff`, `validate_eq_error_iff` — the two ways in which a chain ends;
* `validate_chain_spec` — the verdict of a chain, and what it has to do with the verdicts of other
  chains.
-/

namespace FluentBuilder

variable {t : TypeDescriptor} {rules : List Rule}

/-! ### Single rules -/

/-- What a rule asks of a type. -/
def Rule.Accepts (t : TypeDescriptor) : Rule → Prop
  | .noAbstractType => t.isAbstract = false
  | .requiresConstructor => ∃ c ∈ t.constructors, c.Callable
  | .noMethodCollision => ∀ field ∈ t.fields, field.Offered → ∀ method, ¬ field.Hides method

/-- The violation that a rule answers with when it rejects a type. -/
inductive Rule.Rejects (t : TypeDescriptor) : Rule → Violation → Prop where
  | abstract (habstract : t.isAbstract = true) : Rejects t .noAbstractType (.abstract t.name)
  | noConstructor (hnone : ∀ c ∈ t.constructors, ¬ c.Callable) :
    Rejects t .requiresConstructor (.noConstructor t.name)
  | collision {field : Field} {method : FixedMethod} {before after : List Field}
    (hfirst : FirstCollision t field method before after) :
    Rejects t .noMethodCollision (.collision t.name field.name method)

theorem Rule.check?_eq_none_iff {rule : Rule} : rule.check? t = none ↔ rule.Accepts t := by
  cases rule with
  | noAbstractType => exact Rule.check?_noAbstractType_eq_none_iff
  | requiresConstructor => exact Rule.check?_requiresConstructor_eq_none_iff
  | noMethodCollision => exact Rule.check?_noMethodCollision_eq_none_iff

theorem Rule.check?_of_rejects {rule : Rule} {v : Violation} (h : rule.Rejects t v) :
    rule.check? t = some v := by
  cases h with
  | abstract habstract => simp [Rule.check?, habstract]
  | noConstructor hnone =>
    simp [Rule.check?, TypeDescriptor.accessibleConstructor?_eq_none_iff.2 hnone]
  | collision hfirst => exact Rule.check?_noMethodCollision_of_first hfirst

/-- A rule that does not accept a type has a violation to answer with. -/
theorem Rule.exists_rejects_of_not_accepts {rule : Rule} (h : ¬ rule.Accepts t) :
    ∃ v, rule.Rejects t v := by
  cases rule with
  | noAbstractType => exact ⟨_, .abstract (by simpa [Rule.Accepts] using h)⟩
  | requiresConstructor =>
    refine ⟨_, .noConstructor ?_⟩
    intro c hc hcall
    exact h ⟨c, hc, hcall⟩
  | noMethodCollision =>
    cases hcheck : Rule.check? t .noMethodCollision with
    | none => exact absurd (Rule.check?_noMethodCollision_eq_none_iff.1 hcheck) h
    | some v =>
      obtain ⟨field, method, before, after, hfirst⟩ :=
        Rule.exists_first_of_check?_noMethodCollision hcheck
      exact ⟨_, .collision hfirst⟩

theorem Rule.check?_eq_some_iff {rule : Rule} {v : Violation} :
    rule.check? t = some v ↔ rule.Rejects t v := by
  constructor
  · intro h
    have hnot : ¬ rule.Accepts t := by
      intro hacc
      rw [Rule.check?_eq_none_iff.2 hacc] at h
      cases h
    obtain ⟨w, hw⟩ := Rule.exists_rejects_of_not_accepts hnot
    have hvw : v = w := Option.some.inj (h.symm.trans (Rule.check?_of_rejects hw))
    rw [hvw]
    exact hw
  · exact Rule.check?_of_rejects

/-! ### Chains -/

/-- The violation that a chain reports: that of its first rule to reject the type, and without one
the violation of the rule on constructors. -/
inductive ChainRejects (t : TypeDescriptor) (rules : List Rule) : Violation → Prop where
  | first {before after : List Rule} {rule : Rule} {v : Violation}
    (hsplit : rules = before ++ rule :: after)
    (hbefore : ∀ other ∈ before, other.Accepts t) (hrule : rule.Rejects t v) :
      ChainRejects t rules v
  | unasked (hall : ∀ rule ∈ rules, rule.Accepts t) (hnone : ∀ c ∈ t.constructors, ¬ c.Callable) :
    ChainRejects t rules (.noConstructor t.name)

/-- The first callable constructor of a type, which its builder calls. -/
def TypeDescriptor.Pins (t : TypeDescriptor) (c : Constructor) : Prop :=
  ∃ before after, t.constructors = before ++ c :: after ∧ c.Callable ∧ ∀ d ∈ before, ¬ d.Callable

theorem findSome?_check?_eq_none_iff :
    rules.findSome? (Rule.check? t) = none ↔ ∀ rule ∈ rules, rule.Accepts t := by
  simp only [List.findSome?_eq_none_iff, Rule.check?_eq_none_iff]

theorem findSome?_check?_eq_some_iff {v : Violation} :
    rules.findSome? (Rule.check? t) = some v ↔ ∃ before rule after, rules = before ++ rule :: after
      ∧ (∀ other ∈ before, other.Accepts t) ∧ rule.Rejects t v := by
  rw [List.findSome?_eq_some_iff]
  simp only [Rule.check?_eq_some_iff, Rule.check?_eq_none_iff]
  constructor
  · rintro ⟨before, rule, after, hsplit, hrule, hbefore⟩
    exact ⟨before, rule, after, hsplit, hbefore, hrule⟩
  · rintro ⟨before, rule, after, hsplit, hbefore, hrule⟩
    exact ⟨before, rule, after, hsplit, hrule, hbefore⟩

/-- A chain accepts a type that all of its rules accept and that has a constructor to pin. -/
theorem validate_eq_ok_iff {v : Validated} :
    validate rules t = .ok v ↔ (∀ rule ∈ rules, rule.Accepts t) ∧ v.type = t
      ∧ t.Pins v.constructor := by
  constructor
  · intro h
    have htype := validate_type h
    subst htype
    refine ⟨?_, rfl, TypeDescriptor.accessibleConstructor?_eq_some_iff.1 v.accessible⟩
    cases hfind : rules.findSome? (Rule.check? v.type) with
    | none => exact findSome?_check?_eq_none_iff.1 hfind
    | some w =>
      rw [validate_of_findSome?_eq_some ((findSome?_checks rules v.type).trans hfind)] at h
      cases h
  · rintro ⟨hall, rfl, hpins⟩
    exact validate_of_findSome?_eq_none
      ((findSome?_checks rules v.type).trans (findSome?_check?_eq_none_iff.2 hall))
      (TypeDescriptor.accessibleConstructor?_eq_some_iff.2 hpins)

theorem validate_of_chainRejects {v : Violation} (h : ChainRejects t rules v) :
    validate rules t = .error v := by
  cases h with
  | first hsplit hbefore hrule =>
    exact validate_of_findSome?_eq_some ((findSome?_checks rules t).trans
      (findSome?_check?_eq_some_iff.2 ⟨_, _, _, hsplit, hbefore, hrule⟩))
  | unasked hall hnone =>
    unfold validate
    rw [findSome?_checks, findSome?_check?_eq_none_iff.2 hall]
    dsimp only
    split
    · next c hc =>
      rw [TypeDescriptor.accessibleConstructor?_eq_none_iff.2 hnone] at hc
      cases hc
    · rfl

/-- Every chain accepts a type or reports a violation of it. -/
theorem accepts_or_chainRejects (t : TypeDescriptor) (rules : List Rule) :
    ((∀ rule ∈ rules, rule.Accepts t) ∧ ∃ c, t.Pins c) ∨ ∃ v, ChainRejects t rules v := by
  cases hfind : rules.findSome? (Rule.check? t) with
  | some v =>
    obtain ⟨before, rule, after, hsplit, hbefore, hrule⟩ := findSome?_check?_eq_some_iff.1 hfind
    exact .inr ⟨v, .first hsplit hbefore hrule⟩
  | none =>
    have hall := findSome?_check?_eq_none_iff.1 hfind
    cases hc : t.accessibleConstructor? with
    | some c => exact .inl ⟨hall, c, TypeDescriptor.accessibleConstructor?_eq_some_iff.1 hc⟩
    | none => exact .inr ⟨_, .unasked hall (TypeDescriptor.accessibleConstructor?_eq_none_iff.1 hc)⟩

theorem validate_eq_error_iff {v : Violation} :
    validate rules t = .error v ↔ ChainRejects t rules v := by
  constructor
  · intro h
    rcases accepts_or_chainRejects t rules with ⟨hall, c, hpins⟩ | ⟨w, hw⟩
    · have hc := TypeDescriptor.accessibleConstructor?_eq_some_iff.2 hpins
      rw [validate_of_findSome?_eq_none
        ((findSome?_checks rules t).trans (findSome?_check?_eq_none_iff.2 hall)) hc] at h
      cases h
    · rw [validate_of_chainRejects hw] at h
      cases h
      exact hw
  · exact validate_of_chainRejects

theorem TypeDescriptor.exists_pins_iff : (∃ c, t.Pins c) ↔ ∃ c ∈ t.constructors, c.Callable := by
  constructor
  · rintro ⟨c, before, after, hsplit, hcall, -⟩
    exact ⟨c, by simp [hsplit], hcall⟩
  · rintro ⟨c, hc, hcall⟩
    cases hfind : t.accessibleConstructor? with
    | some d => exact ⟨d, TypeDescriptor.accessibleConstructor?_eq_some_iff.1 hfind⟩
    | none => exact absurd hcall (TypeDescriptor.accessibleConstructor?_eq_none_iff.1 hfind c hc)

/-! ### Two chains -/

/-- A type with a constructor to pin is accepted by the rule on constructors, so that the other
rules decide. -/
theorem forall_accepts_iff {c : Constructor} (hpins : t.Pins c) :
    (∀ rule ∈ rules, rule.Accepts t) ↔ ∀ rule ∈ rules, rule ≠ .requiresConstructor →
      rule.Accepts t := by
  constructor
  · exact fun h rule hrule _ => h rule hrule
  · intro h rule hrule
    by_cases hcons : rule = .requiresConstructor
    · rw [hcons]
      exact TypeDescriptor.exists_pins_iff.1 ⟨c, hpins⟩
    · exact h rule hrule hcons

/-- What the rules of a chain other than that on constructors accept is accepted by each chain that
has no others. -/
theorem validate_ok_of_subset {others : List Rule}
    (hsub : ∀ rule ∈ others, rule ≠ .requiresConstructor → rule ∈ rules) {v : Validated}
    (h : validate rules t = .ok v) : validate others t = .ok v := by
  obtain ⟨hall, htype, hpins⟩ := validate_eq_ok_iff.1 h
  refine validate_eq_ok_iff.2 ⟨(forall_accepts_iff hpins).2 ?_, htype, hpins⟩
  intro rule hrule hne
  exact hall rule (hsub rule hrule hne)

/-- **The verdict of a chain.**  A chain accepts exactly the types that each of its rules accepts
and that have a callable constructor, and pins the first one.  Otherwise it reports the violation of
its first rule to reject the type, or that of the rule on constructors if none does.  So the chains
with the same rules, that on constructors apart, accept the same types with the same constructors,
and a chain with more rules rejects what the chain rejects. -/
theorem validate_chain_spec (t : TypeDescriptor) (rules : List Rule) :
    ((∃ v, validate rules t = .ok v)
        ↔ (∀ rule ∈ rules, rule.Accepts t) ∧ ∃ c ∈ t.constructors, c.Callable)
      ∧ (∀ v, validate rules t = .ok v → v.type = t ∧ t.Pins v.constructor)
      ∧ (∀ v, validate rules t = .error v ↔ ChainRejects t rules v)
      ∧ (∀ others : List Rule,
        (∀ rule, rule ≠ .requiresConstructor → (rule ∈ rules ↔ rule ∈ others)) →
          ∀ v, validate rules t = .ok v ↔ validate others t = .ok v)
      ∧ ∀ more : List Rule, rules ⊆ more →
          ∀ v, validate rules t = .error v → ∃ w, validate more t = .error w := by
  refine ⟨?_, ?_, fun v => validate_eq_error_iff, ?_, ?_⟩
  · constructor
    · rintro ⟨v, h⟩
      obtain ⟨hall, -, hpins⟩ := validate_eq_ok_iff.1 h
      exact ⟨hall, TypeDescriptor.exists_pins_iff.1 ⟨_, hpins⟩⟩
    · rintro ⟨hall, hcall⟩
      obtain ⟨c, hpins⟩ := TypeDescriptor.exists_pins_iff.2 hcall
      have hc := TypeDescriptor.accessibleConstructor?_eq_some_iff.2 hpins
      exact ⟨⟨t, c, hc⟩, validate_eq_ok_iff.2 ⟨hall, rfl, hpins⟩⟩
  · intro v h
    exact (validate_eq_ok_iff.1 h).2
  · intro others hsame v
    constructor
    · exact validate_ok_of_subset fun rule hrule hne => (hsame rule hne).2 hrule
    · exact validate_ok_of_subset fun rule hrule hne => (hsame rule hne).1 hrule
  · intro more hsub v h
    cases hmore : validate more t with
    | error w => exact ⟨w, rfl⟩
    | ok w =>
      rw [validate_ok_of_subset (fun rule hrule _ => hsub hrule) hmore] at h
      cases h

/-- The order of a chain decides which of two violations is reported. -/
example :
    let shape : TypeDescriptor :=
      { name := ⟨"", "Shape"⟩, isAbstract := true, fields := [{ name := "r#build", type := "u8" }] }
    let chain : List Rule := [.noMethodCollision, .noAbstractType]
    validate chain shape = .error (.collision ⟨"", "Shape"⟩ "r#build" .terminal)
      ∧ validate chain.reverse shape = .error (.abstract ⟨"", "Shape"⟩) := by
  exact ⟨rfl, rfl⟩

end FluentBuilder
