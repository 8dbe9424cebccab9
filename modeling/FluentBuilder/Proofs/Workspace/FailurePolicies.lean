import FluentBuilder.Proofs.Workspace.Planning

/-!
# What a failure policy changes

A pass that aborts ends with the first violation.  One that proceeds leaves out the types with a
violation and reports the violations.  All that follows on the outcomes of the types, which is the
names and texts of the files and the access to them, is common to both.

* `FileTree.generateFrom` — a pass over types that were found before;
* `sift_abort`, `sift_proceed` — what either policy makes of the same types;
* `generateFrom_abort_of_violation`, `generateFrom_proceed_of_clean` — a pass that aborts on a
  violation leaves the tree alone, and without violations the policy makes no difference;
* `generateFrom_proceed` — a pass that proceeds is one that aborts over the types without a
  violation, but for the violations in its report.
-/

namespace FluentBuilder

variable {t : FileTree} {settings : Settings} {rules : List Check} {types : List Discovered}

/-! ### Types without a violation -/

/-- The types without a violation, in their order. -/
def withoutViolation (rules : List Check) (types : List Discovered) : List Discovered :=
  types.filter fun d => (violation? rules d.type).isNone

/-- Types with a violation have no part in what the others come to. -/
theorem accepted_withoutViolation (rules : List Check) (types : List Discovered) :
    accepted rules (withoutViolation rules types) = accepted rules types
      ∧ violations rules (withoutViolation rules types) = [] := by
  induction types with
  | nil => simp [withoutViolation, accepted, violations]
  | cons d rest ih =>
    obtain ⟨ha, hv⟩ := ih
    cases h : synthesizeWith rules d.type with
    | ok model =>
      have hkept : withoutViolation rules (d :: rest) = d :: withoutViolation rules rest := by
        simp [withoutViolation, violation?_eq_none_iff.2 ⟨model, h⟩]
      obtain ⟨hcons, hviolations⟩ := accepted_cons_of_ok (withoutViolation rules rest) h
      rw [hkept, hcons, hviolations, (accepted_cons_of_ok rest h).1, ha]
      exact ⟨rfl, hv⟩
    | error v =>
      have hleft : withoutViolation rules (d :: rest) = withoutViolation rules rest := by
        simp [withoutViolation, violation?_eq_some_iff.2 h]
      rw [hleft, (accepted_cons_of_error rest h).1]
      exact ⟨ha, hv⟩

theorem length_withoutViolation (rules : List Check) (types : List Discovered) :
    (withoutViolation rules types).length + (violations rules types).length = types.length := by
  have hkept := length_accepted_add_length_violations rules (withoutViolation rules types)
  have hall := length_accepted_add_length_violations rules types
  obtain ⟨ha, hv⟩ := accepted_withoutViolation rules types
  rw [ha, hv] at hkept
  simp only [List.length_nil] at hkept
  omega

/-! ### Outcomes under a policy -/

/-- A pass that aborts keeps all types, or ends with the first violation. -/
theorem sift_abort (rules : List Check) (types : List Discovered) :
    FailurePolicy.abort.sift (synthesizeAll rules types) =
      match violations rules types with
      | v :: _ => .error (.violation v)
      | [] => .ok ⟨accepted rules types, []⟩ := by
  induction types with
  | nil => rfl
  | cons d rest ih =>
    show FailurePolicy.abort.sift
      (⟨d.origin, synthesizeWith rules d.type⟩ :: synthesizeAll rules rest) = _
    cases h : synthesizeWith rules d.type with
    | error v =>
      rw [(accepted_cons_of_error rest h).2]
      rfl
    | ok model =>
      obtain ⟨ha, hv⟩ := accepted_cons_of_ok rest h
      rw [ha, hv]
      simp only [FailurePolicy.sift, ih]
      cases violations rules rest <;> rfl

/-- A pass that proceeds keeps the types without a violation. -/
theorem sift_proceed (rules : List Check) (types : List Discovered) :
    FailurePolicy.proceed.sift (synthesizeAll rules types)
      = .ok ⟨accepted rules types, violations rules types⟩ :=
  sift_eq_ok_iff.2 ⟨nofun, rfl⟩

/-! ### Passes over types that were found -/

/-- Settings with another failure policy. -/
def Settings.under (settings : Settings) (policy : FailurePolicy) : Settings :=
  { settings with failurePolicy := policy }

@[simp]
theorem Settings.under_failurePolicy (settings : Settings) :
    settings.under settings.failurePolicy = settings := rfl

/-- The policy has no part in what is found. -/
@[simp]
theorem discover_under (t : FileTree) (settings : Settings) (policy : FailurePolicy) :
    t.discover (settings.under policy) = t.discover settings := rfl

/-- A pass over types that were found before. -/
def FileTree.generateFrom (t : FileTree) (settings : Settings) (rules : List Check)
    (types : List Discovered) :
    FileTree × Except WorkspaceError Report :=
  match planFor settings rules types with
  | .ok plan => t.carryOut settings.outputPath plan
  | .error e => (t, .error e)

theorem generate_of_discover_ok (rules : List Check) (h : t.discover settings = .ok types) :
    t.generate settings rules = t.generateFrom settings rules types := by
  unfold FileTree.generate FileTree.plan
  rw [h]
  rfl

/-- A pass that has a plan for the types that it finds carries it out. -/
theorem generate_of_planFor {plan : Plan} (htypes : t.discover settings = .ok types)
    (hplan : planFor settings rules types = .ok plan) :
    t.generate settings rules = t.carryOut settings.outputPath plan := by
  rw [generate_of_discover_ok rules htypes, FileTree.generateFrom, hplan]

theorem generate_of_discover_error {e : WorkspaceError} (rules : List Check)
    (h : t.discover settings = .error e) :
    t.generate settings rules = (t, .error e) := by
  simp [FileTree.generate, FileTree.plan, h, bind, Except.bind]

/-- Under any policy a pass goes on with the types that are found. -/
theorem generate_under_of_ok (rules : List Check) (policy : FailurePolicy)
    (h : t.discover settings = .ok types) :
    t.generate (settings.under policy) rules = t.generateFrom (settings.under policy) rules types :=
  generate_of_discover_ok rules ((discover_under t settings policy).trans h)

theorem generate_under_of_error {e : WorkspaceError} (rules : List Check) (policy : FailurePolicy)
    (h : t.discover settings = .error e) :
    t.generate (settings.under policy) rules = (t, .error e) :=
  generate_of_discover_error rules ((discover_under t settings policy).trans h)

/-- **A pass that aborts on a violation leaves the tree alone.** -/
theorem generateFrom_abort_of_violation {v : Violation} {vs : List Violation} (t : FileTree)
    (settings : Settings) (h : violations rules types = v :: vs) :
    t.generateFrom (settings.under .abort) rules types = (t, .error (.violation v)) := by
  simp [FileTree.generateFrom, planFor, Settings.under, sift_abort, h, bind, Except.bind]

/-- **Without violations the policy makes no difference.** -/
theorem generateFrom_proceed_of_clean (t : FileTree) (settings : Settings)
    (h : violations rules types = []) :
    t.generateFrom (settings.under .proceed) rules types
      = t.generateFrom (settings.under .abort) rules types := by
  simp [FileTree.generateFrom, planFor, Settings.under, sift_abort, sift_proceed, h]

theorem generate_under_of_clean (policy : FailurePolicy) (htypes : t.discover settings = .ok types)
    (h : violations rules types = []) :
    t.generate (settings.under policy) rules = t.generate (settings.under .abort) rules := by
  rw [generate_under_of_ok rules policy htypes, generate_under_of_ok rules .abort htypes]
  cases policy with
  | abort => rfl
  | proceed => exact generateFrom_proceed_of_clean t settings h

/-- The report of a pass that left out types for the given violations. -/
def Report.leavingOut (found : List Violation) (r : Report) : Report :=
  { r with processed := r.processed + found.length, violations := r.violations ++ found }

/-- What a plan reports does not change what it does. -/
theorem carryOut_leavingOut (t : FileTree) (directory : String) (plan : Plan)
    (found : List Violation) :
    t.carryOut directory ⟨plan.files, plan.processed + found.length, plan.violations ++ found⟩
      = ((t.carryOut directory plan).1,
        (t.carryOut directory plan).2.map (Report.leavingOut found)) := by
  unfold FileTree.carryOut
  rcases t.createDirectories directory with ⟨made, _ | _⟩
  · rfl
  · dsimp only
    cases (made.writeFiles directory plan.files).2 <;> rfl

/-- The plan of a pass that proceeds is the plan for the types without a violation, with the
violations of the others. -/
theorem planFor_proceed (settings : Settings) (rules : List Check) (types : List Discovered) :
    planFor (settings.under .proceed) rules types
      = (planFor (settings.under .abort) rules (withoutViolation rules types)).map fun plan =>
        ⟨plan.files, plan.processed + (violations rules types).length,
          plan.violations ++ violations rules types⟩ := by
  obtain ⟨ha, hv⟩ := accepted_withoutViolation rules types
  simp only [planFor, Settings.under, sift_proceed, sift_abort, ha, hv, bind, Except.bind]
  cases planFiles [] (accepted rules types) with
  | error e => rfl
  | ok files =>
    simp only [Except.map, pure, Except.pure, List.nil_append]
    rw [length_withoutViolation]

/-- **A pass that proceeds leaves out what violates a rule.**  It is a pass that aborts over the
other types, but for its report, which has the violations too. -/
theorem generateFrom_proceed (t : FileTree) (settings : Settings) (rules : List Check)
    (types : List Discovered) :
    t.generateFrom (settings.under .proceed) rules types
      = ((t.generateFrom (settings.under .abort) rules (withoutViolation rules types)).1,
        (t.generateFrom (settings.under .abort) rules (withoutViolation rules types)).2.map
          (Report.leavingOut (violations rules types))) := by
  unfold FileTree.generateFrom
  rw [planFor_proceed]
  cases planFor (settings.under .abort) rules (withoutViolation rules types) with
  | error e => rfl
  | ok plan => exact carryOut_leavingOut t settings.outputPath plan (violations rules types)

end FluentBuilder
