import FluentBuilder.Proofs.Outcome
import FluentBuilder.Proofs.Synthesis
import FluentBuilder.Workspace.Generation

/-!
# What a pass plans

A pass discovers types, keeps the builders of those that its rules accept, and plans one file for
each of them.  The loops over the types are opened here once:

* `accepted`, `violations` — the builders of the accepted types and the violations of the others, in
  the order of discovery;
* `Accepted.file` — the file of one builder;
* `sift_eq_ok_iff` — what is left of the outcomes under a failure policy;
* `planFiles_eq_ok_iff` — the files of several builders, no two of one name;
* `plan_eq_ok_iff` — a plan is the files of the accepted types, the violations of the others, and
  the number of both.
-/

namespace FluentBuilder

/-! ### Accepted and rejected types -/

/-- The builder of a discovered type, if the rules accept the type. -/
def Discovered.accepted? (rules : List Check) (d : Discovered) : Option Accepted :=
  match synthesizeWith rules d.type with
  | .ok model => some ⟨model, d.origin⟩
  | .error _ => none

/-- The builders of the accepted types, in the order of discovery. -/
def accepted (rules : List Check) (types : List Discovered) : List Accepted :=
  types.filterMap (Discovered.accepted? rules)

/-- A type is rejected with the violation that its validation ends with. -/
theorem violation?_eq_some_iff {rules : List Check} {t : TypeDescriptor} {v : Violation} :
    violation? rules t = some v ↔ synthesizeWith rules t = .error v := by
  unfold violation?
  cases h : validate rules t with
  | ok validated =>
    rw [synthesizeWith_of_validate_ok h]
    exact ⟨nofun, nofun⟩
  | error w =>
    rw [synthesizeWith_of_validate_error h, Except.error.injEq]
    exact Option.some_inj

theorem violation?_eq_none_iff {rules : List Check} {t : TypeDescriptor} :
    violation? rules t = none ↔ ∃ model, synthesizeWith rules t = .ok model := by
  cases h : synthesizeWith rules t with
  | ok model =>
    refine ⟨fun _ => ⟨model, rfl⟩, fun _ => ?_⟩
    cases hv : violation? rules t with
    | none => rfl
    | some v =>
      rw [violation?_eq_some_iff, h] at hv
      cases hv
  | error v =>
    rw [violation?_eq_some_iff.2 h]
    exact ⟨nofun, nofun⟩

theorem accepted_cons_of_ok {rules : List Check} {d : Discovered} {model : BuilderModel}
    (rest : List Discovered) (h : synthesizeWith rules d.type = .ok model) :
    accepted rules (d :: rest) = ⟨model, d.origin⟩ :: accepted rules rest
      ∧ violations rules (d :: rest) = violations rules rest := by
  have haccepted : d.accepted? rules = some ⟨model, d.origin⟩ := by
    unfold Discovered.accepted?
    rw [h]
  exact ⟨List.filterMap_cons_some haccepted,
    List.filterMap_cons_none (violation?_eq_none_iff.2 ⟨model, h⟩)⟩

theorem accepted_cons_of_error {rules : List Check} {d : Discovered} {v : Violation}
    (rest : List Discovered) (h : synthesizeWith rules d.type = .error v) :
    accepted rules (d :: rest) = accepted rules rest
      ∧ violations rules (d :: rest) = v :: violations rules rest := by
  have haccepted : d.accepted? rules = none := by
    unfold Discovered.accepted?
    rw [h]
  exact ⟨List.filterMap_cons_none haccepted, List.filterMap_cons_some (violation?_eq_some_iff.2 h)⟩

/-- Each type is accepted or rejected. -/
theorem length_accepted_add_length_violations (rules : List Check) (types : List Discovered) :
    (accepted rules types).length + (violations rules types).length = types.length := by
  induction types with
  | nil => rfl
  | cons d rest ih =>
    cases h : synthesizeWith rules d.type with
    | ok model =>
      obtain ⟨ha, hv⟩ := accepted_cons_of_ok rest h
      rw [ha, hv, List.length_cons, List.length_cons, ← ih]
      omega
    | error v =>
      obtain ⟨ha, hv⟩ := accepted_cons_of_error rest h
      rw [ha, hv, List.length_cons, List.length_cons, ← ih]
      omega

theorem mem_accepted_iff {rules : List Check} {types : List Discovered} {a : Accepted} :
    a ∈ accepted rules types
      ↔ ∃ d ∈ types, synthesizeWith rules d.type = .ok a.model ∧ a.origin = d.origin := by
  unfold accepted
  rw [List.mem_filterMap]
  refine exists_congr fun d => and_congr_right fun _ => ?_
  unfold Discovered.accepted?
  cases h : synthesizeWith rules d.type with
  | ok model =>
    constructor
    · intro ha
      cases ha
      exact ⟨rfl, rfl⟩
    · rintro ⟨hmodel, horigin⟩
      cases a
      cases hmodel
      cases horigin
      rfl
  | error v => exact ⟨nofun, nofun⟩

/-! ### Failure policies -/

/-- **What is left of the outcomes.**  A policy that aborts leaves something only when there is no
violation. -/
theorem sift_eq_ok_iff {policy : FailurePolicy} {rules : List Check} {types : List Discovered}
    {sifted : Sifted} :
    policy.sift (synthesizeAll rules types) = .ok sifted
      ↔ (policy = .abort → violations rules types = [])
        ∧ sifted = ⟨accepted rules types, violations rules types⟩ := by
  induction types generalizing sifted with
  | nil =>
    show Except.ok ({} : Sifted) = .ok sifted ↔ _
    rw [Except.ok.injEq]
    exact ⟨fun h => ⟨fun _ => rfl, h.symm⟩, fun h => h.2.symm⟩
  | cons d rest ih =>
    show policy.sift (⟨d.origin, synthesizeWith rules d.type⟩ :: synthesizeAll rules rest)
      = .ok sifted ↔ _
    cases h : synthesizeWith rules d.type with
    | ok model =>
      obtain ⟨ha, hv⟩ := accepted_cons_of_ok rest h
      rw [ha, hv]
      show (policy.sift (synthesizeAll rules rest) >>= fun others =>
        Except.ok { others with accepted := ⟨model, d.origin⟩ :: others.accepted }) = .ok sifted ↔ _
      rw [bind_eq_ok_iff]
      constructor
      · rintro ⟨others, hothers, hsifted⟩
        obtain ⟨hclean, rfl⟩ := ih.1 hothers
        exact ⟨hclean, (Except.ok.inj hsifted).symm⟩
      · rintro ⟨hclean, rfl⟩
        exact ⟨_, ih.2 ⟨hclean, rfl⟩, rfl⟩
    | error v =>
      obtain ⟨ha, hv⟩ := accepted_cons_of_error rest h
      rw [ha, hv]
      cases policy with
      | abort => exact ⟨nofun, fun h => absurd (h.1 rfl) (List.cons_ne_nil v _)⟩
      | proceed =>
        show (FailurePolicy.sift .proceed (synthesizeAll rules rest) >>= fun others =>
          Except.ok { others with violations := v :: others.violations }) = .ok sifted ↔ _
        rw [bind_eq_ok_iff]
        constructor
        · rintro ⟨others, hothers, hsifted⟩
          obtain ⟨-, rfl⟩ := ih.1 hothers
          exact ⟨nofun, (Except.ok.inj hsifted).symm⟩
        · rintro ⟨-, rfl⟩
          exact ⟨_, ih.2 ⟨nofun, rfl⟩, rfl⟩

/-! ### Files -/

/-- The file of a builder. -/
def Accepted.file (a : Accepted) : Except CodeError PlannedFile := do
  return ⟨a.model.name.fileName, a.model.name, ← a.text⟩

theorem Accepted.file_eq_ok_iff {a : Accepted} {f : PlannedFile} :
    a.file = .ok f ↔ f.name = a.model.name.fileName ∧ f.builder = a.model.name
      ∧ ∃ source, a.model.fileSource = .ok source ∧ f.text = fileHeader a.origin ++ source := by
  unfold Accepted.file Accepted.text
  rw [bind_eq_ok_iff]
  constructor
  · rintro ⟨text, htext, hfile⟩
    obtain ⟨source, hsource, htext⟩ := bind_eq_ok_iff.1 htext
    cases htext
    cases hfile
    exact ⟨rfl, rfl, source, hsource, rfl⟩
  · rintro ⟨hname, hbuilder, source, hsource, htext⟩
    refine ⟨fileHeader a.origin ++ source, bind_eq_ok_iff.2 ⟨source, hsource, rfl⟩, ?_⟩
    rw [← hname, ← hbuilder, ← htext]
    rfl

/-- **The files of several builders.**  They are planned when each builder has a file and no two
files, nor one of those before, have the same name. -/
theorem planFiles_eq_ok_iff {taken : List String} {as : List Accepted} {files : List PlannedFile} :
    planFiles taken as = .ok files ↔ List.Forall₂ (fun a f => Accepted.file a = .ok f) as files
      ∧ (files.map PlannedFile.name).Nodup ∧ ∀ f ∈ files, f.name ∉ taken := by
  induction as generalizing taken files with
  | nil =>
    show Except.ok [] = .ok files ↔ _
    rw [List.forall₂_nil_left_iff, Except.ok.injEq]
    constructor
    · rintro rfl
      exact ⟨rfl, List.nodup_nil, fun f hf => absurd hf List.not_mem_nil⟩
    · exact fun h => h.1.symm
  | cons a rest ih =>
    simp only [planFiles]
    constructor
    · intro h
      split at h
      · cases h
      · next hfree =>
        obtain ⟨text, htext, h⟩ := bind_eq_ok_iff.1 h
        obtain ⟨others, hothers, h⟩ := bind_eq_ok_iff.1 h
        cases h
        obtain ⟨hall, hnodup, hnew⟩ := ih.1 hothers
        have hfile : a.file = .ok ⟨a.model.name.fileName, a.model.name, text⟩ :=
          bind_eq_ok_iff.2 ⟨text, mapError_eq_ok_iff.1 htext, rfl⟩
        refine ⟨.cons hfile hall, List.nodup_cons.2 ⟨fun hmem => ?_, hnodup⟩, fun f hf => ?_⟩
        · obtain ⟨f, hf, hname⟩ := List.mem_map.1 hmem
          exact hnew f hf (hname ▸ List.mem_cons_self)
        · rcases List.mem_cons.1 hf with rfl | hf
          · exact fun hmem => hfree (List.contains_iff_mem.2 hmem)
          · exact fun hmem => hnew f hf (List.mem_cons_of_mem _ hmem)
    · rintro ⟨hall, hnodup, hnew⟩
      cases hall with
      | @cons _ f _ others hfile hall =>
        obtain ⟨hhead, hothers⟩ := List.nodup_cons.1 hnodup
        obtain ⟨text, htext, hf⟩ := bind_eq_ok_iff.1 hfile
        cases hf
        have hfree : a.model.name.fileName ∉ taken := hnew _ List.mem_cons_self
        rw [if_neg (fun hmem => hfree (List.contains_iff_mem.1 hmem))]
        refine bind_eq_ok_iff.2
          ⟨text, mapError_eq_ok_iff.2 htext, bind_eq_ok_iff.2 ⟨others, ?_, rfl⟩⟩
        refine ih.2 ⟨hall, hothers, fun g hg hmem => ?_⟩
        rcases List.mem_cons.1 hmem with hsame | hmem
        · exact hhead (List.mem_map.2 ⟨g, hg, hsame⟩)
        · exact hnew g (List.mem_cons_of_mem _ hg) hmem

/-! ### Plans -/

/-- **What a plan holds**: the files of the accepted types in the order of discovery, the violations
of the others, and the number of both. -/
theorem plan_eq_ok_iff {t : FileTree} {settings : Settings} {rules : List Check} {plan : Plan} :
    t.plan settings rules = .ok plan ↔ ∃ types, t.discover settings = .ok types
      ∧ (settings.failurePolicy = .abort → violations rules types = [])
      ∧ List.Forall₂ (fun a f => Accepted.file a = .ok f) (accepted rules types) plan.files
      ∧ (plan.files.map PlannedFile.name).Nodup
      ∧ plan.processed = types.length ∧ plan.violations = violations rules types := by
  unfold FileTree.plan planFor
  rw [bind_eq_ok_iff]
  refine exists_congr fun types => and_congr_right fun _ => ?_
  constructor
  · intro h
    obtain ⟨sifted, hsifted, h⟩ := bind_eq_ok_iff.1 h
    obtain ⟨files, hfiles, h⟩ := bind_eq_ok_iff.1 h
    cases h
    obtain ⟨hclean, rfl⟩ := sift_eq_ok_iff.1 hsifted
    obtain ⟨hall, hnodup, -⟩ := planFiles_eq_ok_iff.1 hfiles
    exact ⟨hclean, hall, hnodup, rfl, rfl⟩
  · rintro ⟨hclean, hall, hnodup, hprocessed, hviolations⟩
    refine bind_eq_ok_iff.2
      ⟨_, sift_eq_ok_iff.2 ⟨hclean, rfl⟩, bind_eq_ok_iff.2 ⟨plan.files, ?_, ?_⟩⟩
    · exact planFiles_eq_ok_iff.2 ⟨hall, hnodup, fun _ _ => List.not_mem_nil⟩
    · show Except.ok (Plan.mk plan.files types.length (violations rules types)) = .ok plan
      rw [← hprocessed, ← hviolations]

end FluentBuilder
