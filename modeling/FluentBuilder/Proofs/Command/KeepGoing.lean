import FluentBuilder.Command.Run
import FluentBuilder.Proofs.Command.Words
import FluentBuilder.Proofs.Workspace.FailurePolicies
import FluentBuilder.Proofs.Workspace.KnownWalks

/-!
# Going on behind a violation

The command writes builders under the failure policy of the configuration, unless it is told to keep
going.  Either way it ends in success only when no type violates a rule, and then the policy makes
no difference.

* `runGenerate_keepGoing` — the end of the command does not depend on the policy, nor does the tree
  after a success;
* `abort_proceed_spec` — passes that abort and passes that proceed, and the command with either.
-/

namespace FluentBuilder

open FileTree

/-! ### Ends of the command -/

/-- What becomes of the command when a pass has ended. -/
def Effect.ofPass : FileTree × Except WorkspaceError Report → Effect
  | (tree, .ok report) => { status := if report.isClean then .success else .failure, tree }
  | (tree, .error _) => { status := .failure, tree }

theorem tree_ofPass (pass : FileTree × Except WorkspaceError Report) :
    (Effect.ofPass pass).tree = pass.1 := by
  obtain ⟨u, e | report⟩ := pass <;> rfl

/-- The settings under which builders are written. -/
def Settings.going (settings : Settings) (keepGoing : Bool) : Settings :=
  if keepGoing then settings.under .proceed else settings

@[simp]
theorem discover_going (t : FileTree) (settings : Settings) (keepGoing : Bool) :
    t.discover (settings.going keepGoing) = t.discover settings := by
  cases keepGoing <;> rfl

theorem runGenerate_eq (settings : Settings) (keepGoing : Bool) (t : FileTree) :
    runGenerate settings keepGoing t
      = .ofPass (t.generate (settings.going keepGoing) defaultRules) := by
  unfold runGenerate Effect.ofPass Settings.going
  rfl

/-- Two ends are the same, or both are failures. -/
def Effect.Agrees (a b : Effect) : Prop :=
  a = b ∨ a.status = .failure ∧ b.status = .failure

theorem Effect.Agrees.refl (a : Effect) : a.Agrees a := .inl rfl

theorem Effect.Agrees.symm {a b : Effect} (h : a.Agrees b) : b.Agrees a := by
  rcases h with rfl | ⟨ha, hb⟩
  · exact .refl a
  · exact .inr ⟨hb, ha⟩

theorem Effect.Agrees.status_eq {a b : Effect} (h : a.Agrees b) : a.status = b.status := by
  rcases h with rfl | ⟨ha, hb⟩
  · rfl
  · rw [ha, hb]

theorem Effect.Agrees.tree_eq {a b : Effect} (h : a.Agrees b) (hsuccess : a.status = .success) :
    a.tree = b.tree := by
  rcases h with rfl | ⟨ha, -⟩
  · rfl
  · rw [hsuccess] at ha
    cases ha

/-! ### Passes of the command -/

/-- A pass that leaves out types is no success of the command. -/
theorem status_ofPass_leavingOut {v : Violation} {vs : List Violation}
    (pass : FileTree × Except WorkspaceError Report) :
    (Effect.ofPass (pass.1, pass.2.map (Report.leavingOut (v :: vs)))).status = .failure := by
  obtain ⟨tree, _ | report⟩ := pass
  · rfl
  · simp [Effect.ofPass, Except.map, Report.leavingOut, Report.isClean]

theorem ofPass_policies (t : FileTree) (settings : Settings) (rules : List Check) :
    (Effect.ofPass (t.generate (settings.under .abort) rules)).Agrees
      (.ofPass (t.generate (settings.under .proceed) rules)) := by
  cases hdiscover : t.discover settings with
  | error e =>
    rw [generate_under_of_error rules .abort hdiscover,
      generate_under_of_error rules .proceed hdiscover]
    exact .refl _
  | ok types =>
    rw [generate_under_of_ok rules .abort hdiscover, generate_under_of_ok rules .proceed hdiscover]
    cases hviolations : violations rules types with
    | nil =>
      rw [generateFrom_proceed_of_clean t settings hviolations]
      exact .refl _
    | cons v vs =>
      refine .inr ⟨?_, ?_⟩
      · rw [generateFrom_abort_of_violation t settings hviolations]
        rfl
      · rw [generateFrom_proceed, hviolations]
        exact status_ofPass_leavingOut _

/-- **The end of the command does not depend on the policy**, nor does the tree after a success. -/
theorem runGenerate_keepGoing (settings : Settings) (t : FileTree) :
    (runGenerate settings false t).Agrees (runGenerate settings true t) := by
  rw [runGenerate_eq, runGenerate_eq]
  show (Effect.ofPass (t.generate settings defaultRules)).Agrees
    (.ofPass (t.generate (settings.under .proceed) defaultRules))
  rw [← settings.under_failurePolicy]
  cases settings.failurePolicy with
  | abort => exact ofPass_policies t settings defaultRules
  | proceed => exact .refl _

theorem run_keepGoing {outer inner : List String} {given g : Given}
    (houter : IsOptions none outer given) (hinner : IsOptions (some .generate) inner g)
    (hflag : .keepGoing ∉ g.flags) (env : Environment) (t : FileTree) :
    (run (outer ++ "generate" :: inner) env t).Agrees
      (run (outer ++ "generate" :: (inner ++ ["--keep-going"])) env t) := by
  obtain ⟨haction, hcall⟩ := readCall_keepGoing houter hinner hflag env
  unfold run
  rw [hcall]
  cases hread : readCall env (outer ++ "generate" :: inner) with
  | error e => cases e <;> exact .refl _
  | ok call =>
    have hplain := haction call hread
    show (runCall call env t).Agrees (runCall { call with action := .generate true } env t)
    unfold runCall
    rw [hplain]
    -- both read the same settings
    show (call.withSettings env t fun settings => runGenerate settings false t).Agrees
      (call.withSettings env t fun settings => runGenerate settings true t)
    unfold Call.withSettings
    cases call.settings env t with
    | error e => exact .refl _
    | ok settings => exact runGenerate_keepGoing settings t

/-- **Aborting and proceeding.**  Passes under the two policies are the same when no type that was
found violates a rule.  Otherwise one ends with the first violation and leaves the tree alone, and
the other does what an aborting pass would do over the types without a violation, but for the
violations in its report.  So the command ends in the same way whether it is told to keep going or
not, and in success with the same tree. -/
theorem abort_proceed_spec (t : FileTree) :
    (∀ (settings : Settings) (rules : List Check),
      (∀ e, t.discover settings = .error e → ∀ policy,
        t.generate (settings.under policy) rules = (t, .error e))
        ∧ ∀ types, t.discover settings = .ok types →
          (violations rules types = [] →
            t.generate (settings.under .abort) rules = t.generate (settings.under .proceed) rules)
          ∧ ∀ v vs, violations rules types = v :: vs →
            t.generate (settings.under .abort) rules = (t, .error (.violation v))
            ∧ ∀ t' outcome,
              t.generateFrom (settings.under .abort) rules (withoutViolation rules types)
                = (t', outcome) →
              t.generate (settings.under .proceed) rules
                = (t', outcome.map (Report.leavingOut (v :: vs))))
    ∧ ∀ outer given inner g, IsOptions none outer given → IsOptions (some .generate) inner g →
      .keepGoing ∉ g.flags →
        ∀ env, (run (outer ++ "generate" :: inner) env t).status
            = (run (outer ++ "generate" :: (inner ++ ["--keep-going"])) env t).status
          ∧ ((run (outer ++ "generate" :: inner) env t).status = .success →
            (run (outer ++ "generate" :: inner) env t).tree
              = (run (outer ++ "generate" :: (inner ++ ["--keep-going"])) env t).tree) := by
  refine ⟨fun settings rules => ⟨fun e he policy => ?_, fun types htypes => ?_⟩, ?_⟩
  · exact generate_under_of_error rules policy he
  · refine ⟨fun hclean => ?_, fun v vs hviolations => ⟨?_, ?_⟩⟩
    · exact (generate_under_of_clean .proceed htypes hclean).symm
    · rw [generate_under_of_ok rules .abort htypes,
        generateFrom_abort_of_violation t settings hviolations]
    · intro t' outcome hothers
      rw [generate_under_of_ok rules .proceed htypes, generateFrom_proceed, hviolations, hothers]
  · intro outer given inner g houter hinner hflag env
    have hagrees := run_keepGoing houter hinner hflag env t
    exact ⟨hagrees.status_eq, hagrees.tree_eq⟩

/-- A workspace with two types, of which only the first can be built. -/
def mixedTree : FileTree :=
  ⟨[(["descriptors"], .directory), (["descriptors", "a.toml"], .file (.text mixedText))], []⟩
where
  /-- The text of the descriptor file. -/
  mixedText : String :=
    "[[types]]\nname = \"Job\"\n[[types.constructors]]\n[[types]]\nname = \"Part\"\n"

/-- The settings without a configuration, for descriptor files. -/
def mixedSettings : Settings :=
  { Settings.default with source := .descriptors }

/-- The pass that proceeds in this workspace reports one builder and one violation. -/
theorem exists_pass_mixedTree : ∃ types t' report, mixedTree.discover mixedSettings = .ok types
    ∧ mixedTree.generate (mixedSettings.under .proceed) defaultRules = (t', .ok report)
    ∧ (violations defaultRules types).length = 1
    ∧ report.files.map WrittenFile.builder = [⟨"", "JobBuilder"⟩] := by
  have hrun : (mixedTree.passFrom (mixedSettings.under .proceed) defaultRules
      ((mixedSettings.under .proceed).visits [("a.toml", .text mixedTree.mixedText)])).toOption.any
        (fun pass => (violations defaultRules pass.1).length == 1
          && pass.2.2.files.map WrittenFile.builder == [⟨"", "JobBuilder"⟩]) = true := by
    decide +kernel
  obtain ⟨types, t', report, htypes, hgenerate, hp⟩ :=
    exists_pass_of_files ["descriptors"] [("a.toml", .text mixedTree.mixedText)]
      (by decide +kernel) hrun
  simp only [Bool.and_eq_true, beq_iff_eq] at hp
  exact ⟨types, t', report, by simpa using htypes, hgenerate, hp⟩

/-- In this workspace the pass that aborts leaves the tree alone, and the one that proceeds does
what it would do without the second type. -/
theorem abort_proceed_spec_mixed : ∃ types v t' report, mixedTree.discover mixedSettings = .ok types
    ∧ violations defaultRules types = [v]
    ∧ mixedTree.generate (mixedSettings.under .abort) defaultRules
      = (mixedTree, .error (.violation v))
    ∧ mixedTree.generateFrom (mixedSettings.under .abort) defaultRules
        (withoutViolation defaultRules types)
      = (t', .ok report)
    ∧ mixedTree.generate (mixedSettings.under .proceed) defaultRules
      = (t', .ok (report.leavingOut [v]))
    ∧ report.files.map WrittenFile.builder = [⟨"", "JobBuilder"⟩]
    ∧ (run ["generate"] .empty mixedTree).status
      = (run ["generate", "--keep-going"] .empty mixedTree).status := by
  obtain ⟨types, t', report, htypes, hproceed, hone, hfiles⟩ := exists_pass_mixedTree
  obtain ⟨v, hv⟩ := List.length_eq_one_iff.1 hone
  obtain ⟨hpasses, hcommand⟩ := abort_proceed_spec mixedTree
  obtain ⟨habort, hothers⟩ := ((hpasses mixedSettings defaultRules).2 types htypes).2 v [] hv
  have hstatus :=
    (hcommand [] {} [] {} ⟨rfl, rfl, List.not_mem_nil⟩ ⟨rfl, rfl, List.not_mem_nil⟩ List.not_mem_nil
    .empty).1
  cases hpass : mixedTree.generateFrom (mixedSettings.under .abort) defaultRules
      (withoutViolation defaultRules types) with
  | mk u outcome =>
    have hsame := hothers u outcome hpass
    rw [hproceed] at hsame
    cases outcome with
    | error e => cases hsame
    | ok r =>
      cases hsame
      exact ⟨types, v, t', r, htypes, hv, habort, hpass, hproceed, hfiles, hstatus⟩

end FluentBuilder
