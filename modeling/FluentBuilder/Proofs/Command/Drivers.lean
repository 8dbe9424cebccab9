import FluentBuilder.Proofs.Command.KeepGoing
import FluentBuilder.Proofs.PrintedModels

/-!
# Agreement of the drivers

Three loops run the rules over the types of a workspace: one only checks them, one makes their
models, and one writes their builders.  They agree on the types that violate a rule, and so do the
commands that run them.  The models that a command prints are told by the names that can be read in
its output.

* `violations_eq_filterMap`, `generate_abort_iff` — the violations that the loops meet;
* `builders_eq_names` — the builders that are written belong to the models that are printed;
* `drivers_agree` — the loops and the commands side by side.
-/

namespace FluentBuilder

open FluentBuilder.Data

variable {t t' : FileTree} {settings : Settings} {rules : List Check} {types : List Discovered}

/-! ### Loops over types -/

/-- The violation that a synthesis ended with. -/
def Synthesized.violation? (s : Synthesized) : Option Violation :=
  match s.outcome with
  | .ok _ => none
  | .error v => some v

/-- Checking types meets the violations that making their models meets. -/
theorem violations_eq_filterMap (rules : List Check) (types : List Discovered) :
    violations rules types = (synthesizeAll rules types).filterMap Synthesized.violation? := by
  unfold violations synthesizeAll
  rw [List.filterMap_map]
  refine List.filterMap_congr fun d _ => ?_
  cases h : synthesizeWith rules d.type with
  | ok model => simpa [Synthesized.violation?, h] using violation?_eq_none_iff.2 ⟨model, h⟩
  | error v => simpa [Synthesized.violation?, h] using violation?_eq_some_iff.2 h

/-- The models of the types without a violation, in the order of discovery. -/
def builtModels (rules : List Check) (types : List Discovered) : List BuilderModel :=
  (accepted rules types).map Accepted.model

/-- The models that are printed are those of the types without a violation. -/
theorem modelsText_synthesizeAll (rules : List Check) (types : List Discovered) :
    modelsText (synthesizeAll rules types)
      = (Value.list ((builtModels rules types).map BuilderModel.encode)).prettyJson 0 ++ "\n" := by
  unfold modelsText synthesizeAll builtModels accepted
  dsimp only
  rw [List.filterMap_map, List.map_filterMap, List.map_filterMap]
  congr 3
  refine List.filterMap_congr fun d _ => ?_
  cases h : synthesizeWith rules d.type <;> simp [Discovered.accepted?, h]

/-! ### Violations of a pass -/

/-- Planning files fails for their names or their texts. -/
theorem planFiles_ne_violation (taken : List String) (as : List Accepted) (v : Violation) :
    planFiles taken as ≠ .error (.violation v) := by
  induction as generalizing taken with
  | nil => simp [planFiles]
  | cons a rest ih =>
    unfold planFiles
    dsimp only
    split
    · simp
    · cases a.text with
      | error e => simp [Except.mapError, bind, Except.bind]
      | ok text =>
        cases hrest : planFiles (a.model.name.fileName :: taken) rest with
        | error e =>
          have hne := ih (a.model.name.fileName :: taken)
          rw [hrest] at hne
          simpa [Except.mapError, bind, Except.bind] using hne
        | ok files => simp [Except.mapError, bind, Except.bind, pure, Except.pure]

/-- **A pass that aborts ends with a violation exactly when there is one**, and with the first. -/
theorem generate_abort_iff (htypes : t.discover settings = .ok types) (v : Violation) :
    (t.generate (settings.under .abort) rules).2 = .error (.violation v)
      ↔ (violations rules types).head? = some v := by
  rw [generate_under_of_ok rules .abort htypes]
  cases hviolations : violations rules types with
  | cons w ws => simp [generateFrom_abort_of_violation t settings hviolations]
  | nil =>
    simp only [List.head?_nil, reduceCtorEq, iff_false]
    -- without violations a pass can only fail for its files
    simp only [FileTree.generateFrom, planFor, Settings.under, sift_abort, hviolations, bind,
      Except.bind]
    cases hfiles : planFiles [] (accepted rules types) with
    | error e =>
      have hne := planFiles_ne_violation [] (accepted rules types) v
      rw [hfiles] at hne
      simpa using hne
    | ok files =>
      obtain ⟨done, rest, -, -, ⟨-, hok⟩ | herr⟩ :=
        carryOut_spec settings.outputPath ⟨files, types.length, []⟩ t
      · simp [pure, Except.pure, hok]
      · simp [pure, Except.pure, herr]

/-- Planned files have the names of the builders that they are for. -/
theorem builders_of_files {as : List Accepted} {files : List PlannedFile}
    (h : List.Forall₂ (fun a f => Accepted.file a = .ok f) as files) :
    files.map PlannedFile.builder = as.map fun a => a.model.name := by
  induction h with
  | nil => rfl
  | cons hfile _ ih => simp [ih, (Accepted.file_eq_ok_iff.1 hfile).2.1]

/-- **The builders that are written belong to the models that are printed**, in one order. -/
theorem builders_eq_names {report : Report} (htypes : t.discover settings = .ok types)
    (h : t.generate settings rules = (t', .ok report)) :
    report.violations = violations rules types
      ∧ report.files.map WrittenFile.builder = (builtModels rules types).map BuilderModel.name := by
  rcases generate_cases t settings rules with ⟨e, -, hsame⟩ | ⟨plan, done, rest, hplan,
    hsplit, -, hend⟩
  · rw [hsame] at h
    cases h
  · obtain ⟨types', htypes', -, hall, -, -, hviolations⟩ := plan_eq_ok_iff.1 hplan
    obtain rfl : types = types' := Except.ok.inj (htypes.symm.trans htypes')
    rw [h] at hend
    rcases hend with ⟨rfl, hok⟩ | herr
    · obtain rfl := Except.ok.inj hok
      rw [List.append_nil] at hsplit
      rw [hsplit] at hall
      refine ⟨hviolations, ?_⟩
      simpa [builtModels, PlannedFile.written, Function.comp_def] using builders_of_files hall
    · cases herr

/-! ### Commands -/

theorem status_ofPass_of_success {pass : FileTree × Except WorkspaceError Report}
    (h : (Effect.ofPass pass).status = .success) :
    ∃ report, pass.2 = .ok report ∧ report.violations = [] := by
  obtain ⟨tree, e | report⟩ := pass
  · simp [Effect.ofPass] at h
  · refine ⟨report, rfl, ?_⟩
    by_contra hne
    simp [Effect.ofPass, Report.isClean, hne] at h

/-- The text of the models that are made holds their names. -/
theorem printedNames?_modelsText (rules : List Check) (types : List Discovered) :
    printedNames? (modelsText (synthesizeAll rules types))
      = some ((builtModels rules types).map BuilderModel.name) := by
  rw [modelsText_synthesizeAll, printedNames?_models]

theorem runValidate_status (htypes : t.discover settings = .ok types) :
    (runValidate settings t).status = if violations defaultRules types = [] then .success
      else .failure := by
  simp [runValidate, htypes, Effect.ofReading, bind, Except.bind, pure, Except.pure]

/-- A pass that ends with a violation, or reports one, has met one. -/
theorem violations_ne_nil_of_pass (htypes : t.discover settings = .ok types)
    (h : (∃ v, (t.generate settings rules).2 = .error (.violation v))
      ∨ ∃ report, (t.generate settings rules).2 = .ok report ∧ report.violations ≠ []) :
    violations rules types ≠ [] := by
  intro hclean
  rcases h with ⟨v, hv⟩ | ⟨report, hreport, hne⟩
  · rw [← settings.under_failurePolicy, generate_under_of_clean _ htypes hclean,
      generate_abort_iff htypes, hclean] at hv
    cases hv
  · have hsame := (builders_eq_names htypes (Prod.ext rfl hreport)).1
    exact hne (hsame.trans hclean)

/-- The actions that need settings, once there are some. -/
theorem run_of_settings {env : Environment} {call : Call} {words : Action → List String}
    (hwords : ∀ action, readCall env (words action) = .ok { call with action })
    (hsettings : call.settings env t = .ok settings) :
    run (words .validate) env t = runValidate settings t
      ∧ ∀ flag, run (words (.generate flag)) env t = runGenerate settings flag t
        ∧ run (words (.info flag)) env t = runInfo settings flag t := by
  have hcall : ∀ action, Call.settings { call with action } env t = .ok settings :=
    fun _ => hsettings
  simp [run, hwords, runCall, Call.withSettings, hcall]

/-- Builders are only written in success when settings and types are found, and no type violates a
rule. -/
theorem clean_of_run_generate {env : Environment} {call : Call} {words : Action → List String}
    {keepGoing : Bool} (hwords : ∀ action, readCall env (words action) = .ok { call with action })
    (h : (run (words (.generate keepGoing)) env t).status = .success) :
    ∃ settings types, call.settings env t = .ok settings ∧ t.discover settings = .ok types
      ∧ violations defaultRules types = [] := by
  cases hsettings : call.settings env t with
  | error e =>
    have hcall : Call.settings { call with action := .generate keepGoing } env t = .error e :=
      hsettings
    simp [run, hwords, runCall, Call.withSettings, hcall] at h
  | ok settings =>
    rw [((run_of_settings hwords hsettings).2 keepGoing).1, runGenerate_eq] at h
    obtain ⟨report, hreport, hclean⟩ := status_ofPass_of_success h
    cases htypes : t.discover settings with
    | error e =>
      rw [generate_of_discover_error defaultRules (by simpa using htypes)] at hreport
      cases hreport
    | ok types =>
      have hsame := (builders_eq_names (by simpa using htypes) (Prod.ext rfl hreport)).1
      exact ⟨settings, types, rfl, htypes, hsame.symm.trans hclean⟩

/-- **The drivers agree.**  Checking types meets the violations that making their models meets; a
pass that aborts ends with a violation exactly when there is one, and with the first; one that
proceeds reports all of them, and its files have the builders whose names are read in the text of
the models that is printed.  So, for one tree and one set of options, the command that checks fails
whenever the one that writes aborts on a type or skips it, and succeeds whenever that one does; and
all commands fail when the types cannot be discovered. -/
theorem drivers_agree (t : FileTree) :
    (∀ (settings : Settings) (rules : List Check) (types : List Discovered),
      t.discover settings = .ok types →
      violations rules types = (synthesizeAll rules types).filterMap Synthesized.violation?
      ∧ (∀ v, (t.generate (settings.under .abort) rules).2 = .error (.violation v)
          ↔ (violations rules types).head? = some v)
      ∧ ∀ report, (t.generate (settings.under .proceed) rules).2 = .ok report →
          report.violations = violations rules types
          ∧ report.files.map WrittenFile.builder = (builtModels rules types).map BuilderModel.name)
    ∧ ∀ (env : Environment) (call : Call) (words : Action → List String),
        (∀ action, readCall env (words action) = .ok { call with action }) →
        (∀ keepGoing, (run (words (.generate keepGoing)) env t).status = .success →
          (run (words .validate) env t).status = .success)
        ∧ ∀ settings, call.settings env t = .ok settings →
          (∀ e, t.discover settings = .error e → (run (words .validate) env t).status = .failure
            ∧ ∀ flag, (run (words (.generate flag)) env t).status = .failure
              ∧ (run (words (.info flag)) env t).status = .failure)
          ∧ ∀ types, t.discover settings = .ok types →
            (run (words (.info true)) env t).output
              = (Value.list ((builtModels defaultRules types).map BuilderModel.encode)).prettyJson 0
                ++ "\n"
            ∧ printedNames? (run (words (.info true)) env t).output
              = some ((builtModels defaultRules types).map BuilderModel.name)
            ∧ (∀ report, (t.generate (settings.under .proceed) defaultRules).2 = .ok report →
              printedNames? (run (words (.info true)) env t).output
                = some (report.files.map WrittenFile.builder))
            ∧ (violations defaultRules types ≠ [] → (run (words .validate) env t).status = .failure)
            ∧ ∀ keepGoing,
              (∃ v, (t.generate (settings.going keepGoing) defaultRules).2 = .error (.violation v))
                ∨ (∃ report, (t.generate (settings.going keepGoing) defaultRules).2 = .ok report
                  ∧ report.violations ≠ []) →
              (run (words .validate) env t).status = .failure := by
  refine ⟨fun settings rules types htypes =>
    ⟨violations_eq_filterMap rules types, generate_abort_iff htypes, ?_⟩,
    fun env call words hwords => ⟨fun keepGoing hsuccess => ?_, fun settings hsettings => ⟨?_, ?_⟩⟩⟩
  · intro report hreport
    exact builders_eq_names (by simpa using htypes) (Prod.ext rfl hreport)
  · obtain ⟨settings, types, hsettings, htypes, hclean⟩ := clean_of_run_generate hwords hsuccess
    rw [(run_of_settings hwords hsettings).1, runValidate_status htypes, if_pos hclean]
  · intro e he
    obtain ⟨hvalidate, hflags⟩ := run_of_settings hwords hsettings
    refine ⟨by simp [hvalidate, runValidate, he, Effect.ofReading, bind,
      Except.bind], fun flag => ⟨?_, ?_⟩⟩
    · rw [(hflags flag).1, runGenerate_eq, generate_of_discover_error defaultRules
        (by simpa using he)]
      rfl
    · simp [(hflags flag).2, runInfo, he, Effect.ofReading, bind, Except.bind]
  · intro types htypes
    obtain ⟨hvalidate, hflags⟩ := run_of_settings hwords hsettings
    have hrejects : violations defaultRules types ≠ [] →
        (run (words .validate) env t).status = .failure := by
      intro hne
      rw [hvalidate, runValidate_status htypes, if_neg hne]
    have houtput : (run (words (.info true)) env t).output
        = modelsText (synthesizeAll defaultRules types) := by
      rw [(hflags true).2]
      simp [runInfo, htypes, Effect.ofReading, bind, Except.bind, pure, Except.pure]
    have hnames : printedNames? (run (words (.info true)) env t).output
        = some ((builtModels defaultRules types).map BuilderModel.name) := by
      rw [houtput, printedNames?_modelsText]
    refine ⟨houtput.trans (modelsText_synthesizeAll defaultRules types), hnames,
      fun report hreport => ?_, hrejects, fun keepGoing hpass => hrejects ?_⟩
    · have hbuilders := (builders_eq_names (by simpa using htypes) (Prod.ext rfl hreport)).2
      rw [hnames, hbuilders]
    · exact violations_ne_nil_of_pass (by simpa using htypes) hpass

/-- The words for each action on descriptor files. -/
def descriptorWords (action : Action) : List String :=
  ["--source", "descriptors"] ++
    match action with
    | .generate keepGoing => "generate" :: if keepGoing then ["--keep-going"] else []
    | .validate => ["validate"]
    | .info json => "info" :: if json then ["--json"] else []
    | .init force => "init" :: if force then ["--force"] else []

/-- In a workspace with a type that can be built and one that cannot, the loops agree on the second,
the command that checks fails, and the command that prints models names the builder of the first. -/
theorem drivers_agree_mixed : ∃ types v t' report, mixedTree.discover mixedSettings = .ok types
    ∧ violations defaultRules types = [v]
    ∧ (mixedTree.generate (mixedSettings.under .abort) defaultRules).2 = .error (.violation v)
    ∧ mixedTree.generate (mixedSettings.under .proceed) defaultRules = (t', .ok report)
    ∧ report.violations = [v]
    ∧ report.files.map WrittenFile.builder = [⟨"", "JobBuilder"⟩]
    ∧ printedNames? (run (descriptorWords (.info true)) .empty mixedTree).output
      = some [⟨"", "JobBuilder"⟩]
    ∧ (run (descriptorWords .validate) .empty mixedTree).status = .failure := by
  obtain ⟨types, t', report, htypes, hproceed, hone, hfiles⟩ := exists_pass_mixedTree
  obtain ⟨v, hv⟩ := List.length_eq_one_iff.1 hone
  obtain ⟨hloops, hcommands⟩ := drivers_agree mixedTree
  obtain ⟨-, habort, hreports⟩ := hloops mixedSettings defaultRules types htypes
  have hreport := congrArg Prod.snd hproceed
  obtain ⟨hviolations, -⟩ := hreports report hreport
  have hwords : ∀ action, readCall .empty (descriptorWords action)
      = .ok ⟨action, none, some .descriptors, none⟩ := by
    intro action
    cases action with
    | validate => rfl
    | generate flag => cases flag <;> rfl
    | info flag => cases flag <;> rfl
    | init flag => cases flag <;> rfl
  have hsettings : Call.settings ⟨.validate, none, some .descriptors, none⟩ .empty mixedTree
      = .ok mixedSettings := by
    rfl
  obtain ⟨-, -, hnames, hfails, -⟩ :=
    ((hcommands .empty _ descriptorWords hwords).2 mixedSettings hsettings).2 types htypes
  refine ⟨types, v, t', report, htypes, hv, (habort v).2 ?_, hproceed, hviolations.trans hv, hfiles,
    hfiles ▸ hnames report hreport, hfails ?_⟩
  · rw [hv]
    rfl
  · rw [hv]
    exact List.cons_ne_nil v []

end FluentBuilder
