import FluentBuilder.Proofs.Command.KeepGoing
import FluentBuilder.Proofs.Workspace.RebasedPasses

/-!
# Where a configuration was found

A configuration file in the working directory is found by a search, or is named.  A search starts
with the path of the working directory, so the paths in the configuration are joined to that path;
behind a plain file name they start at the working directory by themselves.

* `readCall_generate`, `readCall_config` — the two calls;
* `settings_found`, `settings_named` — the settings of either;
* `run_config_located` — both end in the same way, and their trees only differ in the origins in
  front of builders;
* `config_located_origin` — in these they do differ.
-/

namespace FluentBuilder

open FilePath FileTree

/-! ### The two calls -/

/-- The call that writes builders, with a configuration file or without. -/
def generateCall (config : Option String) : Call :=
  ⟨.generate false, config, none, none⟩

theorem readCall_generate {env : Environment} (h : env.get? configVariable = none) :
    readCall env ["generate"] = .ok (generateCall none) := by
  rw [show ["generate"] = [] ++ Subcommand.generate.label :: [] from rfl,
    readCall_named ⟨rfl, rfl, List.not_mem_nil⟩]
  simp [readWords, Given.callWith, Given.complete, Given.settle, h, bind, Except.bind, pure,
    Except.pure, generateCall, Subcommand.action]

theorem readCall_config {env : Environment} (h : env.get? configVariable = none) :
    readCall env ["--config", configFileName, "generate"]
      = .ok (generateCall (some configFileName)) := by
  have hoptions : IsOptions none ["--config", configFileName]
      { pending := some (.config, some configFileName) } := ⟨by rfl, rfl, by decide⟩
  rw [show ["--config", configFileName, "generate"]
    = ["--config", configFileName] ++ Subcommand.generate.label :: [] from rfl,
      readCall_named hoptions]
  simp [readWords, Given.callWith, Given.complete, Given.settle, Given.addValue, h, bind,
    Except.bind, pure, Except.pure, generateCall, Subcommand.action]
  rfl

variable {t : FileTree} {env : Environment}

/-- The call without its own source and output has the settings of the configuration. -/
theorem settings_generateCall (config : Option String) :
    (generateCall config).settings env t = (generateCall config).baseSettings
    (t.extendEnvironment env) t := by
  unfold Call.settings
  cases (generateCall config).baseSettings (t.extendEnvironment env) t <;> rfl

theorem parent?_configFileName (h : t.HasPath) :
    parent? configFileName = some ""
      ∧ parent? (join t.workingPath configFileName) = some t.workingPath := by
  have hplain : parent? configFileName = some "" := by decide +kernel
  refine ⟨hplain, ?_⟩
  have hrelative : isAbsolute configFileName = false := by decide +kernel
  have hsteps : dropIdle (splitSlash configFileName.toList) ≠ [] := by decide +kernel
  rcases parent?_join_working h hrelative (by decide) hsteps with
    ⟨up, hne, -, hup, -⟩ | ⟨-, -, -, hjoined⟩
  · rw [hplain] at hup
    exact absurd (Option.some.inj hup).symm hne
  · exact hjoined

/-- The search ends in the working directory when that has a configuration file. -/
theorem findConfig_working (h : t.HasPath) (hconfig : t.exists? configFileName = true) :
    t.findConfig t.workingPath = .ok (join t.workingPath configFileName) := by
  have hfound : t.exists? (join t.workingPath configFileName) = true := by
    unfold exists? at hconfig ⊢
    rw [resolve?_join_working h (by decide), hconfig]
  unfold findConfig
  rw [ancestors_eq, List.map_cons, List.find?_cons_of_pos hfound]

theorem rebase_ofConfig (c : Config) (base : String) :
    (Settings.ofConfig c "").rebase base = Settings.ofConfig c base := by
  unfold Settings.ofConfig Settings.rebase
  simp only [join_empty]

/-- The settings of a configuration that is named start at the working directory. -/
theorem settings_named : (generateCall (some configFileName)).settings env t
    = t.loadSettings (t.extendEnvironment env) configFileName :=
  settings_generateCall _

/-- **The settings of a configuration that was found** have the same paths, joined to the working
directory. -/
theorem settings_found (h : t.HasPath) (hconfig : t.exists? configFileName = true) :
    (generateCall none).settings env t
      = (t.loadSettings (t.extendEnvironment env) configFileName).map
        (Settings.rebase t.workingPath) := by
  obtain ⟨hparent, hjoined⟩ := parent?_configFileName h
  rw [settings_generateCall]
  unfold Call.baseSettings generateCall
  dsimp only
  rw [findConfig_working h hconfig]
  dsimp only
  unfold loadSettings loadConfig
  rw [read?_join_working h (by decide), hparent, hjoined]
  cases t.read? configFileName with
  | none => rfl
  | some text =>
    cases hparse : (Config.parse (t.extendEnvironment env) text).mapError WorkspaceError.config with
    | error e => simp [hparse, bind, Except.bind, Except.map]
    | ok c => simp [hparse, bind, Except.bind, Except.map, pure, Except.pure, rebase_ofConfig]

/-! ### The command -/

/-- The effect of the call that writes builders, from its settings. -/
def Effect.ofSettings (t : FileTree) : Except WorkspaceError Settings → Effect
  | .ok settings => .ofPass (t.generate settings defaultRules)
  | .error _ => { status := .failure, tree := t }

theorem run_generateCall (h : env.get? configVariable = none) :
    run ["generate"] env t = .ofSettings t ((generateCall none).settings env t)
      ∧ run ["--config", configFileName, "generate"] env t
        = .ofSettings t ((generateCall (some configFileName)).settings env t) := by
  have hrun : ∀ config, runCall (generateCall config) env t
      = .ofSettings t ((generateCall config).settings env t) := by
    intro config
    show (generateCall config).withSettings env t (fun settings => runGenerate settings false t) = _
    unfold Call.withSettings
    cases (generateCall config).settings env t with
    | error e => rfl
    | ok settings => exact runGenerate_eq settings false t
  unfold run
  rw [readCall_generate h, readCall_config h]
  exact ⟨hrun none, hrun (some configFileName)⟩

/-- Passes that end in the same way, with the same violations, end the command in the same way. -/
theorem status_ofPass_eq {pass pass' : FileTree × Except WorkspaceError Report}
    (h : Alike (fun report report' => report.violations = report'.violations) pass.2 pass'.2) :
    (Effect.ofPass pass).status = (Effect.ofPass pass').status := by
  obtain ⟨u, outcome⟩ := pass
  obtain ⟨u', outcome'⟩ := pass'
  cases h with
  | error e e' => rfl
  | ok hsame =>
    unfold Effect.ofPass Report.isClean
    dsimp only
    rw [hsame]

/-- **Where a configuration was found makes no difference but for origins.**  In a workspace with a
configuration file in its working directory, the command ends in the same way whether it searches
for the file or is given its name.  The two trees are the same, but for the comments in front of
builders: there the path of the origin stands by itself, or joined to the path of the working
directory.  When the path below which types are looked for is absolute, the trees are the same.
Only this path must not be empty. -/
theorem run_config_located (hregular : t.IsRegular) (hvariable : env.get? configVariable = none)
    (hconfig : t.exists? configFileName = true)
    (hpath : ∀ settings, t.loadSettings (t.extendEnvironment env) configFileName = .ok settings →
      settings.root ≠ "") :
    (run ["generate"] env t).status.code
      = (run ["--config", configFileName, "generate"] env t).status.code
      ∧ SameButOrigins (fun _ => True) t.workingPath (run ["generate"] env t).tree
        (run ["--config", configFileName, "generate"] env t).tree
      ∧ ∀ settings, t.loadSettings (t.extendEnvironment env) configFileName = .ok settings →
        isAbsolute settings.root = true → ∀ l, (run ["generate"] env t).tree.get? l
          = (run ["--config", configFileName, "generate"] env t).tree.get? l := by
  obtain ⟨hfound, hnamed⟩ := run_generateCall (t := t) hvariable
  rw [hfound, hnamed, settings_found hregular.hasPath hconfig, settings_named]
  cases hsettings : t.loadSettings (t.extendEnvironment env) configFileName with
  | error e => exact ⟨rfl, .refl _ _ t, nofun⟩
  | ok settings =>
    obtain ⟨htrees, houtcomes⟩ := generate_rebase hregular defaultRules (hpath settings hsettings)
    simp only [Except.map, Effect.ofSettings, tree_ofPass]
    refine ⟨?_, htrees.mono fun _ _ => trivial, fun settings' hsame habsolute l => ?_⟩
    · exact congrArg ExitStatus.code (status_ofPass_eq houtcomes)
    · cases hsame
      rcases htrees.places l with hsame | ⟨origin, body, horigin, hfile, hfile'⟩
      · exact hsame
      · rw [join_of_isAbsolute (horigin habsolute)] at hfile
        exact hfile.trans hfile'.symm

/-- A workspace with an empty configuration file and one source file. -/
def locatedTree : FileTree :=
  ⟨[(["w", "autobuilder.toml"], .file (.text "")), (["w", "src"], .directory),
    (["w", "src", "job.rs"], .file (.text ownOutputTree.jobText))], ["w"]⟩

/-- The settings that its configuration stands for. -/
def locatedSettings : Settings :=
  Settings.ofConfig {} ""

theorem loadSettings_locatedTree :
    locatedTree.loadSettings (locatedTree.extendEnvironment .empty) configFileName
      = .ok locatedSettings := by
  rfl

theorem walk_locatedTree : locatedTree.walk isScanned "."
    = [⟨".", .directory⟩, ⟨"./autobuilder.toml", .file (.text "")⟩, ⟨"./src", .directory⟩,
        ⟨"./src/job.rs", .file (.text ownOutputTree.jobText)⟩] := by
  have hroot : locatedTree.resolve? "." = some ["w"] := by decide +kernel
  have hdirectories : locatedTree.get? ["w"] = some .directory
      ∧ locatedTree.get? ["w", "src"] = some .directory := by
    decide +kernel
  have hfiles : locatedTree.get? ["w", "autobuilder.toml"] = some (.file (.text ""))
      ∧ locatedTree.get? ["w", "src", "job.rs"] = some (.file (.text ownOutputTree.jobText)) := by
    decide +kernel
  have hnames : locatedTree.namesIn ["w"] = ["autobuilder.toml", "src"]
      ∧ locatedTree.namesIn ["w", "src"] = ["job.rs"] := by
    decide +kernel
  have hjoin : join "." "autobuilder.toml" = "./autobuilder.toml" ∧ join "." "src" = "./src"
      ∧ join "./src" "job.rs" = "./src/job.rs" := by
    decide +kernel
  have henters : isScanned "autobuilder.toml" = true ∧ isScanned "src" = true
      ∧ isScanned "job.rs" = true := by
    decide +kernel
  have hfuel : locatedTree.places.length + locatedTree.working.length + 2 = 6 := by decide
  simp [walk, walkAt, walkNames, hroot, hfuel, hdirectories, hfiles, hnames, hjoin, henters]

/-- Where the builder of its type is written. -/
def locatedBuilder : Location :=
  ["w", "src", "generated", "job_builder.rs"]

/-- Whether a place is a file with a text that names an origin in front. -/
def Place.namesOrigin (origin : String) : Option Place → Bool
  | some (.file (.text text)) => (fileHeader origin).toList.isPrefixOf text.toList
  | _ => false

/-- The passes over this workspace write the builder, each with its own origin. -/
theorem exists_passes_locatedTree :
    (∃ u report, locatedTree.generate locatedSettings defaultRules = (u, .ok report)
      ∧ report.isClean = true
        ∧ Place.namesOrigin "./src/job.rs" (u.get? locatedBuilder) = true)
      ∧ ∃ u report, locatedTree.generate (locatedSettings.rebase locatedTree.workingPath)
        defaultRules = (u, .ok report)
        ∧ report.isClean = true ∧ Place.namesOrigin "./src/job.rs" (u.get? locatedBuilder)
          = false := by
  have hpath : locatedTree.HasPath := by
    unfold HasPath
    decide +kernel
  have hroot : locatedTree.exists? locatedSettings.root = true := by decide +kernel
  have hwalk : locatedTree.walk (locatedSettings.rebase locatedTree.workingPath).enters
      (locatedSettings.rebase locatedTree.workingPath).root
      = ([⟨".", .directory⟩, ⟨"./autobuilder.toml", .file (.text "")⟩, ⟨"./src", .directory⟩,
        ⟨"./src/job.rs", .file (.text ownOutputTree.jobText)⟩] : List Visit).map
          (Visit.rebase locatedTree.workingPath) := by
    rw [Settings.root_rebase, ← walk_locatedTree, ← walk_rebase hpath (by decide)]
    rfl
  constructor
  · have hrun : (locatedTree.passFrom locatedSettings defaultRules
        [⟨".", .directory⟩, ⟨"./autobuilder.toml", .file (.text "")⟩, ⟨"./src", .directory⟩,
          ⟨"./src/job.rs", .file (.text ownOutputTree.jobText)⟩]).toOption.any
          (fun pass => pass.2.2.isClean
            && Place.namesOrigin "./src/job.rs" (pass.2.1.get? locatedBuilder)) = true := by
      decide +kernel
    obtain ⟨_, u, report, -, hgenerate, hp⟩ := exists_pass_of_any hroot walk_locatedTree hrun
    obtain ⟨hclean, horigin⟩ := Bool.and_eq_true_iff.1 hp
    exact ⟨u, report, hgenerate, hclean, horigin⟩
  · have hrun : (locatedTree.passFrom (locatedSettings.rebase locatedTree.workingPath) defaultRules
        (([⟨".", .directory⟩, ⟨"./autobuilder.toml", .file (.text "")⟩, ⟨"./src", .directory⟩,
          ⟨"./src/job.rs", .file (.text ownOutputTree.jobText)⟩] : List Visit).map
            (Visit.rebase locatedTree.workingPath))).toOption.any
          (fun pass => pass.2.2.isClean
            && !Place.namesOrigin "./src/job.rs" (pass.2.1.get? locatedBuilder)) = true := by
      decide +kernel
    obtain ⟨_, u, report, -, hgenerate, hp⟩ := exists_pass_of_any (by decide +kernel) hwalk hrun
    obtain ⟨hclean, horigin⟩ := Bool.and_eq_true_iff.1 hp
    exact ⟨u, report, hgenerate, hclean, by simpa using horigin⟩

/-- In this workspace the command ends in the same way, whether it searches for the file or is given
its name. -/
theorem run_config_located_job :
    locatedTree.IsRegular ∧ Environment.empty.get? configVariable = none
    ∧ locatedTree.exists? configFileName = true
    ∧ (∀ settings,
      locatedTree.loadSettings (locatedTree.extendEnvironment .empty) configFileName = .ok settings →
      settings.root ≠ "")
    ∧ (run ["generate"] .empty locatedTree).status.code
      = (run ["--config", configFileName, "generate"] .empty locatedTree).status.code
    ∧ SameButOrigins (fun _ => True) locatedTree.workingPath
      (run ["generate"] .empty locatedTree).tree
      (run ["--config", configFileName, "generate"] .empty locatedTree).tree := by
  have hregular : locatedTree.IsRegular := by decide +kernel
  have hconfig : locatedTree.exists? configFileName = true := by decide +kernel
  have hpath : ∀ settings,
      locatedTree.loadSettings (locatedTree.extendEnvironment .empty) configFileName
        = .ok settings →
        settings.root ≠ "" := by
    intro settings hsettings
    rw [loadSettings_locatedTree] at hsettings
    cases hsettings
    decide
  have hempty : Environment.empty.get? configVariable = none := rfl
  obtain ⟨hcode, htrees, -⟩ := run_config_located hregular hempty hconfig hpath
  exact ⟨hregular, hempty, hconfig, hpath, hcode, htrees⟩

/-- **The origins do differ.**  Both commands succeed in this workspace, and write the builder with
different texts. -/
theorem config_located_origin : locatedTree.exists? configFileName = true
    ∧ Environment.empty.get? configVariable = none
    ∧ (run ["generate"] .empty locatedTree).status = .success
    ∧ (run ["--config", configFileName, "generate"] .empty locatedTree).status = .success
    ∧ (run ["generate"] .empty locatedTree).tree.get? locatedBuilder
      ≠ (run ["--config", configFileName, "generate"] .empty locatedTree).tree.get?
        locatedBuilder := by
  have hconfig : locatedTree.exists? configFileName = true := by decide +kernel
  have hpath : locatedTree.HasPath := by
    unfold HasPath
    decide +kernel
  obtain ⟨⟨u, report, hnamed, hclean, horigin⟩, u', report', hfound, hclean', horigin'⟩ :=
    exists_passes_locatedTree
  have hempty : Environment.empty.get? configVariable = none := rfl
  obtain ⟨hrun, hrun'⟩ := run_generateCall (t := locatedTree) hempty
  rw [hrun, hrun', settings_found hpath hconfig, settings_named, loadSettings_locatedTree]
  simp only [Except.map, Effect.ofSettings, hnamed, hfound, Effect.ofPass, hclean, hclean', if_true]
  refine ⟨hconfig, hempty, trivial, trivial, fun hsame => ?_⟩
  rw [hsame, horigin] at horigin'
  cases horigin'

end FluentBuilder
