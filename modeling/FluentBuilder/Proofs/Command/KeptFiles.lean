import FluentBuilder.Proofs.Command.KeepGoing
import FluentBuilder.Proofs.Workspace.AddedFiles

/-!
# Files that the command leaves alone

The command writes builders, whose files are source files by their names, and fresh configuration
files where nothing is.  So whatever it is called for, in whatever order, no file is ever removed,
and only source files are ever written anew.

* `IsSourcePlace` — places whose names are those of source files;
* `KeepsFiles` — trees in which all files are still there, and all but source files are as they
  were;
* `keepsFiles_write?`, `Adds.keepsFiles` — the two kinds of changes;
* `keepsFiles_generate`, `keepsFiles_run` — a pass, and a call of the command;
* `runs_keep_files` — calls in a row.
-/

namespace FluentBuilder

open FilePath FileTree

variable {t t' u : FileTree}

/-! ### Places of source files -/

/-- A place whose name ends in the extension of source files. -/
def IsSourcePlace (l : Location) : Prop :=
  ∃ name, l.getLast? = some name ∧ ['.', 'r', 's'] <:+ name.toList

/-- A path with the extension of source files is written at a source place. -/
theorem isSourcePlace_of_target? {path : String} {l : Location}
    (hends : ['.', 'r', 's'] <:+ path.toList) (h : t.target? path = some l) : IsSourcePlace l := by
  obtain ⟨front, hfront⟩ := hends
  obtain ⟨name, start, hname, hstart⟩ := fileName?_of_ends hfront.symm
  obtain ⟨steps, s, up, hsteps, -, -, -, rfl⟩ := target?_eq_some_iff.1 h
  unfold fileName? at hname
  rw [hsteps, List.getLast?_concat] at hname
  cases hname
  exact ⟨name, List.getLast?_concat, start, hstart.symm⟩

/-- The name of a file in a path is the name of its place. -/
theorem isSourcePlace_iff_of_fileName? {path name : String} {l : Location}
    (hname : fileName? path = some name) (h : t.resolve? path = some l) :
    IsSourcePlace l ↔ ['.', 'r', 's'] <:+ name.toList := by
  have hfollow := (resolve?_eq_some_iff.1 h).2.1
  obtain ⟨steps, hsteps⟩ : ∃ steps, components path = steps ++ [.name name] := by
    unfold fileName? at hname
    split at hname
    · next s hlast =>
      cases hname
      exact List.getLast?_eq_some_iff.1 hlast
    · cases hname
  rw [hsteps] at hfollow
  obtain ⟨up, -, -, -, -, rfl⟩ := follow?_concat_name_iff.1 hfollow
  unfold IsSourcePlace
  rw [List.getLast?_concat]
  constructor
  · rintro ⟨other, hother, hends⟩
    cases hother
    exact hends
  · exact fun hends => ⟨name, rfl, hends⟩

/-! ### Kept files -/

/-- A tree in which every file of another tree is still a file, and as it was unless it is a source
file. -/
structure KeepsFiles (t t' : FileTree) : Prop where
  grows : Grows t t'
  file : ∀ l content, t.get? l = some (.file content) →
    ∃ content', t'.get? l = some (.file content') ∧ (¬ IsSourcePlace l → content' = content)

theorem KeepsFiles.refl (t : FileTree) : KeepsFiles t t :=
  ⟨Grows.refl t, fun _ content h => ⟨content, h, fun _ => rfl⟩⟩

theorem KeepsFiles.trans (h : KeepsFiles t u) (h' : KeepsFiles u t') : KeepsFiles t t' := by
  refine ⟨h.grows.trans h'.grows, fun l content hl => ?_⟩
  obtain ⟨between, hbetween, hsame⟩ := h.file l content hl
  obtain ⟨content', hcontent', hsame'⟩ := h'.file l between hbetween
  exact ⟨content', hcontent', fun hother => (hsame' hother).trans (hsame hother)⟩

/-- An addition changes no file at all. -/
theorem FileTree.Adds.keepsFiles (h : Adds t t') : KeepsFiles t t' :=
  ⟨h.grows, fun l content hl => ⟨content, h.kept l _ hl, fun _ => rfl⟩⟩

/-- Writing to a path with the extension of source files changes a source file, or adds one. -/
theorem keepsFiles_write? {path : String} {content : Content}
    (hends : ['.', 'r', 's'] <:+ path.toList) (h : t.write? path content = some t') :
    KeepsFiles t t' := by
  obtain ⟨-, l, htarget, hnew, rfl⟩ := write?_eq_some_iff.1 h
  have hget := get?_put (.file content) (not_isPrefixOf_of_get? hnew)
  refine ⟨grows_put hnew, fun k old hk => ?_⟩
  rw [hget]
  by_cases hkl : k = l
  · refine ⟨content, if_pos hkl, fun hother => ?_⟩
    rw [hkl] at hother
    exact absurd (isSourcePlace_of_target? hends htarget) hother
  · exact ⟨old, by rw [if_neg hkl, hk], fun _ => rfl⟩

/-- What is read at a path to a file that is no source file by its name is still read there. -/
theorem KeepsFiles.content? (h : KeepsFiles t t') {path name : String} {content : Content}
    (hname : fileName? path = some name) (hother : ¬ ['.', 'r', 's'] <:+ name.toList)
    (hcontent : t.content? path = some content) : t'.content? path = some content := by
  unfold FileTree.content? at hcontent ⊢
  cases hl : t.resolve? path with
  | none =>
    rw [hl] at hcontent
    cases hcontent
  | some l =>
    rw [hl, Option.bind_some] at hcontent
    split at hcontent
    · next old hfile =>
      cases hcontent
      obtain ⟨content', hcontent', hsame⟩ := h.file l content hfile
      have hplace : ¬ IsSourcePlace l := mt (isSourcePlace_iff_of_fileName? hname hl).1 hother
      rw [h.grows.resolve? hl, Option.bind_some, hcontent', hsame hplace]
    · cases hcontent

/-! ### Passes -/

theorem keepsFiles_writeFiles {directory : String} {files : List PlannedFile}
    (hends : ∀ f ∈ files, ['.', 'r', 's'] <:+ f.name.toList) (t : FileTree) :
    KeepsFiles t (t.writeFiles directory files).1 := by
  induction files generalizing t with
  | nil => exact .refl t
  | cons f files ih =>
    obtain ⟨hhere, hrest⟩ := List.forall_mem_cons.1 hends
    rw [writeFiles_cons]
    cases hwrite : t.write? (join directory f.name) (.text f.text) with
    | none => exact .refl t
    | some u =>
      obtain ⟨start, hstart⟩ := hhere
      obtain ⟨front, hfront⟩ := ends_join directory hstart.symm
      exact (keepsFiles_write? ⟨front, hfront.symm⟩ hwrite).trans (ih hrest u)

theorem keepsFiles_carryOut {plan : Plan}
    (hends : ∀ f ∈ plan.files, ['.', 'r', 's'] <:+ f.name.toList) (directory : String)
    (t : FileTree) : KeepsFiles t (t.carryOut directory plan).1 := by
  have hmade : KeepsFiles t (t.createDirectories directory).1 :=
    (createDirectories_spec t directory).adds.keepsFiles
  unfold FileTree.carryOut
  cases hcreate : t.createDirectories directory with
  | mk made ok =>
    rw [hcreate] at hmade
    cases ok with
    | false => exact hmade
    | true => exact hmade.trans (keepsFiles_writeFiles hends made)

/-- The files of builders are source files by their names. -/
theorem ends_of_planned {settings : Settings} {rules : List Check} {plan : Plan}
    (h : t.plan settings rules = .ok plan) :
    ∀ f ∈ plan.files, ['.', 'r', 's'] <:+ f.name.toList := by
  intro f hf
  obtain ⟨types, -, -, hfiles, -⟩ := plan_eq_ok_iff.1 h
  obtain ⟨a, -, hfile⟩ := exists_of_mem_right hfiles hf
  rw [(Accepted.file_eq_ok_iff.1 hfile).1, QualifiedName.fileName, String.toList_append]
  exact List.suffix_append _ _

/-- **A pass writes source files only**, whether it succeeds or not. -/
theorem keepsFiles_generate (t : FileTree) (settings : Settings) (rules : List Check) :
    KeepsFiles t (t.generate settings rules).1 := by
  unfold FileTree.generate
  cases hplan : t.plan settings rules with
  | error e => exact .refl t
  | ok plan => exact keepsFiles_carryOut (ends_of_planned hplan) settings.outputPath t

/-! ### Calls of the command -/

/-- What only reads a tree leaves it as it is. -/
theorem tree_ofReading (t : FileTree) (outcome : Except WorkspaceError (ExitStatus × String)) :
    (Effect.ofReading t outcome).tree = t := by
  cases outcome <;> rfl

/-- What an action leaves whatever the settings, a call leaves whether there are settings or not. -/
theorem tree_withSettings {call : Call} {env : Environment} {effect : Settings → Effect}
    (P : FileTree → Prop) (ht : P t) (heffect : ∀ settings, P (effect settings).tree) :
    P (call.withSettings env t effect).tree := by
  unfold Call.withSettings
  cases call.settings env t with
  | error e => exact ht
  | ok settings => exact heffect settings

/-- Only writing builders and writing a configuration file changes a tree. -/
theorem tree_runCall {call : Call}
    (haction : call.action = .validate ∨ ∃ json, call.action = .info json) (env : Environment)
    (t : FileTree) : (runCall call env t).tree = t := by
  unfold runCall
  rcases haction with haction | ⟨json, haction⟩
  · rw [haction]
    exact tree_withSettings (· = t) rfl fun settings => tree_ofReading t _
  · rw [haction]
    exact tree_withSettings (· = t) rfl fun settings => tree_ofReading t _

/-- A fresh configuration file is an addition, unless it may replace what is there. -/
theorem keepsFiles_runInit (config : Option String) (t : FileTree) :
    KeepsFiles t (runInit config false t).tree := by
  unfold runInit
  dsimp only
  split
  · exact .refl t
  · next hnew =>
    have hnew : t.exists? (config.getD configFileName) = false := by simpa using hnew
    split
    · next u hwrite => exact (adds_of_write? hnew hwrite).keepsFiles
    · exact .refl t

theorem keepsFiles_runCall {call : Call} (hforce : call.action ≠ .init true) (env : Environment)
    (t : FileTree) :
    KeepsFiles t (runCall call env t).tree := by
  cases haction : call.action with
  | generate keepGoing =>
    unfold runCall
    rw [haction]
    refine tree_withSettings (KeepsFiles t) (.refl t) fun settings => ?_
    rw [runGenerate_eq, tree_ofPass]
    exact keepsFiles_generate t _ defaultRules
  | validate =>
    rw [tree_runCall (.inl haction)]
    exact .refl t
  | info json =>
    rw [tree_runCall (.inr ⟨json, haction⟩)]
    exact .refl t
  | init force =>
    cases force with
    | true => exact absurd haction hforce
    | false =>
      unfold runCall
      rw [haction]
      exact keepsFiles_runInit call.config t

/-- The command as it is called: with words, in an environment. -/
structure Invocation where
  words : List String
  env : Environment := .empty

namespace Invocation

/-- The tree that an invocation leaves. -/
def tree (i : Invocation) (t : FileTree) : FileTree :=
  (run i.words i.env t).tree

/-- Whether an invocation may replace a configuration file. -/
def Forces (i : Invocation) : Prop :=
  ∃ call, readCall i.env i.words = .ok call ∧ call.action = .init true

instance (i : Invocation) : Decidable i.Forces :=
  decidable_of_iff ((readCall i.env i.words).toOption.any (fun call => call.action == .init true)
    = true) (by
      unfold Forces
      cases readCall i.env i.words <;> simp [Except.toOption])

/-- Whether an invocation is neither for builders nor for a configuration file. -/
def OnlyReads (i : Invocation) : Prop :=
  ∀ call, readCall i.env i.words = .ok call → call.action = .validate ∨ ∃ json,
    call.action = .info json

end Invocation

/-- An invocation that only reads leaves the tree as it is. -/
theorem tree_of_onlyReads {i : Invocation} (h : i.OnlyReads) (t : FileTree) : i.tree t = t := by
  unfold Invocation.tree run
  cases hread : readCall i.env i.words with
  | ok call => exact tree_runCall (h call hread) i.env t
  | error e => cases e <;> rfl

/-- **An invocation keeps files**, unless it may replace a configuration file. -/
theorem keepsFiles_run {i : Invocation} (h : ¬ i.Forces) (t : FileTree) :
    KeepsFiles t (i.tree t) := by
  unfold Invocation.tree run
  cases hread : readCall i.env i.words with
  | ok call => exact keepsFiles_runCall (fun hforce => h ⟨call, hread, hforce⟩) i.env t
  | error e => cases e <;> exact .refl t

/-! ### Invocations in a row -/

/-- The tree that invocations leave, one behind the other. -/
def FileTree.invokeAll (t : FileTree) (invocations : List Invocation) : FileTree :=
  invocations.foldl (fun t i => i.tree t) t

theorem FileTree.invokeAll_append (t : FileTree) (earlier later : List Invocation) :
    t.invokeAll (earlier ++ later) = (t.invokeAll earlier).invokeAll later :=
  List.foldl_append

theorem keepsFiles_invokeAll {invocations : List Invocation} (h : ∀ i ∈ invocations, ¬ i.Forces)
    (t : FileTree) :
    KeepsFiles t (t.invokeAll invocations) := by
  induction invocations generalizing t with
  | nil => exact .refl t
  | cons i rest ih =>
    obtain ⟨hhere, hrest⟩ := List.forall_mem_cons.1 h
    exact (keepsFiles_run hhere t).trans (ih hrest (i.tree t))

/-- A path to a configuration file, an environment file or a descriptor file, by its last name. -/
def NamesInput (path : String) : Prop :=
  fileName? path = some configFileName ∨ fileName? path = some environmentFileName
    ∨ extension? path = some "toml" ∨ extension? path = some "json"

instance (path : String) : Decidable (NamesInput path) :=
  inferInstanceAs (Decidable (_ ∨ _ ∨ _ ∨ _))

/-- Such a file is no source file. -/
theorem NamesInput.exists_fileName {path : String} (h : NamesInput path) :
    ∃ name, fileName? path = some name ∧ ¬ ['.', 'r', 's'] <:+ name.toList := by
  have hextension : ∀ extension, extension ≠ "rs" → extension? path = some extension →
      ∃ name, fileName? path = some name ∧ ¬ ['.', 'r', 's'] <:+ name.toList := by
    intro extension hne hpath
    cases hname : fileName? path with
    | none =>
      unfold extension? at hpath
      rw [hname] at hpath
      cases hpath
    | some name =>
      refine ⟨name, rfl, fun ⟨start, hstart⟩ => ?_⟩
      rcases extension?_of_fileName hname hstart.symm with hnone | hsource
      · rw [hnone] at hpath
        cases hpath
      · rw [hsource] at hpath
        exact hne (Option.some.inj hpath).symm
  rcases h with h | h | h | h
  · exact ⟨_, h, by decide⟩
  · exact ⟨_, h, by decide⟩
  · exact hextension "toml" (by decide) h
  · exact hextension "json" (by decide) h

/-- **No row of invocations takes a file away, or changes one that is no source file.**  Let no
invocation be asked to replace a configuration file.  Then a file that is there at any time stays a
file up to the end, with what it holds unless its name is that of a source file.  So the
configuration files, environment files and descriptor files that can be read at any time read the
same up to the end.  And what is neither asked for builders nor for a configuration file leaves the
tree as it is. -/
theorem runs_keep_files (t : FileTree) (invocations : List Invocation)
    (hforce : ∀ i ∈ invocations, ¬ i.Forces) :
    ∀ earlier later, invocations = earlier ++ later →
      (∀ l content, (t.invokeAll earlier).get? l = some (.file content) →
          ∃ content', (t.invokeAll invocations).get? l = some (.file content')
            ∧ (¬ IsSourcePlace l → content' = content))
        ∧ (∀ path content, NamesInput path → (t.invokeAll earlier).content? path = some content →
            (t.invokeAll invocations).content? path = some content)
        ∧ ∀ i rest, later = i :: rest → i.OnlyReads →
          t.invokeAll (earlier ++ [i]) = t.invokeAll earlier := by
  intro earlier later hsplit
  have hkeeps : KeepsFiles (t.invokeAll earlier) (t.invokeAll invocations) := by
    rw [hsplit, invokeAll_append]
    exact keepsFiles_invokeAll (fun i hi => hforce i (hsplit ▸ List.mem_append_right earlier hi)) _
  refine ⟨hkeeps.file, fun path content hpath hcontent => ?_, fun i rest _ hreads => ?_⟩
  · obtain ⟨name, hname, hother⟩ := hpath.exists_fileName
    exact hkeeps.content? hname hother hcontent
  · rw [invokeAll_append]
    exact tree_of_onlyReads hreads _

/-- Builders are written into the directory of their descriptors, in place of a file that is there,
next to a configuration and an environment file. -/
def inputsTree : FileTree :=
  ⟨[(["autobuilder.toml"],
    .file (.text "[source]\ndescriptor_path = \"d\"\n[output]\npath = \"$\x7bOUT\x7d\"\n")),
    ([".env"], .file (.text "OUT=d\n")), (["d"], .directory),
    (["d", "a.toml"], .file (.text "[[types]]\nname = \"Job\"\n[[types.constructors]]\n")),
    (["d", "job_builder.rs"], .file (.text ""))], []⟩

/-- The command with each of its actions, in this workspace. -/
def inputsInvocations : List Invocation :=
  [⟨["info", "--json"], .empty⟩, ⟨["--source", "descriptors", "generate", "--keep-going"], .empty⟩,
    ⟨["init"], .empty⟩, ⟨["init", "--config", "d/other.toml"], .empty⟩,
    ⟨["-o", "autobuilder.toml"], .empty⟩, ⟨["validate"], .empty⟩]

/-- The configuration, the environment file and the descriptors outlive these invocations, and the
file in the place of the builder is still a file. -/
theorem runs_keep_files_inputs : (∀ i ∈ inputsInvocations, ¬ i.Forces)
    ∧ (∀ path ∈ ["autobuilder.toml", ".env", "d/a.toml"],
      ∃ content, inputsTree.content? path = some content
        ∧ (inputsTree.invokeAll inputsInvocations).content? path = some content)
    ∧ ∃ content, (inputsTree.invokeAll inputsInvocations).get? ["d", "job_builder.rs"]
      = some (.file content) := by
  have hforce : ∀ i ∈ inputsInvocations, ¬ i.Forces := by decide +kernel
  obtain ⟨hfiles, hinputs, -⟩ :=
    runs_keep_files inputsTree inputsInvocations hforce [] inputsInvocations rfl
  refine ⟨hforce, fun path hpath => ?_, ?_⟩
  · have hnamed : ∀ path ∈ ["autobuilder.toml", ".env", "d/a.toml"], NamesInput path
        ∧ (inputsTree.content? path).isSome = true := by decide +kernel
    obtain ⟨hnames, hthere⟩ := hnamed path hpath
    obtain ⟨content, hcontent⟩ := Option.isSome_iff_exists.1 hthere
    exact ⟨content, hcontent, hinputs path content hnames hcontent⟩
  · have hthere : inputsTree.get? ["d", "job_builder.rs"] = some (.file (.text "")) := by
      decide +kernel
    obtain ⟨content, hcontent, -⟩ := hfiles _ _ hthere
    exact ⟨content, hcontent⟩

end FluentBuilder
