import FluentBuilder.Proofs.Workspace.RepeatedPasses
import FluentBuilder.Proofs.Workspace.SourceRoots

/-!
# Files added to a workspace

What is found in a source file depends on that file and on its path alone, and the file of a builder
on its type.  So a workspace to which files are added keeps the builders that it had, next to those
of the types in the new files.

* `Adds` — a tree that holds everything another one holds, unchanged;
* `MakesDirectories.adds`, `adds_of_write?` — a new file, with new directories on the way to it, is
  such an addition;
* `Adds.walk_sublist` — the places met in the smaller tree are met in the larger one, in the same
  order;
* `sublist_of_forall₂` — so are the outcomes of a step for each of them;
* `generate_of_adds` — the files of a pass over the smaller tree are among those of a pass over the
  larger one.
-/

namespace FluentBuilder

open FilePath FileTree

/-! ### Additions -/

namespace FileTree

/-- A tree that holds everything another one holds, unchanged. -/
structure Adds (t t' : FileTree) : Prop where
  working : t'.working = t.working
  kept : ∀ l place, t.get? l = some place → t'.get? l = some place

variable {t t' u : FileTree}

theorem Adds.trans (h : Adds t u) (h' : Adds u t') : Adds t t' :=
  ⟨h'.working.trans h.working, fun l place hl => h'.kept l place (h.kept l place hl)⟩

theorem Adds.grows (h : Adds t t') : Grows t t' := by
  refine ⟨h.working, fun l hl => h.kept l .directory hl, fun l hl => ?_⟩
  obtain ⟨place, hplace⟩ := Option.isSome_iff_exists.1 hl
  rw [h.kept l place hplace]
  rfl

/-- Directories on the way to a path are an addition. -/
theorem MakesDirectories.adds {paths : List String} (h : MakesDirectories paths t t') :
    Adds t t' := by
  refine ⟨h.grows.working, fun l place hl => ?_⟩
  rcases h.only l with hsame | ⟨hnone, -, -⟩
  · rw [hsame, hl]
  · rw [hnone] at hl
    cases hl

/-- A path that can be written, and at whose end there is something, leads there. -/
theorem resolve?_of_target? {path : String} {l : Location} (htarget : t.target? path = some l)
    (hthere : (t.get? l).isSome = true) (hslash : endsInDirectory path = false) :
    t.resolve? path = some l := by
  obtain ⟨steps, name, up, hsteps, hup, hdir, hname, rfl⟩ := target?_eq_some_iff.1 htarget
  refine resolve?_eq_some_iff.2 ⟨?_, ?_, fun hend => ?_⟩
  · cases hempty : path.isEmpty with
    | false => rfl
    | true =>
      rw [String.isEmpty_iff.1 hempty] at hsteps
      exact absurd hsteps.symm (List.concat_ne_nil _ _)
  · rw [hsteps]
    exact follow?_concat_name_iff.2 ⟨up, hup, hdir, hname, hthere, rfl⟩
  · rw [hslash] at hend
    cases hend

/-- **A file written to where nothing was is an addition.** -/
theorem adds_of_write? {path : String} {content : Content} (hnew : t.exists? path = false)
    (h : t.write? path content = some t') : Adds t t' := by
  obtain ⟨hslash, l, htarget, hdir, rfl⟩ := write?_eq_some_iff.1 h
  refine ⟨rfl, fun k place hk => ?_⟩
  have hkl : k ≠ l := by
    rintro rfl
    have hthere := resolve?_of_target? htarget (by rw [hk]; rfl) hslash
    unfold exists? at hnew
    rw [hthere] at hnew
    cases hnew
  rw [get?_put _ (not_isPrefixOf_of_get? hdir), if_neg hkl, hk]

/-! ### Walks of the larger tree -/

variable {enters : String → Bool}

/-- The names that are in both trees are visited in the same order. -/
theorem sublist_walkNames {fuel fuel' : Nat} {path : String} {l : Location} {p : String → Bool}
    (hbelow : ∀ name, p name = true → (t.walkAt enters fuel (join path name) (l ++ [name])).Sublist
      (t'.walkAt enters fuel' (join path name) (l ++ [name]))) (names : List String) :
    (t.walkNames enters fuel path l (names.filter p)).Sublist
    (t'.walkNames enters fuel' path l names) := by
  induction names with
  | nil =>
    rw [List.filter_nil, walkNames]
    exact List.nil_sublist _
  | cons name rest ih =>
    rw [walkNames]
    cases hname : p name with
    | false =>
      rw [List.filter_cons_of_neg (by rw [hname]; exact Bool.false_ne_true)]
      exact ih.trans (List.sublist_append_right _ _)
    | true =>
      rw [List.filter_cons_of_pos hname, walkNames]
      refine List.Sublist.append ?_ ih
      split
      · exact hbelow name hname
      · exact List.Sublist.refl _

/-- The induction goes down the directories; only in the larger tree the fuel has to suffice. -/
theorem Adds.walkAt_sublist (h : Adds t t') {fuel fuel' : Nat} {path : String} {l : Location}
    (hfuel : t'.knownBelow l < fuel') :
    (t.walkAt enters fuel path l).Sublist (t'.walkAt enters fuel' path l) := by
  induction fuel generalizing fuel' path l with
  | zero =>
    rw [walkAt]
    exact List.nil_sublist _
  | succ fuel ih =>
    obtain ⟨fuel', rfl⟩ : ∃ n, fuel' = n + 1 :=
      Nat.exists_eq_succ_of_ne_zero (Nat.ne_of_gt (Nat.zero_lt_of_lt hfuel))
    cases hplace : t.get? l with
    | none =>
      unfold walkAt
      rw [hplace]
      exact List.nil_sublist _
    | some place =>
      have hplace' := h.kept l place hplace
      unfold walkAt
      rw [hplace, hplace']
      cases place with
      | file content => exact List.Sublist.refl _
      | directory =>
        refine List.Sublist.cons_cons _ ?_
        rw [namesIn_eq_filter h.grows.present l]
        refine sublist_walkNames (fun name _ => ih ?_) _
        have hless := knownBelow_lt (l := l) (t := t') (by rw [hplace']; rfl) name
        omega

/-- **What a walk meets, a walk of the larger tree meets in the same order.** -/
theorem Adds.walk_sublist (h : Adds t t') (root : String) :
    (t.walk enters root).Sublist (t'.walk enters root) := by
  unfold walk
  cases hr : t.resolve? root with
  | none => exact List.nil_sublist _
  | some l =>
    rw [h.grows.resolve? hr]
    exact h.walkAt_sublist (Nat.lt_succ_of_le (knownBelow_le t' l))

end FileTree

/-! ### What is found and planned -/

/-- The outcomes of a step for some elements of a list are among those for all of them, in the same
order. -/
theorem sublist_of_forall₂ {α β ε : Type} {f : α → Except ε β} {as as' : List α} {bs bs' : List β}
    (h : List.Forall₂ (fun a b => f a = .ok b) as bs)
    (h' : List.Forall₂ (fun a b => f a = .ok b) as' bs') (hsub : as.Sublist as') :
    bs.Sublist bs' := by
  induction hsub generalizing bs bs' with
  | slnil =>
    cases h
    exact List.nil_sublist _
  | cons a _ ih =>
    cases h' with
    | cons _ hrest => exact (ih h hrest).trans (List.sublist_cons_self _ _)
  | cons_cons a _ ih =>
    cases h with
    | cons hb hrest =>
      cases h' with
      | cons hb' hrest' =>
        obtain rfl := Except.ok.inj (hb.symm.trans hb')
        exact List.Sublist.cons_cons _ (ih hrest hrest')

/-- Types found in source files are found again, in the same order, once files were added. -/
theorem FileTree.Adds.discover_sublist {t t' : FileTree} {settings : Settings}
    {types types' : List Discovered} (h : Adds t t') (hsource : settings.source = .sourceFiles)
    (htypes : t.discover settings = .ok types) (htypes' : t'.discover settings = .ok types') :
    types.Sublist types' := by
  have hload := (discover_eq_ok_iff.1 htypes).1
  have hload' := (discover_eq_ok_iff.1 htypes').1
  unfold FileTree.load at hload hload'
  rw [hsource] at hload hload'
  obtain ⟨-, found, hfound, rfl⟩ := scan_eq_ok_iff.1 hload
  obtain ⟨-, found', hfound', rfl⟩ := scan_eq_ok_iff.1 hload'
  exact (sublist_of_forall₂ hfound hfound' (h.walk_sublist settings.scanPath)).flatten

/-- The files that a pass planned can be read where it reports them. -/
theorem exists_planned_of_generate {t u : FileTree} {settings : Settings} {rules : List Check}
    {types : List Discovered} {report : Report} (hsource : settings.source = .sourceFiles)
    (htypes : t.discover settings = .ok types) (h : t.generate settings rules = (u, .ok report)) :
    ∃ files, List.Forall₂ (fun a f => Accepted.file a = .ok f) (accepted rules types) files
      ∧ report.files = files.map (PlannedFile.written settings.outputPath)
      ∧ ∀ f ∈ files, u.read? (join settings.outputPath f.name) = some f.text := by
  obtain ⟨files, hleaves, hnodup, -, hall⟩ := exists_leavesFiles htypes h
  obtain ⟨hfiles, hreport⟩ := hall report rfl
  have hslash := slash_not_mem_of_discover htypes fun hdesc => by rw [hsource] at hdesc; cases hdesc
  exact ⟨files, hfiles, hreport, hleaves.read?_join (isPlainName_of_planned hslash hfiles) hnodup⟩

theorem exists_types_of_generate {t u : FileTree} {settings : Settings} {rules : List Check}
    {report : Report} (h : t.generate settings rules = (u, .ok report)) :
    ∃ types, t.discover settings = .ok types := by
  rcases generate_cases t settings rules with ⟨e, -, hsame⟩ | ⟨plan, -, -, hplan, -⟩
  · rw [h] at hsame
    cases hsame
  · obtain ⟨types, htypes, -⟩ := plan_eq_ok_iff.1 hplan
    exact ⟨types, htypes⟩

/-- **Adding source code keeps the builders of other types.**  Let a tree be made from another one
by adding files and directories, wherever they are and whatever they hold.  When a pass over the
source files succeeds on both trees, then the files reported for the smaller tree are among those
reported for the larger one, in the same order, and each of them has the same text in both. -/
theorem generate_of_adds {t t' u u' : FileTree} {settings : Settings} {rules : List Check}
    {report report' : Report} (hadds : Adds t t') (hsource : settings.source = .sourceFiles)
    (h : t.generate settings rules = (u, .ok report))
    (h' : t'.generate settings rules = (u', .ok report')) :
    report.files.Sublist report'.files
      ∧ ∀ w ∈ report.files, ∃ text, u.read? w.path = some text ∧ u'.read? w.path = some text := by
  obtain ⟨types, htypes⟩ := exists_types_of_generate h
  obtain ⟨types', htypes'⟩ := exists_types_of_generate h'
  obtain ⟨files, hfiles, hreport, hread⟩ := exists_planned_of_generate hsource htypes h
  obtain ⟨files', hfiles', hreport', hread'⟩ := exists_planned_of_generate hsource htypes' h'
  have haccepted : (accepted rules types).Sublist (accepted rules types') :=
    (hadds.discover_sublist hsource htypes htypes').filterMap _
  have hsub : files.Sublist files' := sublist_of_forall₂ hfiles hfiles' haccepted
  rw [hreport, hreport']
  refine ⟨hsub.map _, fun w hw => ?_⟩
  obtain ⟨f, hf, rfl⟩ := List.mem_map.1 hw
  exact ⟨f.text, hread f hf, hread' f (hsub.subset hf)⟩

/-- A crate with one source file, beside the directory of a build. -/
def crateTree : FileTree :=
  ⟨[(["src"], .directory), (["src", "job.rs"], .file (.text ownOutputTree.jobText)),
    (["target"], .directory)], []⟩

/-- The text of a new file, which has a struct of its own, and beside it the names of another
type. -/
def addedText : String :=
  "#[derive(AutoBuilder, Default)]\nstruct Task;\nstruct Job;\n"
    ++ "impl Job \x7b\n    pub fn new() -> Self \x7b\n        Job\n    \x7d\n\x7d\n"

/-- The crate with a directory made for a new file. -/
def preparedCrate : FileTree :=
  (crateTree.createDirectories "src/more").1

/-- The crate with the new file in it. -/
def grownCrate : FileTree :=
  (preparedCrate.write? "src/more/task.rs" (.text addedText)).getD preparedCrate

theorem adds_grownCrate : Adds crateTree grownCrate := by
  have hwrite : preparedCrate.write? "src/more/task.rs" (.text addedText) = some grownCrate := by
    obtain ⟨u, hu⟩ : ∃ u, preparedCrate.write? "src/more/task.rs" (.text addedText) = some u :=
      Option.isSome_iff_exists.1 (by decide +kernel)
    unfold grownCrate
    rw [hu, Option.getD_some]
  exact (createDirectories_spec crateTree "src/more").adds.trans
    (adds_of_write? (by decide +kernel) hwrite)

theorem walk_grownCrate : grownCrate.walk isScanned "src"
    = [⟨"src", .directory⟩, ⟨"src/job.rs", .file (.text ownOutputTree.jobText)⟩,
      ⟨"src/more", .directory⟩,
        ⟨"src/more/task.rs", .file (.text addedText)⟩] := by
  have hroot : grownCrate.resolve? "src" = some ["src"] := by decide +kernel
  have hdirectories : grownCrate.get? ["src"] = some .directory
      ∧ grownCrate.get? ["src", "more"] = some .directory := by
    decide +kernel
  have hfiles : grownCrate.get? ["src", "job.rs"] = some (.file (.text ownOutputTree.jobText))
      ∧ grownCrate.get? ["src", "more", "task.rs"] = some (.file (.text addedText)) := by
    decide +kernel
  have hnames : grownCrate.namesIn ["src"] = ["job.rs", "more"]
      ∧ grownCrate.namesIn ["src", "more"] = ["task.rs"] := by
    decide +kernel
  have hjoin : join "src" "job.rs" = "src/job.rs" ∧ join "src" "more" = "src/more"
      ∧ join "src/more" "task.rs" = "src/more/task.rs" := by
    decide +kernel
  have henters : isScanned "job.rs" = true ∧ isScanned "more" = true
      ∧ isScanned "task.rs" = true := by
    decide +kernel
  have hfuel : grownCrate.places.length + grownCrate.working.length + 2 = 7 := by decide +kernel
  simp [walk, walkAt, walkNames, hroot, hfuel, hdirectories, hfiles, hnames, hjoin, henters]

/-- The new file brings one more builder, behind that of the type that was there. -/
theorem generate_of_adds_crate : ∃ u u' report report', sourceSettings.source = .sourceFiles
    ∧ Adds crateTree grownCrate
    ∧ crateTree.generate sourceSettings defaultRules = (u, .ok report)
    ∧ grownCrate.generate sourceSettings defaultRules = (u', .ok report')
    ∧ report.files.length = 1 ∧ report'.files.length = 2 ∧ report.files.Sublist report'.files
    ∧ ∀ w ∈ report.files, ∃ text, u.read? w.path = some text ∧ u'.read? w.path = some text := by
  have hone : (crateTree.passFrom sourceSettings defaultRules
      (sourceSettings.visits [("job.rs", .text ownOutputTree.jobText)])).toOption.any
        (fun pass => pass.2.2.files.length == 1) = true := by
    decide +kernel
  have htwo : (grownCrate.passFrom sourceSettings defaultRules
      [⟨"src", .directory⟩, ⟨"src/job.rs", .file (.text ownOutputTree.jobText)⟩,
        ⟨"src/more", .directory⟩, ⟨"src/more/task.rs", .file (.text addedText)⟩]).toOption.any
        (fun pass => pass.2.2.files.length == 2) = true := by
    decide +kernel
  obtain ⟨_, u, report, -, h, hlength⟩ :=
    exists_pass_of_files ["src"] [("job.rs", .text ownOutputTree.jobText)] (by decide +kernel) hone
  obtain ⟨_, u', report', -, h', hlength'⟩ :=
    exists_pass_of_any (by decide +kernel) walk_grownCrate htwo
  obtain ⟨hsub, hread⟩ := generate_of_adds adds_grownCrate rfl h h'
  exact ⟨u, u', report, report', rfl, adds_grownCrate, h,
    h', by simpa using hlength, by simpa using hlength', hsub, hread⟩

end FluentBuilder
