import Mathlib
import FluentBuilder.Proofs.Text.SnakeCase
import FluentBuilder.Proofs.Workspace.FailurePolicies
import FluentBuilder.Proofs.Workspace.KnownWalks

/-!
# Failed and successful passes

What a pass leaves behind, read together with what it answers.

* `LeavesFiles.read?_iff` — all files can be read unless two with different texts went to one place;
* `LeavesFiles.read?_join` — files of different plain names do not overwrite each other;
* `QualifiedName.isPlainName_fileName` — the file of a builder has a plain name when the builder's
  name has no slash;
* `generate_error_frame` — a pass that fails for another reason than access to files changes
  nothing, and one that fails for access leaves a first part of its files;
* `overwritten_before_failure` — of this first part a file can be lost;
* `generate_ok_spec` — a pass that succeeds leaves exactly the files that it reports, one for each
  accepted type.
-/

namespace FluentBuilder

open FilePath FileTree

/-! ### Files of different names -/

theorem read?_eq_some_of_resolve? {t : FileTree} {path text : String} {l : Location}
    (hr : t.resolve? path = some l) (hget : t.get? l = some (.file (.text text))) :
    t.read? path = some text := by
  unfold FileTree.read? FileTree.content?
  rw [hr, Option.bind_some, hget]

/-- Paths that lead to the same place read the same text. -/
theorem read?_eq_of_resolve?_eq {t : FileTree} {path other : String}
    (h : t.resolve? path = t.resolve? other) :
    t.read? path = t.read? other := by
  unfold FileTree.read? FileTree.content?
  rw [h]

/-- Of the elements with a property, one is the last. -/
theorem exists_last_split {α : Type} {p : α → Prop} {xs : List α} (h : ∃ x ∈ xs, p x) :
    ∃ before x after, xs = before ++ x :: after ∧ p x ∧ ∀ y ∈ after, ¬ p y := by
  induction xs with
  | nil => simp at h
  | cons first rest ih =>
    by_cases hrest : ∃ x ∈ rest, p x
    · obtain ⟨before, x, after, rfl, hx, hafter⟩ := ih hrest
      exact ⟨first :: before, x, after, rfl, hx, hafter⟩
    · obtain ⟨x, hx, hp⟩ := h
      rcases List.mem_cons.1 hx with rfl | hmem
      · exact ⟨[], x, rest, rfl, hp, fun y hy hpy => hrest ⟨y, hy, hpy⟩⟩
      · exact absurd ⟨x, hmem, hp⟩ hrest

/-- What can be read at the end of a file's path is the text of the last file that went there. -/
theorem LeavesFiles.exists_read? {directory : String} {files : List PlannedFile} {t t' : FileTree}
    (h : LeavesFiles directory files t t') {f : PlannedFile} (hf : f ∈ files) :
    ∃ g ∈ files, t'.resolve? (join directory g.name) = t'.resolve? (join directory f.name)
      ∧ t'.read? (join directory f.name) = some g.text := by
  have hself : ∃ g ∈ files, t'.resolve? (join directory g.name)
    = t'.resolve? (join directory f.name) := ⟨f, hf, rfl⟩
  obtain ⟨before, g, after, hsplit, hsame, hafter⟩ := exists_last_split hself
  obtain ⟨l, hr, hlast⟩ := h.holds before g after hsplit
  have hget := hlast fun other hother hto => hafter other hother (hto.trans (hr.symm.trans hsame))
  refine ⟨g, ?_, hsame, ?_⟩
  · rw [hsplit]
    exact List.mem_append_right before List.mem_cons_self
  · rw [← read?_eq_of_resolve?_eq hsame]
    exact read?_eq_some_of_resolve? hr hget

/-- **When no file is lost.**  Each file can be read at the end of its path unless two with
different texts went to one place. -/
theorem LeavesFiles.read?_iff {directory : String} {files : List PlannedFile} {t t' : FileTree}
    (h : LeavesFiles directory files t t') :
    (∀ f ∈ files, t'.read? (join directory f.name) = some f.text)
      ↔ ∀ f ∈ files, ∀ g ∈ files, t'.resolve? (join directory f.name)
        = t'.resolve? (join directory g.name) →
          f.text = g.text := by
  constructor
  · intro hread f hf g hg hsame
    have htexts : some f.text = some g.text :=
      (hread f hf).symm.trans ((read?_eq_of_resolve?_eq hsame).trans (hread g hg))
    exact Option.some.inj htexts
  · intro hagree f hf
    obtain ⟨g, hg, hsame, hread⟩ := h.exists_read? hf
    rw [hread, hagree f hf g hg hsame.symm]

/-- **Files of different plain names stay next to each other.**  Each of them can be read at the end
of its path. -/
theorem LeavesFiles.read?_join {directory : String} {files : List PlannedFile} {t t' : FileTree}
    (h : LeavesFiles directory files t t') (hplain : ∀ f ∈ files, IsPlainName f.name)
    (hnodup : (files.map PlannedFile.name).Nodup) :
    ∀ f ∈ files, t'.read? (join directory f.name) = some f.text := by
  refine h.read?_iff.2 fun f hf g hg hsame => ?_
  -- two plain names in one directory lead to one location only when they are the same
  obtain ⟨before, after, hsplit⟩ := List.append_of_mem hf
  obtain ⟨l, hr, -⟩ := h.holds before f after hsplit
  obtain ⟨up, -, hl⟩ := resolve?_join (hplain f hf) hr
  obtain ⟨up', -, hl'⟩ := resolve?_join (hplain g hg) (hsame.symm.trans hr)
  have hlists : up ++ [f.name] = up' ++ [g.name] := hl.symm.trans hl'
  have hname : f.name = g.name := List.singleton_inj.1 (List.append_inj_right' hlists rfl)
  rw [List.inj_on_of_nodup_map hnodup hf hg hname]

/-! ### Names of files -/

/-- The file of a builder has a plain name. -/
theorem QualifiedName.isPlainName_fileName {builder : QualifiedName}
    (h : '/' ∉ builder.name.toList) :
    IsPlainName builder.fileName := by
  have htext : builder.fileName.toList = (Text.snakeCase builder.name).toList ++ ['.', 'r',
      's'] := by
    unfold QualifiedName.fileName
    rw [String.toList_append]
    rfl
  have hlong : 2 < builder.fileName.toList.length := by
    rw [htext, List.length_append]
    exact Nat.lt_of_lt_of_le (by decide) (Nat.le_add_left 3 _)
  refine ⟨?_, ?_, ?_⟩
  · rw [htext, List.mem_append]
    rintro (hmem | hmem)
    · exact Text.slash_not_mem_snakeCase h hmem
    · exact absurd hmem (by decide)
  · cases hidle : isIdle builder.fileName.toList with
    | false => rfl
    | true =>
      unfold isIdle at hidle
      rw [Bool.or_eq_true, List.isEmpty_iff, beq_iff_eq] at hidle
      rcases hidle with hnil | hdot
      · rw [hnil] at hlong
        exact absurd hlong (by decide)
      · rw [hdot] at hlong
        exact absurd hlong (by decide)
  · intro hparent
    rw [hparent] at hlong
    exact absurd hlong (by decide)

/-- The builders of types without slashes in their names have files with plain names. -/
theorem isPlainName_of_accepted {rules : List Check} {types : List Discovered} {a : Accepted}
    (hslash : ∀ d ∈ types, '/' ∉ d.type.name.name.toList) (ha : a ∈ accepted rules types) :
    IsPlainName a.model.name.fileName := by
  obtain ⟨d, hd, hmodel, -⟩ := mem_accepted_iff.1 ha
  apply QualifiedName.isPlainName_fileName
  rw [(isBuilderOf_of_synthesizeWith hmodel).name, String.toList_append, List.mem_append]
  rintro (hmem | hmem)
  · exact hslash d hd hmem
  · exact absurd hmem (by decide)

theorem isPlainName_of_planned {rules : List Check} {types : List Discovered}
    {files : List PlannedFile} (hslash : ∀ d ∈ types, '/' ∉ d.type.name.name.toList)
    (h : List.Forall₂ (fun a f => Accepted.file a = .ok f) (accepted rules types) files) :
    ∀ f ∈ files, IsPlainName f.name := by
  intro f hf
  obtain ⟨a, ha, hfile⟩ := exists_of_mem_right h hf
  rw [(Accepted.file_eq_ok_iff.1 hfile).1]
  exact isPlainName_of_accepted hslash ha

/-! ### Failed passes -/

/-- **A failed pass changes little.**  When it fails for another reason than access to files, the
tree is as it was.  When it fails for access, a first part of the planned files has been written,
and nothing else is different but directories on the way to the output.  These files are all there
with all of their text unless two with different texts went to one place, which takes a type from a
descriptor file with a slash in its name. -/
theorem generate_error_frame {t t' : FileTree} {settings : Settings} {rules : List Check}
    {e : WorkspaceError} (h : t.generate settings rules = (t', .error e)) :
    (e ≠ .access → t' = t)
      ∧ (e = .access → t' = t ∨ ∃ types files done, t.discover settings = .ok types
          ∧ List.Forall₂ (fun a f => Accepted.file a = .ok f) (accepted rules types) files
          ∧ done <+: files ∧ LeavesFiles settings.outputPath done t t'
          ∧ ((∀ f ∈ done, t'.read? (join settings.outputPath f.name) = some f.text)
            ↔ ∀ f ∈ done, ∀ g ∈ done,
                t'.resolve? (join settings.outputPath f.name)
                  = t'.resolve? (join settings.outputPath g.name) →
                f.text = g.text)
          ∧ ((settings.source = .descriptors → ∀ d ∈ types, '/' ∉ d.type.name.name.toList) →
              ∀ f ∈ done, t'.read? (join settings.outputPath f.name) = some f.text)) := by
  rcases generate_cases t settings rules with ⟨e', -, hsame⟩ | ⟨plan, done, rest, hplan, hsplit,
    hleaves, hend⟩
  · rw [hsame] at h
    cases h
    exact ⟨fun _ => rfl, fun _ => .inl rfl⟩
  · rw [h] at hleaves hend
    rcases hend with ⟨-, hok⟩ | herr
    · cases hok
    · cases herr
      refine ⟨fun hne => absurd rfl hne, fun _ => .inr ?_⟩
      obtain ⟨types, htypes, -, hall, hnodup, -, -⟩ := plan_eq_ok_iff.1 hplan
      refine ⟨types, plan.files, done, htypes, hall, ⟨rest, hsplit.symm⟩, hleaves,
        hleaves.read?_iff, fun hslash => ?_⟩
      rw [hsplit, List.map_append] at hnodup
      have hplain := isPlainName_of_planned (slash_not_mem_of_discover htypes hslash) hall
      refine hleaves.read?_join (fun f hf => hplain f ?_) hnodup.of_append_left
      rw [hsplit]
      exact List.mem_append_left rest hf

/-- Settings for a pass over the source files in a directory. -/
def sourceSettings : Settings where
  scanPath := "src"
  descriptorPath := "descriptors"
  outputPath := "out"
  markers := ["AutoBuilder"]
  source := .sourceFiles
  failurePolicy := .abort
  parallel := false

/-- Settings for a pass over the descriptor files in a directory. -/
def descriptorSettings : Settings :=
  { sourceSettings with source := .descriptors, descriptorPath := "d" }

/-- A workspace with one descriptor file, and what else there is. -/
def stockTree (others : List (Location × Place)) : FileTree :=
  ⟨[(["d"], .directory), (["d", "a.toml"], .file (.text stockText))] ++ others, []⟩
where
  /-- Three types, of which the second cannot be built. -/
  stockText : String :=
    "[[types]]\nname = \"Job\"\n[[types.constructors]]\n[[types]]\nname = \"Part\"\n"
      ++ "[[types]]\nname = \"Lot\"\n[[types.constructors]]\n"

/-- The types in the workspace. -/
def stockTypes : List Discovered :=
  [⟨{ name := ⟨"", "Job"⟩, constructors := [{}] }, "d/a.toml"⟩,
    ⟨{ name := ⟨"", "Part"⟩ }, "d/a.toml"⟩,
    ⟨{ name := ⟨"", "Lot"⟩, constructors := [{}] }, "d/a.toml"⟩]

/-- An output directory without room for the second file. -/
def blockedOutput : List (Location × Place) :=
  [(["out"], .directory), (["out", "lot_builder.rs"], .directory)]

/-- The workspace holds these types, whether there is room for the output or not. -/
theorem discover_stockTree {others : List (Location × Place)}
    (h : others = [] ∨ others = blockedOutput) (policy : FailurePolicy) :
    (stockTree others).discover (descriptorSettings.under policy) = .ok stockTypes := by
  show (stockTree others).discover descriptorSettings
    = .ok ([[], stockTypes] : List (List Discovered)).flatten
  refine discover_of_files ["d"] [("a.toml", .text stockTree.stockText)] ?_ ?_ ?_
  all_goals rcases h with rfl | rfl <;> decide +kernel

/-- The text of the file for a type without fields that is described in the workspace. -/
def stockFile (name : String) : String :=
  "// @generated by autobuilder from d/a.toml. Do not edit.\n\n/// Fluent builder for [`" ++ name
    ++ "`].\npub(crate) struct " ++ name ++ "Builder \x7b\x7d\nimpl " ++ name ++ "Builder \x7b\n"
    ++ "    pub fn builder() -> Self \x7b\n        Self \x7b\x7d\n    \x7d\n"
    ++ "    pub fn build(self) -> " ++ name ++ " \x7b\n        <" ++ name
    ++ " as ::core::default::Default>::default()\n    \x7d\n\x7d\n"

/-- What a pass over these types is going to do when it proceeds. -/
def stockPlan : Plan where
  files :=
    [⟨"job_builder.rs", ⟨"", "JobBuilder"⟩, stockFile "Job"⟩,
      ⟨"lot_builder.rs", ⟨"", "LotBuilder"⟩, stockFile "Lot"⟩]
  processed := 3
  violations := [.noConstructor ⟨"", "Part"⟩]

theorem planFor_stockTypes :
    planFor (descriptorSettings.under .proceed) defaultRules stockTypes = .ok stockPlan := by
  decide +kernel

/-- The planned files for the types of a workspace are those of its plan. -/
theorem eq_files_of_plan {t : FileTree} {settings : Settings} {rules : List Check}
    {types types' : List Discovered} {plan : Plan} {files : List PlannedFile}
    (htypes : t.discover settings = .ok types) (hplan : planFor settings rules types = .ok plan)
    (htypes' : t.discover settings = .ok types')
    (hall : List.Forall₂ (fun a f => Accepted.file a = .ok f) (accepted rules types') files) :
    files = plan.files := by
  obtain ⟨found, hfound, -, hplanned, -⟩ :=
    plan_eq_ok_iff.1 (bind_eq_ok_iff.2 ⟨types, htypes, hplan⟩)
  obtain rfl : found = types' := Except.ok.inj (hfound.symm.trans htypes')
  exact Except.ok.inj ((mapM_eq_ok_iff.2 hall).symm.trans (mapM_eq_ok_iff.2 hplanned))

/-- A pass over the workspace that aborts leaves it as it is, though its first type can be built.
One that proceeds leaves the first file when there is no room for the second, and nothing else. -/
theorem generate_error_frame_blocked :
    (∃ v t', (stockTree []).generate descriptorSettings defaultRules = (t', .error (.violation v))
        ∧ t' = stockTree [])
      ∧ ∃ t', (stockTree blockedOutput).generate (descriptorSettings.under .proceed) defaultRules
            = (t', .error .access)
        ∧ t'.read? "out/job_builder.rs" = some (stockFile "Job")
        ∧ ∀ l, t'.resolve? "out/job_builder.rs" ≠ some l →
          t'.get? l = (stockTree blockedOutput).get? l
          ∨ (stockTree blockedOutput).get? l = none ∧ t'.get? l = some .directory
            ∧ ∃ up ∈ ancestors "out", t'.resolve? up = some l := by
  constructor
  · have htypes := discover_stockTree (.inl rfl) .abort
    have hviolations : violations defaultRules stockTypes = [.noConstructor ⟨"", "Part"⟩] := rfl
    have hrun : (stockTree []).generate descriptorSettings defaultRules
        = (stockTree [], .error (.violation (.noConstructor ⟨"", "Part"⟩))) :=
      (generate_of_discover_ok defaultRules htypes).trans
        (generateFrom_abort_of_violation (stockTree []) descriptorSettings hviolations)
    exact ⟨_, _, hrun, (generate_error_frame hrun).1 (by decide)⟩
  · have htypes := discover_stockTree (.inr rfl) .proceed
    have hplan := generate_of_planFor htypes planFor_stockTypes
    have hfails : ((stockTree blockedOutput).carryOut "out" stockPlan).2 = .error .access := by
      decide +kernel
    generalize ht' : ((stockTree blockedOutput).carryOut "out" stockPlan).1 = t'
    have hrun : (stockTree blockedOutput).generate (descriptorSettings.under .proceed) defaultRules
        = (t', .error .access) := hplan.trans (Prod.ext ht' hfails)
    have hlot : t'.read? (join "out" "lot_builder.rs") = none := by
      rw [← ht']
      decide +kernel
    have hfirst : (t'.get? ["out", "job_builder.rs"]).any (fun place => place != .directory)
        = true := by
      rw [← ht']
      decide +kernel
    have hnew : (stockTree blockedOutput).get? ["out", "job_builder.rs"] = none := by decide +kernel
    refine ⟨t', hrun, ?_⟩
    rcases (generate_error_frame hrun).2 rfl with hsame | ⟨types, files, done, htypes', hall, hdone,
      hleaves, -, hread⟩
    · rw [hsame, hnew] at hfirst
      cases hfirst
    obtain rfl := eq_files_of_plan htypes planFor_stockTypes htypes' hall
    obtain rfl : types = stockTypes := Except.ok.inj (htypes'.symm.trans htypes)
    have hread := hread fun _ => by decide
    -- something was written, but not the second file
    obtain ⟨left, hsplit⟩ := hdone
    obtain rfl : done = [⟨"job_builder.rs", ⟨"", "JobBuilder"⟩, stockFile "Job"⟩] := by
      match done, hsplit with
      | [], _ =>
        rcases hleaves.elsewhere ["out", "job_builder.rs"] nofun with hsame | ⟨-, hmade, -⟩
        · rw [hsame, hnew] at hfirst
          cases hfirst
        · rw [hmade] at hfirst
          cases hfirst
      | [f], hsplit => exact congrArg (fun files => [files]) (List.cons.inj hsplit).1
      | f :: g :: others, hsplit =>
        have hlast : g = ⟨"lot_builder.rs", ⟨"", "LotBuilder"⟩, stockFile "Lot"⟩ :=
          (List.cons.inj (List.cons.inj hsplit).2).1
        have hg := hread g (List.mem_cons_of_mem f List.mem_cons_self)
        rw [hlast] at hg
        cases hlot.symm.trans hg
    have hpath : join "out" "job_builder.rs" = "out/job_builder.rs" := by decide +kernel
    have hjob := hread _ List.mem_cons_self
    rw [← hpath]
    exact ⟨hjob, fun l hl => hleaves.elsewhere l (List.forall_mem_singleton.2 hl)⟩

/-- A workspace with a descriptor file in which two names lead to one file, and an output directory
without room for the file of the third type. -/
def overwritingTree : FileTree :=
  ⟨[(["d"], .directory), (["d", "t.toml"], .file (.text descriptors)), (["out"], .directory),
    (["out", "a"], .directory), (["out", "c_builder.rs"], .directory)], []⟩
where
  /-- The text of the descriptor file. -/
  descriptors : String :=
    "[[types]]\nname = \"A//../x\"\n[[types.constructors]]\n"
      ++ "[[types]]\nname = \"x\"\n[[types.constructors]]\n"
      ++ "[[types]]\nname = \"C\"\n[[types.constructors]]\n"

/-- The types in this workspace. -/
def overwritingTypes : List Discovered :=
  ["A//../x", "x", "C"].map fun name => ⟨{ name := ⟨"", name⟩, constructors := [{}] }, "d/t.toml"⟩

/-- **A file can be lost before a later one fails.**  Whatever first part of the planned files is
taken, one of them does not hold its text after the pass, or there is another file that was not
there before. -/
theorem overwritten_before_failure : ∃ files t',
    overwritingTree.discover descriptorSettings = .ok overwritingTypes
      ∧ List.Forall₂ (fun a f => Accepted.file a = .ok f) (accepted defaultRules overwritingTypes)
        files
      ∧ overwritingTree.generate descriptorSettings defaultRules = (t', .error .access)
      ∧ ¬ ∃ done, done <+: files ∧ (∀ f ∈ done, t'.read? (join "out" f.name) = some f.text)
        ∧ ∀ l, (∀ f ∈ done, t'.resolve? (join "out" f.name) ≠ some l) →
          t'.get? l = overwritingTree.get? l
          ∨ overwritingTree.get? l = none ∧ t'.get? l = some .directory := by
  have htypes : overwritingTree.discover descriptorSettings
      = .ok ([[], overwritingTypes] : List _).flatten := by
    refine discover_of_files ["d"] [("t.toml", .text overwritingTree.descriptors)] ?_ ?_ ?_
    all_goals decide +kernel
  have hplan : (planFor descriptorSettings defaultRules overwritingTypes).toOption.any (fun plan =>
      (overwritingTree.carryOut "out" plan).2 = .error .access
        && ((overwritingTree.carryOut "out" plan).1.get? ["out", "x_builder.rs"]).any
          (· != .directory)
        && plan.files.head?.any fun f =>
          (overwritingTree.carryOut "out" plan).1.read? (join "out" f.name) != some f.text)
            = true := by
    decide +kernel
  obtain ⟨plan, hplan, hends⟩ := exists_ok_of_any hplan
  simp only [Bool.and_eq_true, decide_eq_true_eq] at hends
  obtain ⟨⟨hfails, hnew⟩, hlost⟩ := hends
  have hgenerate := generate_of_planFor htypes hplan
  obtain ⟨_, hfound, -, hall, -⟩ := plan_eq_ok_iff.1 (bind_eq_ok_iff.2 ⟨_, htypes, hplan⟩)
  obtain rfl := Except.ok.inj (htypes.symm.trans hfound)
  generalize ht' : (overwritingTree.carryOut "out" plan).1 = t' at hnew hlost
  refine ⟨plan.files, t', htypes, hall, hgenerate.trans (Prod.ext ht' hfails), ?_⟩
  rintro ⟨done, hdone, hread, helsewhere⟩
  cases done with
  | nil =>
    -- without any file there would be none at `out/x_builder.rs`
    rcases helsewhere ["out", "x_builder.rs"] nofun with hsame | ⟨-, hmade⟩
    · rw [hsame] at hnew
      cases hnew
    · rw [hmade] at hnew
      cases hnew
  | cons f others =>
    -- the first file is the one that was overwritten
    obtain ⟨left, hsplit⟩ := hdone
    rw [← hsplit, List.cons_append, List.head?_cons, Option.any_some, bne_iff_ne] at hlost
    exact hlost (hread f List.mem_cons_self)

/-! ### Successful passes -/

/-- What a report says about the file of one builder: its path, its size and what can be read
there. -/
structure IsFileOf (directory : String) (t' : FileTree) (a : Accepted) (w : WrittenFile) :
    Prop where
  builder : w.builder = a.model.name
  path : w.path = join directory a.model.name.fileName
  /-- A line that names the origin, an empty line, and the source of the builder. -/
  text : ∃ source text, a.model.fileSource = .ok source
    ∧ text = "// @generated by autobuilder from " ++ a.origin ++ ". Do not edit.\n\n" ++ source
    ∧ t'.read? w.path = some text ∧ w.size = text.utf8ByteSize

/-- Planned files that can be read at the ends of their paths are files of their builders. -/
theorem forall₂_isFileOf {directory : String} {t' : FileTree} {as : List Accepted}
    {files : List PlannedFile} (h : List.Forall₂ (fun a f => Accepted.file a = .ok f) as files)
    (hread : ∀ f ∈ files, t'.read? (join directory f.name) = some f.text) :
    List.Forall₂ (IsFileOf directory t') as (files.map (PlannedFile.written directory)) := by
  induction h with
  | nil => exact .nil
  | @cons a f as files hfile _ ih =>
    obtain ⟨hname, hbuilder, source, hsource, htext⟩ := Accepted.file_eq_ok_iff.1 hfile
    have hhere := hread f List.mem_cons_self
    rw [htext] at hhere
    refine .cons ⟨hbuilder, congrArg (join directory) hname, source, _, hsource, rfl, hhere, ?_⟩ ?_
    · exact congrArg String.utf8ByteSize htext
    · exact ih fun g hg => hread g (List.mem_cons_of_mem f hg)

/-- **A successful pass leaves exactly the files that it reports.**  They belong to the accepted
types, in the order of discovery; no two have the same path, each holds the text of its builder, and
every other place is as it was or is a directory made on the way to the output.  Only types from
descriptor files have to be asked for names without slashes. -/
theorem generate_ok_spec {t t' : FileTree} {settings : Settings} {rules : List Check}
    {report : Report} {types : List Discovered} (htypes : t.discover settings = .ok types)
    (hslash : settings.source = .descriptors → ∀ d ∈ types, '/' ∉ d.type.name.name.toList)
    (h : t.generate settings rules = (t', .ok report)) :
    report.processed = types.length
      ∧ types.length = report.files.length + report.violations.length
      ∧ report.violations = violations rules types
      ∧ List.Forall₂ (IsFileOf settings.outputPath t') (accepted rules types) report.files
      ∧ (report.files.map WrittenFile.path).Nodup
      ∧ ∀ l, (∀ w ∈ report.files, t'.resolve? w.path ≠ some l) → t'.get? l = t.get? l
          ∨ t.get? l = none ∧ t'.get? l = some .directory
            ∧ ∃ up ∈ ancestors settings.outputPath, t'.resolve? up = some l := by
  rcases generate_cases t settings rules with ⟨e, -, hsame⟩ | ⟨plan, done, rest, hplan, hsplit,
    hleaves, hend⟩
  · rw [hsame] at h
    cases h
  · rw [h] at hleaves hend
    rcases hend with ⟨hrest, hok⟩ | herr
    · rw [hrest, List.append_nil] at hsplit
      obtain ⟨types', htypes', -, hall, hnodup, hprocessed, hviolations⟩ := plan_eq_ok_iff.1 hplan
      obtain rfl : types = types' := Except.ok.inj (htypes.symm.trans htypes')
      rw [hsplit] at hall hnodup
      rw [hprocessed, hviolations] at hok
      obtain rfl := Except.ok.inj hok
      have hplain := isPlainName_of_planned (slash_not_mem_of_discover htypes hslash) hall
      refine ⟨rfl, ?_, rfl, ?_, ?_, fun l hl => hleaves.elsewhere l fun f hf => ?_⟩
      · show types.length = (done.map (PlannedFile.written settings.outputPath)).length
          + (violations rules types).length
        rw [List.length_map, ← hall.length_eq, length_accepted_add_length_violations]
      · exact forall₂_isFileOf hall (hleaves.read?_join hplain hnodup)
      · show ((done.map (PlannedFile.written settings.outputPath)).map WrittenFile.path).Nodup
        rw [List.map_map]
        show (done.map (join settings.outputPath ∘ PlannedFile.name)).Nodup
        rw [← List.map_map]
        refine hnodup.map_on fun x hx y hy hsame => ?_
        obtain ⟨f, hf, rfl⟩ := List.mem_map.1 hx
        obtain ⟨g, hg, rfl⟩ := List.mem_map.1 hy
        exact join_injective_name (hplain f hf) (hplain g hg) hsame
      · exact hl _ (List.mem_map.2 ⟨f, hf, rfl⟩)
    · cases herr

/-- The files that a report tells of are those that were planned. -/
theorem eq_written_of_isFileOf {directory : String} {t' : FileTree} {as : List Accepted}
    {files : List PlannedFile} {written : List WrittenFile}
    (hall : List.Forall₂ (fun a f => Accepted.file a = .ok f) as files)
    (hfiles : List.Forall₂ (IsFileOf directory t') as written) :
    written = files.map (PlannedFile.written directory)
      ∧ ∀ f ∈ files, t'.read? (join directory f.name) = some f.text := by
  induction hall generalizing written with
  | nil =>
    cases hfiles
    exact ⟨rfl, nofun⟩
  | @cons a f as files hfile _ ih =>
    obtain ⟨hname, hbuilder, source, hsource, htext⟩ := Accepted.file_eq_ok_iff.1 hfile
    cases hfiles with
    | @cons _ w _ others hw hothers =>
      obtain ⟨source', text, hsource', rfl, hread, hsize⟩ := hw.text
      obtain rfl : source = source' := Except.ok.inj (hsource.symm.trans hsource')
      have hpath : w.path = join directory f.name := by rw [hw.path, hname]
      have htext : "// @generated by autobuilder from " ++ a.origin ++ ". Do not edit.\n\n"
          ++ source = f.text :=
        htext.symm
      rw [htext] at hread hsize
      obtain ⟨rfl, hrest⟩ := ih hothers
      refine ⟨?_, List.forall_mem_cons.2 ⟨hpath ▸ hread, hrest⟩⟩
      have hwritten : w = f.written directory := by
        obtain ⟨path, size, builder⟩ := w
        exact WrittenFile.mk.injEq .. ▸ ⟨hpath, hsize, hw.builder.trans hbuilder.symm⟩
      rw [hwritten, List.map_cons]

/-- A pass over the workspace that proceeds writes a file for the first type and one for the last,
reports the second, and leaves the descriptor file alone. -/
theorem generate_ok_spec_stock : ∃ t' report,
    (stockTree []).discover (descriptorSettings.under .proceed) = .ok stockTypes
      ∧ (∀ d ∈ stockTypes, '/' ∉ d.type.name.name.toList)
      ∧ (stockTree []).generate (descriptorSettings.under .proceed) defaultRules = (t', .ok report)
      ∧ report.processed = 3 ∧ report.violations = [.noConstructor ⟨"", "Part"⟩]
      ∧ report.files = [⟨"out/job_builder.rs", 286, ⟨"", "JobBuilder"⟩⟩,
        ⟨"out/lot_builder.rs", 286, ⟨"", "LotBuilder"⟩⟩]
      ∧ t'.read? "out/job_builder.rs" = some (stockFile "Job")
      ∧ t'.read? "out/lot_builder.rs" = some (stockFile "Lot")
      ∧ t'.get? ["d", "a.toml"] = some (.file (.text stockTree.stockText)) := by
  have htypes := discover_stockTree (.inl rfl) .proceed
  have hplain : ∀ d ∈ stockTypes, '/' ∉ d.type.name.name.toList := by decide
  have hgenerate := generate_of_planFor htypes planFor_stockTypes
  generalize ht' : ((stockTree []).carryOut "out" stockPlan).1 = t'
  have hsucceeds : ((stockTree []).carryOut "out" stockPlan).2.toOption.any (fun _ => true)
      = true := by
    decide +kernel
  obtain ⟨report, hok, -⟩ := exists_ok_of_any hsucceeds
  have hrun : (stockTree []).generate (descriptorSettings.under .proceed) defaultRules
      = (t', .ok report) :=
    hgenerate.trans (Prod.ext ht' hok)
  obtain ⟨hprocessed, -, hviolations, hfiles, -, helsewhere⟩ :=
    generate_ok_spec htypes (fun _ => hplain) hrun
  obtain ⟨_, hfound, -, hall, -⟩ :=
    plan_eq_ok_iff.1 (bind_eq_ok_iff.2 ⟨_, htypes, planFor_stockTypes⟩)
  obtain rfl := Except.ok.inj (htypes.symm.trans hfound)
  obtain ⟨hwritten, hread⟩ := eq_written_of_isFileOf hall hfiles
  have hpaths : stockPlan.files.map (PlannedFile.written "out")
    = [⟨"out/job_builder.rs", 286, ⟨"", "JobBuilder"⟩⟩,
      ⟨"out/lot_builder.rs", 286, ⟨"", "LotBuilder"⟩⟩] := by
    decide +kernel
  have hreport := hwritten.trans hpaths
  have hjob := hread _ List.mem_cons_self
  have hlot := hread _ (List.mem_cons_of_mem _ List.mem_cons_self)
  have hjobPath : join "out" "job_builder.rs" = "out/job_builder.rs" := by decide +kernel
  have hlotPath : join "out" "lot_builder.rs" = "out/lot_builder.rs" := by decide +kernel
  refine ⟨t', report, htypes, hplain, hrun, hprocessed, hviolations, hreport, hjobPath ▸ hjob,
    hlotPath ▸ hlot, ?_⟩
  have hkept : ∀ w ∈ report.files, t'.resolve? w.path ≠ some ["d", "a.toml"] := by
    rw [hreport, ← ht']
    decide +kernel
  rcases helsewhere ["d", "a.toml"] hkept with hsame | ⟨hnone, -⟩
  · rw [hsame]
    rfl
  · cases hnone

end FluentBuilder
