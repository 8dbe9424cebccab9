import FluentBuilder.Proofs.Workspace.GeneratedTexts
import FluentBuilder.Proofs.Workspace.RepeatedPasses

/-!
# Files that yield no types

The items of a generated file are an import, a struct whose only attribute is its documentation, and
an implementation.  None of them is a marked struct, so a scan of the file finds nothing, and a
second pass over the source files does what the first one did.

* `scanVisit_of_plain` — the file of a plain model yields nothing;
* `generate_again_of_plain` — a second pass does what the first one did when its models are plain;
* `found_behind_output` — it finds more when the first pass made the way to the descriptor files.
-/

namespace FluentBuilder

open FluentBuilder.Code FilePath FileTree

/-! ### Items without marked structs -/

theorem markedStructs_append (xs ys : List Finding) :
    markedStructs (xs ++ ys) = markedStructs xs ++ markedStructs ys :=
  List.filterMap_append

theorem findings_importItem (markers : List String) (module : String) (path : ModulePath) :
    (importItem path).findings markers module = [] := by
  unfold importItem Item.findings
  rfl

/-- The struct of a builder derives nothing. -/
theorem BuilderCode.findings_structWith (b : BuilderCode) (fields : List Item) (trailing : Bool)
    (markers : List String) (module : String) :
    (b.structWith fields trailing).findings markers module = [] := by
  unfold BuilderCode.structWith Item.findings
  rfl

/-- An implementation is no marked struct, whatever constructors are among its members. -/
theorem BuilderCode.markedStructs_implWith (b : BuilderCode) (members : List Item)
    (markers : List String) (module : String) :
    markedStructs ((b.implWith members).findings markers module) = [] := by
  unfold BuilderCode.implWith Item.findings
  split <;> rfl

theorem markedStructs_importItems (markers : List String) (module : String)
    (imported : Option ModulePath) :
    markedStructs (itemsFindings markers module (imported.map importItem).toList) = [] := by
  cases imported with
  | none => rfl
  | some path =>
    show markedStructs ((importItem path).findings markers module ++ []) = []
    rw [findings_importItem]
    rfl

theorem itemsFindings_append (markers : List String) (module : String) (xs ys : List Item) :
    itemsFindings markers module (xs ++ ys)
      = itemsFindings markers module xs ++ itemsFindings markers module ys := by
  induction xs with
  | nil => rfl
  | cons x xs ih =>
    rw [List.cons_append, itemsFindings, itemsFindings, ih, List.append_assoc]

/-- **The items of a generated file hold no marked struct.** -/
theorem scanItems_of_generated (b : BuilderCode) (imported : Option ModulePath) (fields : List Item)
    (trailing : Bool) (members : List Item) (markers : List String) (module : String) :
    scanItems markers module ((imported.map importItem).toList
      ++ [b.structWith fields trailing, b.implWith members]) = .ok [] := by
  have hnone : markedStructs (itemsFindings markers module ((imported.map importItem).toList
      ++ [b.structWith fields trailing, b.implWith members])) = [] := by
    rw [itemsFindings_append, markedStructs_append, markedStructs_importItems, itemsFindings,
      itemsFindings, itemsFindings, b.findings_structWith, List.nil_append, List.nil_append,
      List.append_nil, b.markedStructs_implWith]
  unfold scanItems
  dsimp only
  rw [hnone]
  rfl

/-! ### Generated files -/

/-- **The file of a plain model yields nothing**, wherever it is found, if its origin is on one
line. -/
theorem scanVisit_of_plain {a : Accepted} (hmodel : a.model.IsPlain)
    (horigin : '\n' ∉ a.origin.toList) {f : PlannedFile} (hfile : a.file = .ok f) (root : String)
    (markers : List String) (path : String) :
    scanVisit root markers ⟨path, .file (.text f.text)⟩ = .ok [] := by
  obtain ⟨-, -, source, hsource, htext⟩ := Accepted.file_eq_ok_iff.1 hfile
  obtain ⟨code, hcode, hprinted⟩ := bind_eq_ok_iff.1 hsource
  obtain rfl := Except.ok.inj hprinted
  obtain ⟨fields, trailing, members, hitems⟩ := hmodel.sourceItems?_file hcode horigin
  unfold scanVisit
  dsimp only
  rw [htext, hitems]
  split
  · unfold scanFileItems
    dsimp only
    rw [scanItems_of_generated]
    rfl
  · rfl

/-! ### Passes -/

/-- **A second pass over source files does what the first one did** when every accepted model is
plain and found in a file whose path is one line: none of the files written holds a type then.  No
file in which a type was found may have been replaced, and the path of the search must have led
somewhere before if it does so afterwards; a pass over descriptor files needs no more than this. -/
theorem generate_again_of_plain {t t' : FileTree} {settings : Settings} {rules : List Check}
    {types : List Discovered} {report : Report} (hregular : t.IsRegular)
    (htypes : t.discover settings = .ok types) (h : t.generate settings rules = (t', .ok report))
    (horigins : ∀ d ∈ types, ∀ w ∈ report.files, t'.resolve? w.path ≠ t'.resolve? d.origin)
    (hroot : t'.exists? settings.root = true → t.exists? settings.root = true)
    (hplain : settings.source = .sourceFiles → ∀ a ∈ accepted rules types,
      '\n' ∉ a.origin.toList ∧ a.model.IsPlain) :
    t'.discover settings = .ok types
      ∧ ∃ t'', t'.generate settings rules = (t'', .ok report) ∧ ∀ l, t''.get? l = t'.get? l := by
  refine generate_again_of_inert hregular htypes h horigins hroot
    fun hsource a ha f hfile path => ?_
  obtain ⟨horigin, hmodel⟩ := hplain hsource a ha
  exact scanVisit_of_plain hmodel horigin hfile settings.scanPath settings.markers path

/-- A second pass over the source file of one type, into the directory of that file, writes its
builder once more. -/
theorem generate_again_of_plain_job : ∃ types t' report, plainTree.discover intoSources = .ok types
    ∧ plainTree.generate intoSources defaultRules = (t', .ok report)
    ∧ report.files.map WrittenFile.path = ["src/job_builder.rs"]
    ∧ t'.discover intoSources = .ok types
    ∧ ∃ t'', t'.generate intoSources defaultRules = (t'', .ok report)
        ∧ ∀ l, t''.get? l = t'.get? l := by
  obtain ⟨types, t', report, htypes, hgenerate, hplain, -, hpath, horigins⟩ := exists_pass_plainTree
  have hkept : ∀ d ∈ types, ∀ w ∈ report.files, t'.resolve? w.path ≠ t'.resolve? d.origin := by
    intro d hd w hw
    have hmem : w.path ∈ report.files.map WrittenFile.path := List.mem_map_of_mem hw
    rw [hpath] at hmem
    rw [List.mem_singleton.1 hmem]
    exact horigins d hd
  exact ⟨types, t', report, htypes, hgenerate, hpath, generate_again_of_plain (by decide +kernel)
    htypes hgenerate hkept (fun _ => by decide +kernel) fun _ => hplain⟩

/-- A workspace with a descriptor file, to which a path leads through a directory that is not there
yet. -/
def detourTree : FileTree :=
  ⟨[(["d"], .directory), (["d", "t.toml"], .file (.text twoLineTree.descriptor))], []⟩

/-- Settings for a pass that makes the directory on the way to the descriptor files. -/
def detourSettings : Settings :=
  { descriptorSettings with descriptorPath := "gen/../d", outputPath := "gen" }

/-- The workspace with the directory. -/
def detourMadeTree : FileTree :=
  ⟨(["gen"], .directory) :: detourTree.places, []⟩

theorem createDirectories_detourTree :
    detourTree.createDirectories "gen" = (detourMadeTree, true) := by
  have hplaces : (detourTree.createDirectories "gen").1.places = detourMadeTree.places := by
    decide +kernel
  have hworking : (detourTree.createDirectories "gen").1.working = detourMadeTree.working := by
    decide +kernel
  exact Prod.ext (congrArg₂ FileTree.mk hplaces hworking) (by decide +kernel)

/-- Nothing is found while the path does not lead anywhere. -/
theorem discover_detourTree : detourTree.discover detourSettings = .ok [] := by
  have hnowhere : detourTree.resolve? detourSettings.root = none := by decide +kernel
  have hwalk : detourTree.walk detourSettings.enters detourSettings.root = [] := by
    unfold FileTree.walk
    rw [hnowhere]
  refine discover_eq_ok_iff.2 ⟨load_eq_ok_iff.2 ⟨nofun, ?_⟩, rfl⟩
  rw [hwalk]
  exact .nil

/-- The first pass writes nothing, and makes the directory. -/
theorem generate_detourTree :
    detourTree.generate detourSettings defaultRules = (detourMadeTree, .ok ⟨[], 0, []⟩) := by
  have hplan : planFor detourSettings defaultRules [] = .ok ⟨[], 0, []⟩ := rfl
  rw [generate_of_planFor discover_detourTree hplan]
  unfold FileTree.carryOut
  rw [show detourSettings.outputPath = "gen" from rfl, createDirectories_detourTree]
  rfl

/-- **A pass can bring about what the next one finds**: the path to the descriptor files leads
through the output directory, which the first pass makes, and the second pass reports one more
file. -/
theorem found_behind_output : ∃ t' t'' first second,
    detourTree.discover detourSettings = .ok []
    ∧ detourTree.generate detourSettings defaultRules = (t', .ok first)
    ∧ t'.generate detourSettings defaultRules = (t'', .ok second)
    ∧ first.files = [] ∧ second.files.map WrittenFile.path = ["gen/job_builder.rs"] := by
  have hrun : (detourMadeTree.passFrom detourSettings defaultRules
      (detourSettings.visits [("t.toml", .text twoLineTree.descriptor)])).toOption.any
        (fun pass : List Discovered × FileTree × Report =>
          pass.2.2.files.map WrittenFile.path == ["gen/job_builder.rs"]) = true := by
    decide +kernel
  obtain ⟨_, t'', second, -, hgenerate, hpath⟩ :=
    exists_pass_of_files ["d"] [("t.toml", .text twoLineTree.descriptor)] (by decide +kernel) hrun
  exact ⟨detourMadeTree, t'', _, second, discover_detourTree, generate_detourTree, hgenerate, rfl,
    eq_of_beq hpath⟩

end FluentBuilder
