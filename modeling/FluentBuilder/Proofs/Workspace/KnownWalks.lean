import FluentBuilder.Proofs.Workspace.Passes
import FluentBuilder.Proofs.Workspace.Walks
import FluentBuilder.Proofs.Workspace.DiscoveredTypes

/-!
# Passes along a known walk

A pass looks at a tree by a walk first, and only then computes.  So once the walk of a tree is
known, the pass is a computation on what the walk met.

* `load_eq_ok_iff` — the types of a workspace are gathered on a walk;
* `load_of_mapM` — what is found along a known walk;
* `passFrom`, `exists_pass_of_any` — the pass along a walk, and what a test on it says about the
  tree;
* `load_of_files`, `discover_of_files`, `exists_pass_of_files` — the same for a directory that holds
  files only.
-/

namespace FluentBuilder

open FilePath FileTree

/-- The path below which a pass looks for types. -/
def Settings.root (settings : Settings) : String :=
  match settings.source with
  | .sourceFiles => settings.scanPath
  | .descriptors => settings.descriptorPath

/-- Which names a pass visits in its search. -/
def Settings.enters (settings : Settings) : String → Bool :=
  match settings.source with
  | .sourceFiles => isScanned
  | .descriptors => fun _ => true

/-- What a pass finds in a visited place. -/
def FileTree.yield (t : FileTree) (settings : Settings) :
    Visit → Except WorkspaceError (List Discovered) :=
  match settings.source with
  | .sourceFiles => scanVisit settings.scanPath settings.markers
  | .descriptors => t.loadVisit

/-- **The types of a workspace are gathered on a walk.**  Source files are only looked for below a
path that leads somewhere. -/
theorem load_eq_ok_iff {t : FileTree} {settings : Settings} {types : List Discovered} :
    t.load settings = .ok types
      ↔ (settings.source = .sourceFiles → t.exists? settings.scanPath = true)
      ∧ Gathers (t.yield settings) (t.walk settings.enters settings.root) types := by
  rw [gathers_iff_forall₂]
  unfold FileTree.load FileTree.yield Settings.enters Settings.root
  cases settings.source with
  | sourceFiles =>
    dsimp only
    rw [scan_eq_ok_iff]
    exact and_congr_left fun _ => ⟨fun h _ => h, fun h => h rfl⟩
  | descriptors =>
    dsimp only
    rw [loadDescriptors_eq_ok_iff]
    exact ⟨fun h => ⟨nofun, h⟩, fun h => h.2⟩

/-- A pass along the places met on a walk, with the types that it finds. -/
def FileTree.passFrom (t : FileTree) (settings : Settings) (rules : List Check)
    (visits : List Visit) :
    Except WorkspaceError (List Discovered × FileTree × Report) := do
  let found ← visits.mapM (t.yield settings)
  let _ ← checkNames [] found.flatten
  let plan ← planFor settings rules found.flatten
  match t.carryOut settings.outputPath plan with
  | (t', .ok report) => return (found.flatten, t', report)
  | (_, .error e) => .error e

/-- The types along a known walk. -/
theorem load_of_mapM {t : FileTree} {settings : Settings} {visits : List Visit}
    {found : List (List Discovered)} (hroot : t.exists? settings.root = true)
    (hwalk : t.walk settings.enters settings.root = visits)
    (hfound : visits.mapM (t.yield settings) = .ok found) :
    t.load settings = .ok found.flatten := by
  refine load_eq_ok_iff.2 ⟨fun hsource => ?_, gathers_iff_forall₂.2 ⟨found, ?_, rfl⟩⟩
  · unfold Settings.root at hroot
    rwa [hsource] at hroot
  · rw [hwalk]
    exact mapM_eq_ok_iff.1 hfound

/-- **What a test on the pass along a walk says about the tree.** -/
theorem exists_pass_of_any {t : FileTree} {settings : Settings} {rules : List Check}
    {visits : List Visit} {p : List Discovered × FileTree × Report → Bool}
    (hroot : t.exists? settings.root = true) (hwalk : t.walk settings.enters settings.root = visits)
    (h : (t.passFrom settings rules visits).toOption.any p = true) :
    ∃ types t' report, t.discover settings = .ok types
      ∧ t.generate settings rules = (t', .ok report)
      ∧ p (types, t', report) = true := by
  obtain ⟨⟨types, t', report⟩, hpass, hp⟩ := exists_ok_of_any h
  obtain ⟨found, hfound, hpass⟩ := bind_eq_ok_iff.1 hpass
  obtain ⟨_, hnames, hpass⟩ := bind_eq_ok_iff.1 hpass
  obtain ⟨plan, hplan, hpass⟩ := bind_eq_ok_iff.1 hpass
  have hdiscover : t.discover settings = .ok found.flatten :=
    discover_eq_ok_iff.2 ⟨load_of_mapM hroot hwalk hfound, hnames⟩
  have hgenerate : t.generate settings rules = t.carryOut settings.outputPath plan := by
    unfold FileTree.generate
    rw [show t.plan settings rules = .ok plan from bind_eq_ok_iff.2 ⟨_, hdiscover, hplan⟩]
  cases hcarry : t.carryOut settings.outputPath plan with
  | mk u outcome =>
    rw [hcarry] at hgenerate hpass
    cases outcome with
    | error e => cases hpass
    | ok r =>
      cases hpass
      exact ⟨_, _, _, hdiscover, hgenerate, hp⟩

/-! ### Directories with files only -/

/-- What a pass meets in a directory with the given files. -/
def Settings.visits (settings : Settings) (entries : List (String × Content)) : List Visit :=
  ⟨settings.root, .directory⟩ :: (entries.filter fun e => settings.enters e.1).map fun e =>
    ⟨join settings.root e.1, .file e.2⟩

variable {t : FileTree} {settings : Settings} (l : Location) (entries : List (String × Content))

/-- The types of a directory with files. -/
theorem load_of_files (h : t.HoldsFiles settings.root l entries) {found : List (List Discovered)}
    (hfound : (settings.visits entries).mapM (t.yield settings) = .ok found) :
    t.load settings = .ok found.flatten :=
  load_of_mapM (Option.isSome_iff_exists.2 ⟨l, h.1⟩) (walk_of_files h) hfound

/-- What a workspace holds whose directory has files only, when the names are distinct. -/
theorem discover_of_files (h : t.HoldsFiles settings.root l entries)
    {found : List (List Discovered)}
    (hfound : (settings.visits entries).mapM (t.yield settings) = .ok found)
    (hnames : checkNames [] found.flatten = .ok ()) : t.discover settings = .ok found.flatten :=
  discover_eq_ok_iff.2 ⟨load_of_files l entries h hfound, hnames⟩

/-- What a test on the pass over a directory with files says about the tree. -/
theorem exists_pass_of_files {rules : List Check} {p : List Discovered × FileTree × Report → Bool}
    (h : t.HoldsFiles settings.root l entries)
    (hpass : (t.passFrom settings rules (settings.visits entries)).toOption.any p = true) :
    ∃ types t' report, t.discover settings = .ok types
      ∧ t.generate settings rules = (t', .ok report)
      ∧ p (types, t', report) = true :=
  exists_pass_of_any (Option.isSome_iff_exists.2 ⟨l, h.1⟩) (walk_of_files h) hpass

end FluentBuilder
