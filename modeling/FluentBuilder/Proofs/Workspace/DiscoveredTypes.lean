import FluentBuilder.Proofs.Outcome
import FluentBuilder.Proofs.ScannedItems
import FluentBuilder.Workspace.Discovery

/-!
# Discovered types

The types of a workspace come out of a walk, file by file, and are then compared by name.  Each
loader is opened here once.

* `scan_eq_ok_iff`, `loadDescriptors_eq_ok_iff` — what the two loaders give;
* `discover_eq_ok_iff` — the loaded types, if their names differ;
* `Visit.source?`, `exists_of_mem_scanVisit` — the source files that are visited, and the types in
  them;
* `isWord_of_mem_scan` — types from source files are named by words.
-/

namespace FluentBuilder

open FilePath FileTree FluentBuilder.Code

/-- The types that the loader for given settings finds. -/
def FileTree.load (t : FileTree) (settings : Settings) : Except WorkspaceError (List Discovered) :=
  match settings.source with
  | .sourceFiles => t.scan settings.scanPath settings.markers
  | .descriptors => t.loadDescriptors settings.descriptorPath

theorem scan_eq_ok_iff {t : FileTree} {root : String} {markers : List String}
    {types : List Discovered} :
    t.scan root markers = .ok types ↔ t.exists? root = true
      ∧ ∃ found, List.Forall₂ (fun visit ds => scanVisit root markers visit = .ok ds)
        (t.walk isScanned root) found
        ∧ types = found.flatten := by
  unfold FileTree.scan
  split
  · next hexists =>
    rw [bind_eq_ok_iff]
    simp only [hexists, true_and]
    refine exists_congr fun found => ?_
    rw [mapM_eq_ok_iff]
    exact and_congr_right fun _ =>
      ⟨fun h => (Except.ok.inj h).symm, fun h => congrArg Except.ok h.symm⟩
  · next hmissing => exact ⟨nofun, fun h => absurd h.1 hmissing⟩

theorem loadDescriptors_eq_ok_iff {t : FileTree} {directory : String} {types : List Discovered} :
    t.loadDescriptors directory = .ok types
      ↔ ∃ found, List.Forall₂ (fun visit ds => t.loadVisit visit = .ok ds)
        (t.walk (fun _ => true) directory) found
        ∧ types = found.flatten := by
  unfold FileTree.loadDescriptors
  rw [bind_eq_ok_iff]
  refine exists_congr fun found => ?_
  rw [mapM_eq_ok_iff]
  exact and_congr_right fun _ =>
    ⟨fun h => (Except.ok.inj h).symm, fun h => congrArg Except.ok h.symm⟩

/-- Types are loaded, and then compared by name. -/
theorem discover_eq_bind (t : FileTree) (settings : Settings) :
    t.discover settings = t.load settings >>= fun found => checkNames [] found >>= fun _ =>
      Except.ok found := by
  unfold FileTree.discover FileTree.load
  cases settings.source <;> rfl

/-- **The types of a workspace** are those that were loaded, if no two of them have the same
name. -/
theorem discover_eq_ok_iff {t : FileTree} {settings : Settings} {types : List Discovered} :
    t.discover settings = .ok types
      ↔ t.load settings = .ok types ∧ checkNames [] types = .ok () := by
  rw [discover_eq_bind, bind_eq_ok_iff]
  constructor
  · rintro ⟨found, hfound, h⟩
    obtain ⟨_, hnames, h⟩ := bind_eq_ok_iff.1 h
    cases h
    exact ⟨hfound, hnames⟩
  · rintro ⟨hload, hnames⟩
    exact ⟨types, hload, bind_eq_ok_iff.2 ⟨(), hnames, rfl⟩⟩

/-! ### Visits to source files -/

/-- The items of the source file that was met, if it is one. -/
def FileTree.Visit.source? (visit : Visit) : Option (List Item) :=
  match visit.place with
  | .file (.text text) => if extension? visit.path = some "rs" then sourceItems? text else none
  | _ => none

theorem FileTree.source?_eq_some_iff {path : String} {place : Place} {items : List Item} :
    (Visit.mk path place).source? = some items
      ↔ extension? path = some "rs" ∧ ∃ text, place = .file (.text text)
        ∧ sourceItems? text = some items := by
  cases place with
  | directory => simp [Visit.source?]
  | file content => cases content <;> simp [Visit.source?]

/-- A search only describes the types in source files. -/
theorem scanVisit_eq (root : String) (markers : List String) (visit : Visit) :
    scanVisit root markers visit = match visit.source? with
      | some items => scanFileItems markers (modulePath root visit.path) visit.path items
      | none => .ok [] := by
  obtain ⟨path, place⟩ := visit
  cases place with
  | directory => rfl
  | file content =>
    cases content with
    | bytes bs => rfl
    | text text =>
      by_cases hrs : extension? path = some "rs"
      · cases hitems : sourceItems? text <;> simp [scanVisit, Visit.source?, hrs, hitems]
      · simp [scanVisit, Visit.source?, hrs]

/-- A type that is found in a visited place is described by the items of a source file. -/
theorem exists_of_mem_scanVisit {root : String} {markers : List String} {visit : Visit}
    {types : List Discovered} {d : Discovered} (h : scanVisit root markers visit = .ok types)
    (hd : d ∈ types) :
    d.origin = visit.path ∧ ∃ text items described, visit.place = .file (.text text)
      ∧ sourceItems? text = some items
      ∧ scanItems markers (modulePath root visit.path) items = .ok described
      ∧ d.type ∈ described := by
  rw [scanVisit_eq] at h
  cases hsource : visit.source? with
  | none =>
    rw [hsource] at h
    cases h
    cases hd
  | some items =>
    rw [hsource] at h
    obtain ⟨-, text, hplace, hitems⟩ := source?_eq_some_iff.1 hsource
    obtain ⟨described, hdescribed, rfl⟩ := scanFileItems_eq_ok_iff.1 h
    obtain ⟨t, ht, rfl⟩ := List.mem_map.1 hd
    exact ⟨rfl, text, items, described, hplace, hitems, hdescribed, ht⟩

/-! ### Names of types from source files -/

theorem isWord_of_mem_scanVisit {root : String} {markers : List String} {visit : Visit}
    {types : List Discovered} {d : Discovered} (h : scanVisit root markers visit = .ok types)
    (hd : d ∈ types) :
    IsWord d.type.name.name := by
  obtain ⟨-, text, items, described, -, hitems, hdescribed, ht⟩ := exists_of_mem_scanVisit h hd
  exact isWord_of_sourceItems? hitems (name_of_mem_scanItems hdescribed ht)

/-- **Types from source files are named by words.** -/
theorem isWord_of_mem_scan {t : FileTree} {root : String} {markers : List String}
    {types : List Discovered} {d : Discovered} (h : t.scan root markers = .ok types)
    (hd : d ∈ types) :
    IsWord d.type.name.name := by
  obtain ⟨-, found, hfound, rfl⟩ := scan_eq_ok_iff.1 h
  obtain ⟨here, hhere, hd⟩ := List.mem_flatten.1 hd
  obtain ⟨visit, -, hvisit⟩ := exists_of_mem_right hfound hhere
  exact isWord_of_mem_scanVisit hvisit hd

/-- The types of a workspace have no slashes in their names, unless descriptor files name them. -/
theorem slash_not_mem_of_discover {t : FileTree} {settings : Settings} {types : List Discovered}
    (h : t.discover settings = .ok types)
    (hslash : settings.source = .descriptors → ∀ d ∈ types, '/' ∉ d.type.name.name.toList) :
    ∀ d ∈ types, '/' ∉ d.type.name.name.toList := by
  have hload := (discover_eq_ok_iff.1 h).1
  unfold FileTree.load at hload
  cases hsource : settings.source with
  | descriptors => exact hslash hsource
  | sourceFiles =>
    rw [hsource] at hload
    exact fun d hd => (isWord_of_mem_scan hload hd).slash_not_mem

end FluentBuilder
