import FluentBuilder.Proofs.Code.StructNames
import FluentBuilder.Proofs.Descriptions
import FluentBuilder.Scan

/-!
# Names of scanned types

A scan describes the marked structs among the items of a file, and each description has the name of
its struct.

* `name_of_mem_findings` — what a scan finds is declared by the items;
* `name_of_describe` — a description has the name of what it describes;
* `exists_describe_of_mem` — the types of a scan are descriptions of what it finds;
* `name_of_mem_scanItems` — the types of a scan have names of structs.
-/

namespace FluentBuilder

open FluentBuilder.Code

theorem eq_of_mem_structFindings {markers : List String} {module m : String}
    {declaration d : TypeDeclaration}
    (h : .marked m d ∈ structFindings markers module declaration) : d = declaration := by
  unfold structFindings at h
  rw [List.mem_append] at h
  rcases h with h | h
  · split at h
    · cases List.mem_singleton.1 h
    · cases h
  · split at h
    · cases List.mem_singleton.1 h
      rfl
    · cases h

-- the cases follow the recursion of the scan: into modules, and along the items of each
mutual
/-- A struct that a scan finds is one that the item declares. -/
theorem name_of_mem_findings {markers : List String} {module m : String} {d : TypeDeclaration}
    (item : Item) (h : .marked m d ∈ item.findings markers module) : d.name ∈ item.structNames := by
  unfold Item.findings at h
  split at h
  · next name _ _ _ _ =>
    rw [eq_of_mem_structFindings h]
    exact List.mem_singleton_self name
  · split at h
    · cases List.mem_singleton.1 h
    · cases h
  · next items => exact name_of_mem_itemsFindings items h
  · cases h

theorem name_of_mem_itemsFindings {markers : List String} {module m : String} {d : TypeDeclaration}
    (items : List Item) (h : .marked m d ∈ itemsFindings markers module items) :
    d.name ∈ itemsStructNames items := by
  cases items with
  | nil => cases h
  | cons item rest =>
    rcases List.mem_append.1 h with h | h
    · exact List.mem_append_left _ (name_of_mem_findings item h)
    · exact List.mem_append_right _ (name_of_mem_itemsFindings rest h)
end

theorem mem_markedStructs_iff {findings : List Finding} {module : String} {d : TypeDeclaration} :
    (module, d) ∈ markedStructs findings ↔ .marked module d ∈ findings := by
  unfold markedStructs
  rw [List.mem_filterMap]
  constructor
  · rintro ⟨finding, hmem, h⟩
    cases finding with
    | marked =>
      cases h
      exact hmem
    | constructors => cases h
  · exact fun hmem => ⟨_, hmem, rfl⟩

/-- A description has the name of what it describes. -/
theorem name_of_describe {d : TypeDeclaration} {package : String}
    {found : Option (List Constructor)} {t : TypeDescriptor}
    (h : describe d package found = .ok t) : t.name = ⟨package, d.name⟩ := by
  obtain ⟨-, items, said, fields, -, -, -, -, rfl⟩ := describe_eq_ok_iff.1 h
  rfl

/-- What a scan describes are the marked structs that it found. -/
theorem exists_describe_of_mem {findings : List Finding} {before : List (String × String)}
    {marked : List (String × TypeDeclaration)} {types : List TypeDescriptor} {t : TypeDescriptor}
    (h : describeMarked findings before marked = .ok types) (ht : t ∈ types) :
    ∃ m ∈ marked, ∃ found, describe m.2 m.1 (some found) = .ok t := by
  induction marked generalizing before types with
  | nil =>
    cases h
    cases ht
  | cons here rest ih =>
    obtain ⟨described, hdescribed, h⟩ := bind_eq_ok_iff.1 h
    obtain ⟨others, hothers, h⟩ := bind_eq_ok_iff.1 h
    cases h
    rcases List.mem_cons.1 ht with rfl | ht
    · exact ⟨here, List.mem_cons_self, _, hdescribed⟩
    · obtain ⟨m, hm, found, hfound⟩ := ih hothers ht
      exact ⟨m, List.mem_cons_of_mem here hm, found, hfound⟩

/-- **A scanned type is named like a struct of the items.** -/
theorem name_of_mem_scanItems {markers : List String} {module : String} {items : List Item}
    {types : List TypeDescriptor} {t : TypeDescriptor}
    (h : scanItems markers module items = .ok types) (ht : t ∈ types) :
    t.name.name ∈ itemsStructNames items := by
  obtain ⟨⟨m, d⟩, hm, found, hdescribed⟩ := exists_describe_of_mem h ht
  rw [name_of_describe hdescribed]
  exact name_of_mem_itemsFindings items (mem_markedStructs_iff.1 hm)

end FluentBuilder
