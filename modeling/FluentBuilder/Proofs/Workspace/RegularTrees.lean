import Mathlib.Data.List.Basic
import FluentBuilder.Proofs.Workspace.TreeGrowth

/-!
# Regular trees

In a tree that comes about by creating directories and writing files, every name is one that a file
can have and every place lies in a directory.  In such a tree a path that leads to a directory,
continued by a name in it, leads to what has that name.

* `known`, `mem_known_iff` — the locations at which something is;
* `IsRegular` — the trees that can come about, decidable for a given tree;
* `IsRegular.write?`, `IsRegular.createDirectories` — changes by path keep a tree regular;
* `IsRegular.resolve?_join` — the path of what is in a directory.
-/

namespace FluentBuilder.FileTree

open FilePath

/-! ### The locations of a tree -/

/-- The locations at which something is: the places of the tree and the way to its working
directory. -/
def known (t : FileTree) : List Location :=
  t.places.map (·.1) ++ (List.range (t.working.length + 1)).map t.working.take

theorem length_known (t : FileTree) : t.known.length = t.places.length + t.working.length + 1 := by
  unfold known
  rw [List.length_append, List.length_map, List.length_map, List.length_range]
  omega

theorem isSome_lookup_iff {α β : Type} [BEq α] [LawfulBEq α] {places : List (α × β)} {l : α} :
    (places.lookup l).isSome = true ↔ l ∈ places.map (·.1) := by
  induction places with
  | nil => simp
  | cons p rest ih =>
    rw [List.lookup_cons, List.map_cons, List.mem_cons]
    cases h : l == p.1 with
    | true => simp [beq_iff_eq.1 h]
    | false => simp [ih, ne_of_beq_false h]

/-- The starts of a list are what is left of it when it is cut behind some length. -/
theorem mem_starts_iff {l working : Location} :
    l ∈ (List.range (working.length + 1)).map working.take ↔ l.isPrefixOf working = true := by
  rw [List.isPrefixOf_iff_prefix, List.mem_map]
  constructor
  · rintro ⟨n, -, rfl⟩
    exact List.take_prefix n working
  · intro h
    exact ⟨l.length, List.mem_range.2 (Nat.lt_succ_of_le h.length_le),
      (List.prefix_iff_eq_take.1 h).symm⟩

/-- **Something is at exactly the known locations.** -/
theorem mem_known_iff {t : FileTree} {l : Location} : l ∈ t.known ↔ (t.get? l).isSome = true := by
  unfold known get?
  rw [List.mem_append, mem_starts_iff, ← isSome_lookup_iff]
  split
  · next h => simp [h]
  · next h => simp [h]

/-! ### Regular trees -/

/-- A name that a file in a directory can have. -/
def IsEntryName (name : String) : Prop :=
  IsPlainName name ∧ isFileName name = true

instance (name : String) : Decidable (IsEntryName name) :=
  decidable_of_iff (('/' ∉ name.toList ∧ isIdle name.toList = false ∧ name.toList ≠ ['.', '.'])
      ∧ isFileName name = true) <|
    and_congr_left fun _ =>
      ⟨fun h => ⟨h.1, h.2.1, h.2.2⟩, fun h => ⟨h.no_slash, h.not_idle, h.not_parent⟩⟩

/-- A tree in which every name can be that of a file and every place lies in a directory. -/
structure IsRegular (t : FileTree) : Prop where
  names : ∀ l, (t.get? l).isSome = true → ∀ name ∈ l, IsEntryName name
  parent : ∀ l name, (t.get? (l ++ [name])).isSome = true → t.get? l = some .directory

instance (t : FileTree) : Decidable t.IsRegular :=
  decidable_of_iff ((∀ l ∈ t.known, ∀ name ∈ l, IsEntryName name)
      ∧ ∀ l ∈ t.known, l = [] ∨ t.get? l.dropLast = some .directory) <| by
    constructor
    · rintro ⟨hnames, hparent⟩
      refine ⟨fun l hl => hnames l (mem_known_iff.2 hl), fun l name hl => ?_⟩
      rcases hparent (l ++ [name]) (mem_known_iff.2 hl) with hnil | hdir
      · exact absurd hnil (List.concat_ne_nil name l)
      · rwa [List.dropLast_concat] at hdir
    · rintro ⟨hnames, hparent⟩
      refine ⟨fun l hl => hnames l (mem_known_iff.1 hl), fun l hl => ?_⟩
      rcases List.eq_nil_or_concat' l with rfl | ⟨up, name, rfl⟩
      · exact .inl rfl
      · rw [List.dropLast_concat]
        exact .inr (hparent up name (mem_known_iff.1 hl))

/-- Regularity is a matter of what is at which location. -/
theorem IsRegular.congr {t t' : FileTree} (h : t.IsRegular) (hget : ∀ l, t'.get? l = t.get? l) :
    t'.IsRegular :=
  ⟨fun l hl => h.names l (hget l ▸ hl),
    fun l name hl => (hget l).trans (h.parent l name (hget (l ++ [name]) ▸ hl))⟩

/-- A name put into a directory keeps a tree regular. -/
theorem IsRegular.put {t : FileTree} {up : Location} {name : String} {place : Place}
    (h : t.IsRegular) (hname : IsEntryName name) (hup : t.get? up = some .directory)
    (hnew : t.get? (up ++ [name]) ≠ some .directory) :
    (t.put (up ++ [name]) place).IsRegular := by
  have hget := get?_put place (not_isPrefixOf_of_get? hnew)
  have hgrows : Grows t (t.put (up ++ [name]) place) := grows_put hnew
  refine ⟨fun l hl => ?_, fun l other hl => ?_⟩
  · by_cases hhere : l = up ++ [name]
    · subst hhere
      intro n hn
      rcases List.mem_append.1 hn with hn | hn
      · exact h.names up (by rw [hup]; rfl) n hn
      · rw [List.mem_singleton.1 hn]
        exact hname
    · rw [hget, if_neg hhere] at hl
      exact h.names l hl
  · by_cases hhere : l ++ [other] = up ++ [name]
    · rw [(List.append_inj' hhere rfl).1]
      exact hgrows.directory up hup
    · rw [hget, if_neg hhere] at hl
      exact hgrows.directory l (h.parent l other hl)

/-- What a path whose last step may lead to nothing yet stands for: a name in a directory. -/
theorem target?_spec {t : FileTree} {path : String} {l : Location} (h : t.target? path = some l) :
    ∃ up name, IsEntryName name ∧ t.get? up = some .directory ∧ l = up ++ [name] := by
  obtain ⟨steps, name, up, hsteps, -, hdir, hname, hl⟩ := target?_eq_some_iff.1 h
  have hmem : Component.name name ∈ components path := by
    rw [hsteps]
    exact List.mem_append_right steps (List.mem_singleton_self _)
  exact ⟨up, name, ⟨isPlainName_of_mem_components hmem, hname⟩, isDirectoryAt_iff.1 hdir, hl⟩

/-- **Writing a file keeps a tree regular.** -/
theorem IsRegular.write? {t t' : FileTree} {path : String} {content : Content} (h : t.IsRegular)
    (hwrite : t.write? path content = some t') : t'.IsRegular := by
  unfold FileTree.write? at hwrite
  split at hwrite
  · cases hwrite
  · split at hwrite
    · next l htarget =>
      split at hwrite
      · cases hwrite
      · next hdir =>
        cases hwrite
        obtain ⟨up, name, hname, hup, rfl⟩ := target?_spec htarget
        exact h.put hname hup fun hnew => hdir (isDirectoryAt_iff.2 hnew)
    · cases hwrite

theorem IsRegular.createDirectory {t t' : FileTree} {path : String} (h : t.IsRegular)
    (hcreate : t.createDirectory path = .created t') : t'.IsRegular := by
  unfold FileTree.createDirectory at hcreate
  split at hcreate
  · cases hcreate
  · split at hcreate
    · next l htarget =>
      split at hcreate
      · cases hcreate
      · split at hcreate
        · cases hcreate
        · next hthere =>
          cases hcreate
          obtain ⟨up, name, hname, hup, rfl⟩ := target?_spec htarget
          refine h.put hname hup fun hnew => hthere ?_
          rw [hnew]
          rfl
    · split at hcreate <;> cases hcreate

theorem IsRegular.createAlong {t : FileTree} (h : t.IsRegular) (paths : List String) :
    (t.createAlong paths).1.IsRegular := by
  induction paths with
  | nil => exact h
  | cons path above ih =>
    unfold FileTree.createAlong
    split
    · exact h
    · split
      · next u hcreated => exact h.createDirectory hcreated
      · exact h
      · split
        · next u hu =>
          rw [hu] at ih
          exact ih
        · next u hu =>
          rw [hu] at ih
          split
          · next v hcreated => exact IsRegular.createDirectory ih hcreated
          · exact ih

/-- **Creating a directory keeps a tree regular.** -/
theorem IsRegular.createDirectories {t : FileTree} (h : t.IsRegular) (path : String) :
    (t.createDirectories path).1.IsRegular :=
  h.createAlong (ancestors path)

/-! ### Paths of what is in a directory -/

/-- Nothing stands behind the last slash of a path that ends in a plain name only if the name is
idle. -/
theorem endsInDirectory_join {base name : String} (h : IsPlainName name) :
    endsInDirectory (join base name) = false := by
  unfold endsInDirectory
  rw [getLast?_splitSlash_join h]
  exact h.not_idle

/-- **The path of what is in a directory** is that of the directory, continued by the name. -/
theorem IsRegular.resolve?_join {t : FileTree} (h : t.IsRegular) {path name : String} {l : Location}
    (hpath : t.resolve? path = some l) (hthere : (t.get? (l ++ [name])).isSome = true) :
    t.resolve? (join path name) = some (l ++ [name]) := by
  obtain ⟨hplain, hfile⟩ :=
    h.names _ hthere name (List.mem_append_right l (List.mem_singleton_self name))
  obtain ⟨hempty, hfollow, -⟩ := resolve?_eq_some_iff.1 hpath
  have hdir : t.isDirectoryAt l = true := isDirectoryAt_iff.2 (h.parent l name hthere)
  refine resolve?_eq_some_iff.2 ⟨?_, ?_, fun hend => ?_⟩
  · cases hjoin : (join path name).isEmpty with
    | false => rfl
    | true =>
      have hsteps : components (join path name) = components path ++ [.name name] :=
        components_join hplain
      rw [String.isEmpty_iff.1 hjoin] at hsteps
      exact absurd hsteps.symm (List.concat_ne_nil _ _)
  · rw [components_join hplain]
    exact follow?_concat_name_iff.2 ⟨l, hfollow, hdir, hfile, hthere, rfl⟩
  · rw [endsInDirectory_join hplain] at hend
    exact absurd hend Bool.false_ne_true

end FluentBuilder.FileTree
