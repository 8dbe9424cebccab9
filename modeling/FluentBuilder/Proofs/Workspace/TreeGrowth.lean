import FluentBuilder.Proofs.Workspace.PathSteps

/-!
# Trees that grow

Every change that a pass makes to a tree puts something at one location, where no directory was.  So
each place stays where it is, and a path that led somewhere goes on leading there.  This file states
the two changes through what is at a location afterwards:

* `get?_put` — what is at a location once something is put at another;
* `Grows` — a tree that has everything another one has, directories as directories;
* `Grows.resolve?` — a path keeps its place when a tree grows;
* `write?_spec` — writing a file puts it where its path leads, and nothing else changes;
* `MakesDirectories`, `createDirectories_spec` — creating a directory only adds directories on the
  way to it.
-/

namespace FluentBuilder.FileTree

open FilePath

/-! ### What is at a location -/

theorem isDirectoryAt_iff {t : FileTree} {l : Location} :
    t.isDirectoryAt l = true ↔ t.get? l = some .directory := by
  unfold isDirectoryAt
  exact beq_iff_eq

theorem lookup_filter_ne {places : List (Location × Place)} {l k : Location} (h : k ≠ l) :
    (places.filter fun p => p.1 != l).lookup k = places.lookup k := by
  induction places with
  | nil => rfl
  | cons p rest ih =>
    by_cases hp : p.1 = l
    · rw [List.filter_cons_of_neg (by simpa using hp), ih, List.lookup_cons]
      rw [beq_false_of_ne (hp ▸ h)]
    · rw [List.filter_cons_of_pos (by simpa using hp), List.lookup_cons, List.lookup_cons, ih]

/-- What is at a location once something is put at one that does not lead to the working
directory. -/
theorem get?_put {t : FileTree} {l : Location} (place : Place) (h : l.isPrefixOf t.working = false)
    (k : Location) : (t.put l place).get? k = if k = l then some place else t.get? k := by
  unfold get? put
  by_cases hk : k = l
  · subst hk
    rw [if_pos rfl]
    show (if k.isPrefixOf t.working = true then some Place.directory else _) = some place
    rw [h, if_neg Bool.false_ne_true, List.lookup_cons_self]
  · rw [if_neg hk]
    show (if k.isPrefixOf t.working = true then some Place.directory
      else List.lookup k ((l, place) :: t.places.filter fun p => p.1 != l)) = _
    rw [List.lookup_cons, beq_false_of_ne hk, lookup_filter_ne hk]

/-- The way to the working directory consists of directories. -/
theorem not_isPrefixOf_of_get? {t : FileTree} {l : Location} (h : t.get? l ≠ some .directory) :
    l.isPrefixOf t.working = false := by
  cases hp : l.isPrefixOf t.working with
  | false => rfl
  | true =>
    refine absurd ?_ h
    unfold get?
    rw [if_pos hp]

/-! ### Growth -/

/-- A tree that has everything another one has, directories as directories. -/
structure Grows (t t' : FileTree) : Prop where
  working : t'.working = t.working
  directory : ∀ l, t.get? l = some .directory → t'.get? l = some .directory
  present : ∀ l, (t.get? l).isSome = true → (t'.get? l).isSome = true

theorem Grows.refl (t : FileTree) : Grows t t :=
  ⟨rfl, fun _ h => h, fun _ h => h⟩

theorem Grows.trans {t u v : FileTree} (h : Grows t u) (h' : Grows u v) : Grows t v :=
  ⟨h'.working.trans h.working, fun l hl => h'.directory l (h.directory l hl),
    fun l hl => h'.present l (h.present l hl)⟩

/-- Putting a directory where nothing is, or a file where no directory is, makes a tree grow. -/
theorem grows_put {t : FileTree} {l : Location} {place : Place} (h : t.get? l ≠ some .directory) :
    Grows t (t.put l place) := by
  have hget := get?_put place (not_isPrefixOf_of_get? h)
  refine ⟨rfl, fun k hk => ?_, fun k hk => ?_⟩
  · rw [hget k]
    by_cases hkl : k = l
    · exact absurd (hkl ▸ hk) h
    · rw [if_neg hkl]
      exact hk
  · rw [hget k]
    by_cases hkl : k = l
    · rw [if_pos hkl]
      rfl
    · rw [if_neg hkl]
      exact hk

theorem Grows.follow? {t t' : FileTree} (h : Grows t t') {steps : List Component} {l r : Location}
    (hf : t.follow? l steps = some r) : t'.follow? l steps = some r := by
  have hdir : ∀ k, t.isDirectoryAt k = true → t'.isDirectoryAt k = true := fun k hk =>
    isDirectoryAt_iff.2 (h.directory k (isDirectoryAt_iff.1 hk))
  induction steps generalizing l with
  | nil =>
    simp only [FileTree.follow?, Option.ite_none_right_eq_some] at hf ⊢
    exact ⟨h.present l hf.1, hf.2⟩
  | cons step rest ih =>
    cases step with
    | root => exact ih hf
    | current =>
      simp only [FileTree.follow?, Option.ite_none_right_eq_some] at hf ⊢
      exact ⟨hdir l hf.1, ih hf.2⟩
    | parent =>
      simp only [FileTree.follow?, Option.ite_none_right_eq_some] at hf ⊢
      exact ⟨hdir l hf.1, ih hf.2⟩
    | name s =>
      simp only [FileTree.follow?, Option.ite_none_right_eq_some, Bool.and_eq_true] at hf ⊢
      exact ⟨⟨hdir l hf.1.1, hf.1.2⟩, ih hf.2⟩

theorem resolve?_eq_some_iff {t : FileTree} {path : String} {l : Location} :
    t.resolve? path = some l ↔ path.isEmpty = false ∧ t.follow? t.working (components path) = some l
      ∧ (endsInDirectory path = true → t.isDirectoryAt l = true) := by
  unfold resolve?
  cases hempty : path.isEmpty with
  | true => simp
  | false =>
    rw [if_neg Bool.false_ne_true]
    cases hf : t.follow? t.working (components path) with
    | none => simp
    | some k =>
      cases hend : endsInDirectory path <;> cases hdir : t.isDirectoryAt k <;> simp [hdir]
      all_goals
        intro hkl
        rw [← hkl]
        exact hdir

/-- **A path keeps its place when a tree grows.** -/
theorem Grows.resolve? {t t' : FileTree} (h : Grows t t') {path : String} {l : Location}
    (hr : t.resolve? path = some l) : t'.resolve? path = some l := by
  obtain ⟨hempty, hf, hend⟩ := resolve?_eq_some_iff.1 hr
  refine resolve?_eq_some_iff.2 ⟨hempty, ?_, fun hslash => ?_⟩
  · rw [h.working]
    exact h.follow? hf
  · exact isDirectoryAt_iff.2 (h.directory l (isDirectoryAt_iff.1 (hend hslash)))

/-! ### Paths whose last step leads to nothing yet -/

/-- One more name leads to the location below, if what is in front of it is a directory and
something is there. -/
theorem follow?_concat_name_iff {t : FileTree} {s : String} {steps : List Component}
    {l r : Location} :
    t.follow? l (steps ++ [.name s]) = some r ↔ ∃ up, t.follow? l steps = some up
      ∧ t.isDirectoryAt up = true ∧ isFileName s = true ∧ (t.get? r).isSome = true
      ∧ r = up ++ [s] := by
  induction steps generalizing l with
  | nil =>
    show t.follow? l [.name s] = some r ↔ _
    simp only [follow?, Option.ite_none_right_eq_some, Bool.and_eq_true, Option.some.injEq]
    constructor
    · rintro ⟨⟨hdir, hs⟩, hthere, rfl⟩
      have hl : (t.get? l).isSome = true := by rw [isDirectoryAt_iff.1 hdir]; rfl
      exact ⟨l, ⟨hl, rfl⟩, hdir, hs, hthere, rfl⟩
    · rintro ⟨up, ⟨-, rfl⟩, hdir, hs, hthere, rfl⟩
      exact ⟨⟨hdir, hs⟩, hthere, rfl⟩
  | cons step rest ih =>
    cases step with
    | root => exact ih
    | current =>
      simp only [follow?, List.cons_append, Option.ite_none_right_eq_some, ih]
      exact ⟨fun ⟨h, up, hup⟩ => ⟨up, ⟨h, hup.1⟩, hup.2⟩, fun ⟨up, ⟨h, hup⟩, hrest⟩ =>
        ⟨h, up, hup, hrest⟩⟩
    | parent =>
      simp only [follow?, List.cons_append, Option.ite_none_right_eq_some, ih]
      exact ⟨fun ⟨h, up, hup⟩ => ⟨up, ⟨h, hup.1⟩, hup.2⟩, fun ⟨up, ⟨h, hup⟩, hrest⟩ =>
        ⟨h, up, hup, hrest⟩⟩
    | name other =>
      simp only [follow?, List.cons_append, Option.ite_none_right_eq_some, ih]
      exact ⟨fun ⟨h, up, hup⟩ => ⟨up, ⟨h, hup.1⟩, hup.2⟩, fun ⟨up, ⟨h, hup⟩, hrest⟩ =>
        ⟨h, up, hup, hrest⟩⟩

/-- The location of a path whose last step may lead to nothing yet: a name in the directory in front
of it. -/
theorem target?_eq_some_iff {t : FileTree} {path : String} {l : Location} :
    t.target? path = some l ↔ ∃ steps s up, components path = steps ++ [.name s]
      ∧ t.follow? t.working steps = some up ∧ t.isDirectoryAt up = true ∧ isFileName s = true
      ∧ l = up ++ [s] := by
  unfold target?
  dsimp only
  constructor
  · intro h
    split at h
    · next s hlast =>
      obtain ⟨steps, hsteps⟩ := List.getLast?_eq_some_iff.1 hlast
      rw [hsteps, List.dropLast_concat] at h
      split at h
      · next up hup =>
        rw [Option.ite_none_right_eq_some, Bool.and_eq_true] at h
        exact ⟨steps, s, up, hsteps, hup, h.1.1, h.1.2, (Option.some.inj h.2).symm⟩
      · cases h
    · cases h
  · rintro ⟨steps, s, up, hsteps, hup, hdir, hs, rfl⟩
    rw [hsteps, List.getLast?_concat, List.dropLast_concat]
    simp only [hup, hdir, hs, Bool.and_self, if_true]

/-- Once something is put at the target of a path, the path leads there. -/
theorem resolve?_put_of_target? {t : FileTree} {path : String} {l : Location} {place : Place}
    (htarget : t.target? path = some l) (hnew : t.get? l ≠ some .directory)
    (hend : endsInDirectory path = true → place = .directory) :
    (t.put l place).resolve? path = some l := by
  obtain ⟨steps, s, up, hsteps, hup, hdir, hs, rfl⟩ := target?_eq_some_iff.1 htarget
  have hgrows : Grows t (t.put (up ++ [s]) place) := grows_put hnew
  have hget : (t.put (up ++ [s]) place).get? (up ++ [s]) = some place := by
    rw [get?_put place (not_isPrefixOf_of_get? hnew), if_pos rfl]
  refine resolve?_eq_some_iff.2 ⟨?_, ?_, fun hslash => ?_⟩
  · cases hempty : path.isEmpty with
    | false => rfl
    | true =>
      rw [String.isEmpty_iff.1 hempty] at hsteps
      exact absurd hsteps.symm (List.append_ne_nil_of_right_ne_nil steps (List.cons_ne_nil _ _))
  · rw [hsteps]
    refine follow?_concat_name_iff.2 ⟨up, hgrows.follow? hup, ?_, hs, ?_, rfl⟩
    · exact isDirectoryAt_iff.2 (hgrows.directory up (isDirectoryAt_iff.1 hdir))
    · rw [hget]
      rfl
  · rw [isDirectoryAt_iff, hget, hend hslash]

/-! ### Writing a file -/

/-- **Writing puts a file where its path leads.** -/
theorem write?_spec {t t' : FileTree} {path : String} {content : Content}
    (h : t.write? path content = some t') :
    ∃ l, Grows t t' ∧ t'.resolve? path = some l ∧ t.get? l ≠ some .directory
      ∧ ∀ k, t'.get? k = if k = l then some (.file content) else t.get? k := by
  unfold write? at h
  split at h
  · cases h
  · next hend =>
    split at h
    · next l htarget =>
      split at h
      · cases h
      · next hdir =>
        cases h
        have hnew : t.get? l ≠ some .directory := fun hl => hdir (isDirectoryAt_iff.2 hl)
        exact ⟨l, grows_put hnew, resolve?_put_of_target? htarget hnew
          (fun hslash => absurd hslash hend), hnew, get?_put _ (not_isPrefixOf_of_get? hnew)⟩
    · cases h

/-! ### Creating directories -/

/-- What creating directories along some paths may do to a tree: it adds directories where these
paths lead. -/
structure MakesDirectories (paths : List String) (t t' : FileTree) : Prop where
  grows : Grows t t'
  only : ∀ l, t'.get? l = t.get? l
    ∨ t.get? l = none ∧ t'.get? l = some .directory ∧ ∃ path ∈ paths, t'.resolve? path = some l

theorem MakesDirectories.refl (paths : List String) (t : FileTree) : MakesDirectories paths t t :=
  ⟨Grows.refl t, fun _ => .inl rfl⟩

theorem MakesDirectories.trans {paths : List String} {t u v : FileTree}
    (h : MakesDirectories paths t u) (h' : MakesDirectories paths u v) :
    MakesDirectories paths t v := by
  refine ⟨h.grows.trans h'.grows, fun l => ?_⟩
  rcases h.only l with hsame | ⟨hnone, hdir, path, hpath, hr⟩
  · rcases h'.only l with hsame' | ⟨hnone', hdir', hon⟩
    · exact .inl (hsame'.trans hsame)
    · exact .inr ⟨hsame ▸ hnone', hdir', hon⟩
  · exact .inr ⟨hnone, h'.grows.directory l hdir, path, hpath, h'.grows.resolve? hr⟩

theorem MakesDirectories.mono {paths more : List String} {t t' : FileTree}
    (h : MakesDirectories paths t t') (hsub : paths ⊆ more) : MakesDirectories more t t' := by
  refine ⟨h.grows, fun l => ?_⟩
  rcases h.only l with hsame | ⟨hnone, hdir, path, hpath, hr⟩
  · exact .inl hsame
  · exact .inr ⟨hnone, hdir, path, hsub hpath, hr⟩

theorem createDirectory_spec {t t' : FileTree} {path : String}
    (h : t.createDirectory path = .created t') :
    MakesDirectories [path] t t' := by
  unfold createDirectory at h
  split at h
  · cases h
  · split at h
    · next l htarget =>
      split at h
      · cases h
      · split at h
        · cases h
        · next hnone =>
          cases h
          have hnone : t.get? l = none := by simpa using hnone
          have hnew : t.get? l ≠ some .directory := by rw [hnone]; exact fun hl => by cases hl
          have hget := get?_put .directory (not_isPrefixOf_of_get? hnew)
          refine ⟨grows_put hnew, fun k => ?_⟩
          by_cases hk : k = l
          · subst hk
            refine .inr ⟨hnone, by rw [hget, if_pos rfl], path, List.mem_singleton_self path, ?_⟩
            exact resolve?_put_of_target? htarget hnew fun _ => rfl
          · exact .inl (by rw [hget, if_neg hk])
    · split at h <;> cases h

/-- Creating directories along paths adds directories only, also when it fails half way. -/
theorem createAlong_spec (paths : List String) (t : FileTree) :
    MakesDirectories paths t (t.createAlong paths).1 := by
  induction paths with
  | nil => exact MakesDirectories.refl [] t
  | cons path above ih =>
    have hhead : [path] ⊆ path :: above := List.cons_subset_cons path (List.nil_subset above)
    have habove := ih.mono (List.subset_cons_self path above)
    unfold createAlong
    split
    · exact MakesDirectories.refl _ t
    · split
      · next u hcreated => exact (createDirectory_spec hcreated).mono hhead
      · exact MakesDirectories.refl _ t
      · split
        · next u hu =>
          rw [hu] at habove
          exact habove
        · next u hu =>
          have hmade : MakesDirectories (path :: above) t u := by
            rw [hu] at habove
            exact habove
          split
          · next v hcreated => exact hmade.trans ((createDirectory_spec hcreated).mono hhead)
          · exact hmade

/-- **Creating a directory only adds directories on the way to it.** -/
theorem createDirectories_spec (t : FileTree) (path : String) :
    MakesDirectories (ancestors path) t (t.createDirectories path).1 :=
  createAlong_spec (ancestors path) t

/-! ### Names in a directory -/

/-- **A plain name joined to a path leads to the location of that name in one directory.** -/
theorem resolve?_join {t : FileTree} {base name : String} (h : IsPlainName name) {l : Location}
    (hr : t.resolve? (join base name) = some l) :
    ∃ up, t.follow? t.working (components base) = some up ∧ l = up ++ [name] := by
  obtain ⟨-, hf, -⟩ := resolve?_eq_some_iff.1 hr
  rw [components_join h] at hf
  obtain ⟨up, hup, -, -, -, rfl⟩ := follow?_concat_name_iff.1 hf
  exact ⟨up, hup, rfl⟩

end FluentBuilder.FileTree
