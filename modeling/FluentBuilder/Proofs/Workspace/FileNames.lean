import FluentBuilder.Proofs.Workspace.RegularTrees

/-!
# The names of files

The extension of a path is that of the name in its last step.  For a path to a file this is the name
of the file, by whatever steps the path leads there.

* `fileName?_of_ends`, `extension?_of_ends` — paths that end in the extension of source files;
* `IsRegular.fileName?_eq` — a path to a file ends in the name of the file;
* `IsRegular.extension?_eq` — all paths to a file have one extension.
-/

namespace FluentBuilder.FilePath

/-! ### The name of a file -/

/-- A text is what stands behind its last slash, if there is one, with what stands in front. -/
theorem exists_behind_last_slash (cs : List Char) :
    ∃ behind, '/' ∉ behind ∧ (cs = behind ∨ ∃ front, cs = front ++ '/' :: behind) := by
  induction cs with
  | nil => exact ⟨[], List.not_mem_nil, .inl rfl⟩
  | cons c rest ih =>
    obtain ⟨behind, hbehind, rfl | ⟨front, rfl⟩⟩ := ih
    · by_cases hc : c = '/'
      · exact ⟨rest, hbehind, .inr ⟨[], by rw [hc]; rfl⟩⟩
      · refine ⟨c :: rest, ?_, .inl rfl⟩
        rw [List.mem_cons, not_or]
        exact ⟨fun h => hc h.symm, hbehind⟩
    · exact ⟨behind, hbehind, .inr ⟨c :: front, rfl⟩⟩

theorem isPlainName_of_ends {name : String} {front : List Char} (hslash : '/' ∉ name.toList)
    (h : name.toList = front ++ ['.', 'r', 's']) : IsPlainName name := by
  have hlong : 3 ≤ name.toList.length := by
    rw [h, List.length_append]
    exact Nat.le_add_left 3 _
  refine ⟨hslash, ?_, fun hparent => ?_⟩
  · cases hidle : isIdle name.toList with
    | false => rfl
    | true =>
      unfold isIdle at hidle
      rw [Bool.or_eq_true, List.isEmpty_iff, beq_iff_eq] at hidle
      rcases hidle with hidle | hidle <;> rw [hidle] at hlong <;> exact absurd hlong (by decide)
  · rw [hparent] at hlong
    exact absurd hlong (by decide)

/-- A path that ends in the extension of source files leads to a file with it. -/
theorem fileName?_of_ends {path : String} {front : List Char}
    (h : path.toList = front ++ ['.', 'r', 's']) :
    ∃ name start, fileName? path = some name ∧ name.toList = start ++ ['.', 'r', 's'] := by
  obtain ⟨behind, hbehind, hpath⟩ := exists_behind_last_slash path.toList
  have hends : ['.', 'r', 's'] <:+ path.toList := ⟨front, h.symm⟩
  -- the extension has no slash, so it stands behind the last one
  obtain ⟨start, hstart⟩ : ['.', 'r', 's'] <:+ behind := by
    rcases hpath with hpath | ⟨before, hpath⟩
    · rwa [hpath] at hends
    · have hslash : '/' :: behind <:+ path.toList := ⟨before, hpath.symm⟩
      rcases List.suffix_or_suffix_of_suffix hends hslash with hshort | hlong
      · rcases List.suffix_cons_iff.1 hshort with hsame | hshort
        · cases hsame
        · exact hshort
      · exact absurd (hlong.subset List.mem_cons_self) (by decide)
  have hname : (String.ofList behind).toList = behind := String.toList_ofList
  have hplain : IsPlainName (String.ofList behind) :=
    isPlainName_of_ends (by rwa [hname]) (by rw [hname, hstart])
  refine ⟨String.ofList behind, start, ?_, by rw [hname, hstart]⟩
  have hsteps : ∃ steps, components path = steps ++ [.name (String.ofList behind)] := by
    rcases hpath with hpath | ⟨before, hpath⟩
    · refine ⟨[], ?_⟩
      rw [← hpath, String.ofList_toList] at hplain ⊢
      exact components_of_plainName hplain
    · have hbase : (String.ofList (before ++ ['/'])).toList = before ++ ['/'] :=
        String.toList_ofList
      exact ⟨_, components_of_append_slash hplain (by rw [hpath, hname]) (.inl hbase)⟩
  obtain ⟨steps, hsteps⟩ := hsteps
  unfold fileName?
  rw [hsteps, List.getLast?_concat]

/-- Only the name of the file decides about the extension of a path. -/
theorem extension?_congr {path other : String} (h : fileName? path = fileName? other) :
    extension? path = extension? other := by
  unfold extension?
  rw [h]

/-- A name that ends in the extension of source files has it, unless nothing stands in front. -/
theorem extension?_of_fileName {path name : String} {start : List Char}
    (hname : fileName? path = some name) (hends : name.toList = start ++ ['.', 'r', 's']) :
    extension? path = none ∨ extension? path = some "rs" := by
  unfold extension?
  rw [hname]
  dsimp only
  have htake : (start ++ ['.', 'r', 's']).reverse.takeWhile (· != '.') = ['s', 'r'] := by
    rw [List.reverse_append]
    rfl
  have hdrop : (start ++ ['.', 'r', 's']).reverse.dropWhile (· != '.') = '.' :: start.reverse := by
    rw [List.reverse_append]
    rfl
  rw [hends, htake, hdrop]
  split
  · exact .inr rfl
  · exact .inl rfl

theorem extension?_of_ends {path : String} {front : List Char}
    (h : path.toList = front ++ ['.', 'r', 's']) :
    extension? path = none ∨ extension? path = some "rs" := by
  obtain ⟨name, start, hname, hends⟩ := fileName?_of_ends h
  exact extension?_of_fileName hname hends

theorem ends_join (base : String) {name : String} {front : List Char}
    (h : name.toList = front ++ ['.', 'r', 's']) :
    ∃ front, (join base name).toList = front ++ ['.', 'r', 's'] := by
  unfold join
  split
  · exact ⟨front, h⟩
  · split
    · exact ⟨base.toList ++ front, by rw [String.toList_append, h, List.append_assoc]⟩
    · exact ⟨(base ++ "/").toList ++ front, by rw [String.toList_append, h, List.append_assoc]⟩

end FluentBuilder.FilePath

namespace FluentBuilder.FileTree
open FilePath

/-! ### The names of files -/

theorem exists_follow?_last {t : FileTree} {steps : List Component} {step : Component}
    {l r : Location} (h : t.follow? l (steps ++ [step]) = some r) :
    ∃ up, t.follow? up [step] = some r := by
  induction steps generalizing l with
  | nil => exact ⟨l, h⟩
  | cons first rest ih =>
    cases first with
    | root => exact ih h
    | current =>
      simp only [follow?, List.cons_append, Option.ite_none_right_eq_some] at h
      exact ih h.2
    | parent =>
      simp only [follow?, List.cons_append, Option.ite_none_right_eq_some] at h
      exact ih h.2
    | name s =>
      simp only [follow?, List.cons_append, Option.ite_none_right_eq_some] at h
      exact ih h.2

theorem get?_nil (t : FileTree) : t.get? [] = some .directory := by
  unfold get?
  rw [if_pos (List.isPrefixOf_iff_prefix.2 List.nil_prefix)]

theorem get?_working (t : FileTree) : t.get? t.working = some .directory := by
  unfold get?
  rw [if_pos (List.isPrefixOf_iff_prefix.2 (List.prefix_refl _))]

/-- **A path to a file ends in the name of the file.** -/
theorem IsRegular.fileName?_eq {t : FileTree} (h : t.IsRegular) {path : String} {l : Location}
    {content : Content}
    (hpath : t.resolve? path = some l) (hfile : t.get? l = some (.file content)) :
    fileName? path = l.getLast? := by
  have hfollow := (resolve?_eq_some_iff.1 hpath).2.1
  unfold fileName?
  rcases List.eq_nil_or_concat' (components path) with hnil | ⟨steps, step, hsteps⟩
  · rw [hnil] at hfollow
    simp only [follow?, Option.ite_none_right_eq_some, Option.some.injEq] at hfollow
    rw [← hfollow.2, get?_working] at hfile
    cases hfile
  · rw [hsteps] at hfollow
    obtain ⟨up, hup⟩ := exists_follow?_last hfollow
    rw [hsteps, List.getLast?_concat]
    cases step with
    | root =>
      simp only [follow?, Option.ite_none_right_eq_some, Option.some.injEq] at hup
      rw [← hup.2, get?_nil] at hfile
      cases hfile
    | current =>
      simp only [follow?, Option.ite_none_right_eq_some, Option.some.injEq] at hup
      rw [← hup.2.2, isDirectoryAt_iff.1 hup.1] at hfile
      cases hfile
    | parent =>
      simp only [follow?, Option.ite_none_right_eq_some, Option.some.injEq] at hup
      have hdir : t.get? up.dropLast = some .directory := by
        rcases List.eq_nil_or_concat' up with rfl | ⟨above, name, rfl⟩
        · exact get?_nil t
        · rw [List.dropLast_concat]
          exact h.parent above name (by rw [isDirectoryAt_iff.1 hup.1]; rfl)
      rw [← hup.2.2, hdir] at hfile
      cases hfile
    | name s =>
      simp only [follow?, Option.ite_none_right_eq_some, Option.some.injEq] at hup
      rw [← hup.2.2, List.getLast?_concat]

/-- Paths to one file have the same extension. -/
theorem IsRegular.extension?_eq {t : FileTree} (h : t.IsRegular) {path other : String}
    {l : Location} {content : Content} (hpath : t.resolve? path = some l)
    (hother : t.resolve? other = some l) (hfile : t.get? l = some (.file content)) :
    extension? path = extension? other :=
  extension?_congr ((h.fileName?_eq hpath hfile).trans (h.fileName?_eq hother hfile).symm)

end FluentBuilder.FileTree
