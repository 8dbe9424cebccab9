import Mathlib.Data.List.TakeWhile
import FluentBuilder.Proofs.Workspace.RegularTrees
import FluentBuilder.Workspace.ConfigFile

/-!
# Paths from the working directory

A path that is not absolute starts at the working directory.  Joined to the path of that directory
it leads to the same place, and the directories that are made on the way to it are the same.  Only
the empty path is different: alone it leads nowhere.

* `components_join_working`, `components_relative` — the steps of the two paths;
* `resolve?_join_working`, `write?_join_working` — where they lead, and what is written there;
* `ancestors_eq`, `parent?_join_working` — the paths above them;
* `createDirectories_join_working` — the directories made on the way.
-/

namespace FluentBuilder.FilePath

/-! ### Parts between slashes -/

theorem joinSlash_append {xs ys : List (List Char)} (hxs : xs ≠ []) (hys : ys ≠ []) :
    joinSlash (xs ++ ys) = joinSlash xs ++ '/' :: joinSlash ys := by
  induction xs with
  | nil => exact absurd rfl hxs
  | cons part rest ih =>
    cases rest with
    | nil =>
      obtain ⟨y, more, rfl⟩ := List.exists_cons_of_ne_nil hys
      rfl
    | cons next others =>
      show part ++ '/' :: joinSlash (next :: others ++ ys)
        = (part ++ '/' :: joinSlash (next :: others)) ++ '/' :: _
      rw [ih (List.cons_ne_nil next others), List.append_assoc, List.cons_append]

theorem splitSlash_joinSlash {parts : List (List Char)} (hne : parts ≠ [])
    (h : ∀ part ∈ parts, '/' ∉ part) :
    splitSlash (joinSlash parts) = parts := by
  induction parts with
  | nil => exact absurd rfl hne
  | cons part rest ih =>
    obtain ⟨hpart, hrest⟩ := List.forall_mem_cons.1 h
    cases rest with
    | nil => exact splitSlash_of_not_mem hpart
    | cons next others =>
      show splitSlash (part ++ '/' :: joinSlash (next :: others)) = _
      rw [splitSlash_append_slash, splitSlash_of_not_mem hpart,
        ih (List.cons_ne_nil next others) hrest]
      rfl

/-- What is in front of some parts is no longer than all of them. -/
theorem length_joinSlash_append_le (xs ys : List (List Char)) :
    (joinSlash xs).length ≤ (joinSlash (xs ++ ys)).length := by
  by_cases hxs : xs = []
  · subst hxs
    exact Nat.zero_le _
  by_cases hys : ys = []
  · rw [hys, List.append_nil]
  · rw [joinSlash_append hxs hys, List.length_append]
    exact Nat.le_add_right _ _

/-- One more part that is not empty makes a text longer. -/
theorem length_joinSlash_lt_concat (xs : List (List Char)) {part : List Char} (h : part ≠ []) :
    (joinSlash xs).length < (joinSlash (xs ++ [part])).length := by
  have hpart : 0 < part.length := List.length_pos_iff.2 h
  by_cases hxs : xs = []
  · subst hxs
    exact hpart
  · rw [joinSlash_append hxs (List.cons_ne_nil part []), List.length_append, List.length_cons]
    omega

/-! ### Idle parts at the end -/

/-- Parts are those that are left and idle ones behind them; the last one that is left takes a
step. -/
theorem dropIdle_spec (parts : List (List Char)) :
    ∃ idle, parts = dropIdle parts ++ idle ∧ (∀ part ∈ idle, isIdle part = true)
      ∧ ∀ front last, dropIdle parts = front ++ [last] → isIdle last = false := by
  refine ⟨(parts.reverse.takeWhile isIdle).reverse, ?_, fun part hpart => ?_,
    fun front last hlast => ?_⟩
  · unfold dropIdle
    rw [← List.reverse_append, List.takeWhile_append_dropWhile, List.reverse_reverse]
  · exact List.mem_takeWhile_imp (List.mem_reverse.1 hpart)
  · unfold dropIdle at hlast
    rw [List.reverse_eq_iff, List.reverse_append] at hlast
    have hhead := List.head?_dropWhile_not isIdle parts.reverse
    rw [hlast] at hhead
    simpa using hhead

theorem dropIdle_append_of_ne {xs ys : List (List Char)} (h : dropIdle ys ≠ []) :
    dropIdle (xs ++ ys) = xs ++ dropIdle ys := by
  unfold dropIdle at h ⊢
  rw [List.reverse_append, List.dropWhile_append, if_neg, List.reverse_append, List.reverse_reverse]
  intro hempty
  rw [List.isEmpty_iff.1 hempty] at h
  exact h rfl

theorem dropIdle_append_of_eq {xs ys : List (List Char)} (h : dropIdle ys = []) :
    dropIdle (xs ++ ys) = dropIdle xs := by
  unfold dropIdle at h ⊢
  rw [List.reverse_append, List.dropWhile_append,
    if_pos (List.isEmpty_iff.2 (List.reverse_eq_nil_iff.1 h))]

theorem dropIdle_eq_self {parts : List (List Char)} (h : ∀ part ∈ parts, isIdle part = false) :
    dropIdle parts = parts := by
  rcases List.eq_nil_or_concat' parts with rfl | ⟨front, last, rfl⟩
  · rfl
  · unfold dropIdle
    rw [List.reverse_append, List.reverse_singleton, List.singleton_append,
      List.dropWhile_cons_of_neg, List.reverse_cons, List.reverse_reverse]
    rw [h last (List.mem_append_right front (List.mem_singleton_self last))]
    exact Bool.false_ne_true

/-! ### The path above a path -/

/-- The text of a path from its start and its parts. -/
theorem toList_of_anatomy {path : String} {start : Start} {parts : List (List Char)}
    (h : anatomy path = (start, parts)) :
    path.toList = match start with
      | .root => '/' :: joinSlash parts
      | .current => joinSlash (['.'] :: parts)
      | .plain => joinSlash parts := by
  unfold anatomy at h
  split at h
  · next rest hroot =>
    cases h
    rw [hroot, joinSlash_splitSlash]
  · split at h
    · next hsplit =>
      cases h
      rw [← hsplit, joinSlash_splitSlash]
    · cases h
      rw [joinSlash_splitSlash]

/-- What is above a path has fewer characters. -/
theorem length_of_parent? {path up : String} (h : parent? path = some up) :
    up.length < path.length := by
  rw [← String.length_toList, ← String.length_toList]
  obtain ⟨start, parts, hanatomy⟩ : ∃ start parts, anatomy path = (start, parts) := ⟨_, _, rfl⟩
  have htext := toList_of_anatomy hanatomy
  unfold parent? at h
  rw [hanatomy] at h
  dsimp only at h
  obtain ⟨idle, hparts, -, hlast⟩ := dropIdle_spec parts
  rcases List.eq_nil_or_concat' (dropIdle parts) with hnil | ⟨front, last, hsteps⟩
  · rw [hnil] at h
    dsimp only at h
    split at h
    · cases h
      rw [htext]
      cases parts <;> simp [joinSlash]
    · cases h
  · have hne : last ≠ [] := by
      intro hempty
      have hidle := hlast front last hsteps
      rw [hempty] at hidle
      cases hidle
    obtain ⟨more, hfront, -, -⟩ := dropIdle_spec front
    have hshort : (joinSlash (dropIdle front)).length < (joinSlash parts).length := by
      calc (joinSlash (dropIdle front)).length
          ≤ (joinSlash front).length := by
            conv_rhs => rw [hfront]
            exact length_joinSlash_append_le _ _
        _ < (joinSlash (front ++ [last])).length := length_joinSlash_lt_concat front hne
        _ ≤ (joinSlash parts).length := by
            rw [hparts, hsteps]
            exact length_joinSlash_append_le _ _
    split at h
    · next hnil =>
      rw [hnil] at hsteps
      exact absurd hsteps.symm (List.concat_ne_nil _ _)
    · cases h
      rw [hsteps, List.dropLast_concat, String.toList_ofList, htext]
      cases start with
      | root => simpa using hshort
      | plain => exact hshort
      | current =>
        have hne' : parts ≠ [] := by
          intro hempty
          rw [hempty] at hsteps
          exact absurd hsteps.symm (List.concat_ne_nil _ _)
        have hjoin : joinSlash (['.'] :: parts) = ['.', '/'] ++ joinSlash parts :=
          joinSlash_append (List.cons_ne_nil ['.'] []) hne'
        rw [hjoin]
        dsimp only
        split
        · simp
        · simpa using hshort

theorem ancestorsWith_fuel {fuel fuel' : Nat} {path : String} (h : path.length ≤ fuel)
    (h' : path.length ≤ fuel') :
    ancestorsWith fuel path = ancestorsWith fuel' path := by
  induction fuel generalizing fuel' path with
  | zero =>
    cases fuel' with
    | zero => rfl
    | succ fuel' =>
      cases hup : parent? path with
      | none => simp [ancestorsWith, hup]
      | some up =>
        have hless := length_of_parent? hup
        omega
  | succ fuel ih =>
    cases hup : parent? path with
    | none => cases fuel' <;> simp [ancestorsWith, hup]
    | some up =>
      have hless := length_of_parent? hup
      obtain ⟨fuel', rfl⟩ : ∃ n, fuel' = n + 1 := ⟨fuel' - 1, by omega⟩
      have hsame : ancestorsWith fuel up = ancestorsWith fuel' up := ih (by omega) (by omega)
      simp only [ancestorsWith, hup, hsame]

/-- **The paths above a path** are the one above it and those above that. -/
theorem ancestors_eq (path : String) :
    ancestors path = path :: (parent? path).elim [] ancestors := by
  cases hup : parent? path with
  | none =>
    unfold ancestors
    cases path.length <;> simp [ancestorsWith, hup]
  | some up =>
    have hless := length_of_parent? hup
    obtain ⟨n, hn⟩ : ∃ n, path.length = n + 1 := ⟨path.length - 1, by omega⟩
    unfold ancestors
    rw [hn]
    simp only [ancestorsWith, hup, Option.elim_some]
    rw [ancestorsWith_fuel (by omega) (Nat.le_refl _)]

end FluentBuilder.FilePath

namespace FluentBuilder.FileTree

open FilePath

/-! ### The path of the working directory -/

/-- The working directory has a path: its names can stand between slashes. -/
def HasPath (t : FileTree) : Prop :=
  ∀ name ∈ t.working, IsEntryName name

theorem IsRegular.hasPath {t : FileTree} (h : t.IsRegular) : t.HasPath := by
  refine h.names t.working ?_
  unfold get?
  rw [if_pos (List.isPrefixOf_iff_prefix.2 List.prefix_rfl)]
  rfl

variable {t : FileTree}

theorem toList_workingPath (t : FileTree) :
    t.workingPath.toList = '/' :: joinSlash (t.working.map String.toList) := by
  have hjoin : ∀ parts : List (List Char), ['/'].intercalate parts = joinSlash parts := by
    intro parts
    induction parts with
    | nil => rfl
    | cons part rest ih =>
      cases rest with
      | nil => simp [joinSlash]
      | cons next others => simp [joinSlash, List.intercalate_cons_cons, ← ih]
  unfold workingPath
  rw [String.toList_append, String.toList_intercalate, show "/".toList = ['/'] from rfl, hjoin]
  rfl

theorem isIdle_of_working (h : t.HasPath) :
    ∀ part ∈ t.working.map String.toList, isIdle part = false := by
  intro part hpart
  obtain ⟨name, hname, rfl⟩ := List.mem_map.1 hpart
  exact (h name hname).1.not_idle

theorem slash_not_mem_of_working (h : t.HasPath) :
    ∀ part ∈ t.working.map String.toList, '/' ∉ part := by
  intro part hpart
  obtain ⟨name, hname, rfl⟩ := List.mem_map.1 hpart
  exact (h name hname).1.no_slash

theorem join_of_isAbsolute {base path : String} (h : isAbsolute path = true) :
    join base path = path := by
  unfold join
  rw [h, Bool.true_or, if_pos rfl]

/-- A path that is not absolute, joined to the path of the working directory, adds its parts. -/
theorem toList_join_working (h : t.HasPath) {path : String} (hpath : isAbsolute path = false) :
    (join t.workingPath path).toList
      = '/' :: joinSlash (t.working.map String.toList ++ splitSlash path.toList) := by
  have hw := toList_workingPath t
  have hnonempty : t.workingPath.isEmpty = false := by
    cases hempty : t.workingPath.isEmpty with
    | false => rfl
    | true =>
      rw [String.isEmpty_iff.1 hempty] at hw
      cases hw
  unfold join
  rw [hpath, hnonempty, Bool.or_false, if_neg Bool.false_ne_true]
  rcases List.eq_nil_or_concat' t.working with hnil | ⟨front, last, hlast⟩
  · rw [hnil] at hw ⊢
    rw [if_pos (by rw [hw]; rfl), String.toList_append, hw, List.map_nil, List.nil_append,
      joinSlash_splitSlash]
    rfl
  · have hname :=
      h last (by rw [hlast]; exact List.mem_append_right front (List.mem_singleton_self last))
    have hne : t.working.map String.toList ≠ [] := by
      rw [hlast, List.map_append]
      exact List.concat_ne_nil _ _
    have hend : (t.workingPath.toList.getLast? == some '/') = false := by
      have hchars : last.toList ≠ [] := by
        intro hempty
        have hidle := hname.1.not_idle
        rw [hempty] at hidle
        cases hidle
      obtain ⟨front', hfront'⟩ : ∃ front', t.workingPath.toList = front' ++ last.toList := by
        rw [hw, hlast, List.map_append, List.map_singleton]
        by_cases hfront : front.map String.toList = []
        · rw [hfront]
          exact ⟨['/'], rfl⟩
        · rw [joinSlash_append hfront (List.cons_ne_nil _ _)]
          exact ⟨'/' :: joinSlash (front.map String.toList) ++ ['/'], by simp [joinSlash]⟩
      rw [hfront', List.getLast?_append_of_ne_nil _ hchars, beq_eq_false_iff_ne]
      exact fun hslash => hname.1.no_slash (List.mem_of_getLast? hslash)
    rw [hend, if_neg Bool.false_ne_true, String.toList_append, String.toList_append, hw,
      joinSlash_append hne (splitSlash_ne_nil _), joinSlash_splitSlash]
    show '/' :: (joinSlash _ ++ ['/'] ++ path.toList) = _
    rw [List.append_assoc]
    rfl

theorem anatomy_join_working (h : t.HasPath) {path : String} (hpath : isAbsolute path = false) :
    anatomy (join t.workingPath path)
      = (.root, t.working.map String.toList ++ splitSlash path.toList) := by
  rw [anatomy_of_root (toList_join_working h hpath), splitSlash_joinSlash]
  · exact List.append_ne_nil_of_right_ne_nil _ (splitSlash_ne_nil _)
  · intro part hpart
    rcases List.mem_append.1 hpart with hpart | hpart
    · exact slash_not_mem_of_working h part hpart
    · exact slash_not_mem_of_mem_splitSlash hpart

theorem partSteps_working (h : t.HasPath) :
    partSteps (t.working.map String.toList) = t.working.map .name := by
  unfold partSteps
  rw [List.filter_eq_self.2 fun part
    hpart => by rw [isIdle_of_working h part hpart]; rfl, List.map_map]
  exact List.map_congr_left fun name hname => (h name hname).1.stepOf

/-- **The steps of the joined path**: from the root to the working directory, and those of the parts
of the path. -/
theorem components_join_working (h : t.HasPath) {path : String} (hpath : isAbsolute path = false) :
    components (join t.workingPath path)
      = .root :: (t.working.map .name ++ partSteps (splitSlash path.toList)) := by
  rw [components_of_anatomy (anatomy_join_working h hpath), partSteps_append, partSteps_working h]
  rfl

/-- The steps of a path that is not absolute; a point in front of everything is a step of its
own. -/
theorem components_relative {path : String} (hpath : isAbsolute path = false) :
    components path = partSteps (splitSlash path.toList)
      ∨ components path = .current :: partSteps (splitSlash path.toList) := by
  have hroot : path.toList.head? ≠ some '/' := by
    intro hhead
    unfold isAbsolute at hpath
    rw [hhead] at hpath
    cases hpath
  obtain ⟨part, parts, hsplit⟩ := List.exists_cons_of_ne_nil (splitSlash_ne_nil path.toList)
  have hanatomy := anatomy_of_part hroot hsplit
  by_cases hdot : part = ['.']
  · subst hdot
    rw [if_pos rfl] at hanatomy
    rw [components_of_anatomy hanatomy, hsplit]
    exact .inr rfl
  · rw [if_neg hdot] at hanatomy
    rw [components_of_anatomy hanatomy, hsplit]
    exact .inl rfl

/-! ### Where the two paths lead -/

theorem isDirectoryAt_above {l : Location} (h : l <+: t.working) : t.isDirectoryAt l = true := by
  rw [isDirectoryAt_iff]
  unfold get?
  rw [if_pos (List.isPrefixOf_iff_prefix.2 h)]

/-- The names of the working directory lead there from above. -/
theorem follow?_names (h : t.HasPath) {front rest : Location} (hsplit : front ++ rest = t.working)
    (steps : List Component) :
    t.follow? front (rest.map .name ++ steps) = t.follow? t.working steps := by
  induction rest generalizing front with
  | nil =>
    rw [List.append_nil] at hsplit
    rw [hsplit]
    rfl
  | cons name rest ih =>
    have hname := h name (by rw [← hsplit]; simp)
    show (if t.isDirectoryAt front && isFileName name then _ else none) = _
    rw [isDirectoryAt_above ⟨name :: rest, hsplit⟩, hname.2, Bool.and_self, if_pos rfl]
    exact ih (by rw [← hsplit, List.append_assoc]; rfl)

theorem follow?_root (h : t.HasPath) (steps : List Component) (l : Location) :
    t.follow? l (.root :: (t.working.map .name ++ steps)) = t.follow? t.working steps :=
  follow?_names h (List.nil_append t.working) steps

theorem follow?_current (t : FileTree) (steps : List Component) :
    t.follow? t.working (.current :: steps) = t.follow? t.working steps := by
  show (if t.isDirectoryAt t.working then _ else none) = _
  rw [isDirectoryAt_above List.prefix_rfl, if_pos rfl]

theorem follow?_relative {path : String} (hpath : isAbsolute path = false) :
    t.follow? t.working (components path)
      = t.follow? t.working (partSteps (splitSlash path.toList)) := by
  rcases components_relative hpath with hsteps | hsteps
  · rw [hsteps]
  · rw [hsteps, follow?_current]

theorem splitSlash_join_working (h : t.HasPath) {path : String} (hpath : isAbsolute path = false) :
    splitSlash (join t.workingPath path).toList
      = ([] :: t.working.map String.toList) ++ splitSlash path.toList := by
  have hparts := (Prod.mk.inj (anatomy_join_working h hpath)).2
  have htext := toList_join_working h hpath
  rw [htext]
  show [] :: splitSlash _ = _
  rw [splitSlash_joinSlash]
  · rfl
  · exact List.append_ne_nil_of_right_ne_nil _ (splitSlash_ne_nil _)
  · intro part hpart
    rcases List.mem_append.1 hpart with hpart | hpart
    · exact slash_not_mem_of_working h part hpart
    · exact slash_not_mem_of_mem_splitSlash hpart

theorem endsInDirectory_join_working (h : t.HasPath) {path : String}
    (hpath : isAbsolute path = false) :
    endsInDirectory (join t.workingPath path) = endsInDirectory path := by
  unfold endsInDirectory
  rw [splitSlash_join_working h hpath, List.getLast?_append_of_ne_nil _ (splitSlash_ne_nil _)]

theorem isEmpty_join_working (h : t.HasPath) (path : String) :
    (join t.workingPath path).isEmpty = false := by
  cases hempty : (join t.workingPath path).isEmpty with
  | false => rfl
  | true =>
    have hnil := String.isEmpty_iff.1 hempty
    cases habs : isAbsolute path with
    | true =>
      rw [join_of_isAbsolute habs] at hnil
      rw [hnil] at habs
      cases habs
    | false =>
      have htext := toList_join_working h habs
      rw [hnil] at htext
      cases htext

/-- **The joined path leads where the path leads.**  Only the empty path is left out, which leads
nowhere. -/
theorem resolve?_join_working (h : t.HasPath) {path : String} (hne : path ≠ "") :
    t.resolve? (join t.workingPath path) = t.resolve? path := by
  cases habs : isAbsolute path with
  | true => rw [join_of_isAbsolute habs]
  | false =>
    have hempty : path.isEmpty = false := by
      rw [← Bool.not_eq_true, String.isEmpty_iff]
      exact hne
    unfold resolve?
    rw [isEmpty_join_working h, hempty, components_join_working h habs, follow?_root h,
      follow?_relative habs, endsInDirectory_join_working h habs]

/-- A path without steps leads to the working directory. -/
theorem resolve?_of_no_steps {path : String} (hpath : isAbsolute path = false) (hne : path ≠ "")
    (hsteps : partSteps (splitSlash path.toList) = []) : t.resolve? path = some t.working := by
  have hdir : t.isDirectoryAt t.working = true := isDirectoryAt_above List.prefix_rfl
  refine resolve?_eq_some_iff.2 ⟨?_, ?_, fun _ => hdir⟩
  · rw [← Bool.not_eq_true, String.isEmpty_iff]
    exact hne
  · rw [follow?_relative hpath, hsteps]
    simp [follow?, isDirectoryAt_iff.1 hdir]

/-- A path that takes a step has the same target when it is joined. -/
theorem target?_join_working (h : t.HasPath) {path : String} (hpath : isAbsolute path = false)
    (hsteps : partSteps (splitSlash path.toList) ≠ []) :
    t.target? (join t.workingPath path) = t.target? path := by
  obtain ⟨front, last, hlast⟩ := (List.eq_nil_or_concat' _).resolve_left hsteps
  have hjoined : components (join t.workingPath path) = (.root :: (t.working.map .name ++ front))
      ++ [last] := by
    rw [components_join_working h hpath, hlast]
    simp
  have hfront : ∃ start, components path = start ++ [last]
      ∧ t.follow? t.working start = t.follow? t.working front := by
    rcases components_relative hpath with hpath | hpath
    · exact ⟨front, hpath.trans hlast, rfl⟩
    · exact ⟨.current :: front, by rw [hpath, hlast]; rfl, follow?_current t front⟩
  obtain ⟨start, hstart, hfollow⟩ := hfront
  unfold target?
  dsimp only
  rw [hjoined, hstart, List.getLast?_concat, List.getLast?_concat, List.dropLast_concat,
    List.dropLast_concat, follow?_root h, hfollow]

/-- A path that does not end in a directory takes a step. -/
theorem partSteps_ne_nil_of_endsInDirectory {path : String} (h : endsInDirectory path = false) :
    partSteps (splitSlash path.toList) ≠ [] := by
  obtain ⟨front, last, hlast⟩ :=
    (List.eq_nil_or_concat' _).resolve_left (splitSlash_ne_nil path.toList)
  unfold endsInDirectory at h
  rw [hlast, List.getLast?_concat] at h
  have hidle : isIdle last = false := h
  rw [hlast, partSteps_append]
  refine List.append_ne_nil_of_right_ne_nil _ ?_
  unfold partSteps
  rw [List.filter_cons_of_pos (by rw [hidle]; rfl)]
  exact List.cons_ne_nil _ _

/-- **A file is written to the same place.** -/
theorem write?_join_working (h : t.HasPath) (path : String) (content : Content) :
    t.write? (join t.workingPath path) content = t.write? path content := by
  cases habs : isAbsolute path with
  | true => rw [join_of_isAbsolute habs]
  | false =>
    unfold write?
    rw [endsInDirectory_join_working h habs]
    cases hend : endsInDirectory path with
    | true => rfl
    | false => rw [target?_join_working h habs (partSteps_ne_nil_of_endsInDirectory hend)]

/-! ### Directories made on the way -/

theorem isMissing_names (h : t.HasPath) {front rest : Location} (hsplit : front ++ rest = t.working)
    (steps : List Component) :
    t.isMissing front (rest.map .name ++ steps) = t.isMissing t.working steps := by
  induction rest generalizing front with
  | nil =>
    rw [List.append_nil] at hsplit
    rw [hsplit]
    rfl
  | cons name rest ih =>
    have hname := h name (by rw [← hsplit]; simp)
    have hdir := isDirectoryAt_iff.1 (isDirectoryAt_above (t := t) ⟨name :: rest, hsplit⟩)
    have hnext : t.isMissing (front ++ [name]) (rest.map .name ++ steps)
        = t.isMissing t.working steps :=
      ih (by rw [← hsplit, List.append_assoc]; rfl)
    rw [List.map_cons, List.cons_append]
    simp only [isMissing, hdir, hname.2, Bool.true_and]
    exact hnext

theorem isMissing_join_working (h : t.HasPath) {path : String} (hpath : isAbsolute path = false) :
    t.isMissing t.working (components (join t.workingPath path))
      = t.isMissing t.working (components path) := by
  have hdir := isDirectoryAt_iff.1 (isDirectoryAt_above (t := t) List.prefix_rfl)
  have hjoined : t.isMissing t.working (components (join t.workingPath path))
      = t.isMissing t.working (partSteps (splitSlash path.toList)) := by
    rw [components_join_working h hpath]
    simp only [isMissing, hdir]
    exact isMissing_names h (List.nil_append t.working) _
  rw [hjoined]
  rcases components_relative hpath with hsteps | hsteps
  · rw [hsteps]
  · rw [hsteps]
    simp only [isMissing, hdir]

theorem head_splitSlash_ne_nil {path : String} (hpath : isAbsolute path = false) (hne : path ≠ "") :
    ∃ part parts, splitSlash path.toList = part :: parts ∧ part ≠ [] := by
  cases htext : path.toList with
  | nil => exact absurd (String.toList_eq_nil_iff.1 htext) hne
  | cons c rest =>
    have hc : (c == '/') = false := by
      unfold isAbsolute at hpath
      rw [htext] at hpath
      exact hpath
    simp only [splitSlash, hc, Bool.false_eq_true, if_false]
    cases splitSlash rest with
    | nil => exact ⟨[c], [], rfl, List.cons_ne_nil _ _⟩
    | cons part parts => exact ⟨c :: part, parts, rfl, List.cons_ne_nil _ _⟩

theorem lastPart?_join_working (h : t.HasPath) {path : String} (hpath : isAbsolute path = false)
    (hne : path ≠ "") :
    lastPart? (join t.workingPath path) = lastPart? path := by
  obtain ⟨part, parts, hsplit, hpart⟩ := head_splitSlash_ne_nil hpath hne
  have hkept : (List.dropWhile List.isEmpty (part :: parts).reverse).isEmpty = false := by
    rw [List.isEmpty_eq_false_iff]
    intro hnil
    have hall := List.dropWhile_eq_nil_iff.1 hnil part (by simp)
    exact hpart (List.isEmpty_iff.1 hall)
  unfold lastPart?
  rw [splitSlash_join_working h hpath, hsplit, List.reverse_append, List.dropWhile_append, hkept,
    if_neg Bool.false_ne_true, List.head?_append_of_ne_nil _ (List.isEmpty_eq_false_iff.1 hkept)]

/-- **A directory is created in the same place**, or fails to be in the same way. -/
theorem createDirectory_join_working (h : t.HasPath) {path : String} (hne : path ≠ "") :
    t.createDirectory (join t.workingPath path) = t.createDirectory path := by
  cases habs : isAbsolute path with
  | true => rw [join_of_isAbsolute habs]
  | false =>
    have hempty : path.isEmpty = false := by
      rw [← Bool.not_eq_true, String.isEmpty_iff]
      exact hne
    unfold createDirectory
    rw [resolve?_join_working h hne, lastPart?_join_working h habs hne,
      isMissing_join_working h habs, isEmpty_join_working h, hempty]
    cases hresolve : t.resolve? path with
    | some l => rfl
    | none =>
      have hsteps : partSteps (splitSlash path.toList) ≠ [] := by
        intro hnone
        rw [resolve?_of_no_steps habs hne hnone] at hresolve
        cases hresolve
      rw [target?_join_working h habs hsteps]

theorem dropIdle_eq_nil_iff {parts : List (List Char)} :
    dropIdle parts = [] ↔ ∀ part ∈ parts, isIdle part = true := by
  unfold dropIdle
  rw [List.reverse_eq_nil_iff, List.dropWhile_eq_nil_iff]
  simp

/-- Parts that are all idle take no steps. -/
theorem partSteps_eq_nil_of_dropIdle {parts : List (List Char)} (h : dropIdle parts = []) :
    partSteps parts = [] := by
  unfold partSteps
  rw [List.filter_eq_nil_iff.2 fun part
    hpart => by rw [dropIdle_eq_nil_iff.1 h part hpart]; exact Bool.false_ne_true]
  rfl

theorem workingPath_eq_ofList (t : FileTree) :
    t.workingPath = String.ofList ('/' :: joinSlash (t.working.map String.toList)) := by
  rw [← toList_workingPath, String.ofList_toList]

/-- The parts above a path: those in front of its last step, without the idle ones at their end. -/
def partsAbove (path : String) : List (List Char) :=
  dropIdle (dropIdle (splitSlash path.toList)).dropLast

theorem partsAbove_isPrefixOf (path : String) : partsAbove path <+: splitSlash path.toList := by
  have hdrop : ∀ parts : List (List Char), dropIdle parts <+: parts := by
    intro parts
    obtain ⟨idle, hparts, -, -⟩ := dropIdle_spec parts
    exact ⟨idle, hparts.symm⟩
  exact (hdrop _).trans ((List.dropLast_prefix _).trans (hdrop _))

/-- What is above a path that is not absolute: nothing but the place where it starts, or the parts
above it. -/
theorem parent?_relative {path : String} (hpath : isAbsolute path = false)
    (hkept : dropIdle (splitSlash path.toList) ≠ []) :
    (partsAbove path = [] → parent? path = some "" ∨ parent? path = some ".")
      ∧ (partsAbove path ≠ [] →
        parent? path = some (String.ofList (joinSlash (partsAbove path)))) := by
  have hroot : path.toList.head? ≠ some '/' := by
    intro hhead
    unfold isAbsolute at hpath
    rw [hhead] at hpath
    cases hpath
  obtain ⟨first, others, hsplit⟩ := List.exists_cons_of_ne_nil (splitSlash_ne_nil path.toList)
  have hanatomy := anatomy_of_part hroot hsplit
  unfold partsAbove parent?
  rw [hsplit] at hkept ⊢
  by_cases hdot : first = ['.']
  · rw [if_pos hdot] at hanatomy
    rw [hanatomy, hdot]
    have hothers : dropIdle others ≠ [] := by
      intro hnil
      refine hkept (dropIdle_eq_nil_iff.2 fun part hpart => ?_)
      rcases List.mem_cons.1 hpart with rfl | hpart
      · rw [hdot]
        rfl
      · exact dropIdle_eq_nil_iff.1 hnil part hpart
    have hsame : dropIdle (['.'] :: others) = ['.'] :: dropIdle others := by
      rw [← List.singleton_append, dropIdle_append_of_ne hothers]
      rfl
    obtain ⟨step, steps, hsteps⟩ := List.exists_cons_of_ne_nil hothers
    dsimp only
    rw [hsame, hsteps]
    dsimp only
    rw [List.dropLast_cons_of_ne_nil (List.cons_ne_nil step steps)]
    cases habove : dropIdle (step :: steps).dropLast with
    | nil =>
      have hnone : dropIdle (['.'] :: (step :: steps).dropLast) = [] := by
        rw [← List.singleton_append, dropIdle_append_of_eq habove]
        rfl
      exact ⟨fun _ => .inr rfl, fun hne => absurd hnone hne⟩
    | cons part parts =>
      have hmore : dropIdle (['.'] :: (step :: steps).dropLast) = ['.'] :: part :: parts := by
        rw [← List.singleton_append,
          dropIdle_append_of_ne (by rw [habove]; exact List.cons_ne_nil _ _), habove]
        rfl
      rw [hmore]
      exact ⟨nofun, fun _ => rfl⟩
  · rw [if_neg hdot] at hanatomy
    rw [hanatomy]
    dsimp only
    split
    · next hnil => exact absurd hnil hkept
    · refine ⟨fun hnil => .inl ?_, fun _ => rfl⟩
      rw [hnil]
      rfl

theorem parent?_join_eq (h : t.HasPath) {path : String} (hpath : isAbsolute path = false)
    (hkept : dropIdle (splitSlash path.toList) ≠ []) :
    parent? (join t.workingPath path)
      = some (String.ofList ('/' :: joinSlash (dropIdle (t.working.map String.toList
          ++ (dropIdle (splitSlash path.toList)).dropLast)))) := by
  unfold parent?
  rw [anatomy_join_working h hpath]
  dsimp only
  rw [dropIdle_append_of_ne hkept]
  split
  · next hnil => exact absurd (List.append_eq_nil_iff.1 hnil).2 hkept
  · rw [List.dropLast_append_of_ne_nil hkept]

/-- **What is above the joined path** is what is above the path, joined, or the working directory
itself. -/
theorem parent?_join_working (h : t.HasPath) {path : String} (hpath : isAbsolute path = false)
    (hne : path ≠ "") (hkept : dropIdle (splitSlash path.toList) ≠ []) :
    (∃ up, up ≠ "" ∧ isAbsolute up = false ∧ parent? path = some up
        ∧ parent? (join t.workingPath path) = some (join t.workingPath up))
      ∨ ∃ up, (up = "" ∨ up = ".") ∧ parent? path = some up
        ∧ parent? (join t.workingPath path) = some t.workingPath := by
  obtain ⟨hnothing, hparts⟩ := parent?_relative hpath hkept
  rw [parent?_join_eq h hpath hkept]
  by_cases habove : partsAbove path = []
  · right
    rw [dropIdle_append_of_eq habove, dropIdle_eq_self (isIdle_of_working h),
      ← workingPath_eq_ofList]
    rcases hnothing habove with hup | hup
    · exact ⟨"", .inl rfl, hup, rfl⟩
    · exact ⟨".", .inr rfl, hup, rfl⟩
  · left
    obtain ⟨first, others, hsplit, hfirst⟩ := head_splitSlash_ne_nil hpath hne
    obtain ⟨part, parts, hup⟩ := List.exists_cons_of_ne_nil habove
    have habove' := partsAbove_isPrefixOf path
    have hslash : ∀ piece ∈ partsAbove path, '/' ∉ piece := fun piece hpiece =>
      slash_not_mem_of_mem_splitSlash (habove'.subset hpiece)
    have hpart : part = first := by
      rw [hup, hsplit] at habove'
      exact (List.cons_prefix_cons.1 habove').1
    have htext : (String.ofList (joinSlash (partsAbove path))).toList
        = joinSlash (partsAbove path) :=
      String.toList_ofList
    obtain ⟨c, rest, hc⟩ := List.exists_cons_of_ne_nil hfirst
    have hhead : ∃ more, joinSlash (partsAbove path) = c :: more := by
      rw [hup, hpart, hc]
      cases parts <;> exact ⟨_, rfl⟩
    obtain ⟨more, hmore⟩ := hhead
    have hrelative : isAbsolute (String.ofList (joinSlash (partsAbove path))) = false := by
      unfold isAbsolute
      rw [htext, hmore]
      have hnot : c ≠ '/' := by
        rintro rfl
        refine hslash part (by rw [hup]; exact List.mem_cons_self) ?_
        rw [hpart, hc]
        exact List.mem_cons_self
      simpa using hnot
    refine ⟨_, ?_, hrelative, hparts habove, ?_⟩
    · intro hempty
      rw [hempty] at htext
      rw [← htext] at hmore
      cases hmore
    · have hjoined : (join t.workingPath (String.ofList (joinSlash (partsAbove path)))).toList
          = '/' :: joinSlash (t.working.map String.toList ++ partsAbove path) := by
        rw [toList_join_working h hrelative, htext, splitSlash_joinSlash habove hslash]
      have hsteps : dropIdle
            (t.working.map String.toList ++ (dropIdle (splitSlash path.toList)).dropLast)
          = t.working.map String.toList ++ partsAbove path := dropIdle_append_of_ne habove
      rw [hsteps, ← hjoined, String.ofList_toList]

/-- Nothing has to be made on the way to the working directory. -/
theorem createAlong_of_working {path : String} (above : List String)
    (h : t.resolve? path = some t.working) :
    t.createAlong (path :: above) = (t, true) := by
  unfold createAlong createDirectory isDirectory
  rw [h]
  simp [isDirectoryAt_above (t := t) List.prefix_rfl]

/-- The path of the working directory leads there. -/
theorem resolve?_workingPath (h : t.HasPath) : t.resolve? t.workingPath = some t.working := by
  have hdir : t.isDirectoryAt t.working = true := isDirectoryAt_above List.prefix_rfl
  have htext := toList_workingPath t
  refine resolve?_eq_some_iff.2 ⟨?_, ?_, fun _ => hdir⟩
  · cases hempty : t.workingPath.isEmpty with
    | false => rfl
    | true =>
      rw [String.isEmpty_iff.1 hempty] at htext
      cases htext
  · have hsteps : components t.workingPath = .root :: (t.working.map .name ++ []) := by
      rw [components_of_anatomy (anatomy_of_root htext), List.append_nil, ← partSteps_working h]
      by_cases hnil : t.working.map String.toList = []
      · rw [hnil]
        rfl
      · rw [splitSlash_joinSlash hnil (slash_not_mem_of_working h)]
        rfl
    rw [hsteps, follow?_root h]
    simp [follow?, isDirectoryAt_iff.1 hdir]

theorem resolve?_current (t : FileTree) : t.resolve? "." = some t.working :=
  resolve?_of_no_steps (by decide) (by decide) (by decide)

/-- The working directory joined to nothing is the working directory. -/
theorem resolve?_join_empty (h : t.HasPath) :
    t.resolve? (join t.workingPath "") = some t.working := by
  have hdir : t.isDirectoryAt t.working = true := isDirectoryAt_above List.prefix_rfl
  refine resolve?_eq_some_iff.2 ⟨isEmpty_join_working h "", ?_, fun _ => hdir⟩
  rw [components_join_working h (by decide), follow?_root h]
  simp [splitSlash, partSteps, isIdle, follow?, isDirectoryAt_iff.1 hdir]

/-- What is true of the joined path in a tree holds in every tree with the same working
directory. -/
theorem directory_join_of_working {u : FileTree} (h : t.HasPath) (hu : u.working = t.working)
    {path : String} (hne : path ≠ "") :
    u.isDirectory (join t.workingPath path) = u.isDirectory path
      ∧ u.createDirectory (join t.workingPath path) = u.createDirectory path := by
  have hu' : u.HasPath := by
    unfold HasPath
    rw [hu]
    exact h
  have hsame : t.workingPath = u.workingPath := by
    unfold workingPath
    rw [hu]
  unfold isDirectory
  rw [hsame, resolve?_join_working hu' hne, createDirectory_join_working hu' hne]
  exact ⟨rfl, rfl⟩

/-- The induction goes up the path, which is only done while directories are missing. -/
theorem createAlong_join_working (h : t.HasPath) {path : String} (hpath : isAbsolute path = false)
    (hne : path ≠ "") :
    t.createAlong (ancestors (join t.workingPath path)) = t.createAlong (ancestors path) := by
  induction hlength : path.length using Nat.strong_induction_on generalizing path with
  | _ length ih =>
    by_cases hkept : dropIdle (splitSlash path.toList) = []
    · have hresolve := resolve?_of_no_steps hpath hne (partSteps_eq_nil_of_dropIdle hkept) (t := t)
      rw [ancestors_eq, ancestors_eq path, createAlong_of_working _ hresolve,
        createAlong_of_working]
      rw [resolve?_join_working h hne, hresolve]
    · have habove : t.createAlong ((parent? (join t.workingPath path)).elim [] ancestors)
          = t.createAlong ((parent? path).elim [] ancestors) := by
        rcases parent?_join_working h hpath hne hkept with ⟨up, hup, hrelative, hparent, hjoined⟩
          | ⟨up, hup, hparent, hjoined⟩
        · rw [hparent, hjoined]
          exact ih up.length (hlength ▸ length_of_parent? hparent) hrelative hup rfl
        · rw [hparent, hjoined, Option.elim_some, Option.elim_some, ancestors_eq t.workingPath,
            ancestors_eq up, createAlong_of_working _ (resolve?_workingPath h)]
          rcases hup with rfl | rfl
          · rfl
          · rw [createAlong_of_working _ (resolve?_current t)]
      have hempty : path.isEmpty = false := by
        rw [← Bool.not_eq_true, String.isEmpty_iff]
        exact hne
      rw [ancestors_eq, ancestors_eq path]
      unfold createAlong
      rw [isEmpty_join_working h, hempty, createDirectory_join_working h hne, habove]
      rw [(directory_join_of_working h rfl hne).1]
      have hgrows := (createAlong_spec ((parent? path).elim [] ancestors) t).grows.working
      cases hmade : t.createAlong ((parent? path).elim [] ancestors) with
      | mk u ok =>
        rw [hmade] at hgrows
        obtain ⟨hdir, hcreate⟩ := directory_join_of_working h hgrows hne
        cases ok <;> simp only [hdir, hcreate]

/-- **The same directories are made.** -/
theorem createDirectories_join_working (h : t.HasPath) (path : String) :
    t.createDirectories (join t.workingPath path) = t.createDirectories path := by
  unfold createDirectories
  cases habs : isAbsolute path with
  | true => rw [join_of_isAbsolute habs]
  | false =>
    by_cases hne : path = ""
    · subst hne
      rw [ancestors_eq, createAlong_of_working _ (resolve?_join_empty h)]
      rfl
    · exact createAlong_join_working h habs hne

end FluentBuilder.FileTree
