import FluentBuilder.Workspace.FileTree

/-!
# The steps of a path into a directory

A file name joined to the path of a directory adds exactly one step, the name, to the steps of the
directory.

* `splitSlash_append_slash`, `splitSlash_of_not_mem` — cutting a text at its slashes, piece by
  piece;
* `IsPlainName` — a name that is one step: it has no slash and is neither empty nor one of the two
  dot names;
* `components_join` — the steps of a joined path;
* `join_injective_name` — different plain names give different paths;
* `isPlainName_of_mem_components` — each name among the steps of a path is plain.
-/

namespace FluentBuilder.FilePath

/-! ### Cutting at slashes -/

theorem splitSlash_of_not_mem {cs : List Char} (h : '/' ∉ cs) : splitSlash cs = [cs] := by
  induction cs with
  | nil => rfl
  | cons c rest ih =>
    have hc : (c == '/') = false := by
      rw [beq_eq_false_iff_ne]
      exact fun hc => h (hc ▸ List.mem_cons_self)
    have hrest : '/' ∉ rest := fun hmem => h (List.mem_cons_of_mem c hmem)
    simp only [splitSlash, hc, Bool.false_eq_true, if_false]
    rw [ih hrest]

theorem splitSlash_append_slash (xs ys : List Char) :
    splitSlash (xs ++ '/' :: ys) = splitSlash xs ++ splitSlash ys := by
  induction xs with
  | nil => rfl
  | cons c rest ih =>
    show splitSlash (c :: (rest ++ '/' :: ys)) = splitSlash (c :: rest) ++ splitSlash ys
    simp only [splitSlash]
    rw [ih]
    cases hc : c == '/' with
    | true => rfl
    | false =>
      cases hs : splitSlash rest with
      | nil => exact absurd hs (splitSlash_ne_nil rest)
      | cons part parts => rfl

/-! ### Names that are one step -/

/-- A name that is one step of a path. -/
structure IsPlainName (name : String) : Prop where
  no_slash : '/' ∉ name.toList
  not_idle : isIdle name.toList = false
  not_parent : name.toList ≠ ['.', '.']

theorem IsPlainName.stepOf {name : String} (h : IsPlainName name) :
    stepOf name.toList = .name name := by
  unfold FilePath.stepOf
  rw [if_neg (by simpa using h.not_parent), String.ofList_toList]

theorem IsPlainName.isAbsolute {name : String} (h : IsPlainName name) :
    isAbsolute name = false := by
  unfold FilePath.isAbsolute
  rw [beq_eq_false_iff_ne]
  intro hhead
  exact h.no_slash (List.mem_of_mem_head? hhead)

/-! ### The steps of a joined path -/

/-- The steps that the start of a path takes. -/
def Start.steps : Start → List Component
  | .root => [.root]
  | .current => [.current]
  | .plain => []

/-- The steps that parts of a path take. -/
def partSteps (parts : List (List Char)) : List Component :=
  (parts.filter fun p => !isIdle p).map stepOf

theorem components_of_anatomy {path : String} {start : Start} {parts : List (List Char)}
    (h : anatomy path = (start, parts)) : components path = start.steps ++ partSteps parts := by
  unfold components
  rw [h]
  cases start <;> rfl

theorem partSteps_append (xs ys : List (List Char)) :
    partSteps (xs ++ ys) = partSteps xs ++ partSteps ys := by
  unfold partSteps
  rw [List.filter_append, List.map_append]

theorem partSteps_name {name : String} (h : IsPlainName name) :
    partSteps [name.toList] = [.name name] := by
  unfold partSteps
  rw [List.filter_cons_of_pos (by rw [h.not_idle]; rfl)]
  show [FilePath.stepOf name.toList] = [.name name]
  rw [h.stepOf]

theorem anatomy_of_root {path : String} {rest : List Char} (h : path.toList = '/' :: rest) :
    anatomy path = (.root, splitSlash rest) := by
  unfold anatomy
  rw [h]
  rfl

/-- A path that does not start at the root starts where its first part says. -/
theorem anatomy_of_part {path : String} {part : List Char} {parts : List (List Char)}
    (hroot : path.toList.head? ≠ some '/') (hsplit : splitSlash path.toList = part :: parts) :
    anatomy path = if part = ['.'] then (.current, parts) else (.plain, part :: parts) := by
  unfold anatomy
  split
  · next rest h => exact absurd (by rw [h]; rfl) hroot
  · rw [hsplit]
    by_cases hdot : part = ['.']
    · subst hdot
      rfl
    · rw [if_neg hdot]
      split
      · next more h =>
        injection h with hpart _
        exact absurd hpart hdot
      · rfl

/-- The steps of a path that ends in a plain name are those of what stands in front of it, and the
name. -/
theorem components_of_append_slash {base path name : String} {front : List Char}
    (h : IsPlainName name) (hpath : path.toList = front ++ '/' :: name.toList)
    (hbase : base.toList = front ++ ['/'] ∨ front ≠ [] ∧ base.toList = front) :
    components path = components base ++ [.name name] := by
  -- a slash at the end of the base adds an empty part, which takes no step
  obtain ⟨slash, tail, hslash, hidle, hempty, hcut⟩ : ∃ (slash : List Char)
    (tail : List (List Char)),
      base.toList = front ++ slash ∧ partSteps tail = [] ∧ (front = [] → slash = ['/'])
        ∧ ∀ xs, splitSlash (xs ++ slash) = splitSlash xs ++ tail := by
    rcases hbase with hslash | ⟨hne, hsame⟩
    · exact ⟨['/'], [[]], hslash, rfl, fun _ => rfl, fun xs => splitSlash_append_slash xs []⟩
    · refine ⟨[],
        [], by rw [hsame, List.append_nil], rfl, fun hnil => absurd hnil hne, fun xs => ?_⟩
      rw [List.append_nil, List.append_nil]
  have hname : splitSlash name.toList = [name.toList] := splitSlash_of_not_mem h.no_slash
  have hsteps : ∀ parts : List (List Char),
      partSteps (parts ++ [name.toList]) = partSteps (parts ++ tail) ++ [.name name] := by
    intro parts
    rw [partSteps_append, partSteps_append, partSteps_name h, hidle, List.append_nil]
  cases front with
  | nil =>
    rw [hempty rfl] at hslash
    rw [components_of_anatomy (anatomy_of_root hpath),
      components_of_anatomy (anatomy_of_root hslash), hname, partSteps_name h]
    rfl
  | cons c rest =>
    by_cases hroot : c = '/'
    · subst hroot
      have hbaseParts : anatomy base = (.root, splitSlash (rest ++ slash)) := anatomy_of_root hslash
      have hpathParts : anatomy path = (.root, splitSlash (rest ++ '/' :: name.toList)) :=
        anatomy_of_root hpath
      rw [hcut] at hbaseParts
      rw [splitSlash_append_slash, hname] at hpathParts
      rw [components_of_anatomy hpathParts, components_of_anatomy hbaseParts, hsteps,
        List.append_assoc]
    · have hhead : ∀ more, (c :: rest ++ more : List Char).head? ≠ some '/' := by
        intro more heq
        exact hroot (Option.some.inj heq)
      obtain ⟨part, parts, hfront⟩ := List.exists_cons_of_ne_nil (splitSlash_ne_nil (c :: rest))
      have hbaseSplit : splitSlash base.toList = part :: (parts ++ tail) := by
        rw [hslash, hcut, hfront]
        rfl
      have hpathSplit : splitSlash path.toList = part :: (parts ++ [name.toList]) := by
        rw [hpath, splitSlash_append_slash, hname, hfront]
        rfl
      have hbaseParts := anatomy_of_part (by rw [hslash]; exact hhead slash) hbaseSplit
      have hpathParts := anatomy_of_part (by rw [hpath]; exact hhead _) hpathSplit
      by_cases hdot : part = ['.']
      · rw [if_pos hdot] at hbaseParts hpathParts
        rw [components_of_anatomy hpathParts, components_of_anatomy hbaseParts, hsteps,
          List.append_assoc]
      · rw [if_neg hdot] at hbaseParts hpathParts
        rw [components_of_anatomy hpathParts, components_of_anatomy hbaseParts, ← List.cons_append,
          hsteps, List.append_assoc]
        rfl

theorem components_of_plainName {name : String} (h : IsPlainName name) :
    components name = [.name name] := by
  have hroot : name.toList.head? ≠ some '/' := fun hhead => h.no_slash (List.mem_of_mem_head? hhead)
  have hanatomy := anatomy_of_part hroot (splitSlash_of_not_mem h.no_slash)
  have hdot : name.toList ≠ ['.'] := by
    intro hdot
    have hidle := h.not_idle
    rw [hdot] at hidle
    exact Bool.noConfusion hidle
  rw [if_neg hdot] at hanatomy
  rw [components_of_anatomy hanatomy, partSteps_name h]
  rfl

/-- How the text of a joined path is made from the text of its base. -/
theorem toList_join_cases (base : String) {name : String} (h : IsPlainName name) :
    (base.toList = [] ∧ (join base name).toList = name.toList)
      ∨ (∃ front, base.toList = front ++ ['/']
        ∧ (join base name).toList = front ++ '/' :: name.toList)
      ∨ (base.toList ≠ [] ∧ (join base name).toList = base.toList ++ '/' :: name.toList) := by
  unfold join
  rw [h.isAbsolute, Bool.false_or]
  cases hempty : base.isEmpty with
  | true => exact .inl ⟨String.toList_eq_nil_iff.2 (String.isEmpty_iff.1 hempty), rfl⟩
  | false =>
    have hbase : base.toList ≠ [] := by
      intro hnil
      rw [String.toList_eq_nil_iff.1 hnil] at hempty
      exact absurd hempty (by decide)
    right
    rw [if_neg Bool.false_ne_true]
    split
    · next hlast =>
      obtain ⟨front, hfront⟩ := List.getLast?_eq_some_iff.1 (beq_iff_eq.1 hlast)
      refine .inl ⟨front, hfront, ?_⟩
      rw [String.toList_append, hfront, List.append_assoc]
      rfl
    · refine .inr ⟨hbase, ?_⟩
      rw [String.toList_append, String.toList_append, List.append_assoc]
      rfl

/-- **A plain name joined to a path is one more step.** -/
theorem components_join {base name : String} (h : IsPlainName name) :
    components (join base name) = components base ++ [.name name] := by
  rcases toList_join_cases base h with ⟨hempty, hjoin⟩ | ⟨front, hfront, hjoin⟩ | ⟨hne, hjoin⟩
  · rw [String.toList_inj.1 hjoin, components_of_plainName h, String.toList_eq_nil_iff.1 hempty]
    rfl
  · exact components_of_append_slash h hjoin (.inl hfront)
  · exact components_of_append_slash h hjoin (.inr ⟨hne, rfl⟩)

/-- Plain names joined to a path one behind the other are as many steps. -/
theorem components_foldl_join {names : List String} (hnames : ∀ name ∈ names, IsPlainName name)
    (path : String) :
    components (names.foldl join path) = components path ++ names.map .name := by
  induction names generalizing path with
  | nil => simp
  | cons name rest ih =>
    obtain ⟨hname, hrest⟩ := List.forall_mem_cons.1 hnames
    rw [List.foldl_cons, ih hrest, components_join hname, List.map_cons, List.append_assoc]
    rfl

/-- The last part of a joined path is the name. -/
theorem getLast?_splitSlash_join {base name : String} (h : IsPlainName name) :
    (splitSlash (join base name).toList).getLast? = some name.toList := by
  have hname : splitSlash name.toList = [name.toList] := splitSlash_of_not_mem h.no_slash
  rcases toList_join_cases base h with ⟨_, hjoin⟩ | ⟨front, _, hjoin⟩ | ⟨_, hjoin⟩
  · rw [hjoin, hname]
    rfl
  · rw [hjoin, splitSlash_append_slash, hname, List.getLast?_append]
    rfl
  · rw [hjoin, splitSlash_append_slash, hname, List.getLast?_append]
    rfl

/-- Different plain names give different paths. -/
theorem join_injective_name {base a b : String} (ha : IsPlainName a) (hb : IsPlainName b)
    (h : join base a = join base b) : a = b := by
  have hlast : (splitSlash (join base a).toList).getLast? = some a.toList :=
    getLast?_splitSlash_join ha
  rw [h, getLast?_splitSlash_join hb] at hlast
  exact (String.toList_inj.1 (Option.some.inj hlast)).symm

/-! ### The names among the steps of a path -/

theorem slash_not_mem_of_mem_splitSlash {cs part : List Char} (h : part ∈ splitSlash cs) :
    '/' ∉ part := by
  induction cs generalizing part with
  | nil =>
    rw [List.mem_singleton.1 h]
    exact List.not_mem_nil
  | cons c rest ih =>
    simp only [splitSlash] at h
    split at h
    · rcases List.mem_cons.1 h with rfl | h
      · exact List.not_mem_nil
      · exact ih h
    · next hc =>
      have hslash : c ≠ '/' := fun hslash => hc (beq_iff_eq.2 hslash)
      split at h
      · next hnil => exact absurd hnil (splitSlash_ne_nil rest)
      · next first others hsplit =>
        rw [hsplit] at ih
        rcases List.mem_cons.1 h with rfl | h
        · rw [List.mem_cons, not_or]
          exact ⟨hslash.symm, ih List.mem_cons_self⟩
        · exact ih (List.mem_cons_of_mem first h)

/-- The parts of a path are texts between slashes. -/
theorem slash_not_mem_of_anatomy {path : String} {start : Start} {parts : List (List Char)}
    (h : anatomy path = (start, parts)) : ∀ part ∈ parts, '/' ∉ part := by
  intro part hpart
  unfold anatomy at h
  split at h
  · cases h
    exact slash_not_mem_of_mem_splitSlash hpart
  · split at h
    · next hsplit =>
      cases h
      exact slash_not_mem_of_mem_splitSlash (hsplit ▸ List.mem_cons_of_mem ['.'] hpart)
    · cases h
      exact slash_not_mem_of_mem_splitSlash hpart

/-- **The names among the steps of a path are plain.** -/
theorem isPlainName_of_mem_components {path name : String}
    (h : Component.name name ∈ components path) :
    IsPlainName name := by
  obtain ⟨start, parts, hanatomy⟩ : ∃ start parts, anatomy path = (start, parts) := ⟨_, _, rfl⟩
  rw [components_of_anatomy hanatomy, List.mem_append] at h
  have hpart : Component.name name ∈ partSteps parts := by
    refine h.resolve_left fun hstart => ?_
    cases start <;> simp [Start.steps] at hstart
  obtain ⟨part, hmem, hstep⟩ := List.mem_map.1 hpart
  obtain ⟨hmem, hidle⟩ := List.mem_filter.1 hmem
  unfold stepOf at hstep
  split at hstep
  · cases hstep
  · next hparent =>
    injection hstep with hname
    have htext : name.toList = part := by rw [← hname, String.toList_ofList]
    refine ⟨?_, ?_, ?_⟩
    · rw [htext]
      exact slash_not_mem_of_anatomy hanatomy part hmem
    · rw [htext]
      simpa using hidle
    · rw [htext]
      simpa using hparent

end FluentBuilder.FilePath
