import Mathlib.Data.String.Basic
import Mathlib.Data.List.Forall2
import FluentBuilder.Proofs.Outcome
import FluentBuilder.Proofs.Workspace.RegularTrees

/-!
# What a walk meets

A walk goes down the directories below a path, name by name.  In a regular tree each visit gives a
path that leads to what was met, and a tree with more in it is walked the same way, with the new
places between the old ones.

* `mem_namesIn_iff`, `namesIn_eq_filter` — the names in a directory, each once and in order;
* `IsRegular.place_of_mem_walk` — a visit gives the path of what it met;
* `walk_of_files` — the walk of a directory that holds files only;
* `Gathers` — what a step gives for several visits;
* `YieldsSame.gathers_walk` — what is gathered stays the same when a tree grows by places that yield
  nothing.
-/

namespace FluentBuilder.FileTree

open FilePath

/-! ### The names in a directory -/

theorem mem_insertName_iff {name n : String} {names : List String} :
    n ∈ insertName name names ↔ n = name ∨ n ∈ names := by
  induction names with
  | nil => simp [insertName]
  | cons other rest ih =>
    unfold insertName
    split
    · exact List.mem_cons
    · rw [List.mem_cons, ih, List.mem_cons]
      exact or_left_comm

theorem pairwise_insertName {name : String} {names : List String} (h : names.Pairwise (· < ·))
    (hnew : name ∉ names) : (insertName name names).Pairwise (· < ·) := by
  induction names with
  | nil => exact List.pairwise_singleton _ name
  | cons other rest ih =>
    obtain ⟨hother, hrest⟩ := List.pairwise_cons.1 h
    unfold insertName
    split
    · next hlt =>
      refine List.pairwise_cons.2 ⟨fun n hn => ?_, h⟩
      rcases List.mem_cons.1 hn with rfl | hn
      · exact hlt
      · exact lt_trans hlt (hother n hn)
    · next hnot =>
      have hne : other ≠ name := fun heq => hnew (heq ▸ List.mem_cons_self)
      have hlt : other < name := lt_of_le_of_ne (not_lt.1 hnot) hne
      refine List.pairwise_cons.2
        ⟨fun n hn => ?_, ih hrest fun hmem => hnew (List.mem_cons_of_mem other hmem)⟩
      rcases mem_insertName_iff.1 hn with rfl | hn
      · exact hlt
      · exact hother n hn

theorem mem_sorted_iff {names : List String} {n : String} :
    n ∈ names.foldr insertName [] ↔ n ∈ names := by
  induction names with
  | nil => rfl
  | cons name rest ih => rw [List.foldr_cons, mem_insertName_iff, ih, List.mem_cons]

theorem pairwise_sorted {names : List String} (h : names.Nodup) :
    (names.foldr insertName []).Pairwise (· < ·) := by
  induction names with
  | nil => exact List.Pairwise.nil
  | cons name rest ih =>
    obtain ⟨hnew, hrest⟩ := List.nodup_cons.1 h
    rw [List.foldr_cons]
    exact pairwise_insertName (ih hrest) fun hmem => hnew (mem_sorted_iff.1 hmem)

theorem nodup_eraseDups (names : List String) : names.eraseDups.Nodup := by
  match names with
  | [] => exact List.nodup_nil
  | name :: rest =>
    rw [List.eraseDups_cons, List.nodup_cons, List.mem_eraseDups]
    exact ⟨fun hmem => by simpa using (List.mem_filter.1 hmem).2, nodup_eraseDups _⟩
termination_by names.length
decreasing_by exact Nat.lt_succ_of_le (List.length_filter_le _ rest)

/-- The names in a directory are those that lead from it to a known location. -/
theorem mem_namesIn_iff {t : FileTree} {l : Location} {n : String} :
    n ∈ t.namesIn l ↔ (t.get? (l ++ [n])).isSome = true := by
  unfold namesIn
  rw [mem_sorted_iff, List.mem_eraseDups, List.mem_filterMap, ← mem_known_iff]
  constructor
  · rintro ⟨k, hk, hlast⟩
    rw [Option.ite_none_right_eq_some, Bool.and_eq_true, beq_iff_eq,
      List.isPrefixOf_iff_prefix] at hlast
    obtain ⟨⟨hlength, rest, rfl⟩, hlast⟩ := hlast
    obtain ⟨m, rfl⟩ : ∃ m, rest = [m] :=
      List.length_eq_one_iff.1 (by rw [List.length_append] at hlength; omega)
    rw [List.getLast?_concat, Option.some.injEq] at hlast
    exact hlast ▸ hk
  · intro hk
    refine ⟨l ++ [n], hk, ?_⟩
    rw [Option.ite_none_right_eq_some, Bool.and_eq_true, beq_iff_eq, List.isPrefixOf_iff_prefix]
    exact ⟨⟨List.length_append, List.prefix_append l [n]⟩, List.getLast?_concat⟩

theorem pairwise_namesIn (t : FileTree) (l : Location) : (t.namesIn l).Pairwise (· < ·) :=
  pairwise_sorted (nodup_eraseDups _)

/-- The names that a directory had in a smaller tree are those of the larger tree that the smaller
one has, too. -/
theorem namesIn_eq_filter {t t' : FileTree}
    (h : ∀ l, (t.get? l).isSome = true → (t'.get? l).isSome = true) (l : Location) :
    t.namesIn l = (t'.namesIn l).filter fun n => (t.get? (l ++ [n])).isSome := by
  refine List.Perm.eq_of_pairwise (fun a b _ _ hab hba => absurd hba (lt_asymm hab))
    (pairwise_namesIn t l)
    ((pairwise_namesIn t' l).filter _) ?_
  refine (List.perm_ext_iff_of_nodup ?_ ?_).2 fun n => ?_
  · exact (pairwise_namesIn t l).imp ne_of_lt
  · exact ((pairwise_namesIn t' l).filter _).imp ne_of_lt
  · rw [List.mem_filter, mem_namesIn_iff, mem_namesIn_iff]
    exact ⟨fun hn => ⟨h _ hn, hn⟩, fun hn => hn.2⟩

/-! ### What a walk meets -/

/-- How many known locations are at or below a location.  The number falls on each step into a
directory. -/
def knownBelow (t : FileTree) (l : Location) : Nat :=
  (t.known.filter fun k => l.isPrefixOf k).length

theorem knownBelow_lt {t : FileTree} {l : Location} (h : (t.get? l).isSome = true) (name : String) :
    t.knownBelow (l ++ [name]) < t.knownBelow l := by
  have hsplit : (t.known.filter fun k => (l ++ [name]).isPrefixOf k)
      = (t.known.filter fun k => l.isPrefixOf k).filter fun k => (l ++ [name]).isPrefixOf k := by
    rw [List.filter_filter]
    refine List.filter_congr fun k _ => ?_
    cases hbelow : (l ++ [name]).isPrefixOf k with
    | false => rfl
    | true =>
      have hpre : l <+: k :=
        (List.prefix_append l [name]).trans (List.isPrefixOf_iff_prefix.1 hbelow)
      rw [List.isPrefixOf_iff_prefix.2 hpre]
      rfl
  unfold knownBelow
  rw [hsplit, List.length_filter_lt_length_iff_exists]
  refine ⟨l, List.mem_filter.2
    ⟨mem_known_iff.2 h, List.isPrefixOf_iff_prefix.2 (List.prefix_refl l)⟩, ?_⟩
  rw [List.isPrefixOf_iff_prefix]
  intro hpre
  have hlength := hpre.length_le
  rw [List.length_append] at hlength
  exact absurd hlength (Nat.not_succ_le_self _)

theorem knownBelow_le (t : FileTree) (l : Location) :
    t.knownBelow l ≤ t.places.length + t.working.length + 1 := by
  rw [← length_known]
  exact List.length_filter_le _ _

theorem isSome_of_follow? {t : FileTree} {steps : List Component} {l r : Location}
    (h : t.follow? l steps = some r) : (t.get? r).isSome = true := by
  induction steps generalizing l with
  | nil =>
    simp only [follow?, Option.ite_none_right_eq_some, Option.some.injEq] at h
    exact h.2 ▸ h.1
  | cons step rest ih =>
    cases step with
    | root => exact ih h
    | current =>
      simp only [follow?, Option.ite_none_right_eq_some] at h
      exact ih h.2
    | parent =>
      simp only [follow?, Option.ite_none_right_eq_some] at h
      exact ih h.2
    | name s =>
      simp only [follow?, Option.ite_none_right_eq_some] at h
      exact ih h.2

/-- A path only leads to where something is. -/
theorem isSome_of_resolve? {t : FileTree} {path : String} {l : Location}
    (h : t.resolve? path = some l) :
    (t.get? l).isSome = true :=
  isSome_of_follow? (resolve?_eq_some_iff.1 h).2.1

theorem mem_walkNames_iff {t : FileTree} {enters : String → Bool} {fuel : Nat} {path : String}
    {l : Location} {names : List String} {visit : Visit} :
    visit ∈ t.walkNames enters fuel path l names
      ↔ ∃ name ∈ names, enters name = true
        ∧ visit ∈ t.walkAt enters fuel (join path name) (l ++ [name]) := by
  induction names with
  | nil => simp [walkNames]
  | cons name rest ih =>
    rw [walkNames, List.mem_append, ih]
    cases henters : enters name <;> simp [henters]

theorem IsRegular.place_of_mem_walkAt {t : FileTree} (h : t.IsRegular) {enters : String → Bool}
    {fuel : Nat} {path : String} {l : Location} {visit : Visit} (hpath : t.resolve? path = some l)
    (hvisit : visit ∈ t.walkAt enters fuel path l) :
    ∃ k, t.resolve? visit.path = some k ∧ t.get? k = some visit.place := by
  induction fuel generalizing path l with
  | zero => exact absurd hvisit (by simp [walkAt])
  | succ fuel ih =>
    unfold walkAt at hvisit
    split at hvisit
    · next hdir =>
      rcases List.mem_cons.1 hvisit with rfl | hvisit
      · exact ⟨l, hpath, hdir⟩
      · obtain ⟨name, hname, -, hvisit⟩ := mem_walkNames_iff.1 hvisit
        exact ih (h.resolve?_join hpath (mem_namesIn_iff.1 hname)) hvisit
    · next place _ hplace =>
      rw [List.mem_singleton.1 hvisit]
      exact ⟨l, hpath, hplace⟩
    · cases hvisit

/-- **What a walk meets is at the end of the path that it gives.** -/
theorem IsRegular.place_of_mem_walk {t : FileTree} (h : t.IsRegular) {enters : String → Bool}
    {root : String} {visit : Visit} (hvisit : visit ∈ t.walk enters root) :
    ∃ l, t.resolve? visit.path = some l ∧ t.get? l = some visit.place := by
  unfold walk at hvisit
  split at hvisit
  · next l hroot => exact h.place_of_mem_walkAt hroot hvisit
  · cases hvisit

/-- A path leads to a directory that holds the given files and nothing else. -/
def HoldsFiles (t : FileTree) (root : String) (l : Location) (entries : List (String × Content)) :
    Prop :=
  t.resolve? root = some l ∧ t.get? l = some .directory ∧ t.namesIn l = entries.map (·.1)
    ∧ ∀ e ∈ entries, t.get? (l ++ [e.1]) = some (.file e.2)

instance (t : FileTree) (root : String) (l : Location) (entries : List (String × Content)) :
    Decidable (t.HoldsFiles root l entries) :=
  inferInstanceAs (Decidable (_ ∧ _ ∧ _ ∧ _))

/-- A walk of a directory that holds files only. -/
theorem walk_of_files {t : FileTree} {enters : String → Bool} {root : String} {l : Location}
    {entries : List (String × Content)} (h : t.HoldsFiles root l entries) :
    t.walk enters root
      = ⟨root, .directory⟩ :: (entries.filter fun e => enters e.1).map fun e =>
        ⟨join root e.1, .file e.2⟩ := by
  obtain ⟨hroot, hdir, hnames, hfiles⟩ := h
  have hbelow : ∀ fuel, t.walkNames enters (fuel + 1) root l (entries.map (·.1))
      = (entries.filter fun e => enters e.1).map fun e => ⟨join root e.1, .file e.2⟩ := by
    intro fuel
    clear hnames
    induction entries with
    | nil => rw [List.map_nil, walkNames, List.filter_nil, List.map_nil]
    | cons e rest ih =>
      obtain ⟨hfile, hrest⟩ := List.forall_mem_cons.1 hfiles
      rw [List.map_cons, walkNames, ih hrest]
      cases henters : enters e.1 with
      | false => rw [List.filter_cons_of_neg (by simp [henters])]; rfl
      | true =>
        rw [List.filter_cons_of_pos (by simpa using henters), if_pos rfl, walkAt, hfile]
        rfl
  unfold walk
  rw [hroot]
  dsimp only
  rw [walkAt, hdir]
  dsimp only
  rw [hnames, hbelow]

/-! ### What a walk gathers -/

variable {ε α : Type}

/-- What a step gives for several visits, one behind the other. -/
inductive Gathers (step : Visit → Except ε (List α)) : List Visit → List α → Prop where
  | nil : Gathers step [] []
  | cons {visit : Visit} {visits : List Visit} {here rest : List α} :
    step visit = .ok here → Gathers step visits rest → Gathers step (visit :: visits) (here ++ rest)

variable {step step' : Visit → Except ε (List α)}

theorem gathers_iff_forall₂ {visits : List Visit} {items : List α} :
    Gathers step visits items
      ↔ ∃ found, List.Forall₂ (fun visit here => step visit = .ok here) visits found
        ∧ items = found.flatten := by
  constructor
  · intro h
    induction h with
    | nil => exact ⟨[], .nil, rfl⟩
    | cons hhere _ ih =>
      obtain ⟨found, hfound, rfl⟩ := ih
      exact ⟨_ :: found, .cons hhere hfound, rfl⟩
  · rintro ⟨found, hfound, rfl⟩
    induction hfound with
    | nil => exact .nil
    | cons hhere _ ih => exact .cons hhere ih

theorem gathers_append_iff {front back : List Visit} {items : List α} :
    Gathers step (front ++ back) items
      ↔ ∃ xs ys, Gathers step front xs ∧ Gathers step back ys ∧ items = xs ++ ys := by
  induction front generalizing items with
  | nil =>
    constructor
    · exact fun h => ⟨[], items, .nil, h, rfl⟩
    · rintro ⟨xs, ys, hxs, hys, rfl⟩
      cases hxs
      exact hys
  | cons visit rest ih =>
    constructor
    · intro h
      cases h with
      | cons hhere hrest =>
        obtain ⟨xs, ys, hxs, hys, rfl⟩ := ih.1 hrest
        exact ⟨_, ys, .cons hhere hxs, hys, (List.append_assoc ..).symm⟩
    · rintro ⟨xs, ys, hxs, hys, rfl⟩
      cases hxs with
      | cons hhere hrest =>
        rw [List.append_assoc]
        exact .cons hhere (ih.2 ⟨_, ys, hrest, hys, rfl⟩)

/-- Two trees of which the larger one yields the same as the smaller one, as far as the items
yielded are of one kind: what is there in both yields the same, and what is new yields nothing. -/
structure YieldsSame (kind : α → Prop) (step step' : Visit → Except ε (List α)) (t t' : FileTree) :
    Prop where
  grows : Grows t t'
  file : ∀ l content, t.get? l = some (.file content) → t'.get? l ≠ some .directory
  kept : ∀ path l place place' items, t.resolve? path = some l → t.get? l = some place →
    t'.get? l = some place' →
    step ⟨path, place⟩ = .ok items → (∀ x ∈ items, kind x) → step' ⟨path, place'⟩ = .ok items
  added : ∀ path l place', t'.resolve? path = some l → t.get? l = none → t'.get? l = some place' →
    step' ⟨path, place'⟩ = .ok []

variable {kind : α → Prop} {t t' : FileTree} {enters : String → Bool}

/-- What is new yields nothing, nor does anything below it. -/
theorem YieldsSame.gathers_added (h : YieldsSame kind step step' t t') (ht : t.IsRegular)
    (ht' : t'.IsRegular) {fuel : Nat} {path : String} {l : Location}
    (hpath : t'.resolve? path = some l) (hnew : t.get? l = none) :
    Gathers step' (t'.walkAt enters fuel path l) [] := by
  induction fuel generalizing path l with
  | zero =>
    rw [walkAt]
    exact .nil
  | succ fuel ih =>
    unfold walkAt
    split
    · next hdir =>
      refine Gathers.cons (h.added path l .directory hpath hnew hdir) ?_
      have hbelow : ∀ names, (∀ name ∈ names, name ∈ t'.namesIn l) →
          Gathers step' (t'.walkNames enters fuel path l names) [] := by
        intro names
        induction names with
        | nil =>
          rw [walkNames]
          exact fun _ => .nil
        | cons name rest ihrest =>
          intro hnames
          obtain ⟨hname, hrest⟩ := List.forall_mem_cons.1 hnames
          rw [walkNames]
          refine gathers_append_iff.2 ⟨[], [], ?_, ihrest hrest, rfl⟩
          split
          · refine ih (ht'.resolve?_join hpath (mem_namesIn_iff.1 hname)) ?_
            -- below a location where nothing was, nothing was either
            cases hthere : t.get? (l ++ [name]) with
            | none => rfl
            | some place =>
              have hparent := ht.parent l name (by rw [hthere]; rfl)
              rw [hnew] at hparent
              cases hparent
          · exact .nil
      exact hbelow _ fun _ hname => hname
    · next place _ hplace =>
      exact Gathers.cons (h.added path l place hpath hnew hplace) .nil
    · exact .nil

/-- The names of the larger tree yield what those of the smaller one among them do. -/
theorem YieldsSame.gathers_walkNames (h : YieldsSame kind step step' t t') (ht : t.IsRegular)
    (ht' : t'.IsRegular)
    {fuel fuel' : Nat} {path : String} {l : Location} (hpath : t.resolve? path = some l)
    (hbelow : ∀ name items, (t.get? (l ++ [name])).isSome = true → (∀ x ∈ items, kind x) →
      Gathers step (t.walkAt enters fuel (join path name) (l ++ [name])) items →
      Gathers step' (t'.walkAt enters fuel' (join path name) (l ++ [name])) items)
    {names : List String} (hnames : ∀ name ∈ names, name ∈ t'.namesIn l) {items : List α}
    (hkind : ∀ x ∈ items, kind x)
    (hitems : Gathers step
      (t.walkNames enters fuel path l (names.filter fun n => (t.get? (l ++ [n])).isSome)) items) :
    Gathers step' (t'.walkNames enters fuel' path l names) items := by
  induction names generalizing items with
  | nil =>
    rw [List.filter_nil, walkNames] at hitems
    rw [walkNames]
    cases hitems
    exact .nil
  | cons name rest ih =>
    obtain ⟨hname, hrest⟩ := List.forall_mem_cons.1 hnames
    rw [walkNames]
    cases hthere : (t.get? (l ++ [name])).isSome with
    | false =>
      rw [List.filter_cons_of_neg (by rw [hthere]; exact Bool.false_ne_true)] at hitems
      refine gathers_append_iff.2 ⟨[], items, ?_, ih hrest hkind hitems, rfl⟩
      split
      · refine h.gathers_added ht ht'
          (ht'.resolve?_join (h.grows.resolve? hpath) (mem_namesIn_iff.1 hname)) ?_
        rw [Option.isSome_eq_false_iff, Option.isNone_iff_eq_none] at hthere
        exact hthere
      · exact .nil
    | true =>
      rw [List.filter_cons_of_pos (by exact hthere), walkNames] at hitems
      obtain ⟨xs, ys, hxs, hys, rfl⟩ := gathers_append_iff.1 hitems
      rw [List.forall_mem_append] at hkind
      refine gathers_append_iff.2 ⟨xs, ys, ?_, ih hrest hkind.2 hys, rfl⟩
      split
      · next henters =>
        rw [if_pos henters] at hxs
        exact hbelow name xs hthere hkind.1 hxs
      · next henters =>
        rw [if_neg henters] at hxs
        cases hxs
        exact .nil

/-- The induction goes down the directories, with enough fuel for all that is known below. -/
theorem YieldsSame.gathers_walkAt (h : YieldsSame kind step step' t t') (ht : t.IsRegular)
    (ht' : t'.IsRegular) {fuel fuel' : Nat} {path : String} {l : Location}
    (hpath : t.resolve? path = some l) (hfuel : t.knownBelow l < fuel)
    (hfuel' : t'.knownBelow l < fuel') {items : List α} (hkind : ∀ x ∈ items, kind x)
    (hitems : Gathers step (t.walkAt enters fuel path l) items) :
    Gathers step' (t'.walkAt enters fuel' path l) items := by
  induction fuel generalizing fuel' path l items with
  | zero => exact absurd hfuel (Nat.not_lt_zero _)
  | succ fuel ih =>
    obtain ⟨fuel', rfl⟩ : ∃ n, fuel' = n + 1 :=
      Nat.exists_eq_succ_of_ne_zero (Nat.ne_of_gt (Nat.zero_lt_of_lt hfuel'))
    have hthere : (t.get? l).isSome = true := isSome_of_resolve? hpath
    have hthere' : (t'.get? l).isSome = true := h.grows.present l hthere
    obtain ⟨place, hplace⟩ := Option.isSome_iff_exists.1 hthere
    obtain ⟨place', hplace'⟩ := Option.isSome_iff_exists.1 hthere'
    cases place with
    | directory =>
      have hdir' := h.grows.directory l hplace
      unfold walkAt at hitems ⊢
      rw [hplace] at hitems
      rw [hdir']
      cases hitems with
      | cons hhere hrest =>
        rw [List.forall_mem_append] at hkind
        refine .cons (h.kept path l _ _ _ hpath hplace hdir' hhere hkind.1) ?_
        rw [namesIn_eq_filter h.grows.present] at hrest
        refine h.gathers_walkNames ht ht' hpath (fun name xs hname hxs hgather => ?_)
          (fun _ hname => hname)
          hkind.2 hrest
        have hbelow := knownBelow_lt hthere name
        have hbelow' := knownBelow_lt hthere' name
        exact ih (ht.resolve?_join hpath hname) (by omega) (by omega) hxs hgather
    | file content =>
      have hnot := h.file l content hplace
      obtain ⟨content', rfl⟩ : ∃ c, place' = .file c := by
        cases place' with
        | directory => exact absurd hplace' hnot
        | file c => exact ⟨c, rfl⟩
      unfold walkAt at hitems ⊢
      rw [hplace] at hitems
      rw [hplace']
      cases hitems with
      | cons hhere hrest =>
        cases hrest
        rw [List.append_nil] at hkind
        exact .cons (h.kept path l _ _ _ hpath hplace hplace' hhere hkind) .nil

/-- **A walk of the larger tree gathers what a walk of the smaller one does.** -/
theorem YieldsSame.gathers_walk (h : YieldsSame kind step step' t t') (ht : t.IsRegular)
    (ht' : t'.IsRegular) {root : String} (hroot : t'.exists? root = true → t.exists? root = true)
    {items : List α} (hkind : ∀ x ∈ items, kind x)
    (hitems : Gathers step (t.walk enters root) items) :
    Gathers step' (t'.walk enters root) items := by
  cases hr : t.resolve? root with
  | none =>
    have hr' : t'.resolve? root = none := by
      cases hr' : t'.resolve? root with
      | none => rfl
      | some l =>
        have hthere := hroot (by unfold exists?; rw [hr']; rfl)
        unfold exists? at hthere
        rw [hr] at hthere
        cases hthere
    unfold walk at hitems ⊢
    rw [hr] at hitems
    rw [hr']
    cases hitems
    exact .nil
  | some l =>
    unfold walk at hitems ⊢
    rw [hr] at hitems
    rw [h.grows.resolve? hr]
    exact h.gathers_walkAt ht ht' hr (Nat.lt_succ_of_le (knownBelow_le t l))
      (Nat.lt_succ_of_le (knownBelow_le t' l))
      hkind hitems

end FluentBuilder.FileTree
