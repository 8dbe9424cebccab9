import FluentBuilder.Proofs.Workspace.AddedFiles

/-!
# Source files below a directory

A search for types walks through everything below a directory, but it looks at source files only.
Which files these are is said here without a walk, and a search is a computation on them.

* `SourceFile`, `FileTree.HoldsSource` — the source files below a directory, by the names that lead
  to them;
* `FileTree.sources` — these files, directory by directory;
* `mem_sources_iff`, `pairwise_sources` — each of them is listed, in the order of the names;
* `scan_eq_of_sources` — a search describes the types in these files one after the other, so it does
  not depend on anything else.
-/

namespace FluentBuilder

open FilePath FileTree FluentBuilder.Code

/-- A source file: the names that lead to it from the directory of the search, and the items in
it. -/
structure SourceFile where
  names : List String
  items : List Item

namespace SourceFile

/-- The path of a source file below the path of the search. -/
def path (root : String) (f : SourceFile) : String :=
  f.names.foldl join root

/-- A source file seen from one directory further up. -/
def within (name : String) (f : SourceFile) : SourceFile :=
  { f with names := name :: f.names }

@[simp] theorem within_names (name : String) (f : SourceFile) :
    (f.within name).names = name :: f.names := rfl

@[simp] theorem within_items (name : String) (f : SourceFile) :
    (f.within name).items = f.items := rfl

@[simp] theorem path_within (root name : String) (f : SourceFile) :
    (f.within name).path root = f.path (join root name) := rfl

end SourceFile

/-- A location, which the given path leads to, holds a source file: directories lead to it, none of
the names is one that a search leaves out, and it is a text file with the extension of source files
whose items can be read. -/
structure FileTree.HoldsSourceAt (t : FileTree) (path : String) (l : Location) (f : SourceFile) :
    Prop where
  directories : ∀ front, front <+: f.names → front ≠ f.names → t.get? (l ++ front) = some .directory
  scanned : ∀ name ∈ f.names, isScanned name = true
  extension : extension? (f.path path) = some "rs"
  readable : ∃ text, t.get? (l ++ f.names) = some (.file (.text text))
    ∧ sourceItems? text = some f.items

/-- There is such a source file at or below what a path leads to. -/
def FileTree.HoldsSource (t : FileTree) (root : String) (f : SourceFile) : Prop :=
  ∃ l, t.resolve? root = some l ∧ t.HoldsSourceAt root l f

/-! ### The list of source files -/

namespace FileTree

/-- The source files at and below a location, those of each directory in the order of the names in
it.  The fuel bounds the depth. -/
def sourcesAt (t : FileTree) : Nat → String → Location → List SourceFile
  | 0, _, _ => []
  | fuel + 1, path, l =>
    match t.get? l with
    | some .directory =>
      ((t.namesIn l).filter isScanned).flatMap fun name =>
        (t.sourcesAt fuel (join path name) (l ++ [name])).map (SourceFile.within name)
    | some (.file content) =>
      (Visit.source? ⟨path, .file content⟩).toList.map fun items => ⟨[], items⟩
    | none => []

/-- The source files at and below what a path leads to. -/
def sources (t : FileTree) (root : String) : List SourceFile :=
  match t.resolve? root with
  | some l => t.sourcesAt (t.places.length + t.working.length + 2) root l
  | none => []

variable {t : FileTree} {path root : String} {l : Location} {f : SourceFile}

theorem HoldsSourceAt.isSome (h : t.HoldsSourceAt path l f) : (t.get? l).isSome = true := by
  by_cases hnames : f.names = []
  · obtain ⟨text, hplace, -⟩ := h.readable
    rw [hnames, List.append_nil] at hplace
    simp [hplace]
  · have hdirectory := h.directories [] List.nil_prefix (Ne.symm hnames)
    rw [List.append_nil] at hdirectory
    simp [hdirectory]

/-- A location holds the source files that its directory holds behind one of the names in it. -/
theorem holdsSourceAt_within_iff {name : String} : t.HoldsSourceAt path l (f.within name)
    ↔ t.get? l = some .directory ∧ isScanned name = true
      ∧ t.HoldsSourceAt (join path name) (l ++ [name]) f := by
  constructor
  · intro h
    obtain ⟨hname, hscanned⟩ := List.forall_mem_cons.1 h.scanned
    have hdirectory := h.directories [] List.nil_prefix (by simp)
    rw [List.append_nil] at hdirectory
    refine ⟨hdirectory, hname, ⟨fun front hfront hne => ?_, hscanned, h.extension, ?_⟩⟩
    · have hbelow := h.directories (name :: front) (List.cons_prefix_cons.2 ⟨rfl, hfront⟩)
        (by simp [hne])
      rwa [List.append_cons] at hbelow
    · obtain ⟨text, hplace, hitems⟩ := h.readable
      rw [SourceFile.within_names, List.append_cons] at hplace
      exact ⟨text, hplace, hitems⟩
  · rintro ⟨hdirectory, hname, h⟩
    refine ⟨fun front hfront hne => ?_, List.forall_mem_cons.2 ⟨hname, h.scanned⟩, h.extension, ?_⟩
    · rcases List.prefix_cons_iff.1 hfront with rfl | ⟨rest, rfl, hrest⟩
      · rwa [List.append_nil]
      · rw [List.append_cons]
        exact h.directories rest hrest fun heq => hne (by simp [heq])
    · obtain ⟨text, hplace, hitems⟩ := h.readable
      refine ⟨text, ?_, hitems⟩
      rw [SourceFile.within_names, List.append_cons]
      exact hplace

/-- Where a directory is, no source file ends. -/
theorem HoldsSourceAt.exists_within (h : t.HoldsSourceAt path l f)
    (hdirectory : t.get? l = some .directory) :
    ∃ name g, f = SourceFile.within name g := by
  obtain ⟨names, items⟩ := f
  cases names with
  | nil =>
    obtain ⟨text, hplace, -⟩ := h.readable
    rw [List.append_nil, hdirectory] at hplace
    cases hplace
  | cons name rest => exact ⟨name, ⟨rest, items⟩, rfl⟩

/-- Where a file is, it is the only source file. -/
theorem holdsSourceAt_file_iff {content : Content} (hplace : t.get? l = some (.file content)) :
    t.HoldsSourceAt path l f ↔ f.names = [] ∧ (Visit.mk path (.file content)).source?
      = some f.items := by
  rw [source?_eq_some_iff]
  constructor
  · intro h
    have hnames : f.names = [] := by
      by_contra hne
      have hdirectory := h.directories [] List.nil_prefix (Ne.symm hne)
      rw [List.append_nil, hplace] at hdirectory
      cases hdirectory
    obtain ⟨text, htext, hitems⟩ := h.readable
    rw [hnames, List.append_nil, hplace, Option.some.injEq] at htext
    have hextension := h.extension
    rw [SourceFile.path, hnames] at hextension
    exact ⟨hnames, hextension, text, htext, hitems⟩
  · rintro ⟨hnames, hextension, text, htext, hitems⟩
    refine ⟨fun front hfront hne => ?_, by simp [hnames], by rwa [SourceFile.path,
      hnames], text, ?_, hitems⟩
    · rw [hnames] at hfront hne
      exact absurd (List.prefix_nil.1 hfront) hne
    · rw [hnames, List.append_nil, hplace, htext]

/-- The induction goes down the directories, with enough fuel for all that is known below. -/
theorem mem_sourcesAt_iff {fuel : Nat} (hfuel : t.knownBelow l < fuel) :
    f ∈ t.sourcesAt fuel path l ↔ t.HoldsSourceAt path l f := by
  induction fuel generalizing path l f with
  | zero => omega
  | succ fuel ih =>
    cases hplace : t.get? l with
    | none =>
      simp only [sourcesAt, hplace, List.not_mem_nil, false_iff]
      intro h
      simpa [hplace] using h.isSome
    | some place =>
      cases place with
      | file content =>
        simp only [sourcesAt, hplace, List.mem_map, Option.mem_toList]
        rw [holdsSourceAt_file_iff hplace]
        constructor
        · rintro ⟨items, hitems, rfl⟩
          exact ⟨rfl, hitems⟩
        · rintro ⟨hnames, hitems⟩
          exact ⟨f.items, hitems, by rw [← hnames]⟩
      | directory =>
        simp only [sourcesAt, hplace, List.mem_flatMap, List.mem_filter, List.mem_map]
        have hbelow : ∀ name g, g ∈ t.sourcesAt fuel (join path name) (l ++ [name])
            ↔ t.HoldsSourceAt (join path name) (l ++ [name]) g := by
          intro name g
          have hlt := knownBelow_lt (t := t) (l := l) (by simp [hplace]) name
          exact ih (by omega)
        constructor
        · rintro ⟨name, ⟨-, hname⟩, g, hg, rfl⟩
          exact holdsSourceAt_within_iff.2 ⟨hplace, hname, (hbelow name g).1 hg⟩
        · intro h
          obtain ⟨name, g, rfl⟩ := h.exists_within hplace
          obtain ⟨-, hname, hg⟩ := holdsSourceAt_within_iff.1 h
          exact ⟨name, ⟨mem_namesIn_iff.2 hg.isSome, hname⟩, g, (hbelow name g).2 hg, rfl⟩

/-- **Each source file is listed.** -/
theorem mem_sources_iff : f ∈ t.sources root ↔ t.HoldsSource root f := by
  unfold sources HoldsSource
  cases hroot : t.resolve? root with
  | none => simp
  | some l =>
    have hfuel := knownBelow_le t l
    simp only [Option.some.injEq, exists_eq_left']
    exact mem_sourcesAt_iff (by omega)

theorem pairwise_sourcesAt (t : FileTree) (fuel : Nat) (path : String) (l : Location) :
    (t.sourcesAt fuel path l).Pairwise fun f g => f.names < g.names := by
  induction fuel generalizing path l with
  | zero => exact List.Pairwise.nil
  | succ fuel ih =>
    unfold sourcesAt
    split
    · rw [List.pairwise_flatMap]
      constructor
      · intro name _
        rw [List.pairwise_map]
        exact (ih _ _).imp fun hlt => List.cons_lt_cons_iff.2 (.inr ⟨rfl, hlt⟩)
      · refine ((pairwise_namesIn t l).filter _).imp fun hlt f hf g hg => ?_
        obtain ⟨f, -, rfl⟩ := List.mem_map.1 hf
        obtain ⟨g, -, rfl⟩ := List.mem_map.1 hg
        exact List.cons_lt_cons_iff.2 (.inl hlt)
    · next content _ => cases Visit.source? ⟨path, .file content⟩ <;> simp
    · exact List.Pairwise.nil

/-- **They are listed in the order of their names.** -/
theorem pairwise_sources (t : FileTree) (root : String) :
    (t.sources root).Pairwise fun f g => f.names < g.names := by
  unfold sources
  split
  · exact pairwise_sourcesAt t _ root _
  · exact List.Pairwise.nil

/-- The source files of a directory that holds nothing else to visit but files. -/
theorem sources_of_files {entries : List (String × Content)} (hroot : t.resolve? root = some l)
    (hdirectory : t.get? l = some .directory)
    (hnames : (t.namesIn l).filter isScanned = entries.map (·.1))
    (hfiles : ∀ e ∈ entries, t.get? (l ++ [e.1]) = some (.file e.2)) :
    t.sources root = entries.filterMap fun e =>
      (Visit.mk (join root e.1) (.file e.2)).source?.map fun items => ⟨[e.1], items⟩ := by
  have hfile : ∀ e ∈ entries,
    (t.sourcesAt (t.places.length + t.working.length + 1) (join root e.1) (l ++ [e.1])).map
      (SourceFile.within e.1)
        = ((Visit.mk (join root e.1) (.file e.2)).source?.map fun items =>
          SourceFile.mk [e.1] items).toList := by
    intro e he
    simp only [sourcesAt, hfiles e he]
    cases (Visit.mk (join root e.1) (.file e.2)).source? <;> rfl
  rw [List.filterMap_eq_flatMap_toList, ← List.flatMap_congr hfile]
  simp only [sources, hroot, sourcesAt, hdirectory, hnames, List.flatMap_map]

/-- Two trees with the same source files list them alike. -/
theorem sources_eq_of_holds {t' : FileTree}
    (h : ∀ f, t'.HoldsSource root f ↔ t.HoldsSource root f) :
    t'.sources root = t.sources root := by
  have hsorted := pairwise_sources t root
  have hsorted' := pairwise_sources t' root
  have hirrefl : ∀ {f g : SourceFile}, f.names < g.names → f ≠ g := by
    rintro f g hlt rfl
    exact List.lt_irrefl _ hlt
  refine List.Perm.eq_of_pairwise (fun f g _ _ hlt hgt => absurd hgt (List.lt_asymm hlt)) hsorted'
    hsorted ?_
  refine (List.perm_ext_iff_of_nodup (hsorted'.imp hirrefl) (hsorted.imp hirrefl)).2 fun f => ?_
  rw [mem_sources_iff, mem_sources_iff, h f]

/-! ### Walks through source files -/

/-- The path and the items of the source file that was met. -/
def Visit.located? (visit : Visit) : Option (String × List Item) :=
  visit.source?.map fun items => (visit.path, items)

/-- A walk meets the source files in the order in which they are listed. -/
theorem walkAt_filterMap_located? (t : FileTree) (fuel : Nat) (path : String) (l : Location) :
    (t.walkAt isScanned fuel path l).filterMap Visit.located?
      = (t.sourcesAt fuel path l).map fun f => (f.path path, f.items) := by
  induction fuel generalizing path l with
  | zero => simp [walkAt, sourcesAt]
  | succ fuel ih =>
    have hnames : ∀ names, (t.walkNames isScanned fuel path l names).filterMap Visit.located?
        = ((names.filter isScanned).flatMap fun name =>
            (t.sourcesAt fuel (join path name) (l ++ [name])).map (SourceFile.within name)).map
            fun f => (f.path path, f.items) := by
      intro names
      induction names with
      | nil => simp [walkNames]
      | cons name rest ihrest =>
        rw [walkNames, List.filterMap_append, ihrest]
        by_cases hname : isScanned name = true
        · simp [hname, ih, Function.comp_def]
        · simp [hname]
    cases hplace : t.get? l with
    | none => simp [walkAt, sourcesAt, hplace]
    | some place =>
      cases place with
      | directory =>
        simp only [walkAt, sourcesAt, hplace]
        exact hnames (t.namesIn l)
      | file content =>
        simp only [walkAt, sourcesAt, hplace]
        cases hsource : (Visit.mk path (.file content)).source? with
        | none => simp [Visit.located?, hsource]
        | some items => simp [Visit.located?, hsource, SourceFile.path]

theorem walk_filterMap_located? (t : FileTree) (root : String) :
    (t.walk isScanned root).filterMap Visit.located?
      = (t.sources root).map fun f => (f.path root, f.items) := by
  unfold walk sources
  cases t.resolve? root with
  | none => rfl
  | some l => exact walkAt_filterMap_located? t _ root l

end FileTree

/-! ### Searches -/

/-- Places where nothing is described can be left out. -/
theorem mapM_flatten_filterMap {α β γ ε : Type} {step : α → Except ε (List β)}
    {select : α → Option γ} {describe : γ → Except ε (List β)}
    (hstep : ∀ a, step a = (select a).elim (.ok []) describe) (xs : List α) :
    (xs.mapM step).map List.flatten = ((xs.filterMap select).mapM describe).map List.flatten := by
  induction xs with
  | nil => rfl
  | cons a rest ih =>
    have hcons : ∀ (here : Except ε (List β)) (others : Except ε (List (List β))),
        (here >>= fun first => others >>= fun more => pure (first :: more)).map List.flatten
          = here >>= fun first => (others.map List.flatten).map (first ++ ·) := by
      intro here others
      cases here <;> cases others <;> rfl
    rw [List.mapM_cons, hcons, ih, hstep]
    cases hselect : select a with
    | none =>
      rw [List.filterMap_cons_none hselect]
      cases (rest.filterMap select).mapM describe <;> rfl
    | some c =>
      rw [List.filterMap_cons_some hselect, List.mapM_cons, hcons]
      rfl

/-- A search describes the types of the listed source files, one file after the other. -/
theorem scan_eq_mapM {t : FileTree} {root : String} (markers : List String)
    (hroot : t.exists? root = true) :
    t.scan root markers = ((t.sources root).mapM fun f =>
      scanFileItems markers (modulePath root (f.path root)) (f.path root) f.items).map
        List.flatten := by
  have hscan : t.scan root markers
      = ((t.walk isScanned root).mapM (scanVisit root markers)).map List.flatten := by
    simp only [FileTree.scan, hroot, if_true]
    cases (t.walk isScanned root).mapM (scanVisit root markers) <;> rfl
  have hstep : ∀ visit : Visit, scanVisit root markers visit = visit.located?.elim (.ok [])
      fun file => scanFileItems markers (modulePath root file.1) file.1 file.2 := by
    intro visit
    rw [scanVisit_eq]
    unfold Visit.located?
    cases visit.source? <;> rfl
  rw [hscan, mapM_flatten_filterMap hstep, walk_filterMap_located?, List.mapM_map]
  rfl

/-- **What a search depends on.**  Where the path of a search leads somewhere, the search describes
the types in the source files below it, each file once, in the order of the names that lead to it
and under the module path of the file; it fails as the first of them does that cannot be described.
Any other tree with the same source files below the path gives the same, whatever else is in either
tree. -/
theorem scan_eq_of_sources {t : FileTree} {root : String} (markers : List String)
    (hroot : t.exists? root = true) :
    (∃ files : List SourceFile, (∀ f, f ∈ files ↔ t.HoldsSource root f)
        ∧ files.Pairwise (fun f g => f.names < g.names)
        ∧ t.scan root markers = (files.mapM fun f =>
            scanFileItems markers (modulePath root (f.path root)) (f.path root) f.items).map
              List.flatten)
      ∧ ∀ t' : FileTree, t'.exists? root = true →
          (∀ f, t'.HoldsSource root f ↔ t.HoldsSource root f) →
          t'.scan root markers = t.scan root markers := by
  constructor
  · exact ⟨t.sources root, fun f => mem_sources_iff, pairwise_sources t root,
      scan_eq_mapM markers hroot⟩
  · intro t' hroot' hsame
    rw [scan_eq_mapM markers hroot', scan_eq_mapM markers hroot, sources_eq_of_holds hsame]

/-- A crate whose source file stands among files that a search does not look at: one whose items
cannot be read, one without the extension, one that holds no text, and copies of the source file in
a hidden directory and in the directory of a build. -/
def strewnTree : FileTree :=
  ⟨[(["src"], .directory), (["src", "broken.rs"], .file (.text "struct")),
    (["src", "job.rs"], .file (.text ownOutputTree.jobText)),
    (["src", "notes.txt"], .file (.text "struct Job;")),
    (["src", "raw.rs"], .file (.bytes [255])), (["src", ".git"], .directory),
    (["src", ".git", "job.rs"], .file (.text ownOutputTree.jobText)),
    (["src", "target"], .directory),
    (["src", "target", "job.rs"], .file (.text ownOutputTree.jobText))], []⟩

/-- Files in the order of their names are one file alone when all of them are that file. -/
theorem eq_singleton_of_mem_iff {files : List SourceFile} {f : SourceFile}
    (hsorted : files.Pairwise fun f g => f.names < g.names) (hmem : ∀ g, g ∈ files ↔ g = f) :
    files = [f] := by
  have hnodup : files.Nodup := by
    refine List.Pairwise.imp (fun hlt heq => ?_) hsorted
    exact List.lt_irrefl _ (heq ▸ hlt)
  refine List.perm_singleton.1
    ((List.perm_ext_iff_of_nodup hnodup (List.nodup_singleton f)).2 fun g => ?_)
  rw [hmem, List.mem_singleton]

/-- A directory with files, among which only the source file of the crate has items. -/
theorem holdsSource_iff_of_job {t : FileTree} {root : String} {items : List Item}
    (hitems : sourceItems? ownOutputTree.jobText = some items) (l : Location)
    (entries : List (String × Content))
    (h : t.resolve? root = some l ∧ t.get? l = some .directory
      ∧ (t.namesIn l).filter isScanned = entries.map (·.1)
      ∧ (∀ e ∈ entries, t.get? (l ++ [e.1]) = some (.file e.2))
      ∧ entries.filter (fun e => (Visit.mk (join root e.1) (.file e.2)).source?.isSome)
        = [("job.rs", .text ownOutputTree.jobText)]) (f : SourceFile) :
    t.HoldsSource root f ↔ f = ⟨["job.rs"], items⟩ := by
  obtain ⟨hroot, hdirectory, hnames, hfiles, hreadable⟩ := h
  have hmem : ("job.rs", Content.text ownOutputTree.jobText)
      ∈ entries.filter fun e => (Visit.mk (join root e.1) (.file e.2)).source?.isSome := by
    rw [hreadable]
    exact List.mem_singleton_self _
  obtain ⟨found, hfound⟩ := Option.isSome_iff_exists.1 (List.mem_filter.1 hmem).2
  obtain ⟨-, text, hplace, hread⟩ := source?_eq_some_iff.1 hfound
  cases hplace
  obtain rfl : found = items := Option.some.inj (hread.symm.trans hitems)
  rw [← mem_sources_iff, sources_of_files hroot hdirectory hnames hfiles, List.mem_filterMap]
  constructor
  · rintro ⟨e, he, hsource⟩
    obtain ⟨other, hother, rfl⟩ := Option.map_eq_some_iff.1 hsource
    have hjob : e ∈ entries.filter fun e => (Visit.mk (join root e.1) (.file e.2)).source?.isSome :=
      List.mem_filter.2 ⟨he, by rw [hother]; rfl⟩
    rw [hreadable, List.mem_singleton] at hjob
    subst hjob
    rw [Option.some.inj (hother.symm.trans hfound)]
  · rintro rfl
    exact ⟨_, (List.mem_filter.1 hmem).1, by rw [hfound]; rfl⟩

/-- What is strewn about the source file makes no difference, and the copies are found when the
search begins at their directories, although it leaves these directories out further up. -/
theorem scan_eq_of_sources_strewn : crateTree.exists? "src" = true ∧ strewnTree.exists? "src" = true
    ∧ (∃ f, crateTree.HoldsSource "src" f)
    ∧ (∀ f, strewnTree.HoldsSource "src" f ↔ crateTree.HoldsSource "src" f)
    ∧ strewnTree.scan "src" ["AutoBuilder"] = crateTree.scan "src" ["AutoBuilder"]
    ∧ ∀ root ∈ ["src/target", "src/.git"], strewnTree.exists? root = true
      ∧ ∃ types, strewnTree.scan root ["AutoBuilder"] = .ok types
        ∧ types.map Discovered.origin = [join root "job.rs"] := by
  have hroot : crateTree.exists? "src" = true := by decide +kernel
  have hroot' : strewnTree.exists? "src" = true := by decide +kernel
  obtain ⟨items, hitems, hscanned⟩ : ∃ items, sourceItems? ownOutputTree.jobText = some items
      ∧ (["src/target", "src/.git"].all fun root =>
        (scanFileItems ["AutoBuilder"] (modulePath root (join root "job.rs"))
          (join root "job.rs") items).toOption.any
          fun types => types.map Discovered.origin == [join root "job.rs"]) = true := by
    refine (Option.any_eq_true _ _).1
      (?_ : Option.any _ (sourceItems? ownOutputTree.jobText) = true)
    decide +kernel
  have hcrate : ∀ f, crateTree.HoldsSource "src" f ↔ f = ⟨["job.rs"], items⟩ :=
    holdsSource_iff_of_job hitems ["src"] [("job.rs", .text ownOutputTree.jobText)]
      (by decide +kernel)
  have hstrewn : ∀ f, strewnTree.HoldsSource "src" f ↔ f = ⟨["job.rs"], items⟩ :=
    holdsSource_iff_of_job hitems ["src"]
      [("broken.rs", .text "struct"), ("job.rs", .text ownOutputTree.jobText),
        ("notes.txt", .text "struct Job;"), ("raw.rs", .bytes [255])] (by decide +kernel)
  have hcopies : ∀ root ∈ ["src/target", "src/.git"], strewnTree.exists? root = true
      ∧ ∀ f, strewnTree.HoldsSource root f ↔ f = ⟨["job.rs"], items⟩ := by
    refine List.forall_mem_cons.2
      ⟨⟨by decide +kernel, ?_⟩, List.forall_mem_singleton.2 ⟨by decide +kernel, ?_⟩⟩
    · exact holdsSource_iff_of_job hitems ["src", "target"]
        [("job.rs", .text ownOutputTree.jobText)] (by decide +kernel)
    · exact holdsSource_iff_of_job hitems ["src", ".git"]
        [("job.rs", .text ownOutputTree.jobText)] (by decide +kernel)
  have hsame : ∀ f, strewnTree.HoldsSource "src" f ↔ crateTree.HoldsSource "src" f := fun f =>
    (hstrewn f).trans (hcrate f).symm
  refine ⟨hroot, hroot', ⟨_, (hcrate _).2 rfl⟩, hsame,
    (scan_eq_of_sources _ hroot).2 strewnTree hroot' hsame, fun root hmem => ?_⟩
  obtain ⟨hcopy, hholds⟩ := hcopies root hmem
  obtain ⟨files, hfiles, hsorted, hscan⟩ := (scan_eq_of_sources ["AutoBuilder"] hcopy).1
  obtain rfl := eq_singleton_of_mem_iff hsorted fun f => (hfiles f).trans (hholds f)
  obtain ⟨types, htypes, horigins⟩ := exists_ok_of_any (List.all_eq_true.1 hscanned root hmem)
  refine ⟨hcopy, types, ?_, eq_of_beq horigins⟩
  rw [hscan]
  have hjob : (SourceFile.mk ["job.rs"] items).path root = join root "job.rs" := rfl
  rw [List.mapM_cons, List.mapM_nil, hjob, htypes]
  simp [bind, Except.bind, pure, Except.pure, Except.map]

end FluentBuilder
