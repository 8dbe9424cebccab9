import FluentBuilder.Proofs.Workspace.AddedFiles
import FluentBuilder.Proofs.Workspace.WorkingPaths

/-!
# Passes with paths from the working directory

The paths of a pass can start at the working directory by themselves, or be joined to the path of
that directory.  Either way the pass finds the same types and writes the same files.  The two only
differ in the paths of the files in which the types were found, and these are written into the
comment in front of each builder.

* `Settings.rebase`, `Visit.rebase`, `Discovered.rebase` — the same with joined paths;
* `IsRegular.walk_rebase`, `discover_rebase` — the same types are found;
* `SameButOrigin`, `plan_rebase` — the same files are planned, but for the paths in their comments;
* `SameButOrigins`, `generate_rebase` — and so are the trees that the two passes leave.
-/

namespace FluentBuilder

open FilePath FileTree

/-! ### Joined paths -/

namespace FilePath

theorem join_empty (path : String) : join "" path = path := by
  unfold join
  rw [if_pos (by rw [Bool.or_eq_true]; exact .inr rfl)]

/-- What stands between a path and another one that is joined to it. -/
def separator (base : String) : String :=
  if base.toList.getLast? == some '/' then "" else "/"

theorem join_relative {base path : String} (hbase : base ≠ "") (hpath : isAbsolute path = false) :
    join base path = base ++ separator base ++ path := by
  have hnonempty : base.isEmpty = false := by
    rw [← Bool.not_eq_true, String.isEmpty_iff]
    exact hbase
  unfold join separator
  rw [hpath, hnonempty, Bool.or_false, if_neg Bool.false_ne_true]
  split <;> simp

theorem isAbsolute_append {path : String} (hpath : path ≠ "") (more : String) :
    isAbsolute (path ++ more) = isAbsolute path := by
  unfold isAbsolute
  rw [String.toList_append, List.head?_append_of_ne_nil _ fun hnil =>
    hpath (String.toList_eq_nil_iff.1 hnil)]

theorem separator_append (base : String) {path : String} (hpath : path ≠ "") :
    separator (base ++ path) = separator path := by
  unfold separator
  rw [String.toList_append, List.getLast?_append_of_ne_nil _ fun hnil =>
    hpath (String.toList_eq_nil_iff.1 hnil)]

theorem separator_append_separator (base : String) : separator (base ++ separator base) = "" := by
  unfold separator
  split
  · next hlast => rw [String.append_empty, if_pos hlast]
  · rw [if_pos]
    simp [String.toList_append]

/-- A path joined to one that is absolute is absolute. -/
theorem isAbsolute_join {path : String} (h : isAbsolute path = true) (name : String) :
    isAbsolute (join path name) = true := by
  have hne : path ≠ "" := by
    rintro rfl
    cases h
  cases hname : isAbsolute name with
  | true => rw [join_of_isAbsolute hname, hname]
  | false => rw [join_relative hne hname, String.append_assoc, isAbsolute_append hne, h]

/-- **Joining is associative** behind a base that is not empty. -/
theorem join_join {base : String} (hbase : base ≠ "") (path name : String) :
    join (join base path) name = join base (join path name) := by
  cases hname : isAbsolute name with
  | true => rw [join_of_isAbsolute hname, join_of_isAbsolute hname, join_of_isAbsolute hname]
  | false =>
    cases hpath : isAbsolute path with
    | true =>
      rw [join_of_isAbsolute hpath, join_of_isAbsolute (isAbsolute_join hpath name)]
    | false =>
      have hjoined : join base path ≠ "" := by
        rw [join_relative hbase hpath]
        intro hempty
        have htext := congrArg String.toList hempty
        rw [String.toList_append, String.toList_append] at htext
        exact hbase (String.toList_eq_nil_iff.1
          (List.append_eq_nil_iff.1 (List.append_eq_nil_iff.1 htext).1).1)
      rw [join_relative hjoined hname, join_relative hbase hpath]
      by_cases hempty : path = ""
      · subst hempty
        rw [String.append_empty, separator_append_separator, String.append_empty]
        rw [join_empty, join_relative hbase hname]
      · have hrelative : isAbsolute (join path name) = false := by
          rw [join_relative hempty hname, String.append_assoc, isAbsolute_append hempty, hpath]
        rw [join_relative hbase hrelative, join_relative hempty hname, separator_append _ hempty]
        simp only [String.append_assoc]

end FilePath

/-- Settings whose paths are joined to a base. -/
def Settings.rebase (base : String) (settings : Settings) : Settings :=
  { settings with
    scanPath := join base settings.scanPath
    descriptorPath := join base settings.descriptorPath
    outputPath := join base settings.outputPath }

/-- A visit whose path is joined to a base. -/
def FileTree.Visit.rebase (base : String) (visit : Visit) : Visit :=
  ⟨join base visit.path, visit.place⟩

/-- A type with the path of its file joined to a base. -/
def Discovered.rebase (base : String) (d : Discovered) : Discovered :=
  ⟨d.type, join base d.origin⟩

theorem Settings.root_rebase (base : String) (settings : Settings) :
    (settings.rebase base).root = join base settings.root := by
  unfold Settings.root Settings.rebase
  cases settings.source <;> rfl

namespace FileTree

variable {t : FileTree} {enters : String → Bool} {base root : String}

/-! ### Walks -/

theorem walkAt_rebase (hbase : base ≠ "") (fuel : Nat) (path : String) (l : Location) :
    t.walkAt enters fuel (join base path) l
      = (t.walkAt enters fuel path l).map (Visit.rebase base) := by
  induction fuel generalizing path l with
  | zero => rw [walkAt, walkAt, List.map_nil]
  | succ fuel ih =>
    have hbelow : ∀ names, t.walkNames enters fuel (join base path) l names
        = (t.walkNames enters fuel path l names).map (Visit.rebase base) := by
      intro names
      induction names with
      | nil => rw [walkNames, walkNames, List.map_nil]
      | cons name rest ihrest =>
        rw [walkNames, walkNames, ihrest, List.map_append, join_join hbase]
        split
        · rw [ih]
        · rfl
    unfold walkAt
    split
    · rw [hbelow]
      rfl
    · rfl
    · rfl

theorem workingPath_ne_empty (t : FileTree) : t.workingPath ≠ "" := by
  intro hempty
  have htext := toList_workingPath t
  rw [hempty] at htext
  cases htext

/-- **The walk below a joined path** meets the same places. -/
theorem walk_rebase (h : t.HasPath) (hroot : root ≠ "") :
    t.walk enters (join t.workingPath root)
      = (t.walk enters root).map (Visit.rebase t.workingPath) := by
  unfold walk
  rw [resolve?_join_working h hroot]
  cases t.resolve? root with
  | none => rfl
  | some l => exact walkAt_rebase (workingPath_ne_empty t) _ root l

/-- A visit has the path of the root, continued by names. -/
theorem IsRegular.exists_names_of_mem_walkAt (h : t.IsRegular) {fuel : Nat} {path : String}
    {l : Location} {visit : Visit} (hvisit : visit ∈ t.walkAt enters fuel path l) :
    ∃ names : List String, (∀ name ∈ names, IsPlainName name)
      ∧ visit.path = names.foldl join path := by
  induction fuel generalizing path l with
  | zero => exact absurd hvisit (by simp [walkAt])
  | succ fuel ih =>
    unfold walkAt at hvisit
    split at hvisit
    · rcases List.mem_cons.1 hvisit with rfl | hvisit
      · exact ⟨[], List.forall_mem_nil _, rfl⟩
      · obtain ⟨name, hname, -, hvisit⟩ := mem_walkNames_iff.1 hvisit
        have hplain := (h.names _ (mem_namesIn_iff.1 hname) name (by simp)).1
        obtain ⟨names, hnames, hpath⟩ := ih hvisit
        exact ⟨name :: names, List.forall_mem_cons.2 ⟨hplain, hnames⟩, hpath⟩
    · rw [List.mem_singleton.1 hvisit]
      exact ⟨[], List.forall_mem_nil _, rfl⟩
    · cases hvisit

theorem IsRegular.exists_names_of_mem_walk (h : t.IsRegular) {visit : Visit}
    (hvisit : visit ∈ t.walk enters root) :
    ∃ names : List String, (∀ name ∈ names, IsPlainName name)
      ∧ visit.path = names.foldl join root := by
  unfold walk at hvisit
  split at hvisit
  · exact h.exists_names_of_mem_walkAt hvisit
  · cases hvisit

theorem join_foldl_join (hbase : base ≠ "") (names : List String) (path : String) :
    join base (names.foldl join path) = names.foldl join (join base path) := by
  induction names generalizing path with
  | nil => rfl
  | cons name rest ih => rw [List.foldl_cons, List.foldl_cons, ih, join_join hbase]

/-- A visited file defines the same module either way. -/
theorem IsRegular.modulePath_rebase (h : t.IsRegular) (hbase : base ≠ "") {visit : Visit}
    (hvisit : visit ∈ t.walk enters root) : modulePath (join base root) (join base visit.path)
      = modulePath root visit.path := by
  obtain ⟨names, hnames, hpath⟩ := h.exists_names_of_mem_walk hvisit
  unfold modulePath
  rw [hpath, join_foldl_join hbase, namesBelow_of_components (components_foldl_join hnames _),
    namesBelow_of_components (components_foldl_join hnames _)]

/-- Below a root that is absolute the paths of all visits are. -/
theorem IsRegular.isAbsolute_of_mem_walk (h : t.IsRegular) (hroot : isAbsolute root = true)
    {visit : Visit} (hvisit : visit ∈ t.walk enters root) : isAbsolute visit.path = true := by
  obtain ⟨names, -, hpath⟩ := h.exists_names_of_mem_walk hvisit
  rw [hpath]
  clear hpath hvisit
  induction names generalizing root with
  | nil => exact hroot
  | cons name rest ih => exact ih (isAbsolute_join hroot name)

end FileTree

/-! ### Types -/

variable {t : FileTree} {root : String}

/-- What is read behind a joined path. -/
theorem read?_join_working (h : t.HasPath) {path : String} (hne : path ≠ "") :
    t.read? (join t.workingPath path) = t.read? path :=
  read?_eq_of_resolve?_eq (resolve?_join_working h hne)

/-- The path of what was visited is not empty, and the extension of a visited file is that of the
joined path. -/
theorem extension?_of_mem_walk (h : t.IsRegular) {enters : String → Bool} {visit : Visit}
    (hvisit : visit ∈ t.walk enters root) {content : Content}
    (hfile : visit.place = .file content) :
    visit.path ≠ "" ∧ extension? (join t.workingPath visit.path) = extension? visit.path := by
  obtain ⟨l, hl, hget⟩ := h.place_of_mem_walk hvisit
  have hne : visit.path ≠ "" := by
    intro hempty
    rw [hempty] at hl
    cases hl
  rw [hfile] at hget
  refine ⟨hne, h.extension?_eq (l := l) ?_ hl hget⟩
  rw [resolve?_join_working h.hasPath hne, hl]

/-- A visited source file has the same types. -/
theorem scanVisit_rebase (h : t.IsRegular) {enters : String → Bool} {visit : Visit}
    (hvisit : visit ∈ t.walk enters root) (markers : List String) :
    Alike (fun ds ds' => ds = ds'.map (Discovered.rebase t.workingPath))
      (scanVisit (join t.workingPath root) markers (visit.rebase t.workingPath))
        (scanVisit root markers visit) := by
  cases hplace : visit.place with
  | directory =>
    unfold scanVisit Visit.rebase
    rw [hplace]
    exact .ok rfl
  | file content =>
    obtain ⟨-, hextension⟩ := extension?_of_mem_walk h hvisit hplace
    have hmodule := h.modulePath_rebase (workingPath_ne_empty t) hvisit
    unfold scanVisit Visit.rebase
    dsimp only
    rw [hplace, hextension, hmodule]
    cases content with
    | bytes bs => exact .ok rfl
    | text text =>
      dsimp only
      split
      · split
        · unfold scanFileItems
          split
          · exact .ok (by rw [List.map_map]; rfl)
          · exact .error _ _
        · exact .ok rfl
      · exact .ok rfl

/-- A visited descriptor file has the same types. -/
theorem loadVisit_rebase (h : t.IsRegular) {enters : String → Bool} {visit : Visit}
    (hvisit : visit ∈ t.walk enters root) :
    Alike (fun ds ds' => ds = ds'.map (Discovered.rebase t.workingPath))
      (t.loadVisit (visit.rebase t.workingPath)) (t.loadVisit visit) := by
  cases hplace : visit.place with
  | directory =>
    unfold FileTree.loadVisit Visit.rebase
    rw [hplace]
    exact .ok rfl
  | file content =>
    obtain ⟨hne, hextension⟩ := extension?_of_mem_walk h hvisit hplace
    have htypes : ∀ text, readTypes? (join t.workingPath visit.path) text
        = readTypes? visit.path text := by
      intro text
      unfold readTypes?
      rw [hextension]
    have hfile : Alike (fun ts ts' => ts = ts')
      (t.loadDescriptorFile (join t.workingPath visit.path))
        (t.loadDescriptorFile visit.path) := by
      unfold FileTree.loadDescriptorFile
      rw [read?_join_working h.hasPath hne]
      cases t.read? visit.path with
      | none => exact .error _ _
      | some text =>
        dsimp only
        rw [htypes]
        cases readTypes? visit.path text with
        | none => exact .error _ _
        | some types =>
          have hchecks : Alike (List.Forall₂ fun _ _ => True)
            (types.mapM (checkFields (join t.workingPath visit.path)))
              (types.mapM (checkFields visit.path)) := by
            refine Alike.mapM (p := Eq) (List.forall₂_refl _) fun type _ other hsame => ?_
            subst hsame
            unfold checkFields
            split
            · exact .error _ _
            · exact .ok trivial
          exact hchecks.bind fun _ _ _ => .ok rfl
    unfold FileTree.loadVisit Visit.rebase
    dsimp only
    rw [hplace, hextension]
    dsimp only
    split
    · exact hfile.bind fun ts ts' hsame => .ok (by rw [hsame, List.map_map]; rfl)
    · exact .ok rfl

theorem flatten_of_forall₂_map {α β : Type} {f : β → α} {found : List (List α)}
    {found' : List (List β)} (h : List.Forall₂ (fun ds ds' => ds = ds'.map f) found found') :
    found.flatten = found'.flatten.map f := by
  induction h with
  | nil => rfl
  | cons hhere _ ih => rw [List.flatten_cons, List.flatten_cons, List.map_append, ih, hhere]

/-- A search along the walk below a joined path finds the same, if it does so in each place. -/
theorem walk_mapM_rebase (h : t.HasPath) (hroot : root ≠ "") {enters : String → Bool}
    {step step' : Visit → Except WorkspaceError (List Discovered)}
    (hstep : ∀ visit ∈ t.walk enters root,
      Alike (fun ds ds' => ds = ds'.map (Discovered.rebase t.workingPath))
      (step (visit.rebase t.workingPath)) (step' visit)) :
    Alike (fun found found' => found.flatten = found'.flatten.map (Discovered.rebase t.workingPath))
      ((t.walk enters (join t.workingPath root)).mapM step) ((t.walk enters root).mapM step') := by
  rw [walk_rebase h hroot]
  refine Alike.mono (r := List.Forall₂ fun ds ds' => ds = ds'.map (Discovered.rebase t.workingPath))
    ?_
    fun found found' => flatten_of_forall₂_map
  refine Alike.mapM (p := fun visit visit' => visit = visit'.rebase t.workingPath
    ∧ visit' ∈ t.walk enters root)
    ?_ ?_
  · rw [List.forall₂_map_left_iff]
    exact List.forall₂_same.2 fun visit hvisit => ⟨rfl, hvisit⟩
  · rintro visit - visit' ⟨rfl, hvisit⟩
    exact hstep visit' hvisit

/-- **The same types are loaded.** -/
theorem load_rebase (h : t.IsRegular) {settings : Settings} (hroot : settings.root ≠ "") :
    Alike (fun types types' => types = types'.map (Discovered.rebase t.workingPath))
      (t.load (settings.rebase t.workingPath)) (t.load settings) := by
  unfold Settings.root at hroot
  unfold FileTree.load Settings.rebase
  cases hsource : settings.source with
  | sourceFiles =>
    rw [hsource] at hroot
    dsimp only at hroot ⊢
    unfold FileTree.scan FileTree.exists?
    rw [resolve?_join_working h.hasPath hroot]
    split
    · refine (walk_mapM_rebase h.hasPath hroot fun visit hvisit =>
        scanVisit_rebase h hvisit settings.markers).bind ?_
      exact fun found found' hsame => .ok hsame
    · exact .error _ _
  | descriptors =>
    rw [hsource] at hroot
    dsimp only at hroot ⊢
    refine (walk_mapM_rebase h.hasPath hroot fun visit hvisit => loadVisit_rebase h hvisit).bind ?_
    exact fun found found' hsame => .ok hsame

/-- Names are compared, not the paths of files. -/
theorem checkNames_rebase (base : String) {before before' : List (QualifiedName × String)}
    (hbefore : before.map (·.1) = before'.map (·.1)) (types : List Discovered) :
    Alike (fun _ _ => True) (checkNames before (types.map (Discovered.rebase base)))
      (checkNames before' types) := by
  induction types generalizing before before' with
  | nil => exact .ok trivial
  | cons d rest ih =>
    have hsame : (before.lookup d.type.name).isSome = (before'.lookup d.type.name).isSome := by
      rw [Bool.eq_iff_iff, isSome_lookup_iff, isSome_lookup_iff, hbefore]
    have hname : (d.rebase base).type.name = d.type.name := rfl
    rw [List.map_cons]
    unfold checkNames
    rw [hname]
    cases hfirst : before.lookup d.type.name with
    | some first =>
      cases hfirst' : before'.lookup d.type.name with
      | some first' => exact .error _ _
      | none =>
        rw [hfirst, hfirst'] at hsame
        cases hsame
    | none =>
      cases hfirst' : before'.lookup d.type.name with
      | some first' =>
        rw [hfirst, hfirst'] at hsame
        cases hsame
      | none =>
        refine ih ?_
        rw [List.map_cons, List.map_cons, hbefore]

/-- **The same types are discovered.** -/
theorem discover_rebase (h : t.IsRegular) {settings : Settings} (hroot : settings.root ≠ "") :
    Alike (fun types types' => types = types'.map (Discovered.rebase t.workingPath))
      (t.discover (settings.rebase t.workingPath)) (t.discover settings) := by
  rw [discover_eq_bind, discover_eq_bind]
  refine (load_rebase h hroot).bind fun types types' hsame => ?_
  subst hsame
  exact (checkNames_rebase _ rfl types').bind fun _ _ _ => .ok rfl

/-! ### Plans -/

/-- A builder with the path of its origin joined to a base. -/
def Accepted.rebase (base : String) (a : Accepted) : Accepted :=
  ⟨a.model, join base a.origin⟩

/-- What becomes of a type, with the path of its origin joined to a base. -/
def Synthesized.rebase (base : String) (s : Synthesized) : Synthesized :=
  ⟨join base s.origin, s.outcome⟩

/-- What is sifted does not depend on origins. -/
theorem sift_rebase (policy : FailurePolicy) (base : String) (outcomes : List Synthesized) :
    Alike (fun sifted sifted' => sifted.accepted = sifted'.accepted.map (Accepted.rebase base)
        ∧ sifted.violations = sifted'.violations)
      (policy.sift (outcomes.map (Synthesized.rebase base))) (policy.sift outcomes) := by
  induction outcomes with
  | nil => exact .ok ⟨rfl, rfl⟩
  | cons s rest ih =>
    rw [List.map_cons]
    unfold FailurePolicy.sift
    cases houtcome : s.outcome with
    | ok model =>
      simp only [Synthesized.rebase, houtcome]
      refine ih.bind fun sifted sifted' hsame => .ok ⟨?_, hsame.2⟩
      rw [hsame.1, List.map_cons]
      rfl
    | error v =>
      simp only [Synthesized.rebase, houtcome]
      cases policy with
      | abort => exact .error _ _
      | proceed =>
        refine ih.bind fun sifted sifted' hsame => .ok ⟨hsame.1, ?_⟩
        rw [hsame.2]

/-- Two planned files that only differ in the path of the origin, which has a property. -/
structure SameButOrigin (p : String → Prop) (base : String) (f f' : PlannedFile) : Prop where
  name : f.name = f'.name
  builder : f.builder = f'.builder
  text : ∃ origin body, p origin ∧ f.text = fileHeader (join base origin) ++ body
    ∧ f'.text = fileHeader origin ++ body

/-- **The same files are planned**, but for the origins in their comments. -/
theorem planFiles_rebase {p : String → Prop} (base : String) (taken : List String)
    {as : List Accepted} (has : ∀ a ∈ as, p a.origin) :
    Alike (List.Forall₂ (SameButOrigin p base)) (planFiles taken (as.map (Accepted.rebase base)))
      (planFiles taken as) := by
  induction as generalizing taken with
  | nil => exact .ok .nil
  | cons a rest ih =>
    obtain ⟨ha, hrest⟩ := List.forall_mem_cons.1 has
    have htext : Alike (fun text text' => ∃ body, text = fileHeader (join base a.origin) ++ body
        ∧ text' = fileHeader a.origin ++ body) ((a.rebase base).text.mapError WorkspaceError.code)
        (a.text.mapError WorkspaceError.code) := by
      unfold Accepted.text Accepted.rebase
      dsimp only
      cases a.model.fileSource with
      | error e => exact .error _ _
      | ok source => exact .ok ⟨source, rfl, rfl⟩
    rw [List.map_cons]
    unfold planFiles
    show Alike _ (if taken.contains a.model.name.fileName then _ else _)
      (if taken.contains a.model.name.fileName then _ else _)
    cases taken.contains a.model.name.fileName with
    | true => exact .error _ _
    | false =>
      refine htext.bind fun text text' hbody => ?_
      refine (ih (a.model.name.fileName :: taken) hrest).bind fun files files' hfiles =>
        .ok (.cons ?_ hfiles)
      obtain ⟨body, hbody⟩ := hbody
      exact ⟨rfl, rfl, a.origin, body, ha, hbody⟩

/-- Two plans whose files only differ in the paths of the origins. -/
structure SameButPaths (p : String → Prop) (base : String) (plan plan' : Plan) : Prop where
  files : List.Forall₂ (SameButOrigin p base) plan.files plan'.files
  violations : plan.violations = plan'.violations

/-- A type that was found in a visited place comes from there. -/
theorem origin_of_mem_yield {settings : Settings} {visit : Visit} {here : List Discovered}
    {d : Discovered} (h : t.yield settings visit = .ok here) (hd : d ∈ here) :
    d.origin = visit.path := by
  unfold FileTree.yield at h
  cases hsource : settings.source with
  | sourceFiles =>
    rw [hsource] at h
    exact (place_of_mem_scanVisit h hd).1
  | descriptors =>
    rw [hsource] at h
    dsimp only at h
    unfold FileTree.loadVisit at h
    split at h
    · split at h
      · obtain ⟨types, -, h⟩ := bind_eq_ok_iff.1 h
        cases h
        obtain ⟨type, -, rfl⟩ := List.mem_map.1 hd
        rfl
      · cases h
        cases hd
    · cases h
      cases hd

/-- The origins of types below a root that is absolute are absolute. -/
theorem isAbsolute_origin {settings : Settings} {types : List Discovered} (h : t.IsRegular)
    (htypes : t.discover settings = .ok types) (hroot : isAbsolute settings.root = true) :
    ∀ d ∈ types, isAbsolute d.origin = true := by
  intro d hd
  obtain ⟨-, hgathers⟩ := load_eq_ok_iff.1 (discover_eq_ok_iff.1 htypes).1
  obtain ⟨found, hfound, rfl⟩ := gathers_iff_forall₂.1 hgathers
  obtain ⟨here, hhere, hd⟩ := List.mem_flatten.1 hd
  obtain ⟨visit, hvisit, hyield⟩ := exists_of_mem_right hfound hhere
  rw [origin_of_mem_yield hyield hd]
  exact h.isAbsolute_of_mem_walk hroot hvisit

/-- The plans for types whose files have joined paths. -/
theorem planFor_rebase {p : String → Prop} (base : String) (settings : Settings)
    (rules : List Check) {types : List Discovered} (htypes : ∀ d ∈ types, p d.origin) :
    Alike (SameButPaths p base)
      (planFor (settings.rebase base) rules (types.map (Discovered.rebase base)))
      (planFor settings rules types) := by
  have hall : synthesizeAll rules (types.map (Discovered.rebase base))
      = (synthesizeAll rules types).map (Synthesized.rebase base) := by
    unfold synthesizeAll
    rw [List.map_map, List.map_map]
    rfl
  unfold planFor
  rw [hall]
  refine (sift_rebase settings.failurePolicy base (synthesizeAll rules types)).and_eq_ok.bind ?_
  rintro sifted sifted' ⟨⟨haccepted, hviolations⟩, hsifted⟩
  rw [haccepted]
  refine (planFiles_rebase base [] fun a ha => ?_).bind fun files files' hfiles =>
    .ok ⟨hfiles, hviolations⟩
  obtain ⟨-, rfl⟩ := sift_eq_ok_iff.1 hsifted
  obtain ⟨d, hd, -, horigin⟩ := mem_accepted_iff.1 ha
  rw [horigin]
  exact htypes d hd

/-- **The plans of the two passes.** -/
theorem plan_rebase (h : t.IsRegular) {settings : Settings} (rules : List Check)
    (hroot : settings.root ≠ "") :
    Alike (SameButPaths (fun origin => isAbsolute settings.root = true → isAbsolute origin = true)
      t.workingPath)
      (t.plan (settings.rebase t.workingPath) rules) (t.plan settings rules) := by
  unfold FileTree.plan
  refine (discover_rebase h hroot).and_eq_ok.bind ?_
  rintro types types' ⟨rfl, htypes⟩
  exact planFor_rebase t.workingPath settings rules fun d hd habsolute =>
    isAbsolute_origin h htypes habsolute d hd

/-! ### Trees -/

/-- Two trees that only differ in the origins that are named in front of builders, and which have a
property. -/
structure SameButOrigins (p : String → Prop) (base : String) (t t' : FileTree) : Prop where
  working : t.working = t'.working
  places : ∀ l, t.get? l = t'.get? l ∨ ∃ origin body, p origin
    ∧ t.get? l = some (.file (.text (fileHeader (join base origin) ++ body)))
    ∧ t'.get? l = some (.file (.text (fileHeader origin ++ body)))

theorem SameButOrigins.refl (p : String → Prop) (base : String) (t : FileTree) :
    SameButOrigins p base t t :=
  ⟨rfl, fun _ => .inl rfl⟩

theorem SameButOrigins.mono {p q : String → Prop} {base : String} {u u' : FileTree}
    (h : SameButOrigins p base u u') (hpq : ∀ origin, p origin → q origin) :
    SameButOrigins q base u u' := by
  refine ⟨h.working, fun l => (h.places l).imp_right ?_⟩
  rintro ⟨origin, body, hp, hfiles⟩
  exact ⟨origin, body, hpq origin hp, hfiles⟩

/-- Each of the two trees has what the other one has. -/
theorem SameButOrigins.grows {p : String → Prop} {base : String} {u u' : FileTree}
    (h : SameButOrigins p base u u') :
    Grows u u' ∧ Grows u' u := by
  refine ⟨⟨h.working.symm, fun l hl => ?_, fun l hl => ?_⟩,
    ⟨h.working, fun l hl => ?_, fun l hl => ?_⟩⟩
  all_goals
    rcases h.places l with hsame | ⟨origin, body, -, hfile, hfile'⟩
  · rw [← hsame, hl]
  · rw [hfile] at hl
    cases hl
  · rw [← hsame, hl]
  · rw [hfile']
    rfl
  · rw [hsame, hl]
  · rw [hfile'] at hl
    cases hl
  · rw [hsame, hl]
  · rw [hfile]
    rfl

/-- Two files that only differ in their origins are written to the same place, or not at all. -/
theorem SameButOrigins.write? {p : String → Prop} {base : String} {u u' : FileTree}
    {f f' : PlannedFile} (h : SameButOrigins p base u u') (hf : SameButOrigin p base f f')
    (path : String) :
    (u.write? path (.text f.text) = none ∧ u'.write? path (.text f'.text) = none)
      ∨ ∃ v v', u.write? path (.text f.text) = some v ∧ u'.write? path (.text f'.text) = some v'
        ∧ SameButOrigins p base v v' := by
  obtain ⟨hgrows, hgrows'⟩ := h.grows
  have hdirectory : ∀ l, u.get? l = some .directory ↔ u'.get? l = some .directory :=
    fun l => ⟨hgrows.directory l, hgrows'.directory l⟩
  cases hwrite : u.write? path (.text f.text) with
  | some v =>
    obtain ⟨hend, l, htarget, hnew, rfl⟩ := write?_eq_some_iff.1 hwrite
    have hnew' : u'.get? l ≠ some .directory := fun hdir => hnew ((hdirectory l).2 hdir)
    refine .inr ⟨_, _, rfl, write?_eq_some_iff.2 ⟨hend, l, hgrows.target? htarget, hnew', rfl⟩,
      h.working, ?_⟩
    intro k
    rw [get?_put _ (not_isPrefixOf_of_get? hnew), get?_put _ (not_isPrefixOf_of_get? hnew')]
    by_cases hk : k = l
    · obtain ⟨origin, body, hp, htext, htext'⟩ := hf.text
      rw [if_pos hk, if_pos hk, htext, htext']
      exact .inr ⟨origin, body, hp, rfl, rfl⟩
    · rw [if_neg hk, if_neg hk]
      exact h.places k
  | none =>
    refine .inl ⟨rfl, ?_⟩
    cases hwrite' : u'.write? path (.text f'.text) with
    | none => rfl
    | some v' =>
      obtain ⟨hend, l, htarget, hnew, -⟩ := write?_eq_some_iff.1 hwrite'
      have hsome : u.write? path (.text f.text) = some (u.put l (.file (.text f.text))) :=
        write?_eq_some_iff.2
        ⟨hend, l, hgrows'.target? htarget, fun hdir => hnew ((hdirectory l).1 hdir), rfl⟩
      rw [hwrite] at hsome
      cases hsome

/-- **Files that only differ in their origins are written to the same places.** -/
theorem SameButOrigins.writeFiles {p : String → Prop} {files files' : List PlannedFile}
    (hfiles : List.Forall₂ (SameButOrigin p t.workingPath) files files') (ht : t.HasPath)
    (directory : String) {u u' : FileTree} (hu : u.working = t.working)
    (h : SameButOrigins p t.workingPath u u') :
    SameButOrigins p t.workingPath (u.writeFiles (join t.workingPath directory) files).1
        (u'.writeFiles directory files').1
      ∧ Alike (fun _ _ => True) (u.writeFiles (join t.workingPath directory) files).2
        (u'.writeFiles directory files').2 := by
  induction hfiles generalizing u u' with
  | nil => exact ⟨h, .ok trivial⟩
  | @cons f f' files files' hf _ ih =>
    have hpath : ∀ content, u.write? (join (join t.workingPath directory) f.name) content
        = u.write? (join directory f'.name) content := by
      intro content
      have hsame : t.workingPath = u.workingPath := by
        unfold workingPath
        rw [hu]
      have hu' : u.HasPath := by
        unfold HasPath
        rw [hu]
        exact ht
      rw [join_join (workingPath_ne_empty t), hf.name, hsame, write?_join_working hu']
    rw [writeFiles_cons, writeFiles_cons, hpath]
    rcases h.write? hf (join directory f'.name) with ⟨hnone, hnone'⟩ | ⟨v, v', hwrite, hwrite', hv⟩
    · rw [hnone, hnone']
      exact ⟨h, .error _ _⟩
    · rw [hwrite, hwrite']
      dsimp only
      obtain ⟨l, hgrows, -⟩ := write?_spec hwrite
      obtain ⟨htrees, hwritten⟩ := ih (hgrows.working.trans hu) hv
      exact ⟨htrees, hwritten.map fun _ _ _ => trivial⟩

/-- **The two passes.**  They end in the same way, and the trees that they leave only differ in the
origins in front of builders. -/
theorem generate_rebase (h : t.IsRegular) {settings : Settings} (rules : List Check)
    (hroot : settings.root ≠ "") :
    SameButOrigins (fun origin => isAbsolute settings.root = true → isAbsolute origin = true)
      t.workingPath
        (t.generate (settings.rebase t.workingPath) rules).1 (t.generate settings rules).1
      ∧ Alike (fun report report' => report.violations = report'.violations)
        (t.generate (settings.rebase t.workingPath) rules).2 (t.generate settings rules).2 := by
  have hplans := plan_rebase h rules hroot
  unfold FileTree.generate
  generalize t.plan (settings.rebase t.workingPath) rules = planned at hplans
  generalize t.plan settings rules = planned' at hplans
  cases hplans with
  | error e e' => exact ⟨.refl _ _ t, .error e e'⟩
  | @ok plan plan' hsame =>
    show SameButOrigins _ _ (t.carryOut (join t.workingPath settings.outputPath) plan).1 _
      ∧ Alike _ (t.carryOut (join t.workingPath settings.outputPath) plan).2 _
    dsimp only
    unfold FileTree.carryOut
    rw [createDirectories_join_working h.hasPath]
    have hgrows := (createDirectories_spec t settings.outputPath).grows
    cases hmade : t.createDirectories settings.outputPath with
    | mk made ok =>
      rw [hmade] at hgrows
      cases ok with
      | false => exact ⟨.refl _ _ made, .error _ _⟩
      | true =>
        obtain ⟨htrees, hwritten⟩ :=
          SameButOrigins.writeFiles hsame.files h.hasPath settings.outputPath
          hgrows.working (.refl _ _ made)
        exact ⟨htrees, hwritten.map fun _ _ _ => hsame.violations⟩

end FluentBuilder
