import FluentBuilder.Proofs.Workspace.KeptOrigins
import FluentBuilder.Proofs.Workspace.ModulePaths

/-!
# Crates and their source directories

A search from the directory of a crate walks through its source directory on the way, just as a
search from there would, and describes what it finds there in the same way, but for the roots of the
crate.

* `IsRegular.walk_join` — the walk of a directory goes through the walk of each directory in it;
* `gathers_filter_eq` — two searches along one walk keep the same, file by file;
* `source_directory_spec` — module paths, and the builders of types, under either directory.
-/

namespace FluentBuilder

open FilePath FileTree

namespace FileTree

variable {t : FileTree} {enters : String → Bool}

/-! ### Walks through walks -/

theorem walkNames_append (t : FileTree) (enters : String → Bool) (fuel : Nat) (path : String)
    (l : Location) (xs ys : List String) :
    t.walkNames enters fuel path l (xs ++ ys)
      = t.walkNames enters fuel path l xs ++ t.walkNames enters fuel path l ys := by
  induction xs with
  | nil => simp [walkNames]
  | cons name rest ih => simp [walkNames, ih]

theorem walkNames_congr {fuel fuel' : Nat} {path : String} {l : Location} {names : List String}
    (h : ∀ name ∈ names, t.walkAt enters fuel (join path name) (l ++ [name])
      = t.walkAt enters fuel' (join path name) (l ++ [name])) :
    t.walkNames enters fuel path l names = t.walkNames enters fuel' path l names := by
  induction names with
  | nil => simp [walkNames]
  | cons name rest ih =>
    obtain ⟨hname, hrest⟩ := List.forall_mem_cons.1 h
    simp [walkNames, hname, ih hrest]

/-- A walk is the same with any fuel that is enough for all that is known below. -/
theorem walkAt_fuel {fuel fuel' : Nat} {path : String} {l : Location} (h : t.knownBelow l < fuel)
    (h' : t.knownBelow l < fuel') : t.walkAt enters fuel path l = t.walkAt enters fuel' path l := by
  induction fuel generalizing fuel' path l with
  | zero => omega
  | succ fuel ih =>
    obtain ⟨fuel', rfl⟩ : ∃ n, fuel' = n + 1 := ⟨fuel' - 1, by omega⟩
    unfold walkAt
    cases hplace : t.get? l with
    | none => rfl
    | some place =>
      cases place with
      | file content => rfl
      | directory =>
        have hnames : t.walkNames enters fuel path l (t.namesIn l)
            = t.walkNames enters fuel' path l (t.namesIn l) := by
          refine walkNames_congr fun name _ => ?_
          have hlt := knownBelow_lt (t := t) (l := l) (by simp [hplace]) name
          exact ih (by omega) (by omega)
        simp only [hnames]

/-- A visit below some names of a directory goes through one of them. -/
theorem IsRegular.components_of_mem_walkAt (h : t.IsRegular) {fuel : Nat} {path : String}
    {l : Location} {visit : Visit} (hvisit : visit ∈ t.walkAt enters fuel path l) :
    components path <+: components visit.path := by
  induction fuel generalizing path l with
  | zero => simp [walkAt] at hvisit
  | succ fuel ih =>
    unfold walkAt at hvisit
    split at hvisit
    · rcases List.mem_cons.1 hvisit with rfl | hvisit
      · exact List.prefix_rfl
      · obtain ⟨name, hname, -, hvisit⟩ := mem_walkNames_iff.1 hvisit
        have hplain := (h.names _ (mem_namesIn_iff.1 hname) name (by simp)).1
        have hbelow := ih hvisit
        rw [components_join hplain] at hbelow
        exact (List.prefix_append _ _).trans hbelow
    · obtain rfl := List.mem_singleton.1 hvisit
      exact List.prefix_rfl
    · simp at hvisit

/-- A visit below other names of a directory does not lie below a name. -/
theorem IsRegular.not_below_of_mem_walkNames (h : t.IsRegular) {fuel : Nat} {path name : String}
    {l : Location} {visit : Visit} {names : List String} (hplain : IsPlainName name)
    (hnames : ∀ n ∈ names, n ∈ t.namesIn l) (hname : name ∉ names)
    (hvisit : visit ∈ t.walkNames enters fuel path l names) :
    ¬ components (join path name) <+: components visit.path := by
  intro hbelow
  obtain ⟨other, hother, -, hvisit⟩ := mem_walkNames_iff.1 hvisit
  have hotherPlain := (h.names _ (mem_namesIn_iff.1 (hnames other hother)) other (by simp)).1
  have hthere := h.components_of_mem_walkAt hvisit
  rw [components_join hplain] at hbelow
  rw [components_join hotherPlain] at hthere
  -- two names at one place of a path are the same
  have hsame := List.prefix_of_prefix_length_le hbelow hthere (by simp)
  have heq := hsame.eq_of_length (by simp)
  simp only [List.append_cancel_left_eq, List.cons.injEq, Component.name.injEq, and_true] at heq
  exact hname (heq ▸ hother)

/-- **The walk of a directory goes through the walk of each directory in it.** -/
theorem IsRegular.walk_join (h : t.IsRegular) {base name : String} (hplain : IsPlainName name)
    (henters : enters name = true) (hbase : t.exists? base = true)
    (hname : t.exists? (join base name) = true) :
    ∃ before after, t.walk enters base = before ++ t.walk enters (join base name) ++ after
      ∧ ∀ visit ∈ before ++ after, ¬ components (join base name) <+: components visit.path := by
  obtain ⟨l, hl⟩ := Option.isSome_iff_exists.1 hbase
  obtain ⟨k, hk⟩ := Option.isSome_iff_exists.1 hname
  obtain ⟨hempty, hfollow, -⟩ := resolve?_eq_some_iff.1 hl
  obtain ⟨-, hjoin, -⟩ := resolve?_eq_some_iff.1 hk
  rw [components_join hplain] at hjoin
  obtain ⟨up, hup, hdir, -, hthere, rfl⟩ := follow?_concat_name_iff.1 hjoin
  obtain rfl : up = l := Option.some.inj (hup.symm.trans hfollow)
  obtain ⟨before, after, hnames⟩ := List.append_of_mem (mem_namesIn_iff.2 hthere)
  have hnodup : (before ++ name :: after).Nodup := hnames ▸ (pairwise_namesIn t up).imp ne_of_lt
  have hfresh : name ∉ before ∧ name ∉ after := by
    rw [List.nodup_append] at hnodup
    exact ⟨fun hmem => hnodup.2.2 name hmem name (by simp) rfl, (List.nodup_cons.1 hnodup.2.1).1⟩
  have hfuel := knownBelow_lt (t := t) (isSome_of_resolve? hl) name
  have hbound := knownBelow_le t up
  refine ⟨⟨base, .directory⟩ :: t.walkNames enters (t.places.length + t.working.length
    + 1) base up before,
    t.walkNames enters (t.places.length + t.working.length + 1) base up after, ?_, ?_⟩
  · unfold walk
    rw [hl, hk]
    dsimp only
    have hwalk : t.walkAt enters (t.places.length + t.working.length + 2) (join base name)
          (up ++ [name])
        = t.walkAt enters (t.places.length + t.working.length + 1) (join base name)
          (up ++ [name]) :=
      walkAt_fuel (by omega) (by omega)
    rw [hwalk]
    conv_lhs => unfold walkAt
    rw [isDirectoryAt_iff.1 hdir]
    dsimp only
    rw [hnames, walkNames_append]
    simp [walkNames, henters]
  · intro visit hvisit
    rcases List.mem_append.1 hvisit with hvisit | hvisit
    · rcases List.mem_cons.1 hvisit with rfl | hvisit
      · intro hbelow
        have hlength := hbelow.length_le
        simp [components_join hplain] at hlength
      · exact h.not_below_of_mem_walkNames hplain (fun n hn => by simp [hnames, hn]) hfresh.1 hvisit
    · exact h.not_below_of_mem_walkNames hplain (fun n hn => by simp [hnames, hn]) hfresh.2 hvisit

/-! ### Searches along one walk -/

variable {ε α : Type}

/-- Two searches along one walk keep the same when they do so in each place. -/
theorem gathers_filter_eq {step step' : Visit → Except ε (List α)} {keep : α → Bool}
    {visits : List Visit}
    {items items' : List α} (h : Gathers step visits items) (h' : Gathers step' visits items')
    (hkeep : ∀ visit ∈ visits, ∀ here here', step visit = .ok here → step' visit = .ok here' →
      here.filter keep = here'.filter keep) : items.filter keep = items'.filter keep := by
  induction h generalizing items' with
  | nil =>
    cases h'
    rfl
  | cons hhere _ ih =>
    cases h' with
    | cons hhere' hrest' =>
      obtain ⟨hfirst, hothers⟩ := List.forall_mem_cons.1 hkeep
      rw [List.filter_append, List.filter_append, hfirst _ _ hhere hhere', ih hrest' hothers]

/-- A search keeps nothing when it does so in no place. -/
theorem gathers_filter_nil {step : Visit → Except ε (List α)} {keep : α → Bool}
    {visits : List Visit} {items : List α} (h : Gathers step visits items)
    (hkeep : ∀ visit ∈ visits, ∀ here, step visit = .ok here → here.filter keep = []) :
    items.filter keep = [] := by
  induction h with
  | nil => rfl
  | cons hhere _ ih =>
    obtain ⟨hfirst, hothers⟩ := List.forall_mem_cons.1 hkeep
    rw [List.filter_append, hfirst _ hhere, ih hothers, List.append_nil]

end FileTree

/-! ### Types below a source directory -/

/-- Whether a file lies below a source directory and is not the root of its crate. -/
def isInModule (source file : String) : Bool :=
  (components source).isPrefixOf (components file) && !isCrateRoot (namesBelow source file)

/-- A file below a source directory holds the same types under the crate and under the source
directory, unless it is the root of the crate. -/
theorem scanVisit_join_src {crate : String} {markers : List String} {visit : Visit}
    (h : isInModule (join crate "src") visit.path = true) :
    scanVisit crate markers visit = scanVisit (join crate "src") markers visit := by
  simp only [isInModule, Bool.and_eq_true, Bool.not_eq_true', List.isPrefixOf_iff_prefix] at h
  obtain ⟨⟨below, hbelow⟩, hroot⟩ := h
  rw [namesBelow_of_components hbelow.symm] at hroot
  have hmodule := modulePath_below_src hbelow.symm hroot
  unfold scanVisit
  rw [hmodule]

theorem filter_eq_nil_of_origin {root : String} {markers : List String} {visit : Visit}
    {types : List Discovered} {p : String → Bool} (h : scanVisit root markers visit = .ok types)
    (hp : p visit.path = false) :
    types.filter (fun d => p d.origin) = [] := by
  refine List.filter_eq_nil_iff.2 fun d hd => ?_
  simp [(place_of_mem_scanVisit h hd).1, hp]

/-- **Both searches find the same types** in the files below the source directory, but for the root
of the crate. -/
theorem scan_join_src {t : FileTree} (h : t.IsRegular) {crate : String} {markers : List String}
    {types types' : List Discovered} (hcrate : t.scan crate markers = .ok types)
    (hsource : t.scan (join crate "src") markers = .ok types') :
    types.filter (fun d => isInModule (join crate "src") d.origin)
      = types'.filter fun d => isInModule (join crate "src") d.origin := by
  obtain ⟨hexists, hfound⟩ := scan_eq_ok_iff.1 hcrate
  obtain ⟨hexists', hfound'⟩ := scan_eq_ok_iff.1 hsource
  have henters : isScanned "src" = true := by decide
  obtain ⟨before, after, hwalk, hbeside⟩ := h.walk_join isPlainName_src henters hexists hexists'
  have hgathers := gathers_iff_forall₂.2 hfound
  rw [hwalk] at hgathers
  obtain ⟨front, zs, hfront, hzs, rfl⟩ := gathers_append_iff.1 hgathers
  obtain ⟨xs, ys, hxs, hys, rfl⟩ := gathers_append_iff.1 hfront
  -- what is found beside the source directory is not below it
  have hnothing : ∀ visit ∈ before ++ after, ∀ here, scanVisit crate markers visit = .ok here →
      here.filter (fun d => isInModule (join crate "src") d.origin) = [] := by
    intro visit hvisit here hhere
    refine filter_eq_nil_of_origin hhere ?_
    have hnot := hbeside visit hvisit
    rw [← List.isPrefixOf_iff_prefix, Bool.not_eq_true] at hnot
    simp [isInModule, hnot]
  rw [List.filter_append, List.filter_append,
    gathers_filter_nil hxs fun visit hvisit => hnothing visit (List.mem_append_left after hvisit),
    gathers_filter_nil hzs fun visit hvisit => hnothing visit (List.mem_append_right before hvisit),
    List.nil_append, List.append_nil]
  refine gathers_filter_eq hys (gathers_iff_forall₂.2 hfound') fun visit _ here here' hhere
    hhere' => ?_
  cases hin : isInModule (join crate "src") visit.path with
  | true =>
    rw [scanVisit_join_src hin, hhere'] at hhere
    rw [Except.ok.inj hhere]
  | false => rw [filter_eq_nil_of_origin hhere hin, filter_eq_nil_of_origin hhere' hin]

/-- Keeping builders by their origins is keeping the types. -/
theorem filter_accepted (rules : List Check) (p : String → Bool) (types : List Discovered) :
    (accepted rules types).filter (fun a => p a.origin) = accepted rules
    (types.filter fun d => p d.origin) := by
  induction types with
  | nil => rfl
  | cons d rest ih =>
    cases h : synthesizeWith rules d.type with
    | ok model =>
      have hcons := (accepted_cons_of_ok rest h).1
      cases hp : p d.origin with
      | true =>
        have hkept := (accepted_cons_of_ok (rest.filter fun d => p d.origin) h).1
        simp [hcons, hp, hkept, ih]
      | false => simp [hcons, hp, ih]
    | error v =>
      have hcons := (accepted_cons_of_error rest h).1
      cases hp : p d.origin with
      | true =>
        have hleft := (accepted_cons_of_error (rest.filter fun d => p d.origin) h).1
        simp [hcons, hp, hleft, ih]
      | false => simp [hcons, hp, ih]

/-- **A crate and its source directory.**  The module path of a file below the source directory is
the same under both, unless the file is the root of the crate, directly in that directory: under the
crate it is then the crate's own module, and under the source directory a module of the crate.  So a
pass from either directory makes the same builders for the types in all other files below the source
directory. -/
theorem source_directory_spec (crate : String) :
    (∀ file below, components file = components (join crate "src") ++ below →
      (isCrateRoot (stepNames below) = false →
        modulePath crate file = modulePath (join crate "src") file)
      ∧ (isCrateRoot (stepNames below) = true → modulePath crate file = "crate"
        ∧ (modulePath (join crate "src") file = "crate::lib"
          ∨ modulePath (join crate "src") file = "crate::main")))
    ∧ ∀ (t : FileTree) (settings : Settings) (rules : List Check) (types types' : List Discovered),
      t.IsRegular →
      settings.source = .sourceFiles → t.discover { settings with scanPath := crate } = .ok types →
      t.discover { settings with scanPath := join crate "src" } = .ok types' →
      (accepted rules types).filter (fun a => isInModule (join crate "src") a.origin)
        = (accepted rules types').filter fun a => isInModule (join crate "src") a.origin := by
  refine ⟨fun file below h => ⟨modulePath_below_src h, modulePath_of_isCrateRoot h⟩, ?_⟩
  intro t settings rules types types' hregular hsource htypes htypes'
  have hcrate := (discover_eq_ok_iff.1 htypes).1
  have hdirectory := (discover_eq_ok_iff.1 htypes').1
  simp only [FileTree.load, hsource] at hcrate hdirectory
  rw [filter_accepted rules (isInModule (join crate "src")),
    filter_accepted rules (isInModule (join crate "src")), scan_join_src hregular hcrate hdirectory]

/-- The root of a crate has another module path when its directory is searched than when the crate
is. -/
theorem modulePath_crate_root :
    components "app/src/lib.rs" = components (join "app" "src") ++ [.name "lib.rs"]
      ∧ modulePath "app" "app/src/lib.rs" ≠ modulePath (join "app" "src") "app/src/lib.rs" := by
  decide

/-- A crate with a type in its root, another one in a nested module, and the directory of a
build. -/
def nestedCrateTree : FileTree :=
  ⟨[(["src"], .directory), (["src", "lib.rs"], .file (.text rootText)),
    (["src", "model"], .directory),
    (["src", "model", "job.rs"], .file (.text ownOutputTree.jobText)), (["target"], .directory)],
      []⟩
where
  /-- The text of the root. -/
  rootText : String := "#[derive(AutoBuilder, Default)]\nstruct Task;\n"

/-- What is met in the source directory of this crate. -/
def nestedCrateTree.sourceVisits : List Visit :=
  [⟨"./src", .directory⟩, ⟨"./src/lib.rs", .file (.text rootText)⟩, ⟨"./src/model", .directory⟩,
    ⟨"./src/model/job.rs", .file (.text ownOutputTree.jobText)⟩]

/-- The source directory is met on the way through the crate. -/
theorem walk_nestedCrateTree :
    nestedCrateTree.walk isScanned "." = ⟨".", .directory⟩ :: nestedCrateTree.sourceVisits
      ∧ nestedCrateTree.walk isScanned (join "." "src") = nestedCrateTree.sourceVisits := by
  have hroot : nestedCrateTree.resolve? "." = some []
      ∧ nestedCrateTree.resolve? "./src" = some ["src"] := by
    decide +kernel
  have hdirectories : nestedCrateTree.get? [] = some .directory
      ∧ nestedCrateTree.get? ["src"] = some .directory
      ∧ nestedCrateTree.get? ["src", "model"] = some .directory := by
    decide +kernel
  have hfiles : nestedCrateTree.get? ["src", "lib.rs"]
    = some (.file (.text nestedCrateTree.rootText))
      ∧ nestedCrateTree.get? ["src", "model", "job.rs"]
        = some (.file (.text ownOutputTree.jobText)) := by
    decide +kernel
  have hnames : nestedCrateTree.namesIn [] = ["src", "target"]
      ∧ nestedCrateTree.namesIn ["src"] = ["lib.rs", "model"]
      ∧ nestedCrateTree.namesIn ["src", "model"] = ["job.rs"] := by
    decide +kernel
  have hjoin : join "." "src" = "./src" ∧ join "./src" "lib.rs" = "./src/lib.rs"
      ∧ join "./src" "model" = "./src/model"
      ∧ join "./src/model" "job.rs" = "./src/model/job.rs" := by
    decide +kernel
  have henters : isScanned "src" = true ∧ isScanned "target" = false ∧ isScanned "lib.rs" = true
      ∧ isScanned "model" = true ∧ isScanned "job.rs" = true := by
    decide +kernel
  have hfuel : nestedCrateTree.places.length + nestedCrateTree.working.length + 2 = 7 := by decide
  simp [walk, walkAt, walkNames, nestedCrateTree.sourceVisits, hroot, hfuel, hdirectories, hfiles,
    hnames, hjoin, henters]

/-- In this crate either directory gives the builder of the nested module, and the root has a module
path of its own under the source directory. -/
theorem source_directory_spec_crate : ∃ types types', nestedCrateTree.IsRegular
    ∧ nestedCrateTree.discover { sourceSettings with scanPath := "." } = .ok types
    ∧ nestedCrateTree.discover { sourceSettings with scanPath := join "." "src" } = .ok types'
    ∧ (accepted defaultRules types).map (fun a => (a.origin, isInModule (join "." "src") a.origin))
      = [("./src/lib.rs", false), ("./src/model/job.rs", true)]
    ∧ (accepted defaultRules types).filter (fun a => isInModule (join "." "src") a.origin)
      = (accepted defaultRules types').filter (fun a => isInModule (join "." "src") a.origin)
    ∧ modulePath "." "./src/model/job.rs" = modulePath (join "." "src") "./src/model/job.rs"
    ∧ modulePath "." "./src/lib.rs" = "crate"
    ∧ (modulePath (join "." "src") "./src/lib.rs" = "crate::lib"
      ∨ modulePath (join "." "src") "./src/lib.rs" = "crate::main") := by
  have hregular : nestedCrateTree.IsRegular := by decide +kernel
  have hcrate : (nestedCrateTree.passFrom { sourceSettings with scanPath := "." } defaultRules
      (⟨".", .directory⟩ :: nestedCrateTree.sourceVisits)).toOption.any
      (fun pass => (accepted defaultRules pass.1).map
        (fun a => (a.origin, isInModule (join "." "src") a.origin))
        == [("./src/lib.rs", false), ("./src/model/job.rs", true)]) = true := by
    decide +kernel
  have hsource :
    (nestedCrateTree.passFrom { sourceSettings with scanPath := join "." "src" } defaultRules
      nestedCrateTree.sourceVisits).toOption.any (fun pass => pass.1.length == 2) = true := by
    decide +kernel
  obtain ⟨types, _, _, htypes, -, horigins⟩ :=
    exists_pass_of_any (by decide +kernel) walk_nestedCrateTree.1 hcrate
  obtain ⟨types', _, _, htypes', -, -⟩ :=
    exists_pass_of_any (by decide +kernel) walk_nestedCrateTree.2 hsource
  obtain ⟨hfiles, hpasses⟩ := source_directory_spec "."
  obtain ⟨hroot, hroot'⟩ := (hfiles "./src/lib.rs" [.name "lib.rs"] (by decide)).2 (by decide)
  exact ⟨types, types', hregular, htypes, htypes', eq_of_beq horigins,
    hpasses nestedCrateTree sourceSettings defaultRules types types' hregular rfl htypes htypes',
    (hfiles "./src/model/job.rs" [.name "model", .name "job.rs"] (by decide)).1 (by decide),
    hroot, hroot'⟩

end FluentBuilder
