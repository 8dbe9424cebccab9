import FluentBuilder.Proofs.PlacedItems
import FluentBuilder.Proofs.ScannedTypes
import FluentBuilder.Workspace.Discovery

/-!
# What a scan of a file gives

Once the marked structs of a file and the origins of constructors are known, a scan describes the
structs one after the other, each with the constructors that come from its own origins.

* `constructorsIn` — the constructors of a type in a file;
* `describeMarked_eq_mapM` — structs with different names are described independently of each other;
* `scanFileItems_spec` — the outcome of a scan: which structs it lists, with which constructors, or
  its first failure.
-/

namespace FluentBuilder

open FluentBuilder.Code

/-- The constructors of a type in the module with the given path, in source order. -/
def constructorsIn (module : String) (items : List Item) (path name : String) : List Constructor :=
  (originsIn module items path name).map Origin.constructor

/-- The description of a marked struct beside the constructors of its file. -/
def describeIn (module : String) (items : List Item) (m : String × TypeDeclaration) :
    Except DescribeError TypeDescriptor :=
  describe m.2 m.1 (some (constructorsIn module items m.1 m.2.name))

/-- Structs with different names get their own constructors, whatever stands in front of them. -/
theorem describeMarked_eq_mapM {findings : List Finding} {before : List (String × String)}
    {marked : List (String × TypeDeclaration)}
    (hdistinct : (marked.map fun m => (m.1, m.2.name)).Nodup)
    (hbefore : ∀ m ∈ marked, (m.1, m.2.name) ∉ before) :
    describeMarked findings before marked
      = marked.mapM fun m => describe m.2 m.1 (some (constructorsFor m.1 m.2.name findings)) := by
  induction marked generalizing before with
  | nil => rfl
  | cons m rest ih =>
    obtain ⟨hnew, hrest⟩ := List.nodup_cons.1 hdistinct
    obtain ⟨hhere, hothers⟩ := List.forall_mem_cons.1 hbefore
    have hfirst : before.contains (m.1, m.2.name) = false := by simpa using hhere
    have hlater : ∀ m' ∈ rest, (m'.1, m'.2.name) ∉ (m.1, m.2.name) :: before := by
      intro m' hm' hmem
      rcases List.mem_cons.1 hmem with hsame | hmem
      · exact hnew (List.mem_map.2 ⟨m', hm', hsame⟩)
      · exact hothers m' hm' hmem
    simp only [describeMarked, List.mapM_cons, hfirst, ih hrest hlater, Bool.false_eq_true,
      if_false]

/-- A scan describes the marked structs of the file one by one. -/
theorem scanItems_eq_mapM {markers : List String} {module : String} {items : List Item}
    (hdistinct : ((markedIn markers module items).map fun m => (m.1, m.2.name)).Nodup) :
    scanItems markers module items
      = (markedIn markers module items).mapM (describeIn module items) := by
  have hfound : (fun m : String × TypeDeclaration => describe m.2 m.1
      (some (constructorsFor m.1 m.2.name (itemsFindings markers module items))))
        = describeIn module items := by
    funext m
    rw [constructorsFor_itemsFindings]
    rfl
  show describeMarked (itemsFindings markers module items) []
    (markedStructs (itemsFindings markers module items)) = _
  rw [markedStructs_itemsFindings, describeMarked_eq_mapM hdistinct fun _ _ => List.not_mem_nil,
    hfound]

/-- What a scanned type has: the file, the module and the name of its struct, and the constructors
of the file, unless its attributes say how a value is constructed. -/
structure ScannedFrom (module file : String) (items : List Item) (m : String × TypeDeclaration)
    (d : Discovered) :
    Prop where
  described : describeIn module items m = .ok d.type
  origin : d.origin = file
  name : d.type.name = ⟨m.1, m.2.name⟩
  constructors : ¬ CarriesConstruction m.2.attributes →
    d.type.constructors = constructorsIn module items m.1 m.2.name

theorem constructors_of_describe {d : TypeDeclaration} {package : String} {found : List Constructor}
    {t : TypeDescriptor} (h : describe d package (some found) = .ok t)
    (hcarries : ¬ CarriesConstruction d.attributes) :
    t.constructors = found := by
  obtain ⟨-, items, said, fields, -, hsaid, -, -, rfl⟩ := describe_eq_ok_iff.1 h
  rw [eq_empty_of_typeAttributes hsaid hcarries]
  rfl

theorem scannedFrom_of_describeIn {module file : String} {items : List Item}
    {m : String × TypeDeclaration} {t : TypeDescriptor} (h : describeIn module items m = .ok t) :
    ScannedFrom module file items m ⟨t, file⟩ :=
  ⟨h, rfl, name_of_describe h, constructors_of_describe h⟩

theorem scanFileItems_eq_ok_iff {markers : List String} {module file : String} {items : List Item}
    {types : List Discovered} : scanFileItems markers module file items = .ok types
      ↔ ∃ ts, scanItems markers module items = .ok ts ∧ types = ts.map fun t => ⟨t, file⟩ := by
  unfold scanFileItems
  cases scanItems markers module items with
  | ok ts => simp [eq_comm]
  | error e => simp

theorem scanFileItems_eq_error_iff {markers : List String} {module file : String}
    {items : List Item} {e : WorkspaceError} : scanFileItems markers module file items = .error e
      ↔ ∃ reason, scanItems markers module items = .error reason
        ∧ e = .malformedFile file (some reason) := by
  unfold scanFileItems
  cases scanItems markers module items with
  | ok ts => simp
  | error e => simp [eq_comm]

/-- **What a scan of a file gives**, where no two marked structs share module and name.  It succeeds
exactly when each marked struct can be described, and otherwise fails as the first one in source
order that cannot.  It lists the structs, at any depth of modules, that derive a marker, each once
and in source order, and each has the constructors that come from the items of its module: one if a
struct of its name derives the default, one for each implementation of the default, and the
functions without receiver that return a value of the type. -/
theorem scanFileItems_spec {markers : List String} {module : String} {items : List Item}
    (file : String)
    (hdistinct : ((markedIn markers module items).map fun m => (m.1, m.2.name)).Nodup) :
    ((∃ types, scanFileItems markers module file items = .ok types)
        ↔ ∀ m ∈ markedIn markers module items, ∃ t, describeIn module items m = .ok t)
      ∧ (∀ e, scanFileItems markers module file items = .error e ↔ ∃ front m back reason,
          markedIn markers module items = front ++ m :: back
            ∧ (∀ m' ∈ front, ∃ t, describeIn module items m' = .ok t)
            ∧ describeIn module items m = .error reason ∧ e = .malformedFile file (some reason))
      ∧ ∀ types, scanFileItems markers module file items = .ok types →
          List.Forall₂ (ScannedFrom module file items) (markedIn markers module items) types := by
  have hscan := scanItems_eq_mapM hdistinct
  refine ⟨?_, fun e => ?_, fun types htypes => ?_⟩
  · rw [← exists_mapM_eq_ok_iff, ← hscan]
    constructor
    · rintro ⟨types, htypes⟩
      obtain ⟨ts, hts, -⟩ := scanFileItems_eq_ok_iff.1 htypes
      exact ⟨ts, hts⟩
    · rintro ⟨ts, hts⟩
      exact ⟨_, scanFileItems_eq_ok_iff.2 ⟨ts, hts, rfl⟩⟩
  · rw [scanFileItems_eq_error_iff, hscan]
    constructor
    · rintro ⟨reason, hreason, rfl⟩
      obtain ⟨front, m, back, hsplit, hfront, hm⟩ := mapM_eq_error_iff.1 hreason
      exact ⟨front, m, back, reason, hsplit, hfront, hm, rfl⟩
    · rintro ⟨front, m, back, reason, hsplit, hfront, hm, rfl⟩
      exact ⟨reason, mapM_eq_error_iff.2 ⟨front, m, back, hsplit, hfront, hm⟩, rfl⟩
  · obtain ⟨ts, hts, rfl⟩ := scanFileItems_eq_ok_iff.1 htypes
    rw [hscan, mapM_eq_ok_iff] at hts
    rw [List.forall₂_map_right_iff]
    exact hts.imp fun m t h => scannedFrom_of_describeIn h

/-- A file with two structs of one name, the inner one with its implementation in front of it. -/
def nestedText : String :=
  "mod inner \x7b\n    impl Job \x7b\n        pub fn new() -> Self \x7b Job \x7d\n"
    ++ "        fn of(id: u8) -> Job \x7b Job \x7d\n    \x7d\n"
    ++ "    #[derive(AutoBuilder)]\n    pub struct Job;\n\x7d\n"
    ++ "impl Default for Job \x7b\n    fn default() -> Self \x7b Job \x7d\n\x7d\n"
    ++ "#[derive(kit::AutoBuilder)]\nstruct Job;\n"

/-- A test on the outcome of a scan of a text, and what it says about the items of the text. -/
theorem exists_scan_of_any {text module file : String} {markers : List String}
    {p : List Item → List Discovered → Bool}
    (h : (sourceItems? text).any (fun items =>
      (scanFileItems markers module file items).toOption.any (p items)) = true) :
    ∃ items types, sourceItems? text = some items
      ∧ scanFileItems markers module file items = .ok types
      ∧ p items types = true := by
  obtain ⟨items, hitems, h⟩ := (Option.any_eq_true _ _).1 h
  obtain ⟨types, htypes, hp⟩ := exists_ok_of_any h
  exact ⟨items, types, hitems, htypes, hp⟩

/-- Each of the two structs gets the constructors of its own module. -/
theorem scanFileItems_spec_nested : ∃ items types, sourceItems? nestedText = some items
    ∧ ((markedIn ["AutoBuilder"] "crate" items).map fun m => (m.1, m.2.name)).Nodup
    ∧ scanFileItems ["AutoBuilder"] "crate" "lib.rs" items = .ok types
    ∧ List.Forall₂ (ScannedFrom "crate" "lib.rs" items) (markedIn ["AutoBuilder"] "crate" items)
      types
    ∧ types.map (fun d => (d.type.name, d.type.constructors)) =
      [(⟨"crate::inner", "Job"⟩, [{ name := some "new", visibility := .pub },
          { name := some "of", params := [⟨"id", "u8"⟩], visibility := .priv }]),
        (⟨"crate", "Job"⟩, [.ofDefault])] := by
  have hrun : (sourceItems? nestedText).any (fun items =>
      (scanFileItems ["AutoBuilder"] "crate" "lib.rs" items).toOption.any fun types =>
        decide ((markedIn ["AutoBuilder"] "crate" items).map fun m => (m.1, m.2.name)).Nodup
          && decide (types.map (fun d => (d.type.name, d.type.constructors)) =
            [(⟨"crate::inner", "Job"⟩, [{ name := some "new", visibility := .pub },
                { name := some "of", params := [⟨"id", "u8"⟩], visibility := .priv }]),
              (⟨"crate", "Job"⟩, [.ofDefault])])) = true := by
    decide +kernel
  obtain ⟨items, types, hitems, htypes, hp⟩ := exists_scan_of_any hrun
  rw [Bool.and_eq_true, decide_eq_true_eq, decide_eq_true_eq] at hp
  exact ⟨items, types, hitems, hp.1, htypes, (scanFileItems_spec "lib.rs" hp.1).2.2 types htypes,
    hp.2⟩

/-- **A struct that derives its default twice** has one constructor for it. -/
theorem one_default_of_two_derives : ∃ items m types,
    sourceItems? "#[derive(Default)]\n#[derive(Default, AutoBuilder)]\nstruct Job;\n" = some items
      ∧ markedIn ["AutoBuilder"] "crate" items = [m]
      ∧ (derivedNames m.2.attributes).count "Default" = 2
      ∧ scanFileItems ["AutoBuilder"] "crate" "lib.rs" items = .ok types
      ∧ types.map (fun d => d.type.constructors) = [[.ofDefault]] := by
  have hrun : (sourceItems?
    "#[derive(Default)]\n#[derive(Default, AutoBuilder)]\nstruct Job;\n").any (fun items =>
      (scanFileItems ["AutoBuilder"] "crate" "lib.rs" items).toOption.any fun types =>
        ((markedIn ["AutoBuilder"] "crate" items).map fun m =>
          (derivedNames m.2.attributes).count "Default") == [2]
          && types.map (fun d => d.type.constructors) == [[.ofDefault]]) = true := by
    decide +kernel
  obtain ⟨items, types, hitems, htypes, hp⟩ := exists_scan_of_any hrun
  rw [Bool.and_eq_true, beq_iff_eq, beq_iff_eq, List.map_eq_singleton_iff] at hp
  obtain ⟨⟨m, hmarked, htwice⟩, hconstructors⟩ := hp
  exact ⟨items, m, types, hitems, hmarked, htwice, htypes, hconstructors⟩

end FluentBuilder
