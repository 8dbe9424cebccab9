import FluentBuilder.Proofs.Workspace.PassOutcome

/-!
# Distinct names

No two types of a workspace have the same name, and no type declares a field twice.  Four loops see
to this, each with an account of what it has seen; what they refuse is the first element of a list
with a name that occurred before.

* `RepeatsFirst` — the first repetition in a list, with the element that it repeats;
* `firstRepeated?_cases`, `checkNames_cases` — the loops find it, or the names are distinct;
* `nodup_fields_of_mem_load` — the fields of a type, whichever way it was loaded;
* `discover_names_spec` — the names of a workspace, and the failures over a repetition.
-/

namespace FluentBuilder

open FilePath FileTree FluentBuilder.Code

variable {α κ : Type}

/-! ### Repetitions -/

/-- Going through a list, `again` is the first element with a key that occurred before, and it was
`first` that had the key. -/
def RepeatsFirst (key : α → κ) (xs : List α) (first again : α) : Prop :=
  ∃ front between back, xs = front ++ first :: between ++ again :: back
    ∧ ((front ++ first :: between).map key).Nodup ∧ key first = key again

theorem RepeatsFirst.not_nodup {key : α → κ} {xs : List α} {first again : α}
    (h : RepeatsFirst key xs first again) :
    ¬ (xs.map key).Nodup := by
  obtain ⟨front, between, back, rfl, -, hsame⟩ := h
  intro hnodup
  rw [List.map_append, List.nodup_append] at hnodup
  exact hnodup.2.2 (key first) (by simp) (key again) (by simp) hsame

/-- An element whose key occurs in front of it, where the keys are distinct. -/
theorem repeatsFirst_of_mem {key : α → κ} {front back : List α} {first again : α}
    (hnodup : (front.map key).Nodup) (hfirst : first ∈ front) (hsame : key first = key again) :
    RepeatsFirst key (front ++ again :: back) first again := by
  obtain ⟨start, between, rfl⟩ := List.append_of_mem hfirst
  exact ⟨start, between, back, rfl, hnodup, hsame⟩

theorem nodup_map_concat {key : α → κ} {front : List α} {a : α} (hnodup : (front.map key).Nodup)
    (hnew : key a ∉ front.map key) : ((front ++ [a]).map key).Nodup := by
  rw [List.map_append, List.map_singleton, ← List.concat_eq_append]
  exact hnodup.concat hnew

/-- Behind what was seen, the first repetition is found, or there is none. -/
theorem firstRepeated?_cases [BEq κ] [LawfulBEq κ] {key : α → κ} {seen : List κ}
    {front rest : List α} (hseen : ∀ k, k ∈ seen ↔ k ∈ front.map key)
    (hnodup : (front.map key).Nodup) :
    (firstRepeated? seen (rest.map key) = none ∧ ((front ++ rest).map key).Nodup)
      ∨ ∃ first again, RepeatsFirst key (front ++ rest) first again
          ∧ firstRepeated? seen (rest.map key) = some (key again) := by
  induction rest generalizing seen front with
  | nil => exact .inl ⟨rfl, by rwa [List.append_nil]⟩
  | cons a rest ih =>
    by_cases hmem : key a ∈ seen
    · obtain ⟨first, hfirst, hsame⟩ := List.mem_map.1 ((hseen _).1 hmem)
      refine .inr ⟨first, a, repeatsFirst_of_mem hnodup hfirst hsame, ?_⟩
      simp [firstRepeated?, hmem]
    · have hseen' : ∀ k, k ∈ key a :: seen ↔ k ∈ (front ++ [a]).map key := by
        intro k
        simp only [List.mem_cons, hseen, List.map_append, List.mem_append, List.map_cons,
          List.map_nil, List.not_mem_nil, or_false]
        exact or_comm
      have hrest := ih hseen' (nodup_map_concat hnodup fun h => hmem ((hseen _).2 h))
      rw [List.append_assoc, List.singleton_append] at hrest
      simpa [firstRepeated?, hmem] using hrest

theorem firstRepeated?_eq_none_iff [BEq κ] [LawfulBEq κ] {keys : List κ} :
    firstRepeated? [] keys = none ↔ keys.Nodup := by
  have hcases := @firstRepeated?_cases κ κ _ _ id [] [] keys (by simp) List.nodup_nil
  rw [List.map_id, List.nil_append, List.map_id] at hcases
  rcases hcases with ⟨hnone, hnodup⟩ | ⟨first, again, hrepeats, hsome⟩
  · exact iff_of_true hnone hnodup
  · have hnot := hrepeats.not_nodup
    rw [List.map_id] at hnot
    exact iff_of_false (by simp [hsome]) hnot

/-! ### Names of types -/

/-- Behind the types that were looked at, the first one with the name of another is refused, with
the files of both. -/
theorem checkNames_cases {before : List (QualifiedName × String)} {front rest : List Discovered}
    (hbefore : ∀ name, before.lookup name
      = (front.find? fun d => d.type.name == name).map Discovered.origin)
    (hnodup : (front.map fun d => d.type.name).Nodup) :
    (checkNames before rest = .ok () ∧ ((front ++ rest).map fun d => d.type.name).Nodup)
      ∨ ∃ first again, RepeatsFirst (fun d => d.type.name) (front ++ rest) first again
          ∧ checkNames before rest
            = .error (.repeatedType again.type.name first.origin again.origin) := by
  induction rest generalizing before front with
  | nil => exact .inl ⟨rfl, by rwa [List.append_nil]⟩
  | cons d rest ih =>
    cases hfind : front.find? fun d' => d'.type.name == d.type.name with
    | some first =>
      have hlookup : before.lookup d.type.name = some first.origin := by
        rw [hbefore, hfind, Option.map_some]
      have hname : first.type.name = d.type.name := by simpa using List.find?_some hfind
      refine .inr ⟨first, d, repeatsFirst_of_mem hnodup (List.mem_of_find?_eq_some hfind) hname, ?_⟩
      simp [checkNames, hlookup]
    | none =>
      have hlookup : before.lookup d.type.name = none := by rw [hbefore, hfind, Option.map_none]
      have hnew : d.type.name ∉ front.map fun d => d.type.name := by
        simpa using hfind
      have hbefore' : ∀ name, ((d.type.name, d.origin) :: before).lookup name
          = ((front ++ [d]).find? fun d' => d'.type.name == name).map Discovered.origin := by
        intro name
        rw [List.find?_append, List.lookup_cons]
        by_cases hname : name = d.type.name
        · subst hname
          simp [hfind]
        · simp [hbefore, beq_false_of_ne hname, beq_false_of_ne (Ne.symm hname)]
      have hrest := ih hbefore' (nodup_map_concat hnodup hnew)
      rw [List.append_assoc, List.singleton_append] at hrest
      simpa [checkNames, hlookup] using hrest

/-! ### Names of fields -/

/-- The field names of a description are distinct. -/
theorem nodup_fields_of_describe {d : TypeDeclaration} {package : String}
    {found : Option (List Constructor)}
    {t : TypeDescriptor} (h : describe d package found = .ok t) :
    (t.fields.map Field.name).Nodup := by
  obtain ⟨-, items, said, fields, -, -, -, hnone, rfl⟩ := describe_eq_ok_iff.1 h
  exact firstRepeated?_eq_none_iff.1 hnone

theorem nodup_fields_of_mem_scan {t : FileTree} {root : String} {markers : List String}
    {types : List Discovered} {d : Discovered} (h : t.scan root markers = .ok types)
    (hd : d ∈ types) :
    (d.type.fields.map Field.name).Nodup := by
  obtain ⟨-, found, hfound, rfl⟩ := scan_eq_ok_iff.1 h
  obtain ⟨here, hhere, hd⟩ := List.mem_flatten.1 hd
  obtain ⟨visit, -, hvisit⟩ := exists_of_mem_right hfound hhere
  obtain ⟨-, _, _, described, -, -, hdescribed, ht⟩ := exists_of_mem_scanVisit hvisit hd
  obtain ⟨m, -, _, hfrom⟩ := exists_describe_of_mem hdescribed ht
  exact nodup_fields_of_describe hfrom

/-- A type from a descriptor file is refused for the first field that is declared again, or its
field names are distinct. -/
theorem checkFields_cases (file : String) (t : TypeDescriptor) :
    (checkFields file t = .ok () ∧ (t.fields.map Field.name).Nodup)
      ∨ ∃ before field, RepeatsFirst Field.name t.fields before field
          ∧ checkFields file t = .error (.repeatedField field.name t.name file) := by
  have hcases := @firstRepeated?_cases Field String _ _ Field.name [] [] t.fields
    (by simp) List.nodup_nil
  rw [List.nil_append] at hcases
  rcases hcases with ⟨hnone, hnodup⟩ | ⟨before, field, hrepeats, hsome⟩
  · exact .inl ⟨by simp [checkFields, TypeDescriptor.duplicateField?, hnone], hnodup⟩
  · exact .inr
      ⟨before, field, hrepeats, by simp [checkFields, TypeDescriptor.duplicateField?, hsome]⟩

theorem exists_checkFields_eq_ok_iff {file : String} {t : TypeDescriptor} :
    (∃ u, checkFields file t = .ok u) ↔ (t.fields.map Field.name).Nodup := by
  rcases checkFields_cases file t with ⟨hok, hnodup⟩ | ⟨before, field, hrepeats, herror⟩
  · exact iff_of_true ⟨_, hok⟩ hnodup
  · exact iff_of_false (by simp [herror]) hrepeats.not_nodup

variable {t : FileTree} {file text : String}

/-- A descriptor file that can be read is refused for the first field that is declared again, in the
first type with such a field, or it gives its types. -/
theorem loadDescriptorFile_cases {types : List TypeDescriptor} (hread : t.read? file = some text)
    (htypes : readTypes? file text = some types) :
    (t.loadDescriptorFile file = .ok types ∧ ∀ d ∈ types, (d.fields.map Field.name).Nodup)
      ∨ ∃ front d back before field, types = front ++ d :: back
          ∧ (∀ d' ∈ front, (d'.fields.map Field.name).Nodup)
          ∧ RepeatsFirst Field.name d.fields before field
          ∧ t.loadDescriptorFile file = .error (.repeatedField field.name d.name file) := by
  have hload : t.loadDescriptorFile file = types.mapM (checkFields file) >>= fun _ =>
      .ok types := by
    simp only [FileTree.loadDescriptorFile, hread, htypes]
    rfl
  rw [hload]
  cases hchecks : types.mapM (checkFields file) with
  | ok us =>
    have hall := exists_mapM_eq_ok_iff.1 ⟨us, hchecks⟩
    exact .inl ⟨rfl, fun d hd => exists_checkFields_eq_ok_iff.1 (hall d hd)⟩
  | error e =>
    obtain ⟨front, d, back, hsplit, hfront, hd⟩ := mapM_eq_error_iff.1 hchecks
    rcases checkFields_cases file d with ⟨hok, -⟩ | ⟨before, field, hrepeats, herror⟩
    · rw [hok] at hd
      cases hd
    · rw [herror] at hd
      cases hd
      have hdistinct : ∀ d' ∈ front, (d'.fields.map Field.name).Nodup := by
        intro d' hd'
        exact exists_checkFields_eq_ok_iff.1 (hfront d' hd')
      exact .inr ⟨front, d, back, before, field, hsplit, hdistinct, hrepeats, rfl⟩

theorem nodup_fields_of_mem_loadDescriptorFile {types : List TypeDescriptor} {d : TypeDescriptor}
    (h : t.loadDescriptorFile file = .ok types) (hd : d ∈ types) :
    (d.fields.map Field.name).Nodup := by
  cases hread : t.read? file with
  | none => simp [FileTree.loadDescriptorFile, hread] at h
  | some text =>
    cases htypes : readTypes? file text with
    | none => simp [FileTree.loadDescriptorFile, hread, htypes] at h
    | some found =>
      rcases loadDescriptorFile_cases hread htypes with
        ⟨hok, hall⟩ | ⟨_, _, _, _, _, -, -, -, herror⟩
      · rw [h] at hok
        cases hok
        exact hall d hd
      · rw [h] at herror
        cases herror

theorem nodup_fields_of_mem_loadDescriptors {directory : String} {types : List Discovered}
    {d : Discovered} (h : t.loadDescriptors directory = .ok types) (hd : d ∈ types) :
    (d.type.fields.map Field.name).Nodup := by
  obtain ⟨found, hfound, rfl⟩ := loadDescriptors_eq_ok_iff.1 h
  obtain ⟨here, hhere, hd⟩ := List.mem_flatten.1 hd
  obtain ⟨visit, -, hvisit⟩ := exists_of_mem_right hfound hhere
  unfold FileTree.loadVisit at hvisit
  split at hvisit
  · split at hvisit
    · obtain ⟨types, htypes, hvisit⟩ := bind_eq_ok_iff.1 hvisit
      cases hvisit
      obtain ⟨type, htype, rfl⟩ := List.mem_map.1 hd
      exact nodup_fields_of_mem_loadDescriptorFile htypes htype
    · cases hvisit
      cases hd
  · cases hvisit
    cases hd

/-- **The fields of a type have distinct names**, whichever way the type was loaded. -/
theorem nodup_fields_of_mem_load {settings : Settings} {types : List Discovered} {d : Discovered}
    (h : t.load settings = .ok types) (hd : d ∈ types) : (d.type.fields.map Field.name).Nodup := by
  unfold FileTree.load at h
  split at h
  · exact nodup_fields_of_mem_scan h hd
  · exact nodup_fields_of_mem_loadDescriptors h hd

/-! ### Refusals -/

/-- A workspace is refused for the first type whose name occurred before, or the names of its types
are distinct. -/
theorem discover_cases {settings : Settings} {types : List Discovered}
    (h : t.load settings = .ok types) :
    (t.discover settings = .ok types ∧ (types.map fun d => d.type.name).Nodup)
      ∨ ∃ first again, RepeatsFirst (fun d => d.type.name) types first again
          ∧ t.discover settings
            = .error (.repeatedType again.type.name first.origin again.origin) := by
  have hcases := @checkNames_cases [] [] types (fun _ => rfl) List.nodup_nil
  rw [List.nil_append] at hcases
  rw [discover_eq_bind, h]
  rcases hcases with ⟨hok, hnodup⟩ | ⟨first, again, hrepeats, herror⟩
  · refine .inl ⟨?_, hnodup⟩
    show checkNames [] types >>= _ = _
    rw [hok]
    rfl
  · refine .inr ⟨first, again, hrepeats, ?_⟩
    show checkNames [] types >>= _ = _
    rw [herror]
    rfl

/-- **The names in a workspace.**  Discovered types have distinct names, and the fields of each have
distinct names.  Where types were loaded and the workspace is refused, it is for the first type
whose name occurred before, with the files of both.  And a descriptor file that can be read is
refused exactly when a type in it repeats a field name, for the first such type and the first field
in it that is declared again. -/
theorem discover_names_spec (t : FileTree) (settings : Settings) :
    (∀ types, t.discover settings = .ok types →
        (types.map fun d => d.type.name).Nodup ∧ ∀ d ∈ types, (d.type.fields.map Field.name).Nodup)
      ∧ (∀ types e, t.load settings = .ok types → t.discover settings = .error e →
          ∃ first again, RepeatsFirst (fun d => d.type.name) types first again
            ∧ e = .repeatedType again.type.name first.origin again.origin
            ∧ e.message = "Duplicate definition: type " ++ again.type.name.text
                ++ " is defined in both " ++ first.origin ++ " and " ++ again.origin)
      ∧ ∀ file text types, t.read? file = some text → readTypes? file text = some types →
          ((∃ e, t.loadDescriptorFile file = .error e)
              ↔ ∃ d ∈ types, ¬ (d.fields.map Field.name).Nodup)
            ∧ ∀ e, t.loadDescriptorFile file = .error e → ∃ front d back before field,
              types = front ++ d :: back
              ∧ (∀ d' ∈ front, (d'.fields.map Field.name).Nodup)
              ∧ RepeatsFirst Field.name d.fields before field
              ∧ e = .repeatedField field.name d.name file
              ∧ e.message = "Duplicate definition: field '" ++ field.name
                  ++ "' is declared more than once in " ++ d.name.text ++ " (" ++ file ++ ")" := by
  refine ⟨fun types h => ?_, fun types e hload h => ?_, fun file text types hread htypes => ?_⟩
  · have hload := (discover_eq_ok_iff.1 h).1
    rcases discover_cases hload with ⟨-, hnodup⟩ | ⟨first, again, -, herror⟩
    · exact ⟨hnodup, fun d hd => nodup_fields_of_mem_load hload hd⟩
    · rw [h] at herror
      cases herror
  · rcases discover_cases hload with ⟨hok, -⟩ | ⟨first, again, hrepeats, herror⟩
    · rw [h] at hok
      cases hok
    · rw [h] at herror
      cases herror
      exact ⟨first, again, hrepeats, rfl, rfl⟩
  · rcases loadDescriptorFile_cases hread htypes with ⟨hok, hall⟩ |
      ⟨front, d, back, before, field, hsplit, hfront, hrepeats, herror⟩
    · rw [hok]
      refine ⟨iff_of_false (by simp) ?_, nofun⟩
      rintro ⟨d, hd, hnot⟩
      exact hnot (hall d hd)
    · rw [herror]
      refine ⟨iff_of_true ⟨_, rfl⟩ ⟨d, by simp [hsplit], hrepeats.not_nodup⟩, fun e h => ?_⟩
      cases h
      exact ⟨front, d, back, before, field, hsplit, hfront, hrepeats, rfl, rfl⟩

/-- A workspace with two descriptor files that describe the same type. -/
def twinTree : FileTree :=
  ⟨[(["d"], .directory), (["d", "a.toml"], .file (.text jobText)),
    (["d", "b.toml"], .file (.text jobText))], []⟩
where
  /-- The text of both files. -/
  jobText : String := "[[types]]\nname = \"Job\"\n[[types.constructors]]\n"

/-- The second file is refused, with the first one named beside it. -/
theorem discover_names_spec_twins :
    ∃ types first again, twinTree.load descriptorSettings = .ok types
    ∧ twinTree.discover descriptorSettings
      = .error (.repeatedType again.type.name first.origin again.origin)
    ∧ RepeatsFirst (fun d => d.type.name) types first again
    ∧ again.type.name = ⟨"", "Job"⟩ ∧ first.origin = "d/a.toml" ∧ again.origin = "d/b.toml" := by
  have hrun : ((descriptorSettings.visits
      [("a.toml", .text twinTree.jobText), ("b.toml", .text twinTree.jobText)]).mapM
        (twinTree.yield descriptorSettings)).toOption.any (fun found =>
          match checkNames [] found.flatten with
          | .error e => e == .repeatedType ⟨"", "Job"⟩ "d/a.toml" "d/b.toml"
          | .ok _ => false) = true := by
    decide +kernel
  obtain ⟨found, hfound, hrun⟩ := exists_ok_of_any hrun
  have hload := load_of_files ["d"]
    [("a.toml", .text twinTree.jobText), ("b.toml", .text twinTree.jobText)]
    (by decide +kernel) hfound
  split at hrun
  · next e hnames =>
    have hdiscover : twinTree.discover descriptorSettings = .error e := by
      rw [discover_eq_bind, hload]
      show checkNames [] found.flatten >>= _ = _
      rw [hnames]
      rfl
    rw [beq_iff_eq] at hrun
    obtain ⟨first, again, hrepeats, he, -⟩ :=
      (discover_names_spec twinTree descriptorSettings).2.1 _ e hload hdiscover
    subst he
    simp only [WorkspaceError.repeatedType.injEq] at hrun
    exact ⟨_, first, again, hload, hdiscover, hrepeats, hrun⟩
  · cases hrun

end FluentBuilder
