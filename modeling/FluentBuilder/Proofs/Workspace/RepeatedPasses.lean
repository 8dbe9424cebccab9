import FluentBuilder.Proofs.Workspace.FileNames
import FluentBuilder.Proofs.Workspace.KeptOrigins

/-!
# Passes one behind the other

A second pass over what a first one left finds the same types and writes the same files, unless
something that the first pass wrote is a source of types itself.

* `createDirectories_again`, `Writes.get?_again`, `carryOut_again` — carrying out a plan once more
  changes nothing;
* `LeavesFiles.yieldsSame` — the search for types meets what it met before, and files that yield
  nothing;
* `IsRegular.generate` — a pass keeps a tree regular;
* `generate_again_of_inert` — a second pass does what the first one did.
-/

namespace FluentBuilder

open FilePath FileTree

/-! ### Creating directories again -/

theorem isDirectory_iff {t : FileTree} {path : String} :
    t.isDirectory path = true ↔ ∃ l, t.resolve? path = some l ∧ t.get? l = some .directory := by
  unfold FileTree.isDirectory
  rw [Option.any_eq_true]
  exact exists_congr fun l => and_congr_right fun _ => isDirectoryAt_iff

theorem isDirectory_of_created {t u : FileTree} {path : String}
    (h : t.createDirectory path = .created u) :
    u.isDirectory path = true := by
  unfold FileTree.createDirectory at h
  split at h
  · cases h
  · split at h
    · next l htarget =>
      split at h
      · cases h
      · split at h
        · cases h
        · next hthere =>
          cases h
          have hnew : t.get? l ≠ some .directory := fun hdir => hthere (by rw [hdir]; rfl)
          refine isDirectory_iff.2 ⟨l, resolve?_put_of_target? htarget hnew fun _ => rfl, ?_⟩
          rw [get?_put _ (not_isPrefixOf_of_get? hnew), if_pos rfl]
    · split at h <;> cases h

/-- Once the directories along a path are created, the path leads to one. -/
theorem isDirectory_of_createAlong {t u : FileTree} {path : String} {above : List String}
    (h : t.createAlong (path :: above) = (u, true)) :
    path.isEmpty = true ∨ u.isDirectory path = true := by
  unfold FileTree.createAlong at h
  split at h
  · next hempty => exact .inl hempty
  · right
    split at h
    · next v hcreated =>
      cases h
      exact isDirectory_of_created hcreated
    · injection h with htree hdir
      exact htree ▸ hdir
    · split at h
      · cases h
      · split at h
        · next w hcreated =>
          cases h
          exact isDirectory_of_created hcreated
        · injection h with htree hdir
          exact htree ▸ hdir

theorem exists_ancestors_eq (path : String) : ∃ above, ancestors path = path :: above := by
  unfold ancestors
  cases path.length with
  | zero => exact ⟨[], rfl⟩
  | succ n =>
    unfold ancestorsWith
    split
    · exact ⟨_, rfl⟩
    · exact ⟨[], rfl⟩

/-- **Creating a directory that is there changes nothing.** -/
theorem createDirectories_again {t u t' : FileTree} {path : String}
    (h : t.createDirectories path = (u, true)) (hgrows : Grows u t') :
    t'.createDirectories path = (t', true) := by
  obtain ⟨above, habove⟩ := exists_ancestors_eq path
  unfold FileTree.createDirectories at h ⊢
  rw [habove] at h ⊢
  unfold FileTree.createAlong
  split
  · rfl
  · next hempty =>
    have hdir := (isDirectory_of_createAlong h).resolve_left hempty
    obtain ⟨l, hl, hget⟩ := isDirectory_iff.1 hdir
    have hl' : t'.resolve? path = some l := hgrows.resolve? hl
    have hrefused : t'.createDirectory path = .refused := by
      unfold FileTree.createDirectory
      rw [hl']
    rw [hrefused]
    dsimp only
    rw [isDirectory_iff.2 ⟨l, hl', hgrows.directory l hget⟩]

/-! ### Writing files again -/

theorem write?_eq_some_iff {t u : FileTree} {path : String} {content : Content} :
    t.write? path content = some u ↔ endsInDirectory path = false
      ∧ ∃ l, t.target? path = some l ∧ t.get? l ≠ some .directory
      ∧ u = t.put l (.file content) := by
  unfold FileTree.write?
  cases endsInDirectory path with
  | true => exact ⟨nofun, fun h => by cases h.1⟩
  | false =>
    rw [if_neg Bool.false_ne_true]
    cases htarget : t.target? path with
    | none => exact ⟨nofun, fun ⟨_, l, hl, _⟩ => by cases hl⟩
    | some l =>
      dsimp only
      constructor
      · intro h
        split at h
        · cases h
        · next hdir =>
          cases h
          exact ⟨rfl, l, rfl, fun hnew => hdir (isDirectoryAt_iff.2 hnew), rfl⟩
      · rintro ⟨-, k, hk, hnew, rfl⟩
        cases hk
        rw [if_neg fun hdir => hnew (isDirectoryAt_iff.1 hdir)]

theorem FileTree.Grows.target? {t u : FileTree} (h : Grows t u) {path : String} {l : Location}
    (htarget : t.target? path = some l) : u.target? path = some l := by
  obtain ⟨steps, s, up, hsteps, hup, hdir, hs, hl⟩ := target?_eq_some_iff.1 htarget
  refine target?_eq_some_iff.2 ⟨steps, s, up, hsteps, ?_, ?_, hs, hl⟩
  · rw [h.working]
    exact h.follow? hup
  · exact isDirectoryAt_iff.2 (h.directory up (isDirectoryAt_iff.1 hdir))

/-- A tree that grows without turning files into directories. -/
structure Extends (t u : FileTree) : Prop where
  grows : Grows t u
  file : ∀ l content, t.get? l = some (.file content) → ∃ other, u.get? l = some (.file other)

theorem Extends.refl (t : FileTree) : Extends t t :=
  ⟨Grows.refl t, fun _ content h => ⟨content, h⟩⟩

theorem Extends.trans {t u v : FileTree} (h : Extends t u) (h' : Extends u v) : Extends t v :=
  ⟨h.grows.trans h'.grows, fun l content hl => by
    obtain ⟨other, hother⟩ := h.file l content hl
    exact h'.file l other hother⟩

/-- A path at whose end there is a file, which can be written again. -/
def FileTree.HasFile (t : FileTree) (path : String) : Prop :=
  endsInDirectory path = false ∧ ∃ l content, t.target? path = some l
    ∧ t.get? l = some (.file content)

theorem Extends.hasFile {t u : FileTree} (h : Extends t u) {path : String}
    (hfile : t.HasFile path) :
    u.HasFile path := by
  obtain ⟨hslash, l, content, htarget, hget⟩ := hfile
  obtain ⟨other, hother⟩ := h.file l content hget
  exact ⟨hslash, l, other, h.grows.target? htarget, hother⟩

/-- Writing a file keeps the other files, and leaves one at the end of its path. -/
theorem extends_of_write? {t u : FileTree} {path : String} {content : Content}
    (h : t.write? path content = some u) :
    Extends t u ∧ u.HasFile path := by
  obtain ⟨hslash, l, htarget, hnew, rfl⟩ := write?_eq_some_iff.1 h
  have hget := get?_put (.file content) (not_isPrefixOf_of_get? hnew)
  have hgrows : Grows t (t.put l (.file content)) := grows_put hnew
  refine ⟨⟨hgrows, fun k other hk => ?_⟩, hslash, l, content,
    hgrows.target? htarget, by rw [hget, if_pos rfl]⟩
  rw [hget]
  by_cases hkl : k = l
  · exact ⟨content, if_pos hkl⟩
  · exact ⟨other, by rw [if_neg hkl, hk]⟩

theorem FileTree.HasFile.write? {t : FileTree} {path : String} (h : t.HasFile path)
    (content : Content) :
    ∃ u, t.write? path content = some u := by
  obtain ⟨hslash, l, other, htarget, hget⟩ := h
  exact ⟨_, write?_eq_some_iff.2 ⟨hslash, l, htarget, by rw [hget]; exact nofun, rfl⟩⟩

theorem extends_writeFiles (directory : String) (files : List PlannedFile) (t : FileTree) :
    Extends t (t.writeFiles directory files).1 := by
  induction files generalizing t with
  | nil => exact Extends.refl t
  | cons f files ih =>
    rw [writeFiles_cons]
    cases hwrite : t.write? (join directory f.name) (.text f.text) with
    | none => exact Extends.refl t
    | some u => exact (extends_of_write? hwrite).1.trans (ih u)

/-- Files that were all written are all there. -/
theorem hasFile_of_writeFiles {directory : String} {files : List PlannedFile} {t u : FileTree}
    {written : List WrittenFile} (h : t.writeFiles directory files = (u, .ok written)) :
    ∀ f ∈ files, u.HasFile (join directory f.name) := by
  induction files generalizing t written with
  | nil => exact fun f hf => absurd hf List.not_mem_nil
  | cons f files ih =>
    rw [writeFiles_cons] at h
    cases hwrite : t.write? (join directory f.name) (.text f.text) with
    | none =>
      rw [hwrite] at h
      cases h
    | some v =>
      rw [hwrite] at h
      dsimp only at h
      cases hrest : v.writeFiles directory files with
      | mk w outcome =>
        rw [hrest] at h
        cases outcome with
        | error e => cases h
        | ok others =>
          injection h with hw _
          subst hw
          have hlater : Extends v w := by
            have hext := extends_writeFiles directory files v
            rw [hrest] at hext
            exact hext
          intro g hg
          rcases List.mem_cons.1 hg with rfl | hg
          · exact hlater.hasFile (extends_of_write? hwrite).2
          · exact ih hrest g hg

/-- **Files that are all there can all be written again.** -/
theorem writeFiles_of_hasFile {directory : String} {files : List PlannedFile} {t : FileTree}
    (h : ∀ f ∈ files, t.HasFile (join directory f.name)) :
    (t.writeFiles directory files).2 = .ok (files.map (PlannedFile.written directory)) := by
  induction files generalizing t with
  | nil => rfl
  | cons f files ih =>
    obtain ⟨hf, hrest⟩ := List.forall_mem_cons.1 h
    obtain ⟨u, hu⟩ := hf.write? (.text f.text)
    rw [writeFiles_cons, hu]
    dsimp only
    rw [ih fun g hg => (extends_of_write? hu).1.hasFile (hrest g hg)]
    rfl

/-- **Writing the same files once more changes nothing**, because the last file that goes to a place
decides. -/
theorem Writes.get?_again {directory : String} {files : List PlannedFile} {t u v : FileTree}
    (h : Writes directory files t u) (h' : Writes directory files u v) (l : Location) :
    v.get? l = u.get? l := by
  by_cases hl : ∃ f ∈ files, v.resolve? (join directory f.name) = some l
  · obtain ⟨before, f, after, hsplit, hf, hafter⟩ := exists_last_split hl
    obtain ⟨k, hk, hlast⟩ := h'.holds before f after hsplit
    obtain ⟨k', hk', hlast'⟩ := h.holds before f after hsplit
    obtain rfl : l = k := Option.some.inj (hf.symm.trans hk)
    obtain rfl : l = k' := Option.some.inj (hf.symm.trans (h'.grows.resolve? hk'))
    rw [hlast hafter, hlast' fun g hg hsame => hafter g hg (h'.grows.resolve? hsame)]
  · exact h'.elsewhere l fun f hf hsame => hl ⟨f, hf, hsame⟩

/-- **Carrying out a plan once more** gives the same report and the same tree. -/
theorem carryOut_again {directory : String} {plan : Plan} {t t' : FileTree} {report : Report}
    (h : t.carryOut directory plan = (t', .ok report)) :
    ∃ t'', t'.carryOut directory plan = (t'', .ok report) ∧ ∀ l, t''.get? l = t'.get? l := by
  unfold FileTree.carryOut at h ⊢
  cases hcreate : t.createDirectories directory with
  | mk made ok =>
    rw [hcreate] at h
    cases ok with
    | false => cases h
    | true =>
      dsimp only at h
      cases hwrite : made.writeFiles directory plan.files with
      | mk u outcome =>
        rw [hwrite] at h
        cases outcome with
        | error e => cases h
        | ok written =>
          cases h
          have hext : Extends made u := by
            have hext := extends_writeFiles directory plan.files made
            rw [hwrite] at hext
            exact hext
          rw [createDirectories_again hcreate hext.grows]
          dsimp only
          have hagain := writeFiles_of_hasFile (hasFile_of_writeFiles hwrite)
          obtain ⟨done, rest, hsplit, hwrites, hend⟩ := writeFiles_spec directory plan.files made
          obtain ⟨done', rest', hsplit', hwrites', hend'⟩ := writeFiles_spec directory plan.files u
          rw [hwrite] at hwrites hend
          rw [hagain] at hend' ⊢
          obtain ⟨rfl, hwritten⟩ : rest = [] ∧ _ := hend.resolve_right nofun
          obtain ⟨rfl, -⟩ : rest' = [] ∧ _ := hend'.resolve_right nofun
          rw [List.append_nil] at hsplit hsplit'
          rw [← hsplit] at hwrites hwritten
          rw [← hsplit'] at hwrites'
          refine ⟨(u.writeFiles directory plan.files).1, ?_, hwrites.get?_again hwrites'⟩
          obtain rfl := Except.ok.inj hwritten
          rfl

/-! ### Finding the same types again -/

/-- What became of a location: it is as before, a directory was made there, or a file was written
there. -/
theorem LeavesFiles.get?_cases {directory : String} {files : List PlannedFile} {t t' : FileTree}
    (h : LeavesFiles directory files t t') (l : Location) :
    t'.get? l = t.get? l ∨ (t.get? l = none ∧ t'.get? l = some .directory)
      ∨ ∃ f ∈ files, t'.resolve? (join directory f.name) = some l
        ∧ t'.get? l = some (.file (.text f.text)) := by
  by_cases hl : ∃ f ∈ files, t'.resolve? (join directory f.name) = some l
  · obtain ⟨before, f, after, hsplit, hf, hafter⟩ := exists_last_split hl
    obtain ⟨k, hk, hlast⟩ := h.holds before f after hsplit
    obtain rfl : l = k := Option.some.inj (hf.symm.trans hk)
    have hmem : f ∈ files := by
      rw [hsplit]
      exact List.mem_append_right before List.mem_cons_self
    exact .inr (.inr ⟨f, hmem, hf, hlast hafter⟩)
  · rcases h.elsewhere l fun f hf hr => hl ⟨f, hf, hr⟩ with hsame | ⟨hnone, hdir, -⟩
    · exact .inl hsame
    · exact .inr (.inl ⟨hnone, hdir⟩)

/-- A file that is no descriptor file by its extension describes no types. -/
theorem loadVisit_of_source {t : FileTree} {path : String} {content : Content}
    (h : extension? path = none ∨ extension? path = some "rs") :
    t.loadVisit ⟨path, .file content⟩ = .ok [] := by
  have hext : (extension? path).any ["toml", "json"].contains = false := by
    rcases h with h | h <;> rw [h] <;> rfl
  unfold FileTree.loadVisit
  dsimp only
  rw [if_neg (by rw [hext]; exact Bool.false_ne_true)]

/-- A place with the same content describes the same types. -/
theorem loadVisit_congr {t t' : FileTree} {path : String} {place : Place}
    (h : t'.read? path = t.read? path) :
    t'.loadVisit ⟨path, place⟩ = t.loadVisit ⟨path, place⟩ := by
  unfold FileTree.loadVisit FileTree.loadDescriptorFile
  rw [h]

theorem read?_of_get? {t t' : FileTree} {path : String} {l : Location}
    (hl : t.resolve? path = some l) (hl' : t'.resolve? path = some l) (h : t'.get? l = t.get? l) :
    t'.read? path = t.read? path := by
  unfold FileTree.read? FileTree.content?
  rw [hl, hl', Option.bind_some, Option.bind_some, h]

/-- **After a pass the search for types meets what it met before.**  The files written are no
descriptor files, and if they hold no marked structs either, then they and the directories made
yield nothing. -/
theorem LeavesFiles.yieldsSame {settings : Settings} {files : List PlannedFile} {t t' : FileTree}
    (h : LeavesFiles settings.outputPath files t t') (ht' : t'.IsRegular)
    (hends : ∀ f ∈ files, ∃ front, f.name.toList = front ++ ['.', 'r', 's'])
    (hinert : settings.source = .sourceFiles → ∀ f ∈ files, ∀ path,
      scanVisit settings.scanPath settings.markers ⟨path, .file (.text f.text)⟩ = .ok []) :
    YieldsSame
      (fun d : Discovered => ∀ f ∈ files, t'.resolve? (join settings.outputPath f.name)
        ≠ t'.resolve? d.origin)
      (t.yield settings) (t'.yield settings) t t' := by
  -- every path to a file that was written has the extension of source files
  have hextension : ∀ path l, t'.resolve? path = some l → ∀ f ∈ files,
      t'.resolve? (join settings.outputPath f.name) = some l →
        t'.get? l = some (.file (.text f.text)) →
      extension? path = none ∨ extension? path = some "rs" := by
    intro path l hpath f hf hr hget
    obtain ⟨front, hfront⟩ := hends f hf
    obtain ⟨_, hjoin⟩ := ends_join settings.outputPath hfront
    rw [ht'.extension?_eq hpath hr hget]
    exact extension?_of_ends hjoin
  have hwritten : ∀ path l, t'.resolve? path = some l → ∀ f ∈ files,
      t'.resolve? (join settings.outputPath f.name) = some l →
        t'.get? l = some (.file (.text f.text)) →
      t'.yield settings ⟨path, .file (.text f.text)⟩ = .ok [] := by
    intro path l hpath f hf hr hget
    unfold FileTree.yield
    cases hsource : settings.source with
    | sourceFiles => exact hinert hsource f hf path
    | descriptors => exact loadVisit_of_source (hextension path l hpath f hf hr hget)
  refine ⟨h.grows, fun l content hl hdir => ?_,
    fun path l place place' items hpath hplace hplace' hitems hkind => ?_,
    fun path l place' hpath hnew hplace' => ?_⟩
  · rcases h.get?_cases l with hsame | ⟨hnone, -⟩ | ⟨f, -, -, hfile⟩
    · rw [hsame, hl] at hdir
      cases hdir
    · rw [hl] at hnone
      cases hnone
    · rw [hdir] at hfile
      cases hfile
  · have hpath' := h.grows.resolve? hpath
    rcases h.get?_cases l with hsame | ⟨hnone, -⟩ | ⟨f, hf, hr, hfile⟩
    · obtain rfl : place' = place := Option.some.inj (hplace'.symm.trans (hsame.trans hplace))
      rw [← hitems]
      unfold FileTree.yield
      cases settings.source with
      | sourceFiles => rfl
      | descriptors => exact loadVisit_congr (read?_of_get? hpath hpath' hsame)
    · rw [hplace] at hnone
      cases hnone
    · obtain rfl : place' = .file (.text f.text) := Option.some.inj (hplace'.symm.trans hfile)
      rw [hwritten path l hpath' f hf hr hfile]
      -- what was at this place before is no origin, so it yielded nothing either
      unfold FileTree.yield at hitems
      cases hsource : settings.source with
      | sourceFiles =>
        rw [hsource] at hitems
        cases items with
        | nil => rfl
        | cons d rest =>
          have horigin := (place_of_mem_scanVisit hitems List.mem_cons_self).1
          refine absurd ?_ (hkind d List.mem_cons_self f hf)
          rw [hr, horigin]
          exact hpath'.symm
      | descriptors =>
        rw [hsource] at hitems
        cases place with
        | directory =>
          rw [h.grows.directory l hplace] at hfile
          cases hfile
        | file content =>
          rw [← hitems]
          exact (loadVisit_of_source (hextension path l hpath' f hf hr hfile)).symm
  · rcases h.get?_cases l with hsame | ⟨-, hdir⟩ | ⟨f, hf, hr, hfile⟩
    · rw [hsame, hnew] at hplace'
      cases hplace'
    · obtain rfl : place' = .directory := Option.some.inj (hplace'.symm.trans hdir)
      unfold FileTree.yield
      cases settings.source <;> rfl
    · obtain rfl : place' = .file (.text f.text) := Option.some.inj (hplace'.symm.trans hfile)
      exact hwritten path l hpath f hf hr hfile

/-! ### Regular trees stay regular -/

theorem FileTree.IsRegular.writeFiles {t : FileTree} (h : t.IsRegular) (directory : String)
    (files : List PlannedFile) : (t.writeFiles directory files).1.IsRegular := by
  induction files generalizing t with
  | nil => exact h
  | cons f files ih =>
    rw [writeFiles_cons]
    cases hwrite : t.write? (join directory f.name) (.text f.text) with
    | none => exact h
    | some u => exact ih (h.write? hwrite)

/-- **A pass keeps a tree regular.** -/
theorem FileTree.IsRegular.generate {t : FileTree} (h : t.IsRegular) (settings : Settings)
    (rules : List Check) :
    (t.generate settings rules).1.IsRegular := by
  unfold FileTree.generate
  split
  · next plan _ =>
    unfold FileTree.carryOut
    have hmade := h.createDirectories settings.outputPath
    split
    · next made hcreate =>
      rw [hcreate] at hmade
      exact hmade
    · next made hcreate =>
      rw [hcreate] at hmade
      exact hmade.writeFiles settings.outputPath plan.files
  · exact h

/-! ### Passes -/

/-- **A second pass does what the first one did**, if the files written yield nothing.  No file in
which a type was found may have been replaced, and the directory with the descriptor files may not
have come into being. -/
theorem generate_again_of_inert {t t' : FileTree} {settings : Settings} {rules : List Check}
    {types : List Discovered}
    {report : Report} (hregular : t.IsRegular) (htypes : t.discover settings = .ok types)
    (h : t.generate settings rules = (t', .ok report))
    (horigins : ∀ d ∈ types, ∀ w ∈ report.files, t'.resolve? w.path ≠ t'.resolve? d.origin)
    (hroot : t'.exists? settings.root = true → t.exists? settings.root = true)
    (hinert : settings.source = .sourceFiles → ∀ a ∈ accepted rules types, ∀ f, a.file = .ok f →
      ∀ path, scanVisit settings.scanPath settings.markers ⟨path, .file (.text f.text)⟩ = .ok []) :
    t'.discover settings = .ok types
      ∧ ∃ t'', t'.generate settings rules = (t'', .ok report) ∧ ∀ l, t''.get? l = t'.get? l := by
  have hregular' : t'.IsRegular := by
    have hkept := hregular.generate settings rules
    rwa [h] at hkept
  obtain ⟨done, hleaves, -, hfiles, hall⟩ := exists_leavesFiles htypes h
  obtain ⟨-, hwritten⟩ := hall report rfl
  have hsame := hleaves.yieldsSame hregular' ?_ ?_
  · obtain ⟨hload, hnames⟩ := discover_eq_ok_iff.1 htypes
    obtain ⟨hscanned, hgathers⟩ := load_eq_ok_iff.1 hload
    have hdiscover : t'.discover settings = .ok types := by
      refine discover_eq_ok_iff.2 ⟨load_eq_ok_iff.2 ⟨fun hsource => ?_, ?_⟩, hnames⟩
      · obtain ⟨l, hl⟩ := Option.isSome_iff_exists.1 (hscanned hsource)
        unfold FileTree.exists?
        rw [hleaves.grows.resolve? hl]
        rfl
      · refine hsame.gathers_walk hregular hregular' hroot (fun d hd f hf => ?_) hgathers
        refine horigins d hd (f.written settings.outputPath) ?_
        rw [hwritten]
        exact List.mem_map.2 ⟨f, hf, rfl⟩
    refine ⟨hdiscover, ?_⟩
    -- both passes carry out the plan for these types
    have hplans : t'.plan settings rules = t.plan settings rules := by
      unfold FileTree.plan
      rw [htypes, hdiscover]
    unfold FileTree.generate at h ⊢
    rw [hplans]
    cases hplan : t.plan settings rules with
    | error e =>
      rw [hplan] at h
      cases h
    | ok plan =>
      rw [hplan] at h
      exact carryOut_again h
  · intro f hf
    obtain ⟨a, -, hfile⟩ := hfiles f hf
    refine ⟨(Text.snakeCase a.model.name.name).toList, ?_⟩
    rw [(Accepted.file_eq_ok_iff.1 hfile).1]
    exact String.toList_append
  · intro hsource f hf path
    obtain ⟨a, ha, hfile⟩ := hfiles f hf
    exact hinert hsource a ha f hfile path

end FluentBuilder
