import FluentBuilder.Proofs.Workspace.KnownWalks
import FluentBuilder.Proofs.Workspace.PassOutcome

/-!
# Files in which types were found

A pass compares the names of the files that it writes with one another, but not with the files in
which it found types.  So the output directory may hold a source file under the name of a builder's
file.

* `exists_text_of_origin` — the file in which a type was found;
* `read?_origin_iff` — when such a file keeps its text: exactly when no builder with another text is
  written there;
* `origin_overwritten` — a source file that is replaced by the builder of its own type.
-/

namespace FluentBuilder

open FilePath FileTree

/-- A type comes from the file that was visited. -/
theorem place_of_mem_scanVisit {root : String} {markers : List String} {visit : Visit}
    {types : List Discovered} {d : Discovered} (h : scanVisit root markers visit = .ok types)
    (hd : d ∈ types) :
    d.origin = visit.path ∧ ∃ text, visit.place = .file (.text text) := by
  obtain ⟨horigin, text, -, -, hplace, -⟩ := exists_of_mem_scanVisit h hd
  exact ⟨horigin, text, hplace⟩

/-- **A type from source files was found in a file with text.** -/
theorem exists_text_of_origin {t : FileTree} {settings : Settings} {types : List Discovered}
    {d : Discovered} (hregular : t.IsRegular) (hsource : settings.source = .sourceFiles)
    (htypes : t.discover settings = .ok types) (hd : d ∈ types) :
    ∃ l text, t.resolve? d.origin = some l ∧ t.get? l = some (.file (.text text)) := by
  have hload := (discover_eq_ok_iff.1 htypes).1
  unfold FileTree.load at hload
  rw [hsource] at hload
  obtain ⟨-, found, hfound, rfl⟩ := scan_eq_ok_iff.1 hload
  obtain ⟨here, hhere, hd⟩ := List.mem_flatten.1 hd
  obtain ⟨visit, hvisit, hscan⟩ := exists_of_mem_right hfound hhere
  obtain ⟨horigin, text, hplace⟩ := place_of_mem_scanVisit hscan hd
  obtain ⟨l, hl, hget⟩ := hregular.place_of_mem_walk hvisit
  exact ⟨l, text, horigin ▸ hl, hplace ▸ hget⟩

/-- A pass leaves some of its files, all of them when it succeeds. -/
theorem exists_leavesFiles {t t' : FileTree} {settings : Settings} {rules : List Check}
    {types : List Discovered} {outcome : Except WorkspaceError Report}
    (htypes : t.discover settings = .ok types) (h : t.generate settings rules = (t', outcome)) :
    ∃ done, LeavesFiles settings.outputPath done t t' ∧ (done.map PlannedFile.name).Nodup
      ∧ (∀ f ∈ done, ∃ a ∈ accepted rules types, a.file = .ok f)
      ∧ ∀ report, outcome = .ok report →
          List.Forall₂ (fun a f => Accepted.file a = .ok f) (accepted rules types) done
          ∧ report.files = done.map (PlannedFile.written settings.outputPath) := by
  rcases generate_cases t settings rules with ⟨e, -, hsame⟩ | ⟨plan, done, rest, hplan, hsplit,
    hleaves, hend⟩
  · rw [h] at hsame
    cases hsame
    exact ⟨[], (MakesDirectories.refl _ t).leavesFiles (Writes.nil _ t), List.nodup_nil,
      nofun, nofun⟩
  · rw [h] at hleaves hend
    obtain ⟨types', htypes', -, hall, hnodup, -, -⟩ := plan_eq_ok_iff.1 hplan
    obtain rfl : types = types' := Except.ok.inj (htypes.symm.trans htypes')
    rw [hsplit] at hall hnodup
    rw [List.map_append] at hnodup
    refine ⟨done, hleaves, hnodup.of_append_left, fun f hf => ?_, fun report hreport => ?_⟩
    · obtain ⟨a, ha, hfile⟩ := exists_of_mem_right hall (List.mem_append_left rest hf)
      exact ⟨a, ha, hfile⟩
    · rw [hreport] at hend
      rcases hend with ⟨hrest, hok⟩ | herr
      · rw [hrest, List.append_nil] at hall
        cases hok
        exact ⟨hall, rfl⟩
      · cases herr

/-- **When a file in which a type was found keeps its text.**  After a pass, successful or not, it
reads as before exactly when each builder written to its place has that very text. -/
theorem read?_origin_iff {t t' : FileTree} {settings : Settings} {rules : List Check}
    {types : List Discovered} {outcome : Except WorkspaceError Report} {d : Discovered}
    (hregular : t.IsRegular) (hsource : settings.source = .sourceFiles)
    (htypes : t.discover settings = .ok types) (hd : d ∈ types)
    (h : t.generate settings rules = (t', outcome)) :
    ∃ text done, t.read? d.origin = some text ∧ LeavesFiles settings.outputPath done t t'
      ∧ (∀ f ∈ done, ∃ a ∈ accepted rules types, a.file = .ok f)
      ∧ (∀ report, outcome = .ok report →
          List.Forall₂ (fun a f => Accepted.file a = .ok f) (accepted rules types) done)
      ∧ (t'.read? d.origin = some text ↔ ∀ f ∈ done,
          t'.resolve? (join settings.outputPath f.name) = t'.resolve? d.origin → f.text = text) := by
  obtain ⟨l, text, hl, hget⟩ := exists_text_of_origin hregular hsource htypes hd
  obtain ⟨done, hleaves, hnodup, hfiles, hall⟩ := exists_leavesFiles htypes h
  refine ⟨text, done, read?_eq_some_of_resolve? hl hget, hleaves, hfiles,
    fun report hok => (hall report hok).1, ?_⟩
  have hslash := slash_not_mem_of_discover htypes fun hdesc => by rw [hsource] at hdesc; cases hdesc
  have hplain : ∀ f ∈ done, IsPlainName f.name := by
    intro f hf
    obtain ⟨a, ha, hfile⟩ := hfiles f hf
    rw [(Accepted.file_eq_ok_iff.1 hfile).1]
    exact isPlainName_of_accepted hslash ha
  have hread := hleaves.read?_join hplain hnodup
  have hl' : t'.resolve? d.origin = some l := hleaves.grows.resolve? hl
  constructor
  · intro hkept f hf hsame
    rw [← read?_eq_of_resolve?_eq hsame, hread f hf] at hkept
    exact Option.some.inj hkept
  · intro htexts
    by_cases hwritten : ∃ f ∈ done, t'.resolve? (join settings.outputPath f.name)
      = t'.resolve? d.origin
    · obtain ⟨f, hf, hsame⟩ := hwritten
      rw [← read?_eq_of_resolve?_eq hsame, hread f hf, htexts f hf hsame]
    · refine read?_eq_some_of_resolve? hl' ?_
      rcases hleaves.elsewhere l fun f hf hsame => hwritten
        ⟨f, hf, hsame.trans hl'.symm⟩ with hkept | ⟨hnone, -, -⟩
      · rw [hkept, hget]
      · rw [hget] at hnone
        cases hnone

/-- A workspace whose source file has the name of the file for the builder of its type. -/
def ownOutputTree : FileTree :=
  ⟨[(["src"], .directory), (["src", "job_builder.rs"], .file (.text jobText))], []⟩
where
  /-- The text of the source file. -/
  jobText : String := "#[derive(AutoBuilder, Default)]\nstruct Job;\n"

/-- Settings for a pass that writes into the directory in which it looks for source files. -/
def intoSources : Settings :=
  { sourceSettings with outputPath := "src" }

/-- The pass over this workspace replaces the source file by the builder. -/
theorem exists_pass_ownOutputTree :
    ∃ types t' report, ownOutputTree.discover intoSources = .ok types
    ∧ ownOutputTree.generate intoSources defaultRules = (t', .ok report)
    ∧ ∃ d ∈ types, d.origin = "src/job_builder.rs"
    ∧ ownOutputTree.read? d.origin = some ownOutputTree.jobText
      ∧ t'.read? d.origin ≠ some ownOutputTree.jobText := by
  have hrun : (ownOutputTree.passFrom intoSources defaultRules
      (intoSources.visits [("job_builder.rs", .text ownOutputTree.jobText)])).toOption.any
        (fun pass => pass.1.any fun d => d.origin == "src/job_builder.rs"
          && ownOutputTree.read? d.origin == some ownOutputTree.jobText
          && pass.2.1.read? d.origin != some ownOutputTree.jobText) = true := by
    decide +kernel
  obtain ⟨types, t', report, htypes, hgenerate, hp⟩ :=
    exists_pass_of_files ["src"] [("job_builder.rs", .text ownOutputTree.jobText)]
      (by decide +kernel) hrun
  obtain ⟨d, hd, hp⟩ := List.any_eq_true.1 hp
  simp only [Bool.and_eq_true, beq_iff_eq, bne_iff_ne] at hp
  exact ⟨types, t', report, htypes, hgenerate, d, hd, hp.1.1, hp.1.2, hp.2⟩

/-- In this workspace the theorem finds the builder that was written to the place of the source
file. -/
theorem exists_builder_at_origin : ∃ types t' report d done text, ownOutputTree.IsRegular
    ∧ intoSources.source = .sourceFiles ∧ ownOutputTree.discover intoSources = .ok types ∧ d ∈ types
    ∧ ownOutputTree.generate intoSources defaultRules = (t', .ok report)
    ∧ List.Forall₂ (fun a f => Accepted.file a = .ok f) (accepted defaultRules types) done
    ∧ ∃ f ∈ done, t'.resolve? (join intoSources.outputPath f.name) = t'.resolve? d.origin
      ∧ f.text ≠ text := by
  have hregular : ownOutputTree.IsRegular := by decide +kernel
  obtain ⟨types, t', report, htypes, hgenerate, d, hd, -, hbefore, hafter⟩ :=
    exists_pass_ownOutputTree
  obtain ⟨text, done, htext, -, -, hall, hiff⟩ := read?_origin_iff hregular rfl htypes hd hgenerate
  refine ⟨types, t', report, d, done, text, hregular, rfl, htypes, hd, hgenerate,
    hall report rfl, ?_⟩
  obtain rfl : text = ownOutputTree.jobText := Option.some.inj (htext.symm.trans hbefore)
  by_contra hnone
  refine hafter (hiff.2 fun f hf hsame => ?_)
  by_contra hother
  exact hnone ⟨f, hf, hsame, hother⟩

/-- **A source file can be lost**: the pass succeeds, and the file in which it found a type holds
another text. -/
theorem origin_overwritten : ∃ types t' report d, intoSources.source = .sourceFiles
    ∧ ownOutputTree.discover intoSources = .ok types ∧ d ∈ types
    ∧ ownOutputTree.generate intoSources defaultRules = (t', .ok report)
    ∧ ownOutputTree.read? d.origin = some ownOutputTree.jobText
    ∧ t'.read? d.origin ≠ some ownOutputTree.jobText := by
  obtain ⟨types, t', report, htypes, hgenerate, d, hd, -, hbefore, hafter⟩ :=
    exists_pass_ownOutputTree
  exact ⟨types, t', report, d, rfl, htypes, hd, hgenerate, hbefore, hafter⟩

end FluentBuilder
