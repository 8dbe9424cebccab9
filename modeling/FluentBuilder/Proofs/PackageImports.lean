import FluentBuilder.Layout.BuilderLayout
import FluentBuilder.Proofs.BuilderNames
import FluentBuilder.Proofs.Code.ImportedPaths

/-!
# Packages and imports

The text of a builder's items does not depend on the package of its target.  The text of its file
starts with an import of everything in the package, if the package spells a path.  A package may
spell a path that no import can hold.

* `BuilderModel.fileSource_cases` — what becomes of the file of a model;
* `BuilderModel.fileSource_ok_iff` — when the file of a model has a text, and why it has none;
* `fileSource_arguments` — a type whose package has arguments, so its builder has a text and its
  file has none.
-/

namespace FluentBuilder

open FluentBuilder.Code

/-- A package imports the path that it spells: no path is spelled by the empty text. -/
theorem BuilderModel.import?_eq (b : BuilderModel) : b.import? = Path.read? b.target.package := by
  unfold import?
  split
  · next hempty =>
    rw [String.isEmpty_iff.1 hempty]
    decide +kernel
  · rfl

/-- What becomes of the file of a model: the builder has no text, or its package spells a path that
is not importable, or both have a text. -/
theorem BuilderModel.fileSource_cases (b : BuilderModel) :
    (∃ e, b.source = .error e ∧ b.fileSource = .error e)
      ∨ (∃ text path, b.source = .ok text ∧ b.import? = some path ∧ path.importable? = none
        ∧ b.fileSource = .error .unusableImport)
      ∨ ∃ text file, b.source = .ok text ∧ b.fileSource = .ok file
        ∧ ∀ path, b.import? = some path → ∃ module, path.importable? = some module := by
  unfold source fileSource fileCode
  cases b.code with
  | error e => exact .inl ⟨e, rfl, rfl⟩
  | ok c =>
    cases b.import? with
    | none => exact .inr (.inr ⟨_, _, rfl, rfl, nofun⟩)
    | some path =>
      cases hmodule : path.importable? with
      | none =>
        refine .inr (.inl ⟨_, path, rfl, rfl, hmodule, ?_⟩)
        simp only [hmodule]
        rfl
      | some module =>
        refine .inr (.inr ⟨_, BuilderFile.text ⟨some module, c⟩, rfl, ?_, ?_⟩)
        · simp only [hmodule]
          rfl
        · intro other hother
          cases hother
          exact ⟨module, hmodule⟩

/-- **When the file of a model has a text.**  It has one exactly when the builder has one and
the import is read that the package of the target spells; a package that spells no path needs none.
What keeps the builder from having a text is reported for the file as well, and an import that is
not read is the only other reason. -/
theorem BuilderModel.fileSource_ok_iff (b : BuilderModel) :
    ((∃ text, b.fileSource = .ok text)
        ↔ (∃ text, b.source = .ok text) ∧ ∀ path, Path.read? b.target.package = some path →
          ∃ items, readTokens? sourceFileRule (importTokens path) = some items)
      ∧ ∀ e, b.fileSource = .error e
        ↔ b.source = .error e ∨ (e = .unusableImport ∧ (∃ text, b.source = .ok text)
          ∧ ∃ path, Path.read? b.target.package = some path
            ∧ readTokens? sourceFileRule (importTokens path) = none) := by
  have hreads : ∀ path, b.import? = some path →
        ((∃ items, readTokens? sourceFileRule (importTokens path) = some items)
      ↔ ∃ module, path.importable? = some module) := by
    intro path hpath
    rw [b.import?_eq] at hpath
    obtain ⟨trees, -, hnamed⟩ := Path.named_of_read? hpath
    exact hnamed.readTokens?_importTokens
  rw [← b.import?_eq]
  rcases b.fileSource_cases with ⟨reason, hsource, hfile⟩ | ⟨text, path, hsource, hpath,
    hmodule, hfile⟩
    | ⟨text, file, hsource, hfile, hmodules⟩
  · simp [hsource, hfile]
  · have hnone : readTokens? sourceFileRule (importTokens path) = none := by
      rw [Option.eq_none_iff_forall_ne_some]
      intro items hitems
      obtain ⟨module, hsome⟩ := (hreads path hpath).1 ⟨items, hitems⟩
      rw [hmodule] at hsome
      cases hsome
    simp [hsource, hfile, hpath, hnone, eq_comm]
  · have hall : ∀ path, b.import? = some path →
        ∃ items, readTokens? sourceFileRule (importTokens path) = some items :=
      fun path hpath => (hreads path hpath).2 (hmodules path hpath)
    refine ⟨by simpa [hsource, hfile] using hall, fun e => ?_⟩
    rw [hsource, hfile]
    constructor
    · intro h
      cases h
    · rintro (h | ⟨-, -, path, hpath, hnone⟩)
      · cases h
      · obtain ⟨items, hitems⟩ := hall path hpath
        rw [hnone] at hitems
        cases hitems

/-- **A package with arguments.**  The path that it spells can stand in a type and not in an import:
the type passes the rules and its builder has a text, but the file of the builder has none. -/
theorem fileSource_arguments :
    ∃ b, synthesize { sampleType "Marker" [] with name := ⟨"Vec<u8>", "Marker"⟩ } = .ok b
    ∧ (∃ path, b.import? = some path ∧ readTokens? sourceFileRule (importTokens path) = none)
    ∧ (∃ text, b.source = .ok text) ∧ ¬ ∃ text, b.fileSource = .ok text := by
  obtain ⟨b, hb, htest⟩ := exists_ok_of_any
    (x := synthesize { sampleType "Marker" [] with name := ⟨"Vec<u8>", "Marker"⟩ })
    (p := fun b => b.import?.any
      (fun path => (readTokens? sourceFileRule (importTokens path)).isNone)
      && b.source.toOption.isSome && b.fileSource.toOption.isNone) (by decide +kernel)
  simp only [Bool.and_eq_true, Option.any_eq_true, Option.isNone_iff_eq_none] at htest
  obtain ⟨⟨hread, hsource⟩, hfile⟩ := htest
  refine ⟨b, hb, hread, ?_, ?_⟩
  · cases htext : b.source with
    | error e =>
      rw [htext] at hsource
      cases hsource
    | ok text => exact ⟨text, rfl⟩
  · rintro ⟨text, htext⟩
    rw [htext] at hfile
    cases hfile

end FluentBuilder
