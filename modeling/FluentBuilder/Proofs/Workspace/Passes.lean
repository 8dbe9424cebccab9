import FluentBuilder.Proofs.Workspace.Planning
import FluentBuilder.Proofs.Workspace.TreeGrowth

/-!
# What a pass leaves behind

A pass plans before it writes.  So it fails for any other reason than access to files with the tree
untouched, and what it does to the tree otherwise is bounded by its plan.

* `Writes`, `writeFiles_spec` — files written one behind the other, up to the first that cannot be
  written;
* `LeavesFiles` — what a tree may differ in: directories on the way to the output, and the files
  written;
* `generate_cases` — the ways in which a pass ends, with the tree in each of them.
-/

namespace FluentBuilder

open FilePath FileTree

/-! ### Writing several files -/

/-- The entry of a report for a file in a directory. -/
def PlannedFile.written (directory : String) (f : PlannedFile) : WrittenFile :=
  ⟨join directory f.name, f.text.utf8ByteSize, f.builder⟩

/-- What writing files into a directory does to a tree.  Each file is at the end of its path with
all of its text, unless a later one went to the same place, and every other place is as it was. -/
structure Writes (directory : String) (files : List PlannedFile) (t t' : FileTree) : Prop where
  grows : Grows t t'
  holds : ∀ before f after, files = before ++ f :: after →
    ∃ l, t'.resolve? (join directory f.name) = some l
      ∧ ((∀ g ∈ after, t'.resolve? (join directory g.name) ≠ some l) →
          t'.get? l = some (.file (.text f.text)))
  elsewhere : ∀ l, (∀ f ∈ files, t'.resolve? (join directory f.name) ≠ some l) →
    t'.get? l = t.get? l

theorem Writes.nil (directory : String) (t : FileTree) : Writes directory [] t t :=
  ⟨Grows.refl t,
    fun _ _ _ h => absurd h.symm (List.append_ne_nil_of_right_ne_nil _ (List.cons_ne_nil _ _)),
    fun _ _ => rfl⟩

/-- One more file in front of those that are written. -/
theorem Writes.cons {directory : String} {f : PlannedFile} {files : List PlannedFile}
    {t u t' : FileTree} (hwrite : t.write? (join directory f.name) (.text f.text) = some u)
    (h : Writes directory files u t') :
    Writes directory (f :: files) t t' := by
  obtain ⟨l, hgrows, hl, -, hget⟩ := write?_spec hwrite
  have hl' : t'.resolve? (join directory f.name) = some l := h.grows.resolve? hl
  refine ⟨hgrows.trans h.grows, fun before g after hsplit => ?_, fun k hk => ?_⟩
  · cases before with
    | nil =>
      cases hsplit
      refine ⟨l, hl', fun hlater => ?_⟩
      rw [h.elsewhere l hlater, hget, if_pos rfl]
    | cons first others =>
      cases hsplit
      exact h.holds others g after rfl
  · have hkl : k ≠ l := fun hkl => hk f List.mem_cons_self (hkl ▸ hl')
    rw [h.elsewhere k fun g hg => hk g (List.mem_cons_of_mem f hg), hget, if_neg hkl]

/-- One file, and the others if it could be written. -/
theorem writeFiles_cons (t : FileTree) (directory : String) (f : PlannedFile)
    (files : List PlannedFile) :
    t.writeFiles directory (f :: files) =
      match t.write? (join directory f.name) (.text f.text) with
      | none => (t, .error .access)
      | some u => ((u.writeFiles directory files).1,
          (u.writeFiles directory files).2.map fun others => f.written directory :: others) := by
  conv_lhs => unfold FileTree.writeFiles
  dsimp only
  cases t.write? (join directory f.name) (.text f.text) <;> rfl

/-- **Files are written up to the first that cannot be written.** -/
theorem writeFiles_spec (directory : String) (files : List PlannedFile) (t : FileTree) :
    ∃ done rest, files = done ++ rest ∧ Writes directory done t (t.writeFiles directory files).1
      ∧ (rest = []
        ∧ (t.writeFiles directory files).2 = .ok (done.map (PlannedFile.written directory))
        ∨ (t.writeFiles directory files).2 = .error .access) := by
  induction files generalizing t with
  | nil => exact ⟨[], [], rfl, Writes.nil directory t, .inl ⟨rfl, rfl⟩⟩
  | cons f files ih =>
    cases hwrite : t.write? (join directory f.name) (.text f.text) with
    | none =>
      rw [writeFiles_cons, hwrite]
      dsimp only
      exact ⟨[], f :: files, rfl, Writes.nil directory t, .inr rfl⟩
    | some u =>
      rw [writeFiles_cons, hwrite]
      dsimp only
      obtain ⟨done, rest, hsplit, hdone, hend⟩ := ih u
      refine ⟨f :: done, rest, by rw [hsplit]; rfl, Writes.cons hwrite hdone, ?_⟩
      rcases hend with ⟨hrest, hok⟩ | herr
      · exact .inl ⟨hrest, by rw [hok]; rfl⟩
      · exact .inr (by rw [herr]; rfl)

/-! ### Passes -/

/-- What a pass that wrote some files leaves in a tree.  Each file is at the end of its path with
all of its text, unless a later one went to the same place, and every other place is as it was or is
a directory that was made on the way to the output directory. -/
structure LeavesFiles (directory : String) (files : List PlannedFile) (t t' : FileTree) : Prop where
  grows : Grows t t'
  holds : ∀ before f after, files = before ++ f :: after →
    ∃ l, t'.resolve? (join directory f.name) = some l
      ∧ ((∀ g ∈ after, t'.resolve? (join directory g.name) ≠ some l) →
          t'.get? l = some (.file (.text f.text)))
  elsewhere : ∀ l, (∀ f ∈ files, t'.resolve? (join directory f.name) ≠ some l) →
    t'.get? l = t.get? l
    ∨ t.get? l = none ∧ t'.get? l = some .directory ∧ ∃ up ∈ ancestors directory,
      t'.resolve? up = some l

theorem FileTree.MakesDirectories.leavesFiles {directory : String} {files : List PlannedFile}
    {t made t' : FileTree} (hmade : MakesDirectories (ancestors directory) t made)
    (h : Writes directory files made t') :
    LeavesFiles directory files t t' := by
  refine ⟨hmade.grows.trans h.grows, h.holds, fun l hl => ?_⟩
  rw [h.elsewhere l hl]
  rcases hmade.only l with hsame | ⟨hnone, hdir, up, hup, hr⟩
  · exact .inl hsame
  · exact .inr ⟨hnone, hdir, up, hup, h.grows.resolve? hr⟩

/-- Carrying out a plan fails only for access to files, and leaves some of the files. -/
theorem carryOut_spec (directory : String) (plan : Plan) (t : FileTree) :
    ∃ done rest, plan.files = done ++ rest
      ∧ LeavesFiles directory done t (t.carryOut directory plan).1
      ∧ (rest = [] ∧ (t.carryOut directory plan).2
            = .ok ⟨done.map (PlannedFile.written directory), plan.processed, plan.violations⟩
        ∨ (t.carryOut directory plan).2 = .error .access) := by
  have hmade := createDirectories_spec t directory
  unfold FileTree.carryOut
  cases hcreate : t.createDirectories directory with
  | mk made ok =>
    rw [hcreate] at hmade
    cases ok with
    | false => exact ⟨[], plan.files, rfl, hmade.leavesFiles (Writes.nil directory made), .inr rfl⟩
    | true =>
      obtain ⟨done, rest, hsplit, hdone, hend⟩ := writeFiles_spec directory plan.files made
      refine ⟨done, rest, hsplit, hmade.leavesFiles hdone, ?_⟩
      rcases hend with ⟨hrest, hok⟩ | herr
      · exact .inl ⟨hrest, by dsimp only; rw [hok]; rfl⟩
      · exact .inr (by dsimp only; rw [herr]; rfl)

/-- **The ways in which a pass ends.**  Without a plan the tree stays as it is.  With one, some of
the planned files are written, all of them if the pass succeeds. -/
theorem generate_cases (t : FileTree) (settings : Settings) (rules : List Check) :
    (∃ e, t.plan settings rules = .error e ∧ t.generate settings rules = (t, .error e))
      ∨ ∃ plan done rest, t.plan settings rules = .ok plan ∧ plan.files = done ++ rest
        ∧ LeavesFiles settings.outputPath done t (t.generate settings rules).1
        ∧ (rest = [] ∧ (t.generate settings rules).2 = .ok
              ⟨done.map (PlannedFile.written settings.outputPath), plan.processed, plan.violations⟩
          ∨ (t.generate settings rules).2 = .error .access) := by
  unfold FileTree.generate
  cases hplan : t.plan settings rules with
  | error e => exact .inl ⟨e, rfl, rfl⟩
  | ok plan =>
    obtain ⟨done, rest, hsplit, hleaves, hend⟩ := carryOut_spec settings.outputPath plan t
    exact .inr ⟨plan, done, rest, rfl, hsplit, hleaves, hend⟩

end FluentBuilder
