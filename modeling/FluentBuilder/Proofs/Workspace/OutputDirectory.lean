import FluentBuilder.Proofs.Workspace.KeptOrigins

/-!
# Files beside the output directory

The file of a builder is named after the text of its target's name, which is used as it stands.  A
slash in that text survives the change to snake case, and makes several steps out of what should be
one name.

* `components_join_fileName_iff` — the file's path is one step below the directory exactly when the
  name has no slash;
* `changes_in_output` — what a pass changes: for names without slashes only files directly in the
  output directory, and directories on the way to it;
* `written_beside_output` — a file that lands above the output directory.
-/

namespace FluentBuilder

open FilePath FileTree

/-- The file of a builder has a slash in its name exactly when the builder has one. -/
theorem QualifiedName.slash_mem_fileName_iff {builder : QualifiedName} :
    '/' ∈ builder.fileName.toList ↔ '/' ∈ builder.name.toList := by
  constructor
  · intro h
    by_contra hslash
    exact (QualifiedName.isPlainName_fileName hslash).no_slash h
  · intro h
    unfold QualifiedName.fileName
    rw [String.toList_append]
    exact List.mem_append_left _ (Text.slash_mem_snakeCase h)

/-- **The path of a builder's file is one step below a directory exactly when the builder's name has
no slash.** -/
theorem components_join_fileName_iff (directory : String) (builder : QualifiedName) :
    components (join directory builder.fileName) = components directory ++ [.name builder.fileName]
      ↔ '/' ∉ builder.name.toList := by
  constructor
  · intro hsteps hslash
    have hmem : Component.name builder.fileName ∈ components (join directory builder.fileName) := by
      rw [hsteps]
      exact List.mem_append_right _ (List.mem_singleton_self _)
    exact (isPlainName_of_mem_components hmem).no_slash
      (QualifiedName.slash_mem_fileName_iff.2 hslash)
  · exact fun hslash => components_join (QualifiedName.isPlainName_fileName hslash)

/-- A builder has a slash in its name exactly when its target has one. -/
theorem slash_mem_builder_iff {rules : List Check} {types : List Discovered} {a : Accepted}
    (ha : a ∈ accepted rules types) :
    '/' ∈ a.model.name.name.toList ↔ '/' ∈ a.model.target.name.toList := by
  obtain ⟨d, -, hmodel, -⟩ := mem_accepted_iff.1 ha
  have hbuilder := isBuilderOf_of_synthesizeWith hmodel
  rw [hbuilder.name, hbuilder.target, String.toList_append, List.mem_append]
  exact ⟨fun h => h.resolve_right (by decide), .inl⟩

/-- **What a pass changes.**  It writes one step below the output directory exactly the builders of
types whose names have no slash; when no accepted type has one, and no type from source files does,
everything that changes is such a file or a directory made on the way to the output. -/
theorem changes_in_output {t t' : FileTree} {settings : Settings} {rules : List Check}
    {types : List Discovered} {outcome : Except WorkspaceError Report}
    (htypes : t.discover settings = .ok types) (h : t.generate settings rules = (t', outcome)) :
    (∀ report, outcome = .ok report →
        List.Forall₂ (fun a w => w.path = join settings.outputPath a.model.name.fileName)
          (accepted rules types) report.files)
      ∧ (∀ a ∈ accepted rules types,
          components (join settings.outputPath a.model.name.fileName)
              = components settings.outputPath ++ [.name a.model.name.fileName]
            ↔ '/' ∉ a.model.target.name.toList)
      ∧ (settings.source = .sourceFiles → ∀ a ∈ accepted rules types,
        '/' ∉ a.model.target.name.toList)
      ∧ ((∀ a ∈ accepted rules types, '/' ∉ a.model.target.name.toList) → ∀ l,
        t'.get? l ≠ t.get? l →
          (∃ up, t'.follow? t'.working (components settings.outputPath) = some up
            ∧ ∃ a ∈ accepted rules types, l = up ++ [a.model.name.fileName])
          ∨ t.get? l = none ∧ t'.get? l = some .directory
            ∧ ∃ up ∈ ancestors settings.outputPath, t'.resolve? up = some l) := by
  obtain ⟨done, hleaves, -, hfiles, hall⟩ := exists_leavesFiles htypes h
  refine ⟨fun report hreport => ?_, fun a ha => ?_, fun hsource a ha => ?_, fun hslash l hl => ?_⟩
  · obtain ⟨hall, hwritten⟩ := hall report hreport
    rw [hwritten, List.forall₂_map_right_iff]
    refine hall.imp fun a f hfile => ?_
    exact congrArg (join settings.outputPath) (Accepted.file_eq_ok_iff.1 hfile).1
  · rw [components_join_fileName_iff, slash_mem_builder_iff ha]
  · obtain ⟨d, hd, hmodel, -⟩ := mem_accepted_iff.1 ha
    rw [(isBuilderOf_of_synthesizeWith hmodel).target]
    exact slash_not_mem_of_discover htypes (fun hdesc => by rw [hsource] at hdesc; cases hdesc) d hd
  · by_cases hwritten : ∃ f ∈ done, t'.resolve? (join settings.outputPath f.name) = some l
    · obtain ⟨f, hf, hr⟩ := hwritten
      obtain ⟨a, ha, hfile⟩ := hfiles f hf
      rw [(Accepted.file_eq_ok_iff.1 hfile).1] at hr
      have hplain :=
        QualifiedName.isPlainName_fileName (mt (slash_mem_builder_iff ha).1 (hslash a ha))
      obtain ⟨up, hup, rfl⟩ := resolve?_join hplain hr
      exact .inl ⟨up, hup, a, ha, rfl⟩
    · rcases hleaves.elsewhere l fun f hf hr => hwritten ⟨f, hf, hr⟩ with hsame | hmade
      · exact absurd hsame hl
      · exact .inr hmade

/-- A workspace with a descriptor file whose type's name goes on behind its identifier. -/
def climbingTree : FileTree :=
  ⟨[(["out"], .directory), (["out", "job"], .directory), (["d"], .directory),
    (["d", "t.toml"], .file (.text descriptor))], []⟩
where
  /-- The text of the descriptor file. -/
  descriptor : String := "[[types]]\nname = \"Job//../../x\"\n[[types.constructors]]\n"

/-- The pass over this workspace accepts its type, and writes a file beside the output directory. -/
theorem exists_pass_climbingTree :
    ∃ types t' report, climbingTree.discover descriptorSettings = .ok types
    ∧ climbingTree.generate descriptorSettings defaultRules = (t', .ok report)
    ∧ (∃ a ∈ accepted defaultRules types, '/' ∈ a.model.target.name.toList)
    ∧ (t'.read? "x_builder.rs").isSome = true
    ∧ t'.follow? t'.working (components descriptorSettings.outputPath) = some ["out"] := by
  have hrun : (climbingTree.passFrom descriptorSettings defaultRules
      (descriptorSettings.visits [("t.toml", .text climbingTree.descriptor)])).toOption.any
        (fun pass => (accepted defaultRules pass.1).any
          (fun a => a.model.target.name.toList.contains '/')
          && (pass.2.1.read? "x_builder.rs").isSome
          && pass.2.1.follow? pass.2.1.working (components descriptorSettings.outputPath)
            == some ["out"]) = true := by
    decide +kernel
  obtain ⟨types, t', report, htypes, hgenerate, hp⟩ :=
    exists_pass_of_files ["d"] [("t.toml", .text climbingTree.descriptor)] (by decide +kernel) hrun
  simp only [Bool.and_eq_true, beq_iff_eq, List.any_eq_true, List.contains_iff_mem] at hp
  exact ⟨types, t', report, htypes, hgenerate, hp.1.1, hp.1.2, hp.2⟩

/-- In this workspace the theorem tells that the file's path is not one step below the output
directory. -/
theorem changes_in_output_climbing :
    ∃ types t' report, climbingTree.discover descriptorSettings = .ok types
    ∧ climbingTree.generate descriptorSettings defaultRules = (t', .ok report)
    ∧ ∃ a ∈ accepted defaultRules types,
      components (join descriptorSettings.outputPath a.model.name.fileName)
        ≠ components descriptorSettings.outputPath ++ [.name a.model.name.fileName] := by
  obtain ⟨types, t', report, htypes, hgenerate, ⟨a, ha, hslash⟩, -, -⟩ := exists_pass_climbingTree
  have hsteps := (changes_in_output htypes hgenerate).2.1 a ha
  exact ⟨types, t', report, htypes, hgenerate, a, ha, fun hone => hsteps.1 hone hslash⟩

/-- **A file can land above the output directory**: the output path leads to `out`, and the file is
beside it. -/
theorem written_beside_output :
    ∃ types t' report, climbingTree.discover descriptorSettings = .ok types
    ∧ climbingTree.generate descriptorSettings defaultRules = (t', .ok report)
    ∧ t'.follow? t'.working (components descriptorSettings.outputPath) = some ["out"]
    ∧ climbingTree.read? "x_builder.rs" = none ∧ (t'.read? "x_builder.rs").isSome = true := by
  obtain ⟨types, t', report, htypes, hgenerate, -, hwritten, hout⟩ := exists_pass_climbingTree
  exact ⟨types, t', report, htypes, hgenerate, hout, by decide +kernel, hwritten⟩

end FluentBuilder
