import FluentBuilder.Proofs.Data.Records
import FluentBuilder.Proofs.Data.TomlDocuments
import FluentBuilder.Proofs.References

/-!
# Settings that are written are read back

* `Config.decode?_encode` — the value of settings is read back.
* `Config.readToml?_toml` — the text of settings is read as their value.
* `Config.parse_toml` — the text of settings is read back, with the variables put into the three
  paths.
-/

namespace FluentBuilder

open FluentBuilder.Data

/-! ### Values -/

/-- Settings are read back from the tables of their sections. -/
theorem Config.decode?_encode (dialect : Dialect) (c : Config) :
    Config.decode? dialect c.encode = some c := by
  have hsource : Value.choice? dialect sourceKinds (.text c.general.source.label)
      = some c.general.source := by
    cases c.general.source <;> rfl
  have hpolicy : Value.choice? dialect failurePolicies (.text c.driver.failurePolicy.label)
      = some c.driver.failurePolicy := by
    cases c.driver.failurePolicy <;> rfl
  have hmarkers : Value.list? Value.text? (.list (c.general.markers.map Value.text))
      = some c.general.markers :=
    list?_map (fun s => (rfl : Value.text? (.text s) = some s)) _
  unfold Config.decode? Config.encode
  refine record?_table ?_ dialect
  -- each section is the first entry of those that are left, and a record of its own
  refine .bind (reads_optional (a := c.general) (by simp) (record?_table ?_ dialect)) ?_
  · refine .bind (reads_optional (by simp) hmarkers) ?_
    exact .bind (reads_optional (by simp) hsource) (reads_pure _ _)
  refine .bind (reads_optional (a := c.source) (by simp) (record?_table ?_ dialect)) ?_
  · refine .bind (reads_optional (by simp) rfl) ?_
    exact .bind (reads_optional (by simp) rfl) (reads_pure _ _)
  refine .bind (reads_optional (a := c.output) (by simp) (record?_table ?_ dialect)) ?_
  · exact .bind (reads_optional (by simp) rfl) (reads_pure _ _)
  refine .bind (reads_optional (a := c.driver) (by simp) (record?_table ?_ dialect)) ?_
  · refine .bind (reads_optional (by simp) hpolicy) ?_
    exact .bind (reads_optional (by simp) rfl) (reads_pure _ _)
  exact reads_pure _ _

/-! ### Texts -/

/-- The sections of settings. -/
def Config.sections (c : Config) : List Section :=
  [⟨"general",
    [⟨"markers", '[' :: (itemsText c.general.markers ++ [']']),
      .list (c.general.markers.map Value.text)⟩,
      ⟨"source", (writeText c.general.source.label).toList, .text c.general.source.label⟩]⟩,
    ⟨"source", [⟨"scan_path", (writeText c.source.scanPath).toList, .text c.source.scanPath⟩,
      ⟨"descriptor_path", (writeText c.source.descriptorPath).toList,
        .text c.source.descriptorPath⟩]⟩,
    ⟨"output", [⟨"path", (writeText c.output.path).toList, .text c.output.path⟩]⟩,
    ⟨"driver", [⟨"failure_policy", (writeText c.driver.failurePolicy.label).toList,
        .text c.driver.failurePolicy.label⟩,
      ⟨"parallel", (if c.driver.parallel then "true" else "false").toList,
        .bool c.driver.parallel⟩]⟩]

theorem Config.toList_toml (c : Config) : c.toml.toList = sectionsText c.sections := by
  unfold Config.toml
  simp only [String.toList_append, List.append_assoc, Config.sections, sectionsText, Section.text,
    headerText, entryText, itemsText, List.flatMap_cons, List.flatMap_nil]
  simp

theorem Config.isWritten_sections (c : Config) : ∀ s ∈ c.sections, s.IsWritten := by
  unfold Config.sections
  refine List.forall_mem_cons.2 ⟨?_, List.forall_mem_cons.2 ⟨?_, List.forall_mem_cons.2 ⟨?_,
    List.forall_mem_singleton.2 ?_⟩⟩⟩
  · refine .cons (.cons (Section.isWritten_nil ?_) ?_ (isWrittenValue_text _) (by simp)) ?_
      (isWrittenValue_texts _)
      (by simp)
    all_goals decide
  · refine .cons (.cons (Section.isWritten_nil ?_) ?_ (isWrittenValue_text _) (by simp)) ?_
      (isWrittenValue_text _)
      (by simp)
    all_goals decide
  · refine .cons (Section.isWritten_nil ?_) ?_ (isWrittenValue_text _) (by simp)
    all_goals decide
  · refine .cons (.cons (Section.isWritten_nil ?_) ?_ (isWrittenValue_bool _) (by simp)) ?_
      (isWrittenValue_text _)
      (by simp)
    all_goals decide

/-- The text of settings is read as the value of settings. -/
theorem Config.readToml?_toml (c : Config) : Value.readToml? c.toml = some c.encode :=
  readToml?_sectionsText c.isWritten_sections (by simp [Config.sections]) c.toList_toml

/-! ### Settings -/

/-- **The text of settings is read back**, whatever texts stand in them, with every path replaced by
what the environment makes of it; the first path in which a variable is missing is the error.
Settings whose paths do not refer to variables are read back as they are. -/
theorem Config.parse_toml (env : Environment) (c : Config) :
    (Config.parse env c.toml =
      match substitute env c.source.scanPath, substitute env c.source.descriptorPath,
        substitute env c.output.path with
      | .error name, _, _ => .error (.missingVariable name)
      | .ok _, .error name, _ => .error (.missingVariable name)
      | .ok _, .ok _, .error name => .error (.missingVariable name)
      | .ok scanPath, .ok descriptorPath, .ok path =>
        .ok { c with source := { scanPath, descriptorPath }, output := { path } })
    ∧ (¬ Refers c.source.scanPath.toList → ¬ Refers c.source.descriptorPath.toList →
      ¬ Refers c.output.path.toList → Config.parse env c.toml = .ok c) := by
  have hparse : Config.parse env c.toml = c.substituted env := by
    simp only [Config.parse, c.readToml?_toml, Option.bind_eq_bind, Option.bind_some,
      Config.decode?_encode]
  rw [hparse]
  refine ⟨?_, ?_⟩
  · simp only [Config.substituted]
    cases substitute env c.source.scanPath with
    | error name => rfl
    | ok scanPath =>
      cases substitute env c.source.descriptorPath with
      | error name => rfl
      | ok descriptorPath => cases substitute env c.output.path <;> rfl
  · intro hscan hdescriptor houtput
    simp only [Config.substituted, substitute_of_not_refers env hscan,
      substitute_of_not_refers env hdescriptor, substitute_of_not_refers env houtput]
    rfl

end FluentBuilder
