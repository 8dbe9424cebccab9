import FluentBuilder.Proofs.BuilderNames
import FluentBuilder.Proofs.Layout.FileTexts
import FluentBuilder.Proofs.PackageImports
import FluentBuilder.Proofs.Workspace.KeptOrigins

/-!
# The texts of generated files

Names and types reach the text of a builder only as what they were read as, the package only as
an import, and the origin only in a comment.  So a file is read as its import, the struct and the
implementation, and nothing else, as long as no line break ends a comment early and the types are
laid out in a way that is read back.

* `BuilderModel.code_spec`, `BuilderModel.fileCode_spec` — the names and types in the code of a
  builder and of a file;
* `BuilderModel.IsPlain` — models whose files are read back;
* `generate_ok_items` — the items of the files that a pass has written.
-/

namespace FluentBuilder

open FluentBuilder.Code FilePath

/-! ### Names and types in code -/

theorem isName_of_mem_tokens? {source : List Char} {trees : Tokens} {s : String}
    (h : tokens? source = some trees) (hs : s ∈ tokensWords trees) : IsName s := by
  obtain ⟨_, _, hidentifier⟩ := exists_identifier_of_mem_tokens? h hs
  exact isName_of_splitIdentifier? hidentifier

/-- What a text spells as an identifier is a name. -/
theorem isName_of_identifierOf {text : String} {i : Identifier} (h : identifierOf text = .ok i) :
    IsName i.text := by
  have hread := identifierOf_eq_ok_iff.1 h
  unfold Identifier.read? at hread
  split at hread
  · next name htokens =>
    rw [Identifier.ofWord?_eq_some_iff.1 hread]
    exact isName_of_mem_tokens? htokens List.mem_cons_self
  · cases hread

theorem Slot.code_spec {s : Slot} {c : SlotCode} (h : s.code = .ok c) :
    IsName c.name.text ∧ TypeExpr.read? s.type = some c.type := by
  obtain ⟨name, hname, h⟩ := bind_eq_ok_iff.1 h
  obtain ⟨type, htype, h⟩ := bind_eq_ok_iff.1 h
  cases h
  refine ⟨isName_of_identifierOf hname, ?_⟩
  unfold Slot.typeCode at htype
  split at htype
  · next read hread =>
    cases htype
    exact hread
  · cases htype

/-- The texts of the types in a method. -/
def Method.typeTexts : Method → List String
  | .setter _ slot => [slot.type]
  | _ => []

/-- The texts of the types in a builder. -/
def BuilderModel.typeTexts (b : BuilderModel) : List String :=
  b.slots.map Slot.type ++ b.methods.flatMap Method.typeTexts

theorem Method.code_spec {m : Method} {c : MethodCode} (h : m.code = .ok c) :
    (∀ i ∈ c.identifiers, IsName i.text)
      ∧ ∀ type ∈ c.types, ∃ text ∈ m.typeTexts, TypeExpr.read? text = some type := by
  cases m with
  | factory name =>
    obtain ⟨i, hi, h⟩ := bind_eq_ok_iff.1 h
    cases h
    simp [MethodCode.identifiers, MethodCode.types, isName_of_identifierOf hi]
  | setter name slot =>
    obtain ⟨i, hi, h⟩ := bind_eq_ok_iff.1 h
    obtain ⟨code, hcode, h⟩ := bind_eq_ok_iff.1 h
    cases h
    obtain ⟨hname, htype⟩ := Slot.code_spec hcode
    simp [MethodCode.identifiers, MethodCode.types, Method.typeTexts, isName_of_identifierOf hi,
      hname, htype]
  | terminal name returns construction assignments =>
    obtain ⟨i, hi, h⟩ := bind_eq_ok_iff.1 h
    obtain ⟨call, hcall, h⟩ := bind_eq_ok_iff.1 h
    obtain ⟨names, hnames, h⟩ := bind_eq_ok_iff.1 h
    cases h
    have hassigned : ∀ j ∈ names, IsName j.text := by
      intro j hj
      obtain ⟨text, -, hread⟩ := exists_of_mem_right (mapM_eq_ok_iff.1 hnames) hj
      exact isName_of_identifierOf hread
    have hconstruction : ∀ j ∈ call.identifiers, IsName j.text := by
      cases construction with
      | default =>
        cases hcall
        simp [ConstructionCode.identifiers]
      | associated function =>
        obtain ⟨j, hj, h⟩ := bind_eq_ok_iff.1 hcall
        cases h
        simp [ConstructionCode.identifiers, isName_of_identifierOf hj]
    refine ⟨fun j hj => ?_, by simp [MethodCode.types]⟩
    simp only [MethodCode.identifiers, List.mem_cons, List.mem_append] at hj
    rcases hj with rfl | hj | hj
    · exact isName_of_identifierOf hi
    · exact hconstruction j hj
    · exact hassigned j hj

/-- **What the code of a builder is made of**: names, and types that the texts of the model
spell. -/
theorem BuilderModel.code_spec {b : BuilderModel} {c : BuilderCode} (h : b.code = .ok c) :
    c.documentation = b.documentation ∧ (∀ i ∈ c.identifiers, IsName i.text)
      ∧ ∀ type ∈ c.types, ∃ text ∈ b.typeTexts, TypeExpr.read? text = some type := by
  obtain ⟨name, hname, h⟩ := bind_eq_ok_iff.1 h
  obtain ⟨target, htarget, h⟩ := bind_eq_ok_iff.1 h
  obtain ⟨slots, hslots, h⟩ := bind_eq_ok_iff.1 h
  obtain ⟨methods, hmethods, h⟩ := bind_eq_ok_iff.1 h
  cases h
  have hslot : ∀ slot ∈ slots, IsName slot.name.text ∧ ∃ text ∈ b.typeTexts,
      TypeExpr.read? text = some slot.type := by
    intro slot hmem
    obtain ⟨s, hs, hcode⟩ := exists_of_mem_right (mapM_eq_ok_iff.1 hslots) hmem
    obtain ⟨hname, htype⟩ := Slot.code_spec hcode
    exact ⟨hname, s.type, List.mem_append_left _ (List.mem_map_of_mem hs), htype⟩
  have hmethod : ∀ m ∈ methods, (∀ i ∈ m.identifiers, IsName i.text)
      ∧ ∀ type ∈ m.types, ∃ text ∈ b.typeTexts, TypeExpr.read? text = some type := by
    intro m hmem
    obtain ⟨source, hsource, hcode⟩ := exists_of_mem_right (mapM_eq_ok_iff.1 hmethods) hmem
    obtain ⟨hnames, htypes⟩ := Method.code_spec hcode
    refine ⟨hnames, fun type htype => ?_⟩
    obtain ⟨text, htext, hread⟩ := htypes type htype
    exact ⟨text, List.mem_append_right _ (List.mem_flatMap_of_mem hsource htext), hread⟩
  refine ⟨rfl, fun i hi => ?_, fun type htype => ?_⟩
  · simp only [BuilderCode.identifiers, List.mem_cons, List.mem_append, List.mem_map,
      List.mem_flatMap] at hi
    rcases hi with rfl | rfl | ⟨slot, hmem, rfl⟩ | ⟨m, hmem, hi⟩
    · exact isName_of_identifierOf hname
    · exact isName_of_identifierOf htarget
    · exact (hslot slot hmem).1
    · exact (hmethod m hmem).1 i hi
  · simp only [BuilderCode.types, List.mem_append, List.mem_map, List.mem_flatMap] at htype
    rcases htype with ⟨slot, hmem, rfl⟩ | ⟨m, hmem, htype⟩
    · exact (hslot slot hmem).2
    · exact (hmethod m hmem).2 type htype

/-- **What the code of a file is made of**: the code of its builder, and an import of names that
an import knows. -/
theorem BuilderModel.fileCode_spec {b : BuilderModel} {file : BuilderFile}
    (h : b.fileCode = .ok file) :
    b.code = .ok file.builder
      ∧ ∀ module ∈ file.imported, ∀ s ∈ module.names, IsName s ∧ isModuleWord s = true := by
  obtain ⟨c, hc, h⟩ := bind_eq_ok_iff.1 h
  split at h
  · next path hpath =>
    split at h
    · next module hmodule =>
      cases h
      refine ⟨hc, ?_⟩
      intro found hfound s hs
      obtain rfl := Option.some.inj hfound
      rw [b.import?_eq] at hpath
      obtain ⟨trees, htrees, hnamed⟩ := Path.named_of_read? hpath
      obtain ⟨hmem, hword⟩ := hnamed.isModuleWord_of_importable hmodule s hs
      exact ⟨isName_of_mem_tokens? htrees hmem, hword⟩
    · cases h
  · cases h
    exact ⟨hc, by simp⟩

/-! ### Texts that are read back -/

/-- Whether the texts in a model leave the layout of its code readable: the name of the target
stands on the one line of the documentation, and the types are plain. -/
structure BuilderModel.IsPlain (b : BuilderModel) : Prop where
  no_feed : '\n' ∉ b.target.name.toList
  no_return : '\r' ∉ b.target.name.toList
  types : ∀ text ∈ b.typeTexts, ∀ type, TypeExpr.read? text = some type → type.isPlain = true

theorem BuilderModel.isPlain_iff {b : BuilderModel} :
    b.IsPlain ↔ '\n' ∉ b.target.name.toList ∧ '\r' ∉ b.target.name.toList
      ∧ ∀ text ∈ b.typeTexts, (TypeExpr.read? text).all TypeExpr.isPlain = true := by
  constructor
  · rintro ⟨hfeed, hreturn, htypes⟩
    exact ⟨hfeed, hreturn, fun text htext => (Option.all_eq_true _ _).2 (htypes text htext)⟩
  · rintro ⟨hfeed, hreturn, htypes⟩
    exact ⟨hfeed, hreturn, fun text htext => (Option.all_eq_true _ _).1 (htypes text htext)⟩

instance (b : BuilderModel) : Decidable b.IsPlain :=
  decidable_of_iff _ BuilderModel.isPlain_iff.symm

theorem trimSpaces_append_singleton (text : List Char) {c : Char} (hc : c ≠ ' ') :
    Layout.trimSpaces (text ++ [c]) = text ++ [c] := by
  simp [Layout.trimSpaces, hc]

/-- The documentation of a plain model is a comment on one line. -/
theorem BuilderModel.IsPlain.isCommentLine {b : BuilderModel} (h : b.IsPlain) :
    IsCommentLine b.documentation.toList := by
  have htext : b.documentation.toList = " Fluent builder for [`".toList ++ b.target.name.toList
      ++ "`]".toList ++ ['.'] := by
    have hclosing : "`].".toList = "`]".toList ++ ['.'] := rfl
    unfold BuilderModel.documentation
    rw [String.toList_append, String.toList_append, hclosing, List.append_assoc, List.append_assoc,
      List.append_assoc]
  have hmem : ∀ c, c ∉ " Fluent builder for [`".toList → c ∉ "`]".toList → c ≠ '.' →
    c ∉ b.target.name.toList →
      c ∉ b.documentation.toList := by
    intro c hopening hclosing hdot hname
    rw [htext]
    simp only [List.mem_append, List.mem_singleton, not_or]
    exact ⟨⟨⟨hopening, hname⟩, hclosing⟩, hdot⟩
  refine ⟨hmem _ (by decide) (by decide) (by decide) h.no_feed,
    hmem _ (by decide) (by decide) (by decide) h.no_return, ?_, ?_⟩
  · rw [htext]
    simp
  · rw [htext]
    exact trimSpaces_append_singleton _ (by decide)

/-- **The items of a file.**  The text of the file of a plain model, behind the comment with an
origin on one line, is read as the import, if there is one, the struct and the implementation of its
builder. -/
theorem BuilderModel.IsPlain.sourceItems?_file {b : BuilderModel} (h : b.IsPlain)
    {file : BuilderFile} (hfile : b.fileCode = .ok file) {origin : String}
    (horigin : '\n' ∉ origin.toList) :
    ∃ fields trailing members,
      sourceItems? (fileHeader origin ++ file.text) = some ((file.imported.map importItem).toList
        ++ [file.builder.structWith fields trailing, file.builder.implWith members]) := by
  obtain ⟨hcode, himport⟩ := BuilderModel.fileCode_spec hfile
  obtain ⟨hdocumentation, hnames, htypes⟩ := BuilderModel.code_spec hcode
  refine BuilderFile.sourceItems?_text horigin hnames himport (fun type htype => ?_) ?_
  · obtain ⟨text, htext, hread⟩ := htypes type htype
    exact h.types text htext type hread
  · rw [hdocumentation]
    exact h.isCommentLine

example : (synthesize (sampleType "Job" ["id", "r#type"])).toOption.any (fun b => decide b.IsPlain)
    = true := by
  decide +kernel

/-- **The items of the files that a pass has written.**  Each file that a successful pass reports is
read as the import of its builder's package, if there is one, the struct and the implementation,
when its origin is on one line and its model is plain. -/
theorem generate_ok_items {t t' : FileTree} {settings : Settings} {rules : List Check}
    {report : Report} {types : List Discovered} (htypes : t.discover settings = .ok types)
    (hslash : settings.source = .descriptors → ∀ d ∈ types, '/' ∉ d.type.name.name.toList)
    (h : t.generate settings rules = (t', .ok report)) :
    List.Forall₂ (fun a w => '\n' ∉ a.origin.toList → a.model.IsPlain →
      ∃ text file fields trailing members, t'.read? w.path = some text ∧ a.model.fileCode = .ok file
        ∧ sourceItems? text = some ((file.imported.map importItem).toList
          ++ [file.builder.structWith fields trailing, file.builder.implWith members]))
      (accepted rules types) report.files := by
  rcases generate_cases t settings rules with ⟨e, -, hsame⟩ | ⟨plan, done, rest, hplan, hsplit,
    hleaves, hend⟩
  · rw [hsame] at h
    cases h
  rw [h] at hleaves hend
  rcases hend with ⟨rfl, hok⟩ | herr
  · obtain ⟨types', htypes', -, hall, hnodup, -, -⟩ := plan_eq_ok_iff.1 hplan
    obtain rfl : types = types' := Except.ok.inj (htypes.symm.trans htypes')
    rw [hsplit, List.append_nil] at hall hnodup
    obtain rfl := Except.ok.inj hok
    have hplain := isPlainName_of_planned (slash_not_mem_of_discover htypes hslash) hall
    refine (forall₂_isFileOf hall (hleaves.read?_join hplain hnodup)).imp ?_
    intro a w hwritten horigin hmodel
    obtain ⟨source, text, hsource, rfl, hread, -⟩ := hwritten.text
    obtain ⟨file, hfile, htext⟩ := bind_eq_ok_iff.1 hsource
    obtain rfl := Except.ok.inj htext
    obtain ⟨fields, trailing, members, hitems⟩ := hmodel.sourceItems?_file hfile horigin
    exact ⟨_, file, fields, trailing, members, hread, hfile, hitems⟩
  · cases herr

/-- A workspace with a source file that holds one type with a field. -/
def plainTree : FileTree :=
  ⟨[(["src"], .directory), (["src", "job.rs"], .file (.text jobText))], []⟩
where
  /-- The text of the source file. -/
  jobText : String :=
    "#[derive(AutoBuilder, Default)]\npub struct Job \x7b\n    pub id: Option<u32>,\n\x7d\n"

/-- The pass over this workspace writes one file beside the source file, for a plain model. -/
theorem exists_pass_plainTree : ∃ types t' report, plainTree.discover intoSources = .ok types
    ∧ plainTree.generate intoSources defaultRules = (t', .ok report)
    ∧ (∀ a ∈ accepted defaultRules types, '\n' ∉ a.origin.toList ∧ a.model.IsPlain)
    ∧ (accepted defaultRules types).map (fun a => a.model.fileCode.toOption.map fun file =>
        (file.imported, file.builder.name.text))
          = [some (some ⟨false, ["crate", "job"]⟩, "JobBuilder")]
    ∧ report.files.map WrittenFile.path = ["src/job_builder.rs"]
    ∧ ∀ d ∈ types, t'.resolve? "src/job_builder.rs" ≠ t'.resolve? d.origin := by
  have hrun : (plainTree.passFrom intoSources defaultRules
      (intoSources.visits [("job.rs", .text plainTree.jobText)])).toOption.any
        (fun pass : List Discovered × FileTree × Report =>
          decide (∀ a ∈ accepted defaultRules pass.1, '\n' ∉ a.origin.toList ∧ a.model.IsPlain)
          && decide ((accepted defaultRules pass.1).map
            (fun a => a.model.fileCode.toOption.map fun file =>
              (file.imported, file.builder.name.text))
                = [some (some ⟨false, ["crate", "job"]⟩, "JobBuilder")])
          && decide (pass.2.2.files.map WrittenFile.path = ["src/job_builder.rs"])
          && decide (∀ d ∈ pass.1, pass.2.1.resolve? "src/job_builder.rs"
            ≠ pass.2.1.resolve? d.origin)) = true := by
    decide +kernel
  obtain ⟨types, t', report, htypes, hgenerate, hp⟩ :=
    exists_pass_of_files ["src"] [("job.rs", .text plainTree.jobText)] (by decide +kernel) hrun
  simp only [Bool.and_eq_true, decide_eq_true_eq] at hp
  exact ⟨types, t', report, htypes, hgenerate, hp.1.1.1, hp.1.1.2, hp.1.2, hp.2⟩

/-- The file written in this workspace holds the import of the type's module, the struct and the
implementation of its builder. -/
theorem generate_ok_items_job : ∃ types t' report, plainTree.discover intoSources = .ok types
    ∧ plainTree.generate intoSources defaultRules = (t', .ok report)
    ∧ ∃ text b fields trailing members, t'.read? "src/job_builder.rs" = some text
      ∧ (b : BuilderCode).name.text = "JobBuilder"
      ∧ sourceItems? text = some [importItem ⟨false, ["crate", "job"]⟩,
          b.structWith fields trailing, b.implWith members] := by
  obtain ⟨types, t', report, htypes, hgenerate, hplain, hcode, hpath, -⟩ := exists_pass_plainTree
  have hitems := generate_ok_items htypes nofun hgenerate
  refine ⟨types, t', report, htypes, hgenerate, ?_⟩
  obtain ⟨a, rest, haccepted, hfile, hrest⟩ := List.map_eq_cons_iff.1 hcode
  obtain rfl := List.map_eq_nil_iff.1 hrest
  obtain ⟨w, others, hwritten, hw, -⟩ := List.map_eq_cons_iff.1 hpath
  rw [haccepted, hwritten] at hitems
  obtain ⟨horigin, hmodel⟩ := hplain a (haccepted ▸ List.mem_cons_self)
  cases hitems with
  | cons hitem _ =>
    obtain ⟨text, file, fields, trailing, members, hread, hcode, hitems⟩ := hitem horigin hmodel
    rw [hcode] at hfile
    simp only [Except.toOption, Option.map_some, Option.some.injEq, Prod.mk.injEq] at hfile
    rw [hfile.1] at hitems
    rw [hw] at hread
    exact ⟨text, file.builder, fields, trailing, members, hread, hfile.2, hitems⟩

/-- A workspace with a descriptor file in a directory whose name has two lines. -/
def twoLineTree : FileTree :=
  ⟨[([directory], .directory), ([directory, "t.toml"], .file (.text descriptor))], []⟩
where
  /-- The name of the directory. -/
  directory : String := "d\n#[derive(AutoBuilder)] struct Evil; "
  /-- The text of the descriptor file. -/
  descriptor : String := "[[types]]\nname = \"Job\"\n[[types.constructors]]\n"

/-- Settings for a pass over this directory; the slashes behind its name open a comment. -/
def twoLineSettings : Settings :=
  { descriptorSettings with descriptorPath := twoLineTree.directory ++ "//" }

/-- **A line break in the path of a descriptor file ends the comment**: the file written holds a
struct besides the builder. -/
theorem item_from_origin : ∃ t' report text items,
    twoLineTree.generate twoLineSettings defaultRules = (t', .ok report)
    ∧ report.files.map WrittenFile.path = ["out/job_builder.rs"]
    ∧ t'.read? "out/job_builder.rs" = some text ∧ sourceItems? text = some items
    ∧ (items.filterMap Item.declaration?).map TypeDeclaration.name = ["Evil", "JobBuilder"] := by
  have hrun : (twoLineTree.passFrom twoLineSettings defaultRules
      (twoLineSettings.visits [("t.toml", .text twoLineTree.descriptor)])).toOption.any
        (fun pass : List Discovered × FileTree × Report =>
          pass.2.2.files.map WrittenFile.path == ["out/job_builder.rs"]
          && (pass.2.1.read? "out/job_builder.rs").any fun text =>
            (sourceItems? text).any fun items =>
              (items.filterMap Item.declaration?).map TypeDeclaration.name
                == ["Evil", "JobBuilder"])
      = true := by
    decide +kernel
  obtain ⟨_, t', report, -, hgenerate, hp⟩ :=
    exists_pass_of_files [twoLineTree.directory] [("t.toml", .text twoLineTree.descriptor)]
      (by decide +kernel) hrun
  simp only [Bool.and_eq_true, beq_iff_eq, Option.any_eq_true] at hp
  obtain ⟨hpath, text, hread, items, hitems, hnames⟩ := hp
  exact ⟨t', report, text, items, hgenerate, hpath, hread, hitems, hnames⟩

end FluentBuilder
