import FluentBuilder.Proofs.Code.TextLiterals
import FluentBuilder.Proofs.Layout.BuilderTexts
import FluentBuilder.Workspace.Generation

/-!
# The texts of files

* `BuilderFile.exists_tokens` — the tokens of a file;
* `BuilderFile.sourceItems?_text` — its items: the import, the struct and the implementation.
-/

namespace FluentBuilder

open Code Layout

/-! ### The items that are read -/

/-- The struct of a builder, up to its fields. -/
def BuilderCode.structWith (b : BuilderCode) (fields : List Item) (trailing : Bool) : Item :=
  .marked [.assigned ⟨false, ["doc"]⟩ (.literal (textLiteral b.documentation.toList))]
    b.visibility.written
    (.struct b.name.text (.mk [] false [] false) .named fields trailing)

/-- The implementation of a builder, up to its members. -/
def BuilderCode.implWith (b : BuilderCode) (members : List Item) : Item :=
  .marked [] .inherited
    (.impl false false (.mk [] false [] false) false none (nameType b.name.text) [] members)

/-- The tokens of the struct of a builder behind its documentation. -/
def BuilderCode.structTokens (b : BuilderCode) (fields : Tokens) : Tokens :=
  Code.documentation false b.documentation.toList
    ++ (b.visibility.written.tokens ++ [word "struct", word b.name.text, .group .brace fields])

/-- The tokens of the implementation of a builder. -/
def BuilderCode.implTokens (b : BuilderCode) (members : List Tokens) : Tokens :=
  [word "impl", word b.name.text, .group .brace members.flatten]

/-- Whether tokens spell the import of a module, if there is one. -/
def SpellsImport (imported : Option ModulePath) (trees : Tokens) : Prop :=
  match imported with
  | none => trees = []
  | some path =>
    ∃ names joint joint' lead, SpellsModule path.names names ∧ trees = allowTokens joint
      ++ word "use" :: (leadTokens path.leading lead ++ (names ++ [.leaf (.punct ';' joint')]))

/-! ### Tokens -/

/-- The documentation of a builder is written as a comment. -/
theorem metasLayout_documentation {text : List Char} (hfeed : '\n' ∉ text)
    (hslash : text.head? ≠ some '/') (htrim : trimSpaces text = text) :
    metasLayout false [.assigned ⟨false, ["doc"]⟩ (.literal (textLiteral text))]
      = [.text "///", .text (String.ofList text), hardBreak] := by
  have hdocumentation : documentation? false text = some (lineComment "///" text) := by
    have hnone : text.contains '\n' = false := by
      rw [← Bool.not_eq_true, List.contains_iff_mem]
      exact hfeed
    have hstart : (text.head? == some '/') = false := beq_eq_false_iff_ne.2 hslash
    have hplain : (!text.contains '\n' && (false || !(text.head? == some '/'))) = true := by
      rw [hnone, hstart]
      rfl
    unfold documentation?
    exact if_pos hplain
  have hcomment : comment? false ⟨false, ["doc"]⟩ (.literal (textLiteral text))
      = some (lineComment "///" text) := by
    unfold comment?
    dsimp only
    rw [stringValue?_textLiteral, Option.bind_eq_bind, Option.bind_some, if_pos (by decide),
      String.toList_ofList]
    exact hdocumentation
  show ((comment? false ⟨false, ["doc"]⟩ (.literal (textLiteral text))).getD _) ++ [] = _
  rw [hcomment, List.append_nil]
  show [.text "///", .text (String.ofList (trimSpaces text)), hardBreak] = _
  rw [htrim]

/-- The layout of an import, if there is one. -/
def importLayout (imported : Option ModulePath) : List Document :=
  itemsLayout (imported.map importItem).toList

theorem lays_importLayout {imported : Option ModulePath}
    (hnames : ∀ path ∈ imported, ∀ s ∈ path.names, IsName s ∧ isModuleWord s = true) :
    Lays false false (importLayout imported) (SpellsImport imported) := by
  cases imported with
  | none => exact lays_nil
  | some path =>
    show Lays false false (itemLayout [] [] (importItem path) ++ []) _
    rw [List.append_nil]
    exact (lays_import (hnames path rfl)).weaken

/-- Whether a documentation text is written as a comment on a single line. -/
structure IsCommentLine (text : List Char) : Prop where
  no_feed : '\n' ∉ text
  no_return : '\r' ∉ text
  no_slash : text.head? ≠ some '/'
  trimmed : trimSpaces text = text

theorem itemsLayout_file {file : BuilderFile}
    (hdocumentation : IsCommentLine file.builder.documentation.toList) :
    itemsLayout file.items = importLayout file.imported ++ [.text "///",
      .text file.builder.documentation, hardBreak]
      ++ (file.builder.structLayout ++ itemLayout [] [] file.builder.implItem) := by
  have hstruct : itemLayout [] [] file.builder.structItem
      = [.text "///", .text file.builder.documentation, hardBreak]
        ++ file.builder.structLayout := by
    have hmetas := metasLayout_documentation hdocumentation.no_feed hdocumentation.no_slash
      hdocumentation.trimmed
    rw [String.ofList_toList] at hmetas
    rw [← hmetas]
    exact itemLayout_struct _ _ _ _ _
  have hbuilder : itemsLayout file.builder.items
      = itemLayout [] [] file.builder.structItem
        ++ (itemLayout [] [] file.builder.implItem ++ []) := rfl
  have hfile : itemsLayout file.items
      = importLayout file.imported ++ itemsLayout file.builder.items := by
    unfold BuilderFile.items importLayout
    generalize file.builder.items = items
    cases file.imported with
    | none => rfl
    | some path =>
      show itemLayout [] [] (importItem path) ++ itemsLayout items = _ ++ [] ++ _
      rw [List.append_nil]
  rw [hfile, hbuilder, hstruct, List.append_nil]
  simp only [List.append_assoc]

/-- **The tokens of a file**, behind a comment on its first line. -/
theorem BuilderFile.exists_tokens {file : BuilderFile} {header : List Char}
    (hheader : '\n' ∉ header)
    (hstart : ∀ rest, startsLineComment ('/' :: header ++ '\n' :: rest) = true)
    (hnames : ∀ i ∈ file.builder.identifiers, IsName i.text)
    (himport : ∀ path ∈ file.imported, ∀ s ∈ path.names, IsName s ∧ isModuleWord s = true)
    (htypes : ∀ type ∈ file.builder.types, type.isPlain = true)
    (hdocumentation : IsCommentLine file.builder.documentation.toList) :
    ∃ import' fields members, SpellsImport file.imported import' ∧ CommaTrees IsFieldText fields
      ∧ (∀ member ∈ members, IsMemberText member)
      ∧ tokens? ('/' :: header ++ '\n' :: '\n' :: file.text.toList)
        = some (import'
          ++ (file.builder.structTokens fields ++ file.builder.implTokens members)) := by
  obtain ⟨s, w, r, hs, hw, hr, htext⟩ := exists_spells_line (importLayout file.imported)
    (file.builder.structLayout ++ itemLayout [] [] file.builder.implItem) "///"
      file.builder.documentation
  rw [← itemsLayout_file hdocumentation] at htext
  have hbehind :=
    (BuilderCode.lays_struct hnames htypes).append (BuilderCode.lays_impl hnames htypes) (.inl rfl)
  obtain ⟨lexemes, trees, htrees, hlexemes, hlexed⟩ := hbehind.gives r hr [] [] (.inl rfl) lexed_nil
  obtain ⟨_, _, rfl, ⟨fields, hfields, rfl⟩, members, hmembers, rfl⟩ := htrees
  rw [List.append_nil, List.append_nil] at hlexed
  have hline :=
    hw.lexed (hlexed.documentation hdocumentation.no_feed hdocumentation.no_return
      hdocumentation.no_slash)
  have hapart : Apart
      (w ++ '/' :: '/' :: '/' :: (file.builder.documentation.toList ++ '\n' :: r)) :=
    hw.apart (.inr (by decide : standsApart '/' = true))
  obtain ⟨front, import', hspells, hfront, hall⟩ :=
    (lays_importLayout himport).gives s hs _ _ (.inr hapart) hline
  have hfile :=
    ((hall.blank (by decide) (by decide : Text.isBlank '\n' = true)).comment (hstart _) hheader)
  have hinput : '/' :: header ++ '\n' :: '\n' :: file.text.toList
      = '/' :: header
        ++ '\n' :: '\n' ::
          (s ++ (w ++ '/' :: '/' :: '/' :: (file.builder.documentation.toList ++ '\n' :: r))) := by
    unfold BuilderFile.text itemsText
    rw [htext]
    simp only [List.append_assoc]
    rfl
  refine ⟨import', fields, members, hspells, hfields, hmembers, ?_⟩
  rw [hinput]
  exact tokens?_of_lexed rfl hfile (hfront.append ((assembles_trees _).append hlexemes))

/-! ### Items -/

theorem visibilityRule_written (v : Visibility) (more : Tokens) :
    visibilityRule (v.written.tokens ++ word "struct" :: more)
      = some (v.written, word "struct" :: more)
      ∧ atPunct "#" (v.written.tokens ++ word "struct" :: more) = false := by
  cases v <;> exact ⟨rfl, rfl⟩

/-- The struct and the implementation of a builder are read as two items. -/
theorem BuilderCode.items_of_tokens {b : BuilderCode} {fields : Tokens} {members : List Tokens}
    (hfields : CommaTrees IsFieldText fields) (hmembers : ∀ member ∈ members, IsMemberText member)
    {n : Nat} (hsize : tokensSize (b.structTokens fields ++ b.implTokens members) + 5 < n) :
    ∃ entries trailing items, ∀ fuel,
      whileAt (fun s => !s.isEmpty) (Grammar.level n).item (fuel + 3)
          (b.structTokens fields ++ b.implTokens members)
        = some ([b.structWith entries trailing, b.implWith items], []) := by
  simp only [structTokens, implTokens, tokensSize_append, tokensSize, TokenTree.size] at hsize
  obtain ⟨entries, trailing, hstruct⟩ := item_struct b.documentation.toList b.name.not_keyword
    (fun more => (visibilityRule_written b.visibility more).2)
      (fun more => (visibilityRule_written b.visibility more).1)
    hfields (show tokensSize fields + 2 < n by omega) (b.implTokens members)
  obtain ⟨items, himpl⟩ :=
    item_impl b.name.not_keyword hmembers (show tokensSize members.flatten + 5 < n by omega) []
  refine ⟨entries, trailing, items, fun fuel => ?_⟩
  have hread : (Grammar.level n).item (b.structTokens fields ++ b.implTokens members)
      = some (b.structWith entries trailing, b.implTokens members) := by
    simpa only [structTokens, structWith, List.append_assoc, List.cons_append,
      List.nil_append] using hstruct
  exact whileAt_cons rfl hread (whileAt_cons rfl himpl (otherwise rfl))

/-- **The items of a file** are the import, if there is one, the struct and the implementation. -/
theorem BuilderFile.items_of_tokens {file : BuilderFile} {import' fields : Tokens}
    {members : List Tokens} (hspells : SpellsImport file.imported import')
    (hfields : CommaTrees IsFieldText fields) (hmembers : ∀ member ∈ members, IsMemberText member) :
    ∃ entries trailing items,
      readTokens? sourceFileRule
          (import' ++ (file.builder.structTokens fields ++ file.builder.implTokens members))
        = some ((file.imported.map importItem).toList
          ++ [file.builder.structWith entries trailing, file.builder.implWith items]) := by
  have hle : tokensSize import'
        + tokensSize (file.builder.structTokens fields ++ file.builder.implTokens members)
      = tokensSize
        (import' ++ (file.builder.structTokens fields ++ file.builder.implTokens members)) :=
    (tokensSize_append import' _).symm
  obtain ⟨entries, trailing, items, hbuilder⟩ := file.builder.items_of_tokens hfields hmembers
    (n := depthOf
      (import' ++ (file.builder.structTokens fields ++ file.builder.implTokens members))) (by
        unfold depthOf
        omega)
  have hlength : 2
      ≤ (file.builder.structTokens fields ++ file.builder.implTokens members).length := by
    rw [List.length_append]
    exact Nat.le_trans (by decide : 2 ≤ 3) (Nat.le_add_left 3 _)
  refine ⟨entries, trailing, items, (readTokens?_sourceFile_iff ?_).2 ?_⟩
  · unfold SpellsImport at hspells
    split at hspells
    · obtain rfl := hspells
      rfl
    · obtain ⟨names, joint, joint', lead, -, rfl⟩ := hspells
      rfl
  · generalize file.builder.structTokens fields ++ file.builder.implTokens members
      = builder at hle hbuilder hlength ⊢
    generalize hdepth : depthOf (import' ++ builder) = depth at hbuilder ⊢
    unfold SpellsImport at hspells
    split at hspells
    · next himported =>
      obtain rfl := hspells
      rw [himported]
      obtain ⟨fuel, hfuel⟩ : ∃ fuel, builder.length = fuel + 2 := ⟨builder.length - 2, by omega⟩
      show whileAt _ _ (builder.length + 1) builder = _
      rw [hfuel]
      exact hbuilder fuel
    · next path himported =>
      obtain ⟨names, joint, joint', lead, hspells, rfl⟩ := hspells
      rw [himported]
      have hnames : tokensSize names
            ≤ tokensSize (allowTokens joint ++ word "use" :: (leadTokens path.leading lead
          ++ (names ++ [.leaf (.punct ';' joint')])) ++ builder) := by
        simp only [tokensSize_append, tokensSize]
        omega
      have himport : (Grammar.level depth).item
            (allowTokens joint ++ word "use" :: (leadTokens path.leading lead
          ++ (names ++ [.leaf (.punct ';' joint')])) ++ builder)
            = some (importItem path, builder) := by
        have hitem := item_import (n := depth) hspells path.leading joint joint' lead (by
          rw [← hdepth]
          unfold depthOf
          omega) builder
        simpa only [importItem, List.append_assoc, List.cons_append, List.nil_append] using hitem
      obtain ⟨fuel, hfuel⟩ : ∃ fuel,
            (allowTokens joint ++ word "use" :: (leadTokens path.leading lead
          ++ (names ++ [.leaf (.punct ';' joint')])) ++ builder).length = fuel + 3 := by
        refine ⟨_ - 3, (Nat.sub_add_cancel ?_).symm⟩
        rw [List.length_append]
        have hallow : 1 ≤ (allowTokens joint ++ word "use" :: (leadTokens path.leading lead
          ++ (names ++ [.leaf (.punct ';' joint')]))).length := Nat.le_add_left 1 _
        omega
      show whileAt _ _ (_ + 1) _ = _
      rw [hfuel]
      exact whileAt_cons rfl himport (hbuilder fuel)

/-- **The text of a file** is read as its import, the struct and the implementation. -/
theorem BuilderFile.sourceItems?_text {file : BuilderFile} {origin : String}
    (horigin : '\n' ∉ origin.toList) (hnames : ∀ i ∈ file.builder.identifiers, IsName i.text)
    (himport : ∀ path ∈ file.imported, ∀ s ∈ path.names, IsName s ∧ isModuleWord s = true)
    (htypes : ∀ type ∈ file.builder.types, type.isPlain = true)
    (hdocumentation : IsCommentLine file.builder.documentation.toList) : ∃ entries trailing items,
      sourceItems? (fileHeader origin ++ file.text) = some ((file.imported.map importItem).toList
        ++ [file.builder.structWith entries trailing, file.builder.implWith items]) := by
  have hheader : '\n' ∉ "/ @generated by autobuilder from ".toList ++ origin.toList
      ++ ". Do not edit.".toList := by
    rw [List.mem_append, List.mem_append]
    rintro ((h | h) | h)
    · exact absurd h (by decide)
    · exact horigin h
    · exact absurd h (by decide)
  obtain ⟨import', fields, members, hspells, hfields, hmembers, htokens⟩ :=
    file.exists_tokens hheader (fun _ => rfl) hnames himport htypes hdocumentation
  obtain ⟨entries, trailing, items, hitems⟩ := file.items_of_tokens hspells hfields hmembers
  refine ⟨entries, trailing, items, ?_⟩
  have htext : (fileHeader origin ++ file.text).toList
        = '/' :: ("/ @generated by autobuilder from ".toList
      ++ origin.toList ++ ". Do not edit.".toList) ++ '\n' :: '\n' :: file.text.toList := by
    have hopening : "// @generated by autobuilder from ".toList
      = '/' :: "/ @generated by autobuilder from ".toList := rfl
    have hclosing : ". Do not edit.\n\n".toList = ". Do not edit.".toList ++ ['\n', '\n'] := rfl
    unfold fileHeader
    rw [String.toList_append, String.toList_append, String.toList_append, hopening, hclosing]
    simp only [List.append_assoc, List.cons_append, List.nil_append]
  have hplain : dropInterpreterLine (dropByteOrderMark (fileHeader origin ++ file.text).toList)
      = (fileHeader origin ++ file.text).toList := by
    rw [htext]
    rfl
  unfold sourceItems? readText?
  rw [hplain, htext, htokens]
  exact hitems

end FluentBuilder
