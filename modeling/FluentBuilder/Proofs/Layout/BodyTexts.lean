import FluentBuilder.Layout.BuilderLayout
import FluentBuilder.Proofs.Code.ItemReading
import FluentBuilder.Proofs.Layout.TypeTexts

/-!
# The texts of methods' bodies

* `lays_linked`, `lays_variant` — paths below the core of the standard library;
* `lays_slot`, `lays_some`, `lays_emptyBuilder`, `ConstructionCode.lays` — expressions;
* `lays_factoryBody`, `lays_setterBody`, `lays_terminalBody` — the bodies of the three kinds of
  methods.
-/

namespace FluentBuilder

open Code Layout

variable {ends : Bool} {P : Tokens → Prop}

/-! ### Paths -/

/-- Names, each behind a double colon. -/
theorem lays_linked {names : List String} (hne : names ≠ []) (hnames : ∀ s ∈ names, IsName s) :
    Lays true false (names.flatMap fun s => [.text "::", .text s])
      (· = names.flatMap fun s => [.leaf (.punct ':' true), .leaf (.punct ':' false), word s]) := by
  have hcons : ∀ {s : String} {ds : List Document} {trees : Tokens}, IsName s →
      Lays false false (.text s :: ds) (· = trees) → Lays true false (.text "::" :: .text s :: ds)
        (· = .leaf (.punct ':' true) :: .leaf (.punct ':' false) :: trees) := by
    intro s ds trees hs h
    refine (lays_operator_cons [] [':', ':'] rfl (by decide)
      (fun _ => (by decide : standsApart ':' = true)) blanks_nil
      hs h).mono ?_
    rintro _ ⟨_, rfl, rfl⟩
    rfl
  induction names with
  | nil => exact absurd rfl hne
  | cons s names ih =>
    obtain ⟨hs, hnames⟩ := List.forall_mem_cons.1 hnames
    cases names with
    | nil => exact hcons hs (lays_name hs)
    | cons t names =>
      refine hcons hs
        (((lays_name hs).append (ih (List.cons_ne_nil t names) hnames) (.inr rfl)).mono ?_)
      rintro _ ⟨_, _, rfl, rfl, rfl⟩
      rfl

/-- A variant of the optional value. -/
theorem lays_variant {name : String} (hname : IsName name) :
    Lays true false (pathLayout true (optionVariant name)) (· = variantTokens name) := by
  refine lays_linked (List.cons_ne_nil "core" ["option", "Option", name]) ?_
  intro s hs
  simp only [List.mem_cons, List.not_mem_nil, or_false] at hs
  rcases hs with rfl | rfl | rfl | rfl
  · decide
  · decide
  · decide
  · exact hname

theorem isPathText_variant {name : String} (hname : isPathWord name = true) :
    IsPathText true (variantTokens name) :=
  (((isSegmentText_name (by decide) true).isPathText_leading.link
    (isSegmentText_name (by decide) true)).link
    (isSegmentText_name (by decide) true)).link (isSegmentText_name hname true)

/-! ### Expressions -/

/-- Tokens that are read as a value, wherever it stands. -/
def IsValueText (trees : Tokens) : Prop :=
  IsOperandText true trees ∧ StartsValue trees

/-- The access to a slot. -/
theorem lays_slot {base slot : String} (hbase : IsName base) (hslot : IsName slot) :
    Lays false false (exprLayout .inside (slotOf base slot))
      (· = [word base, .leaf (.punct '.' false), word slot]) := by
  have haccess : Lays true false (.text "." :: .text slot :: [])
    (fun trees => ∃ body, body = [word slot]
      ∧ trees = operatorTokens false ['.'] ++ body) :=
    lays_operator_cons [] ['.'] rfl (by decide) (fun _ => (by decide : standsApart '.' = true))
      blanks_nil hslot
      (lays_name hslot)
  have hbehind := haccess.place_cons (show Break.isBare {} = true from by decide)
  have hall : Lays false false ([.text base] ++ ([softBreak] ++ [.text ".", .text slot]))
      (· = [word base, .leaf (.punct '.' false), word slot]) := by
    refine ((lays_name hbase).append hbehind (.inr rfl)).mono ?_
    rintro _ ⟨_, _, rfl, rfl, _, rfl, rfl⟩
    rfl
  exact hall.box_append.box _ _

/-- What is put into a slot. -/
theorem lays_some {slot : String} (hslot : IsName slot) (hkeyword : isKeyword slot = false) :
    Lays true true (exprLayout .inside (.call (.path (optionVariant "Some")) [nameExpr slot] false))
      (IsOperandText true) := by
  have hargument : ∀ item ∈ [[Document.text slot]], Lays false false item (IsOperandText true) := by
    refine List.forall_mem_singleton.2 ((lays_name hslot).mono ?_)
    rintro _ rfl
    exact (isSegmentText_name (isPathWord_of_not_keyword hkeyword) true).isPathText.isOperandText
      true
  have harguments :=
    (((lays_listed (show Break.isClosing { before := "," } = true by decide) hargument).place_cons
    (show Break.isBare {} = true by decide)).outdent).box indentStep true
  have hgroup := lays_group .paren [] [] (show "(".toList = [] ++ ['('] from rfl)
    (show ")".toList = [')'] from rfl) blanks_nil blanks_nil harguments
  refine ((lays_variant (show IsName "Some" by decide)).append hgroup (.inr rfl)).mono ?_
  rintro _ ⟨_, _, rfl, rfl, arguments, harguments, rfl⟩
  exact (isPathText_variant (by decide)).call harguments true

/-- A slot that starts out empty. -/
theorem lays_emptySlot {slot : String} (hslot : IsName slot) (hkeyword : isKeyword slot = false) :
    Lays false false
      (exprLayout .inside (.fieldValue (.named slot) (some (.path (optionVariant "None")))))
      IsFieldValueText := by
  have hcolon : Lays true true [.text ": "] (· = operatorTokens false [':']) :=
    lays_operator_blank [] [':'] [] rfl (by decide) (fun _ => (by decide : standsApart ':' = true))
      blanks_nil blanks_nil
  have hvalue := (lays_variant (show IsName "None" by decide)).box 0 false
  have hall : Lays false false ([.text slot] ++ ([.text ": "]
      ++ box 0 false (exprLayout .inside (.path (optionVariant "None"))))) IsFieldValueText := by
    refine ((lays_name hslot).append (hcolon.append hvalue (.inl rfl)) (.inr rfl)).mono ?_
    rintro _ ⟨_, _, rfl, rfl, _, _, rfl, rfl, rfl⟩
    exact ⟨slot, _, rfl, hkeyword, (isPathText_variant (by decide)).isOperandText true⟩
  exact hall

/-- The layout of a struct literal. -/
theorem lays_structLiteral {name : String} {entries : List (List Document)} (hname : IsName name)
    (hentries : ∀ entry ∈ entries, Lays false false entry P) (width : Nat) (openEnd : Bool) :
    Lays false true
      (box indentStep true (withMaxWidth width (structLayout [.text name] openEnd entries))
        ++ [.text "\x7d"])
      fun trees => ∃ fields, CommaTrees P fields ∧ trees = [word name, .group .brace fields] := by
  have hgroup : ∀ inner, Lays false false inner (CommaTrees P) →
      Lays false true ([.text name] ++ .text " \x7b" :: (inner ++ [.text "\x7d"]))
        fun trees => ∃ fields, CommaTrees P fields ∧ trees = [word name, .group .brace fields] := by
    intro inner hinner
    have hbraces : Lays true true (.text " \x7b" :: (inner ++ [.text "\x7d"]))
        fun trees => ∃ fields, CommaTrees P fields ∧ trees = [.group .brace fields] :=
      lays_group .brace [' '] [] rfl rfl blanks_space blanks_nil hinner
    refine ((lays_name hname).append hbraces (.inr rfl)).mono ?_
    rintro _ ⟨_, _, rfl, rfl, fields, hfields, rfl⟩
    exact ⟨fields, hfields, rfl⟩
  have hlist : Lays false false
    (outdent (openSpace :: listed (if openEnd then softSpace else commaSpace) entries))
      (CommaTrees P) := by
    cases openEnd with
    | true => exact ((lays_listed (by decide) hentries).place_cons (by decide)).outdent
    | false => exact ((lays_listed (by decide) hentries).place_cons (by decide)).outdent
  refine Lays.box_append ?_
  unfold withMaxWidth structLayout
  generalize outdent (openSpace :: listed (if openEnd then softSpace else commaSpace) entries)
    = inner at hlist
  split
  · have hall := hgroup _ hlist.append_strut
    simpa only [List.append_assoc, List.cons_append, List.nil_append] using hall
  · have hall := hgroup _ hlist
    simpa only [List.append_assoc, List.cons_append, List.nil_append] using hall

/-- **The builder in which every slot is empty.** -/
theorem lays_emptyBuilder {slots : List SlotCode} (hslots : ∀ slot ∈ slots, IsName slot.name.text) :
    Lays false true (exprLayout .lineStart (emptyBuilder slots)) IsValueText := by
  have hentries : ∀ entry ∈ fieldsLayout (slots.map fun slot =>
      Expr.fieldValue (.named slot.name.text) (some (.path (optionVariant "None")))),
        Lays false false entry IsFieldValueText := by
    induction slots with
    | nil => exact fun _ => nofun
    | cons slot slots ih =>
      obtain ⟨hslot, hslots⟩ := List.forall_mem_cons.1 hslots
      exact List.forall_mem_cons.2 ⟨lays_emptySlot hslot slot.name.not_keyword, ih hslots⟩
  refine (lays_structLiteral (show IsName "Self" by decide) hentries 34 _).mono ?_
  rintro _ ⟨fields, hfields, rfl⟩
  exact ⟨isOperandText_struct (by decide) hfields,
    .word (by decide) (by decide) rfl (afterMacroPath?_word (by decide) rfl rfl)⟩

/-! ### Fresh values -/

/-- A fresh value by the trait for default values. -/
theorem lays_default {target : Identifier} (htarget : IsName target.text) :
    Lays false true ([.text "<"] ++ [.text target.text] ++ [.text " as "]
      ++ pathLayout false (corePath ["default", "Default"])
      ++ [.text ">"] ++ [.text "::"] ++ [.text "default"] ++ [.text "(", .text ")"])
        IsValueText := by
  have hopening : Lays true true [.text "<"] fun trees => ∃ joint,
      trees = operatorTokens joint ['<'] :=
    lays_operator [] ['<'] rfl (by decide) (fun _ => (by decide : standsApart '<' = true))
      blanks_nil
  have hclosing : Lays true true [.text ">"] fun trees => ∃ joint,
      trees = operatorTokens joint ['>'] :=
    lays_operator [] ['>'] rfl (by decide) (fun _ => (by decide : standsApart '>' = true))
      blanks_nil
  have has : Lays true true [.text " as "] (· = [word "as"]) :=
    lays_word [' '] [' '] rfl (by decide) blanks_space blanks_space
  have htrait : Lays true false (pathLayout false (corePath ["default", "Default"]))
      (IsPathText false) := by
    refine (lays_linked (List.cons_ne_nil "core" ["default", "Default"]) (by decide)).mono ?_
    rintro _ rfl
    exact ((isSegmentText_name (by decide) false).isPathText_leading.link
      (isSegmentText_name (by decide) false)).link
      (isSegmentText_name (by decide) false)
  have hgroup : Lays true true (.text "(" :: ([] ++ [.text ")"])) fun trees => ∃ inner, inner = []
      ∧ trees = [.group .paren inner] :=
    lays_group .paren [] [] rfl rfl blanks_nil blanks_nil lays_nil
  have hfunction := lays_linked (List.cons_ne_nil "default" []) (by decide)
  have hall :=
    hopening.append
      ((lays_name htarget).append (has.append (htrait.append (hclosing.append (hfunction.append
    hgroup (.inr rfl)) (.inl rfl)) (.inr rfl)) (.inl rfl)) (.inr rfl)) (.inl rfl)
  refine hall.weaken_starts.mono ?_
  rintro _ ⟨_, _, rfl, ⟨joint, rfl⟩, _, _, rfl, rfl, _, _, rfl, rfl, path, _, rfl, hpath, _, _, rfl,
    ⟨joint', rfl⟩, _, _, rfl, rfl, _, rfl, rfl⟩
  exact ⟨isOperandText_traitCall (isPathWord_of_not_keyword target.not_keyword)
    (by decide) hpath joint joint' true, .type joint _⟩

/-- A fresh value by a function of the type. -/
theorem lays_associated {target function : Identifier} (htarget : IsName target.text)
    (hfunction : IsName function.text) :
    Lays false true ([.text target.text] ++ [.text "::"] ++ [.text function.text]
      ++ [.text "(", .text ")"]) IsValueText := by
  have hgroup : Lays true true (.text "(" :: ([] ++ [.text ")"])) fun trees => ∃ inner, inner = []
      ∧ trees = [.group .paren inner] :=
    lays_group .paren [] [] rfl rfl blanks_nil blanks_nil lays_nil
  have hname :=
    lays_linked (List.cons_ne_nil function.text []) (List.forall_mem_singleton.2 hfunction)
  refine ((lays_name htarget).append (hname.append hgroup (.inr rfl)) (.inr rfl)).mono ?_
  rintro _ ⟨_, _, rfl, rfl, _, _, rfl, rfl, _, rfl, rfl⟩
  have hpath := isPathWord_of_not_keyword target.not_keyword
  have hpath' := isPathWord_of_not_keyword function.not_keyword
  refine ⟨((isSegmentText_name hpath true).isPathText.link (isSegmentText_name hpath' true)).call
    (.inl rfl) true, ?_⟩
  refine .word hpath ?_ rfl (afterMacroPath?_link hpath hpath' rfl rfl)
  intro hcrate
  have hkeyword := target.not_keyword
  rw [hcrate] at hkeyword
  exact absurd hkeyword (by decide)

/-- **The construction of a fresh value.** -/
theorem ConstructionCode.lays (construction : ConstructionCode) {target : Identifier}
    (htarget : IsName target.text)
    (hfunction : ∀ function, construction = .associated function → IsName function.text)
    {place : Place} (hplace : place = .inside ∨ place = .lineStart) :
    Lays false true (exprLayout place (construction.expr target)) IsValueText := by
  cases construction with
  | default =>
    have hlays := lays_default htarget
    rcases hplace with rfl | rfl <;> exact hlays
  | associated function =>
    have hlays := lays_associated htarget (hfunction function rfl)
    rcases hplace with rfl | rfl <;> exact hlays

/-! ### Statements -/

theorem lays_equals :
    Lays true true ([.text " = "] ++ [noBreak]) (· = [.leaf (.punct '=' false)]) :=
  (lays_operator_blank [' '] ['='] [] rfl (by decide)
    (fun _ => (by decide : standsApart '=' = true)) blanks_space
    blanks_nil).append_place (by decide)

theorem lays_semicolon :
    Lays true true [.text ";"] fun trees => ∃ joint, trees = [.leaf (.punct ';' joint)] :=
  lays_operator [] [';'] rfl (by decide) (fun _ => (by decide : standsApart ';' = true)) blanks_nil

/-- An expression on a line of its own. -/
theorem lays_line {starts : Bool} {ds : List Document} (h : Lays starts ends ds P) :
    Lays starts ends (box 0 false ds ++ [hardBreak]) P :=
  (h.box 0 false).append_place (by decide)

/-- An expression as a statement without a semicolon. -/
theorem lays_statement {starts : Bool} {e : Expr} (last : Bool) (he : e.addsSemicolon = false)
    (h : Lays starts ends (exprLayout .lineStart e) P) :
    Lays starts ends (statementLayout last (.expr e false)) P := by
  show Lays starts ends (box 0 false (exprLayout .lineStart e ++ textIf e.addsSemicolon ";")
    ++ [hardBreak]) P
  rw [he]
  show Lays starts ends (box 0 false (exprLayout .lineStart e ++ []) ++ [hardBreak]) P
  rw [List.append_nil]
  exact lays_line h

theorem statementLayout_assign (last : Bool) (left right : Expr) :
    statementLayout last (.expr (.assign left right) true)
      = box 0 false
          (box 0 false (exprLayout .inside left ++ ([.text " = "] ++ [noBreak])
            ++ exprLayout .inside right)
        ++ [.text ";"]) ++ [hardBreak] :=
  rfl

/-- An assignment to a slot. -/
theorem lays_assign {base slot : String} {value : Expr} (last : Bool) (hbase : IsName base)
    (hslot : IsName slot) (hvalue : Lays false ends (exprLayout .inside value) P) :
    Lays false true (statementLayout last (.expr (.assign (slotOf base slot) value) true))
      fun trees => ∃ tokens joint, P tokens ∧ trees = assignTokens base slot tokens joint := by
  have hpieces :=
    (((lays_slot hbase hslot).append lays_equals (.inr rfl)).append hvalue (.inl rfl)).box 0 false
  rw [statementLayout_assign]
  refine Lays.mono (lays_line (hpieces.append lays_semicolon (.inr rfl))) ?_
  rintro _ ⟨_, _, rfl, ⟨_, tokens, rfl, ⟨_, _, rfl, rfl, rfl⟩, htokens⟩, joint, rfl⟩
  exact ⟨tokens, joint, htokens, rfl⟩

/-- The declaration of the value under way. -/
theorem lays_declaration {value : Expr} (last : Bool)
    (hvalue : Lays false ends (exprLayout .inside value) P) :
    Lays false true
      (statementLayout last (.declare [] (.binding false true "instance") (some value) false []))
      fun trees => ∃ tokens joint, P tokens ∧ trees = word "let" :: word "mut" :: word "instance"
        :: .leaf (.punct '=' false) :: (tokens ++ [.leaf (.punct ';' joint)]) := by
  have hlet : Lays false true [.text "let "] (· = [word "let"]) :=
    lays_word [] [' '] rfl (by decide) blanks_nil blanks_space
  have hmut : Lays false true [.text "mut "] (· = [word "mut"]) :=
    lays_word [] [' '] rfl (by decide) blanks_nil blanks_space
  have hname := hmut.append (lays_name (show IsName "instance" by decide)) (.inl rfl)
  have hpieces :=
    (((hlet.append hname (.inl rfl)).append lays_equals (.inr rfl)).append hvalue (.inl rfl)).append
    lays_semicolon (.inr rfl)
  refine Lays.mono (lays_line hpieces) ?_
  rintro _ ⟨_, _, rfl, ⟨_, tokens, rfl, ⟨_, _, rfl, ⟨_, _, rfl, rfl, _, _, rfl, rfl, rfl⟩, rfl⟩,
    htokens⟩, joint, rfl⟩
  exact ⟨tokens, joint, htokens, rfl⟩

/-- The pattern that binds what is stored. -/
theorem lays_stored :
    Lays true true (pathLayout true (optionVariant "Some") ++ enclosed "(" ")" [[.text "value"]])
    fun trees => ∃ comma, IsOptionalComma comma ∧ trees = storedTokens comma := by
  have hargument : Lays false false (listed commaBreak [[.text "value"]])
      (Then (· = [word "value"]) IsOptionalComma) :=
    (lays_name (by decide)).closing (by decide)
  have hgroup := lays_group .paren [] [] (show "(".toList = [] ++ ['('] from rfl)
    (show ")".toList = [')'] from rfl)
    blanks_nil blanks_nil
      (((hargument.place_cons (show Break.isBare {} = true by decide)).outdent).box indentStep true)
  refine ((lays_variant (show IsName "Some" by decide)).append hgroup (.inr rfl)).mono ?_
  rintro _ ⟨_, _, rfl, rfl, _, ⟨_, comma, rfl, rfl, hcomma⟩, rfl⟩
  exact ⟨comma, hcomma, rfl⟩

theorem exprLayout_conditional (condition : Expr) (statement : Statement)
    (statements : List Statement) :
    exprLayout .lineStart (.conditional condition (statement :: statements) none)
      = indented ([.text "if "]
        ++ box (-indentStep) true (conditionFrame condition (exprLayout .inside condition))
        ++ [.text "\x7b"] ++ outdent (hardBreak :: statementsLayout (statement :: statements))
        ++ [.text "\x7d"]) :=
  rfl

/-- **The statement that copies a stored value.** -/
theorem lays_copy {slot : Identifier} (last : Bool) (hslot : IsName slot.text) :
    Lays false true (statementLayout last (copyStatement slot)) IsLineText := by
  have hif : Lays false true [.text "if "] (· = [word "if"]) :=
    lays_word [] [' '] rfl (by decide) blanks_nil blanks_space
  have hlet : Lays false true [.text "let "] (· = [word "let"]) :=
    lays_word [] [' '] rfl (by decide) blanks_nil blanks_space
  have hbinding :=
    (((hlet.append (lays_stored.box 0 false) (.inl rfl)).append lays_equals (.inl rfl)).append
    (lays_slot (show IsName "self" by decide) hslot) (.inl rfl)).box 0 false
  have hframe := (hbinding.append_place (b := { blank := 1 }) (by decide)).box 0 true
  have hhead := hif.append (hframe.box (-indentStep) true) (.inl rfl)
  have hvalue : Lays false false (exprLayout .inside (nameExpr "value")) (IsOperandText true) := by
    refine Lays.mono (lays_name (show IsName "value" by decide)) ?_
    rintro _ rfl
    exact (isSegmentText_name (by decide) true).isPathText.isOperandText true
  have hassign := lays_assign true (show IsName "instance" by decide) hslot hvalue
  have hlines := (hassign.place_cons (b := { blank := infiniteWidth }) (by decide)).outdent
  have hblock := lays_group .brace [] [] (show "\x7b".toList = [] ++ ['\x7b'] from rfl)
    (show "\x7d".toList = ['\x7d'] from rfl) blanks_nil blanks_nil hlines
  have hconditional := (hhead.append hblock (.inr rfl)).box indentStep true
  rw [← List.append_assoc, ← List.append_cons] at hconditional
  refine lays_statement last rfl ?_
  rw [exprLayout_conditional]
  refine Lays.mono hconditional ?_
  rintro _ ⟨_, _, rfl,
    ⟨_, _, rfl, rfl, _, _, rfl, ⟨_, _, rfl, ⟨_, _, rfl, rfl, comma, hcomma, rfl⟩, rfl⟩, rfl⟩, _,
    ⟨tokens, joint, htokens, rfl⟩, rfl⟩
  have hblock := isBlockText_assign (show isPathWord "instance" = true by decide)
    (show "instance" ≠ "crate" by decide)
    slot.not_keyword htokens joint
  have hline := isLineText_conditional hcomma slot.not_keyword hblock
  simpa only [conditionalTokens, bindingTokens, List.cons_append, List.nil_append,
    List.append_assoc] using hline

/-! ### Bodies -/

/-- Tokens that are read as the lines of a block. -/
def AreLines (trees : Tokens) : Prop :=
  IsBlockText trees ∧ startsLine trees = true

/-- Tokens that are read as the body of a function, with no attribute in front. -/
def IsBodyText (trees : Tokens) : Prop :=
  IsBlockText trees ∧ atPunct "#" trees = false

theorem AreLines.isBodyText {trees : Tokens} (h : AreLines trees) : IsBodyText trees := by
  refine ⟨h.1, ?_⟩
  obtain ⟨-, hstarts⟩ := h
  unfold startsLine at hstarts
  split at hstarts
  · rfl
  · cases hstarts

/-- A statement in front of others. -/
theorem lays_statements {statement : Statement} {rest : List Statement}
    (h : ∀ last, Lays false true (statementLayout last statement) IsLineText)
    (hrest : Lays false ends (statementsLayout rest) AreLines) :
    Lays false ends (statementsLayout (statement :: rest)) AreLines := by
  refine Lays.mono ((h rest.isEmpty).append hrest (.inl rfl)) ?_
  rintro _ ⟨front, back, rfl, hfront, hback, hstarts⟩
  exact ⟨hfront.append hback hstarts, startsLine_append hfront.1 back⟩

/-- A value as the last statement. -/
theorem lays_value {value : Expr} (hvalue : value.addsSemicolon = false)
    (h : Lays false ends (exprLayout .lineStart value) P) :
    Lays false ends (statementsLayout [.expr value false]) P := by
  show Lays false ends (statementLayout true (.expr value false) ++ []) P
  rw [List.append_nil]
  exact lays_statement true hvalue h

/-- A name as the last statement. -/
theorem lays_lastName {name : String} (hname : IsName name) (hpath : isPathWord name = true)
    (hplace : name ≠ "crate") :
    Lays false false (statementsLayout [.expr (nameExpr name) false]) AreLines := by
  refine lays_value rfl (Lays.mono (lays_name hname) ?_)
  rintro _ rfl
  have hoperand := (isSegmentText_name hpath true).isPathText.isOperandText true
  exact ⟨hoperand.isBlockText (.word hpath hplace rfl (afterMacroPath?_word hpath rfl rfl)),
    startsLine_of_isPathWord hpath []⟩

theorem IsValueText.isBodyText {trees : Tokens} (h : IsValueText trees) : IsBodyText trees :=
  ⟨h.1.isBlockText h.2, h.2.tests.1⟩

/-- The body of the factory. -/
theorem lays_factoryBody {slots : List SlotCode} (hslots : ∀ slot ∈ slots, IsName slot.name.text) :
    Lays false true (statementsLayout [.expr (emptyBuilder slots) false]) IsBodyText :=
  lays_value rfl ((lays_emptyBuilder hslots).mono fun _ => IsValueText.isBodyText)

/-- The body of a setter. -/
theorem lays_setterBody {slot : Identifier} (hslot : IsName slot.text) :
    Lays false false (statementsLayout [.expr (.assign (slotOf "self" slot.text)
      (.call (.path (optionVariant "Some")) [nameExpr slot.text] false)) true,
      .expr (nameExpr "self") false]) IsBodyText := by
  refine Lays.mono
    (lays_statements (fun last => ?_) (lays_lastName (by decide) (by decide) (by decide)))
    fun _ => AreLines.isBodyText
  refine Lays.mono
    (lays_assign last (by decide) hslot (lays_some hslot slot.not_keyword).weaken_starts) ?_
  rintro _ ⟨tokens, joint, htokens, rfl⟩
  exact isLineText_assign (by decide) (by decide) slot.not_keyword htokens joint

/-- The statements that copy what is stored, and the value that they fill. -/
theorem lays_copies {copies : List Identifier} (hcopies : ∀ slot ∈ copies, IsName slot.text) :
    Lays false false
      (statementsLayout (copies.map copyStatement ++ [.expr (nameExpr "instance") false]))
        AreLines := by
  induction copies with
  | nil => exact lays_lastName (by decide) (by decide) (by decide)
  | cons copy copies ih =>
    obtain ⟨hcopy, hcopies⟩ := List.forall_mem_cons.1 hcopies
    exact lays_statements (fun last => lays_copy last hcopy) (ih hcopies)

/-- **The body of the terminal method.** -/
theorem lays_terminalBody {target : Identifier} {construction : ConstructionCode}
    {assignments : List Identifier} (htarget : IsName target.text)
    (hfunction : ∀ function, construction = .associated function → IsName function.text)
    (hassignments : ∀ slot ∈ assignments, IsName slot.text) :
    Lays false false (statementsLayout (terminalBody (construction.expr target) assignments))
      IsBodyText := by
  cases assignments with
  | nil =>
    refine Lays.mono (lays_value ?_ (construction.lays htarget hfunction (.inr rfl)).weaken)
      fun _ => IsValueText.isBodyText
    cases construction <;> rfl
  | cons slot assignments =>
    refine Lays.mono (lays_statements (fun last => ?_) (lays_copies hassignments))
      fun _ => AreLines.isBodyText
    refine Lays.mono (lays_declaration last (construction.lays htarget hfunction (.inl rfl))) ?_
    rintro _ ⟨tokens, joint, htokens, rfl⟩
    exact isLineText_let htokens.1 joint

end FluentBuilder
