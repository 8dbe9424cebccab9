import FluentBuilder.Proofs.Layout.BodyTexts

/-!
# The texts of builders

* `lays_method` — a method;
* `MethodCode.lays`, `BuilderCode.lays_impl`, `BuilderCode.lays_struct`, `lays_import` — the items
  of a file.
-/

namespace FluentBuilder

open Code Layout

variable {starts ends starts' ends' : Bool} {P Q : Tokens → Prop}

/-- **An item with lines in braces.** -/
theorem lays_bodied {head lines : List Document} (hhead : Lays starts ends head P)
    (hlines : Lays starts' ends' lines Q) :
    Lays starts true (bodiedItem head lines)
      fun trees => ∃ front inner, P front ∧ Q inner ∧ trees = front ++ [.group .brace inner] := by
  have hbraces := lays_group .brace [] [] (show "\x7b".toList = [] ++ ['\x7b'] from rfl)
    (show "\x7d".toList = ['\x7d'] from rfl) blanks_nil blanks_nil
    (hlines.place_cons (b := { blank := infiniteWidth, optional := true }) (by decide)).outdent
  have hall : Lays starts true
    (head ++ .text "\x7b" :: (outdent (openBreak :: lines) ++ [.text "\x7d"]) ++ [hardBreak])
      fun trees => ∃ front inner, P front ∧ Q inner ∧ trees = front ++ [.group .brace inner] := by
    refine ((hhead.append hbraces (.inr rfl)).append_place (by decide)).mono ?_
    rintro _ ⟨front, _, rfl, hfront, inner, hinner, rfl⟩
    exact ⟨front, inner, hfront, hinner, rfl⟩
  refine Lays.box_append ?_
  simpa only [List.append_assoc, List.cons_append, List.nil_append] using hall

/-! ### Names and types in a builder -/

/-- The names in a construction. -/
def ConstructionCode.identifiers : ConstructionCode → List Identifier
  | .default => []
  | .associated function => [function]

/-- The names in a method. -/
def MethodCode.identifiers : MethodCode → List Identifier
  | .factory name => [name]
  | .setter name slot _ => [name, slot]
  | .terminal name construction assignments => name :: (construction.identifiers ++ assignments)

/-- The types in a method. -/
def MethodCode.types : MethodCode → List TypeExpr
  | .setter _ _ type => [type]
  | _ => []

/-- The names in a builder. -/
def BuilderCode.identifiers (b : BuilderCode) : List Identifier :=
  b.name :: b.target :: (b.slots.map (·.name) ++ b.methods.flatMap MethodCode.identifiers)

/-- The types in a builder. -/
def BuilderCode.types (b : BuilderCode) : List TypeExpr :=
  b.slots.map (·.type) ++ b.methods.flatMap MethodCode.types

/-! ### Methods -/

theorem itemLayout_method (name : String) (params : List Pattern) (output : TypeExpr)
    (body : List Statement) :
    itemLayout [] [] (methodItem name params output body)
      = bodiedItem ([.text "pub "] ++ ([.text "fn "] ++ [.text name] ++ .text "(" :: ([noBreak]
        ++ box 0 true
          (outdent (softBreak :: listed (closingOfParams params) (patternsLayout params)))
            ++ [.text ")"])
        ++ box (-indentStep) true (outputLayout (some output))) ++ [.text " "])
          (statementsLayout body) :=
  rfl

/-- What a method is read as, given what its parameters and its body are read as. -/
theorem lays_method {name output : String} {params : List Pattern} {body : List Statement}
    (hname : IsName name)
    (hkeyword : isKeyword name = false) (houtput : IsName output) (hpath : isPathWord output = true)
    (hparams : Lays false false
      (outdent (softBreak :: listed (closingOfParams params) (patternsLayout params))) IsParamsText)
    (hbody : Lays false ends (statementsLayout body) IsBodyText) :
    Lays false true (itemLayout [] [] (methodItem name params (nameType output) body))
      IsMemberText := by
  have hpub : Lays false true [.text "pub "] (· = [word "pub"]) :=
    lays_word [] [' '] rfl (by decide) blanks_nil blanks_space
  have hfn : Lays false true [.text "fn "] (· = [word "fn"]) :=
    lays_word [] [' '] rfl (by decide) blanks_nil blanks_space
  have hparens := lays_group .paren [] [] (show "(".toList = [] ++ ['('] from rfl)
    (show ")".toList = [')'] from rfl)
    blanks_nil blanks_nil ((hparams.box 0 true).place_cons (b := { never := true }) (by decide))
  have harrow : Lays true true [.text " -> "]
      (· = [.leaf (.punct '-' true), .leaf (.punct '>' false)]) :=
    lays_operator_blank [' '] ['-', '>'] [] rfl (by decide)
      (fun _ => (by decide : standsApart '-' = true)) blanks_space
      blanks_nil
  have hresult := (harrow.append (lays_name houtput) (.inl rfl)).box (-indentStep) true
  have hsignature :=
    ((hfn.append (lays_name hname) (.inl rfl)).append hparens (.inr rfl)).append hresult (.inl rfl)
  have hhead := (hpub.append hsignature (.inl rfl)).append lays_blank (.inr rfl)
  rw [itemLayout_method]
  refine Lays.mono (lays_bodied hhead hbody) ?_
  rintro _ ⟨_, block,
    ⟨_, _, rfl, ⟨_, _, rfl, rfl, _, _, rfl, ⟨_, _, rfl, ⟨_, _, rfl, rfl, rfl⟩, inner, hinner, rfl⟩,
    _, _, rfl, rfl, rfl⟩, rfl⟩, hblock, rfl⟩
  exact isMemberText_method hkeyword hpath hinner hblock.1 hblock.2

/-- The receiver of the terminal method. -/
theorem lays_selfParam : Lays false false (outdent (softBreak
    :: listed (closingOfParams [.receiver none false none])
      (patternsLayout [.receiver none false none]))) IsParamsText := by
  have hself : Lays false false (listed commaBreak [[.text "self"]])
      (Then (· = [word "self"]) IsOptionalComma) :=
    (lays_name (by decide)).closing (by decide)
  refine Lays.mono (hself.place_cons (b := {}) (by decide)).outdent ?_
  rintro _ ⟨_, comma, rfl, rfl, hcomma⟩
  exact isParamsText_self hcomma

/-- The receiver and the parameter of a setter. -/
theorem lays_setterParams {slot : Identifier} {type : TypeExpr} (hslot : IsName slot.text)
    (htype : type.isPlain = true) :
    Lays false false (outdent (softBreak
      :: listed (closingOfParams [.receiver none true none,
        .typed (.binding false false slot.text) type])
        (patternsLayout [.receiver none true none, .typed (.binding false false slot.text) type])))
          IsParamsText := by
  have hmut : Lays false true [.text "mut "] (· = [word "mut"]) :=
    lays_word [] [' '] rfl (by decide) blanks_nil blanks_space
  have hcolon : Lays true true [.text ": "] (· = [.leaf (.punct ':' false)]) :=
    lays_operator_blank [] [':'] [] rfl (by decide) (fun _ => (by decide : standsApart ':' = true))
      blanks_nil blanks_nil
  have hself := hmut.append (lays_name (show IsName "self" by decide)) (.inl rfl)
  have hcomma : Lays true true ([.text ","] ++ [softSpace]) IsComma :=
    lays_comma.append_place (by decide)
  have hparam := ((lays_name hslot).append hcolon (.inr rfl)).append (lays_type type htype)
    (.inl rfl)
  have hlast := hparam.closing (b := { before := "," }) (by decide)
  have hall := (hself.append hcomma (.inr rfl)).append hlast (.inl rfl)
  refine Lays.mono (hall.place_cons (b := {}) (by decide)).outdent ?_
  rintro _ ⟨_, _, rfl, ⟨_, _, rfl, ⟨_, _, rfl, rfl, rfl⟩, joint, rfl⟩, _, comma, rfl,
    ⟨_, tokens, rfl, ⟨_, _, rfl, rfl, rfl⟩,
    htokens⟩, hcomma⟩
  exact isParamsText_setter joint slot.not_keyword htokens hcomma

/-- **A method of a builder.** -/
theorem MethodCode.lays {b : BuilderCode} (m : MethodCode) (hb : ∀ i ∈ b.identifiers, IsName i.text)
    (hnames : ∀ i ∈ m.identifiers, IsName i.text) (htypes : ∀ type ∈ m.types, type.isPlain = true) :
    Lays false true (itemLayout [] [] (m.item b)) IsMemberText := by
  cases m with
  | factory name =>
    have hslots : ∀ slot ∈ b.slots, IsName slot.name.text := fun slot hslot =>
      hb slot.name
        (List.mem_cons_of_mem
          _ (List.mem_cons_of_mem _ (List.mem_append_left _ (List.mem_map_of_mem hslot))))
    have hparams : Lays false false
        (outdent (softBreak :: listed (closingOfParams []) (patternsLayout []))) IsParamsText := by
      refine Lays.mono (lays_nil.place_cons (b := {}) (by decide)).outdent ?_
      rintro _ rfl
      exact isParamsText_nil
    exact lays_method (hnames name List.mem_cons_self) name.not_keyword (by decide)
      (by decide) hparams
      (lays_factoryBody hslots)
  | setter name slot type =>
    have hslot := hnames slot (List.mem_cons_of_mem _ List.mem_cons_self)
    exact lays_method (hnames name List.mem_cons_self) name.not_keyword (by decide) (by decide)
      (lays_setterParams hslot (htypes type List.mem_cons_self)) (lays_setterBody hslot)
  | terminal name construction assignments =>
    have htarget : IsName b.target.text := hb b.target (List.mem_cons_of_mem _ List.mem_cons_self)
    refine lays_method (hnames name List.mem_cons_self) name.not_keyword htarget
      (isPathWord_of_not_keyword b.target.not_keyword) lays_selfParam
        (lays_terminalBody htarget ?_ ?_)
    · rintro function rfl
      exact hnames function (List.mem_cons_of_mem _ List.mem_cons_self)
    · exact fun slot hslot => hnames slot (List.mem_cons_of_mem _ (List.mem_append_right _ hslot))

/-! ### The implementation -/

theorem lays_members {items : List Item}
    (h : ∀ item ∈ items, Lays false true (itemLayout [] [] item) IsMemberText) :
    Lays false false (itemsLayout items)
      fun trees => ∃ members : List Tokens, (∀ member ∈ members, IsMemberText member)
        ∧ trees = members.flatten := by
  induction items with
  | nil => exact lays_nil.mono fun _ hnil => ⟨[], fun _ => nofun, hnil⟩
  | cons item items ih =>
    obtain ⟨hitem, hitems⟩ := List.forall_mem_cons.1 h
    refine Lays.mono (hitem.append (ih hitems) (.inl rfl)) ?_
    rintro _ ⟨member, _, rfl, hmember, members, hmembers, rfl⟩
    exact ⟨member :: members, List.forall_mem_cons.2 ⟨hmember, hmembers⟩, rfl⟩

/-- **The implementation of a builder.** -/
theorem BuilderCode.lays_impl {b : BuilderCode} (hnames : ∀ i ∈ b.identifiers, IsName i.text)
    (htypes : ∀ type ∈ b.types, type.isPlain = true) :
    Lays false true (itemLayout [] [] b.implItem) fun trees => ∃ members : List Tokens,
      (∀ member ∈ members, IsMemberText member)
      ∧ trees = [word "impl", word b.name.text, .group .brace members.flatten] := by
  have hmethods : ∀ item ∈ b.methods.map (MethodCode.item b),
      Lays false true (itemLayout [] [] item) IsMemberText := by
    intro item hitem
    obtain ⟨m, hm, rfl⟩ := List.mem_map.1 hitem
    refine m.lays hnames (fun i hi => hnames i ?_) fun type htype => htypes type ?_
    · exact List.mem_cons_of_mem
        _ (List.mem_cons_of_mem _ (List.mem_append_right _ (List.mem_flatMap_of_mem hm hi)))
    · exact List.mem_append_right _ (List.mem_flatMap_of_mem hm htype)
  have hname := lays_name (hnames b.name List.mem_cons_self)
  have himpl := (lays_name (show IsName "impl" by decide)).box indentStep true
  have hhead := ((himpl.append lays_blank (.inr rfl)).append hname (.inl rfl)).box
    (-indentStep) false
  refine Lays.mono (lays_bodied (hhead.append lays_blank (.inr rfl)) (lays_members hmethods)) ?_
  rintro _ ⟨_, _, ⟨_, _, rfl, ⟨_, _, rfl, ⟨_, _, rfl, rfl, rfl⟩, rfl⟩, rfl⟩,
    ⟨members, hmembers, rfl⟩, rfl⟩
  exact ⟨members, hmembers, rfl⟩

/-! ### The struct -/

/-- The field for a slot. -/
theorem SlotCode.lays {slot : SlotCode} (hname : IsName slot.name.text)
    (htype : slot.type.isPlain = true) :
    Lays false false (itemLayout [] [] slot.item) IsFieldText := by
  have hcolon : Lays true true [.text ": "] (· = [.leaf (.punct ':' false)]) :=
    lays_operator_blank [] [':'] [] rfl (by decide) (fun _ => (by decide : standsApart ':' = true))
      blanks_nil blanks_nil
  have hplain :
      (TypeExpr.path (.angle (corePath ["option"]) "Option" false [.type slot.type] false)).isPlain
        = true := by
    have hoption : ((corePath ["option"]).isPlain && decide (IsName "Option")
      && !isKeyword "Option") = true := by decide
    show ((corePath ["option"]).isPlain && decide (IsName "Option") && !isKeyword "Option" && true
      && (slot.type.isPlain && true)) = true
    rw [hoption, htype]
    rfl
  have hfield := ((lays_name hname).append hcolon (.inr rfl)).append (lays_type _ hplain) (.inl rfl)
  refine Lays.mono hfield ?_
  rintro _ ⟨_, type, rfl, ⟨_, _, rfl, rfl, rfl⟩, htype⟩
  exact ⟨slot.name.text, type, rfl, slot.name.not_keyword, htype⟩

theorem lays_fields {slots : List SlotCode}
    (h : ∀ slot ∈ slots, IsName slot.name.text ∧ slot.type.isPlain = true) :
    Lays false false
      ((membersLayout (slots.map SlotCode.item)).flatMap (· ++ [.text ",", hardBreak]))
      (CommaTrees IsFieldText) := by
  induction slots with
  | nil => exact lays_nil.mono fun _ => .inl
  | cons slot slots ih =>
    obtain ⟨hslot, hslots⟩ := List.forall_mem_cons.1 h
    have hcomma : Lays true true ([.text ","] ++ [hardBreak]) IsComma :=
      lays_comma.append_place (by decide)
    refine Lays.mono (((SlotCode.lays hslot.1 hslot.2).append hcomma (.inr rfl)).append (ih hslots)
      (.inl rfl)) ?_
    rintro _ ⟨_, back, rfl, ⟨front, comma, rfl, hfront, hcomma⟩, hback⟩
    rcases hback with rfl | hback
    · rw [List.append_nil]
      exact .inr (.last hfront (.inr hcomma))
    · exact .inr (.cons hfront hcomma hback)

/-- The layout of the visibility of a builder. -/
theorem lays_visible {ds : List Document} (v : Visibility) (h : Lays starts ends ds P) :
    Lays false ends (visibilityLayout v.written ++ ds) fun trees => ∃ body, P body
      ∧ trees = v.written.tokens ++ body := by
  have hrestricted : Lays false ends ([.text "pub(", .text "crate", .text ") "] ++ ds)
      fun trees => ∃ body, P body ∧ trees = [word "pub", .group .paren [word "crate"]] ++ body := by
    have hgroup := lays_group .paren [] [' '] (show "(".toList = [] ++ ['('] from rfl)
      (show ") ".toList = ')' :: [' '] from rfl)
      blanks_nil blanks_space (lays_name (show IsName "crate" by decide))
    have hall := ((lays_name (show IsName "pub" by decide)).append hgroup (.inr rfl)).append h
      (.inl rfl)
    refine Lays.mono (Lays.text_append (a := "pub") (b := "(") hall) ?_
    rintro _ ⟨_, body, rfl, ⟨_, _, rfl, rfl, _, rfl, rfl⟩, hbody⟩
    exact ⟨body, hbody, rfl⟩
  cases v with
  | pub =>
    have hpub : Lays false true [.text "pub "] (· = [word "pub"]) :=
      lays_word [] [' '] rfl (by decide) blanks_nil blanks_space
    refine Lays.mono (hpub.append h (.inl rfl)) ?_
    rintro _ ⟨_, body, rfl, rfl, hbody⟩
    exact ⟨body, hbody, rfl⟩
  | package => exact hrestricted
  | prot => exact hrestricted
  | priv => exact h.weaken_starts.mono fun trees hP => ⟨trees, hP, rfl⟩

/-- A struct with named fields and without parameters. -/
theorem itemLayout_struct (metas : List Meta) (v : ItemVisibility) (name : String)
    (fields : List Item) (trailing : Bool) :
    itemLayout [] [] (.marked metas v (.struct name (.mk [] false [] false) .named fields trailing))
      = metasLayout false metas ++ bodiedItem (visibilityLayout v ++ [.text "struct ", .text name]
        ++ [.text " "])
        ((membersLayout fields).flatMap (· ++ [.text ",", hardBreak])) := by
  rw [← List.append_nil (visibilityLayout v ++ ([.text "struct ", .text name] : List Document))]
  rfl

/-- The layout of the struct of a builder behind its documentation. -/
def BuilderCode.structLayout (b : BuilderCode) : List Document :=
  bodiedItem (visibilityLayout b.visibility.written ++ [.text "struct ", .text b.name.text]
    ++ [.text " "])
    ((membersLayout (b.slots.map SlotCode.item)).flatMap (· ++ [.text ",", hardBreak]))

/-- **The struct of a builder** behind its documentation. -/
theorem BuilderCode.lays_struct {b : BuilderCode} (hnames : ∀ i ∈ b.identifiers, IsName i.text)
    (htypes : ∀ type ∈ b.types, type.isPlain = true) :
    Lays false true b.structLayout fun trees => ∃ fields, CommaTrees IsFieldText fields
      ∧ trees = b.visibility.written.tokens ++ [word "struct", word b.name.text,
        .group .brace fields] := by
  have hslots : ∀ slot ∈ b.slots, IsName slot.name.text ∧ slot.type.isPlain = true :=
    fun slot hslot =>
      ⟨hnames slot.name
        (List.mem_cons_of_mem
          _ (List.mem_cons_of_mem _ (List.mem_append_left _ (List.mem_map_of_mem hslot)))),
        htypes slot.type (List.mem_append_left _ (List.mem_map_of_mem hslot))⟩
  have hstruct : Lays false true [.text "struct "] (· = [word "struct"]) :=
    lays_word [] [' '] rfl (by decide) blanks_nil blanks_space
  have hname := hstruct.append (lays_name (hnames b.name List.mem_cons_self)) (.inl rfl)
  have hhead := (lays_visible b.visibility hname).append lays_blank (.inr rfl)
  refine Lays.mono (lays_bodied hhead (lays_fields hslots)) ?_
  rintro _ ⟨_, fields, ⟨_, _, rfl, ⟨_, ⟨_, _, rfl, rfl, rfl⟩, rfl⟩, rfl⟩, hfields, rfl⟩
  refine ⟨fields, hfields, ?_⟩
  simp only [List.append_assoc, List.cons_append, List.nil_append]

/-! ### The import -/

/-- The tree of an import of everything below the given names. -/
theorem lays_useTree {names : List String}
    (hnames : ∀ s ∈ names, IsName s ∧ isModuleWord s = true) :
    Lays false true (useTreeLayout (names.foldr UseTree.path .glob)) (SpellsModule names) := by
  induction names with
  | nil =>
    have hglob : Lays true true [.text "*"] fun trees => ∃ joint,
        trees = operatorTokens joint ['*'] :=
      lays_operator [] ['*'] rfl (by decide) (fun _ => (by decide : standsApart '*' = true))
        blanks_nil
    refine hglob.weaken_starts.mono ?_
    rintro _ ⟨joint, rfl⟩
    exact .glob joint
  | cons s names ih =>
    obtain ⟨hs, hnames⟩ := List.forall_mem_cons.1 hnames
    have hlink : Lays true true [.text "::"] fun trees => ∃ joint,
        trees = operatorTokens joint [':', ':'] :=
      lays_operator [] [':', ':'] rfl (by decide) (fun _ => (by decide : standsApart ':' = true))
        blanks_nil
    refine Lays.mono (((lays_name hs.1).append hlink (.inr rfl)).append (ih hnames) (.inl rfl)) ?_
    rintro _ ⟨_, more, rfl, ⟨_, _, rfl, rfl, joint, rfl⟩, hmore⟩
    exact .cons hs.2 joint hmore

/-- The attribute in front of an import that need not be used. -/
theorem lays_allow :
    Lays false true
    (metasLayout false [.list ⟨false, ["allow"]⟩ (.group .paren [word "unused_imports"])])
    fun trees => ∃ joint, trees = allowTokens joint := by
  -- the mark does not stand apart from a word, since it may be part of a raw name
  have hhash : Lays false true [.text "#"] fun trees => ∃ joint,
      trees = operatorTokens joint ['#'] := by
    refine lays_text nofun fun rest lexemes _ hlexed => ?_
    exact ⟨_, _, ⟨startsPunctuation rest, rfl⟩, assembles_trees (operatorTokens _ ['#']),
      hlexed.operators (by decide)⟩
  have hname := (lays_name (show IsName "unused_imports" by decide)).append_place (b := {})
    (by decide)
  have hparens := lays_group .paren [] [] (show "(".toList = [] ++ ['('] from rfl)
    (show ")".toList = [')'] from rfl)
    blanks_nil blanks_nil ((hname.place_cons (b := {}) (by decide)).outdent.box indentStep true)
  have hallow := (lays_name (show IsName "allow" by decide)).append hparens (.inr rfl)
  have hbrackets := lays_group .bracket [] [] (show "[".toList = [] ++ ['['] from rfl)
    (show "]".toList = [']'] from rfl)
    blanks_nil blanks_nil hallow
  have hall := (hhash.append hbrackets (.inr rfl)).append_place (b := { blank := 1 }) (by decide)
  refine Lays.mono (Lays.text_append (a := "#") (b := "[") hall) ?_
  rintro _ ⟨_, _, rfl, ⟨joint, rfl⟩, _, ⟨_, _, rfl, rfl, _, rfl, rfl⟩, rfl⟩
  exact ⟨joint, rfl⟩

/-- **The import of everything in a module.** -/
theorem lays_import {path : ModulePath}
    (hnames : ∀ s ∈ path.names, IsName s ∧ isModuleWord s = true) :
    Lays false true (itemLayout [] [] (importItem path)) fun trees => ∃ names joint joint' lead,
      SpellsModule path.names names ∧ trees = allowTokens joint
        ++ word "use" :: (leadTokens path.leading lead
          ++ (names ++ [.leaf (.punct ';' joint')])) := by
  have huse : Lays false true [.text "use "] (· = [word "use"]) :=
    lays_word [] [' '] rfl (by decide) blanks_nil blanks_space
  have hlead : Lays false true ([.text "use "] ++ textIf path.leading "::")
      fun trees => ∃ lead, trees = word "use" :: leadTokens path.leading lead := by
    cases path.leading with
    | false =>
      refine huse.mono ?_
      rintro _ rfl
      exact ⟨false, rfl⟩
    | true =>
      have hlink : Lays true true [.text "::"] fun trees => ∃ joint,
          trees = operatorTokens joint [':', ':'] :=
        lays_operator [] [':', ':'] rfl (by decide) (fun _ => (by decide : standsApart ':' = true))
          blanks_nil
      refine Lays.mono (huse.append hlink (.inl rfl)) ?_
      rintro _ ⟨_, _, rfl, rfl, lead, rfl⟩
      exact ⟨lead, rfl⟩
  have hend : Lays true true ([.text ";"] ++ [hardBreak]) fun trees => ∃ joint,
      trees = [.leaf (.punct ';' joint)] :=
    lays_semicolon.append_place (by decide)
  have hall := ((lays_allow.append hlead (.inl rfl)).append (lays_useTree hnames) (.inl rfl)).append
    hend (.inl rfl)
  have hlayout : itemLayout [] [] (importItem path) = metasLayout false [.list ⟨false, ["allow"]⟩
      (.group .paren [word "unused_imports"])] ++ ([.text "use "] ++ textIf path.leading "::")
        ++ useTreeLayout (path.names.foldr UseTree.path .glob) ++ ([.text ";"] ++ [hardBreak]) :=
          rfl
  rw [hlayout]
  refine hall.mono ?_
  rintro _ ⟨_, _, rfl, ⟨_, names, rfl, ⟨_, _, rfl, ⟨joint, rfl⟩, lead, rfl⟩, hspells⟩, joint', rfl⟩
  refine ⟨names, joint, joint', lead, hspells, ?_⟩
  simp only [List.append_assoc, List.cons_append]

end FluentBuilder
