import FluentBuilder.BuilderItems
import FluentBuilder.Code.ExprShape
import FluentBuilder.Proofs.BuilderNames
import FluentBuilder.Proofs.Demands

/-!
# The slots of a builder

The texts of a model are read once for the struct of the builder and again for each of its methods.
This file says which texts decide whether there is code, and that the struct and the methods in it
agree on the slots.

* `Validated.textDemands`, `makes_textDemands` — the texts that are read, in the order in which they
  are looked at;
* `SlotUse`, `Item.slotUse?`, `Item.declaredSlots` — the slots that the items of a builder are
  about;
* `builder_code_eq` — the code of a builder, from the code of its slots;
* `builder_code_spec` — when a builder has code, the failure where it has none, and the slots in its
  code.
-/

namespace FluentBuilder

open FluentBuilder.Code

variable {v : Validated} {fields : List Field}

/-! ### The texts of a model -/

/-- The demand that a text is a name. -/
def identifierDemand (text : String) : Demand CodeError :=
  ⟨∃ name, SpellsIdentifier text name, .invalidIdentifier text⟩

/-- The demand that the text of a slot's type is a type. -/
def Slot.typeDemand (slot : Slot) : Demand CodeError :=
  ⟨∃ type, TypeExpr.read? slot.type = some type, .invalidFieldType slot.name slot.type⟩

/-- The demands on the texts of a slot: its name comes before its type. -/
def Slot.textDemands (slot : Slot) : List (Demand CodeError) :=
  [identifierDemand slot.name, slot.typeDemand]

/-- The demand on the name of a constructor, if it has one. -/
def Construction.textDemands : Construction → List (Demand CodeError)
  | .default => []
  | .associated function => [identifierDemand function]

/-- The demands on the texts of a method. -/
def Method.textDemands : Method → List (Demand CodeError)
  | .factory name => [identifierDemand name]
  | .setter name slot => identifierDemand name :: slot.textDemands
  | .terminal name _ construction assignments =>
    identifierDemand name :: (construction.textDemands ++ assignments.map identifierDemand)

/-- The demands on the texts of a model. -/
def BuilderModel.textDemands (b : BuilderModel) : List (Demand CodeError) :=
  [identifierDemand b.name.name, identifierDemand b.target.name]
    ++ (b.slots.flatMap Slot.textDemands ++ b.methods.flatMap Method.textDemands)

/-! ### Reading the texts -/

theorem spellsIdentifier_of_identifierOf {text : String} {i : Identifier}
    (h : identifierOf text = .ok i) :
    SpellsIdentifier text i.text :=
  Identifier.read?_eq_some_iff.1 (identifierOf_eq_ok_iff.1 h)

theorem makes_identifierDemand (text : String) :
    Makes [identifierDemand text] (identifierOf text) := by
  unfold identifierDemand
  refine makes_singleton ?_ fun e he => ?_
  · simp only [identifierOf_eq_ok_iff, exists_identifier_iff]
  · unfold identifierOf at he
    split at he
    · cases he
    · cases he
      rfl

theorem makes_typeCode (slot : Slot) : Makes [slot.typeDemand] slot.typeCode := by
  unfold Slot.typeCode Slot.typeDemand
  cases TypeExpr.read? slot.type with
  | none => exact .error (.here [] nofun)
  | some type => exact .ok type (List.forall_mem_singleton.2 ⟨type, rfl⟩)

theorem makes_slotCode (slot : Slot) : Makes slot.textDemands slot.code :=
  (makes_identifierDemand slot.name).bind fun _ _ => (makes_typeCode slot).map

theorem makes_constructionCode (c : Construction) : Makes c.textDemands c.code := by
  cases c with
  | default => exact .done ConstructionCode.default
  | associated function => exact (makes_identifierDemand function).map

theorem makes_methodCode (m : Method) : Makes m.textDemands m.code := by
  cases m with
  | factory name => exact (makes_identifierDemand name).map
  | setter name slot =>
    exact (makes_identifierDemand name).bind fun _ _ => (makes_slotCode slot).map
  | terminal name returns construction assignments =>
    refine (makes_identifierDemand name).bind fun _ _ => (makes_constructionCode construction).bind
      fun _ _ => ?_
    exact (Makes.mapM_singleton fun slot _ => makes_identifierDemand slot).map

/-- A model makes the demands on its texts in the order in which they occur in it. -/
theorem makes_textDemands (b : BuilderModel) : Makes b.textDemands b.code := by
  unfold BuilderModel.code
  refine (makes_identifierDemand b.name.name).bind fun _ _ =>
    (makes_identifierDemand b.target.name).bind fun _ _ => ?_
  exact (Makes.mapM fun slot _ => makes_slotCode slot).bind fun _ _ =>
    (Makes.mapM fun m _ => makes_methodCode m).map

/-! ### Demands that decide -/

/-- The texts that decide whether there is a builder over a list of fields: its own name, the name
of its target, the name and the type of each field, and the name of the constructor. -/
def Validated.textDemands (v : Validated) (fields : List Field) : List (Demand CodeError) :=
  [identifierDemand v.type.name.builder.name, identifierDemand v.type.name.name]
    ++ fields.flatMap (fun field => field.slot.textDemands)
    ++ v.constructor.construction.textDemands

theorem fixedMethod_met (m : FixedMethod) : (identifierDemand m.name).Met := by
  cases m with
  | factory => exact ⟨"builder", rfl, rfl⟩
  | terminal => exact ⟨"build", rfl, rfl⟩

/-- The texts of a builder, those that decide in front of those that are read again for the
methods. -/
theorem textDemands_builder (v : Validated) (fields : List Field) :
    (v.builder fields).textDemands
      = ([identifierDemand v.type.name.builder.name, identifierDemand v.type.name.name]
          ++ fields.flatMap fun field => field.slot.textDemands)
        ++ (identifierDemand FixedMethod.factory.name
          :: (fields.flatMap (fun field => identifierDemand field.name :: field.slot.textDemands)
            ++ [identifierDemand FixedMethod.terminal.name]))
        ++ (v.constructor.construction.textDemands ++ fields.map fun field =>
          identifierDemand field.name) := by
  simp only [BuilderModel.textDemands, Validated.builder, Method.textDemands, List.flatMap_append,
    List.flatMap_map, List.flatMap_cons, List.flatMap_nil, List.map_map, List.append_assoc,
    List.cons_append, List.nil_append,
    List.append_nil]
  rfl

/-- The texts that are read again for the methods never decide. -/
theorem makes_builderCode (v : Validated) (fields : List Field) :
    Makes (v.textDemands fields) (v.builder fields).code := by
  have hall := makes_textDemands (v.builder fields)
  rw [textDemands_builder] at hall
  have hslots {front : List (Demand CodeError)}
      (h : ∀ d ∈ front ++ fields.flatMap (fun field => field.slot.textDemands), d.Met) :
      ∀ field ∈ fields, ∀ d ∈ field.slot.textDemands, d.Met :=
    fun field hfield d hd => h d (List.mem_append_right front (List.mem_flatMap_of_mem hfield hd))
  have hname {field : Field} : identifierDemand field.name ∈ field.slot.textDemands :=
    List.mem_cons_self
  have hmethods := hall.without fun hfront => ?_
  · rw [← List.append_assoc] at hmethods
    refine hmethods.without_last fun hfront => ?_
    rw [List.forall_mem_map]
    intro field hfield
    exact hslots (List.forall_mem_append.1 hfront).1 field hfield _ hname
  · rw [List.forall_mem_cons, List.forall_mem_append, List.forall_mem_singleton]
    refine ⟨fixedMethod_met .factory, fun d hd => ?_, fixedMethod_met .terminal⟩
    obtain ⟨field, hfield, hd⟩ := List.mem_flatMap.1 hd
    rcases List.mem_cons.1 hd with rfl | hd
    · exact hslots hfront field hfield _ hname
    · exact hslots hfront field hfield d hd

/-! ### Slots in items -/

/-- Whether a path is that of a variant of the optional value. -/
def Code.Path.isVariant (path : Path) (name : String) : Bool :=
  path.modulePath? == some ⟨true, ["core", "option", "Option", name]⟩

/-- The slot that an entry of a struct literal makes empty. -/
def Code.Expr.emptied? : Expr → Option String
  | .fieldValue (.named slot) (some (.path value)) =>
    if value.isVariant "None" then some slot else none
  | _ => none

/-- The slot of the named value that an expression stands for. -/
def Code.Expr.slotOf? (base : String) : Expr → Option String
  | .field (.path value) (.named slot) => if value.ident? = some base then some slot else none
  | _ => none

/-- The slot of a builder in which a statement stores the value of its own name. -/
def Code.Statement.stored? : Statement → Option String
  | .expr (.assign place (.call (.path wrap) [.path value] _)) true => do
    let slot ← place.slotOf? "self"
    if wrap.isVariant "Some" ∧ value.ident? = some slot then some slot else none
  | _ => none

/-- The slot of a builder out of which a statement moves a value, if it holds one, into the same
slot of the instance. -/
def Code.Statement.moved? : Statement → Option String
  | .expr (.conditional (.binding (.tupleStruct variant [.binding false false held] _) source)
      [.expr (.assign place (.path value)) true] none) _ => do
    let slot ← source.slotOf? "self"
    if variant.isVariant "Some" ∧ value.ident? = some held
      ∧ place.slotOf? "instance" = some slot then some slot
    else none
  | _ => none

/-- The name that a statement answers with. -/
def Code.Statement.answer? : Statement → Option String
  | .expr (.path value) false => value.ident?
  | _ => none

/-- What a method does with the slots of a builder. -/
inductive SlotUse where
  /-- Gives a builder in which the slots are empty. -/
  | empties (slots : List String)
  /-- Is named after the slot and stores its argument in it. -/
  | stores (slot : String)
  /-- Moves what the slots hold into a value. -/
  | moves (slots : List String)

/-- What a method does with the slots of a builder, read off its name, its parameters and its body.
Nothing is read off a method with a part that is not accounted for. -/
def Code.Item.slotUse? : Item → Option SlotUse
  | .marked _ _ (.function head _ params _ _ _ _ body) =>
    match params, body with
    | [], [.expr (.struct _ entries _) false] => (entries.mapM Expr.emptied?).map .empties
    | [.receiver none true none, .typed (.binding false false value) _], [store, last] => do
      let slot ← store.stored?
      if head.name = slot ∧ value = slot ∧ last.answer? = some "self" then some (.stores slot)
      else none
    | [.receiver none false none], .declare _ (.binding false true "instance") _ false _ :: rest =>
      if rest.getLast?.bind Statement.answer? = some "instance" then
        (rest.dropLast.mapM Statement.moved?).map .moves
      else none
    | [.receiver none false none], [.expr (.call ..) false] => some (.moves [])
    | _, _ => none
  | _ => none

/-- What the members of an implementation do with the slots of a builder. -/
def Code.Item.slotUses : Item → List (Option SlotUse)
  | .marked _ _ (.impl _ _ _ _ _ _ _ members) => members.map Item.slotUse?
  | _ => []

/-- The names of the slots that a struct declares. -/
def Code.Item.declaredSlots : Item → List (Option String)
  | .marked _ _ (.struct _ _ _ members _) =>
    members.map fun member => member.field?.bind FieldItem.name
  | _ => []

/-! ### Slots in the code of a builder -/

theorem isVariant_optionVariant (name : String) : (optionVariant name).isVariant name = true := by
  have hpath : (optionVariant name).modulePath? = some ⟨true, ["core", "option", "Option", name]⟩ :=
    rfl
  unfold Path.isVariant
  rw [hpath]
  exact beq_self_eq_true _

theorem slotOf?_slotOf (base slot : String) : (slotOf base slot).slotOf? base = some slot :=
  if_pos rfl

theorem stored?_store (slot : String) :
    (Statement.expr
      (.assign (slotOf "self" slot) (.call (.path (optionVariant "Some")) [nameExpr slot] false))
      true).stored? = some slot := by
  simp [Statement.stored?, nameExpr, Path.ident?, slotOf?_slotOf, isVariant_optionVariant]

theorem moved?_copyStatement (slot : Identifier) :
    (copyStatement slot).moved? = some slot.text := by
  simp [copyStatement, Statement.moved?, nameExpr, Path.ident?, slotOf?_slotOf,
    isVariant_optionVariant]

theorem slotUse?_factory (b : BuilderCode) (name : Identifier) :
    (MethodCode.item b (.factory name)).slotUse? = some
    (.empties (b.slots.map fun slot => slot.name.text)) := by
  have hentry (slot : SlotCode) :
      (Expr.fieldValue (.named slot.name.text) (some (.path (optionVariant "None")))).emptied?
        = some slot.name.text := by
    simp [Expr.emptied?, isVariant_optionVariant]
  exact congrArg (Option.map SlotUse.empties) (mapM_map_of_some hentry b.slots)

theorem slotUse?_setter (b : BuilderCode) (slot : Identifier) (type : TypeExpr) :
    (MethodCode.item b (.setter slot slot type)).slotUse? = some (.stores slot.text) := by
  have hanswer : (Statement.expr (nameExpr "self") false).answer? = some "self" := rfl
  simp [MethodCode.item, methodItem, Item.slotUse?, stored?_store, hanswer]

theorem slotUse?_terminal (b : BuilderCode) (name : Identifier) (construction : ConstructionCode)
    (assignments : List Identifier) :
    (MethodCode.item b (.terminal name construction assignments)).slotUse?
      = some (.moves (assignments.map Identifier.text)) := by
  cases assignments with
  | nil => cases construction <;> rfl
  | cons first others =>
    have hmoved : ((first :: others).map copyStatement).mapM Statement.moved?
        = some ((first :: others).map Identifier.text) :=
      mapM_map_of_some moved?_copyStatement _
    have hanswer : (Statement.expr (nameExpr "instance") false).answer? = some "instance" := rfl
    have hbody : terminalBody (construction.expr b.target) (first :: others)
        = .declare [] (.binding false true "instance") (some (construction.expr b.target)) false []
          :: ((first :: others).map copyStatement ++ [.expr (nameExpr "instance") false]) := rfl
    unfold MethodCode.item methodItem Item.slotUse?
    simp only [hbody, List.getLast?_concat, List.dropLast_concat, Option.bind_some, hanswer,
      hmoved, if_true, Option.map_some]

theorem declaredSlots_items (b : BuilderCode) :
    b.items.flatMap Item.declaredSlots = b.slots.map fun slot => some slot.name.text := by
  show (b.slots.map SlotCode.item).map _ ++ ([] ++ []) = _
  rw [List.append_nil, List.append_nil, List.map_map]
  rfl

theorem slotUses_items (b : BuilderCode) :
    b.items.flatMap Item.slotUses = b.methods.map fun m => (MethodCode.item b m).slotUse? := by
  show [] ++ ((b.methods.map (MethodCode.item b)).map Item.slotUse? ++ []) = _
  rw [List.nil_append, List.append_nil, List.map_map]
  rfl

theorem Slot.code_eq_ok_iff {slot : Slot} {code : SlotCode} :
    slot.code = .ok code ↔ identifierOf slot.name = .ok code.name
      ∧ slot.typeCode = .ok code.type := by
  constructor
  · intro h
    obtain ⟨name, hname, h⟩ := bind_eq_ok_iff.1 h
    obtain ⟨type, htype, h⟩ := bind_eq_ok_iff.1 h
    cases h
    exact ⟨hname, htype⟩
  · rintro ⟨hname, htype⟩
    exact bind_eq_ok_iff.2 ⟨_, hname, bind_eq_ok_iff.2 ⟨_, htype, rfl⟩⟩

/-- A setter is made from the name and the type of its slot. -/
theorem setter_code_of {field : Field} {slot : SlotCode} (h : field.slot.code = .ok slot) :
    (Method.setter field.name field.slot).code = .ok (.setter slot.name slot.name slot.type) :=
  bind_eq_ok_iff.2 ⟨slot.name, (Slot.code_eq_ok_iff.1 h).1, bind_eq_ok_iff.2 ⟨slot, h, rfl⟩⟩

/-- The code of a builder: the slots of its fields, and methods that are made from the same
slots. -/
theorem builder_code_eq {c : BuilderCode} (h : (v.builder fields).code = .ok c) :
    List.Forall₂ (fun field slot => field.slot.code = .ok slot) fields c.slots
      ∧ ∃ factory terminal construction, c.methods
        = [.factory factory] ++ (c.slots.map fun slot => .setter slot.name slot.name slot.type)
          ++ [.terminal terminal construction (c.slots.map SlotCode.name)] := by
  obtain ⟨name, -, h⟩ := bind_eq_ok_iff.1 h
  obtain ⟨target, -, h⟩ := bind_eq_ok_iff.1 h
  obtain ⟨slots, hslots, h⟩ := bind_eq_ok_iff.1 h
  obtain ⟨methods, hmethods, h⟩ := bind_eq_ok_iff.1 h
  cases h
  have hfields : List.Forall₂ (fun field slot => field.slot.code = .ok slot) fields slots :=
    List.forall₂_map_left_iff.1 (mapM_eq_ok_iff.1 hslots)
  have hsetters : (fields.map fun field => Method.setter field.name field.slot).mapM Method.code
      = .ok (slots.map fun slot => .setter slot.name slot.name slot.type) :=
    mapM_eq_ok_iff.2 (List.forall₂_map_left_iff.2 (List.forall₂_map_right_iff.2
      (hfields.imp fun _ _ => setter_code_of)))
  have hnames : (fields.map Field.name).mapM identifierOf = .ok (slots.map SlotCode.name) :=
    mapM_eq_ok_iff.2 (List.forall₂_map_left_iff.2 (List.forall₂_map_right_iff.2
      (hfields.imp fun _ _ hslot => (Slot.code_eq_ok_iff.1 hslot).1)))
  refine ⟨hfields, ?_⟩
  obtain ⟨front, back, hfront, hback, hall⟩ := mapM_append_eq_ok_iff.1 hmethods
  obtain ⟨first, setters, hfirst, hsetters', hfront⟩ := mapM_append_eq_ok_iff.1 hfront
  obtain ⟨factory, hfactory, rfl⟩ := mapM_singleton_eq_ok_iff.1 hfirst
  obtain ⟨terminal, hterminal, rfl⟩ := mapM_singleton_eq_ok_iff.1 hback
  obtain ⟨factoryName, -, hfactory⟩ := bind_eq_ok_iff.1 hfactory
  obtain ⟨terminalName, -, hterminal⟩ := bind_eq_ok_iff.1 hterminal
  obtain ⟨construction, -, hterminal⟩ := bind_eq_ok_iff.1 hterminal
  rw [hnames] at hterminal
  rw [hsetters] at hsetters'
  cases hsetters'
  cases hfactory
  cases hterminal
  exact ⟨factoryName, terminalName, construction, by rw [hall, hfront]⟩

/-- **When a builder has code, how it fails, and the slots in its code.**  There is code for a list
of fields exactly when the name of the builder, that of its target, each field's name and the name
of the constructor are identifiers and each field's type is a type.  Otherwise the failure is that
of the first text that is not, in the order builder, target, fields with the name before the type,
constructor.  In the code the struct declares one slot for each field, which is the identifier that
its name spells.  The factory empties the same slots, the setters store in them one after the other,
and the terminal method moves them, all in the same order. -/
theorem builder_code_spec (v : Validated) (fields : List Field) :
    ((∃ c, (v.builder fields).code = .ok c) ↔ ∀ d ∈ v.textDemands fields, d.Met)
      ∧ (∀ e, (v.builder fields).code = .error e ↔ FirstUnmet (v.textDemands fields) e)
      ∧ ∀ c, (v.builder fields).code = .ok c → ∃ slots : List String,
          List.Forall₂ (fun field slot => SpellsIdentifier field.name slot) fields slots
          ∧ c.items.flatMap Item.declaredSlots = slots.map some
          ∧ c.items.flatMap Item.slotUses
            = [some (.empties slots)] ++ (slots.map fun slot => some (.stores slot))
              ++ [some (.moves slots)] := by
  have hmakes := makes_builderCode v fields
  refine ⟨hmakes.exists_eq_ok_iff, fun e => hmakes.eq_error_iff, fun c hc => ?_⟩
  obtain ⟨hfields, factory, terminal, construction, hmethods⟩ := builder_code_eq hc
  refine ⟨c.slots.map fun slot => slot.name.text, ?_, ?_, ?_⟩
  · refine List.forall₂_map_right_iff.2 (hfields.imp fun field slot hslot => ?_)
    exact spellsIdentifier_of_identifierOf (Slot.code_eq_ok_iff.1 hslot).1
  · rw [declaredSlots_items, List.map_map]
    rfl
  · rw [slotUses_items, hmethods, List.map_append, List.map_append, List.map_singleton,
      List.map_singleton, slotUse?_factory, slotUse?_terminal, List.map_map, List.map_map,
      List.map_map]
    simp only [Function.comp_def, slotUse?_setter]

end FluentBuilder
