import FluentBuilder.BuilderCode

/-!
# The items of a builder

The code of a builder as the items that it stands for: the struct with its slots, and the
implementation with its methods.

* `BuilderCode.items`: the items of a builder.
* `BuilderFile.items`: the items of a file, with the import in front.
-/

namespace FluentBuilder

open FluentBuilder.Code

/-! ### Paths and names -/

/-- A path of names without arguments. -/
def Code.ModulePath.path (path : ModulePath) : Path :=
  path.names.foldl Path.plain (.root path.leading)

/-- A path below the core of the standard library. -/
def corePath (names : List String) : Path :=
  (ModulePath.mk true ("core" :: names)).path

/-- A single name as an expression. -/
def nameExpr (name : String) : Expr :=
  .path (.plain (.root false) name)

/-- A single name as a type. -/
def nameType (name : String) : TypeExpr :=
  .path (.plain (.root false) name)

/-- The access to a slot of the given value. -/
def slotOf (base slot : String) : Expr :=
  .field (nameExpr base) (.named slot)

/-! ### The struct -/

/-- The visibility that is written for one that a descriptor states. -/
def Visibility.written : Visibility → ItemVisibility
  | .pub => .everywhere
  | .package => .restricted false ⟨false, ["crate"]⟩
  | .prot => .restricted false ⟨false, ["crate"]⟩
  | .priv => .inherited

/-- The field for a slot, which holds an optional value. -/
def SlotCode.item (slot : SlotCode) : Item :=
  .marked [] .inherited
    (.field (some slot.name.text)
      (.path (.angle (corePath ["option"]) "Option" false [.type slot.type] false)))

/-- The struct of a builder with its documentation. -/
def BuilderCode.structItem (b : BuilderCode) : Item :=
  .marked [.assigned ⟨false, ["doc"]⟩ (.literal (textLiteral b.documentation.toList))]
    b.visibility.written
    (.struct b.name.text (.mk [] false [] false) .named (b.slots.map SlotCode.item) true)

/-! ### The implementation -/

/-- A public method with its body. -/
def methodItem (name : String) (params : List Pattern) (output : TypeExpr) (body : List Statement) :
    Item :=
  .marked [] .everywhere
    (.function ⟨false, false, false, false, .native, name⟩ (.mk [] false [] false) params false
      (some output)
      true [] body)

/-- A variant of the optional value. -/
def optionVariant (name : String) : Path :=
  corePath ["option", "Option", name]

/-- The builder in which every slot is empty. -/
def emptyBuilder (slots : List SlotCode) : Expr :=
  .struct (.plain (.root false) "Self")
    (slots.map fun slot => .fieldValue (.named slot.name.text)
      (some (.path (optionVariant "None")))) true

/-- The expression that constructs a fresh value. -/
def ConstructionCode.expr (target : Identifier) : ConstructionCode → Expr
  | .default =>
    .call (.path (.plain (.ofTypeAs (nameType target.text) (corePath ["default", "Default"]))
      "default")) [] false
  | .associated function =>
    .call (.path (.plain (.plain (.root false) target.text) function.text)) [] false

/-- The statement that copies a stored value. -/
def copyStatement (slot : Identifier) : Statement :=
  .expr
    (.conditional
      (.binding (.tupleStruct (optionVariant "Some") [.binding false false "value"] false)
        (slotOf "self" slot.text))
      [.expr (.assign (slotOf "instance" slot.text) (nameExpr "value")) true] none)
    false

/-- The body of the terminal method. -/
def terminalBody (value : Expr) (assignments : List Identifier) : List Statement :=
  match assignments with
  | [] => [.expr value false]
  | _ =>
    [.declare [] (.binding false true "instance") (some value) false []]
      ++ assignments.map copyStatement
      ++ [.expr (nameExpr "instance") false]

/-- A method of a builder. -/
def MethodCode.item (b : BuilderCode) : MethodCode → Item
  | .factory name => methodItem name.text [] (nameType "Self") [.expr (emptyBuilder b.slots) false]
  | .setter name slot type =>
    methodItem name.text [.receiver none true none, .typed (.binding false false slot.text) type]
      (nameType "Self")
      [.expr (.assign (slotOf "self" slot.text)
          (.call (.path (optionVariant "Some")) [nameExpr slot.text] false)) true,
        .expr (nameExpr "self") false]
  | .terminal name construction assignments =>
    methodItem name.text [.receiver none false none] (nameType b.target.text)
      (terminalBody (construction.expr b.target) assignments)

/-- The implementation of a builder. -/
def BuilderCode.implItem (b : BuilderCode) : Item :=
  .marked [] .inherited
    (.impl false false (.mk [] false [] false) false none (nameType b.name.text) []
      (b.methods.map (MethodCode.item b)))

/-- The items of a builder. -/
def BuilderCode.items (b : BuilderCode) : List Item :=
  [b.structItem, b.implItem]

/-! ### Files -/

/-- The import of everything in a module. -/
def importItem (path : ModulePath) : Item :=
  .marked [.list ⟨false, ["allow"]⟩ (.group .paren [word "unused_imports"])] .inherited
    (.use path.leading (path.names.foldr UseTree.path .glob))

/-- The items of a file. -/
def BuilderFile.items (file : BuilderFile) : List Item :=
  (file.imported.map importItem).toList ++ file.builder.items

end FluentBuilder
