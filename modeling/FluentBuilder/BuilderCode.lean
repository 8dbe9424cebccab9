import FluentBuilder.BuilderModel
import FluentBuilder.Code.Source

/-!
# The code of a builder

A model holds names and types as text.  Its code holds identifiers and types that were read from
these texts, so no text can bring more than one name or type into the code.

* `BuilderModel.code`: the code of a model, or the first text that does not spell what it should.
* `BuilderModel.import?`: the module from which the code of a file imports the target.
-/

namespace FluentBuilder

open FluentBuilder.Code

/-- Why a model has no code. -/
inductive CodeError where
  | invalidIdentifier (text : String)
  | invalidFieldType (field type : String)
  /-- The package spells a path that no import can name. -/
  | unusableImport
  deriving DecidableEq, Repr

/-- A reason in words. -/
def CodeError.message : CodeError → String
  | .invalidIdentifier text => "Invalid identifier '" ++ text ++ "'"
  | .invalidFieldType field type =>
    "Invalid field type '" ++ type ++ "' for field '" ++ field ++ "'"
  | .unusableImport => "The package names no module to import from"

/-- How the terminal method obtains a fresh value. -/
inductive ConstructionCode where
  | default
  | associated (function : Identifier)

/-- A method of a builder with its names and types. -/
inductive MethodCode where
  | factory (name : Identifier)
  | setter (name slot : Identifier) (type : TypeExpr)
  | terminal (name : Identifier) (construction : ConstructionCode) (assignments : List Identifier)

/-- A slot of a builder with its name and type. -/
structure SlotCode where
  name : Identifier
  type : TypeExpr

/-- The code of a builder. -/
structure BuilderCode where
  documentation : String
  visibility : Visibility
  name : Identifier
  target : Identifier
  slots : List SlotCode
  methods : List MethodCode

/-- The identifier that a text spells. -/
def identifierOf (text : String) : Except CodeError Identifier :=
  match Identifier.read? text with
  | some i => .ok i
  | none => .error (.invalidIdentifier text)

/-- The type of a slot. -/
def Slot.typeCode (slot : Slot) : Except CodeError TypeExpr :=
  match TypeExpr.read? slot.type with
  | some t => .ok t
  | none => .error (.invalidFieldType slot.name slot.type)

/-- The code of a slot: its name is read before its type. -/
def Slot.code (slot : Slot) : Except CodeError SlotCode := do
  let name ← identifierOf slot.name
  return ⟨name, ← slot.typeCode⟩

/-- The code of a construction. -/
def Construction.code : Construction → Except CodeError ConstructionCode
  | .default => .ok .default
  | .associated function => do return .associated (← identifierOf function)

/-- The code of a method. -/
def Method.code : Method → Except CodeError MethodCode
  | .factory name => do return .factory (← identifierOf name)
  | .setter name slot => do
    let name ← identifierOf name
    let code ← slot.code
    return .setter name code.name code.type
  | .terminal name _ construction assignments => do
    let name ← identifierOf name
    let construction ← construction.code
    return .terminal name construction (← assignments.mapM identifierOf)

namespace BuilderModel

/-- The documentation of a builder. -/
def documentation (b : BuilderModel) : String :=
  " Fluent builder for [`" ++ b.target.name ++ "`]."

/-- The code of a model, or the first text in it that does not spell what it should. -/
def code (b : BuilderModel) : Except CodeError BuilderCode := do
  let name ← identifierOf b.name.name
  let target ← identifierOf b.target.name
  let slots ← b.slots.mapM Slot.code
  let methods ← b.methods.mapM Method.code
  return ⟨b.documentation, b.visibility, name, target, slots, methods⟩

/-- The path that the package of the target spells, if it spells one. -/
def import? (b : BuilderModel) : Option Path :=
  if b.target.package.isEmpty then none else Path.read? b.target.package

end BuilderModel

/-- The tokens of the import of everything in a module. -/
def importTokens (path : Path) : Tokens :=
  punctuation "#" ++ [.group .bracket [word "allow", .group .paren [word "unused_imports"]],
    word "use"]
    ++ path.tokens true ++ punctuation "*" ++ punctuation ";"

/-- The module that a path names in an import: no name in it has arguments, and none is the type
`Self`. -/
def Code.Path.importable? (path : Path) : Option ModulePath := do
  let module ← path.modulePath?
  if module.names.contains "Self" then none else some module

/-- The code of a file: a builder and the module that it imports. -/
structure BuilderFile where
  imported : Option ModulePath
  builder : BuilderCode

/-- The code of a file.  The texts of the model are read before the import is looked at. -/
def BuilderModel.fileCode (b : BuilderModel) : Except CodeError BuilderFile := do
  let builder ← b.code
  match b.import? with
  | some path =>
    match path.importable? with
    | some module => return ⟨some module, builder⟩
    | none => throw .unusableImport
  | none => return ⟨none, builder⟩

end FluentBuilder
