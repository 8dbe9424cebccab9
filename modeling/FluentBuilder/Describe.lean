import FluentBuilder.BuilderModel
import FluentBuilder.Code.Source

/-!
# Descriptions of structs

A struct in source text is described by its fields and by the attributes that say how a value is
constructed and which fields are left out.

* `typeAttributes`, `ignoresField`: what the attributes say.
* `describe`: the descriptor of a declaration, or the first reason why it has none.
-/

namespace FluentBuilder

open FluentBuilder.Code

/-- Why a declaration cannot be described. -/
inductive DescribeError where
  | generic (name : String)
  | notNamed (name : String)
  | notStruct
  | malformedAttribute
  | constructorNotText
  | invalidFunctionName (name : String)
  | unknownTypeAttribute
  | unknownFieldAttribute
  | conflictingConstructors
  /-- A field among named ones has no name, which no source text brings about. -/
  | unnamedField
  | repeatedField (name : String)
  deriving DecidableEq, Repr

/-- A reason in words. -/
def DescribeError.message : DescribeError → String
  | .generic name =>
    "AutoBuilder does not support generic types; remove the type parameters from " ++ name
  | .notNamed name =>
    "AutoBuilder only supports structs with named fields.\n\nExample of a valid struct:\n\nstruct "
      ++ name
      ++ " \x7b\n    name: String,\n\x7d"
  | .notStruct => "AutoBuilder can only be used on structs"
  | .malformedAttribute =>
    "Failed to parse builder attribute: ...\n\nExample usage:\n#[builder(ignore)]\n"
      ++ "#[builder(constructor = \"new\")]"
  | .constructorNotText =>
    "The 'constructor' parameter must be a string literal.\n\nExample: #[builder(constructor = \"new\")]"
  | .invalidFunctionName name => "'" ++ name ++ "' is not a valid function name"
  | .unknownTypeAttribute =>
    "Unknown builder attribute on type.\n\nValid parameters are: constructor = \"...\", default"
  | .unknownFieldAttribute => "Unknown builder attribute on field.\n\nValid parameters are: ignore"
  | .conflictingConstructors =>
    "Use either #[builder(default)] or #[builder(constructor = \"...\")], not both"
  | .unnamedField =>
    "Internal error: Field identifier is missing. This should not happen with named fields."
  | .repeatedField name => "Field '" ++ name ++ "' is declared more than once"

/-! ### Attributes -/

/-- The attributes that are meant for the builder. -/
def builderAttributes (attributes : List Meta) : List Meta :=
  attributes.filter fun a => a.path.isIdent "builder"

/-- The entries of an attribute for the builder. -/
def builderEntries (a : Meta) : Except DescribeError (List Meta) :=
  match a with
  | .list _ arguments =>
    match Meta.readList? arguments.inner with
    | some entries => .ok entries
    | none => .error .malformedAttribute
  | _ => .error .malformedAttribute

/-- What the attributes of a type say about its construction. -/
structure TypeAttributes where
  /-- The function that constructs a value; the last one named counts. -/
  constructor : Option String := none
  /-- Whether the default of the type constructs a value. -/
  default : Bool := false
  deriving DecidableEq, Repr

/-- What a type's attributes say once one more entry is read. -/
def TypeAttributes.read (t : TypeAttributes) (entry : Meta) : Except DescribeError TypeAttributes :=
  match entry with
  | .assigned path value =>
    if path.isIdent "constructor" then
      let text? := match value with
        | .literal literal => stringValue? literal
        | _ => none
      match text? with
      | some name =>
        if (Identifier.read? name).isSome then .ok { t with constructor := some name }
        else .error (.invalidFunctionName name)
      | none => .error .constructorNotText
    else .error .unknownTypeAttribute
  | .bare path =>
    if path.isIdent "default" then .ok { t with default := true } else .error .unknownTypeAttribute
  | .list _ _ => .error .unknownTypeAttribute

/-- What the attributes of a type say; a function and the default exclude each other. -/
def typeAttributes (attributes : List Meta) : Except DescribeError TypeAttributes := do
  let said ← (builderAttributes attributes).foldlM (fun said a => do
    (← builderEntries a).foldlM TypeAttributes.read said) {}
  if said.constructor.isSome && said.default then throw .conflictingConstructors
  return said

/-- Checks an entry of a field's attribute: fields can only be ignored. -/
def checkFieldEntry (entry : Meta) : Except DescribeError Unit :=
  match entry with
  | .bare path => if path.isIdent "ignore" then .ok () else .error .unknownFieldAttribute
  | _ => .error .unknownFieldAttribute

/-- Whether the attributes of a field leave it out of the builder. -/
def ignoresField (attributes : List Meta) : Except DescribeError Bool :=
  (builderAttributes attributes).foldlM (fun ignored a => do
    let entries ← builderEntries a
    let _ ← entries.mapM checkFieldEntry
    return ignored || !entries.isEmpty) false

/-! ### Declarations -/

/-- The visibility of a descriptor for the one that is written: what is restricted to its own module
counts as private, and every other restriction stays inside the package. -/
def Code.ItemVisibility.described : ItemVisibility → Visibility
  | .everywhere => .pub
  | .restricted _ path => if path.isIdent "self" then .priv else .package
  | .inherited => .priv

/-- The descriptor of a field. -/
def Code.FieldItem.describe (field : FieldItem) : Except DescribeError Field :=
  match field.name with
  | some name => do
    let excluded ← ignoresField field.attributes
    return { name, type := field.type.text, visibility := field.visibility.described, excluded }
  | none => throw .unnamedField

/-- The fields that can be described: a struct has named fields or none. -/
def Code.DeclaredData.describable (name : String) :
    DeclaredData → Except DescribeError (List FieldItem)
  | .struct (.named fields) => .ok fields
  | .struct .unit => .ok []
  | .struct (.unnamed _) => .error (.notNamed name)
  | .enum => .error .notStruct
  | .union => .error .notStruct

/-- The constructors of a type: those that its attributes name, else those that were found, else the
default. -/
def TypeAttributes.constructors (said : TypeAttributes) (found : Option (List Constructor)) :
    List Constructor :=
  match said.constructor with
  | some name => [.ofFunction name .package]
  | none => if said.default then [.ofDefault] else found.getD [.ofDefault]

/-- The descriptor of a declaration in a package, where `found` are the constructors found beside
it. -/
def describe (input : TypeDeclaration) (package : String) (found : Option (List Constructor)) :
    Except DescribeError TypeDescriptor := do
  if input.generic then throw (.generic input.name)
  let items ← input.data.describable input.name
  let said ← typeAttributes input.attributes
  let fields ← items.mapM Code.FieldItem.describe
  match firstRepeated? [] (fields.map Field.name) with
  | some name => throw (.repeatedField name)
  | none =>
    return { name := ⟨package, input.name⟩, visibility := input.visibility.described, fields,
             constructors := said.constructors found }

end FluentBuilder
