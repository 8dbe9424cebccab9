import FluentBuilder.Rule

/-!
# The builder of a type

The model of a builder before it is written as source text: one slot and one setter per field that
it offers, between the factory and the terminal method.

* `Validated.builder`: the builder of a validated type over a list of fields.
* `synthesize`: validation, selection and construction in one step.
-/

namespace FluentBuilder

/-- A slot of a builder, which stores the value for a field. -/
structure Slot where
  name : String
  type : String
  deriving DecidableEq, Repr, Inhabited

/-- How the terminal method obtains a fresh value. -/
inductive Construction where
  | default
  | associated (function : String)
  deriving DecidableEq, Repr, Inhabited

/-- A method of a builder. -/
inductive Method where
  /-- Gives an empty builder. -/
  | factory (name : String)
  /-- Stores one value and hands the builder back. -/
  | setter (name : String) (slot : Slot)
  /-- Constructs the value and copies every stored value into it. -/
  | terminal (name : String) (returns : QualifiedName) (construction : Construction)
      (assignments : List String)
  deriving DecidableEq, Repr

/-- The name of a method. -/
def Method.name : Method → String
  | .factory name => name
  | .setter name _ => name
  | .terminal name .. => name

/-- A builder. -/
structure BuilderModel where
  name : QualifiedName
  target : QualifiedName
  visibility : Visibility
  slots : List Slot
  methods : List Method
  deriving DecidableEq, Repr

namespace BuilderModel

/-- The first factory method. -/
def factory? (b : BuilderModel) : Option Method :=
  b.methods.find? fun
    | .factory _ => true
    | _ => false

/-- The first terminal method. -/
def terminal? (b : BuilderModel) : Option Method :=
  b.methods.find? fun
    | .terminal .. => true
    | _ => false

/-- The setters. -/
def setters (b : BuilderModel) : List Method :=
  b.methods.filter fun
    | .setter .. => true
    | _ => false

end BuilderModel

/-- The name of the builder of a type. -/
def QualifiedName.builder (target : QualifiedName) : QualifiedName :=
  ⟨target.package, target.name ++ "Builder"⟩

/-- The slot for a field. -/
def Field.slot (field : Field) : Slot :=
  ⟨field.name, field.type⟩

/-- The call of a constructor. -/
def Constructor.construction (c : Constructor) : Construction :=
  match c.name with
  | some function => .associated function
  | none => .default

/-- The builder of a validated type over a list of fields. -/
def Validated.builder (v : Validated) (fields : List Field) : BuilderModel where
  name := v.type.name.builder
  target := v.type.name
  visibility := v.type.visibility
  slots := fields.map Field.slot
  methods :=
    [.factory FixedMethod.factory.name]
      ++ fields.map (fun field => .setter field.name field.slot)
      ++ [.terminal FixedMethod.terminal.name v.type.name v.constructor.construction
        (fields.map Field.name)]

/-- The builder of a type over its eligible fields, if the type passes a chain of rules. -/
def synthesizeWith (rules : List Check) (t : TypeDescriptor) : Except Violation BuilderModel := do
  let validated ← validate rules t
  return validated.builder t.eligible

/-- The builder of a type, if the type passes the usual rules. -/
def synthesize (t : TypeDescriptor) : Except Violation BuilderModel :=
  synthesizeWith defaultRules t

end FluentBuilder
