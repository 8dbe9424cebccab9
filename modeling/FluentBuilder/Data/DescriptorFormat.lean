import FluentBuilder.Data.Decoder
import FluentBuilder.BuilderModel

/-!
# The format of descriptors

How descriptors, and the models made from them, are written as values.  Members of a descriptor
other than names and types may be left out.

* `TypeDescriptor.decode?`, `TypeDescriptor.encode`: the two directions for a type.
* `BuilderModel.encode`, `Violation.encode`: values that are only written.
-/

namespace FluentBuilder

open FluentBuilder.Data

/-! ### Choices -/

/-- The names of visibilities. -/
def visibilityNames : List (String × Visibility) :=
  [("private", .priv), ("package", .package), ("protected", .prot), ("public", .pub)]

/-- The modifiers of fields; the flag says whether a modifier marks the field as final rather than
static. -/
def fieldModifierNames : List (String × Bool) :=
  [("static", false), ("final", true)]

/-- The modifiers of types. -/
def typeModifierNames : List (String × Unit) :=
  [("abstract", ())]

/-- The name of a visibility. -/
def Visibility.label : Visibility → String
  | .priv => "private"
  | .package => "package"
  | .prot => "protected"
  | .pub => "public"

/-- The visibility that a value spells. -/
def Visibility.decode? (dialect : Dialect) : Value → Option Visibility :=
  Value.choice? dialect visibilityNames

/-! ### Reading -/

/-- The field that a value spells. -/
def Field.decode? (dialect : Dialect) : Value → Option Field :=
  Value.record? dialect do
    let name ← required "name" Value.text?
    let type ← required "type" Value.text?
    let modifiers ← optional "modifiers" [] (Value.list? (Value.choice? dialect fieldModifierNames))
    let visibility ← optional "visibility" Visibility.package (Visibility.decode? dialect)
    let excluded ← optional "excluded" false Value.bool?
    return { name, type, isStatic := modifiers.contains false, isFinal := modifiers.contains true,
             visibility, excluded }

/-- The parameter that a value spells. -/
def Parameter.decode? (dialect : Dialect) : Value → Option Parameter :=
  Value.record? dialect do
    let name ← required "name" Value.text?
    let type ← required "type" Value.text?
    return { name, type }

/-- The constructor that a value spells. -/
def Constructor.decode? (dialect : Dialect) : Value → Option Constructor :=
  Value.record? dialect do
    let name ← optional "name" none Value.textOrNull?
    let params ← optional "params" [] (Value.list? (Parameter.decode? dialect))
    let visibility ← optional "visibility" Visibility.package (Visibility.decode? dialect)
    return { name, params, visibility }

/-- The keys of the members of a type that are read by themselves. -/
def typeKeys : List String :=
  ["visibility", "modifiers", "fields", "constructors"]

/-- The type that a value spells.  A type is always written as a table, and all of its entries are
looked at, also those with unknown keys. -/
def TypeDescriptor.decode? (dialect : Dialect) : Value → Option TypeDescriptor
  | .table entries =>
    if (entries.filter fun e => !typeKeys.contains e.1).all fun e => e.2.isReadable then
      Value.record? dialect (do
        let package ← optional "package" "" Value.text?
        let name ← required "name" Value.text?
        let visibility ← optional "visibility" Visibility.package (Visibility.decode? dialect)
        let modifiers ← optional "modifiers" []
          (Value.list? (Value.choice? dialect typeModifierNames))
        let fields ← optional "fields" [] (Value.list? (Field.decode? dialect))
        let constructors ← optional "constructors" [] (Value.list? (Constructor.decode? dialect))
        return { name := ⟨package, name⟩, visibility, isAbstract := !modifiers.isEmpty, fields,
                 constructors })
        (.table entries)
    else none
  | _ => none

/-- The types of a descriptor file. -/
def decodeTypes? (dialect : Dialect) : Value → Option (List TypeDescriptor) :=
  Value.record? dialect (optional "types" [] (Value.list? (TypeDescriptor.decode? dialect)))

/-! ### Writing -/

/-- A name as entries of a table. -/
def QualifiedName.entries (q : QualifiedName) : List (String × Value) :=
  [("package", .text q.package), ("name", .text q.name)]

/-- A name as a value. -/
def QualifiedName.encode (q : QualifiedName) : Value :=
  .table q.entries

/-- A visibility as a value. -/
def Visibility.encode (v : Visibility) : Value :=
  .text v.label

/-- Labels of flags that are set. -/
def flagLabels (flags : List (String × Bool)) : Value :=
  .list ((flags.filter (·.2)).map fun f => .text f.1)

/-- A field as a value. -/
def Field.encode (f : Field) : Value :=
  .table [("name", .text f.name), ("type", .text f.type),
    ("modifiers", flagLabels [("static", f.isStatic), ("final", f.isFinal)]),
    ("visibility", f.visibility.encode), ("excluded", .bool f.excluded)]

/-- A parameter as a value. -/
def Parameter.encode (p : Parameter) : Value :=
  .table [("name", .text p.name), ("type", .text p.type)]

/-- A text, or null if there is none. -/
def encodeOptional : Option String → Value
  | some s => .text s
  | none => .null

/-- A constructor as a value. -/
def Constructor.encode (c : Constructor) : Value :=
  .table [("name", encodeOptional c.name), ("params", .list (c.params.map Parameter.encode)),
    ("visibility", c.visibility.encode)]

/-- A type as a value. -/
def TypeDescriptor.encode (t : TypeDescriptor) : Value :=
  .table (t.name.entries ++ [("visibility", t.visibility.encode),
    ("modifiers", flagLabels [("abstract", t.isAbstract)]),
    ("fields", .list (t.fields.map Field.encode)),
    ("constructors", .list (t.constructors.map Constructor.encode))])

/-- A slot as a value. -/
def Slot.encode (s : Slot) : Value :=
  .table [("name", .text s.name), ("type", .text s.type)]

/-- A construction as a value. -/
def Construction.encode : Construction → Value
  | .default => .text "default"
  | .associated function => .table [("associated", .text function)]

/-- A method as a value. -/
def Method.encode : Method → Value
  | .factory name => .table [("kind", .text "factory"), ("name", .text name)]
  | .setter name slot =>
    .table [("kind", .text "setter"), ("name", .text name), ("field", slot.encode)]
  | .terminal name returns construction assignments =>
    .table [("kind", .text "terminal"), ("name", .text name), ("returns", returns.encode),
      ("constructor", construction.encode), ("assignments", .list (assignments.map Value.text))]

/-- The members of a model. -/
def BuilderModel.entries (b : BuilderModel) : List (String × Value) :=
  [("name", b.name.encode), ("target", b.target.encode), ("visibility", b.visibility.encode),
    ("fields", .list (b.slots.map Slot.encode)), ("methods", .list (b.methods.map Method.encode))]

/-- A model as a value. -/
def BuilderModel.encode (b : BuilderModel) : Value :=
  .table b.entries

/-- A violation as a value. -/
def Violation.encode (v : Violation) : Value :=
  .table [("rule", .text v.rule.name), ("type_name", v.typeName.encode),
    ("message", .text v.message)]

end FluentBuilder
