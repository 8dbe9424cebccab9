/-!
# Type descriptors

A descriptor is a structural snapshot of one declared type: its name, its fields, and the ways to
construct a value of it.  This module holds the types and the questions that rules and synthesis ask
of them.

* `TypeDescriptor.accessibleConstructor?`: the constructor that can be called from outside without
  arguments.
* `TypeDescriptor.duplicateField?`: the first field name that is declared again.
-/

namespace FluentBuilder

/-- A name inside a package; the package is empty or a path of modules. -/
structure QualifiedName where
  package : String
  name : String
  deriving DecidableEq, Repr, Inhabited

/-- The name with its package in front. -/
def QualifiedName.text (q : QualifiedName) : String :=
  if q.package.isEmpty then q.name else q.package ++ "::" ++ q.name

/-- From where a type or member can be reached. -/
inductive Visibility where
  /-- Only from inside the type. -/
  | priv
  /-- From the same package. -/
  | package
  /-- From the same package and from derived types. -/
  | prot
  /-- From everywhere. -/
  | pub
  deriving DecidableEq, Repr

instance : Inhabited Visibility := ⟨.package⟩

/-- Whether a member is out of reach for a type that stands beside its own. -/
def Visibility.isRestricted : Visibility → Bool
  | .priv => true
  | _ => false

/-- A field of a type. -/
structure Field where
  name : String
  type : String
  isStatic : Bool := false
  isFinal : Bool := false
  visibility : Visibility := .package
  /-- Whether the field is explicitly left out of the builder. -/
  excluded : Bool := false
  deriving DecidableEq, Repr, Inhabited

/-- A parameter of a constructor. -/
structure Parameter where
  name : String
  type : String
  deriving DecidableEq, Repr, Inhabited

/-- A way to construct a value: the default of the type, or a function of the type with the given
name. -/
structure Constructor where
  name : Option String := none
  params : List Parameter := []
  visibility : Visibility := .package
  deriving DecidableEq, Repr, Inhabited

/-- The default of a type, which everyone can ask for. -/
def Constructor.ofDefault : Constructor :=
  { visibility := .pub }

/-- A function of the type that takes no arguments. -/
def Constructor.ofFunction (name : String) (visibility : Visibility) : Constructor :=
  { name := some name, visibility }

/-- Whether a constructor can be called from outside without arguments. -/
def Constructor.isAccessible (c : Constructor) : Bool :=
  c.params.isEmpty && !c.visibility.isRestricted

/-- A declared type. -/
structure TypeDescriptor where
  name : QualifiedName
  visibility : Visibility := .package
  isAbstract : Bool := false
  fields : List Field := []
  constructors : List Constructor := []
  deriving DecidableEq, Repr, Inhabited

namespace TypeDescriptor

/-- The first constructor, in declaration order, that can be called from outside without
arguments. -/
def accessibleConstructor? (t : TypeDescriptor) : Option Constructor :=
  t.constructors.find? Constructor.isAccessible

/-- The type with one more field. -/
def addField (t : TypeDescriptor) (field : Field) : TypeDescriptor :=
  { t with fields := t.fields ++ [field] }

/-- The type with one more constructor. -/
def addConstructor (t : TypeDescriptor) (c : Constructor) : TypeDescriptor :=
  { t with constructors := t.constructors ++ [c] }

/-- The type marked as abstract. -/
def markAbstract (t : TypeDescriptor) : TypeDescriptor :=
  { t with isAbstract := true }

/-- The type with the given visibility. -/
def withVisibility (t : TypeDescriptor) (visibility : Visibility) : TypeDescriptor :=
  { t with visibility }

end TypeDescriptor

/-- The first element of a list that occurs before or is in `seen`. -/
def firstRepeated? [BEq α] (seen : List α) : List α → Option α
  | [] => none
  | a :: rest => if seen.contains a then some a else firstRepeated? (a :: seen) rest

/-- The first field name that is declared more than once. -/
def TypeDescriptor.duplicateField? (t : TypeDescriptor) : Option String :=
  firstRepeated? [] (t.fields.map Field.name)

end FluentBuilder
