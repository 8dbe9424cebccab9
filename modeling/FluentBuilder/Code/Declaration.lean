import FluentBuilder.Code.ExprShape

/-!
# Declarations of types

What an item declares if it is a struct, an enum or a union: the view of an item that descriptions
start from.

* `Item.declaration?`: the declaration that an item is.
* `Item.field?`: the field that a member is.
-/

namespace FluentBuilder.Code

/-- A field of a struct; fields of tuples have no name. -/
structure FieldItem where
  attributes : List Meta
  visibility : ItemVisibility
  name : Option String
  type : TypeExpr
  deriving Inhabited

/-- The fields of a struct. -/
inductive Fields where
  | named (fields : List FieldItem)
  | unnamed (fields : List FieldItem)
  | unit
  deriving Inhabited

/-- What kind of type is declared. -/
inductive DeclaredData where
  | struct (fields : Fields)
  | enum
  | union
  deriving Inhabited

/-- A declaration of a type with its attributes. -/
structure TypeDeclaration where
  attributes : List Meta
  visibility : ItemVisibility
  name : String
  /-- Whether the type has parameters. -/
  generic : Bool
  data : DeclaredData
  deriving Inhabited

/-- The field that a member is, if it is one. -/
def Item.field? : Item → Option FieldItem
  | .marked attributes visibility (.field name type) => some ⟨attributes, visibility, name, type⟩
  | _ => none

/-- The fields that members are, written in the given style. -/
def FieldStyle.fields (style : FieldStyle) (members : List Item) : Fields :=
  match style with
  | .named => .named (members.filterMap Item.field?)
  | .unnamed => .unnamed (members.filterMap Item.field?)
  | .unit => .unit

/-- Whether there are generic parameters. -/
def Generics.hasParams : Generics → Bool
  | .mk params _ _ _ => !params.isEmpty

/-- The declaration that an item is, if it declares a type. -/
def Item.declaration? : Item → Option TypeDeclaration
  | .marked attributes visibility (.struct name generics style fields _) =>
    some ⟨attributes, visibility, name, generics.hasParams, .struct (style.fields fields)⟩
  | .marked attributes visibility (.enum name generics _ _) =>
    some ⟨attributes, visibility, name, generics.hasParams, .enum⟩
  | .marked attributes visibility (.union name generics _ _) =>
    some ⟨attributes, visibility, name, generics.hasParams, .union⟩
  | _ => none

end FluentBuilder.Code
