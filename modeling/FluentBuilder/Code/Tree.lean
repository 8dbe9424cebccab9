import FluentBuilder.Code.Token

/-!
# Trees of source text

The phrases of source text as trees.  Phrases of every sort contain phrases of the others: a type
may hold the length of an array, an expression may hold a block, and a block may hold items with
types.  So the sorts are declared together.

* `TypeExpr`, `Path`, `Bound`, `Generic`: types and what they are made of.
* `Expr`, `Pattern`, `Statement`: what stands inside the bodies of functions.
* `Item`, `Meta`: items, their members, and attributes.

A list inside brackets comes with a mark that says whether a comma closed it, since a written
trailing comma belongs to the text of a phrase.  A phrase in a form that no stable text has is kept
as its tokens, in the constructor `verbatim` of its sort.
-/

namespace FluentBuilder.Code

/-! ### Parts without phrases inside -/

/-- A path without arguments, as in the path of a module. -/
structure ModulePath where
  leading : Bool
  names : List String
  deriving DecidableEq, Repr, Inhabited

/-- A call of a macro: its path and the group behind the exclamation mark. -/
structure MacroCall where
  path : ModulePath
  arguments : TokenTree
  deriving Inhabited

/-- The visibility written on an item or field. -/
inductive ItemVisibility where
  | inherited
  | everywhere
  /-- Visible in a part of the package; the mark says whether the word `in` stands before the
  path. -/
  | restricted (isIn : Bool) (path : ModulePath)
  deriving DecidableEq, Repr, Inhabited

/-- The name or position of a field. -/
inductive Member where
  | named (name : String)
  | position (index : Nat)
  deriving DecidableEq, Repr, Inhabited

/-- The convention by which a function is called. -/
inductive Linkage where
  | native
  | foreign (name : Option String)
  deriving DecidableEq, Repr, Inhabited

/-- What the words in front of a block make of it. -/
inductive BlockKind where
  | plain
  | unguarded
  | constant
  | attempt
  | suspended (isMove : Bool)
  | loop
  deriving DecidableEq, Repr, Inhabited

/-- The words in front of the parameters of a closure. -/
structure ClosureHead where
  isConst : Bool
  isStatic : Bool
  isAsync : Bool
  isMove : Bool
  deriving DecidableEq, Repr, Inhabited

/-- The words in front of the parameters of a function, and its name. -/
structure FunctionHead where
  isDefault : Bool
  isConst : Bool
  isAsync : Bool
  isUnsafe : Bool
  linkage : Linkage
  name : String
  deriving DecidableEq, Repr, Inhabited

/-- How the fields of a struct or of a variant are written. -/
inductive FieldStyle where
  | named
  | unnamed
  | unit
  deriving DecidableEq, Repr, Inhabited

/-- The tree of an import. -/
inductive UseTree where
  | path (name : String) (rest : UseTree)
  | name (name : String)
  | rename (name newName : String)
  | glob
  | group (trees : List UseTree) (trailing : Bool)
  deriving Inhabited

/-! ### Phrases -/

mutual
/-- A type. -/
inductive TypeExpr where
  | path (path : Path)
  | slice (element : TypeExpr)
  | array (element : TypeExpr) (length : Expr)
  | tuple (elements : List TypeExpr) (trailing : Bool)
  | paren (inner : TypeExpr)
  | reference (lifetime : Option String) (mutable : Bool) (target : TypeExpr)
  | pointer (mutable : Bool) (target : TypeExpr)
  | never
  | infer
  | function (isUnsafe : Bool) (linkage : Linkage) (params : List Pattern) (trailing : Bool)
      (output : Option TypeExpr)
  /-- A type behind a `for<…>` binder. -/
  | forAll (params : List Generic) (trailing : Bool) (type : TypeExpr)
  | traitObject (dynamic : Bool) (bounds : List Bound) (trailing : Bool)
  | implTrait (bounds : List Bound) (trailing : Bool)
  | macroCall (call : MacroCall)
  | verbatim (tokens : Tokens)

/-- A path: where it starts, and names with arguments one behind the other. -/
inductive Path where
  /-- The start of a path without a type, `leading` when a double colon precedes the first name. -/
  | root (leading : Bool)
  /-- The start `<T>`. -/
  | ofType (type : TypeExpr)
  /-- The start `<T as P>`. -/
  | ofTypeAs (type : TypeExpr) (asTrait : Path)
  /-- A name without arguments. -/
  | plain (before : Path) (name : String)
  /-- A name with arguments between angle brackets. -/
  | angle (before : Path) (name : String) (turbofish : Bool) (arguments : List Generic)
    (trailing : Bool)
  /-- A name with the parameters and the result of a function. -/
  | call (before : Path) (name : String) (inputs : List TypeExpr) (trailing : Bool)
    (output : Option TypeExpr)

/-- A bound of a trait object, an opaque type, a parameter or a condition. -/
inductive Bound where
  | lifetime (name : String)
  | trait (maybe : Bool) (path : Path)
  | forAll (params : List Generic) (trailing : Bool) (bound : Bound)
  | paren (inner : Bound)
  /-- Captured parameters in the form `use<…>`. -/
  | captures (names : List Token) (trailing : Bool)
  | verbatim (tokens : Tokens)

/-- An argument between angle brackets, a parameter of an item or binder, or a condition of a where
clause. -/
inductive Generic where
  | lifetime (name : String)
  | type (type : TypeExpr)
  | const (value : Expr)
  /-- The argument `Item = T`. -/
  | equation (name : Path) (type : TypeExpr)
  /-- The argument `ITEM = value`. -/
  | constEquation (name : Path) (value : Expr)
  /-- The argument `Item: B`. -/
  | constraint (name : Path) (bounds : List Bound) (trailing : Bool)
  | lifetimeParam (name : String) (bounds : List String) (trailing : Bool)
  | typeParam (name : String) (bounds : List Bound) (trailing : Bool) (default : Option TypeExpr)
  | constParam (name : String) (type : TypeExpr) (default : Option Expr)
  /-- A parameter behind its attributes. -/
  | attributed (attributes : List Meta) (param : Generic)
  | lifetimeCondition (name : String) (bounds : List String) (trailing : Bool)
  | condition (type : TypeExpr) (bounds : List Bound) (trailing : Bool)

/-- The generic parameters of an item and its where clause. -/
inductive Generics where
  | mk (params : List Generic) (trailing : Bool) (conditions : List Generic)
    (conditionsTrailing : Bool)

/-- The content of an attribute, or an entry of its arguments. -/
inductive Meta where
  | bare (path : ModulePath)
  | list (path : ModulePath) (arguments : TokenTree)
  | assigned (path : ModulePath) (value : Expr)

/-- An expression. -/
inductive Expr where
  /-- A literal in the spelling of the source; the sign of a negative number belongs to it in a
  pattern. -/
  | literal (text : String)
  | path (path : Path)
  | infer
  | unary (operator : Char) (operand : Expr)
  | reference (mutable : Bool) (operand : Expr)
  /-- The address of a place, as in `&raw const x`. -/
  | address (mutable : Bool) (operand : Expr)
  | binary (operator : String) (left right : Expr)
  | assign (left right : Expr)
  | cast (operand : Expr) (type : TypeExpr)
  | range (start : Option Expr) (closed : Bool) (stop : Option Expr)
  | paren (inner : Expr)
  | tuple (elements : List Expr) (trailing : Bool)
  | array (elements : List Expr) (trailing : Bool)
  | repetition (element count : Expr)
  | call (function : Expr) (arguments : List Expr) (trailing : Bool)
  | methodCall (receiver : Expr) (method : Path) (arguments : List Expr) (trailing : Bool)
  | field (base : Expr) (member : Member)
  | await (base : Expr)
  /-- An expression with a question mark behind it. -/
  | attempt (base : Expr)
  | index (base position : Expr)
  /-- A struct literal, whose fields are given by `fieldValue` and `remainder`. -/
  | struct (path : Path) (fields : List Expr) (trailing : Bool)
  | fieldValue (member : Member) (value : Option Expr)
  /-- The last entry of a struct literal, which names where the other fields come from. -/
  | remainder (base : Option Expr)
  | macroCall (call : MacroCall)
  | closure (head : ClosureHead) (inputs : List Pattern) (trailing : Bool)
    (output : Option TypeExpr)
      (body : Expr)
  /-- A closure behind a `for<…>` binder. -/
  | forAll (params : List Generic) (trailing : Bool) (closure : Expr)
  /-- A condition that binds names, as in `let p = e`. -/
  | binding (pattern : Pattern) (value : Expr)
  | breakOut (label : Option String) (value : Option Expr)
  | continueLoop (label : Option String)
  | returnValue (value : Option Expr)
  | yieldValue (value : Option Expr)
  /-- A block with the attributes inside its braces. -/
  | block (kind : BlockKind) (label : Option String) (attributes : List Meta)
    (statements : List Statement)
  | conditional (condition : Expr) (body : List Statement) (otherwise : Option Expr)
  | whileLoop (label : Option String) (condition : Expr) (attributes : List Meta)
    (body : List Statement)
  | forLoop (label : Option String) (pattern : Pattern) (values : Expr) (attributes : List Meta)
      (body : List Statement)
  /-- A choice by patterns, whose arms are given by `Statement.arm`. -/
  | choice (value : Expr) (attributes : List Meta) (arms : List Statement)
  /-- An expression behind its attributes. -/
  | attributed (attributes : List Meta) (expr : Expr)
  | verbatim (tokens : Tokens)

/-- A pattern, or a parameter of a function. -/
inductive Pattern where
  | wild
  | rest
  /-- A literal, a path, a constant block, a macro call or a range. -/
  | value (expr : Expr)
  | binding (byRef mutable : Bool) (name : String)
  /-- A name that is bound to what another pattern matches. -/
  | boundAs (byRef mutable : Bool) (name : String) (inner : Pattern)
  | alternatives (leading : Bool) (cases : List Pattern)
  | paren (inner : Pattern)
  | reference (mutable : Bool) (inner : Pattern)
  | slice (elements : List Pattern) (trailing : Bool)
  | tuple (elements : List Pattern) (trailing : Bool)
  | tupleStruct (path : Path) (elements : List Pattern) (trailing : Bool)
  | struct (path : Path) (fields : List Pattern) (trailing : Bool)
  /-- A field of a struct pattern that is matched by a pattern of its own. -/
  | field (member : Member) (pattern : Pattern)
  | typed (pattern : Pattern) (type : TypeExpr)
  /-- A parameter of a function type without a name. -/
  | unnamed (type : TypeExpr)
  /-- The value on which a method is called; `borrow` holds the lifetime of the reference to it. -/
  | receiver (borrow : Option (Option String)) (mutable : Bool) (type : Option TypeExpr)
  /-- The `...` behind the parameters. -/
  | variadic
  | namedVariadic (pattern : Pattern)
  /-- A pattern or parameter behind its attributes. -/
  | attributed (attributes : List Meta) (pattern : Pattern)
  | verbatim (tokens : Tokens)

/-- What fills a block, or an arm of a choice. -/
inductive Statement where
  /-- A declaration of names; `diverges` says whether an `else` with a block follows the value. -/
  | declare (attributes : List Meta) (pattern : Pattern) (value : Option Expr) (diverges : Bool)
      (otherwise : List Statement)
  | item (item : Item)
  | expr (expr : Expr) (semicolon : Bool)
  | macroCall (attributes : List Meta) (call : MacroCall) (semicolon : Bool)
  /-- A semicolon by itself. -/
  | empty
  | arm (attributes : List Meta) (pattern : Pattern) (guard : Option Expr) (body : Expr)
    (comma : Bool)

/-- An item of a file, module or block, or a member of another item. -/
inductive Item where
  /-- An item or member behind its attributes and its visibility. -/
  | marked (attributes : List Meta) (visibility : ItemVisibility) (item : Item)
  | externCrate (name : String) (newName : Option String)
  | use (leading : Bool) (tree : UseTree)
  | static (mutable : Bool) (name : String) (type : TypeExpr) (value : Option Expr)
  | const (isDefault : Bool) (name : String) (type : TypeExpr) (value : Option Expr)
  /-- A function; `attributes` stand inside the braces of its body, if it has one. -/
  | function (head : FunctionHead) (generics : Generics) (params : List Pattern) (trailing : Bool)
      (output : Option TypeExpr) (hasBody : Bool) (attributes : List Meta) (body : List Statement)
  /-- A type alias; `early` says whether the where clause stands in front of the type. -/
  | typeAlias (isDefault : Bool) (name : String) (generics : Generics) (bounds : List Bound)
    (trailing : Bool)
      (early : Bool) (value : Option TypeExpr)
  | module (isUnsafe : Bool) (name : String) (hasBody : Bool) (attributes : List Meta)
    (items : List Item)
  | foreign (isUnsafe : Bool) (linkage : Linkage) (attributes : List Meta) (items : List Item)
  | struct (name : String) (generics : Generics) (style : FieldStyle) (fields : List Item)
    (trailing : Bool)
  | enum (name : String) (generics : Generics) (variants : List Item) (trailing : Bool)
  | union (name : String) (generics : Generics) (fields : List Item) (trailing : Bool)
  | trait (isUnsafe isAuto : Bool) (name : String) (generics : Generics) (bounds : List Bound)
      (trailing : Bool) (attributes : List Meta) (items : List Item)
  | traitAlias (name : String) (generics : Generics) (bounds : List Bound) (trailing : Bool)
  /-- An implementation, of a trait if the type of one is given. -/
  | impl (isDefault isUnsafe : Bool) (generics : Generics) (negative : Bool)
    (asTrait : Option TypeExpr)
      (self : TypeExpr) (attributes : List Meta) (items : List Item)
  | macroCall (call : MacroCall) (name : Option String)
  | field (name : Option String) (type : TypeExpr)
  | variant (name : String) (style : FieldStyle) (fields : List Item) (trailing : Bool)
      (discriminant : Option Expr)
  | verbatim (tokens : Tokens)
end

instance : Inhabited TypeExpr := ⟨.never⟩
instance : Inhabited Path := ⟨.root false⟩
instance : Inhabited Bound := ⟨.lifetime ""⟩
instance : Inhabited Generic := ⟨.lifetime ""⟩
instance : Inhabited Generics := ⟨.mk [] false [] false⟩
instance : Inhabited Meta := ⟨.bare default⟩
instance : Inhabited Expr := ⟨.infer⟩
instance : Inhabited Pattern := ⟨.wild⟩
instance : Inhabited Statement := ⟨.empty⟩
instance : Inhabited Item := ⟨.verbatim []⟩

end FluentBuilder.Code
