import FluentBuilder.Code.TreeTokens
import FluentBuilder.Code.LiteralValue

/-!
# What is read off trees

Questions about the outermost form of a phrase, on which its surroundings depend.

* `Path.modulePath?`, `Path.ident?`, `Path.lastName?`: the names in a path.
* `Expr.isComplete`, `Expr.isRange`, `Expr.isComparison`: how an expression combines with what
  follows.
* `Expr.withAttributes`, `Expr.withLeftmostAttributes`: an expression behind attributes.
-/

namespace FluentBuilder.Code

/-! ### Paths -/

/-- Whether a path of a module consists of the given name alone. -/
def ModulePath.isIdent (path : ModulePath) (name : String) : Bool :=
  !path.leading && path.names == [name]

/-- Whether a path of a module is one of the words that name a place by themselves. -/
def ModulePath.isPlace (path : ModulePath) : Bool :=
  ["self", "super", "crate"].any path.isIdent

/-- The path without arguments that a path spells, if no name in it has any. -/
def Path.modulePath? : Path → Option ModulePath
  | .root leading => some ⟨leading, []⟩
  | .plain before name =>
    before.modulePath?.map fun path => { path with names := path.names ++ [name] }
  | _ => none

/-- The single name that a path consists of. -/
def Path.ident? : Path → Option String
  | .plain (.root false) name => some name
  | _ => none

/-- The name of the last segment of a path. -/
def Path.lastName? : Path → Option String
  | .plain _ name => some name
  | .angle _ name _ _ _ => some name
  | .call _ name _ _ _ => some name
  | _ => none

/-- Whether the last name of a path has no arguments; empty angle brackets hold none. -/
def Path.endsBare : Path → Bool
  | .plain _ _ => true
  | .angle _ _ _ [] _ => true
  | _ => false

/-- Whether a path starts at a type. -/
def Path.isQualified : Path → Bool
  | .root _ => false
  | .ofType _ => true
  | .ofTypeAs _ _ => true
  | .plain before _ => before.isQualified
  | .angle before _ _ _ _ => before.isQualified
  | .call before _ _ _ _ => before.isQualified

/-- The content of an attribute: its path. -/
def Meta.path : Meta → ModulePath
  | .bare path => path
  | .list path _ => path
  | .assigned path _ => path

/-! ### Expressions -/

/-- An expression without the attributes in front of it. -/
def Expr.bare : Expr → Expr
  | .attributed _ expr => expr.bare
  | expr => expr

/-- Whether a macro is called with braces. -/
def Expr.isBraceMacro (e : Expr) : Bool :=
  match e.bare with
  | .macroCall c => c.arguments.isBraceGroup
  | _ => false

/-- Whether an expression ends a statement, or the arm of a choice, without further punctuation. -/
def Expr.isComplete (e : Expr) : Bool :=
  match e.bare with
  | .block (.suspended _) _ _ _ => false
  | .block .. => true
  | .conditional .. => true
  | .whileLoop .. => true
  | .forLoop .. => true
  | .choice .. => true
  | _ => false

/-- Whether a semicolon has to follow an expression that does not end its block. -/
def Expr.needsSemicolon (e : Expr) : Bool :=
  !e.isBraceMacro && !e.isComplete

/-- Whether an expression is a range. -/
def Expr.isRange (e : Expr) : Bool :=
  match e.bare with
  | .range .. => true
  | _ => false

/-- Whether an expression is a comparison. -/
def Expr.isComparison : Expr → Bool
  | .binary operator _ _ => ["==", "<=", "!=", ">=", "<", ">"].contains operator
  | _ => false

/-- Whether an entry of a struct literal says where the other fields come from. -/
def Expr.isRemainder : Expr → Bool
  | .remainder (some _) => true
  | _ => false

/-- An expression behind attributes.  Tokens without a form do not carry any. -/
def Expr.withAttributes (attributes : List Meta) (e : Expr) : Expr :=
  match attributes, e with
  | [], _ => e
  | _, .verbatim _ => e
  | _, .attributed more expr => .attributed (attributes ++ more) expr
  | _, _ => .attributed attributes e

/-- An expression whose leftmost operand stands behind attributes. -/
def Expr.withLeftmostAttributes (attributes : List Meta) : Expr → Expr
  | .assign left right => .assign (left.withLeftmostAttributes attributes) right
  | .binary operator left right => .binary operator (left.withLeftmostAttributes attributes) right
  | .cast operand type => .cast (operand.withLeftmostAttributes attributes) type
  | e => e.withAttributes attributes

/-! ### Patterns -/

/-- A pattern behind attributes.  Tokens without a form do not carry any. -/
def Pattern.withAttributes (attributes : List Meta) (p : Pattern) : Pattern :=
  match attributes, p with
  | [], _ => p
  | _, .verbatim _ => p
  | _, _ => .attributed attributes p

/-- A pattern without the attributes in front of it. -/
def Pattern.bare : Pattern → Pattern
  | .attributed _ pattern => pattern.bare
  | pattern => pattern

/-- The name that a pattern binds to what it matches as a whole. -/
def Pattern.name? : Pattern → Option String
  | .binding _ _ name => some name
  | .boundAs _ _ name _ => some name
  | _ => none

/-- Whether a pattern is a range that lacks one of its ends. -/
def Pattern.isOpenRange : Pattern → Bool
  | .value (.range none _ _) => true
  | .value (.range _ _ none) => true
  | _ => false

/-- Whether a pattern stands for the elements that no other pattern matches. -/
def Pattern.isRest : Pattern → Bool
  | .rest => true
  | _ => false

/-- Whether a parameter is a receiver. -/
def Pattern.isReceiver (p : Pattern) : Bool :=
  match p.bare with
  | .receiver .. => true
  | _ => false

/-- Whether a parameter stands for any number of arguments. -/
def Pattern.isVariadic (p : Pattern) : Bool :=
  match p.bare with
  | .variadic => true
  | .namedVariadic _ => true
  | _ => false

end FluentBuilder.Code
