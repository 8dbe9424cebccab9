import FluentBuilder.Layout.Document
import FluentBuilder.Code.ExprShape

/-!
# Where braces and semicolons are written

Whether an expression brings its own brackets, may stand where a statement stands, or breaks in
front of a brace decides how the text around it is laid out.

* `Expr.isBlocklike`: an expression in brackets of its own.
* `Expr.startsStatement`: an expression that reads the same at the start of a statement.
* `Expr.wrapsBeforeBrace`: a condition behind which the brace gets a line of its own when it breaks.
* `Expr.addsSemicolon`, `Expr.dropsSemicolon`: semicolons at the end of statements.
-/

namespace FluentBuilder.Code

open FluentBuilder.Layout

/-- Whether an expression is a name so short that an access behind it stays on its line. -/
def Expr.isShortName : Expr → Bool
  | .path name => name.ident?.any fun name => decide ((name.utf8ByteSize : Int) ≤ indentStep)
  | _ => false

/-- Whether an expression is a literal that stands close to its neighbours in a list. -/
def Expr.isCompact (e : Expr) : Bool :=
  match e.bare with
  | .literal text => isSimpleLiteral text
  | _ => false

/-- Whether the text of an expression ends in a point because it is a number without a fraction. -/
def Expr.endsInPoint : Expr → Bool
  | .literal text => text.endsWith "."
  | _ => false

/-- Whether the text of an expression starts with a point because it is a range without a start. -/
def Expr.startsWithPoint : Expr → Bool
  | .range none _ _ => true
  | _ => false

/-- Whether an expression brings its own brackets. -/
def Expr.isBlocklike : Expr → Bool
  | .array .. => true
  | .block .loop _ _ _ => false
  | .block .. => true
  | .closure .. => true
  | .forAll .. => true
  | .struct .. => true
  | .tuple .. => true
  | _ => false

/-- Whether an expression stands as the body of a closure without braces when it does not fit on the
line. -/
def Expr.isClosureBody (e : Expr) : Bool :=
  match e with
  | .choice .. => true
  | .call .. => true
  | e => e.isBlocklike

/-- Whether an expression reads the same where a statement starts. -/
def Expr.startsStatement : Expr → Bool
  | .assign left _ => left.startsStatement
  | .await base => base.startsStatement
  | .attempt base => base.startsStatement
  | .field base _ => base.startsStatement
  | .methodCall base _ _ _ => base.startsStatement
  | .binary _ left _ => left.needsSemicolon && left.startsStatement
  | .call function _ _ => function.needsSemicolon && function.startsStatement
  | .cast operand _ => operand.needsSemicolon && operand.startsStatement
  | .index base _ => base.needsSemicolon && base.startsStatement
  | .range (some start) _ _ => start.needsSemicolon && start.startsStatement
  | .attributed _ e => e.startsStatement
  | _ => true

/-- Whether a condition breaks so that the brace behind it gets a line of its own. -/
def Expr.wrapsBeforeBrace : Expr → Bool
  | .assign .. => true
  | .await _ => true
  | .binary .. => true
  | .cast .. => true
  | .field .. => true
  | .index .. => true
  | .methodCall .. => true
  | .breakOut _ (some value) => value.wrapsBeforeBrace
  | .call function _ _ => function.wrapsBeforeBrace
  | .binding _ value => value.wrapsBeforeBrace
  | .paren inner => inner.wrapsBeforeBrace
  | .range _ _ (some stop) => stop.wrapsBeforeBrace
  | .address _ operand => operand.wrapsBeforeBrace
  | .reference _ operand => operand.wrapsBeforeBrace
  | .returnValue (some value) => value.wrapsBeforeBrace
  | .attempt base => base.wrapsBeforeBrace
  | .unary _ operand => operand.wrapsBeforeBrace
  | .yieldValue (some value) => value.wrapsBeforeBrace
  | .attributed _ e => e.wrapsBeforeBrace
  | _ => false

/-- The operators that change their left operand. -/
def assigningOperators : List String :=
  ["+=", "-=", "*=", "/=", "%=", "^=", "&=", "|=", "<<=", ">>="]

/-- Whether an expression that ends a block gets a semicolon. -/
def Expr.addsSemicolon (e : Expr) : Bool :=
  match e.bare with
  | .assign .. => true
  | .breakOut .. => true
  | .continueLoop _ => true
  | .returnValue _ => true
  | .yieldValue _ => true
  | .binary operator _ _ => assigningOperators.contains operator
  | _ => false

/-- Whether the semicolon behind an expression is not written: a loop has no value, and neither has
a conditional without a last branch. -/
def Expr.dropsSemicolon : Expr → Bool
  | .forLoop .. => true
  | .whileLoop .. => true
  | .conditional _ _ (some otherwise) => otherwise.dropsSemicolon
  | .conditional _ _ none => true
  | .attributed _ e => e.dropsSemicolon
  | _ => false

/-- Whether a pattern is so plain that alternatives of its kind fill their lines. -/
def Pattern.isPlainCase (p : Pattern) : Bool :=
  match p.bare with
  | .wild => true
  | .value (.literal _) => true
  | _ => false

end FluentBuilder.Code
