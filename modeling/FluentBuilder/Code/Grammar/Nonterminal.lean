import FluentBuilder.Code.Parser
import FluentBuilder.Code.ExprShape

/-!
# The recursive nonterminals

The grammar of source text is recursive through a handful of nonterminals.  Each rule is written as
a function of a `Grammar`, the parsers for these nonterminals one level of nesting further down, so
that a rule is not recursive itself.  The levels are tied together where the rules are complete.
-/

namespace FluentBuilder.Code

/-- How tightly an operator binds; a greater number binds tighter. -/
abbrev Precedence := Nat

/-- What may stand among bounds. -/
structure BoundRules where
  /-- Captured parameters in the form `use<…>`. -/
  captures : Bool
  /-- Traits that have to be constant. -/
  const : Bool
  deriving Inhabited

/-- The parsers for the recursive nonterminals. -/
structure Grammar where
  /-- A type; the flag says whether a `+` continues it. -/
  type : Bool → Parser TypeExpr
  /-- A single bound. -/
  bound : BoundRules → Parser Bound
  /-- An operand with its operators in front and its calls and accesses behind.  The flag says
  whether a struct literal may start with its brace. -/
  operand : Bool → Parser Expr
  /-- The continuation of an expression by operators that bind at least as tightly as given. -/
  operators : Bool → Precedence → Expr → Parser Expr
  /-- An expression that ends early if it is complete: a statement or the arm of a choice. -/
  statementExpr : Parser Expr
  /-- A pattern without alternatives. -/
  pattern : Parser Pattern
  /-- The statements that fill a block. -/
  statements : Parser (List Statement)
  /-- An item. -/
  item : Parser Item
  /-- The tree of an import; the flag says whether trees in braces may start with a double colon.
  There is no tree for an import in which one does. -/
  useTree : Bool → Parser (Option UseTree)

/-- The level below which nothing parses. -/
def Grammar.bottom : Grammar where
  type := fun _ => failure
  bound := fun _ => failure
  operand := fun _ => failure
  operators := fun _ _ _ => failure
  statementExpr := failure
  pattern := failure
  statements := failure
  item := failure
  useTree := fun _ => failure

/-- Any expression; the flag says whether a struct literal may start with its brace. -/
def Grammar.exprWith (g : Grammar) (allowStruct : Bool) : Parser Expr := do
  let left ← g.operand allowStruct
  g.operators allowStruct 0 left

/-- Any expression. -/
def Grammar.expr (g : Grammar) : Parser Expr :=
  g.exprWith true

/-- A block without inner attributes. -/
def Grammar.block (g : Grammar) : Parser (List Statement) :=
  inside .brace g.statements

end FluentBuilder.Code
