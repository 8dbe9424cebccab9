import FluentBuilder.Code.Grammar.ExprRules

/-!
# Rules for statements

* `statementRule`: one statement.
* `statementsRule`: the statements that fill a block.
-/

namespace FluentBuilder.Code

/-- Whether a macro is called at the head of the input, and what follows the exclamation mark. -/
def afterMacroPath? (input : Tokens) : Option Tokens :=
  match modulePathRule input with
  | some (_, rest) => if atPunct "!" rest then some (rest.drop 1) else none
  | none => none

/-- Whether a macro that is an item of its own is called: a name stands behind its exclamation
mark. -/
def atItemMacro (input : Tokens) : Bool :=
  (afterMacroPath? input).any fun s => atIdentifier s || atWord "try" s

/-- Whether a macro is called with braces, and its value is not used further. -/
def atBraceMacro (input : Tokens) : Bool :=
  (afterMacroPath? input).any fun s =>
    atGroup .brace s && !(atAccess (s.drop 1) || atPunct "?" (s.drop 1))

/-- Whether an item stands at the head of the input behind its attributes. -/
def atItem (input : Tokens) : Bool :=
  let next := input.drop 1
  let third := input.drop 2
  atOneOf ["pub", "extern", "use", "fn", "mod", "type", "struct", "enum", "trait", "impl",
    "macro"] input
    || (atWord "crate" input && !atPunct "::" next)
    || (atWord "static" input && (atWord "mut" next || atIdentifier next))
    || (atWord "const" input
      && !(atGroup .brace next || atOneOf ["static", "move"] next || atPunct "|" next
        || (atWord "async" next && !atOneOf ["unsafe", "extern", "fn"] third)))
    || (atWord "unsafe" input && !atGroup .brace next)
    || (atWord "async" input && atOneOf ["unsafe", "extern", "fn"] next)
    || (atWord "union" input && atIdentifier next)
    || (atWord "auto" input && atWord "trait" next)
    || (atWord "default" input && atOneOf ["unsafe", "impl"] next)
    || atItemMacro input

/-- Whether the last of some tokens is a group in braces. -/
def endsWithBrace (input : Tokens) : Bool :=
  input.getLast?.any TokenTree.isBraceGroup

/-- A declaration of local names behind its attributes. -/
def declarationStatementRule (g : Grammar) (attributes : List Meta) : Parser Statement := do
  keyword "let"
  let pattern ← g.pattern
  let pattern ← if ← punct? ":" then pure (.typed pattern (← g.type true)) else pure pattern
  if ← punct? "=" then
    let (value, tokens) ← withTokens g.expr
    let diverges ← if endsWithBrace tokens then pure false else keyword? "else"
    let otherwise ← if diverges then g.block else pure []
    punct ";"
    return .declare attributes pattern (some value) diverges otherwise
  else
    punct ";"
    return .declare attributes pattern none false []

/-- A macro called with braces as a statement, behind its attributes. -/
def braceMacroRule (attributes : List Meta) : Parser Statement := do
  let path ← modulePathRule
  let call ← macroCallRule path
  return .macroCall attributes call (← punct? ";")

/-- An expression with its semicolon as a statement: a macro call is one by itself if it ends like
one. -/
def Statement.ofExpr (e : Expr) (semicolon : Bool) : Statement :=
  match e with
  | .macroCall call =>
    if semicolon || call.arguments.isBraceGroup then .macroCall [] call semicolon else .expr e false
  | .attributed attributes (.macroCall call) =>
    if semicolon || call.arguments.isBraceGroup then .macroCall attributes call semicolon
    else .expr e false
  | e => .expr e semicolon

/-- An expression as a statement, behind its attributes. -/
def exprStatementRule (g : Grammar) (attributes : List Meta) : Parser Statement := do
  let e ← g.statementExpr
  let semicolon ← punct? ";"
  if !semicolon && e.needsSemicolon && (← look fun s => !s.isEmpty) then failure
  return .ofExpr (e.withLeftmostAttributes attributes) semicolon

/-- One statement. -/
def statementRule (g : Grammar) : Parser Statement := do
  let before ← get
  let attributes ← outerAttributesRule g
  if ← look atBraceMacro then braceMacroRule attributes
  else if ← look (atWord "let") then declarationStatementRule g attributes
  else if ← look atItem then
    set before
    return .item (← g.item)
  else exprStatementRule g attributes

/-- The statements that fill a block; single semicolons count as statements. -/
def statementsRule (g : Grammar) : Parser (List Statement) :=
  repeatWhile (fun s => !s.isEmpty) do
    if ← punct? ";" then return .empty else statementRule g

end FluentBuilder.Code
