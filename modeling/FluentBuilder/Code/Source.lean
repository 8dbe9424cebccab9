import FluentBuilder.Code.Grammar.ItemRules
import FluentBuilder.Code.Declaration

/-!
# Reading source text

The rules of the grammar tied together, and the kinds of text that are read with them.

* `Grammar.level`: the grammar down to a given depth of nesting.
* `TypeExpr.read?`, `Path.read?`, `TypeDeclaration.read?`, `sourceItems?`: what a text as a whole
  spells.
* `Meta.readList?`, `Path.readList?`: the entries of an attribute's arguments.
-/

namespace FluentBuilder.Code

/-- The grammar in which nonterminals nest at most as deep as given. -/
def Grammar.level : Nat → Grammar
  | 0 => Grammar.bottom
  | depth + 1 =>
    { type := fun allowPlus input => typeRule (Grammar.level depth) allowPlus input
      bound := fun rules input => boundRule (Grammar.level depth) rules input
      operand := fun allowStruct input => operandRule (Grammar.level depth) allowStruct input
      operators := fun allowStruct base left input =>
        operatorsRule (Grammar.level depth) allowStruct base left input
      statementExpr := fun input => statementExprRule (Grammar.level depth) input
      pattern := fun input => patternRule (Grammar.level depth) input
      statements := fun input => statementsRule (Grammar.level depth) input
      item := fun input => itemRule (Grammar.level depth) input
      useTree := fun allowRoot input => useTreeRule (Grammar.level depth) allowRoot input }

/-- A depth that no reading of the given tokens exceeds: on the way from one token to the next at
most six nonterminals nest. -/
def depthOf (input : Tokens) : Nat :=
  6 * tokensSize input + 16

/-- The reading of a whole sequence of tokens. -/
def readTokens? (rule : Grammar → Parser α) (input : Tokens) : Option α :=
  parseAll? (rule (Grammar.level (depthOf input))) input

/-- The reading of a whole text. -/
def readText? (rule : Grammar → Parser α) (text : List Char) : Option α := do
  readTokens? rule (← tokens? text)

/-- The type that a text spells. -/
def TypeExpr.read? (text : String) : Option TypeExpr :=
  readText? (fun g => g.type true) text.toList

/-- The path that a text spells, as it may stand in a type. -/
def Path.read? (text : String) : Option Path :=
  readText? (fun g => pathRule g false) text.toList

/-- The declaration of a type that a text spells. -/
def TypeDeclaration.read? (text : String) : Option TypeDeclaration := do
  (← readText? declarationRule text.toList).declaration?

/-- The entries of an attribute's arguments. -/
def Meta.readList? (arguments : Tokens) : Option (List Meta) :=
  (readTokens? (fun g => terminated (metaRule g)) arguments).map (·.1)

/-- The paths in an attribute's arguments. -/
def Path.readList? (arguments : Tokens) : Option (List Path) :=
  (readTokens? (fun g => terminated (pathRule g false)) arguments).map (·.1)

/-- A file without its first line, if that line names an interpreter rather than opening an
attribute. -/
def dropInterpreterLine (text : List Char) : List Char :=
  match text with
  | '#' :: '!' :: rest =>
    match skipBlanks (rest.length + 1) rest with
    | '[' :: _ => text
    | _ => text.dropWhile (· != '\n')
  | _ => text

/-- The items of a file. -/
def sourceItems? (text : String) : Option (List Item) :=
  readText? sourceFileRule (dropInterpreterLine (dropByteOrderMark text.toList))

end FluentBuilder.Code
