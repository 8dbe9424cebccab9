import FluentBuilder.Code.Grammar.Nonterminal

/-!
# Rules for attributes and blocks

The content of an attribute is a path without arguments that stands alone, is followed by a group,
or is given a value.  Blocks are here as well, because some of them start with attributes.

* `metaRule`: the content of an attribute, or an entry of its arguments.
* `outerAttributesRule`, `innerAttributesRule`: attributes in front of something and inside it.
* `macroCallRule`: a call of a macro behind its path.
* `Grammar.body`, `Grammar.blockOf`: blocks.
-/

namespace FluentBuilder.Code

/-- A path without arguments, as in the path of a module. -/
def modulePathRule : Parser ModulePath := do
  let leading ← punct? "::"
  let named (s : Tokens) : Bool := atIdentifier s || atPathKeyword s
  expect named
  let first ← anyWord
  let others ← repeatWhile (atPunct "::") do
    punct "::"
    expect named
    anyWord
  return ⟨leading, first :: others⟩

/-- A call of a macro behind its path, from the exclamation mark on. -/
def macroCallRule (path : ModulePath) : Parser MacroCall := do
  punct "!"
  return ⟨path, ← anyGroup⟩

/-- Whether the exclamation mark of a macro call stands at the head of the input. -/
def atMacroMark (input : Tokens) : Bool :=
  atPunct "!" input && !atPunct "!=" input

/-! ### Attributes -/

/-- The value of an attribute behind its equals sign.  A literal that is the last token is read as
such. -/
def metaValueRule (g : Grammar) : Parser Expr := do
  match ← ahead (do let l ← literal; expect List.isEmpty; return l) with
  | some text =>
    let _ ← literal
    return .literal text
  | none =>
    if ← look fun s => atPunct "#" s && atGroup .bracket (s.drop 1) then failure
    else g.expr

/-- The content of an attribute, or an entry of its arguments. -/
def metaRule (g : Grammar) : Parser Meta := do
  let path ← if ← keyword? "unsafe" then pure ⟨false, ["unsafe"]⟩ else modulePathRule
  if ← look fun s => atGroup .paren s || atGroup .bracket s || atGroup .brace s then
    return .list path (← anyGroup)
  else if ← look fun s => atPunct "=" s && !atPunct "==" s && !atPunct "=>" s then
    punct "="
    return .assigned path (← metaValueRule g)
  else return .bare path

/-- An attribute in front of something. -/
def outerAttributeRule (g : Grammar) : Parser Meta := do
  punct "#"
  inside .bracket (metaRule g)

/-- The attributes in front of something. -/
def outerAttributesRule (g : Grammar) : Parser (List Meta) :=
  repeatWhile (atPunct "#") (outerAttributeRule g)

/-- The attributes of the enclosing phrase. -/
def innerAttributesRule (g : Grammar) : Parser (List Meta) :=
  repeatWhile (fun s => atPunct "#" s && atPunct "!" (s.drop 1)) do
    punct "#"
    punct "!"
    inside .bracket (metaRule g)

/-! ### Blocks -/

/-- A block that may start with attributes of the enclosing phrase. -/
def Grammar.body (g : Grammar) : Parser (List Meta × List Statement) :=
  inside .brace do
    let attributes ← innerAttributesRule g
    return (attributes, ← g.statements)

/-- A block as an expression, behind the words that say of which kind it is.  Only some kinds may
start with attributes. -/
def Grammar.blockOf (g : Grammar) (kind : BlockKind) (label : Option String) : Parser Expr := do
  match kind with
  | .attempt => return .block kind label [] (← g.block)
  | .suspended _ => return .block kind label [] (← g.block)
  | _ =>
    let (attributes, statements) ← g.body
    return .block kind label attributes statements

end FluentBuilder.Code
