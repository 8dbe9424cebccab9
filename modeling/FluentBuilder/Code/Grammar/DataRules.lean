import FluentBuilder.Code.Grammar.StatementRules

/-!
# Rules for the data of types

Visibility, generic parameters, where clauses, fields, and the declarations of structs, enums and
unions.

* `visibilityRule`: how far an item can be seen.
* `itemParamsRule`, `conditionsRule`: the generic parameters of an item and their conditions.
* `declarationRule`: a declaration of a type that fills its source.
-/

namespace FluentBuilder.Code

/-! ### Visibility -/

/-- What the parentheses of a restricted visibility hold; `none` when they hold something else. -/
def restrictionRule? : Parser (Option ItemVisibility) := do
  if ← keyword? "in" then
    let path ← modulePathRule
    expect List.isEmpty
    return some (.restricted true path)
  else if ← look fun s => atOneOf ["crate", "self", "super"] s && (s.drop 1).isEmpty then
    return some (.restricted false ⟨false, [← anyWord]⟩)
  else return none

/-- How far an item can be seen.  Parentheses that hold no restriction belong to what follows. -/
def visibilityRule : Parser ItemVisibility := do
  if ← keyword? "pub" then
    match ← get with
    | .group .paren inner :: rest =>
      match ← (fun input => (restrictionRule? inner).map fun r => (r.1, input) : Parser
        (Option ItemVisibility)) with
      | some visibility =>
        set rest
        return visibility
      | none => return .everywhere
    | _ => return .everywhere
  else return .inherited

/-! ### Generic parameters -/

/-- The generic parameters of an item if there are any, and whether a comma closes them. -/
def itemParamsRule (g : Grammar) : Parser (List Generic × Bool) := do
  if ← look (atPunct "<") then genericParamsRule g true else return ([], false)

/-- Bounds linked by plus signs up to a stop. -/
def boundsUntilRule (g : Grammar) (rules : BoundRules) (stop : Tokens → Bool) :
    Parser (List Bound × Bool) :=
  listUntil stop "+" (g.bound rules)

/-- Whether the conditions of a where clause end before the head of the input. -/
def atWhereEnd (input : Tokens) : Bool :=
  input.isEmpty || atGroup .brace input || atPunct "," input || atPunct ";" input
    || (atPunct ":" input && !atPunct "::" input) || atPunct "=" input

/-- A condition of a where clause. -/
def conditionRule (g : Grammar) : Parser Generic := do
  if ← look fun s => atLifetime s && atPunct ":" (s.drop 1) then
    let name ← lifetime
    punct ":"
    let (bounds, trailing) ← listWhile (fun s => atWhereEnd s || atPunct ":" s) "+" lifetime
    return .lifetimeCondition name bounds trailing
  else
    let binder ← binderRule? g
    let type ← g.type true
    punct ":"
    let (bounds, trailing) ← listWhile atWhereEnd "+" (g.bound ⟨false, true⟩)
    return .condition (type.bound binder) bounds trailing

/-- The conditions of a where clause, if there is one, and whether a comma closes them.  Generic
parameters of the clause itself are reserved. -/
def conditionsRule (g : Grammar) : Parser (List Generic × Bool) := do
  if ← keyword? "where" then
    expect fun s => !atGenericParams s
    listWhile atWhereEnd "," (conditionRule g)
  else return ([], false)

/-- Generic parameters and the conditions on them. -/
def Generics.of (params conditions : List Generic × Bool) : Generics :=
  .mk params.1 params.2 conditions.1 conditions.2

/-! ### Fields -/

/-- A field without a name. -/
def unnamedFieldRule (g : Grammar) : Parser Item := do
  let attributes ← outerAttributesRule g
  let visibility ← visibilityRule
  return .marked attributes visibility (.field none (← g.type true))

/-- A field with a name.  A field that is named by an underscore may hold further fields in place of
a type; the fuel bounds how deep they nest. -/
def namedFieldAt (g : Grammar) : Nat → Parser Item
  | 0 => failure
  | fuel + 1 => do
    let attributes ← outerAttributesRule g
    let visibility ← visibilityRule
    let name ← if ← look (atWord "_") then anyWord else identifier
    punct ":"
    if name == "_"
        && (← look fun s => atWord "struct" s
          || (atWord "union" s && atGroup .brace (s.drop 1))) then
      let (_, tokens) ← withTokens do
        let _ ← anyWord
        inside .brace (terminated (namedFieldAt g fuel))
      return .marked attributes visibility (.field (some name) (.verbatim tokens))
    else return .marked attributes visibility (.field (some name) (← g.type true))

mutual
/-- The number of single tokens and groups in a token tree. -/
def TokenTree.size : TokenTree → Nat
  | .leaf _ => 1
  | .group _ inner => tokensSize inner + 1

/-- The number of single tokens and groups in a sequence of token trees. -/
def tokensSize : List TokenTree → Nat
  | [] => 0
  | tree :: rest => tree.size + tokensSize rest
end

/-- The fields between braces, and whether a comma closes them. -/
def namedFieldsRule (g : Grammar) : Parser (List Item × Bool) := do
  let inner ← group .brace
  match parseAll? (terminated (namedFieldAt g (tokensSize inner + 1))) inner with
  | some fields => return fields
  | none => failure

/-- The fields between parentheses, and whether a comma closes them. -/
def unnamedFieldsRule (g : Grammar) : Parser (List Item × Bool) :=
  inside .paren (terminated (unnamedFieldRule g))

/-! ### Declarations -/

/-- A struct behind its keyword, with the where clause in front of its fields or behind. -/
def structRule (g : Grammar) : Parser Item := do
  let name ← identifier
  let params ← itemParamsRule g
  let bare ← look fun s => !atWord "where" s
  let conditions ← conditionsRule g
  if bare && (← look (atGroup .paren)) then
    let (fields, trailing) ← unnamedFieldsRule g
    let conditions ← conditionsRule g
    punct ";"
    return .struct name (.of params conditions) .unnamed fields trailing
  else if ← look (atGroup .brace) then
    let (fields, trailing) ← namedFieldsRule g
    return .struct name (.of params conditions) .named fields trailing
  else
    punct ";"
    return .struct name (.of params conditions) .unit [] false

/-- A variant of an enum.  Its visibility has no meaning. -/
def variantRule (g : Grammar) : Parser Item := do
  let attributes ← outerAttributesRule g
  let _ ← visibilityRule
  let name ← identifier
  let (style, fields, trailing) ←
    if ← look (atGroup .brace) then
      let (fields, trailing) ← namedFieldsRule g
      pure (FieldStyle.named, fields, trailing)
    else if ← look (atGroup .paren) then
      let (fields, trailing) ← unnamedFieldsRule g
      pure (FieldStyle.unnamed, fields, trailing)
    else pure (FieldStyle.unit, [], false)
  let discriminant ← if ← punct? "=" then pure (some (← g.expr)) else pure none
  return .marked attributes .inherited (.variant name style fields trailing discriminant)

/-- An enum behind its keyword. -/
def enumRule (g : Grammar) : Parser Item := do
  let name ← identifier
  let params ← itemParamsRule g
  let conditions ← conditionsRule g
  let (variants, trailing) ← inside .brace (terminated (variantRule g))
  return .enum name (.of params conditions) variants trailing

/-- A union behind its keyword. -/
def unionRule (g : Grammar) : Parser Item := do
  let name ← identifier
  let params ← itemParamsRule g
  let conditions ← conditionsRule g
  let (fields, trailing) ← namedFieldsRule g
  return .union name (.of params conditions) fields trailing

/-- A declaration of a type behind its attributes and visibility. -/
def dataRule (g : Grammar) : Parser Item := do
  if ← keyword? "struct" then structRule g
  else if ← keyword? "enum" then enumRule g
  else
    keyword "union"
    unionRule g

/-- A declaration of a type with its attributes. -/
def declarationRule (g : Grammar) : Parser Item := do
  let attributes ← outerAttributesRule g
  let visibility ← visibilityRule
  return .marked attributes visibility (← dataRule g)

end FluentBuilder.Code
