import FluentBuilder.Code.Grammar.FunctionRules

/-!
# Rules for items

An item is read behind its attributes and its visibility.  Some forms of items are read although no
stable text has them; for these there is no tree, and they are kept as tokens.

* `itemRule`: an item with its attributes.
* `useTreeRule`: the tree of an import.
* `sourceFileRule`: the items of a file.
-/

namespace FluentBuilder.Code

/-! ### Parts shared by items -/

/-- A name or an underscore. -/
def nameOrUnderscore : Parser String := do
  if ← look (atWord "_") then anyWord else identifier

/-- Whether a macro call can start at the head of the input. -/
def atMacroStart (input : Tokens) : Bool :=
  atIdentifier input || atOneOf ["self", "super", "crate"] input || atPunct "::" input

/-- A macro call as an item: a call without braces ends with a semicolon. -/
def macroItemRule (named : Bool) : Parser Item := do
  let path ← modulePathRule
  punct "!"
  let name ←
    if named && (← look fun s => atIdentifier s || atWord "try" s) then pure (some (← anyWord))
    else pure none
  let arguments ← anyGroup
  if !arguments.isBraceGroup then punct ";"
  return .macroCall ⟨path, arguments⟩ name

/-- An item behind its attributes and visibility, or its tokens if there is no tree for it. -/
def markedRule (g : Grammar) (p : ItemVisibility → Parser (Option Item)) : Parser Item := do
  let (item?, tokens) ← withTokens do
    let attributes ← outerAttributesRule g
    let visibility ← visibilityRule
    return (← p visibility).map (Item.marked attributes visibility)
  return item?.getD (.verbatim tokens)

/-- The items inside the braces of another item, behind its inner attributes. -/
def itemBody (g : Grammar) (p : Parser Item) : Parser (List Meta × List Item) :=
  inside .brace do
    let attributes ← innerAttributesRule g
    return (attributes, ← repeatWhile (fun s => !s.isEmpty) p)

/-- The value behind an equals sign if one is there. -/
def initialRule (g : Grammar) : Parser (Option Expr) := do
  if ← punct? "=" then return some (← g.expr) else return none

/-- A constant, from its keyword on.  There is no tree for one with generic parameters or
conditions, and only some places have one without a value. -/
def constRule (g : Grammar) (isDefault needsValue : Bool) : Parser (Option Item) := do
  keyword "const"
  let name ← nameOrUnderscore
  let isGeneric ← look (atPunct "<")
  let _ ← itemParamsRule g
  punct ":"
  let type ← g.type true
  let value ← initialRule g
  let isConditional ← look (atWord "where")
  let _ ← conditionsRule g
  punct ";"
  if isGeneric || isConditional || (needsValue && value.isNone) then return none
  else return some (.const isDefault name type value)

/-- A static variable as an item, from its keyword on.  There is no tree for one without a type or
value. -/
def staticRule (g : Grammar) : Parser (Option Item) := do
  keyword "static"
  let mutable ← keyword? "mut"
  let name ← identifier
  if ← punct? "=" then
    let _ ← g.expr
    punct ";"
    return none
  else
    punct ":"
    let type ← g.type true
    if ← punct? ";" then return none
    else
      punct "="
      let value ← g.expr
      punct ";"
      return some (.static mutable name type (some value))

/-- The places of the where clause of a type alias. -/
inductive WherePlace where
  | beforeEquals
  | afterEquals
  | both
  deriving DecidableEq

/-- A type alias, from its keyword on; says as well whether a colon introduces bounds. -/
def aliasRule (g : Grammar) (isDefault : Bool) (place : WherePlace) : Parser (Item × Bool) := do
  keyword "type"
  let name ← identifier
  let params ← itemParamsRule g
  let colon ← punct? ":"
  let (bounds, trailing) ←
    if colon then
      boundsUntilRule g ⟨false, true⟩ fun s => atWord "where" s || atPunct "=" s || atPunct ";" s
    else pure ([], false)
  let early ← look fun s => place != .afterEquals && atWord "where" s
  let before ← if early then conditionsRule g else pure ([], false)
  let value ← if ← punct? "=" then pure (some (← g.type true)) else pure none
  let conditions ← if early || place == .beforeEquals then pure before else conditionsRule g
  punct ";"
  let early := early || place == .beforeEquals
  return (.typeAlias isDefault name (.of params conditions) bounds trailing early value, colon)

/-- A type alias that has to name a type, and must not have bounds. -/
def definiteAliasRule (g : Grammar) (isDefault : Bool) (place : WherePlace) :
    Parser (Option Item) := do
  match ← aliasRule g isDefault place with
  | (item@(.typeAlias _ _ _ _ _ _ (some _)), false) => return some item
  | _ => return none

/-! ### Implementations -/

/-- A member of an implementation. -/
def implMemberRule (g : Grammar) : Parser Item :=
  markedRule g fun visibility => do
    let isDefault ← look fun s => atWord "default" s && !atPunct "!" (s.drop 1)
    if isDefault then keyword "default"
    if ← look (atSignature false) then
      let signature ← signatureRule g isDefault false
      if ← punct? ";" then return none else return some (signature.item (some (← g.body)))
    else if ← look (atWord "const") then constRule g isDefault true
    else if ← look (atWord "type") then definiteAliasRule g isDefault .afterEquals
    else if visibility == .inherited && !isDefault then
      expect atMacroStart
      return some (← macroItemRule false)
    else failure

/-- An implementation of a trait.  There is no tree for one whose trait is given by something else
than a plain path. -/
def Item.ofTrait? (asTrait : TypeExpr) (item : Item) : Option Item :=
  match asTrait with
  | .path path => if path.isQualified then none else some item
  | _ => none

/-- An implementation behind its visibility. -/
def implRule (g : Grammar) (visible : Bool) : Parser (Option Item) := do
  let isDefault ← keyword? "default"
  let isUnsafe ← keyword? "unsafe"
  keyword "impl"
  let params ← if ← look atGenericParams then genericParamsRule g true else pure ([], false)
  let isConst ← look fun s => atWord "const" s || (atPunct "?" s && atWord "const" (s.drop 1))
  if isConst then
    let _ ← punct? "?"
    keyword "const"
  let negative ← look fun s => atPunct "!" s && !atGroup .brace (s.drop 1)
  if negative then punct "!"
  let first ← g.type true
  let isFor ← keyword? "for"
  if negative && !isFor then failure
  let self ← if isFor then g.type true else pure first
  let conditions ← conditionsRule g
  let (attributes, items) ← itemBody g (implMemberRule g)
  let generics := Generics.of params conditions
  if visible || isConst then return none
  else if isFor then
    return Item.ofTrait? first
      (.impl isDefault isUnsafe generics negative (some first) self attributes items)
  else return some (.impl isDefault isUnsafe generics false none self attributes items)

/-! ### Traits and foreign items -/

/-- A member of a trait.  There is no tree for one that is visible or a default. -/
def traitMemberRule (g : Grammar) : Parser Item :=
  markedRule g fun visibility => do
    let isDefault ← keyword? "default"
    let isPlain := visibility == .inherited && !isDefault
    let item? ←
      if ← look (atSignature false) then
        let signature ← signatureRule g false false
        if ← look (atGroup .brace) then pure (some (signature.item (some (← g.body))))
        else
          punct ";"
          pure (some (signature.item none))
      else if ← look (atWord "const") then constRule g false false
      else if ← look (atWord "type") then pure (some (← aliasRule g false .afterEquals).1)
      else if isPlain then
        expect atMacroStart
        pure (some (← macroItemRule false))
      else failure
    return if isPlain then item? else none

/-- A trait, from its keyword on, behind what marks it. -/
def traitRule (g : Grammar) (isUnsafe isAuto : Bool) : Parser Item := do
  keyword "trait"
  let name ← identifier
  let params ← itemParamsRule g
  if !isUnsafe && !isAuto && (← look (atPunct "=")) then
    punct "="
    let (bounds, trailing) ← boundsUntilRule g ⟨false, false⟩ fun s => atWord "where" s
      || atPunct ";" s
    let conditions ← conditionsRule g
    punct ";"
    return .traitAlias name (.of params conditions) bounds trailing
  else
    let (bounds, trailing) ←
      if ← punct? ":" then
        boundsUntilRule g ⟨false, true⟩ fun s => atWord "where" s || atGroup .brace s
      else pure ([], false)
    let conditions ← conditionsRule g
    let (attributes, items) ← itemBody g (traitMemberRule g)
    return .trait isUnsafe isAuto name (.of params conditions) bounds trailing attributes items

/-- A static variable among foreign items, from the words in front of its keyword on. -/
def foreignStaticRule (g : Grammar) : Parser (Option Item) := do
  let isMarked ← look fun s => !atWord "static" s
  if isMarked then
    let _ ← anyWord
  keyword "static"
  let mutable ← keyword? "mut"
  let name ← identifier
  punct ":"
  let type ← g.type true
  let value ← initialRule g
  punct ";"
  if isMarked || value.isSome then return none else return some (.static mutable name type none)

/-- A member of a block of foreign items. -/
def foreignMemberRule (g : Grammar) : Parser Item :=
  markedRule g fun visibility => do
    if ← look (atSignature true) then
      let signature ← signatureRule g false true
      if ← look (atGroup .brace) then
        let _ ← g.body
        return none
      else
        punct ";"
        return if signature.isSafe then none else some (signature.item none)
    else if ← look fun s => atWord "static" s || (atOneOf ["unsafe", "safe"] s
      && atWord "static" (s.drop 1)) then
      foreignStaticRule g
    else if ← look (atWord "type") then
      match ← aliasRule g false .both with
      | (item@(.typeAlias _ _ _ _ _ _ none), false) => return some item
      | _ => return none
    else if visibility == .inherited then
      expect atMacroStart
      return some (← macroItemRule false)
    else failure

/-- A block of foreign items. -/
def foreignRule (g : Grammar) : Parser Item := do
  let isUnsafe ← keyword? "unsafe"
  expect (atWord "extern")
  let linkage ← linkageRule
  let (attributes, items) ← itemBody g (foreignMemberRule g)
  return .foreign isUnsafe linkage attributes items

/-- The import of a package as a whole. -/
def externCrateRule : Parser Item := do
  keyword "extern"
  keyword "crate"
  let name ← if ← look (atWord "self") then anyWord else identifier
  let newName ← if ← keyword? "as" then pure (some (← nameOrUnderscore)) else pure none
  punct ";"
  return .externCrate name newName

/-! ### Imports -/

/-- An entry in the braces of an import; `none` if there is no tree for it. -/
def useEntryRule (g : Grammar) (allowRoot : Bool) : Parser (Option UseTree) := do
  let rooted ← if allowRoot then punct? "::" else pure false
  let tree? ← g.useTree (allowRoot && !rooted)
  return if rooted then none else tree?

/-- The tree of an import; `none` if an entry in braces starts with a double colon. -/
def useTreeRule (g : Grammar) (allowRoot : Bool) : Parser (Option UseTree) := do
  if ← look fun s => atIdentifier s || atOneOf ["self", "super", "crate", "try"] s then
    let name ← anyWord
    if ← punct? "::" then return (← g.useTree false).map (.path name)
    else if ← keyword? "as" then return some (.rename name (← nameOrUnderscore))
    else return some (.name name)
  else if ← punct? "*" then return some .glob
  else
    let (trees, trailing) ← inside .brace (terminated (useEntryRule g allowRoot))
    return (trees.mapM id).map fun trees => .group trees trailing

/-- An import behind its visibility. -/
def useRule (g : Grammar) : Parser (Option Item) := do
  keyword "use"
  let leading ← punct? "::"
  let tree? ← g.useTree (!leading)
  punct ";"
  return tree?.map (.use leading)

/-! ### Items -/

/-- A module behind its visibility. -/
def moduleRule (g : Grammar) : Parser Item := do
  let isUnsafe ← keyword? "unsafe"
  keyword "mod"
  let name ← if ← look (atWord "try") then anyWord else identifier
  if ← punct? ";" then return .module isUnsafe name false [] []
  else
    let (attributes, items) ← itemBody g g.item
    return .module isUnsafe name true attributes items

/-- A definition of a macro with its own keyword.  There is no tree for it. -/
def macroDefinitionRule : Parser (Option Item) := do
  keyword "macro"
  let _ ← identifier
  if ← look (atGroup .paren) then
    let _ ← group .paren
  let _ ← group .brace
  return none

/-- A function as an item.  There is no tree for one without a body. -/
def functionItemRule (g : Grammar) : Parser (Option Item) := do
  let signature ← signatureRule g false false
  if ← punct? ";" then return none else return some (signature.item (some (← g.body)))

/-- An item behind its attributes and visibility. -/
def visibleItemRule (g : Grammar) (visibility : ItemVisibility) : Parser (Option Item) := do
  let inherited := visibility == .inherited
  let next (names : List String) (s : Tokens) : Bool := atOneOf names (s.drop 1)
  if ← look (atSignature false) then functionItemRule g
  else if ← look fun s => atWord "extern" s && next ["crate"] s then return some (← externCrateRule)
  else if ← look (atWord "extern") then
    if inherited then return some (← foreignRule g) else failure
  else if ← look (atWord "use") then useRule g
  else if ← look (atWord "static") then staticRule g
  else if ← look (atWord "const") then constRule g false true
  else if ← look fun s => atWord "unsafe" s && next ["extern"] s then
    if inherited then return some (← foreignRule g) else failure
  else if ← look fun s => atWord "mod" s || (atWord "unsafe" s && next ["mod"] s) then
    return some (← moduleRule g)
  else if ← look (atWord "type") then definiteAliasRule g false .beforeEquals
  else if ← look fun s => atOneOf ["struct", "enum"] s || (atWord "union" s
    && atIdentifier (s.drop 1)) then
    return some (← dataRule g)
  else if ← look fun s => atWord "trait" s || (atWord "auto" s && next ["trait"] s)
      || (atWord "unsafe" s
        && (next ["trait"] s || (next ["auto"] s && atWord "trait" (s.drop 2)))) then
    let isUnsafe ← keyword? "unsafe"
    let isAuto ← keyword? "auto"
    return some (← traitRule g isUnsafe isAuto)
  else if ← look fun s => atWord "impl" s || (atWord "default" s && !atPunct "!" (s.drop 1))
      || (atWord "unsafe" s && next ["impl"] s) then
    implRule g (!inherited)
  else if ← look (atWord "macro") then macroDefinitionRule
  else if inherited && (← look atMacroStart) then return some (← macroItemRule true)
  else failure

/-- An item with its attributes. -/
def itemRule (g : Grammar) : Parser Item :=
  markedRule g (visibleItemRule g)

/-- The items of a file behind the attributes of the file. -/
def sourceFileRule (g : Grammar) : Parser (List Item) := do
  let _ ← innerAttributesRule g
  repeatWhile (fun s => !s.isEmpty) g.item

end FluentBuilder.Code
