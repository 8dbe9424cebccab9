import FluentBuilder.Code.Grammar.AttributeRules

/-!
# Rules for paths and types

Paths, their arguments, bounds and types.  A path in a type takes arguments directly behind a name;
in an expression they stand behind a double colon.

* `pathRule`, `qualifiedPathRule`: paths with arguments.
* `boundRule`, `boundsRule`: bounds, with what is allowed among them.
* `binderRule?`: the parameters of a binder.
* `typeRule`: types, where the flag says whether a `+` continues a list of bounds.
-/

namespace FluentBuilder.Code

/-! ### Paths -/

/-- The value of a constant argument: a literal, a name or a block. -/
def constArgumentRule (g : Grammar) : Parser Expr := do
  if ← look atLiteral then return .literal (← literal)
  else if ← look atIdentifier then return .path (.plain (.root false) (← identifier))
  else g.blockOf .plain none

/-- Whether a path is a single name that may stand in front of an equals sign or colon. -/
def Path.isArgumentName : Path → Bool
  | .plain (.root false) _ => true
  | .angle (.root false) _ _ _ _ => true
  | _ => false

/-- An argument between angle brackets. -/
def genericArgumentRule (g : Grammar) : Parser Generic := do
  if ← look fun s => atLifetime s && !atPunct "+" (s.drop 1) then return .lifetime (← lifetime)
  else if ← look fun s => atLiteral s || atGroup .brace s then return .const (← constArgumentRule g)
  else
    let argument ← g.type true
    match argument with
    | .path name =>
      if !name.isArgumentName then return .type argument
      else if ← punct? "=" then
        if ← look fun s => atLiteral s || atGroup .brace s then
          return .constEquation name (← constArgumentRule g)
        else return .equation name (← g.type true)
      else if ← punct? ":" then
        let (bounds, trailing) ← listWhile (fun s => atPunct "," s || atPunct ">" s) "+"
          (g.bound ⟨false, true⟩)
        return .constraint name bounds trailing
      else return .type argument
    | _ => return .type argument

/-- The arguments between angle brackets, from the opening bracket on, and whether a comma closes
them. -/
def angleArgumentsRule (g : Grammar) : Parser (List Generic × Bool) := do
  punct "<"
  let arguments ← listUntil (atPunct ">") "," (genericArgumentRule g)
  punct ">"
  return arguments

/-- A path with one more segment. -/
def pathSegmentRule (g : Grammar) (inExpr : Bool) (before : Path) : Parser Path := do
  if ← look (atOneOf ["super", "self", "crate", "try"]) then return .plain before (← anyWord)
  else
    let name ← if ← look (atWord "Self") then anyWord else identifier
    if ← look fun s => !inExpr && atPunct "<" s && !atPunct "<=" s && !atPunct "<<=" s then
      let (arguments, trailing) ← angleArgumentsRule g
      return .angle before name false arguments trailing
    else if ← look fun s => atPunct "::" s && atPunct "<" (s.drop 2) then
      punct "::"
      let (arguments, trailing) ← angleArgumentsRule g
      return .angle before name true arguments trailing
    else return .plain before name

/-- A path with further segments, each behind a double colon. -/
def moreSegmentsRule (g : Grammar) (inExpr : Bool) (before : Path) : Parser Path :=
  foldWhile (fun s => atPunct "::" s && !atGroup .paren (s.drop 2)) (fun path => do
    punct "::"
    pathSegmentRule g inExpr path) before

/-- A path that does not start at a type. -/
def pathRule (g : Grammar) (inExpr : Bool) : Parser Path := do
  let leading ← punct? "::"
  let first ← pathSegmentRule g inExpr (.root leading)
  moreSegmentsRule g inExpr first

/-- A path that may start at a type. -/
def qualifiedPathRule (g : Grammar) (inExpr : Bool) : Parser Path := do
  if ← punct? "<" then
    let type ← g.type true
    let start ← if ← keyword? "as" then pure (.ofTypeAs type (← pathRule g false))
      else pure (.ofType type)
    punct ">"
    punct "::"
    let first ← pathSegmentRule g inExpr start
    foldWhile (atPunct "::") (fun path => do
      punct "::"
      pathSegmentRule g inExpr path) first
  else pathRule g inExpr

/-- A return type, whose list of bounds ends at a `+` unless the flag allows one. -/
def outputRule (g : Grammar) (allowPlus : Bool) : Parser (Option TypeExpr) := do
  if ← punct? "->" then return some (← g.type allowPlus) else return none

/-- Whether the parameters of a function follow a path. -/
def atCallParams (input : Tokens) : Bool :=
  atGroup .paren input || (atPunct "::" input && atGroup .paren (input.drop 2))

/-- A path with the parameters and the result of a function behind its last name. -/
def callParamsRule (g : Grammar) (path : Path) : Parser Path := do
  let _ ← punct? "::"
  let (inputs, trailing) ← inside .paren (terminated (g.type true))
  let output ← outputRule g false
  match path with
  | .plain before name => return .call before name inputs trailing output
  | .angle before name _ _ _ => return .call before name inputs trailing output
  | path => return path

/-! ### Generic parameters -/

/-- A parameter behind attributes. -/
def Generic.withAttributes (attributes : List Meta) (param : Generic) : Generic :=
  match attributes with
  | [] => param
  | _ => .attributed attributes param

/-- A lifetime as a parameter. -/
def lifetimeParamRule : Parser Generic := do
  let name ← lifetime
  if ← punct? ":" then
    let (bounds, trailing) ← listWhile (fun s => atPunct "," s || atPunct ">" s) "+" lifetime
    return .lifetimeParam name bounds trailing
  else return .lifetimeParam name [] false

/-- A type as a parameter. -/
def typeParamRule (g : Grammar) : Parser Generic := do
  let name ← identifier
  let (bounds, trailing) ←
    if ← punct? ":" then
      listWhile (fun s => atPunct "," s || atPunct ">" s || atPunct "=" s) "+"
        (g.bound ⟨false, true⟩)
    else pure ([], false)
  let default ← if ← punct? "=" then pure (some (← g.type true)) else pure none
  return .typeParam name bounds trailing default

/-- A constant as a parameter. -/
def constParamRule (g : Grammar) : Parser Generic := do
  keyword "const"
  let name ← identifier
  punct ":"
  let type ← g.type true
  let default ← if ← punct? "=" then pure (some (← constArgumentRule g)) else pure none
  return .constParam name type default

/-- A generic parameter behind its attributes; the flag says whether an underscore may stand for a
type. -/
def genericParamRule (g : Grammar) (allowInfer : Bool) : Parser Generic := do
  let attributes ← outerAttributesRule g
  let param ←
    if ← look atLifetime then lifetimeParamRule
    else if ← look (atWord "const") then constParamRule g
    else if ← look fun s => allowInfer && atWord "_" s then
      pure (.typeParam (← anyWord) [] false none)
    else typeParamRule g
  return param.withAttributes attributes

/-- The parameters between angle brackets, from the opening bracket on, and whether a comma closes
them. -/
def genericParamsRule (g : Grammar) (allowInfer : Bool) : Parser (List Generic × Bool) := do
  punct "<"
  let params ← listUntil (atPunct ">") "," (genericParamRule g allowInfer)
  punct ">"
  return params

/-- Whether an angle bracket opens generic parameters rather than a type. -/
def atGenericParams (input : Tokens) : Bool :=
  let second := input.drop 1
  let third := input.drop 2
  atPunct "<" input
    && (atPunct ">" second || atPunct "#" second || atWord "const" second
      || ((atLifetime second || atIdentifier second)
        && (atPunct ">" third || atPunct "," third || (atPunct ":" third && !atPunct "::" third)
          || atPunct "=" third)))

/-- The parameters of a binder if one is there. -/
def binderRule? (g : Grammar) : Parser (Option (List Generic × Bool)) := do
  if ← keyword? "for" then return some (← genericParamsRule g false) else return none

/-! ### Bounds -/

/-- A bound behind a binder, if there is one. -/
def Bound.bound (binder : Option (List Generic × Bool)) (bound : Bound) : Bound :=
  match binder with
  | some (params, trailing) => .forAll params trailing bound
  | none => bound

/-- Captured parameters, from their keyword on. -/
def captureRule : Parser Bound := do
  keyword "use"
  punct "<"
  let (names, trailing) ← listUntil (atPunct ">") "," do
    if ← look atLifetime then return Token.lifetime (← lifetime)
    else if ← look (atWord "Self") then return Token.ident (← anyWord)
    else return Token.ident (← identifier)
  punct ">"
  return .captures names trailing

/-- The bound of a trait.  There is no tree for a bound whose trait has to be constant. -/
def traitBoundRule (g : Grammar) (rules : BoundRules) : Parser (Option Bound) := do
  let binder ← binderRule? g
  let conditional ← look (atGroup .bracket)
  let unconditional ← look (atWord "const")
  if conditional then
    let () ← inside .bracket (keyword "const")
  else if unconditional then keyword "const"
  if (conditional || unconditional) && !rules.const then failure
  let maybe ← punct? "?"
  let path ← pathRule g false
  let path ← if path.endsBare && (← look atCallParams) then callParamsRule g path else pure path
  if binder.isSome && maybe then failure
  if conditional || unconditional then return none
  else return some ((Bound.trait maybe path).bound binder)

/-- A single bound. -/
def boundRule (g : Grammar) (rules : BoundRules) : Parser Bound := do
  if ← look atLifetime then return .lifetime (← lifetime)
  else if ← look (atWord "use") then
    let bound ← captureRule
    if rules.captures then return bound else failure
  else
    let (parsed, tokens) ← withTokens do
      if ← look (atGroup .paren) then
        return (← inside .paren (traitBoundRule g rules)).map Bound.paren
      else traitBoundRule g rules
    return parsed.getD (.verbatim tokens)

/-- Whether another bound follows a plus sign. -/
def atBound (rules : BoundRules) (input : Tokens) : Bool :=
  atAnyWord input || atPunct "::" input || atPunct "?" input || atLifetime input
    || atGroup .paren input
    || (rules.const && (atGroup .bracket input || atWord "const" input))

/-- The bounds behind the first of several. -/
def moreBoundsAt (g : Grammar) (rules : BoundRules) : Nat → Parser (List Bound × Bool)
  | 0 => failure
  | fuel + 1 => do
    if ← punct? "+" then
      if ← look (atBound rules) then
        let bound ← boundRule g rules
        let (others, trailing) ← moreBoundsAt g rules fuel
        return (bound :: others, trailing)
      else return ([], true)
    else return ([], false)

/-- The bounds behind the first of several. -/
def moreBoundsRule (g : Grammar) (rules : BoundRules) : Parser (List Bound × Bool) :=
  fun input => moreBoundsAt g rules (input.length + 1) input

/-- Bounds linked by plus signs, or a single one. -/
def boundsRule (g : Grammar) (rules : BoundRules) (allowPlus : Bool) :
    Parser (List Bound × Bool) := do
  let first ← boundRule g rules
  if allowPlus then
    let (others, trailing) ← moreBoundsRule g rules
    return (first :: others, trailing)
  else return ([first], false)

/-- Whether a bound names a trait. -/
def Bound.isTrait : Bound → Bool
  | .trait .. => true
  | .forAll .. => true
  | .paren _ => true
  | .verbatim _ => true
  | .lifetime _ => false
  | .captures .. => false

/-! ### Types -/

/-- A type behind a binder, if there is one. -/
def TypeExpr.bound (binder : Option (List Generic × Bool)) (type : TypeExpr) : TypeExpr :=
  match binder with
  | some (params, trailing) => .forAll params trailing type
  | none => type

/-- The bounds of a trait object: at least one names a trait. -/
def objectBoundsRule (g : Grammar) (allowPlus : Bool) : Parser (List Bound × Bool) := do
  let (bounds, trailing) ← boundsRule g ⟨false, false⟩ allowPlus
  if bounds.any Bound.isTrait then return (bounds, trailing) else failure

/-- The further bounds of a trait object whose first bound stood in parentheses. -/
def parenthesizedObjectRule (g : Grammar) (first : Bound) : Parser TypeExpr := do
  let others ← repeatWhile (atPunct "+") do
    punct "+"
    boundRule g ⟨false, false⟩
  return .traitObject false (first :: others) false

/-- The bound that a parenthesized type stands for when a plus sign follows it. -/
def parenthesizedBound? : TypeExpr → Option Bound
  | .path path => if path.isQualified then none else some (.paren (.trait false path))
  | .traitObject false [bound] false =>
    match bound with
    | .trait .. => some (.paren bound)
    | .forAll .. => some (.paren bound)
    | bound => some bound
  | _ => none

/-- What a parenthesis at the start of a type encloses. -/
inductive Parenthesized where
  | tuple (elements : List TypeExpr) (trailing : Bool)
  | object (bounds : List Bound) (trailing : Bool)
  | maybe (bound : Bound)
  | type (inner : TypeExpr)

/-- The inside of a parenthesis at the start of a type. -/
def parenthesizedRule (g : Grammar) : Parser Parenthesized := do
  if ← look List.isEmpty then return .tuple [] false
  else if ← look atLifetime then
    let (bounds, trailing) ← objectBoundsRule g true
    return .object bounds trailing
  else if ← look (atPunct "?") then
    match ← traitBoundRule g ⟨false, false⟩ with
    | some bound => return .maybe bound
    | none => failure
  else
    let first ← g.type true
    if ← punct? "," then
      let (others, trailing) ← terminated (g.type true)
      return .tuple (first :: others) trailing
    else return .type first

/-- A type that starts with a parenthesis. -/
def parenTypeRule (g : Grammar) (allowPlus : Bool) : Parser TypeExpr := do
  match ← inside .paren (parenthesizedRule g) with
  | .tuple elements trailing => return .tuple elements trailing
  | .object bounds trailing => return .paren (.traitObject false bounds trailing)
  | .maybe bound => parenthesizedObjectRule g (.paren bound)
  | .type inner =>
    if allowPlus && (← look (atPunct "+")) then
      match parenthesizedBound? inner with
      | some bound => parenthesizedObjectRule g bound
      | none => return .paren inner
    else return .paren inner

/-- The name of a parameter as a pattern. -/
def paramName (name : String) : Pattern :=
  if name == "_" then .wild else .binding false false name

/-- A parameter of a function type, behind its attributes. -/
def functionParamRule (g : Grammar) (allowSelf : Bool) : Parser Pattern := do
  let named (s : Tokens) : Bool :=
    (atIdentifier s || atWord "_" s || (allowSelf && atWord "self" s))
      && atPunct ":" (s.drop 1) && !atPunct "::" (s.drop 1)
  if ← look fun s => allowSelf && atWord "mut" s && atWord "self" (s.drop 1) then
    let (_, tokens) ← withTokens do
      keyword "mut"
      keyword "self"
      if ← look fun s => atPunct ":" s && !atPunct "::" s then
        punct ":"
        let _ ← g.type true
        return ()
    return .unnamed (.verbatim tokens)
  else if ← look named then
    let name ← anyWord
    punct ":"
    return .typed (paramName name) (← g.type true)
  else return .unnamed (← g.type true)

/-- Whether the `...` of a function type follows. -/
def atVariadic (input : Tokens) : Bool :=
  atPunct "..." input
    || ((atIdentifier input || atWord "_" input) && atPunct ":" (input.drop 1)
      && atPunct "..." (input.drop 2))

/-- The `...` of a function type behind its attributes. -/
def variadicRule : Parser Pattern := do
  if ← punct? "..." then return .variadic
  else
    let name ← anyWord
    punct ":"
    punct "..."
    return .namedVariadic (paramName name)

/-- The parameters of a function type, and whether a comma closes them. -/
def functionParamsAt (g : Grammar) (first : Bool) : Nat → Parser (List Pattern × Bool)
  | 0 => failure
  | fuel + 1 => do
    if ← look List.isEmpty then return ([], true)
    else
      let attributes ← outerAttributesRule g
      if ← look atVariadic then
        let param ← variadicRule
        return ([param.withAttributes attributes], ← punct? ",")
      else
        let param ← functionParamRule g first
        if ← look List.isEmpty then return ([param.withAttributes attributes], false)
        else
          punct ","
          let (others, trailing) ← functionParamsAt g false fuel
          return (param.withAttributes attributes :: others, trailing)

/-- The convention by which a function is called. -/
def linkageRule : Parser Linkage := do
  if ← keyword? "extern" then
    if ← look atString then return .foreign (some (← literal)) else return .foreign none
  else return .native

/-- A function type. -/
def functionTypeRule (g : Grammar) : Parser TypeExpr := do
  let isUnsafe ← keyword? "unsafe"
  let linkage ← linkageRule
  keyword "fn"
  let (params, trailing) ← inside .paren fun input => functionParamsAt g true
    (input.length + 1) input
  let output ← outputRule g false
  return .function isUnsafe linkage params trailing output

/-- A path in a type with the parameters of a function behind it, and the associated types behind
those. -/
def pathTailAt (g : Grammar) : Nat → Path → Parser Path
  | 0, _ => failure
  | fuel + 1, path => do
    if path.endsBare && (← look atCallParams) then
      let path ← callParamsRule g path
      let associated := match path with
        | .call _ _ _ _ none => true
        | .call _ _ _ _ (some (.paren _)) => true
        | _ => false
      if associated then
        let path ← moreSegmentsRule g false path
        pathTailAt g fuel path
      else pathTailAt g fuel path
    else return path

/-- A path in the position of a type. -/
def typePathRule (g : Grammar) : Parser Path := do
  let path ← qualifiedPathRule g false
  fun input => pathTailAt g (input.length + 1) path input

/-- Whether a call of a builtin stands at the head of the input. -/
def atBuiltin (input : Tokens) : Bool :=
  atWord "builtin" input && atPunct "#" (input.drop 1)

/-- A call of a builtin as it is written. -/
def builtinRule : Parser Tokens := do
  let ((), tokens) ← withTokens do
    keyword "builtin"
    punct "#"
    let _ ← identifier
    let _ ← group .paren
  return tokens

/-- A type that starts with a path. -/
def pathTypeRule (g : Grammar) (allowPlus : Bool) (binder : Option (List Generic × Bool)) :
    Parser TypeExpr := do
  let path ← typePathRule g
  if path.isQualified then return .path path
  else
    let call? ← if ← look atMacroMark then pure path.modulePath? else pure none
    match call? with
    | some macroPath => return .macroCall (← macroCallRule macroPath)
    | none =>
      if binder.isSome || (allowPlus && (← look (atPunct "+"))) then
        let first := (Bound.trait false path).bound binder
        if allowPlus then
          let (others, trailing) ← moreBoundsRule g ⟨false, false⟩
          return .traitObject false (first :: others) trailing
        else return .traitObject false [first] false
      else return .path path

/-- A type; the flag says whether a `+` continues it. -/
def typeRule (g : Grammar) (allowPlus : Bool) : Parser TypeExpr := do
  let binder ← binderRule? g
  if binder.isSome then
    expect fun s => atIdentifier s || atOneOf ["fn", "unsafe", "extern", "super", "self", "Self",
      "crate"] s
  if ← look (atGroup .paren) then parenTypeRule g allowPlus
  else if ← look (atOneOf ["fn", "unsafe", "extern"]) then
    return (← functionTypeRule g).bound binder
  else if ← look atBuiltin then return .verbatim (← builtinRule)
  else if ← look fun s => atIdentifier s || atPathKeyword s || atPunct "::" s || atPunct "<" s then
    pathTypeRule g allowPlus binder
  else if ← look (atWord "dyn") then
    let ((raw, bounds, trailing), tokens) ← withTokens do
      keyword "dyn"
      let raw ← punct? "*"
      let (bounds, trailing) ← objectBoundsRule g allowPlus
      return (raw, bounds, trailing)
    if raw then return .verbatim tokens else return .traitObject true bounds trailing
  else if ← look (atGroup .bracket) then
    inside .bracket do
      let element ← g.type true
      if ← punct? ";" then return .array element (← g.expr) else return .slice element
  else if ← punct? "*" then
    if ← keyword? "const" then return .pointer false (← g.type false)
    else
      keyword "mut"
      return .pointer true (← g.type false)
  else if ← punct? "&" then
    let name ← lifetime?
    let mutable ← keyword? "mut"
    return .reference name mutable (← g.type false)
  else if ← punct? "!" then return .never
  else if ← keyword? "impl" then
    let (bounds, trailing) ← boundsRule g ⟨true, true⟩ allowPlus
    if bounds.any Bound.isTrait then return .implTrait bounds trailing else failure
  else if ← keyword? "_" then return .infer
  else
    expect atLifetime
    let (bounds, trailing) ← objectBoundsRule g true
    return .traitObject false bounds trailing

end FluentBuilder.Code
