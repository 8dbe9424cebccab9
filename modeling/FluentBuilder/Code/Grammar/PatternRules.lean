import FluentBuilder.Code.Grammar.TypeRules

/-!
# Rules for patterns

* `patternRule`: a pattern without alternatives.
* `alternativesRule`: patterns with bars between them.
* `memberRule`: the name or position of a field.
-/

namespace FluentBuilder.Code

/-- Whether a single bar stands at the head of the input. -/
def atBar (input : Tokens) : Bool :=
  atPunct "|" input && !atPunct "||" input && !atPunct "|=" input

/-- Alternatives behind an optional leading bar. -/
def alternativesRule (g : Grammar) : Parser Pattern := do
  let leading ← punct? "|"
  let first ← g.pattern
  let others ← repeatWhile atBar do
    punct "|"
    g.pattern
  if leading || !others.isEmpty then return .alternatives leading (first :: others)
  else return first

/-- The least number that is too large for the position of a field. -/
def positionLimit : Nat := Nat.pow 2 32

/-- The name or position of a field. -/
def memberRule : Parser Member := do
  if ← look atIdentifier then return .named (← identifier)
  else
    match integerValue? (← literal) with
    | some index => if index < positionLimit then return .position index else failure
    | none => failure

/-- Two or three points, or two points and an equals sign; says whether the upper end belongs to the
range. -/
def patternLimitsRule : Parser Bool := do
  if ← punct? "..=" then return true
  else if ← punct? "..." then return true
  else
    punct ".."
    return false

/-- An end of a range in a pattern, if one is there. -/
def patternEndRule (g : Grammar) : Parser (Option Expr) := do
  if ← look fun s => s.isEmpty || atPunct "|" s || atPunct "=" s
      || (atPunct ":" s && !atPunct "::" s)
      || atPunct "," s || atPunct ";" s || atWord "if" s then return none
  else if ← look atLiteral then return some (.literal (← literal))
  else if ← look fun s => atIdentifier s || atPunct "::" s || atPunct "<" s || atPathKeyword s then
    return some (.path (← qualifiedPathRule g true))
  else
    keyword "const"
    return some (← g.blockOf .constant none)

/-- A range in a pattern behind its start. -/
def patternRangeRule (g : Grammar) (start : Option Expr) : Parser Expr := do
  let closed ← patternLimitsRule
  let stop ← patternEndRule g
  if closed && stop.isNone then failure else return .range start closed stop

/-- A field of a struct pattern behind its attributes. -/
def fieldPatternRule (g : Grammar) : Parser Pattern := do
  let ((boxed, pattern), tokens) ← withTokens do
    let boxed ← keyword? "box"
    let byRef ← keyword? "ref"
    let mutable ← keyword? "mut"
    if boxed || byRef || mutable then
      return (boxed, .binding byRef mutable (← identifier))
    else
      match ← memberRule with
      | .named name =>
        if ← punct? ":" then return (false, .field (.named name) (← alternativesRule g))
        else return (false, Pattern.binding false false name)
      | member =>
        punct ":"
        return (false, .field member (← alternativesRule g))
  return if boxed then .verbatim tokens else pattern

/-- The fields of a struct pattern; the mark for further fields may stand behind them. -/
def structPatternRule (g : Grammar) : Parser (List Pattern × Bool) :=
  terminated do
    let attributes ← outerAttributesRule g
    let field ←
      if ← punct? ".." then
        expect List.isEmpty
        pure .rest
      else fieldPatternRule g
    return if attributes.isEmpty then field else .attributed attributes field

/-- The elements of a slice pattern, none of which may be a range that lacks an end. -/
def slicePatternRule (g : Grammar) : Parser (List Pattern × Bool) :=
  terminated do
    let element ← alternativesRule g
    if element.isOpenRange then failure else return element

/-- A pattern that starts with a path. -/
def pathPatternRule (g : Grammar) : Parser Pattern := do
  let path ← qualifiedPathRule g true
  let call? ← if ← look atMacroMark then pure path.modulePath? else pure none
  match call? with
  | some macroPath => return .value (.macroCall (← macroCallRule macroPath))
  | none =>
    if ← look (atGroup .brace) then
      let (fields, trailing) ← inside .brace (structPatternRule g)
      return .struct path fields trailing
    else if ← look (atGroup .paren) then
      let (elements, trailing) ← inside .paren (terminated (alternativesRule g))
      return .tupleStruct path elements trailing
    else if ← look (atPunct "..") then return .value (← patternRangeRule g (some (.path path)))
    else return .value (.path path)

/-- A pattern that binds a name, with what the name is bound to behind an at sign. -/
def bindingPatternRule (g : Grammar) : Parser Pattern := do
  let byRef ← keyword? "ref"
  let mutable ← keyword? "mut"
  let name ← if ← look (atWord "self") then anyWord else identifier
  if ← punct? "@" then return .boundAs byRef mutable name (← g.pattern)
  else return .binding byRef mutable name

/-- A parenthesized pattern or a tuple. -/
def parenPatternRule (g : Grammar) : Parser Pattern := do
  let (elements, trailing) ← inside .paren (terminated (alternativesRule g))
  match elements, trailing with
  | [single], false => if single.isRest then return .tuple [single] false else return .paren single
  | _, _ => return .tuple elements trailing

/-- Whether a path stands at the start of a pattern, rather than a name that it binds. -/
def startsPathPattern (input : Tokens) : Bool :=
  let next := input.drop 1
  (atIdentifier input
      && (atPunct "::" next || atPunct "!" next || atGroup .brace next || atGroup .paren next
        || atPunct ".." next))
    || (atWord "self" input && atPunct "::" next)
    || atPunct "::" input || atPunct "<" input || atOneOf ["Self", "super", "crate"] input

/-- A pattern without alternatives. -/
def patternRule (g : Grammar) : Parser Pattern := do
  if ← look startsPathPattern then pathPatternRule g
  else if ← keyword? "_" then return .wild
  else if ← look (atWord "box") then
    let ((), tokens) ← withTokens do
      keyword "box"
      let _ ← g.pattern
    return .verbatim tokens
  else if ← look fun s => atPunct "-" s || atLiteral s || atWord "const" s then
    match ← patternEndRule g with
    | none => failure
    | some start =>
      if ← look (atPunct "..") then return .value (← patternRangeRule g (some start))
      else return .value start
  else if ← look fun s => atOneOf ["ref", "mut", "self"] s || atIdentifier s then
    bindingPatternRule g
  else if ← punct? "&" then
    let mutable ← keyword? "mut"
    return .reference mutable (← g.pattern)
  else if ← look (atGroup .paren) then parenPatternRule g
  else if ← look (atGroup .bracket) then
    let (elements, trailing) ← inside .bracket (slicePatternRule g)
    return .slice elements trailing
  else
    expect fun s => atPunct ".." s && !atPunct "..." s
    match ← patternRangeRule g none with
    | .range none _ none => return .rest
    | range => return .value range

end FluentBuilder.Code
