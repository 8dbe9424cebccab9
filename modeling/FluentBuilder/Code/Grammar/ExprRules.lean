import FluentBuilder.Code.Grammar.PatternRules

/-!
# Rules for expressions

Operands, the calls and accesses behind them, and operators by precedence.

* `operandRule`: an operand with the operators in front of it.
* `operatorsRule`: the operators behind an operand.
* `statementExprRule`: an expression that ends early if it is complete.
-/

namespace FluentBuilder.Code

/-- The precedence of an assignment. -/
def assignPrecedence : Precedence := 1
/-- The precedence of a range. -/
def rangePrecedence : Precedence := 2
/-- The precedence of a comparison. -/
def comparePrecedence : Precedence := 6
/-- The precedence of a cast. -/
def castPrecedence : Precedence := 13

/-- The operators with two operands, in the order in which they are tried. -/
def binaryOperators : List (String × Precedence) :=
  [("+=", 1), ("-=", 1), ("*=", 1), ("/=", 1), ("%=", 1), ("^=", 1), ("&=", 1), ("|=", 1),
    ("<<=", 1), (">>=", 1), ("&&", 4), ("||", 3), ("<<", 10), (">>", 10), ("==", 6), ("<=", 6),
    ("!=", 6), (">=", 6),
    ("+", 11), ("-", 11), ("*", 12), ("/", 12), ("%", 12), ("^", 8), ("&", 9), ("|", 7),
    ("<", 6), (">", 6)]

/-- The operator with two operands at the head of the input. -/
def binaryOperator? (input : Tokens) : Option (String × Precedence) :=
  binaryOperators.find? fun o => atPunct o.1 input

/-- Whether an equals sign that assigns stands at the head of the input. -/
def atAssign (input : Tokens) : Bool :=
  atPunct "=" input && !atPunct "=>" input

/-- The precedence of the operator at the head of the input, zero if there is none. -/
def headPrecedence (input : Tokens) : Precedence :=
  match binaryOperator? input with
  | some (_, precedence) => precedence
  | none =>
    if atAssign input then assignPrecedence
    else if atPunct ".." input then rangePrecedence
    else if atWord "as" input then castPrecedence
    else 0

/-- Whether an access behind a point stands at the head of the input. -/
def atAccess (input : Tokens) : Bool :=
  atPunct "." input && !atPunct ".." input

/-- Whether an expression can start at the head of the input. -/
def atExprStart (input : Tokens) : Bool :=
  (atAnyWord input && !atWord "as" input) || atGroup .paren input || atGroup .bracket input
    || atGroup .brace input || atLiteral input
    || (atPunct "!" input && !atPunct "!=" input)
    || (atPunct "-" input && !atPunct "-=" input && !atPunct "->" input)
    || (atPunct "*" input && !atPunct "*=" input)
    || (atPunct "|" input && !atPunct "|=" input)
    || (atPunct "&" input && !atPunct "&=" input)
    || atPunct ".." input
    || (atPunct "<" input && !atPunct "<=" input && !atPunct "<<=" input)
    || atPunct "::" input || atLifetime input || atPunct "#" input

/-! ### Operators -/

/-- The right operand of an operator: what binds tighter than the operator belongs to it, and
assignments group to the right. -/
def rightOperandAt (g : Grammar) (allowStruct : Bool) (precedence : Precedence) :
    Nat → Expr → Parser Expr
  | 0, _ => failure
  | fuel + 1, right => do
    let next ← fun input => some (headPrecedence input, input)
    if precedence < next || (next == precedence && precedence == assignPrecedence) then
      let before ← get
      let wider ← g.operators allowStruct next right
      let after ← get
      if after.length == before.length then return wider
      else rightOperandAt g allowStruct precedence fuel wider
    else return right

/-- The right operand of an operator. -/
def rightOperandRule (g : Grammar) (allowStruct : Bool) (precedence : Precedence) :
    Parser Expr := do
  let right ← g.operand allowStruct
  fun input => rightOperandAt g allowStruct precedence (input.length + 1) right input

/-- The two kinds of ranges; says whether the upper end belongs to the range. -/
def limitsRule : Parser Bool := do
  if ← punct? "..=" then return true
  else
    expect fun s => !atPunct "..." s
    punct ".."
    return false

/-- Whether a range without an upper end stops before the head of the input. -/
def atRangeEnd (allowStruct : Bool) (input : Tokens) : Bool :=
  input.isEmpty || atPunct "," input || atPunct ";" input || atAccess input || atPunct "?" input
    || atPunct "=>" input || (!allowStruct && atGroup .brace input) || atPunct "=" input
    || atPunct "+" input
    || atPunct "/" input || atPunct "%" input || atPunct "^" input || atPunct ">" input
    || atPunct "<=" input
    || atPunct "!=" input || atPunct "-=" input || atPunct "*=" input || atPunct "&=" input
    || atPunct "|=" input || atPunct "<<=" input || atWord "as" input

/-- A range behind its start. -/
def rangeRule (g : Grammar) (allowStruct : Bool) (start : Option Expr) : Parser Expr := do
  let closed ← limitsRule
  if !closed && (← look (atRangeEnd allowStruct)) then return .range start false none
  else return .range start closed (some (← rightOperandRule g allowStruct rangePrecedence))

/-- Whether something stands behind a cast that may not stand there. -/
def atAfterCast (input : Tokens) : Bool :=
  atAccess input || atPunct "?" input || atGroup .bracket input || atGroup .paren input

/-- The operators behind an operand, as long as they bind at least as tightly as `base`. -/
def operatorsAt (g : Grammar) (allowStruct : Bool) (base : Precedence) : Nat → Expr → Parser Expr
  | 0, _ => failure
  | fuel + 1, left => do
    if left.isRange then return left
    else
      match ← (fun input => some (binaryOperator? input, input) : Parser
        (Option (String × Precedence))) with
      | some (operator, precedence) =>
        if precedence < base then return left
        else if precedence == comparePrecedence && left.isComparison then failure
        else
          punct operator
          let right ← rightOperandRule g allowStruct precedence
          operatorsAt g allowStruct base fuel (.binary operator left right)
      | none =>
        if base ≤ assignPrecedence && (← look atAssign) then
          punct "="
          let right ← rightOperandRule g allowStruct assignPrecedence
          operatorsAt g allowStruct base fuel (.assign left right)
        else if base ≤ rangePrecedence && (← look (atPunct "..")) then
          let range ← rangeRule g allowStruct (some left)
          operatorsAt g allowStruct base fuel range
        else if base ≤ castPrecedence && (← look (atWord "as")) then
          keyword "as"
          let type ← g.type false
          expect fun s => !atAfterCast s
          operatorsAt g allowStruct base fuel (.cast left type)
        else return left

/-- The operators behind an operand. -/
def operatorsRule (g : Grammar) (allowStruct : Bool) (base : Precedence) (left : Expr) :
    Parser Expr :=
  fun input => operatorsAt g allowStruct base (input.length + 1) left input

/-! ### Accesses and calls -/

/-- The fields that a number with points stands for, behind a point. -/
def Expr.fields? (base : Expr) (number : String) : Option Expr :=
  (number.splitOn ".").foldlM (fun e part => do
    let index ← integerValue? part
    if index < positionLimit then some (.field e (.position index)) else none) base

/-- An access behind its point. -/
def memberAccessRule (g : Grammar) (base : Expr) : Parser Expr := do
  if ← keyword? "await" then return .await base
  else
    match ← memberRule with
    | .named name =>
      let method ←
        if ← punct? "::" then
          let (arguments, trailing) ← angleArgumentsRule g
          pure (some (.angle (.root false) name true arguments trailing))
        else if ← look (atGroup .paren) then pure (some (.plain (.root false) name))
        else pure none
      match method with
      | some method =>
        let (arguments, trailing) ← inside .paren (terminated g.expr)
        return .methodCall base method arguments trailing
      | none => return .field base (.named name)
    | member => return .field base member

/-- The accesses behind a point. -/
def accessRule (g : Grammar) (base : Expr) : Parser Expr := do
  punct "."
  if ← look fun s => match s with
      | .leaf (.literal text) :: _ => isFloat text
      | _ => false then
    let number := (← literal).toList
    if number.getLast? == some '.' then
      match base.fields? (String.ofList number.dropLast) with
      | some e => memberAccessRule g e
      | none => failure
    else
      match base.fields? (String.ofList number) with
      | some e => return e
      | none => failure
  else memberAccessRule g base

/-- Calls, accesses and indices behind an operand. -/
def trailersAt (g : Grammar) : Nat → Expr → Parser Expr
  | 0, _ => failure
  | fuel + 1, e => do
    if ← look (atGroup .paren) then
      let (arguments, trailing) ← inside .paren (terminated g.expr)
      trailersAt g fuel (.call e arguments trailing)
    else if !e.isRange && (← look atAccess) then
      let e ← accessRule g e
      trailersAt g fuel e
    else if ← look (atGroup .bracket) then
      let position ← inside .bracket g.expr
      trailersAt g fuel (.index e position)
    else if !e.isRange && (← look (atPunct "?")) then
      punct "?"
      trailersAt g fuel (.attempt e)
    else return e

/-- Calls, accesses and indices behind an operand. -/
def trailersRule (g : Grammar) (e : Expr) : Parser Expr :=
  fun input => trailersAt g (input.length + 1) e input

/-! ### Atoms -/

/-- A field of a struct literal. -/
def fieldValueRule (g : Grammar) : Parser Expr := do
  let attributes ← outerAttributesRule g
  let member ← memberRule
  let value ←
    match member with
    | .named _ => if ← punct? ":" then pure (some (← g.expr)) else pure none
    | .position _ =>
      punct ":"
      pure (some (← g.expr))
  return (Expr.fieldValue member value).withAttributes attributes

/-- The inside of a struct literal; the source of the other fields may stand behind the fields. -/
def structLiteralRule (g : Grammar) : Parser (List Expr × Bool) :=
  terminated do
    if ← punct? ".." then
      let base ← if ← look List.isEmpty then pure none else pure (some (← g.expr))
      expect List.isEmpty
      return .remainder base
    else fieldValueRule g

/-- An expression that starts with a path: the path itself, a macro call or a struct literal. -/
def pathExprRule (g : Grammar) (allowStruct : Bool) : Parser Expr := do
  let path ← qualifiedPathRule g true
  let call? ← if ← look atMacroMark then pure path.modulePath? else pure none
  match call? with
  | some macroPath => return .macroCall (← macroCallRule macroPath)
  | none =>
    if allowStruct && (← look (atGroup .brace)) then
      let (fields, trailing) ← inside .brace (structLiteralRule g)
      return .struct path fields trailing
    else return .path path

/-- A parenthesized expression or a tuple. -/
def parenExprRule (g : Grammar) : Parser Expr := do
  let (elements, trailing) ← inside .paren (terminated g.expr)
  match elements, trailing with
  | [single], false => return .paren single
  | _, _ => return .tuple elements trailing

/-- A list of elements, or one element and the number of its repetitions. -/
def bracketExprRule (g : Grammar) : Parser Expr :=
  inside .bracket do
    if ← look List.isEmpty then return .array [] false
    else
      let first ← g.expr
      if ← punct? ";" then return .repetition first (← g.expr)
      else if ← punct? "," then
        let (others, trailing) ← terminated g.expr
        return .array (first :: others) trailing
      else return .array [first] false

/-- The branches of a conditional, from its keyword on. -/
def conditionalAt (g : Grammar) : Nat → Parser Expr
  | 0 => failure
  | fuel + 1 => do
    keyword "if"
    let condition ← g.exprWith false
    let body ← g.block
    let otherwise ←
      if ← keyword? "else" then
        if ← look (atWord "if") then pure (some (← conditionalAt g fuel))
        else pure (some (.block .plain none [] (← g.block)))
      else pure none
    return .conditional condition body otherwise

/-- A conditional. -/
def conditionalRule (g : Grammar) : Parser Expr :=
  fun input => conditionalAt g (input.length + 1) input

/-- A loop with a condition, over a range of values, or without end. -/
def loopRule (g : Grammar) (label : Option String) : Parser Expr := do
  if ← keyword? "while" then
    let condition ← g.exprWith false
    let (attributes, body) ← g.body
    return .whileLoop label condition attributes body
  else if ← keyword? "for" then
    let pattern ← alternativesRule g
    keyword "in"
    let values ← g.exprWith false
    let (attributes, body) ← g.body
    return .forLoop label pattern values attributes body
  else
    keyword "loop"
    g.blockOf .loop label

/-- An arm of a choice. -/
def armRule (g : Grammar) : Parser Statement := do
  let attributes ← outerAttributesRule g
  let pattern ← alternativesRule g
  let guard ← if ← keyword? "if" then pure (some (← g.expr)) else pure none
  punct "=>"
  let body ← g.statementExpr
  if body.isComplete || (← look List.isEmpty) then
    return .arm attributes pattern guard body (← punct? ",")
  else
    punct ","
    return .arm attributes pattern guard body true

/-- A choice by patterns. -/
def choiceRule (g : Grammar) : Parser Expr := do
  keyword "match"
  let value ← g.exprWith false
  let (attributes, arms) ← inside .brace do
    let attributes ← innerAttributesRule g
    return (attributes, ← repeatWhile (fun s => !s.isEmpty) (armRule g))
  return .choice value attributes arms

/-- A labelled loop or block. -/
def labelledRule (g : Grammar) : Parser Expr := do
  let label ← lifetime
  punct ":"
  if ← look (atGroup .brace) then g.blockOf .plain (some label) else loopRule g (some label)

/-- A parameter of a closure. -/
def closureParamRule (g : Grammar) : Parser Pattern := do
  let attributes ← outerAttributesRule g
  let pattern ← g.pattern
  let param ← if ← punct? ":" then pure (.typed pattern (← g.type true)) else pure pattern
  return param.withAttributes attributes

/-- A closure. -/
def closureRule (g : Grammar) (allowStruct : Bool) : Parser Expr := do
  let binder ← binderRule? g
  let isConst ← keyword? "const"
  let isStatic ← keyword? "static"
  let isAsync ← keyword? "async"
  let isMove ← keyword? "move"
  let head : ClosureHead := ⟨isConst, isStatic, isAsync, isMove⟩
  punct "|"
  let (inputs, trailing) ← listUntil (atPunct "|") "," (closureParamRule g)
  punct "|"
  let closure ←
    if ← punct? "->" then
      let output ← g.type true
      pure (.closure head inputs trailing (some output) (.block .plain none [] (← g.block)))
    else pure (.closure head inputs trailing none (← g.exprWith allowStruct))
  return match binder with
    | some (params, trailing) => .forAll params trailing closure
    | none => closure

/-- Whether a closure stands at the head of the input. -/
def atClosure (input : Tokens) : Bool :=
  let next := input.drop 1
  atPunct "|" input || atWord "move" input
    || (atWord "for" input && atGenericParams next)
    || (atWord "const" input && !atGroup .brace next)
    || atWord "static" input
    || (atWord "async" input && (atPunct "|" next || atWord "move" next))

/-- The optional value of a jump. -/
def valueRule (g : Grammar) : Parser (Option Expr) := do
  if ← look atExprStart then return some (← g.expr) else return none

/-- A jump out of a loop or block. -/
def breakRule (g : Grammar) (allowStruct : Bool) : Parser Expr := do
  keyword "break"
  expect fun s => !(atLifetime s && atPunct ":" (s.drop 1))
  let label ← lifetime?
  if ← look fun s => !allowStruct && atGroup .brace s then return .breakOut label none
  else return .breakOut label (← valueRule g)

/-- Whether a suspended block stands at the head of the input. -/
def atSuspended (input : Tokens) : Bool :=
  atWord "async" input
    && (atGroup .brace (input.drop 1)
      || (atWord "move" (input.drop 1) && atGroup .brace (input.drop 2)))

/-- An operand without operators, calls or accesses. -/
def atomRule (g : Grammar) (allowStruct : Bool) : Parser Expr := do
  if ← look atLiteral then return .literal (← literal)
  else if ← look atSuspended then
    keyword "async"
    let isMove ← keyword? "move"
    g.blockOf (.suspended isMove) none
  else if ← look fun s => atWord "try" s && atGroup .brace (s.drop 1) then
    keyword "try"
    g.blockOf .attempt none
  else if ← look atClosure then closureRule g allowStruct
  else if ← look atBuiltin then return .verbatim (← builtinRule)
  else if ← look fun s => atIdentifier s || atPunct "::" s || atPunct "<" s || atPathKeyword s
      || (atWord "try" s && (atPunct "!" (s.drop 1) || atPunct "::" (s.drop 1))) then
    pathExprRule g allowStruct
  else if ← look (atGroup .paren) then parenExprRule g
  else if ← look (atWord "break") then breakRule g allowStruct
  else if ← keyword? "continue" then return .continueLoop (← lifetime?)
  else if ← keyword? "return" then return .returnValue (← valueRule g)
  else if ← look (atWord "become") then
    let ((), tokens) ← withTokens do
      keyword "become"
      let _ ← g.expr
    return .verbatim tokens
  else if ← look (atGroup .bracket) then bracketExprRule g
  else if ← keyword? "let" then
    let pattern ← alternativesRule g
    punct "="
    let left ← g.operand allowStruct
    return .binding pattern (← g.operators allowStruct comparePrecedence left)
  else if ← look (atWord "if") then conditionalRule g
  else if ← look (atOneOf ["while", "for", "loop"]) then loopRule g none
  else if ← look (atWord "match") then choiceRule g
  else if ← keyword? "yield" then return .yieldValue (← valueRule g)
  else if ← keyword? "unsafe" then g.blockOf .unguarded none
  else if ← keyword? "const" then g.blockOf .constant none
  else if ← look (atGroup .brace) then g.blockOf .plain none
  else if ← look (atPunct "..") then rangeRule g allowStruct none
  else if ← keyword? "_" then return .infer
  else labelledRule g

/-- The operators in front of an operand. -/
def unaryOperatorRule : Parser Char := do
  if ← punct? "*" then return '*'
  else if ← punct? "!" then return '!'
  else
    punct "-"
    return '-'

/-- An operand behind its attributes, with its operators in front and its calls and accesses
behind. -/
def bareOperandRule (g : Grammar) (allowStruct isAttributed : Bool) : Parser Expr := do
  if ← punct? "&" then
    if ← look fun s => atWord "raw" s && (atWord "mut" (s.drop 1) || atWord "const" (s.drop 1)) then
      keyword "raw"
      let mutable ← keyword? "mut"
      if !mutable then keyword "const"
      return .address mutable (← g.operand allowStruct)
    else
      let mutable ← keyword? "mut"
      return .reference mutable (← g.operand allowStruct)
  else if ← look fun s => atPunct "*" s || atPunct "!" s || atPunct "-" s then
    let operator ← unaryOperatorRule
    return .unary operator (← g.operand allowStruct)
  else
    let atom ← atomRule g allowStruct
    let e ← trailersRule g atom
    if isAttributed && e.isRange then failure else return e

/-- An operand with its operators in front and its calls and accesses behind.  The attributes in
front of tokens without a form are among these tokens. -/
def operandRule (g : Grammar) (allowStruct : Bool) : Parser Expr := do
  let (e, tokens) ← withTokens do
    let attributes ← outerAttributesRule g
    return (← bareOperandRule g allowStruct (!attributes.isEmpty)).withAttributes attributes
  match e with
  | .verbatim _ => return .verbatim tokens
  | e => return e

/-- Whether an expression that may end early stands at the head of the input. -/
def atEarlyEnd (input : Tokens) : Bool :=
  atOneOf ["if", "while", "loop", "match", "unsafe"] input || atGroup .brace input
    || (atWord "for" input && !atGenericParams (input.drop 1))
    || (atOneOf ["try", "const"] input && atGroup .brace (input.drop 1)) || atLifetime input

/-- An expression that ends early if it is complete: a statement or the arm of a choice. -/
def statementExprRule (g : Grammar) : Parser Expr := do
  let attributes ← outerAttributesRule g
  let first ← if ← look atEarlyEnd then atomRule g true else g.operand true
  if !first.isComplete then g.operators true 0 (first.withAttributes attributes)
  else if ← look fun s => atAccess s || atPunct "?" s then
    let e ← trailersRule g first
    g.operators true 0 (e.withAttributes attributes)
  else return first.withAttributes attributes

end FluentBuilder.Code
