import FluentBuilder.Code.Source
import FluentBuilder.Proofs.Code.Consumption

/-!
# What the rules of the grammar leave of their input

Each rule leaves an end of its input, as long as the nonterminals do; so every level of the grammar
does.

* `Grammar.Consuming` — a grammar in which the nonterminals leave ends of their input;
* `consumes_itemRule` and the others — one instance for each rule;
* `consuming_level` — the grammar down to a given depth of nesting.
-/

namespace FluentBuilder.Code

/-- A grammar in which the nonterminals leave ends of their input.  What fills a block needs no
mention, since nothing is left behind it. -/
class Grammar.Consuming (g : Grammar) : Prop where
  type : ∀ allowPlus, Consumes (g.type allowPlus)
  bound : ∀ rules, Consumes (g.bound rules)
  operand : ∀ allowStruct, Consumes (g.operand allowStruct)
  operators : ∀ allowStruct base left, Consumes (g.operators allowStruct base left)
  pattern : Consumes g.pattern
  item : Consumes g.item
  useTree : ∀ allowRoot, Consumes (g.useTree allowRoot)

section Rules

variable (g : Grammar) [g.Consuming]

-- a rule is a long chain of steps, and the search for its instance takes them one by one
set_option synthInstance.maxSize 1000

instance consumes_type (allowPlus : Bool) : Consumes (g.type allowPlus) :=
  Grammar.Consuming.type allowPlus

instance consumes_bound (rules : BoundRules) : Consumes (g.bound rules) :=
  Grammar.Consuming.bound rules

instance consumes_operand (allowStruct : Bool) : Consumes (g.operand allowStruct) :=
  Grammar.Consuming.operand allowStruct

instance consumes_operators (allowStruct : Bool) (base : Precedence) (left : Expr) :
    Consumes (g.operators allowStruct base left) :=
  Grammar.Consuming.operators allowStruct base left

instance consumes_pattern : Consumes g.pattern :=
  Grammar.Consuming.pattern

instance consumes_item : Consumes g.item :=
  Grammar.Consuming.item

instance consumes_useTree (allowRoot : Bool) : Consumes (g.useTree allowRoot) :=
  Grammar.Consuming.useTree allowRoot

/-! ### Nonterminals in expressions -/

instance consumes_exprWith (allowStruct : Bool) : Consumes (g.exprWith allowStruct) := by
  unfold Grammar.exprWith
  infer_instance

instance consumes_expr : Consumes (g.expr) := by
  unfold Grammar.expr
  infer_instance

instance consumes_block : Consumes (g.block) := by
  unfold Grammar.block
  infer_instance

/-! ### Attributes and blocks -/

instance consumes_modulePathRule : Consumes modulePathRule := by
  unfold modulePathRule
  infer_instance

instance consumes_macroCallRule (path : ModulePath) : Consumes (macroCallRule path) := by
  unfold macroCallRule
  infer_instance

instance consumes_outerAttributeRule : Consumes (outerAttributeRule g) := by
  unfold outerAttributeRule
  infer_instance

instance consumes_outerAttributesRule : Consumes (outerAttributesRule g) := by
  unfold outerAttributesRule
  infer_instance

instance consumes_innerAttributesRule : Consumes (innerAttributesRule g) := by
  unfold innerAttributesRule
  infer_instance

instance consumes_body : Consumes (g.body) := by
  unfold Grammar.body
  infer_instance

instance consumes_blockOf (kind : BlockKind) (label : Option String) :
    Consumes (g.blockOf kind label) := by
  unfold Grammar.blockOf
  split <;> infer_instance

/-! ### Paths -/

instance consumes_constArgumentRule : Consumes (constArgumentRule g) := by
  unfold constArgumentRule
  infer_instance

instance consumes_genericArgumentRule : Consumes (genericArgumentRule g) := by
  unfold genericArgumentRule
  refine .otherwise (.otherwise (.bind inferInstance fun argument => ?_))
  split <;> infer_instance

instance consumes_angleArgumentsRule : Consumes (angleArgumentsRule g) := by
  unfold angleArgumentsRule
  infer_instance

instance consumes_pathSegmentRule (inExpr : Bool) (before : Path) :
    Consumes (pathSegmentRule g inExpr before) := by
  unfold pathSegmentRule
  infer_instance

instance consumes_moreSegmentsRule (inExpr : Bool) (before : Path) :
    Consumes (moreSegmentsRule g inExpr before) := by
  unfold moreSegmentsRule
  infer_instance

instance consumes_pathRule (inExpr : Bool) : Consumes (pathRule g inExpr) := by
  unfold pathRule
  infer_instance

instance consumes_qualifiedPathRule (inExpr : Bool) : Consumes (qualifiedPathRule g inExpr) := by
  unfold qualifiedPathRule
  refine .bind inferInstance fun isTyped => .ite (.bind inferInstance fun type => ?_) inferInstance
  refine .bind inferInstance fun isTrait => ?_
  extract_lets behind
  have hbehind : ∀ start, Consumes (behind start) := by
    intro start
    infer_instance
  infer_instance

instance consumes_outputRule (allowPlus : Bool) : Consumes (outputRule g allowPlus) := by
  unfold outputRule
  infer_instance

instance consumes_callParamsRule (path : Path) : Consumes (callParamsRule g path) := by
  unfold callParamsRule
  refine .bind inferInstance fun _ => .bind inferInstance fun _ => .bind inferInstance fun _ => ?_
  split <;> infer_instance

/-! ### Generic parameters -/

instance consumes_lifetimeParamRule : Consumes lifetimeParamRule := by
  unfold lifetimeParamRule
  infer_instance

instance consumes_typeParamRule : Consumes (typeParamRule g) := by
  unfold typeParamRule
  infer_instance

instance consumes_constParamRule : Consumes (constParamRule g) := by
  unfold constParamRule
  infer_instance

instance consumes_genericParamRule (allowInfer : Bool) :
    Consumes (genericParamRule g allowInfer) := by
  unfold genericParamRule
  infer_instance

instance consumes_genericParamsRule (allowInfer : Bool) :
    Consumes (genericParamsRule g allowInfer) := by
  unfold genericParamsRule
  infer_instance

instance consumes_binderRule? : Consumes (binderRule? g) := by
  unfold binderRule?
  infer_instance

/-! ### Bounds -/

instance consumes_captureRule : Consumes captureRule := by
  unfold captureRule
  infer_instance

instance consumes_traitBoundRule (rules : BoundRules) : Consumes (traitBoundRule g rules) := by
  unfold traitBoundRule
  refine .bind inferInstance fun binder => .bind inferInstance fun conditional => ?_
  refine .bind inferInstance fun unconditional => ?_
  extract_lets named checked
  have hnamed : ∀ u, Consumes (named u) := by
    intro u
    infer_instance
  have hchecked : ∀ u, Consumes (checked u) := by
    intro u
    infer_instance
  infer_instance

instance consumes_boundRule (rules : BoundRules) : Consumes (boundRule g rules) := by
  unfold boundRule
  infer_instance

instance consumes_moreBoundsAt (rules : BoundRules) (fuel : Nat) :
    Consumes (moreBoundsAt g rules fuel) := by
  induction fuel with
  | zero => exact consumes_failure
  | succ fuel ih =>
    unfold moreBoundsAt
    infer_instance

instance consumes_moreBoundsRule (rules : BoundRules) : Consumes (moreBoundsRule g rules) where
  suffix h := (consumes_moreBoundsAt g rules _).suffix h

instance consumes_boundsRule (rules : BoundRules) (allowPlus : Bool) :
    Consumes (boundsRule g rules allowPlus) := by
  unfold boundsRule
  infer_instance

/-! ### Types -/

instance consumes_objectBoundsRule (allowPlus : Bool) :
    Consumes (objectBoundsRule g allowPlus) := by
  unfold objectBoundsRule
  infer_instance

instance consumes_parenthesizedObjectRule (first : Bound) :
    Consumes (parenthesizedObjectRule g first) := by
  unfold parenthesizedObjectRule
  infer_instance

instance consumes_parenTypeRule (allowPlus : Bool) : Consumes (parenTypeRule g allowPlus) := by
  unfold parenTypeRule
  refine .bind inferInstance fun inner => ?_
  split
  · infer_instance
  · infer_instance
  · infer_instance
  · refine .bind inferInstance fun _ => .ite ?_ inferInstance
    split <;> infer_instance

instance consumes_linkageRule : Consumes linkageRule := by
  unfold linkageRule
  infer_instance

instance consumes_functionTypeRule : Consumes (functionTypeRule g) := by
  unfold functionTypeRule
  infer_instance

instance consumes_pathTailAt (fuel : Nat) (path : Path) : Consumes (pathTailAt g fuel path) := by
  induction fuel generalizing path with
  | zero => exact consumes_failure
  | succ fuel ih =>
    unfold pathTailAt
    infer_instance

instance consumes_typePathRule : Consumes (typePathRule g) := by
  unfold typePathRule
  exact .bind inferInstance fun path => ⟨fun h => (consumes_pathTailAt g _ path).suffix h⟩

instance consumes_builtinRule : Consumes builtinRule := by
  unfold builtinRule
  infer_instance

instance consumes_pathTypeRule (allowPlus : Bool) (binder : Option (List Generic × Bool)) :
    Consumes (pathTypeRule g allowPlus binder) := by
  unfold pathTypeRule
  refine .bind inferInstance fun path => .ite inferInstance (.bind inferInstance fun isCall => ?_)
  extract_lets bound called
  have hcalled : ∀ call, Consumes (called call) := by
    intro call
    cases call <;> infer_instance
  infer_instance

instance consumes_typeRule (allowPlus : Bool) : Consumes (typeRule g allowPlus) := by
  unfold typeRule
  refine .bind inferInstance fun binder => ?_
  extract_lets behind
  have hbehind : ∀ u, Consumes (behind u) := by
    intro u
    refine .otherwise <| .otherwise <| .otherwise <| .otherwise <| .otherwise ?_
    refine .otherwise <| .otherwise <| .otherwise <| .otherwise <| .otherwise ?_
    infer_instance
  clear_value behind
  infer_instance

/-! ### Patterns -/

instance consumes_alternativesRule : Consumes (alternativesRule g) := by
  unfold alternativesRule
  infer_instance

instance consumes_memberRule : Consumes memberRule := by
  unfold memberRule
  refine .otherwise (.bind inferInstance fun number => ?_)
  split <;> infer_instance

instance consumes_patternLimitsRule : Consumes patternLimitsRule := by
  unfold patternLimitsRule
  infer_instance

instance consumes_patternEndRule : Consumes (patternEndRule g) := by
  unfold patternEndRule
  infer_instance

instance consumes_patternRangeRule (start : Option Expr) : Consumes (patternRangeRule g start) := by
  unfold patternRangeRule
  infer_instance

instance consumes_pathPatternRule : Consumes (pathPatternRule g) := by
  unfold pathPatternRule
  refine .bind inferInstance fun path => .bind inferInstance fun isCall => ?_
  extract_lets called
  have hcalled : ∀ call, Consumes (called call) := by
    intro call
    cases call <;> infer_instance
  infer_instance

instance consumes_bindingPatternRule : Consumes (bindingPatternRule g) := by
  unfold bindingPatternRule
  infer_instance

instance consumes_parenPatternRule : Consumes (parenPatternRule g) := by
  unfold parenPatternRule
  refine .bind inferInstance fun (elements, trailing) => ?_
  dsimp only
  split <;> infer_instance

instance consumes_patternRule : Consumes (patternRule g) := by
  unfold patternRule
  have hstart : ∀ start : Option Expr, Consumes (match start with
      | none => failure
      | some start => do
        if ← look (atPunct "..") then return Pattern.value (← patternRangeRule g (some start))
        else return .value start) := by
    intro start
    cases start <;> infer_instance
  have hrange : ∀ range : Expr, Consumes (match range with
      | .range none _ none => pure Pattern.rest
      | range => pure (.value range)) := by
    intro range
    split <;> infer_instance
  refine .otherwise <| .otherwise <| .otherwise <| .otherwise ?_
  infer_instance

/-! ### Operators -/

instance consumes_rightOperandAt (allowStruct : Bool) (precedence : Precedence) (fuel : Nat)
    (right : Expr) :
    Consumes (rightOperandAt g allowStruct precedence fuel right) := by
  induction fuel generalizing right with
  | zero => exact consumes_failure
  | succ fuel ih =>
    unfold rightOperandAt
    infer_instance

instance consumes_rightOperandRule (allowStruct : Bool) (precedence : Precedence) :
    Consumes (rightOperandRule g allowStruct precedence) := by
  unfold rightOperandRule
  refine .bind inferInstance fun right => ⟨fun h => ?_⟩
  exact (consumes_rightOperandAt g allowStruct precedence _ right).suffix h

instance consumes_limitsRule : Consumes limitsRule := by
  unfold limitsRule
  infer_instance

instance consumes_rangeRule (allowStruct : Bool) (start : Option Expr) :
    Consumes (rangeRule g allowStruct start) := by
  unfold rangeRule
  infer_instance

instance consumes_operatorsAt (allowStruct : Bool) (base : Precedence) (fuel : Nat) (left : Expr) :
    Consumes (operatorsAt g allowStruct base fuel left) := by
  induction fuel generalizing left with
  | zero => exact consumes_failure
  | succ fuel ih =>
    unfold operatorsAt
    refine .ite inferInstance (.bind inferInstance fun operator => ?_)
    cases operator <;> infer_instance

instance consumes_operatorsRule (allowStruct : Bool) (base : Precedence) (left : Expr) :
    Consumes (operatorsRule g allowStruct base left) where
  suffix h := (consumes_operatorsAt g allowStruct base _ left).suffix h

/-! ### Accesses and calls -/

instance consumes_memberAccessRule (base : Expr) : Consumes (memberAccessRule g base) := by
  unfold memberAccessRule
  refine .otherwise (.bind inferInstance fun member => ?_)
  cases member with
  | named name =>
    refine .bind inferInstance fun isTyped => .bind inferInstance fun isCalled => ?_
    extract_lets called
    have hcalled : ∀ method, Consumes (called method) := by
      intro method
      cases method <;> infer_instance
    infer_instance
  | position index => infer_instance

instance consumes_accessRule (base : Expr) : Consumes (accessRule g base) := by
  unfold accessRule
  refine .bind inferInstance fun _ => .bind inferInstance fun _ => .ite ?_ inferInstance
  refine .bind inferInstance fun number => .ite ?_ ?_
  · split <;> infer_instance
  · split <;> infer_instance

instance consumes_trailersAt (fuel : Nat) (e : Expr) : Consumes (trailersAt g fuel e) := by
  induction fuel generalizing e with
  | zero => exact consumes_failure
  | succ fuel ih =>
    unfold trailersAt
    infer_instance

instance consumes_trailersRule (e : Expr) : Consumes (trailersRule g e) where
  suffix h := (consumes_trailersAt g _ e).suffix h

/-! ### Atoms -/

instance consumes_pathExprRule (allowStruct : Bool) : Consumes (pathExprRule g allowStruct) := by
  unfold pathExprRule
  refine .bind inferInstance fun path => .bind inferInstance fun isCall => ?_
  extract_lets called
  have hcalled : ∀ call, Consumes (called call) := by
    intro call
    cases call <;> infer_instance
  infer_instance

instance consumes_parenExprRule : Consumes (parenExprRule g) := by
  unfold parenExprRule
  refine .bind inferInstance fun (elements, trailing) => ?_
  dsimp only
  split <;> infer_instance

instance consumes_bracketExprRule : Consumes (bracketExprRule g) := by
  unfold bracketExprRule
  infer_instance

instance consumes_conditionalAt (fuel : Nat) : Consumes (conditionalAt g fuel) := by
  induction fuel with
  | zero => exact consumes_failure
  | succ fuel ih =>
    unfold conditionalAt
    infer_instance

instance consumes_conditionalRule : Consumes (conditionalRule g) where
  suffix h := (consumes_conditionalAt g _).suffix h

instance consumes_loopRule (label : Option String) : Consumes (loopRule g label) := by
  unfold loopRule
  infer_instance

instance consumes_choiceRule : Consumes (choiceRule g) := by
  unfold choiceRule
  infer_instance

instance consumes_labelledRule : Consumes (labelledRule g) := by
  unfold labelledRule
  infer_instance

instance consumes_closureParamRule : Consumes (closureParamRule g) := by
  unfold closureParamRule
  infer_instance

instance consumes_closureRule (allowStruct : Bool) : Consumes (closureRule g allowStruct) := by
  unfold closureRule
  infer_instance

instance consumes_valueRule : Consumes (valueRule g) := by
  unfold valueRule
  infer_instance

instance consumes_breakRule (allowStruct : Bool) : Consumes (breakRule g allowStruct) := by
  unfold breakRule
  infer_instance

instance consumes_atomRule (allowStruct : Bool) : Consumes (atomRule g allowStruct) := by
  unfold atomRule
  refine .otherwise <| .otherwise <| .otherwise <| .otherwise <| .otherwise <| .otherwise <|
    .otherwise ?_
  refine .otherwise <| .otherwise <| .otherwise <| .otherwise <| .otherwise <| .otherwise <|
    .otherwise ?_
  refine .otherwise <| .otherwise <| .otherwise <| .otherwise <| .otherwise <| .otherwise ?_
  infer_instance

instance consumes_unaryOperatorRule : Consumes unaryOperatorRule := by
  unfold unaryOperatorRule
  infer_instance

/-! ### Operands -/

instance consumes_bareOperandRule (allowStruct isAttributed : Bool) :
    Consumes (bareOperandRule g allowStruct isAttributed) := by
  unfold bareOperandRule
  infer_instance

instance consumes_operandRule (allowStruct : Bool) : Consumes (operandRule g allowStruct) := by
  unfold operandRule
  refine .bind inferInstance fun (e, tokens) => ?_
  dsimp only
  split <;> infer_instance

/-! ### Data of types -/

instance consumes_visibilityRule : Consumes visibilityRule := by
  unfold visibilityRule
  refine .bind inferInstance fun isPublic => .ite ⟨fun {input rest a} h => ?_⟩ inferInstance
  obtain ⟨_, _, hget, h⟩ := bind_eq_some_iff.1 h
  cases hget
  split at h
  · obtain ⟨_, _, hread, h⟩ := bind_eq_some_iff.1 h
    obtain ⟨⟨restriction, _⟩, -, hsame⟩ := Option.map_eq_some_iff.1 hread
    cases hsame
    cases restriction with
    | none =>
      cases h
      exact List.suffix_rfl
    | some visibility =>
      obtain ⟨_, _, hset, h⟩ := bind_eq_some_iff.1 h
      cases hset
      cases h
      exact List.suffix_cons _ _
  · cases h
    exact List.suffix_rfl

instance consumes_itemParamsRule : Consumes (itemParamsRule g) := by
  unfold itemParamsRule
  infer_instance

instance consumes_boundsUntilRule (rules : BoundRules) (stop : Tokens → Bool) :
    Consumes (boundsUntilRule g rules stop) := by
  unfold boundsUntilRule
  infer_instance

instance consumes_conditionRule : Consumes (conditionRule g) := by
  unfold conditionRule
  infer_instance

instance consumes_conditionsRule : Consumes (conditionsRule g) := by
  unfold conditionsRule
  infer_instance

instance consumes_namedFieldsRule : Consumes (namedFieldsRule g) := by
  unfold namedFieldsRule
  refine .bind inferInstance fun _ => ?_
  split <;> infer_instance

instance consumes_unnamedFieldsRule : Consumes (unnamedFieldsRule g) := by
  unfold unnamedFieldsRule
  infer_instance

instance consumes_structRule : Consumes (structRule g) := by
  unfold structRule
  infer_instance

instance consumes_enumRule : Consumes (enumRule g) := by
  unfold enumRule
  infer_instance

instance consumes_unionRule : Consumes (unionRule g) := by
  unfold unionRule
  infer_instance

instance consumes_dataRule : Consumes (dataRule g) := by
  unfold dataRule
  infer_instance

/-! ### Functions -/

instance consumes_signatureRule (isDefault safe : Bool) :
    Consumes (signatureRule g isDefault safe) := by
  unfold signatureRule
  infer_instance

/-! ### Items -/

instance consumes_nameOrUnderscore : Consumes nameOrUnderscore := by
  unfold nameOrUnderscore
  infer_instance

instance consumes_macroItemRule (named : Bool) : Consumes (macroItemRule named) := by
  unfold macroItemRule
  infer_instance

instance consumes_markedRule (p : ItemVisibility → Parser (Option Item)) [∀ v, Consumes (p v)] :
    Consumes (markedRule g p) := by
  unfold markedRule
  infer_instance

instance consumes_itemBody (p : Parser Item) : Consumes (itemBody g p) := by
  unfold itemBody
  infer_instance

instance consumes_initialRule : Consumes (initialRule g) := by
  unfold initialRule
  infer_instance

instance consumes_constRule (isDefault needsValue : Bool) :
    Consumes (constRule g isDefault needsValue) := by
  unfold constRule
  infer_instance

instance consumes_staticRule : Consumes (staticRule g) := by
  unfold staticRule
  infer_instance

instance consumes_aliasRule (isDefault : Bool) (place : WherePlace) :
    Consumes (aliasRule g isDefault place) := by
  unfold aliasRule
  refine .bind inferInstance fun _ => .bind inferInstance fun name =>
    .bind inferInstance fun params => ?_
  refine .bind inferInstance fun colon => ?_
  extract_lets bounded
  have hbounded : ∀ bounds, Consumes (bounded bounds) := by
    intro bounds
    infer_instance
  infer_instance

instance consumes_definiteAliasRule (isDefault : Bool) (place : WherePlace) :
    Consumes (definiteAliasRule g isDefault place) := by
  unfold definiteAliasRule
  refine .bind inferInstance fun _ => ?_
  split <;> infer_instance

instance consumes_implRule (visible : Bool) : Consumes (implRule g visible) := by
  unfold implRule
  refine .bind inferInstance fun isDefault => .bind inferInstance fun isUnsafe =>
    .bind inferInstance fun _ => ?_
  refine .bind inferInstance fun hasParams => ?_
  extract_lets behindParams
  have hparams : ∀ params, Consumes (behindParams params) := by
    intro params
    refine .bind inferInstance fun isConst => ?_
    extract_lets behindConst
    have hconst : ∀ u, Consumes (behindConst u) := by
      intro u
      infer_instance
    clear_value behindConst
    infer_instance
  clear_value behindParams
  infer_instance

instance consumes_traitRule (isUnsafe isAuto : Bool) : Consumes (traitRule g isUnsafe isAuto) := by
  unfold traitRule
  infer_instance

instance consumes_foreignRule : Consumes (foreignRule g) := by
  unfold foreignRule
  infer_instance

instance consumes_externCrateRule : Consumes externCrateRule := by
  unfold externCrateRule
  infer_instance

instance consumes_useTreeRule (allowRoot : Bool) : Consumes (useTreeRule g allowRoot) := by
  unfold useTreeRule
  infer_instance

instance consumes_useRule : Consumes (useRule g) := by
  unfold useRule
  infer_instance

instance consumes_moduleRule : Consumes (moduleRule g) := by
  unfold moduleRule
  infer_instance

instance consumes_macroDefinitionRule : Consumes macroDefinitionRule := by
  unfold macroDefinitionRule
  infer_instance

instance consumes_functionItemRule : Consumes (functionItemRule g) := by
  unfold functionItemRule
  infer_instance

instance consumes_visibleItemRule (visibility : ItemVisibility) :
    Consumes (visibleItemRule g visibility) := by
  unfold visibleItemRule
  extract_lets inherited next
  refine .otherwise <| .otherwise <| .otherwise <| .otherwise <| .otherwise <| .otherwise ?_
  refine .otherwise <| .otherwise <| .otherwise <| .otherwise ?_
  infer_instance

instance consumes_itemRule : Consumes (itemRule g) := by
  unfold itemRule
  infer_instance

end Rules

/-! ### Levels of the grammar -/

/-- **Every level of the grammar consumes.**  The rules on one level leave ends of their input
because the nonterminals on the level below do. -/
instance consuming_level (depth : Nat) : (Grammar.level depth).Consuming := by
  induction depth with
  | zero =>
    exact ⟨fun _ => consumes_failure, fun _ => consumes_failure, fun _ => consumes_failure,
      fun _ _ _ => consumes_failure, consumes_failure, consumes_failure, fun _ => consumes_failure⟩
  | succ depth ih =>
    exact ⟨consumes_typeRule _, consumes_boundRule _, consumes_operandRule _,
      consumes_operatorsRule _, consumes_patternRule _, consumes_itemRule _, consumes_useTreeRule _⟩

end FluentBuilder.Code
