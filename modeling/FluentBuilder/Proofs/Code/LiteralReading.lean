import FluentBuilder.Proofs.Code.StatementReading
import FluentBuilder.Proofs.Code.StructNames

/-!
# Reading literals

An expression is a literal only if nothing stands in front of the literal and behind it.  Every rule
for expressions but one yields something else, and what follows an operand makes a larger expression
of it.

* `yields_trailersAt`, `yields_operatorsAt` — what follows an expression does not make it a literal;
* `trailersAt_literal`, `operatorsAt_literal` — a literal has nothing behind it;
* `literal_of_expr`, `expr_literal` — the expressions that are literals are read off literals, and
  these are read.
-/

namespace FluentBuilder.Code

variable {input rest : Tokens} {text name : String}

/-! ### Parts of a text -/

theorem splitOnAux_ne_nil (s separator : String) (start here behind : String.Pos.Raw)
    (parts : List String) :
    String.splitOnAux s separator start here behind parts ≠ [] := by
  fun_induction String.splitOnAux s separator start here behind parts <;> simp_all

theorem splitOn_ne_nil (s separator : String) : s.splitOn separator ≠ [] := by
  unfold String.splitOn
  split
  · exact List.cons_ne_nil _ _
  · exact splitOnAux_ne_nil _ _ _ _ _ _

/-! ### Literals -/

/-- Whether an expression is a literal. -/
@[reducible]
def Expr.isLiteral : Expr → Bool
  | .literal _ => true
  | _ => false

theorem isLiteral_withAttributes_cons (a : Meta) (more : List Meta) (e : Expr) :
    (e.withAttributes (a :: more)).isLiteral = false := by
  cases e <;> rfl

/-- A string literal is a token by itself, unlike a truth value or a number with its sign. -/
theorem eq_of_literal {value : String} (h : literal input = some (text, rest))
    (hvalue : stringValue? text = some value) : input = .leaf (.literal text) :: rest := by
  unfold literal splitLiteral? at h
  split at h
  · cases h
    rfl
  · next word behind =>
    rw [Option.ite_none_right_eq_some, Bool.or_eq_true, beq_iff_eq, beq_iff_eq] at h
    obtain ⟨rfl | rfl, h⟩ := h
    · cases h
      cases hvalue
    · cases h
      cases hvalue
  · next joint digits behind =>
    rw [Option.ite_none_right_eq_some] at h
    cases h.2
    have hsign : ("-" ++ digits).toList = '-' :: digits.toList := by rw [String.toList_append]; rfl
    unfold stringValue? at hvalue
    rw [hsign] at hvalue
    cases hvalue
  · cases h

/-! ### Expressions that are no literals -/

/-- No literal is read where no result is one. -/
theorem ne_literal_of_yields {p : Parser Expr} (h : Yields (fun e => e.isLiteral = false) p) :
    p input ≠ some (.literal text, rest) := by
  intro hread
  cases h.holds hread

section Rules

variable (g : Grammar)

-- The rules are long, and each step of a rule is one more instance.
set_option synthInstance.maxSize 1000

instance yields_blockOf (kind : BlockKind) (label : Option String) :
    Yields (fun e => e.isLiteral = false) (g.blockOf kind label) := by
  unfold Grammar.blockOf
  split <;> infer_instance

instance yields_closureRule (allowStruct : Bool) :
    Yields (fun e => e.isLiteral = false) (closureRule g allowStruct) := by
  unfold closureRule
  refine .bind fun binder => .bind fun _ => .bind fun _ => .bind fun _ => .bind fun _ => ?_
  extract_lets head behind
  refine .bind fun _ => .bind fun params => .bind fun _ => .bind fun arrow => ?_
  have hbehind (closure : Expr) (hclosure : closure.isLiteral = false) :
      Yields (fun e => e.isLiteral = false) (behind closure) := by
    refine ⟨fun h => ?_⟩
    cases h
    cases binder
    · exact hclosure
    · rfl
  split
  · exact .bind fun _ => .bind fun _ => hbehind _ rfl
  · exact .bind fun _ => hbehind _ rfl

instance yields_pathExprRule (allowStruct : Bool) :
    Yields (fun e => e.isLiteral = false) (pathExprRule g allowStruct) := by
  unfold pathExprRule
  refine .bind fun path => .bind fun called => ?_
  extract_lets behind
  have hbehind : ∀ call?, Yields (fun e => e.isLiteral = false) (behind call?) := by
    intro call?
    cases call? <;> infer_instance
  clear_value behind
  infer_instance

instance yields_parenExprRule : Yields (fun e => e.isLiteral = false) (parenExprRule g) := by
  unfold parenExprRule
  refine .bind fun elements => ?_
  split
  split <;> infer_instance

instance yields_bracketExprRule : Yields (fun e => e.isLiteral = false) (bracketExprRule g) := by
  unfold bracketExprRule
  infer_instance

instance yields_conditionalAt (fuel : Nat) :
    Yields (fun e => e.isLiteral = false) (conditionalAt g fuel) := by
  cases fuel with
  | zero => exact yields_failure
  | succ fuel =>
    unfold conditionalAt
    infer_instance

instance yields_conditionalRule : Yields (fun e => e.isLiteral = false) (conditionalRule g) where
  holds h := (yields_conditionalAt g _).holds h

instance yields_loopRule (label : Option String) :
    Yields (fun e => e.isLiteral = false) (loopRule g label) := by
  unfold loopRule
  infer_instance

instance yields_choiceRule : Yields (fun e => e.isLiteral = false) (choiceRule g) := by
  unfold choiceRule
  infer_instance

instance yields_labelledRule : Yields (fun e => e.isLiteral = false) (labelledRule g) := by
  unfold labelledRule
  infer_instance

instance yields_breakRule (allowStruct : Bool) :
    Yields (fun e => e.isLiteral = false) (breakRule g allowStruct) := by
  unfold breakRule
  infer_instance

instance yields_rangeRule (allowStruct : Bool) (start : Option Expr) :
    Yields (fun e => e.isLiteral = false) (rangeRule g allowStruct start) := by
  unfold rangeRule
  infer_instance

/-! ### Expressions that are literals -/

variable {g} {allowStruct : Bool}

/-- An atom that is a literal is read off one: the other kinds of atoms are no literals. -/
theorem literal_of_atomRule (h : atomRule g allowStruct input = some (.literal text, rest)) :
    literal input = some (text, rest) := by
  unfold atomRule at h
  cases hliteral : atLiteral input with
  | true =>
    obtain ⟨_, _, hread, h⟩ := bind_eq_some_iff.1 ((chosen hliteral).symm.trans h)
    cases h
    exact hread
  | false =>
    refine absurd ((otherwise hliteral).symm.trans h) (ne_literal_of_yields ?_)
    refine .otherwise <| .otherwise <| .otherwise <| .otherwise <| .otherwise <| .otherwise <|
      .otherwise ?_
    refine .otherwise <| .otherwise <| .otherwise <| .otherwise <| .otherwise <| .otherwise <|
      .otherwise ?_
    refine .otherwise <| .otherwise <| .otherwise <| .otherwise <| .otherwise ?_
    infer_instance

/-- Fields behind a number of points: each part of the number is one. -/
theorem isLiteral_of_fields? {base e : Expr} {number : String} (h : base.fields? number = some e) :
    e.isLiteral = false := by
  have hparts : ∀ (parts : List String) (base e : Expr), parts ≠ [] → parts.foldlM (fun e part => do
      let index ← integerValue? part
      if index < positionLimit then some (.field e (.position index)) else none) base = some e →
        e.isLiteral = false := by
    intro parts
    induction parts with
    | nil => exact fun _ _ hne _ => absurd rfl hne
    | cons part others ih =>
      intro base e _ h
      obtain ⟨next, hnext, h⟩ := Option.bind_eq_some_iff.1 h
      obtain ⟨index, -, hnext⟩ := Option.bind_eq_some_iff.1 hnext
      rw [Option.ite_none_right_eq_some] at hnext
      cases hnext.2
      rcases others with - | ⟨second, others⟩
      · cases h
        rfl
      · exact ih _ e (List.cons_ne_nil _ _) h
  exact hparts _ base e (splitOn_ne_nil _ _) h

instance yields_memberAccessRule (base : Expr) :
    Yields (fun e => e.isLiteral = false) (memberAccessRule g base) := by
  unfold memberAccessRule
  refine .otherwise (.bind fun member => ?_)
  split
  · refine .bind fun called => ?_
    extract_lets behind
    have hbehind : ∀ method?, Yields (fun e => e.isLiteral = false) (behind method?) := by
      intro method?
      cases method? <;> infer_instance
    clear_value behind
    infer_instance
  · infer_instance

instance yields_accessRule (base : Expr) :
    Yields (fun e => e.isLiteral = false) (accessRule g base) := by
  unfold accessRule
  refine .bind fun _ => .bind fun isNumber => .ite (.bind fun number => ?_) inferInstance
  extract_lets digits
  split
  · split <;> infer_instance
  · split
    · next e he => exact .of (isLiteral_of_fields? he)
    · infer_instance

/-- No calls and accesses behind an expression make it a literal. -/
theorem yields_trailersAt (fuel : Nat) {e : Expr} (he : e.isLiteral = false) :
    Yields (fun e => e.isLiteral = false) (trailersAt g fuel e) := by
  induction fuel generalizing e with
  | zero => exact yields_failure
  | succ fuel ih =>
    unfold trailersAt
    refine .bind fun _ => .ite (.bind fun _ => ih rfl)
      (.bind fun _ => .ite ?_ (.bind fun _ => .ite ?_ ?_))
    · exact .bind_of (yields_accessRule e) fun _ hnext => ih hnext
    · exact .bind fun _ => ih rfl
    · exact .bind fun _ => .ite (.bind fun _ => ih rfl) (.of he)

/-- No operators behind an expression make it a literal. -/
theorem yields_operatorsAt (base : Precedence) (fuel : Nat) {left : Expr}
    (hleft : left.isLiteral = false) :
    Yields (fun e => e.isLiteral = false) (operatorsAt g allowStruct base fuel left) := by
  induction fuel generalizing left with
  | zero => exact yields_failure
  | succ fuel ih =>
    unfold operatorsAt
    refine .ite (.of hleft) (.bind fun operator? => ?_)
    split
    · exact .ite (.of hleft) (.ite yields_failure (.bind fun _ => .bind fun _ => ih rfl))
    · refine .bind fun _ => .ite (.bind fun _ => .bind fun _ => ih rfl) ?_
      refine .bind fun _ => .ite ?_ (.bind fun _ => .ite ?_ ?_)
      · exact .bind_of (yields_rangeRule g allowStruct _) fun _ hrange => ih hrange
      · exact .bind fun _ => .bind fun _ => .bind fun _ => ih rfl
      · exact .of hleft

/-- Where the branch that is taken behind a test yields no literal, a literal is read in the other
branch. -/
theorem otherwise_look {test : Tokens → Bool} {c : Bool → Prop} [∀ b, Decidable (c b)]
    {p q : Parser Expr}
    (h : (look test >>= fun b => if c b then p else q) input = some (.literal text, rest))
    (hp : Yields (fun e => e.isLiteral = false) p) : q input = some (.literal text, rest) := by
  obtain ⟨b, mid, hlook, h⟩ := bind_eq_some_iff.1 h
  cases hlook
  split at h
  · exact absurd h (ne_literal_of_yields hp)
  · exact h

/-- The same where the test is for a mark, which is read if it is there. -/
theorem otherwise_mark {operator : String} {c : Bool → Prop} [∀ b, Decidable (c b)]
    {p q : Parser Expr}
    (h : (punct? operator >>= fun b => if c b then p else q) input = some (.literal text, rest))
    (hc : c true) (hp : Yields (fun e => e.isLiteral = false) p) :
    q input = some (.literal text, rest) := by
  obtain ⟨b, mid, hmark, h⟩ := bind_eq_some_iff.1 h
  obtain ⟨found, _, hlook, hmark⟩ := bind_eq_some_iff.1 hmark
  cases hlook
  cases hfound : atPunct operator input with
  | true =>
    rw [hfound] at hmark
    cases hmark
    rw [if_pos hc] at h
    exact absurd h (ne_literal_of_yields hp)
  | false =>
    rw [hfound] at hmark
    cases hmark
    split at h
    · exact absurd h (ne_literal_of_yields hp)
    · exact h

/-- A literal has no calls and accesses behind it. -/
theorem trailersAt_literal {fuel : Nat} {e : Expr}
    (h : trailersAt g fuel e input = some (.literal text, rest)) :
    e = .literal text ∧ rest = input := by
  cases hliteral : e.isLiteral with
  | false => exact absurd h (ne_literal_of_yields (yields_trailersAt fuel hliteral))
  | true =>
    cases fuel with
    | zero => cases h
    | succ fuel =>
      have h := otherwise_look h (.bind fun _ => yields_trailersAt fuel rfl)
      have h := otherwise_look h
        (.bind_of (yields_accessRule e) fun _ hnext => yields_trailersAt fuel hnext)
      have h := otherwise_look h (.bind fun _ => yields_trailersAt fuel rfl)
      have h := otherwise_look h (.bind fun _ => yields_trailersAt fuel rfl)
      cases h
      exact ⟨rfl, rfl⟩

/-- A literal has no operators behind it. -/
theorem operatorsAt_literal {base : Precedence} {fuel : Nat} {left : Expr}
    (h : operatorsAt g allowStruct base fuel left input = some (.literal text, rest)) :
    left = .literal text ∧ rest = input := by
  cases hliteral : left.isLiteral with
  | false => exact absurd h (ne_literal_of_yields (yields_operatorsAt base fuel hliteral))
  | true =>
    have hrange : left.isRange = false := by
      cases left <;> first | rfl | cases hliteral
    have hend (h : (pure left : Parser Expr) input = some (.literal text, rest)) :
        left = .literal text ∧ rest = input := by
      cases h
      exact ⟨rfl, rfl⟩
    cases fuel with
    | zero => cases h
    | succ fuel =>
      unfold operatorsAt at h
      rw [hrange] at h
      obtain ⟨operator?, mid, hoperator, h⟩ := bind_eq_some_iff.1 h
      cases hoperator
      cases hbinary : binaryOperator? input with
      | some operator =>
        rw [hbinary] at h
        dsimp only at h
        split at h
        · exact hend h
        · split at h
          · cases h
          · refine absurd h (ne_literal_of_yields ?_)
            exact .bind fun _ => .bind fun _ => yields_operatorsAt base fuel rfl
      | none =>
        rw [hbinary] at h
        have h := otherwise_look h (.bind fun _ => .bind fun _ => yields_operatorsAt base fuel rfl)
        have h := otherwise_look h (.bind_of (yields_rangeRule g allowStruct _) fun _ hrange =>
          yields_operatorsAt base fuel hrange)
        have h := otherwise_look h
          (.bind fun _ => .bind fun _ => .bind fun _ => yields_operatorsAt base fuel rfl)
        exact hend h

theorem literal_of_bareOperandRule {isAttributed : Bool}
    (h : bareOperandRule g allowStruct isAttributed input = some (.literal text, rest)) :
    literal input = some (text, rest) := by
  have h := otherwise_mark h rfl inferInstance
  have h := otherwise_look h inferInstance
  obtain ⟨atom, mid, hatom, h⟩ := bind_eq_some_iff.1 h
  obtain ⟨e, left, he, h⟩ := bind_eq_some_iff.1 h
  split at h
  · cases h
  · cases h
    obtain ⟨rfl, rfl⟩ := trailersAt_literal he
    exact literal_of_atomRule hatom

theorem eq_of_repeatWhile_nil {α : Type} {test : Tokens → Bool} {p : Parser α}
    (h : repeatWhile test p input = some ([], rest)) : rest = input := by
  obtain ⟨more, _, hlook, h⟩ :=
    bind_eq_some_iff.1 (show whileAt test p (input.length + 1) input = _ from h)
  cases hlook
  split at h
  · obtain ⟨a, mid, -, h⟩ := bind_eq_some_iff.1 h
    obtain ⟨others, left, -, h⟩ := bind_eq_some_iff.1 h
    cases h
  · cases h
    rfl

theorem literal_of_operandRule (h : operandRule g allowStruct input = some (.literal text, rest)) :
    literal input = some (text, rest) := by
  obtain ⟨⟨e, tokens⟩, mid, hread, h⟩ := bind_eq_some_iff.1 h
  have he : e = .literal text ∧ mid = rest := by
    cases e <;> cases h
    exact ⟨rfl, rfl⟩
  obtain ⟨rfl, rfl⟩ := he
  obtain ⟨hread, -⟩ := withTokens_eq_some_iff.1 hread
  obtain ⟨attributes, behind, hattributes, hread⟩ := bind_eq_some_iff.1 hread
  obtain ⟨bare, left, hbare, hread⟩ := bind_eq_some_iff.1 hread
  obtain ⟨hsame, rfl⟩ := Prod.mk.inj (Option.some.inj hread)
  cases attributes with
  | cons a more =>
    have hno := isLiteral_withAttributes_cons a more bare
    rw [hsame] at hno
    cases hno
  | nil =>
    obtain rfl : bare = .literal text := hsame
    obtain rfl := eq_of_repeatWhile_nil hattributes
    exact literal_of_bareOperandRule hbare

/-- **An expression is a literal only if it is read off a literal.** -/
theorem literal_of_expr {n : Nat} (h : (Grammar.level n).expr input = some (.literal text, rest)) :
    literal input = some (text, rest) := by
  obtain ⟨left, mid, hleft, h⟩ := bind_eq_some_iff.1 h
  cases n with
  | zero => cases hleft
  | succ n =>
    obtain ⟨rfl, rfl⟩ := operatorsAt_literal h
    exact literal_of_operandRule hleft

end Rules

/-- A literal is read as an expression where nothing continues it. -/
theorem expr_literal {n : Nat} (hrest : endsExpr true rest = true) :
    (Grammar.level (n + 1)).expr (.leaf (.literal text) :: rest) = some (.literal text, rest) := by
  have hatom : atomRule (Grammar.level n) true (.leaf (.literal text) :: rest)
      = some (.literal text, rest) :=
    (chosen rfl).trans rfl
  have htrailers : trailersRule (Grammar.level n) (.literal text) rest
      = some (.literal text, rest) :=
    trailersAt_of_endsOperand (endsOperand_of_endsExpr hrest) _ _
  have hbare : bareOperandRule (Grammar.level n) true false (.leaf (.literal text) :: rest)
      = some (.literal text, rest) :=
    (otherwise_punct rfl).trans
      ((otherwise rfl).trans ((bind_of_eq_some hatom).trans (bind_of_eq_some htrailers)))
  have hoperand : (Grammar.level (n + 1)).operand true (.leaf (.literal text) :: rest)
      = some (.literal text, rest) :=
    operand_of_bare rfl hbare nofun
  exact (bind_of_eq_some hoperand).trans (operators_of_endsExpr rfl hrest)

end FluentBuilder.Code
