import FluentBuilder.Proofs.Code.TypeReading

/-!
# Reading expressions

The expressions in the methods of a builder are paths, and accesses, calls and struct literals that
start with a path.  Like types, their texts are described by what the rules read.
-/

namespace FluentBuilder.Code

variable {input rest : Tokens}

/-! ### Expressions that combine freely -/

/-- Whether an expression is of one of the forms that combine with what stands around them without
exceptions. -/
def Expr.isOrdinary : Expr → Bool
  | .path _ => true
  | .field .. => true
  | .call .. => true
  | .struct .. => true
  | _ => false

theorem Expr.isRange_of_isOrdinary {e : Expr} (h : e.isOrdinary = true) : e.isRange = false := by
  cases e <;> first | rfl | cases h

theorem Expr.isComplete_of_isOrdinary {e : Expr} (h : e.isOrdinary = true) :
    e.isComplete = false := by
  cases e <;> first | rfl | cases h

/-! ### Operators -/

/-- Whether an expression may end in front of the given tokens; a brace ends it where it cannot open
a struct literal. -/
def endsExpr (allowStruct : Bool) (rest : Tokens) : Bool :=
  endsAt [',', ';'] (!allowStruct) rest

/-- Whether an operand may end in front of the given tokens. -/
def endsOperand (allowStruct : Bool) (rest : Tokens) : Bool :=
  endsAt [',', ';', '='] (!allowStruct) rest

theorem endsOperand_of_endsExpr {allowStruct : Bool} (h : endsExpr allowStruct rest = true) :
    endsOperand allowStruct rest = true := by
  unfold endsExpr endsAt at h
  unfold endsOperand endsAt
  split at h
  · rfl
  · rw [List.contains_iff_mem] at h ⊢
    exact List.mem_append_left ['='] h
  · exact h
  · cases h

/-- No operator with two operands stands where an expression ends. -/
theorem binaryOperator?_of_endsExpr {allowStruct : Bool} (h : endsExpr allowStruct rest = true) :
    binaryOperator? rest = none := by
  have hoperators : ∀ o ∈ binaryOperators, ∀ c, o.1.toList.head? = some c → c ∉ [',', ';'] := by
    have hall : binaryOperators.all (fun o => !o.1.toList.head?.any [',', ';'].contains)
        = true := by
      decide
    intro o ho c hc hmem
    have ho := List.all_eq_true.1 hall o ho
    rw [hc, Option.any_some, List.contains_iff_mem.2 hmem] at ho
    cases ho
  have hsome : ∀ o ∈ binaryOperators, o.1.toList.head?.isSome = true := by
    decide
  unfold binaryOperator?
  rw [List.find?_eq_none]
  intro o ho
  obtain ⟨c, hc⟩ := Option.isSome_iff_exists.1 (hsome o ho)
  obtain ⟨cs, hchars⟩ := List.head?_eq_some_iff.1 hc
  unfold atPunct
  rw [hchars, startsOperator_of_endsAt h (hoperators o ho c hc)]
  exact Bool.false_ne_true

/-- No operator stands where an expression ends. -/
theorem tests_of_endsExpr {allowStruct : Bool} (h : endsExpr allowStruct rest = true) :
    binaryOperator? rest = none ∧ atAssign rest = false ∧ atPunct ".." rest = false
      ∧ atWord "as" rest = false := by
  refine ⟨binaryOperator?_of_endsExpr h, ?_, startsOperator_of_endsAt h (by decide) _,
    atWord_of_endsAt h "as"⟩
  unfold atAssign
  rw [show atPunct "=" rest = false from startsOperator_of_endsAt h (by decide) _]
  rfl

theorem headPrecedence_of_endsExpr {allowStruct : Bool} (h : endsExpr allowStruct rest = true) :
    headPrecedence rest = 0 := by
  obtain ⟨hbinary, hassign, hrange, hcast⟩ := tests_of_endsExpr h
  unfold headPrecedence
  rw [hbinary, hassign, hrange, hcast]
  rfl

theorem operatorsAt_of_endsExpr {g : Grammar} {allowStruct : Bool} {base : Precedence} {e : Expr}
    (he : e.isRange = false) (h : endsExpr allowStruct rest = true) (fuel : Nat) :
    operatorsAt g allowStruct base (fuel + 1) e rest = some (e, rest) := by
  obtain ⟨hbinary, hassign, hrange, hcast⟩ := tests_of_endsExpr h
  unfold operatorsAt
  rw [he]
  refine (bind_of_eq_some (show _ = some (binaryOperator? rest, rest) from rfl)).trans ?_
  rw [hbinary]
  exact (otherwise_and hassign).trans
    ((otherwise_and hrange).trans ((otherwise_and hcast).trans rfl))

/-- An expression ends where nothing continues it. -/
theorem operators_of_endsExpr {n : Nat} {allowStruct : Bool} {base : Precedence} {e : Expr}
    (he : e.isRange = false) (h : endsExpr allowStruct rest = true) :
    (Grammar.level (n + 1)).operators allowStruct base e rest = some (e, rest) :=
  operatorsAt_of_endsExpr he h rest.length

/-! ### Atoms that are paths -/

/-- What a path in an expression can start with. -/
inductive StartsPath : Tokens → Prop
  | word {s : String} {rest : Tokens} (hs : isPathWord s = true)
    (hnumber : atPunct "#" rest = false) :
      StartsPath (Code.word s :: rest)
  | root (rest : Tokens) : StartsPath (.leaf (.punct ':' true) :: .leaf (.punct ':' false) :: rest)
  | type (joint : Bool) (rest : Tokens) : StartsPath (.leaf (.punct '<' joint) :: rest)

theorem IsPathText.startsPath {tokens : Tokens} (h : IsPathText true tokens)
    (hrest : atPunct "#" rest = false) :
    StartsPath (tokens ++ rest) := by
  obtain ⟨first, more, rfl, ⟨rfl, behind, rfl⟩ | ⟨name, rfl, hname⟩, hmore⟩ := h.head
  · exact .root _
  · exact .word hname (hmore rest hrest)

theorem atomRule_of_startsPath {g : Grammar} {allowStruct : Bool} (h : StartsPath input) :
    atomRule g allowStruct input = pathExprRule g allowStruct input := by
  cases h with
  | root rest =>
    exact (otherwise rfl).trans ((otherwise rfl).trans ((otherwise rfl).trans ((otherwise rfl).trans
      ((otherwise rfl).trans (chosen rfl)))))
  | type joint rest =>
    have hpath : (atIdentifier (.leaf (.punct '<' joint) :: rest)
      || atPunct "::" (.leaf (.punct '<' joint) :: rest)
        || atPunct "<" (.leaf (.punct '<' joint) :: rest)
        || atPathKeyword (.leaf (.punct '<' joint) :: rest)
        || (atWord "try" (.leaf (.punct '<' joint) :: rest)
          && (atPunct "!" rest || atPunct "::" rest))) = true := by
      cases joint <;> rfl
    refine (otherwise rfl).trans
      ((otherwise rfl).trans ((otherwise rfl).trans ((otherwise rfl).trans
      ((otherwise rfl).trans (chosen ?_)))))
    exact hpath
  | @word s rest hs hnumber =>
    have hnot : ∀ k, isPathWord k = false → atWord k (Code.word s :: rest) = false :=
      fun k hk => atWord_eq_false hs hk
    have hsuspended : atSuspended (Code.word s :: rest) = false := by
      unfold atSuspended
      rw [hnot "async" (by decide)]
      rfl
    have hattempt : (atWord "try" (Code.word s :: rest)
        && atGroup .brace ((Code.word s :: rest).drop 1)) = false := by
      rw [hnot "try" (by decide)]
      rfl
    have hclosure : atClosure (Code.word s :: rest) = false := by
      unfold atClosure
      rw [hnot "move" (by decide), hnot "for" (by decide), hnot "const" (by decide),
        hnot "static" (by decide), hnot "async" (by decide)]
      rfl
    have hbuiltin : atBuiltin (Code.word s :: rest) = false := by
      unfold atBuiltin
      rw [List.drop_one, List.tail_cons, hnumber, Bool.and_false]
    have hpath : (atIdentifier (Code.word s :: rest) || atPunct "::" (Code.word s :: rest)
        || atPunct "<" (Code.word s :: rest) || atPathKeyword (Code.word s :: rest)
        || (atWord "try" (Code.word s :: rest)
          && (atPunct "!" ((Code.word s :: rest).drop 1)
            || atPunct "::" ((Code.word s :: rest).drop 1)))) = true := by
      have hname := atIdentifier_or_atPathKeyword hs rest
      rcases Bool.or_eq_true_iff.1 hname with hname | hname
        <;> simp only [hname, Bool.or_true, Bool.true_or]
    refine (otherwise (atLiteral_word_eq_false hs)).trans
      ((otherwise hsuspended).trans ((otherwise ?_).trans
      ((otherwise hclosure).trans ((otherwise hbuiltin).trans (chosen ?_)))))
    · exact hattempt
    · exact hpath

/-- A path that no braces follow is an expression by itself. -/
theorem pathExprRule_of_path {g : Grammar} {allowStruct : Bool} {path : Path}
    (hpath : qualifiedPathRule g true input = some (path, rest)) (hmark : atPunct "!" rest = false)
    (hbrace : allowStruct = true → atGroup .brace rest = false) :
    pathExprRule g allowStruct input = some (.path path, rest) := by
  have hmark' : atMacroMark rest = false := by
    unfold atMacroMark
    rw [hmark]
    rfl
  refine (bind_of_eq_some hpath).trans ((otherwise hmark').trans ((bind_of_eq_some rfl).trans ?_))
  cases allowStruct with
  | true => exact (otherwise_and (hbrace rfl)).trans rfl
  | false => rfl

/-! ### Operands -/

/-- An operand without attributes in front. -/
theorem operand_of_bare {n : Nat} {allowStruct : Bool} {e : Expr}
    (hattributes : atPunct "#" input = false)
    (hbare : bareOperandRule (Grammar.level n) allowStruct false input = some (e, rest))
    (he : ∀ tokens, e ≠ .verbatim tokens) :
    (Grammar.level (n + 1)).operand allowStruct input = some (e, rest) := by
  have hoperand : (do
      let attributes ← outerAttributesRule (Grammar.level n)
      return (← bareOperandRule (Grammar.level n) allowStruct (!attributes.isEmpty)).withAttributes
        attributes
        : Parser Expr) input = some (e, rest) :=
    (bind_of_eq_some (repeatWhile_of_not hattributes)).trans ((bind_of_eq_some hbare).trans rfl)
  refine (bind_of_eq_some (withTokens_of hoperand)).trans ?_
  cases e <;> first | rfl | exact absurd rfl (he _)

/-- An operand without operators or attributes in front. -/
theorem operand_of_atom {n : Nat} {allowStruct : Bool} {mid : Tokens} {atom e : Expr}
    (h : StartsPath input)
    (hatom : pathExprRule (Grammar.level n) allowStruct input = some (atom, mid))
    (htrailers : trailersRule (Grammar.level n) atom mid = some (e, rest))
    (he : e.isOrdinary = true) :
    (Grammar.level (n + 1)).operand allowStruct input = some (e, rest) := by
  have hattributes : atPunct "#" input = false := by
    cases h <;> rfl
  have hreference : atPunct "&" input = false := by
    cases h <;> rfl
  have hunary : (atPunct "*" input || atPunct "!" input || atPunct "-" input) = false := by
    cases h <;> rfl
  have hbare : bareOperandRule (Grammar.level n) allowStruct false input = some (e, rest) := by
    refine (otherwise_punct hreference).trans ((otherwise ?_).trans ?_)
    · exact hunary
    · exact (bind_of_eq_some ((atomRule_of_startsPath h).trans hatom)).trans
        ((bind_of_eq_some htrailers).trans rfl)
  refine operand_of_bare hattributes hbare ?_
  rintro tokens rfl
  cases he

/-! ### Calls and accesses -/

theorem trailersAt_of_endsOperand {g : Grammar} {allowStruct : Bool}
    (h : endsOperand allowStruct rest = true) (fuel : Nat) (e : Expr) :
    trailersAt g (fuel + 1) e rest = some (e, rest) := by
  have haccess : atAccess rest = false := by
    unfold atAccess
    rw [show atPunct "." rest = false from startsOperator_of_endsAt h (by decide) _]
    rfl
  have hattempt : atPunct "?" rest = false := startsOperator_of_endsAt h (by decide) _
  have hgroup : ∀ delimiter, delimiter ≠ .brace → atGroup delimiter rest = false :=
    fun delimiter hne => atGroup_of_endsAt h fun hbrace => absurd hbrace hne
  refine (otherwise (hgroup .paren (by decide))).trans ((otherwise_and haccess).trans ?_)
  exact (otherwise (hgroup .bracket (by decide))).trans ((otherwise_and hattempt).trans rfl)

theorem trailersAt_call {g : Grammar} {fuel : Nat} {e : Expr} {inner : Tokens}
    {arguments : List Expr × Bool} (h : terminated g.expr inner = some (arguments, [])) :
    trailersAt g (fuel + 1) e (.group .paren inner :: rest)
      = trailersAt g fuel (.call e arguments.1 arguments.2) rest :=
  (chosen rfl).trans (bind_of_eq_some (inside_of h))

theorem memberRule_of_not_keyword {s : String} (hs : isKeyword s = false) :
    memberRule (word s :: rest) = some (.named s, rest) :=
  (chosen (atIdentifier_of_not_keyword hs)).trans
    ((bind_of_eq_some (identifier_of_not_keyword hs)).trans rfl)

theorem trailersAt_field {g : Grammar} {fuel : Nat} {e : Expr} {s : String} (he : e.isRange = false)
    (hs : isKeyword s = false) (hlink : atPunct "::" rest = false)
    (hparen : atGroup .paren rest = false) :
    trailersAt g (fuel + 1) e (.leaf (.punct '.' false) :: word s :: rest)
      = trailersAt g fuel (.field e (.named s)) rest := by
  have hawait : atWord "await" (word s :: rest) = false :=
    atWord_eq_false (isPathWord_of_not_keyword hs) (by decide)
  have haccess : accessRule g e (.leaf (.punct '.' false) :: word s :: rest)
      = some (.field e (.named s), rest) := by
    refine (bind_of_eq_some (punct_of_at rfl)).trans
      ((otherwise rfl).trans ((otherwise_keyword hawait).trans ?_))
    refine (bind_of_eq_some (memberRule_of_not_keyword hs)).trans ?_
    exact (bind_of_eq_some (punct?_of_not hlink)).trans
      ((bind_of_eq_some (look_of_not hparen)).trans rfl)
  refine (otherwise rfl).trans ?_
  show ((look atAccess >>= fun b => if (!e.isRange && b) = true then _ else _ : Parser Expr)
    (.leaf (.punct '.' false) :: word s :: rest)) = _
  rw [he]
  exact (chosen rfl).trans (bind_of_eq_some haccess)

/-! ### Texts of operands and expressions -/

/-- Tokens that are read as an operand. -/
structure IsOperandText (allowStruct : Bool) (tokens : Tokens) : Prop where
  head : ∀ rest, atPunct "#" rest = false → StartsPath (tokens ++ rest)
  reads : ∀ n rest, tokensSize tokens < n → endsOperand allowStruct rest = true →
    ∃ e, e.isOrdinary = true ∧ (Grammar.level n).operand allowStruct (tokens ++ rest)
      = some (e, rest)

/-- An operand is an expression. -/
theorem IsOperandText.exprWith {allowStruct : Bool} {tokens : Tokens}
    (h : IsOperandText allowStruct tokens) {n : Nat} (hsize : tokensSize tokens < n)
    (hrest : endsExpr allowStruct rest = true) :
    ∃ e, e.isOrdinary = true ∧ (Grammar.level n).exprWith allowStruct (tokens ++ rest) = some (e,
      rest) := by
  obtain ⟨e, he, hoperand⟩ := h.reads n rest hsize (endsOperand_of_endsExpr hrest)
  obtain ⟨n, rfl⟩ : ∃ k, n = k + 1 := ⟨n - 1, by omega⟩
  exact ⟨e, he,
    (bind_of_eq_some hoperand).trans (operators_of_endsExpr (Expr.isRange_of_isOrdinary he) hrest)⟩

/-- Expressions that fill a group, separated by commas. -/
theorem readsEntries_expr {n : Nat} : ReadsEntries List.isEmpty (Grammar.level n).expr
    (fun ts => IsOperandText true ts ∧ tokensSize ts < n) := by
  rintro entry ⟨hentry, hsize⟩ rest hrest
  have hends : endsExpr true rest = true := by
    rcases hrest with hrest | ⟨joint, behind, rfl⟩
    · rw [List.isEmpty_iff.1 hrest]
      rfl
    · rfl
  obtain ⟨e, -, he⟩ := hentry.exprWith hsize hends
  refine ⟨?_, e, he⟩
  cases hempty : entry ++ rest with
  | nil =>
    obtain ⟨rfl, rfl⟩ := List.append_eq_nil_iff.1 hempty
    exact nomatch hentry.head [] rfl
  | cons => rfl

/-- The atom of a path. -/
theorem IsPathText.pathExprRule_eq {tokens : Tokens} (h : IsPathText true tokens) (n : Nat)
    (allowStruct : Bool) (rest : Tokens) (hsize : tokensSize tokens ≤ n)
    (hlink : atPunct "::" rest = false) (hmark : atPunct "!" rest = false)
    (hbrace : allowStruct = true → atGroup .brace rest = false) :
    ∃ path, pathExprRule (Grammar.level n) allowStruct (tokens ++ rest)
      = some (.path path, rest) := by
  have hends : EndsSegment true rest := ⟨nofun, fun hat => by rw [hlink] at hat; cases hat⟩
  obtain ⟨path, hpath⟩ := h.pathRule_eq n rest hsize hends (by rw [hlink]; rfl)
  have hangle : atPunct "<" (tokens ++ rest) = false := by
    obtain ⟨first, more, rfl, ⟨rfl, behind, rfl⟩ | ⟨name, rfl, -⟩, -⟩ := h.head <;> rfl
  exact ⟨path, pathExprRule_of_path ((qualifiedPathRule_of_not _ true hangle).trans hpath)
    hmark hbrace⟩

theorem tests_of_endsOperand {allowStruct : Bool} (h : endsOperand allowStruct rest = true) :
    atPunct "::" rest = false ∧ atPunct "!" rest = false ∧ atPunct "#" rest = false
      ∧ (allowStruct = true → atGroup .brace rest = false) ∧ atGroup .paren rest = false :=
  ⟨startsOperator_of_endsAt h (by decide) _, startsOperator_of_endsAt h (by decide) _,
    startsOperator_of_endsAt h (by decide) _, fun hallow => atGroup_of_endsAt h fun _ => by
      rw [hallow]; rfl,
    atGroup_of_endsAt h nofun⟩

/-- A path is an operand. -/
theorem IsPathText.isOperandText {tokens : Tokens} (h : IsPathText true tokens)
    (allowStruct : Bool) :
    IsOperandText allowStruct tokens where
  head _ hrest := h.startsPath hrest
  reads n rest hsize hrest := by
    obtain ⟨n, rfl⟩ : ∃ k, n = k + 1 := ⟨n - 1, by omega⟩
    obtain ⟨hlink, hmark, hnumber, hbrace, -⟩ := tests_of_endsOperand hrest
    obtain ⟨path, hpath⟩ :=
      h.pathExprRule_eq n allowStruct rest (Nat.le_of_lt_succ hsize) hlink hmark hbrace
    exact ⟨.path path, rfl, operand_of_atom (h.startsPath hnumber) hpath
      (trailersAt_of_endsOperand hrest _ _) rfl⟩

/-- A field of a path. -/
theorem IsPathText.field {tokens : Tokens} (h : IsPathText true tokens) {s : String}
    (hs : isKeyword s = false) (allowStruct : Bool) :
    IsOperandText allowStruct (tokens ++ [.leaf (.punct '.' false), word s]) where
  head rest _ := by
    rw [List.append_assoc]
    exact h.startsPath rfl
  reads n rest hsize hrest := by
    obtain ⟨n, rfl⟩ : ∃ k, n = k + 1 := ⟨n - 1, by omega⟩
    rw [tokensSize_append] at hsize
    obtain ⟨hlink, -, -, -, hparen⟩ := tests_of_endsOperand hrest
    obtain ⟨path, hpath⟩ :=
      h.pathExprRule_eq n allowStruct (.leaf (.punct '.' false) :: word s :: rest) (by omega) rfl
      rfl fun _ => rfl
    refine ⟨.field (.path path) (.named s), rfl, ?_⟩
    rw [List.append_assoc]
    refine operand_of_atom (h.startsPath rfl) hpath ?_ rfl
    exact (trailersAt_field rfl hs hlink hparen).trans (trailersAt_of_endsOperand hrest _ _)

/-- A call of a path. -/
theorem IsPathText.call {tokens arguments : Tokens} (h : IsPathText true tokens)
    (harguments : CommaTrees (IsOperandText true) arguments) (allowStruct : Bool) :
    IsOperandText allowStruct (tokens ++ [.group .paren arguments]) where
  head rest _ := by
    rw [List.append_assoc]
    exact h.startsPath rfl
  reads n rest hsize hrest := by
    obtain ⟨n, rfl⟩ : ∃ k, n = k + 1 := ⟨n - 1, by omega⟩
    simp only [tokensSize_append, tokensSize, TokenTree.size] at hsize
    obtain ⟨path, hpath⟩ := h.pathExprRule_eq n allowStruct (.group .paren arguments :: rest)
      (by omega) rfl rfl
      fun _ => rfl
    obtain ⟨entries, hentries⟩ := terminated_of_commaTrees readsEntries_expr
      (harguments.imp_right fun hlist => hlist.sized (show tokensSize arguments < n by omega))
    refine ⟨.call (.path path) entries.1 entries.2, rfl, ?_⟩
    rw [List.append_assoc]
    refine operand_of_atom (h.startsPath rfl) hpath ?_ rfl
    exact (trailersAt_call hentries).trans (trailersAt_of_endsOperand hrest _ _)

/-- A function of a trait, by the name of a type that has it. -/
theorem qualifiedPathRule_of_trait {s f : String} {tokens : Tokens} (n : Nat) (rest : Tokens)
    (hs : isPathWord s = true) (hf : isPathWord f = true) (h : IsPathText false tokens)
    (hsize : tokensSize tokens ≤ n + 1) (joint joint' : Bool) (hrest : atPunct "::" rest = false) :
    ∃ path, qualifiedPathRule (Grammar.level (n + 1)) true
      (.leaf (.punct '<' joint) :: word s :: word "as"
      :: (tokens ++ .leaf (.punct '>' joint') :: .leaf (.punct ':' true) :: .leaf (.punct ':' false)
        :: word f :: rest))
        = some (path, rest) := by
  have hends : EndsSegment true rest := ⟨nofun, fun hat => by rw [hrest] at hat; cases hat⟩
  have hcloses : ∀ behind, EndsSegment false (.leaf (.punct '>' joint') :: behind) := fun behind =>
    ⟨fun _ => rfl, fun hat => by
      rw [show atPunct "::" (.leaf (.punct '>' joint') :: behind)
        = false from startsOperator_of_ne (by decide) _ _] at hat
      cases hat⟩
  have hclosed : ∀ behind, (atPunct "::" (.leaf (.punct '>' joint') :: behind)
      && !atGroup .paren ((.leaf (.punct '>' joint') :: behind).drop 2)) = false := by
    intro behind
    rw [show atPunct "::" (.leaf (.punct '>' joint') :: behind)
      = false from startsOperator_of_ne (by decide) _ _]
    rfl
  obtain ⟨asTrait, hasTrait⟩ := h.pathRule_eq (n + 1) _ hsize (hcloses _) (hclosed
    (.leaf (.punct ':' true) :: .leaf (.punct ':' false) :: word f :: rest))
  refine ⟨.plain (.ofTypeAs (.path (.plain (.root false) s)) asTrait) f,
    (chosen_punct rfl).trans ?_⟩
  refine (bind_of_eq_some (typeRule_name hs rfl)).trans
    ((bind_of_eq_some (keyword?_of_word "as" _)).trans ?_)
  refine (bind_of_eq_some hasTrait).trans
    ((bind_of_eq_some rfl).trans ((bind_of_eq_some (punct_of_at rfl)).trans ?_))
  refine (bind_of_eq_some (punct_of_at rfl)).trans
    ((bind_of_eq_some (pathSegmentRule_name hf hends)).trans ?_)
  exact (otherwise hrest).trans rfl

/-- A call of a function of a trait, by the name of a type that has it. -/
theorem isOperandText_traitCall {s f : String} {tokens : Tokens} (hs : isPathWord s = true)
    (hf : isPathWord f = true) (h : IsPathText false tokens) (joint joint' allowStruct : Bool) :
    IsOperandText allowStruct (.leaf (.punct '<' joint) :: word s :: word "as" :: (tokens
      ++ [.leaf (.punct '>' joint'), .leaf (.punct ':' true), .leaf (.punct ':' false), word f,
        .group .paren []])) where
  head rest _ := .type joint _
  reads n rest hsize hrest := by
    simp only [tokensSize, tokensSize_append, TokenTree.size, word] at hsize
    obtain ⟨n, rfl⟩ : ∃ k, n = k + 2 := ⟨n - 2, by omega⟩
    obtain ⟨path, hpath⟩ := qualifiedPathRule_of_trait n (.group .paren [] :: rest) hs hf h
      (by omega) joint joint' rfl
    have hatom : pathExprRule (Grammar.level (n + 1)) allowStruct _ = some
        (.path path, .group .paren [] :: rest) :=
      pathExprRule_of_path hpath rfl fun _ => rfl
    refine ⟨.call (.path path) [] true, rfl, ?_⟩
    simp only [List.cons_append, List.append_assoc, List.nil_append]
    refine operand_of_atom (.type joint _) hatom ?_ rfl
    exact (trailersAt_call (show terminated _ [] = some (([], true), []) from chosen rfl)).trans
      (trailersAt_of_endsOperand hrest _ _)

/-! ### Struct literals -/

/-- Tokens that are read as a field of a struct literal. -/
def IsFieldValueText (tokens : Tokens) : Prop :=
  ∃ s value, tokens = word s :: .leaf (.punct ':' false) :: value ∧ isKeyword s = false
    ∧ IsOperandText true value

theorem readsEntries_fieldValue {n : Nat} : ReadsEntries List.isEmpty (do
      if ← punct? ".." then
        let base ← if ← look List.isEmpty then pure none else pure (some (← (Grammar.level n).expr))
        expect List.isEmpty
        return .remainder base
      else fieldValueRule (Grammar.level n) : Parser Expr)
    (fun ts => IsFieldValueText ts ∧ tokensSize ts < n) := by
  rintro entry ⟨⟨s, value, rfl, hs, hvalue⟩, hsize⟩ rest hrest
  simp only [tokensSize, TokenTree.size, word] at hsize
  have hends : endsExpr true rest = true := by
    rcases hrest with hrest | ⟨joint, behind, rfl⟩
    · rw [List.isEmpty_iff.1 hrest]
      rfl
    · rfl
  obtain ⟨e, -, he⟩ := hvalue.exprWith (n := n) (by omega) hends
  refine ⟨rfl, .fieldValue (.named s) (some e), (otherwise_punct rfl).trans ?_⟩
  refine (bind_of_eq_some (repeatWhile_of_not rfl)).trans
    ((bind_of_eq_some (memberRule_of_not_keyword hs)).trans ?_)
  exact (chosen_punct rfl).trans ((bind_of_eq_some he).trans rfl)

/-- **A struct literal.** -/
theorem isOperandText_struct {s : String} {fields : Tokens} (hs : isPathWord s = true)
    (h : CommaTrees IsFieldValueText fields) :
    IsOperandText true [word s, .group .brace fields] where
  head _ _ := .word hs rfl
  reads n rest hsize hrest := by
    simp only [tokensSize, TokenTree.size, word] at hsize
    obtain ⟨n, rfl⟩ : ∃ k, n = k + 1 := ⟨n - 1, by omega⟩
    have hends : EndsSegment true (.group .brace fields :: rest) := by
      refine ⟨fun h => ?_, fun h => ?_⟩
      · cases h
      · exact absurd h Bool.false_ne_true
    obtain ⟨path, hpath⟩ :=
      (isSegmentText_name hs true).isPathText.pathRule_eq n (.group .brace fields :: rest)
      (by simp only [tokensSize, TokenTree.size, word]; omega) hends rfl
    obtain ⟨entries, hentries⟩ := terminated_of_commaTrees readsEntries_fieldValue
      (h.imp_right fun hlist => hlist.sized (show tokensSize fields < n by omega))
    have hatom : pathExprRule (Grammar.level n) true (word s :: .group .brace fields :: rest)
        = some (.struct path entries.1 entries.2, rest) := by
      refine (bind_of_eq_some ((qualifiedPathRule_of_not _ true rfl).trans hpath)).trans
        ((otherwise rfl).trans ?_)
      exact (bind_of_eq_some (a := none) rfl).trans
        ((chosen_and rfl).trans ((bind_of_eq_some (inside_of hentries)).trans rfl))
    refine ⟨.struct path entries.1 entries.2, rfl, ?_⟩
    exact operand_of_atom (.word hs rfl) hatom (trailersAt_of_endsOperand hrest _ _) rfl

end FluentBuilder.Code
