import FluentBuilder.Proofs.Code.ExprReading

/-!
# Reading statements

The methods of a builder have few kinds of statements: assignments, the declaration of a local
value, conditionals that copy what is stored, and a last expression.

* `StartsValue` — where a statement is an expression rather than an item or a call of a macro;
* `IsLineText` — a statement in front of another one;
* `IsBlockText`, `IsLineText.append` — the statements of a block.
-/

namespace FluentBuilder.Code

variable {input rest : Tokens}

/-! ### Statements that start with a value -/

/-- What a statement starts with that is an expression and neither an item nor a call of a macro. -/
inductive StartsValue : Tokens → Prop
  | word {s : String} {rest : Tokens} (hs : isPathWord s = true) (hplace : s ≠ "crate")
      (hnext : headWord? rest = none) (hplain : afterMacroPath? (Code.word s :: rest) = none) :
      StartsValue (Code.word s :: rest)
  | type (joint : Bool) (rest : Tokens) : StartsValue (.leaf (.punct '<' joint) :: rest)

theorem modulePathRule_word {s : String} (hs : isPathWord s = true)
    (hlink : atPunct "::" rest = false) :
    modulePathRule (word s :: rest) = some (⟨false, [s]⟩, rest) := by
  refine (bind_of_eq_some (punct?_of_not rfl)).trans ((bind_of_eq_some (expect_of ?_)).trans ?_)
  · exact atIdentifier_or_atPathKeyword hs _
  · exact (bind_of_eq_some rfl).trans ((bind_of_eq_some (repeatWhile_of_not hlink)).trans rfl)

theorem afterMacroPath?_word {s : String} (hs : isPathWord s = true)
    (hlink : atPunct "::" rest = false) (hmark : atPunct "!" rest = false) :
    afterMacroPath? (word s :: rest) = none := by
  unfold afterMacroPath?
  rw [modulePathRule_word hs hlink]
  dsimp only
  rw [hmark]
  rfl

/-- A name below another one, with something else than a macro's mark behind. -/
theorem afterMacroPath?_link {s f : String} (hs : isPathWord s = true) (hf : isPathWord f = true)
    (hlink : atPunct "::" rest = false) (hmark : atPunct "!" rest = false) :
    afterMacroPath?
      (word s :: .leaf (.punct ':' true) :: .leaf (.punct ':' false) :: word f :: rest) = none := by
  have hothers : repeatWhile (atPunct "::") (do
      punct "::"
      expect fun s => atIdentifier s || atPathKeyword s
      anyWord : Parser String)
        (.leaf (.punct ':' true) :: .leaf (.punct ':' false) :: word f :: rest)
        = some ([f], rest) := by
    have hname : (do
        punct "::"
        expect fun s => atIdentifier s || atPathKeyword s
        anyWord : Parser String)
          (.leaf (.punct ':' true) :: .leaf (.punct ':' false) :: word f :: rest)
          = some (f, rest) := by
      refine (bind_of_eq_some (punct_of_at rfl)).trans ((bind_of_eq_some (expect_of ?_)).trans rfl)
      exact atIdentifier_or_atPathKeyword hf _
    exact (chosen rfl).trans
      ((bind_of_eq_some hname).trans ((bind_of_eq_some (otherwise hlink)).trans rfl))
  have hpath : modulePathRule
      (word s :: .leaf (.punct ':' true) :: .leaf (.punct ':' false) :: word f :: rest)
        = some (⟨false, [s, f]⟩, rest) := by
    refine (bind_of_eq_some (punct?_of_not rfl)).trans ((bind_of_eq_some (expect_of ?_)).trans ?_)
    · exact atIdentifier_or_atPathKeyword hs _
    · exact (bind_of_eq_some rfl).trans ((bind_of_eq_some hothers).trans rfl)
  unfold afterMacroPath?
  rw [hpath]
  dsimp only
  rw [hmark]
  rfl

theorem StartsValue.tests (h : StartsValue input) :
    atPunct "#" input = false ∧ atPunct ";" input = false
    ∧ atBraceMacro input = false ∧ atWord "let" input = false ∧ atItem input = false
    ∧ atEarlyEnd input = false := by
  cases h with
  | type joint rest =>
    refine ⟨rfl, rfl, ?_, rfl, ?_, rfl⟩ <;> cases joint <;> rfl
  | @word s rest hs hplace hnext hplain =>
    have hnot : ∀ k, isPathWord k = false → atWord k (Code.word s :: rest) = false :=
      fun k hk => atWord_eq_false hs hk
    have hnext' : ∀ k, atWord k rest = false := by
      intro k
      unfold atWord
      rw [hnext]
      rfl
    have hidentifier : atIdentifier rest = false := by
      unfold atIdentifier
      rw [hnext]
      rfl
    have honeOf : ∀ names, atOneOf names rest = false := by
      intro names
      unfold atOneOf
      rw [hnext]
      rfl
    have hcrate : atWord "crate" (Code.word s :: rest) = false := by
      show (some s == some "crate") = false
      rw [beq_eq_false_iff_ne]
      rintro heq
      exact hplace (Option.some.inj heq)
    refine ⟨rfl, rfl, ?_, hnot "let" (by decide), ?_, ?_⟩
    · unfold atBraceMacro
      rw [hplain]
      rfl
    · unfold atItem atItemMacro
      rw [hplain, hcrate, hnot "static" (by decide), hnot "const" (by decide),
        hnot "unsafe" (by decide), hnot "async" (by decide), atOneOf_eq_false hs (by decide)]
      simp only [List.drop_one, List.tail_cons, hidentifier, hnext', honeOf, Bool.false_and,
        Bool.and_false, Bool.or_self, Option.any_none]
    · unfold atEarlyEnd
      rw [hnot "for" (by decide), atOneOf_eq_false hs (by decide), atOneOf_eq_false hs (by decide)]
      rfl

/-- A statement that starts with a value is an expression. -/
theorem statementRule_of_startsValue {g : Grammar} (h : StartsValue input) :
    statementRule g input = exprStatementRule g [] input := by
  obtain ⟨hattributes, -, hplain, hlet, hitem, -⟩ := h.tests
  refine (bind_of_eq_some (a := input) rfl).trans
    ((bind_of_eq_some (repeatWhile_of_not hattributes)).trans ?_)
  exact (otherwise hplain).trans ((otherwise hlet).trans (otherwise hitem))

/-- The reading of one statement of a block. -/
def blockStep (g : Grammar) : Parser Statement := do
  if ← punct? ";" then return .empty else statementRule g

/-! ### Expressions as statements -/

theorem statementExpr_of_operand {n : Nat} {mid : Tokens} {e e' : Expr} (h : StartsValue input)
    (hoperand : (Grammar.level n).operand true input = some (e, mid)) (he : e.isOrdinary = true)
    (hoperators : (Grammar.level n).operators true 0 e mid = some (e', rest)) :
    (Grammar.level (n + 1)).statementExpr input = some (e', rest) := by
  obtain ⟨hattributes, -, -, -, -, hearly⟩ := h.tests
  refine (bind_of_eq_some (repeatWhile_of_not hattributes)).trans ((otherwise hearly).trans ?_)
  refine (bind_of_eq_some hoperand).trans ?_
  dsimp only
  rw [Expr.isComplete_of_isOrdinary he]
  exact hoperators

/-- An assignment behind its left side. -/
theorem operators_assign {n : Nat} {left right : Expr} {value : Tokens}
    (hleft : left.isRange = false)
    (hvalue : (Grammar.level n).operand true (value ++ rest) = some (right, rest))
    (hrest : endsExpr true rest = true) :
    (Grammar.level (n + 1)).operators true 0 left (.leaf (.punct '=' false) :: (value ++ rest))
      = some (.assign left right, rest) := by
  have hright : rightOperandRule (Grammar.level n) true assignPrecedence (value ++ rest)
      = some (right, rest) := by
    refine (bind_of_eq_some hvalue).trans
      ((bind_of_eq_some (a := headPrecedence rest) rfl).trans ?_)
    rw [headPrecedence_of_endsExpr hrest]
    rfl
  show operatorsAt (Grammar.level n) true 0 ((value ++ rest).length + 1 + 1) left _ = _
  unfold operatorsAt
  rw [hleft]
  refine (bind_of_eq_some
    (show _ = some (none, .leaf (.punct '=' false) :: (value ++ rest)) from rfl)).trans ?_
  refine (chosen_and rfl).trans
    ((bind_of_eq_some (punct_of_at rfl)).trans ((bind_of_eq_some hright).trans ?_))
  exact operatorsAt_of_endsExpr rfl hrest _

/-! ### Lines of a block -/

/-- Whether the next line of a block starts with a word that does not go on with a statement. -/
def startsLine : Tokens → Bool
  | .leaf (.ident name) :: _ => name != "else"
  | _ => false

/-- Tokens that are read as a statement in front of another line. -/
def IsLineText (tokens : Tokens) : Prop :=
  startsLine tokens = true ∧ ∀ n rest, tokensSize tokens + 2 < n → startsLine rest = true →
    ∃ statement, blockStep (Grammar.level n) (tokens ++ rest) = some (statement, rest)

/-- Tokens that are read as the statements of a block. -/
def IsBlockText (tokens : Tokens) : Prop :=
  ∀ n fuel, tokensSize tokens + 2 < n → tokens.length < fuel →
    ∃ statements, whileAt (fun s => !s.isEmpty) (blockStep (Grammar.level n)) fuel tokens
      = some (statements, [])

theorem IsBlockText.statements {tokens : Tokens} (h : IsBlockText tokens) {n : Nat}
    (hsize : tokensSize tokens + 3 < n) :
    ∃ statements, (Grammar.level n).statements tokens = some (statements, []) := by
  obtain ⟨n, rfl⟩ : ∃ k, n = k + 1 := ⟨n - 1, by omega⟩
  exact h n (tokens.length + 1) (by omega) (Nat.lt_succ_self _)

theorem whileAt_cons {α : Type} {test : Tokens → Bool} {p : Parser α} {fuel : Nat} {a : α}
    {as : List α} (htest : test input = true) (ha : p input = some (a, rest))
    (has : whileAt test p fuel rest = some (as, [])) :
    whileAt test p (fuel + 1) input = some (a :: as, []) :=
  (chosen htest).trans ((bind_of_eq_some ha).trans ((bind_of_eq_some has).trans rfl))

theorem StartsValue.not_isEmpty (h : StartsValue input) : (!input.isEmpty) = true := by
  cases h <;> rfl

/-- **The last expression of a block.** -/
theorem IsOperandText.isBlockText {tokens : Tokens} (h : IsOperandText true tokens)
    (hvalue : StartsValue tokens) :
    IsBlockText tokens := by
  intro n fuel hsize hfuel
  obtain ⟨n, rfl⟩ : ∃ k, n = k + 3 := ⟨n - 3, by omega⟩
  obtain ⟨fuel, rfl⟩ : ∃ k, fuel = k + 2 := by
    cases hvalue <;> exact ⟨fuel - 2, by rw [List.length_cons] at hfuel; omega⟩
  obtain ⟨e, he, hoperand⟩ := h.reads (n + 2) [] (by omega) rfl
  rw [List.append_nil] at hoperand
  have hexpr : (Grammar.level (n + 3)).statementExpr tokens = some (e, []) :=
    statementExpr_of_operand hvalue hoperand he
      (operators_of_endsExpr (Expr.isRange_of_isOrdinary he) rfl)
  refine ⟨[.ofExpr (e.withLeftmostAttributes []) false],
    whileAt_cons hvalue.not_isEmpty ?_ (otherwise rfl)⟩
  refine (otherwise_punct hvalue.tests.2.1).trans ((statementRule_of_startsValue hvalue).trans ?_)
  exact (bind_of_eq_some hexpr).trans
    ((bind_of_eq_some (punct?_of_not rfl)).trans ((otherwise_and rfl).trans rfl))

/-- **A line in front of a block.** -/
theorem IsLineText.append {tokens more : Tokens} (h : IsLineText tokens) (hmore : IsBlockText more)
    (hstarts : startsLine more = true) : IsBlockText (tokens ++ more) := by
  obtain ⟨hline, hreads⟩ := h
  intro n fuel hsize hfuel
  rw [tokensSize_append] at hsize
  rw [List.length_append] at hfuel
  obtain ⟨statement, hstatement⟩ := hreads n more (by omega) hstarts
  cases tokens with
  | nil => cases hline
  | cons first tokens =>
    rw [List.length_cons] at hfuel
    obtain ⟨fuel, rfl⟩ : ∃ k, fuel = k + 1 := ⟨fuel - 1, by omega⟩
    obtain ⟨statements, hstatements⟩ := hmore n fuel (by omega) (by omega)
    exact ⟨statement :: statements, whileAt_cons rfl hstatement hstatements⟩

theorem startsLine_append {tokens : Tokens} (h : startsLine tokens = true) (more : Tokens) :
    startsLine (tokens ++ more) = true := by
  unfold startsLine at h
  split at h
  · exact h
  · cases h

theorem startsLine_of_isPathWord {s : String} (hs : isPathWord s = true) (more : Tokens) :
    startsLine (word s :: more) = true := by
  refine bne_iff_ne.2 ?_
  rintro rfl
  exact absurd hs (by decide)

/-- The tokens of an assignment to a field. -/
def assignTokens (base s : String) (value : Tokens) (joint : Bool) : Tokens :=
  word base :: .leaf (.punct '.' false) :: word s :: .leaf (.punct '=' false)
    :: (value ++ [.leaf (.punct ';' joint)])

theorem blockStep_assign {base s : String} {value : Tokens} (hbase : isPathWord base = true)
    (hplace : base ≠ "crate") (hs : isKeyword s = false) (hvalue : IsOperandText true value)
    (joint : Bool) {n : Nat} (rest : Tokens)
    (hsize : tokensSize (assignTokens base s value joint) + 2 < n) :
    ∃ statement, blockStep (Grammar.level n) (assignTokens base s value joint ++ rest)
      = some (statement, rest) := by
  simp only [assignTokens, tokensSize, tokensSize_append, TokenTree.size, word] at hsize
  obtain ⟨n, rfl⟩ : ∃ k, n = k + 3 := ⟨n - 3, by omega⟩
  have hleft := (isSegmentText_name hbase true).isPathText.field hs true
  obtain ⟨left, hordinary, hleft⟩ := hleft.reads (n + 2)
    (.leaf (.punct '=' false) :: (value ++ .leaf (.punct ';' joint) :: rest))
    (by simp only [tokensSize, tokensSize_append, TokenTree.size, word]; omega) rfl
  obtain ⟨right, -, hright⟩ := hvalue.reads (n + 1) (.leaf (.punct ';' joint) :: rest)
    (by omega) rfl
  have hassign := operators_assign (Expr.isRange_of_isOrdinary hordinary) hright rfl
  have hstarts : StartsValue
    (word base :: .leaf (.punct '.' false) :: word s :: .leaf (.punct '=' false)
      :: (value ++ .leaf (.punct ';' joint) :: rest)) :=
    .word hbase hplace rfl (afterMacroPath?_word hbase rfl rfl)
  have hexpr : (Grammar.level (n + 3)).statementExpr _ = some
      (.assign left right, .leaf (.punct ';' joint) :: rest) :=
    statementExpr_of_operand hstarts hleft hordinary hassign
  refine ⟨.ofExpr (Expr.withLeftmostAttributes [] (.assign left right)) true, ?_⟩
  simp only [assignTokens, List.cons_append, List.append_assoc, List.nil_append]
  refine (otherwise_punct rfl).trans
    ((statementRule_of_startsValue hstarts).trans ((bind_of_eq_some hexpr).trans ?_))
  exact (bind_of_eq_some (punct?_of_at rfl)).trans rfl

/-- An assignment to a field is a line, and a block by itself. -/
theorem isLineText_assign {base s : String} {value : Tokens} (hbase : isPathWord base = true)
    (hplace : base ≠ "crate") (hs : isKeyword s = false) (hvalue : IsOperandText true value)
    (joint : Bool) :
    IsLineText (assignTokens base s value joint) :=
  ⟨startsLine_of_isPathWord hbase _,
    fun _ rest hsize _ => blockStep_assign hbase hplace hs hvalue joint rest hsize⟩

theorem isBlockText_assign {base s : String} {value : Tokens} (hbase : isPathWord base = true)
    (hplace : base ≠ "crate") (hs : isKeyword s = false) (hvalue : IsOperandText true value)
    (joint : Bool) :
    IsBlockText (assignTokens base s value joint) := by
  intro n fuel hsize hfuel
  obtain ⟨statement, hstatement⟩ := blockStep_assign hbase hplace hs hvalue joint [] hsize
  rw [List.append_nil] at hstatement
  obtain ⟨fuel, rfl⟩ : ∃ k, fuel = k + 2 := ⟨fuel - 2, by
    simp only [assignTokens, List.length_cons] at hfuel
    omega⟩
  exact ⟨[statement], whileAt_cons rfl hstatement (otherwise rfl)⟩

/-- The declaration of a local value. -/
theorem isLineText_let {value : Tokens} (hvalue : IsOperandText true value) (joint : Bool) :
    IsLineText (word "let" :: word "mut" :: word "instance" :: .leaf (.punct '=' false)
      :: (value ++ [.leaf (.punct ';' joint)])) := by
  refine ⟨rfl, fun n rest hsize _ => ?_⟩
  simp only [tokensSize, tokensSize_append, TokenTree.size, word] at hsize
  obtain ⟨n, rfl⟩ : ∃ k, n = k + 1 := ⟨n - 1, by omega⟩
  have hrest : endsExpr true (.leaf (.punct ';' joint) :: rest) = true := rfl
  obtain ⟨e, -, he⟩ := hvalue.exprWith (show tokensSize value < n + 1 by omega) hrest
  have hpattern : ∀ behind, (Grammar.level (n + 1)).pattern
      (word "mut" :: word "instance" :: .leaf (.punct '=' false) :: behind)
        = some (.binding false true "instance", .leaf (.punct '=' false) :: behind) :=
          fun behind => rfl
  have hdeclaration : declarationStatementRule (Grammar.level (n + 1)) []
      (word "let" :: word "mut" :: word "instance" :: .leaf (.punct '=' false)
        :: (value ++ .leaf (.punct ';' joint) :: rest))
          = some (.declare [] (.binding false true "instance") (some e) false [], rest) := by
    refine (bind_of_eq_some (keyword_of_word "let" _)).trans
      ((bind_of_eq_some (hpattern _)).trans ?_)
    refine (otherwise_punct rfl).trans ((bind_of_eq_some rfl).trans ((chosen_punct rfl).trans ?_))
    refine (bind_of_eq_some (withTokens_of he)).trans ?_
    dsimp only
    split
    · refine (bind_of_eq_some (a := false) rfl).trans ((bind_of_eq_some (a := []) rfl).trans ?_)
      exact (bind_of_eq_some (punct_of_at rfl)).trans rfl
    · refine (bind_of_eq_some (keyword?_of_not rfl)).trans
        ((bind_of_eq_some (a := []) rfl).trans ?_)
      exact (bind_of_eq_some (punct_of_at rfl)).trans rfl
  refine ⟨.declare [] (.binding false true "instance") (some e) false [], ?_⟩
  simp only [List.cons_append, List.append_assoc, List.nil_append]
  refine (otherwise_punct rfl).trans
    ((bind_of_eq_some rfl).trans ((bind_of_eq_some (repeatWhile_of_not rfl)).trans ?_))
  exact (otherwise rfl).trans ((chosen rfl).trans hdeclaration)

/-! ### Conditions that bind a name -/

/-- The path of a variant of the optional value. -/
def variantTokens (variant : String) : Tokens :=
  [.leaf (.punct ':' true), .leaf (.punct ':' false), word "core", .leaf (.punct ':' true),
    .leaf (.punct ':' false), word "option", .leaf (.punct ':' true), .leaf (.punct ':' false),
    word "Option", .leaf (.punct ':' true),
    .leaf (.punct ':' false), word variant]

/-- The tokens of a pattern that binds what is stored. -/
def storedTokens (comma : Tokens) : Tokens :=
  variantTokens "Some" ++ [.group .paren (word "value" :: comma)]

theorem alternativesRule_stored {n : Nat} {comma : Tokens} (hcomma : IsOptionalComma comma)
    (behind : Tokens) :
    ∃ pattern, alternativesRule (Grammar.level (n + 3))
        (storedTokens comma ++ .leaf (.punct '=' false) :: behind)
      = some (pattern, .leaf (.punct '=' false) :: behind) := by
  rcases hcomma with rfl | ⟨joint, rfl⟩
  · exact ⟨_, rfl⟩
  · cases joint <;> exact ⟨_, rfl⟩

/-- The tokens of a condition that binds what is stored in a field. -/
def bindingTokens (comma : Tokens) (s : String) : Tokens :=
  word "let" :: (storedTokens comma
    ++ [.leaf (.punct '=' false), word "self", .leaf (.punct '.' false), word s])

theorem atomRule_binding {n : Nat} {comma : Tokens} {s : String} (hcomma : IsOptionalComma comma)
    (hs : isKeyword s = false) (block rest : Tokens) :
    ∃ pattern value, atomRule (Grammar.level (n + 8)) false
        (bindingTokens comma s ++ .group .brace block :: rest)
      = some (.binding pattern value, .group .brace block :: rest) := by
  obtain ⟨pattern, hpattern⟩ := alternativesRule_stored (n := n + 5) hcomma
    (word "self" :: .leaf (.punct '.' false) :: word s :: .group .brace block :: rest)
  have hfield :=
    (isSegmentText_name (show isPathWord "self" = true by decide) true).isPathText.field hs false
  have hends : endsOperand false (.group .brace block :: rest) = true := rfl
  obtain ⟨value, hordinary, hvalue⟩ := hfield.reads (n + 8) (.group .brace block :: rest)
    (by simp only [tokensSize, tokensSize_append, TokenTree.size, word]; omega) hends
  refine ⟨pattern, value, ?_⟩
  simp only [bindingTokens, List.cons_append, List.append_assoc, List.nil_append]
  refine (otherwise rfl).trans
    ((otherwise rfl).trans ((otherwise rfl).trans ((otherwise rfl).trans ?_)))
  refine (otherwise rfl).trans
    ((otherwise rfl).trans ((otherwise rfl).trans ((otherwise rfl).trans ?_)))
  refine (otherwise_keyword rfl).trans
    ((otherwise_keyword rfl).trans ((otherwise rfl).trans ((otherwise rfl).trans ?_)))
  refine (chosen_keyword "let" _).trans ((bind_of_eq_some hpattern).trans ?_)
  refine (bind_of_eq_some (punct_of_at rfl)).trans ((bind_of_eq_some hvalue).trans ?_)
  exact (bind_of_eq_some (operators_of_endsExpr (Expr.isRange_of_isOrdinary hordinary) rfl)).trans
    rfl

/-- A condition that binds names is an expression by itself. -/
theorem exprWith_of_binding {n : Nat} {more : Tokens} {pattern : Pattern} {value : Expr}
    (hatom : atomRule (Grammar.level n) false (word "let" :: more)
      = some (.binding pattern value, rest))
    (hends : endsExpr false rest = true) :
    (Grammar.level (n + 1)).exprWith false (word "let" :: more) = some
    (.binding pattern value, rest) := by
  have htrailers : trailersRule (Grammar.level n) (.binding pattern value) rest
      = some (.binding pattern value, rest) :=
    trailersAt_of_endsOperand (endsOperand_of_endsExpr hends) _ _
  have hunary : (atPunct "*" (word "let" :: more) || atPunct "!" (word "let" :: more)
      || atPunct "-" (word "let" :: more)) = false := rfl
  have hbare : bareOperandRule (Grammar.level n) false false (word "let" :: more)
      = some (.binding pattern value, rest) := by
    refine (otherwise_punct rfl).trans ((otherwise ?_).trans ((bind_of_eq_some hatom).trans ?_))
    · exact hunary
    · exact (bind_of_eq_some htrailers).trans rfl
  have hattributed : (do
      let attributes ← outerAttributesRule (Grammar.level n)
      return (← bareOperandRule (Grammar.level n) false (!attributes.isEmpty)).withAttributes
        attributes
        : Parser Expr) (word "let" :: more) = some (.binding pattern value, rest) :=
    (bind_of_eq_some (repeatWhile_of_not rfl)).trans ((bind_of_eq_some hbare).trans rfl)
  have hoperators : (Grammar.level (n + 1)).operators false 0 (.binding pattern value) rest
      = some (.binding pattern value, rest) := operators_of_endsExpr rfl hends
  have hoperand : (Grammar.level (n + 1)).operand false (word "let" :: more)
      = some (.binding pattern value, rest) :=
    (bind_of_eq_some (withTokens_of hattributed)).trans rfl
  exact (bind_of_eq_some hoperand).trans hoperators

/-- The tokens of a conditional on what is stored in a field. -/
def conditionalTokens (comma : Tokens) (s : String) (block : Tokens) : Tokens :=
  word "if" :: (bindingTokens comma s ++ [.group .brace block])

theorem tests_of_startsLine (h : startsLine rest = true) :
    atWord "else" rest = false ∧ atAccess rest = false ∧ atPunct "?" rest = false
      ∧ atPunct ";" rest = false := by
  unfold startsLine at h
  split at h
  · next name behind =>
    refine ⟨?_, rfl, rfl, rfl⟩
    show (some name == some "else") = false
    rw [beq_eq_false_iff_ne]
    rintro heq
    exact absurd (Option.some.inj heq) (bne_iff_ne.1 h)
  · cases h

theorem atomRule_if {g : Grammar} {allowStruct : Bool} (rest : Tokens)
    (hstart : word "if" :: rest = input) :
    atomRule g allowStruct input = conditionalRule g input := by
  subst hstart
  refine (otherwise rfl).trans
    ((otherwise rfl).trans ((otherwise rfl).trans ((otherwise rfl).trans ?_)))
  refine (otherwise ?_).trans
    ((otherwise ?_).trans ((otherwise rfl).trans ((otherwise rfl).trans ?_)))
  · rfl
  · rfl
  refine (otherwise_keyword rfl).trans
    ((otherwise_keyword rfl).trans ((otherwise rfl).trans ((otherwise rfl).trans ?_)))
  exact (otherwise_keyword rfl).trans (chosen rfl)

/-- **A conditional on what is stored in a field** is a line. -/
theorem isLineText_conditional {comma block : Tokens} {s : String} (hcomma : IsOptionalComma comma)
    (hs : isKeyword s = false) (hblock : IsBlockText block) :
    IsLineText (conditionalTokens comma s block) := by
  refine ⟨rfl, fun n rest hsize hrest => ?_⟩
  obtain ⟨helse, haccess, hattempt, hsemicolon⟩ := tests_of_startsLine hrest
  simp only [conditionalTokens, bindingTokens, storedTokens, variantTokens, tokensSize,
    tokensSize_append, TokenTree.size, word] at hsize
  obtain ⟨n, rfl⟩ : ∃ k, n = k + 10 := ⟨n - 10, by omega⟩
  obtain ⟨pattern, value, hatom⟩ := atomRule_binding (n := n) hcomma hs block rest
  have hcondition := exprWith_of_binding hatom rfl
  obtain ⟨statements, hstatements⟩ := hblock.statements (n := n + 9) (by omega)
  have hinput : conditionalTokens comma s block ++ rest
      = word "if" :: (bindingTokens comma s ++ .group .brace block :: rest) := by
    simp only [conditionalTokens, List.cons_append, List.append_assoc, List.nil_append]
  rw [hinput]
  have hconditional : ∀ fuel, conditionalAt (Grammar.level (n + 9)) (fuel + 1)
      (word "if" :: (bindingTokens comma s ++ .group .brace block :: rest))
        = some (.conditional (.binding pattern value) statements none, rest) := by
    intro fuel
    refine (bind_of_eq_some (keyword_of_word "if" _)).trans ((bind_of_eq_some hcondition).trans ?_)
    refine (bind_of_eq_some (inside_of hstatements)).trans ?_
    exact (otherwise_keyword helse).trans ((bind_of_eq_some (a := none) rfl).trans rfl)
  have hexpr : (Grammar.level (n + 10)).statementExpr
      (word "if" :: (bindingTokens comma s ++ .group .brace block :: rest))
        = some (.conditional (.binding pattern value) statements none, rest) := by
    refine (bind_of_eq_some (repeatWhile_of_not rfl)).trans ((chosen rfl).trans ?_)
    refine (bind_of_eq_some ((atomRule_if _ rfl).trans (hconditional _))).trans ?_
    refine (otherwise ?_).trans rfl
    rw [haccess, hattempt]
    rfl
  refine ⟨.ofExpr (Expr.withLeftmostAttributes []
    (.conditional (.binding pattern value) statements none)) false, ?_⟩
  refine (otherwise_punct rfl).trans ((bind_of_eq_some (a := _) rfl).trans ?_)
  refine (bind_of_eq_some (repeatWhile_of_not rfl)).trans
    ((otherwise ?_).trans ((otherwise rfl).trans ?_))
  · rfl
  refine (otherwise rfl).trans ((bind_of_eq_some hexpr).trans ?_)
  exact (bind_of_eq_some (punct?_of_not hsemicolon)).trans rfl

end FluentBuilder.Code
