import FluentBuilder.Proofs.Code.Names

/-!
# Reading a text piece by piece

The lexemes of a text are those of the piece at its head and those of what is left, as long as the
piece and the rest do not run into each other.  So what a text is read as can be put together from
its pieces.

* `Lexed`, `Lexed.blank`, `Lexed.comment` — the lexemes of a text, to which blanks and comments add
  nothing;
* `Lexed.operator`, `Lexed.name`, `Lexed.lifetime`, `Lexed.documentation` — the pieces that are
  tokens;
* `Assembles`, `tokens?_of_lexed` — the trees of a text.
-/

namespace FluentBuilder.Code

open FluentBuilder.Text

/-! ### Blanks -/

theorem splitLine_cons {c : Char} (hfeed : c ≠ '\n') (hreturn : c ≠ '\r') (rest : List Char) :
    splitLine (c :: rest) = (c :: (splitLine rest).1, (splitLine rest).2) :=
  splitLine.eq_4 c rest hfeed fun _ hc _ => hreturn hc

theorem length_splitLine_le (input : List Char) : (splitLine input).2.length ≤ input.length := by
  fun_induction splitLine input with
  | case1 => exact Nat.le_refl 0
  | case2 => exact Nat.le_refl _
  | case3 rest =>
    simp only [List.length_cons]
    omega
  | case4 c rest _ _ line behind hline ih =>
    rw [hline] at ih
    simp only [List.length_cons]
    exact Nat.le_succ_of_le ih

theorem length_le_of_splitComment? {depth : Nat} {input inner rest : List Char}
    (h : splitComment? depth input = some (inner, rest)) : rest.length ≤ input.length := by
  fun_induction splitComment? depth input generalizing inner with
  | case1 => cases h
  | case2 depth input ih =>
    obtain ⟨r, hr, h⟩ := Option.map_eq_some_iff.1 h
    cases h
    have := ih hr
    simp only [List.length_cons]
    omega
  | case3 input =>
    cases h
    simp only [List.length_cons]
    omega
  | case4 input depth ih =>
    obtain ⟨r, hr, h⟩ := Option.map_eq_some_iff.1 h
    cases h
    have := ih hr
    simp only [List.length_cons]
    omega
  | case5 depth c input _ _ ih =>
    obtain ⟨r, hr, h⟩ := Option.map_eq_some_iff.1 h
    cases h
    have := ih hr
    simp only [List.length_cons]
    omega

theorem eq_slash_of_startsLineComment {c : Char} {rest : List Char}
    (h : startsLineComment (c :: rest) = true) :
    c = '/' := by
  unfold startsLineComment startsWith skip? at h
  cases hp : '/' == c with
  | true => exact (eq_of_beq hp).symm
  | false =>
    rw [hp] at h
    cases h

/-- Fuel beyond the length of the input makes no difference to the blanks that are skipped. -/
theorem skipBlanks_fuel {fuel more : Nat} {input : List Char} (hfuel : input.length ≤ fuel)
    (hmore : input.length ≤ more) : skipBlanks fuel input = skipBlanks more input := by
  induction fuel generalizing input more with
  | zero =>
    obtain rfl := List.eq_nil_of_length_eq_zero (Nat.le_zero.1 hfuel)
    cases more <;> rfl
  | succ fuel ih =>
    cases input with
    | nil => cases more <;> rfl
    | cons c rest =>
      rw [List.length_cons] at hfuel hmore
      obtain ⟨more, rfl⟩ : ∃ n, more = n + 1 := ⟨more - 1, by omega⟩
      unfold skipBlanks
      split
      · next hline =>
        obtain rfl := eq_slash_of_startsLineComment hline
        have hlength := length_splitLine_le rest
        rw [splitLine_cons (by decide) (by decide)]
        dsimp only
        exact ih (by omega) (by omega)
      · split
        · split
          · next inner behind hcomment =>
            have hlength := length_le_of_splitComment? hcomment
            rw [List.length_drop] at hlength
            exact ih (by omega) (by omega)
          · rfl
        · split
          · exact ih (by omega) (by omega)
          · rfl

/-! ### Lexemes of a text -/

/-- Whether a text has the given lexemes. -/
def Lexed (input : List Char) (lexemes : List Lexeme) : Prop :=
  ∀ fuel, input.length < fuel → lexemesWith? fuel input = some lexemes

theorem lexed_nil : Lexed [] [] := by
  intro fuel hfuel
  obtain ⟨fuel, rfl⟩ : ∃ n, fuel = n + 1 := ⟨fuel - 1, by omega⟩
  rfl

/-- A text without what is skipped at its head has the same lexemes. -/
theorem Lexed.of_skip {input rest : List Char} {lexemes : List Lexeme} (h : Lexed rest lexemes)
    (hlength : rest.length ≤ input.length)
    (hskip : ∀ fuel, input.length ≤ fuel → skipBlanks fuel input = skipBlanks fuel rest) :
    Lexed input lexemes := by
  intro fuel hfuel
  obtain ⟨fuel, rfl⟩ : ∃ n, fuel = n + 1 := ⟨fuel - 1, by omega⟩
  have hrest := h (fuel + 1) (by omega)
  unfold lexemesWith? at hrest ⊢
  rw [hskip (fuel + 1) (by omega)]
  exact hrest

/-- A blank in front of a text is skipped. -/
theorem Lexed.blank {c : Char} {rest : List Char} {lexemes : List Lexeme} (h : Lexed rest lexemes)
    (hslash : c ≠ '/') (hblank : isBlank c = true) : Lexed (c :: rest) lexemes := by
  have hstart : ∀ ps, startsWith ('/' :: ps) (c :: rest) = false := by
    intro ps
    have hp : ('/' == c) = false := beq_eq_false_iff_ne.2 hslash.symm
    unfold startsWith skip?
    rw [hp]
    rfl
  refine h.of_skip (Nat.le_succ _) fun fuel hfuel => ?_
  rw [List.length_cons] at hfuel
  obtain ⟨fuel, rfl⟩ : ∃ n, fuel = n + 1 := ⟨fuel - 1, by omega⟩
  rw [skipBlanks_fuel (show rest.length ≤ fuel + 1 by omega) (show rest.length ≤ fuel by omega)]
  have hline : startsLineComment (c :: rest) = false := by
    unfold startsLineComment
    rw [hstart]
    rfl
  have hblock : startsBlockComment (c :: rest) = false := by
    unfold startsBlockComment
    rw [hstart]
    rfl
  rw [skipBlanks, hline, hblock, hblank]
  rfl

theorem splitLine_of_feed {line : List Char} (hline : '\n' ∉ line) (rest : List Char) :
    (splitLine (line ++ '\n' :: rest)).2 = '\n' :: rest := by
  fun_induction splitLine line with
  | case1 => rfl
  | case2 => exact absurd List.mem_cons_self hline
  | case3 => exact absurd (List.mem_cons_of_mem _ List.mem_cons_self) hline
  | case4 c line hfeed hreturn inner behind hsplit ih =>
    have hfirst : c ≠ '\n' := fun hc => hline (hc ▸ List.mem_cons_self)
    have hlater : '\n' ∉ line := fun hmem => hline (List.mem_cons_of_mem c hmem)
    by_cases hc : c = '\r' ∧ line = []
    · obtain ⟨rfl, rfl⟩ := hc
      rfl
    · have hreturn' : ∀ others, c = '\r' → line ++ '\n' :: rest = '\n' :: others → False := by
        intro others hr hothers
        cases line with
        | nil => exact hc ⟨hr, rfl⟩
        | cons d line =>
          injection hothers with hd _
          exact hlater (hd ▸ List.mem_cons_self)
      rw [List.cons_append, splitLine.eq_4 c (line ++ '\n' :: rest) hfirst hreturn']
      exact ih hlater

/-- A comment on the line in front of a text is skipped. -/
theorem Lexed.comment {line rest : List Char} {lexemes : List Lexeme} (h : Lexed rest lexemes)
    (hstart : startsLineComment ('/' :: line ++ '\n' :: rest) = true) (hline : '\n' ∉ line) :
    Lexed ('/' :: line ++ '\n' :: rest) lexemes := by
  have hfeed : Lexed ('\n' :: rest) lexemes := h.blank (by decide) (by decide)
  have hsplit : (splitLine ('/' :: line ++ '\n' :: rest)).2 = '\n' :: rest := by
    refine splitLine_of_feed (fun hmem => ?_) rest
    rcases List.mem_cons.1 hmem with hslash | hmem
    · exact absurd hslash (by decide)
    · exact hline hmem
  refine hfeed.of_skip ?_ fun fuel hfuel => ?_
  · simp only [List.length_append, List.length_cons]
    omega
  · rw [List.cons_append] at hfuel hsplit hstart ⊢
    simp only [List.length_append, List.length_cons] at hfuel
    obtain ⟨fuel, rfl⟩ : ∃ n, fuel = n + 1 := ⟨fuel - 1, by omega⟩
    rw [skipBlanks, if_pos hstart, hsplit]
    exact skipBlanks_fuel (by rw [List.length_cons]; omega) (by rw [List.length_cons]; omega)

/-- A lexeme at the head of a text, which starts neither with a blank nor with a comment. -/
theorem Lexed.step {c : Char} {input rest : List Char} {here lexemes : List Lexeme}
    (h : Lexed rest lexemes) (hhere : splitLexeme? (c :: input) = some (here, rest))
    (hlength : rest.length ≤ input.length)
    (hhead : ∀ fuel, skipBlanks fuel (c :: input) = c :: input) :
    Lexed (c :: input) (here ++ lexemes) := by
  intro fuel hfuel
  rw [List.length_cons] at hfuel
  obtain ⟨fuel, rfl⟩ : ∃ n, fuel = n + 1 := ⟨fuel - 1, by omega⟩
  unfold lexemesWith?
  rw [hhead]
  dsimp only
  rw [hhere, Option.bind_eq_bind, Option.bind_some, h fuel (by omega)]
  rfl

/-! ### Single lexemes -/

/-- Whether a character is neither a digit, a blank, punctuation nor a delimiter, nor opens a
comment. -/
theorem isIdentifierStart_not_mem {c : Char} (hc : isIdentifierStart c = true) :
    c ∉ '/' :: '(' :: ')' :: '[' :: ']' :: '\x7b' :: '\x7d' :: punctuationChars := by
  intro hmem
  have hnone : ('/' :: '(' :: ')' :: '[' :: ']' :: '\x7b' :: '\x7d' :: punctuationChars).all
      (fun d => !isIdentifierStart d) = true := by decide
  have hother := List.all_eq_true.1 hnone c hmem
  rw [hc] at hother
  cases hother

theorem splitDocumentation?_eq_none {c : Char} (hc : c ≠ '/') (rest : List Char) :
    splitDocumentation? (c :: rest) = none := by
  unfold splitDocumentation?
  split
  all_goals
    first
      | rfl
      | (next h =>
          injection h with hslash _
          exact absurd hslash hc)

/-- What stands at the head of a text that starts with a letter is a single token. -/
theorem splitLexeme?_eq_splitLeaf? {c : Char}
    (hc : c ∉ '/' :: '(' :: ')' :: '[' :: ']' :: '\x7b' :: '\x7d' :: []) (rest : List Char) :
    splitLexeme? (c :: rest) = (splitLeaf? (c :: rest)).map fun r =>
      ([.tree (.leaf r.1)], r.2) := by
  simp only [List.mem_cons, List.not_mem_nil, or_false, not_or] at hc
  obtain ⟨hslash, hparen, hparen', hbracket, hbracket', hbrace, hbrace'⟩ := hc
  unfold splitLexeme?
  rw [splitDocumentation?_eq_none hslash]
  dsimp only
  split
  case h_7 => rfl
  all_goals
    next h =>
    injection h with h _
    contradiction

/-- The characters of operators.  The slash, which may open a comment, and the quote are not among
them. -/
def operatorChars : List Char :=
  "~!@#$%^&*-=+|;:,<.>?".toList

/-- No literal starts with a character that is neither a digit, a quote nor a letter that announces
a string. -/
theorem scanLiteral?_eq_none {c : Char} (hdigit : isAsciiDigit c = false)
    (hc : c ∉ ['"', '\'', 'r', 'b', 'c']) (rest : List Char) : scanLiteral? (c :: rest) = none := by
  have hskip : ∀ p ∈ ['"', '\'', 'r', 'b', 'c'], ∀ ps, skip? (p :: ps) (c :: rest) = none := by
    intro p hp ps
    refine skip?_cons_of_ne ?_ ps rest
    rintro rfl
    exact hc hp
  obtain ⟨hfloat, hinteger⟩ := scanNumber?_eq_none hdigit rest
  have hstring : ∀ form, ∀ mark ∈ [[], ['b'], ['c']], scanString? form mark (c :: rest) = none := by
    intro form mark hmark
    simp only [List.mem_cons, List.not_mem_nil, or_false] at hmark
    rcases hmark with rfl | rfl | rfl
    · exact scanString?_eq_none (hskip '"' (by decide) _) (hskip 'r' (by decide) _)
    · exact scanString?_eq_none (hskip 'b' (by decide) _) (hskip 'b' (by decide) _)
    · exact scanString?_eq_none (hskip 'c' (by decide) _) (hskip 'c' (by decide) _)
  unfold scanLiteral?
  rw [hstring _ _ (by decide), hstring _ _ (by decide), hstring _ _ (by decide),
    hskip 'b' (by decide), hskip '\'' (by decide), hfloat, hinteger]
  rfl

theorem startsWith_slash_eq_false {c : Char} (hc : c ≠ '/') (ps rest : List Char) :
    startsWith ('/' :: ps) (c :: rest) = false := by
  unfold startsWith
  rw [skip?_cons_of_ne hc.symm]
  rfl

theorem operatorChars_spec : ∀ c ∈ operatorChars, c ∉ ['/', '(', ')', '[', ']', '\x7b', '\x7d']
    ∧ isAsciiDigit c = false ∧ c ∉ ['"', '\'', 'r', 'b', 'c'] ∧ punctuationChars.contains c = true
    ∧ (c == '\'') = false ∧ isBlank c = false := by
  have hall : operatorChars.all (fun c => decide (c ∉ ['/', '(', ')', '[', ']', '\x7b', '\x7d']
      ∧ isAsciiDigit c = false ∧ c ∉ ['"', '\'', 'r', 'b', 'c'] ∧ punctuationChars.contains c = true
      ∧ (c == '\'') = false ∧ isBlank c = false)) = true := by
    decide
  exact fun c hc => of_decide_eq_true (List.all_eq_true.1 hall c hc)

/-- Whether characters make up an operator. -/
def isOperator (cs : List Char) : Bool :=
  cs.all operatorChars.contains

theorem isOperator_cons_iff {c : Char} {cs : List Char} :
    isOperator (c :: cs) = true ↔ c ∈ operatorChars ∧ isOperator cs = true := by
  unfold isOperator
  rw [List.all_cons, Bool.and_eq_true, List.contains_iff_mem]

/-- An operator character is a token. -/
theorem splitLexeme?_operator {c : Char} (hc : c ∈ operatorChars) (rest : List Char) :
    splitLexeme? (c :: rest) = some ([.tree (.leaf (.punct c (startsPunctuation rest)))],
      rest) := by
  obtain ⟨hdelimiter, hdigit, hliteral, hpunct, hquote, -⟩ := operatorChars_spec c hc
  have hslash : c ≠ '/' := fun h => hdelimiter (h ▸ List.mem_cons_self)
  have hstarts : startsPunctuation (c :: rest) = true := by
    unfold startsPunctuation
    dsimp only
    rw [hpunct, startsWith_slash_eq_false hslash, startsWith_slash_eq_false hslash]
    rfl
  rw [splitLexeme?_eq_splitLeaf? hdelimiter]
  unfold splitLeaf?
  rw [scanLiteral?_eq_none hdigit hliteral]
  dsimp only
  rw [if_pos hstarts, hquote]
  rfl

theorem Lexed.operator {c : Char} {rest : List Char} {lexemes : List Lexeme}
    (h : Lexed rest lexemes) (hc : c ∈ operatorChars) :
    Lexed (c :: rest) (.tree (.leaf (.punct c (startsPunctuation rest))) :: lexemes) := by
  obtain ⟨hdelimiter, -, -, -, -, hblank⟩ := operatorChars_spec c hc
  have hslash : c ≠ '/' := fun h => hdelimiter (h ▸ List.mem_cons_self)
  exact h.step (splitLexeme?_operator hc rest) (Nat.le_refl _) fun fuel =>
    skipBlanks_of_head hslash hblank fuel rest

/-- The tokens of an operator, joint up to the last one, for which a flag says so. -/
def operatorTokens (last : Bool) : List Char → Tokens
  | [] => []
  | [c] => [.leaf (.punct c last)]
  | c :: d :: rest => .leaf (.punct c true) :: operatorTokens last (d :: rest)

/-- The characters of an operator in front of a text. -/
theorem Lexed.operators {cs rest : List Char} {lexemes : List Lexeme} (h : Lexed rest lexemes)
    (hcs : isOperator cs = true) :
    Lexed (cs ++ rest) ((operatorTokens (startsPunctuation rest) cs).map .tree ++ lexemes) := by
  induction cs with
  | nil => exact h
  | cons c cs ih =>
    obtain ⟨hc, hcs⟩ := isOperator_cons_iff.1 hcs
    have hfirst := (ih hcs).operator hc
    cases cs with
    | nil => exact hfirst
    | cons d cs =>
      have hd : startsPunctuation (d :: (cs ++ rest)) = true := by
        obtain ⟨hdelimiter, -, -, hpunct, -⟩ := operatorChars_spec d (isOperator_cons_iff.1 hcs).1
        have hslash : d ≠ '/' := fun h => hdelimiter (h ▸ List.mem_cons_self)
        unfold startsPunctuation
        dsimp only
        rw [hpunct, startsWith_slash_eq_false hslash, startsWith_slash_eq_false hslash]
        rfl
      rw [List.cons_append, hd] at hfirst
      exact hfirst

/-- The character that opens a group. -/
def Delimiter.openingChar : Delimiter → Char
  | .paren => '('
  | .bracket => '['
  | .brace => '\x7b'

/-- The character that closes a group. -/
def Delimiter.closingChar : Delimiter → Char
  | .paren => ')'
  | .bracket => ']'
  | .brace => '\x7d'

theorem splitLexeme?_opening (delimiter : Delimiter) (rest : List Char) :
    splitLexeme? (delimiter.openingChar :: rest) = some ([.opening delimiter], rest) := by
  cases delimiter <;> rfl

theorem splitLexeme?_closing (delimiter : Delimiter) (rest : List Char) :
    splitLexeme? (delimiter.closingChar :: rest) = some ([.closing delimiter], rest) := by
  cases delimiter <;> rfl

theorem Lexed.opening {rest : List Char} {lexemes : List Lexeme} (h : Lexed rest lexemes)
    (delimiter : Delimiter) :
    Lexed (delimiter.openingChar :: rest) (.opening delimiter :: lexemes) :=
  h.step (splitLexeme?_opening delimiter rest) (Nat.le_refl _) fun fuel =>
    skipBlanks_of_head (by cases delimiter <;> decide) (by cases delimiter <;> decide) fuel rest

theorem Lexed.closing {rest : List Char} {lexemes : List Lexeme} (h : Lexed rest lexemes)
    (delimiter : Delimiter) :
    Lexed (delimiter.closingChar :: rest) (.closing delimiter :: lexemes) :=
  h.step (splitLexeme?_closing delimiter rest) (Nat.le_refl _) fun fuel =>
    skipBlanks_of_head (by cases delimiter <;> decide) (by cases delimiter <;> decide) fuel rest

/-- How a name starts. -/
theorem IsName.head {name : String} (h : IsName name) : ∃ c cs, name.toList = c :: cs
    ∧ c ∉ ['/', '(', ')', '[', ']', '\x7b', '\x7d'] ∧ punctuationChars.contains c = false
    ∧ isBlank c = false := by
  have hstart : ∀ c, isIdentifierStart c = true →
      c ∉ ['/', '(', ')', '[', ']', '\x7b', '\x7d'] ∧ punctuationChars.contains c = false
        ∧ isBlank c = false := by
    intro c hc
    have hother := isIdentifierStart_not_mem hc
    refine ⟨fun hmem => hother (List.mem_append_left punctuationChars hmem), ?_,
      isBlank_of_isIdentifierStart hc⟩
    rw [← Bool.not_eq_true, List.contains_iff_mem]
    exact fun hmem => hother (List.mem_append_right ['/', '(', ')', '[', ']', '\x7b', '\x7d'] hmem)
  obtain ⟨c, cs, hc, -, hname | ⟨hname, -⟩⟩ := h.cases
  · exact ⟨c, cs, hname, hstart c hc⟩
  · exact ⟨'r', _, hname, hstart 'r' (by decide)⟩

/-- A name is a token in front of what stands apart from it. -/
theorem Lexed.name {name : String} {rest : List Char} {lexemes : List Lexeme}
    (h : Lexed rest lexemes) (hname : IsName name) (hrest : Apart rest) :
    Lexed (name.toList ++ rest) (.tree (.leaf (.ident name)) :: lexemes) := by
  obtain ⟨c, cs, hchars, hdelimiter, hpunct, hblank⟩ := hname.head
  have hslash : c ≠ '/' := fun h => hdelimiter (h ▸ List.mem_cons_self)
  have hliteral := hname.scanLiteral? hrest
  have hword := hname.splitWord? hrest
  rw [hchars, List.cons_append] at hliteral hword ⊢
  have hstarts : startsPunctuation (c :: (cs ++ rest)) = false := by
    unfold startsPunctuation
    dsimp only
    rw [hpunct]
    rfl
  have hleaf : splitLeaf? (c :: (cs ++ rest)) = some (.ident name, rest) := by
    unfold splitLeaf?
    rw [hliteral]
    dsimp only
    rw [hstarts, if_neg Bool.false_ne_true, hword]
    rfl
  have hhere : splitLexeme? (c :: (cs ++ rest)) = some ([.tree (.leaf (.ident name))], rest) := by
    rw [splitLexeme?_eq_splitLeaf? hdelimiter, hleaf]
    rfl
  refine h.step hhere ?_ fun fuel => skipBlanks_of_head hslash hblank fuel _
  rw [List.length_append]
  omega

/-- A name is no character literal: behind its first character stands no quote. -/
theorem IsName.scanCharacter? {name : String} {rest : List Char} (h : IsName name)
    (hrest : Apart rest) :
    scanCharacter? (name.toList ++ rest) = none := by
  obtain ⟨c, cs, hchars, hbehind⟩ : ∃ c cs, name.toList = c :: cs ∧ c ≠ '\\' ∧ ∀ d ∈ cs,
      d ≠ '\'' := by
    have hquote : ∀ cs : List Char, (∀ d ∈ cs, isIdentifierContinue d = true) → ∀ d ∈ cs,
        d ≠ '\'' := by
      rintro cs hcs d hd rfl
      exact absurd (hcs _ hd) (by decide)
    obtain ⟨c, cs, hc, hcs, hname | ⟨hname, -⟩⟩ := h.cases
    · exact ⟨c, cs, hname, isIdentifierStart_ne hc (by decide), hquote cs hcs⟩
    · refine ⟨'r', _,
        hname, by decide, List.forall_mem_cons.2 ⟨by decide, List.forall_mem_cons.2 ⟨?_,
          hquote cs hcs⟩⟩⟩
      exact isIdentifierStart_ne hc (by decide)
  have hbody : scanCharBody? scanAsciiEscape? true (c :: (cs ++ rest)) = some (cs ++ rest) := by
    unfold scanCharBody?
    split
    · next h => cases h
    · next h =>
      injection h with h _
      exact absurd h hbehind.1
    · next h =>
      injection h with h _
      exact absurd h hbehind.1
    · next h =>
      injection h with _ h
      rw [h]
  have hclosing : skip? ['\''] (cs ++ rest) = none := by
    cases cs with
    | nil =>
      cases rest with
      | nil => rfl
      | cons e rest =>
        refine skip?_cons_of_ne ?_ _ _
        rintro rfl
        exact hrest.head.2 (by decide)
    | cons d cs => exact skip?_cons_of_ne (hbehind.2 d List.mem_cons_self).symm _ _
  unfold FluentBuilder.Code.scanCharacter?
  rw [hchars, List.cons_append, hbody, Option.bind_eq_bind, Option.bind_some, hclosing]
  rfl

/-- A lifetime is a token in front of what stands apart from it. -/
theorem Lexed.lifetime {name : String} {rest : List Char} {lexemes : List Lexeme}
    (h : Lexed rest lexemes) (hname : IsName name) (hrest : Apart rest) :
    Lexed ('\'' :: (name.toList ++ rest)) (.tree (.leaf (.lifetime name)) :: lexemes) := by
  have hliteral : FluentBuilder.Code.scanLiteral? ('\'' :: (name.toList ++ rest)) = none := by
    have hskip : ∀ p ∈ ['"', 'r', 'b', 'c'], ∀ ps, skip? (p :: ps) ('\'' :: (name.toList ++ rest))
        = none := by
      intro p hp ps
      refine skip?_cons_of_ne ?_ ps _
      rintro rfl
      exact absurd hp (by decide)
    have hcharacter : (skip? ['\''] ('\'' :: (name.toList ++ rest)) >>= scanCharacter?) = none :=
      hname.scanCharacter? hrest
    obtain ⟨hfloat, hinteger⟩ := scanNumber?_eq_none (show isAsciiDigit '\'' = false by decide)
      (name.toList ++ rest)
    unfold FluentBuilder.Code.scanLiteral?
    rw [scanString?_eq_none (hskip '"' (by decide) _) (hskip 'r' (by decide) _),
      scanString?_eq_none (hskip 'b' (by decide) _) (hskip 'b' (by decide) _),
      scanString?_eq_none (hskip 'c' (by decide) _) (hskip 'c' (by decide) _),
      hskip 'b' (by decide), hcharacter,
      hfloat, hinteger]
    rfl
  have hword := hname.splitWord? hrest
  have hidentifier : splitIdentifier? (name.toList ++ rest) = some (name, rest) := by
    unfold splitWord? at hword
    rw [Option.ite_none_left_eq_some] at hword
    exact hword.2
  have hbehind : ∀ mark ∈ literalMarks, startsWith [mark] rest = false := by
    intro mark hmark
    unfold startsWith
    cases rest with
    | nil => rfl
    | cons e rest =>
      rw [skip?_cons_of_ne]
      · rfl
      · rintro rfl
        exact hrest.head.2 hmark
  have hlifetime : splitLifetime? (name.toList ++ rest) = some (name, rest) := by
    unfold splitLifetime?
    rw [hidentifier, Option.bind_eq_bind, Option.bind_some]
    dsimp only
    rw [hbehind '\'' (by decide), hbehind '#' (by decide)]
    rfl
  have hquote : splitQuote? (name.toList ++ rest) = some (.lifetime name, rest) := by
    unfold splitQuote?
    rw [hlifetime, hname.scanLiteral? hrest, hword]
    rfl
  have hstarts : startsPunctuation ('\'' :: (name.toList ++ rest)) = true := by
    unfold startsPunctuation
    dsimp only
    rw [startsWith_slash_eq_false (by decide), startsWith_slash_eq_false (by decide)]
    rfl
  have hhere : splitLexeme? ('\'' :: (name.toList ++ rest))
      = some ([.tree (.leaf (.lifetime name))], rest) := by
    rw [splitLexeme?_eq_splitLeaf? (by decide)]
    unfold splitLeaf?
    rw [hliteral]
    dsimp only
    rw [if_pos hstarts, if_pos (by rfl), hquote]
    rfl
  refine h.step hhere ?_ fun fuel => skipBlanks_of_head (by decide) (by decide) fuel _
  rw [List.length_append]
  omega

/-! ### Documentation -/

theorem hasNoLoneReturn_of_not_mem {text : List Char} (h : '\r' ∉ text) :
    hasNoLoneReturn text = true := by
  induction text with
  | nil => rfl
  | cons c rest ih =>
    have hc : c ≠ '\r' := fun hc => h (hc ▸ List.mem_cons_self)
    unfold hasNoLoneReturn
    split
    · rfl
    · next hsplit =>
      injection hsplit with hc' _
      exact absurd hc' hc
    · next hsplit =>
      injection hsplit with hc' hrest
      rw [← hc', ← hrest, ih fun hmem => h (List.mem_cons_of_mem c hmem), Bool.and_true]
      exact bne_iff_ne.2 hc

theorem splitLine_of_plain {line : List Char} (hfeed : '\n' ∉ line) (hreturn : '\r' ∉ line)
    (rest : List Char) :
    splitLine (line ++ '\n' :: rest) = (line, '\n' :: rest) := by
  induction line with
  | nil => rfl
  | cons c line ih =>
    have hc : c ≠ '\n' ∧ c ≠ '\r' :=
      ⟨fun hc => hfeed (hc ▸ List.mem_cons_self), fun hc => hreturn (hc ▸ List.mem_cons_self)⟩
    rw [List.cons_append, splitLine_cons hc.1 hc.2,
      ih (fun hmem => hfeed (List.mem_cons_of_mem c hmem))
      fun hmem => hreturn (List.mem_cons_of_mem c hmem)]

/-- **A documentation comment stands for an attribute** on the line in front of a text.  The comment
does not start with another slash. -/
theorem Lexed.documentation {line rest : List Char} {lexemes : List Lexeme} (h : Lexed rest lexemes)
    (hfeed : '\n' ∉ line) (hreturn : '\r' ∉ line) (hslash : line.head? ≠ some '/') :
    Lexed ('/' :: '/' :: '/' :: (line ++ '\n' :: rest))
      ((FluentBuilder.Code.documentation false line).map .tree ++ lexemes) := by
  have hnoslash : startsWith ['/'] (line ++ '\n' :: rest) = false := by
    unfold startsWith
    cases line with
    | nil => rfl
    | cons c line =>
      rw [List.cons_append, skip?_cons_of_ne]
      · rfl
      · rintro rfl
        exact hslash rfl
  have hdocumentation : splitDocumentation? ('/' :: '/' :: '/' :: (line ++ '\n' :: rest))
      = some (false, line, '\n' :: rest) := by
    show (if startsWith ['/'] (line ++ '\n' :: rest) then none
      else if hasNoLoneReturn (splitLine (line ++ '\n' :: rest)).1 then
        some (false, splitLine (line ++ '\n' :: rest)) else none) = _
    rw [hnoslash, if_neg Bool.false_ne_true, splitLine_of_plain hfeed hreturn,
      if_pos (hasNoLoneReturn_of_not_mem hreturn)]
  have hhere : splitLexeme? ('/' :: '/' :: '/' :: (line ++ '\n' :: rest))
      = some ((FluentBuilder.Code.documentation false line).map .tree, '\n' :: rest) := by
    unfold splitLexeme?
    rw [hdocumentation]
  have hcomment : startsLineComment ('/' :: '/' :: '/' :: (line ++ '\n' :: rest)) = false := by
    unfold startsLineComment
    have hfour : startsWith ['/', '/', '/', '/'] ('/' :: '/' :: '/' :: (line ++ '\n' :: rest))
      = false := hnoslash
    rw [hfour]
    rfl
  refine (h.blank (by decide) (by decide : isBlank '\n' = true)).step hhere ?_ fun fuel => ?_
  · simp only [List.length_cons, List.length_append]
    omega
  · cases fuel with
    | zero => rfl
    | succ fuel =>
      rw [skipBlanks, hcomment]
      rfl

/-! ### Trees of a text -/

/-- Whether lexemes become trees, whatever stands around them. -/
def Assembles (lexemes : List Lexeme) (trees : Tokens) : Prop :=
  ∀ done enclosing more, assembleWith? done enclosing (lexemes ++ more)
    = assembleWith? (trees.reverse ++ done) enclosing more

theorem assembles_nil : Assembles [] [] :=
  fun _ _ _ => rfl

theorem assembles_tree (tree : TokenTree) : Assembles [.tree tree] [tree] :=
  fun _ _ _ => rfl

theorem Assembles.append {a b : List Lexeme} {as bs : Tokens} (ha : Assembles a as)
    (hb : Assembles b bs) :
    Assembles (a ++ b) (as ++ bs) := by
  intro done enclosing more
  rw [List.append_assoc, ha, hb, List.reverse_append, List.append_assoc]

/-- A group holds the trees of what stands between its ends. -/
theorem Assembles.group {inner : List Lexeme} {trees : Tokens} (h : Assembles inner trees)
    (delimiter : Delimiter) :
    Assembles (.opening delimiter :: (inner ++ [.closing delimiter])) [.group delimiter trees] := by
  intro done enclosing more
  rw [List.cons_append, List.append_assoc]
  show assembleWith? [] ((delimiter, done) :: enclosing) (inner ++ ([.closing delimiter] ++ more))
    = _
  rw [h]
  show (if delimiter == delimiter then
    assembleWith? (.group delimiter (trees.reverse ++ []).reverse :: done) enclosing
    more else none) = _
  rw [if_pos (beq_self_eq_true delimiter), List.append_nil, List.reverse_reverse]
  rfl

theorem assembles_trees (trees : Tokens) : Assembles (trees.map .tree) trees := by
  induction trees with
  | nil => exact assembles_nil
  | cons tree rest ih => exact (assembles_tree tree).append ih

/-- The trees of a text are those of its lexemes. -/
theorem tokens?_of_lexed {input : List Char} {lexemes : List Lexeme} {trees : Tokens}
    (horder : dropByteOrderMark input = input) (h : Lexed input lexemes)
    (htrees : Assembles lexemes trees) :
    tokens? input = some trees := by
  unfold tokens? lexemes?
  rw [horder, h _ (Nat.lt_succ_self _), Option.bind_eq_bind, Option.bind_some]
  have hall := htrees [] [] []
  rw [List.append_nil, List.append_nil] at hall
  unfold assemble?
  rw [hall]
  show some trees.reverse.reverse = some trees
  rw [List.reverse_reverse]

end FluentBuilder.Code
