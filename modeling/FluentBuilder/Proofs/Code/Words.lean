import FluentBuilder.Code.Identifier

/-!
# Words in a source text

An identifier token is read off a word: a character that can start an identifier and the identifier
characters behind it, with or without the raw mark in front.  A text that is one identifier token
has this word behind its blanks and comments, and nothing but blanks and comments behind the word.

* `firstWord`, `splitIdentifier?_spec` — the word that an identifier is read off;
* `assembleWith?_spec` — lexemes become trees in their order, so that a single leaf comes from a
  single lexeme;
* `splitLexeme?_cases` — the kinds of lexemes at the head of a text;
* `tokens?_ident_spec` — what a text looks like that is one identifier token.
-/

namespace FluentBuilder.Code

open FluentBuilder.Text

/-! ### Words -/

/-- The first character of a text with the identifier characters behind it, and the rest of the
text. -/
def firstWord : List Char → List Char × List Char
  | [] => ([], [])
  | c :: rest => (c :: rest.takeWhile isIdentifierContinue, rest.dropWhile isIdentifierContinue)

theorem firstWord_append (text : List Char) : (firstWord text).1 ++ (firstWord text).2 = text := by
  cases text with
  | nil => rfl
  | cons c rest =>
    show c :: (rest.takeWhile isIdentifierContinue ++ rest.dropWhile isIdentifierContinue)
      = c :: rest
    rw [List.takeWhile_append_dropWhile]

theorem skipIdentifierRest_eq (text : List Char) :
    skipIdentifierRest text = text.dropWhile isIdentifierContinue := by
  induction text with
  | nil => rfl
  | cons c rest ih =>
    unfold skipIdentifierRest
    rw [List.dropWhile_cons]
    split
    · exact ih
    · rfl

theorem scanIdentifier?_eq_some_iff {input rest : List Char} :
    scanIdentifier? input = some rest
      ↔ ∃ c cs, input = c :: cs ∧ isIdentifierStart c = true ∧ rest = (firstWord input).2 := by
  cases input with
  | nil => exact ⟨nofun, fun ⟨_, _, h, _⟩ => nomatch h⟩
  | cons c cs =>
    unfold scanIdentifier?
    rw [Option.ite_none_right_eq_some, skipIdentifierRest_eq, Option.some.injEq]
    constructor
    · rintro ⟨hstart, rfl⟩
      exact ⟨c, cs, rfl, hstart, rfl⟩
    · rintro ⟨d, ds, h, hstart, rfl⟩
      cases h
      exact ⟨hstart, rfl⟩

/-- What is spelled in front of the rest behind a word is the word. -/
theorem spelling_firstWord (input : List Char) :
    spelling input (firstWord input).2 = String.ofList (firstWord input).1 := by
  have hsplit := firstWord_append input
  have hlength : input.length - (firstWord input).2.length = (firstWord input).1.length := by
    have := congrArg List.length hsplit
    rw [List.length_append] at this
    omega
  unfold spelling
  rw [hlength]
  refine congrArg String.ofList ?_
  calc input.take (firstWord input).1.length
      = ((firstWord input).1 ++ (firstWord input).2).take (firstWord input).1.length := by
        rw [hsplit]
    _ = (firstWord input).1 := List.take_left

/-- A text without the raw mark that it starts with. -/
def dropRawMark : List Char → List Char
  | 'r' :: '#' :: raw => raw
  | text => text

theorem plainName_raw (name : String) : plainName ("r#" ++ name) = name := by
  unfold plainName
  rw [String.toList_append]
  show String.ofList name.toList = name
  rw [String.ofList_toList]

/-- A word has no raw mark of its own. -/
theorem plainName_firstWord (c : Char) (cs : List Char) :
    plainName (String.ofList (firstWord (c :: cs)).1) = String.ofList (firstWord (c :: cs)).1 := by
  unfold plainName
  rw [String.toList_ofList]
  split
  · next rest h =>
    have hmark : '#' ∈ cs.takeWhile isIdentifierContinue := by
      injection h with _ htail
      rw [htail]
      exact List.mem_cons_self
    exact absurd (List.all_eq_true.1 List.all_takeWhile '#' hmark) (by decide)
  · rfl

/-- **An identifier is read off a word**, behind the raw mark if there is one. -/
theorem splitIdentifier?_spec {input rest : List Char} {name : String}
    (h : splitIdentifier? input = some (name, rest)) :
    ∃ c cs, dropRawMark input = c :: cs ∧ isIdentifierStart c = true
      ∧ plainName name = String.ofList (firstWord (dropRawMark input)).1
      ∧ rest = (firstWord (dropRawMark input)).2 := by
  unfold splitIdentifier? at h
  split at h
  · next raw =>
    obtain ⟨behind, hbehind, h⟩ := Option.bind_eq_some_iff.1 h
    obtain ⟨c, cs, hraw, hstart, rfl⟩ := scanIdentifier?_eq_some_iff.1 hbehind
    rw [Option.ite_none_left_eq_some, spelling_firstWord] at h
    cases h.2
    exact ⟨c, cs, hraw, hstart, plainName_raw _, rfl⟩
  · next hraw =>
    obtain ⟨behind, hbehind, h⟩ := Option.bind_eq_some_iff.1 h
    obtain ⟨c, cs, rfl, hstart, rfl⟩ := scanIdentifier?_eq_some_iff.1 hbehind
    have hplain : dropRawMark (c :: cs) = c :: cs := by
      unfold dropRawMark
      split
      · next raw h => exact absurd h (hraw raw)
      · rfl
    rw [spelling_firstWord] at h
    cases h
    rw [hplain]
    exact ⟨c, cs, rfl, hstart, plainName_firstWord c cs, rfl⟩

/-! ### From lexemes to trees -/

/-- What the trees of lexemes start with, given the trees before them and the groups around them:
the trees before the outermost open group, then that group.  Without an open group each lexeme adds
to the trees before. -/
theorem assembleWith?_spec {done : List TokenTree} {enclosing : List (Delimiter × List TokenTree)}
    {lexemes : List Lexeme} {trees : List TokenTree}
    (h : assembleWith? done enclosing lexemes = some trees) :
    (enclosing = [] → ∃ more, trees = done.reverse ++ more ∧ (more = [] → lexemes = []))
      ∧ ∀ delimiter before, enclosing.getLast? = some (delimiter, before) →
          ∃ inner more, trees = before.reverse ++ .group delimiter inner :: more := by
  induction lexemes generalizing done enclosing with
  | nil =>
    unfold assembleWith? at h
    rw [Option.ite_none_right_eq_some, List.isEmpty_iff] at h
    obtain ⟨rfl, h⟩ := h
    cases h
    exact ⟨fun _ => ⟨[], (List.append_nil _).symm, fun _ => rfl⟩, nofun⟩
  | cons lexeme rest ih =>
    cases lexeme with
    | tree tree =>
      obtain ⟨hclosed, hopen⟩ := ih h
      refine ⟨fun hnil => ?_, hopen⟩
      obtain ⟨more, htrees, -⟩ := hclosed hnil
      rw [List.reverse_cons, List.append_assoc] at htrees
      exact ⟨tree :: more, htrees, nofun⟩
    | opening delimiter =>
      obtain ⟨-, hopen⟩ := ih h
      constructor
      · rintro rfl
        obtain ⟨inner, more, htrees⟩ := hopen delimiter done rfl
        exact ⟨.group delimiter inner :: more, htrees, nofun⟩
      · intro outer before hlast
        refine hopen outer before ?_
        rw [List.getLast?_cons, hlast]
        rfl
    | closing delimiter =>
      unfold assembleWith? at h
      cases enclosing with
      | nil => cases h
      | cons innermost outer =>
        obtain ⟨expected, earlier⟩ := innermost
        dsimp only at h
        rw [Option.ite_none_right_eq_some] at h
        obtain ⟨hclosed, hopen⟩ := ih h.2
        refine ⟨nofun, fun last before hlast => ?_⟩
        cases outer with
        | nil =>
          obtain ⟨more, htrees, -⟩ := hclosed rfl
          cases hlast
          rw [List.reverse_cons, List.append_assoc] at htrees
          rw [eq_of_beq h.1] at htrees
          exact ⟨done.reverse, more, htrees⟩
        | cons next others =>
          refine hopen last before ?_
          rw [← hlast]
          rfl

/-- A single leaf comes from a single lexeme. -/
theorem assemble?_eq_leaf {lexemes : List Lexeme} {token : Token}
    (h : assemble? lexemes = some [.leaf token]) :
    lexemes = [.tree (.leaf token)] := by
  unfold assemble? at h
  cases lexemes with
  | nil => cases h
  | cons lexeme rest =>
    cases lexeme with
    | tree tree =>
      obtain ⟨hclosed, -⟩ := assembleWith?_spec (show assembleWith? [tree] [] rest = _ from h)
      obtain ⟨more, htrees, hrest⟩ := hclosed rfl
      injection htrees with htree hmore
      rw [hrest hmore.symm, htree]
    | opening delimiter =>
      obtain ⟨-, hopen⟩ :=
        assembleWith?_spec (show assembleWith? [] [(delimiter, [])] rest = _ from h)
      obtain ⟨inner, more, htrees⟩ := hopen delimiter [] rfl
      cases htrees
    | closing delimiter => cases h

/-! ### Single lexemes -/

/-- **The kinds of lexemes at the head of a text**: the attribute of a documentation comment, one
end of a group, or a single token. -/
theorem splitLexeme?_cases {input rest : List Char} {here : List Lexeme}
    (h : splitLexeme? input = some (here, rest)) :
    (∃ inner text, here = (documentation inner text).map .tree)
      ∨ (∃ delimiter, here = [.opening delimiter] ∨ here = [.closing delimiter])
      ∨ ∃ token, here = [.tree (.leaf token)] ∧ splitLeaf? input = some (token, rest) := by
  unfold splitLexeme? at h
  split at h
  · cases h
    exact .inl ⟨_, _, rfl⟩
  · right
    split at h
    case h_7 =>
      obtain ⟨⟨token, behind⟩, hleaf, h⟩ := Option.map_eq_some_iff.1 h
      cases h
      exact .inr ⟨token, rfl, hleaf⟩
    all_goals
      cases h
      exact .inl ⟨_, by first | exact .inl rfl | exact .inr rfl⟩

theorem documentation_eq_cons (inner : Bool) (text : List Char) :
    ∃ more, documentation inner text = .leaf (.punct '#' false) :: more ∧ more ≠ [] := by
  cases inner
  · exact ⟨_, rfl, nofun⟩
  · exact ⟨_, rfl, nofun⟩

theorem splitLexeme?_ne_nil {input rest : List Char} {here : List Lexeme}
    (h : splitLexeme? input = some (here, rest)) : here ≠ [] := by
  rcases splitLexeme?_cases h with ⟨inner, text, rfl⟩ | ⟨delimiter, rfl | rfl⟩ | ⟨token, rfl, -⟩
  · obtain ⟨more, hdoc, -⟩ := documentation_eq_cons inner text
    rw [hdoc]
    exact List.cons_ne_nil _ _
  all_goals exact List.cons_ne_nil _ _

/-- An identifier token at the head of a text is read by `splitIdentifier?`. -/
theorem splitIdentifier?_of_splitLeaf? {input rest : List Char} {name : String}
    (h : splitLeaf? input = some (.ident name, rest)) :
    splitIdentifier? input = some (name, rest) := by
  unfold splitLeaf? at h
  split at h
  · cases h
  · split at h
    · cases h
    · split at h
      · split at h
        · unfold splitQuote? at h
          obtain ⟨_, -, h⟩ := Option.bind_eq_some_iff.1 h
          split at h
          · cases h
          · obtain ⟨_, -, h⟩ := Option.bind_eq_some_iff.1 h
            cases h
        · cases h
      · obtain ⟨⟨word, behind⟩, hword, h⟩ := Option.map_eq_some_iff.1 h
        cases h
        unfold splitWord? at hword
        rw [Option.ite_none_left_eq_some] at hword
        exact hword.2

/-! ### One token -/

/-- The lexemes of a text are none when the text is blank. -/
theorem skipBlanks_eq_nil_of_lexemesWith? {fuel : Nat} {input : List Char}
    (h : lexemesWith? fuel input = some []) :
    skipBlanks fuel input = [] := by
  cases fuel with
  | zero => cases h
  | succ fuel =>
    unfold lexemesWith? at h
    split at h
    · next hblank => exact hblank
    · obtain ⟨⟨here, behind⟩, hhere, h⟩ := Option.bind_eq_some_iff.1 h
      obtain ⟨others, -, h⟩ := Option.bind_eq_some_iff.1 h
      have hnil := (List.append_eq_nil_iff.1 (Option.some.inj h)).1
      exact absurd hnil (splitLexeme?_ne_nil hhere)

/-- **What a text looks like that is one identifier token**: an identifier stands behind blanks, and
only blanks behind it. -/
theorem tokens?_ident_spec {source : List Char} {name : String}
    (h : tokens? source = some [.leaf (.ident name)]) :
    ∃ rest, splitIdentifier?
          (skipBlanks ((dropByteOrderMark source).length + 1) (dropByteOrderMark source))
        = some (name, rest)
      ∧ ∃ fuel, skipBlanks fuel rest = [] := by
  obtain ⟨lexemes, hlexemes, hassemble⟩ := Option.bind_eq_some_iff.1 h
  rw [assemble?_eq_leaf hassemble] at hlexemes
  unfold lexemes? lexemesWith? at hlexemes
  split at hlexemes
  · cases hlexemes
  · next c cs hstart =>
    rw [hstart]
    obtain ⟨⟨here, rest⟩, hhere, hlexemes⟩ := Option.bind_eq_some_iff.1 hlexemes
    obtain ⟨others, hothers, hlexemes⟩ := Option.bind_eq_some_iff.1 hlexemes
    have hall : here ++ others = [.tree (.leaf (.ident name))] := Option.some.inj hlexemes
    rcases splitLexeme?_cases hhere with ⟨inner, text, rfl⟩ | ⟨delimiter, rfl | rfl⟩ | ⟨token,
      rfl, hleaf⟩
    · obtain ⟨more, hdoc, -⟩ := documentation_eq_cons inner text
      rw [hdoc] at hall
      cases hall
    · cases hall
    · cases hall
    · injection hall with htoken hnone
      cases htoken
      rw [show others = [] from hnone] at hothers
      exact ⟨rest, splitIdentifier?_of_splitLeaf? hleaf, _,
        skipBlanks_eq_nil_of_lexemesWith? hothers⟩

end FluentBuilder.Code
