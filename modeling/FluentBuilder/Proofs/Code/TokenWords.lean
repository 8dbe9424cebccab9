import FluentBuilder.Proofs.Code.Words

/-!
# The words among tokens

The words of a sequence of trees are the texts of its identifier tokens, inside groups as well.
Where the trees come from a source text, each of them is spelled by identifier characters.

* `tokensWords` — the words of a sequence of trees;
* `IsWord` — the texts that an identifier token can have;
* `isWord_of_mem_tokens?` — the words of a source text;
* `IsWord.not_mem`, `IsWord.exists_last` — the characters in a word, and the one at its end.
-/

namespace FluentBuilder.Code

open FluentBuilder.Text

/-! ### Words of trees -/

mutual
/-- The words of a token tree. -/
def TokenTree.words : TokenTree → List String
  | .leaf (.ident name) => [name]
  | .leaf _ => []
  | .group _ inner => tokensWords inner

/-- The words of a sequence of token trees. -/
def tokensWords : List TokenTree → List String
  | [] => []
  | tree :: rest => tree.words ++ tokensWords rest
end

theorem mem_tokensWords_iff {trees : List TokenTree} {w : String} :
    w ∈ tokensWords trees ↔ ∃ tree ∈ trees, w ∈ tree.words := by
  induction trees with
  | nil => exact ⟨nofun, fun ⟨_, h, _⟩ => nomatch h⟩
  | cons tree rest ih =>
    show w ∈ tree.words ++ tokensWords rest ↔ _
    rw [List.mem_append, ih]
    simp only [List.mem_cons, exists_eq_or_imp]

theorem tokensWords_append (before behind : List TokenTree) :
    tokensWords (before ++ behind) = tokensWords before ++ tokensWords behind := by
  induction before with
  | nil => rfl
  | cons tree before ih =>
    show tree.words ++ tokensWords (before ++ behind)
      = tree.words ++ tokensWords before ++ tokensWords behind
    rw [ih, List.append_assoc]

/-- An end of a sequence has no other words than the sequence. -/
theorem tokensWords_subset_of_suffix {rest input : Tokens} (h : rest <:+ input) :
    tokensWords rest ⊆ tokensWords input := by
  obtain ⟨before, rfl⟩ := h
  rw [tokensWords_append]
  exact List.subset_append_right _ _

theorem tokensWords_group (delimiter : Delimiter) (inner rest : Tokens) :
    tokensWords (.group delimiter inner :: rest) = tokensWords inner ++ tokensWords rest :=
  rfl

/-! ### Words of lexemes -/

/-- The words of a lexeme. -/
def Lexeme.words : Lexeme → List String
  | .tree t => t.words
  | .opening _ => []
  | .closing _ => []

/-- Putting lexemes together adds no words. -/
theorem mem_words_of_assembleWith? {done : List TokenTree}
    {enclosing : List (Delimiter × List TokenTree)} {lexemes : List Lexeme} {trees : List TokenTree}
    {w : String} (h : assembleWith? done enclosing lexemes = some trees)
    (hw : w ∈ tokensWords trees) :
    w ∈ tokensWords done ∨ (∃ g ∈ enclosing, w ∈ tokensWords g.2) ∨ ∃ l ∈ lexemes, w ∈ l.words := by
  induction lexemes generalizing done enclosing with
  | nil =>
    unfold assembleWith? at h
    rw [Option.ite_none_right_eq_some] at h
    cases h.2
    obtain ⟨tree, htree, hw⟩ := mem_tokensWords_iff.1 hw
    exact .inl (mem_tokensWords_iff.2 ⟨tree, List.mem_reverse.1 htree, hw⟩)
  | cons lexeme rest ih =>
    cases lexeme with
    | tree tree =>
      rcases ih h with hdone | hopen | ⟨l, hl, hw⟩
      · rcases List.mem_append.1 hdone with htree | hdone
        · exact .inr (.inr ⟨.tree tree, List.mem_cons_self, htree⟩)
        · exact .inl hdone
      · exact .inr (.inl hopen)
      · exact .inr (.inr ⟨l, List.mem_cons_of_mem _ hl, hw⟩)
    | opening delimiter =>
      rcases ih h with hnone | ⟨g, hg, hw⟩ | ⟨l, hl, hw⟩
      · cases hnone
      · rcases List.mem_cons.1 hg with rfl | hg
        · exact .inl hw
        · exact .inr (.inl ⟨g, hg, hw⟩)
      · exact .inr (.inr ⟨l, List.mem_cons_of_mem _ hl, hw⟩)
    | closing delimiter =>
      unfold assembleWith? at h
      cases enclosing with
      | nil => cases h
      | cons innermost outer =>
        obtain ⟨expected, earlier⟩ := innermost
        dsimp only at h
        rw [Option.ite_none_right_eq_some] at h
        rcases ih h.2 with hdone | ⟨g, hg, hw⟩ | ⟨l, hl, hw⟩
        · rw [tokensWords_group, List.mem_append] at hdone
          rcases hdone with hinner | hearlier
          · obtain ⟨tree, htree, hw⟩ := mem_tokensWords_iff.1 hinner
            exact .inl (mem_tokensWords_iff.2 ⟨tree, List.mem_reverse.1 htree, hw⟩)
          · exact .inr (.inl ⟨_, List.mem_cons_self, hearlier⟩)
        · exact .inr (.inl ⟨g, List.mem_cons_of_mem _ hg, hw⟩)
        · exact .inr (.inr ⟨l, List.mem_cons_of_mem _ hl, hw⟩)

/-! ### Words of a text -/

/-- The texts that an identifier token can have: a character that can start an identifier and
identifier characters behind it, with or without the raw mark in front. -/
def IsWord (name : String) : Prop :=
  ∃ c cs, plainName name = String.ofList (c :: cs) ∧ isIdentifierStart c = true ∧ ∀ d ∈ cs,
    isIdentifierContinue d = true

theorem isWord_iff {name : String} : IsWord name
    ↔ ((plainName name).toList.head?.any isIdentifierStart
      && (plainName name).toList.tail.all isIdentifierContinue) = true := by
  rw [Bool.and_eq_true, List.all_eq_true]
  constructor
  · rintro ⟨c, cs, hname, hstart, hrest⟩
    rw [hname, String.toList_ofList]
    exact ⟨hstart, hrest⟩
  · intro h
    cases hname : (plainName name).toList with
    | nil => simp [hname] at h
    | cons c cs =>
      rw [hname] at h
      exact ⟨c, cs, by rw [← hname, String.ofList_toList], h.1, h.2⟩

instance (name : String) : Decidable (IsWord name) :=
  decidable_of_iff _ isWord_iff.symm

theorem isWord_of_splitIdentifier? {input rest : List Char} {name : String}
    (h : splitIdentifier? input = some (name, rest)) : IsWord name := by
  obtain ⟨c, cs, hinput, hstart, hname, -⟩ := splitIdentifier?_spec h
  refine ⟨c, cs.takeWhile isIdentifierContinue, ?_, hstart, ?_⟩
  · rw [hname, hinput]
    rfl
  · exact List.all_eq_true.1 List.all_takeWhile

/-- The attribute of a documentation comment has one word. -/
theorem words_documentation {inner : Bool} {text : List Char} {tree : TokenTree} {w : String}
    (ht : tree ∈ documentation inner text) (hw : w ∈ tree.words) : w = "doc" := by
  have hall : tokensWords (documentation inner text) = ["doc"] := by
    cases inner
    · rfl
    · rfl
  have hmem := mem_tokensWords_iff.2 ⟨tree, ht, hw⟩
  rw [hall, List.mem_singleton] at hmem
  exact hmem

theorem exists_identifier_of_splitLexeme? {input rest : List Char} {here : List Lexeme} {l : Lexeme}
    {w : String} (h : splitLexeme? input = some (here, rest)) (hl : l ∈ here) (hw : w ∈ l.words) :
    ∃ input rest, splitIdentifier? input = some (w, rest) := by
  rcases splitLexeme?_cases h with ⟨inner, text, rfl⟩ | ⟨delimiter, rfl | rfl⟩ | ⟨token, rfl, hleaf⟩
  · obtain ⟨tree, htree, rfl⟩ := List.mem_map.1 hl
    rw [words_documentation htree hw]
    exact ⟨"doc".toList, [], by decide⟩
  · rw [List.mem_singleton.1 hl] at hw
    cases hw
  · rw [List.mem_singleton.1 hl] at hw
    cases hw
  · rw [List.mem_singleton.1 hl] at hw
    cases token with
    | ident name =>
      rw [show w = name from List.mem_singleton.1 hw]
      exact ⟨_, _, splitIdentifier?_of_splitLeaf? hleaf⟩
    | punct char joint => cases hw
    | literal text => cases hw
    | lifetime name => cases hw

theorem exists_identifier_of_lexemesWith? {fuel : Nat} {input : List Char} {lexemes : List Lexeme}
    {l : Lexeme} {w : String} (h : lexemesWith? fuel input = some lexemes) (hl : l ∈ lexemes)
    (hw : w ∈ l.words) :
    ∃ input rest, splitIdentifier? input = some (w, rest) := by
  induction fuel generalizing input lexemes with
  | zero => cases h
  | succ fuel ih =>
    unfold lexemesWith? at h
    split at h
    · cases h
      cases hl
    · obtain ⟨⟨here, rest⟩, hhere, h⟩ := Option.bind_eq_some_iff.1 h
      obtain ⟨others, hothers, h⟩ := Option.bind_eq_some_iff.1 h
      rw [← Option.some.inj h, List.mem_append] at hl
      rcases hl with hl | hl
      · exact exists_identifier_of_splitLexeme? hhere hl hw
      · exact ih hothers hl

/-- **The words of a source text** are read off as identifiers. -/
theorem exists_identifier_of_mem_tokens? {source : List Char} {trees : Tokens} {w : String}
    (h : tokens? source = some trees) (hw : w ∈ tokensWords trees) :
    ∃ input rest, splitIdentifier? input = some (w, rest) := by
  obtain ⟨lexemes, hlexemes, hassemble⟩ := Option.bind_eq_some_iff.1 h
  rcases mem_words_of_assembleWith? hassemble hw with hnone | ⟨_, hnone, _⟩ | ⟨l, hl, hw⟩
  · cases hnone
  · cases hnone
  · exact exists_identifier_of_lexemesWith? hlexemes hl hw

/-- The words of a source text are spelled by identifier characters. -/
theorem isWord_of_mem_tokens? {source : List Char} {trees : Tokens} {w : String}
    (h : tokens? source = some trees) (hw : w ∈ tokensWords trees) : IsWord w := by
  obtain ⟨_, _, hidentifier⟩ := exists_identifier_of_mem_tokens? h hw
  exact isWord_of_splitIdentifier? hidentifier

/-- A word has only identifier characters, the sharp sign of a raw mark apart. -/
theorem IsWord.not_mem {name : String} (h : IsWord name) {c : Char}
    (hstart : isIdentifierStart c = false) (hcontinue : isIdentifierContinue c = false)
    (hsharp : c ≠ '#') : c ∉ name.toList := by
  obtain ⟨first, rest, hname, hfirst, hrest⟩ := h
  have hplain : c ∉ first :: rest := by
    rw [List.mem_cons]
    rintro (rfl | hmem)
    · rw [hfirst] at hstart
      cases hstart
    · rw [hrest c hmem] at hcontinue
      cases hcontinue
  unfold plainName at hname
  split at hname
  · next tail hraw =>
    rw [String.ofList_inj] at hname
    rw [hraw, hname]
    intro hmem
    rcases List.mem_cons.1 hmem with rfl | hmem
    · exact absurd hcontinue (by decide)
    · exact (List.mem_cons.1 hmem).elim hsharp hplain
  · rw [hname, String.toList_ofList]
    exact hplain

/-- A word ends in an identifier character. -/
theorem IsWord.exists_last {name : String} (h : IsWord name) : ∃ front c, name.toList = front ++ [c]
    ∧ (isIdentifierStart c = true ∨ isIdentifierContinue c = true) := by
  obtain ⟨first, rest, hname, hfirst, hrest⟩ := h
  obtain ⟨front, c, hlast, hc⟩ : ∃ front c, first :: rest = front ++ [c]
      ∧ (isIdentifierStart c = true ∨ isIdentifierContinue c = true) := by
    rcases List.eq_nil_or_concat rest with rfl | ⟨init, c, rfl⟩
    · exact ⟨[], first, rfl, .inl hfirst⟩
    · exact ⟨first :: init, c, by simp, .inr (hrest c (by simp))⟩
  unfold plainName at hname
  split at hname
  · next tail hraw =>
    rw [String.ofList_inj] at hname
    exact ⟨'r' :: '#' :: front, c, by rw [hraw, hname, hlast]; rfl, hc⟩
  · exact ⟨front, c, by rw [hname, String.toList_ofList, hlast], hc⟩

/-- Identifier characters are no slashes. -/
theorem IsWord.slash_not_mem {name : String} (h : IsWord name) : '/' ∉ name.toList :=
  h.not_mem (by decide) (by decide) (by decide)

end FluentBuilder.Code
