import FluentBuilder.Proofs.Code.Words
import FluentBuilder.Proofs.Text.IdentifierCharacter

/-!
# The name that a text spells

A text that is read as an identifier may hold blanks and comments around it, and a raw mark in front
of it.  The name that the identifier denotes is the word between them.

* `behindBlanks`, `spelledName`, `behindName` — a text cut into blanks, a name, and what stands
  behind the name;
* `SpellsIdentifier` — texts that are read as a single name;
* `Identifier.key_of_read?` — the name of an identifier is the one that its text spells;
* `behindBlanks_append`, `spelledName_append` — what more text behind a text does: it joins the name
  when nothing stands behind the name, and is lost otherwise.
-/

namespace FluentBuilder.Code

open FluentBuilder.Text

/-- A text behind its byte order mark, blanks and comments. -/
def behindBlanks (text : String) : List Char :=
  skipBlanks ((dropByteOrderMark text.toList).length + 1) (dropByteOrderMark text.toList)

/-- The name that a text spells: the first word behind blanks and a raw mark. -/
def spelledName (text : String) : String :=
  String.ofList (firstWord (dropRawMark (behindBlanks text))).1

/-- What stands behind the name that a text spells. -/
def behindName (text : String) : List Char :=
  (firstWord (dropRawMark (behindBlanks text))).2

/-- Whether something that can start an identifier stands behind blanks and a raw mark. -/
def SpellsName (text : String) : Prop :=
  ∃ c cs, dropRawMark (behindBlanks text) = c :: cs ∧ isIdentifierStart c = true

/-- Whether a text is the given name and nothing else: a single word that is not reserved. -/
def SpellsIdentifier (text name : String) : Prop :=
  tokens? text.toList = some [.leaf (.ident name)] ∧ isKeyword name = false

theorem Identifier.read?_eq_some_iff {text : String} {i : Identifier} :
    Identifier.read? text = some i ↔ SpellsIdentifier text i.text := by
  unfold Identifier.read?
  constructor
  · intro h
    split at h
    · next name htokens =>
      rw [← Identifier.ofWord?_eq_some_iff.1 h] at htokens
      exact ⟨htokens, i.not_keyword⟩
    · cases h
  · rintro ⟨htokens, -⟩
    rw [htokens]
    exact Identifier.ofWord?_eq_some_iff.2 rfl

theorem exists_identifier_iff {text : String} :
    (∃ i, Identifier.read? text = some i) ↔ ∃ name, SpellsIdentifier text name := by
  constructor
  · rintro ⟨i, hi⟩
    exact ⟨i.text, Identifier.read?_eq_some_iff.1 hi⟩
  · rintro ⟨name, htokens, hword⟩
    exact ⟨⟨name, hword⟩, Identifier.read?_eq_some_iff.2 ⟨htokens, hword⟩⟩

/-- **The name of an identifier is the one that its text spells**, which starts as an identifier
does. -/
theorem Identifier.key_of_read? {text : String} {i : Identifier}
    (h : Identifier.read? text = some i) :
    i.key = spelledName text ∧ SpellsName text := by
  unfold Identifier.read? at h
  split at h
  · next name htokens =>
    obtain ⟨rest, hsplit, -⟩ := tokens?_ident_spec htokens
    obtain ⟨c, cs, hword, hstart, hplain, -⟩ := splitIdentifier?_spec hsplit
    refine ⟨?_, c, cs, hword, hstart⟩
    unfold Identifier.key
    rw [Identifier.ofWord?_eq_some_iff.1 h, hplain]
    rfl
  · cases h

/-! ### More text behind a text -/

/-- A character behind a text does not bring about a start that it has no part in. -/
theorem startsWith_append {start : List Char} {c : Char} (hstart : c ∉ start)
    (input more : List Char) :
    startsWith start (input ++ c :: more) = startsWith start input := by
  unfold startsWith
  induction start generalizing input with
  | nil => rfl
  | cons p ps ih =>
    cases input with
    | nil =>
      have hp : (p == c) = false := beq_eq_false_iff_ne.2 fun hp => hstart (hp ▸ List.mem_cons_self)
      show (if p == c then skip? ps more else none).isSome = false
      rw [hp]
      rfl
    | cons d input =>
      show (if p == d then skip? ps (input ++ c :: more) else none).isSome
        = (if p == d then skip? ps input else none).isSome
      split
      · exact ih (fun hmem => hstart (List.mem_cons_of_mem p hmem)) input
      · rfl

/-- A line that ends in front of more text ends there also without it. -/
theorem splitLine_append {input : List Char} (h : (splitLine input).2 ≠ []) (more : List Char) :
    (splitLine (input ++ more)).2 = (splitLine input).2 ++ more := by
  fun_induction splitLine input with
  | case1 => exact absurd rfl h
  | case2 rest => rfl
  | case3 rest => rfl
  | case4 c rest hfeed hreturn line behind hline ih =>
    rw [hline] at ih
    have hrest : rest ≠ [] := by
      rintro rfl
      cases hline
      exact h rfl
    have hreturn' : ∀ others, c = '\r' → rest ++ more = '\n' :: others → False := by
      intro others hc hsplit
      obtain ⟨d, ds, rfl⟩ := List.exists_cons_of_ne_nil hrest
      injection hsplit with hd _
      exact hreturn ds hc (hd ▸ rfl)
    rw [List.cons_append, splitLine.eq_4 c (rest ++ more) hfeed hreturn']
    exact ih h

/-- A comment that ends in front of more text ends there also without it. -/
theorem splitComment?_append {depth : Nat} {input inner rest : List Char}
    (h : splitComment? depth input = some (inner, rest)) (more : List Char) :
    splitComment? depth (input ++ more) = some (inner, rest ++ more) := by
  fun_induction splitComment? depth input generalizing inner with
  | case1 => cases h
  | case2 depth input ih =>
    obtain ⟨r, hr, h⟩ := Option.map_eq_some_iff.1 h
    cases h
    show (splitComment? (depth + 1) (input ++ more)).map _ = _
    rw [ih hr]
    rfl
  | case3 input =>
    cases h
    rfl
  | case4 input depth ih =>
    obtain ⟨r, hr, h⟩ := Option.map_eq_some_iff.1 h
    cases h
    show (splitComment? depth (input ++ more)).map _ = _
    rw [ih hr]
    rfl
  | case5 depth c input hopening hclosing ih =>
    obtain ⟨r, hr, h⟩ := Option.map_eq_some_iff.1 h
    cases h
    have hinput : input ≠ [] := by
      rintro rfl
      cases hr
    obtain ⟨d, ds, rfl⟩ := List.exists_cons_of_ne_nil hinput
    have hopening' : ∀ others, c = '/' → d :: ds ++ more = '*' :: others → False := by
      intro others hc hsplit
      injection hsplit with hd _
      exact hopening ds hc (hd ▸ rfl)
    have hclosing' : ∀ others, c = '*' → d :: ds ++ more = '/' :: others → False := by
      intro others hc hsplit
      injection hsplit with hd _
      exact hclosing ds hc (hd ▸ rfl)
    rw [List.cons_append, splitComment?.eq_5 depth c (d :: ds ++ more) hopening' hclosing', ih hr]
    rfl

/-- A text that starts neither with a blank nor with a comment is not shortened. -/
theorem skipBlanks_of_head {c : Char} (hslash : c ≠ '/') (hblank : isBlank c = false) (fuel : Nat)
    (rest : List Char) : skipBlanks fuel (c :: rest) = c :: rest := by
  cases fuel with
  | zero => rfl
  | succ fuel =>
    have hstart : ∀ ps, startsWith ('/' :: ps) (c :: rest) = false := by
      intro ps
      have hp : ('/' == c) = false := beq_eq_false_iff_ne.2 hslash.symm
      show (if '/' == c then skip? ps rest else none).isSome = false
      rw [hp]
      rfl
    have hline : startsLineComment (c :: rest) = false := by
      unfold startsLineComment
      rw [hstart]
      rfl
    have hblock : startsBlockComment (c :: rest) = false := by
      unfold startsBlockComment
      rw [hstart]
      rfl
    unfold skipBlanks
    rw [hline, hblock, hblank]
    rfl

/-- **Blanks in front of a word stay the same when more text follows it.**  The text that follows
starts with a character that has no part in the marks of comments. -/
theorem skipBlanks_append {mark : Char} (hmark : mark ∉ ['/', '*', '!']) {fuel : Nat}
    {input rest : List Char} {c : Char} (h : skipBlanks fuel input = c :: rest) (hslash : c ≠ '/')
    (hblank : isBlank c = false) {more : Nat} (hmore : fuel ≤ more) (behind : List Char) :
    skipBlanks more (input ++ mark :: behind) = c :: rest ++ mark :: behind := by
  have hstart : ∀ start ⊆ ['/', '*', '!'], ∀ text,
      startsWith start (text ++ mark :: behind) = startsWith start text :=
    fun start hsub text => startsWith_append (fun hmem => hmark (hsub hmem)) text behind
  have hline : ∀ text, startsLineComment (text ++ mark :: behind) = startsLineComment text := by
    intro text
    unfold startsLineComment
    rw [hstart _ (by decide), hstart _ (by decide), hstart _ (by decide), hstart _ (by decide)]
  have hblock : ∀ text, startsBlockComment (text ++ mark :: behind) = startsBlockComment text := by
    intro text
    unfold startsBlockComment
    rw [hstart _ (by decide), hstart _ (by decide), hstart _ (by decide), hstart _ (by decide),
      hstart _ (by decide)]
  induction fuel generalizing input more with
  | zero =>
    cases h
    exact skipBlanks_of_head hslash hblank more _
  | succ fuel ih =>
    obtain ⟨more, rfl⟩ : ∃ n, more = n + 1 := ⟨more - 1, by omega⟩
    have hmore : fuel ≤ more := by omega
    cases input with
    | nil => cases h
    | cons d input =>
      show skipBlanks (more + 1) (d :: (input ++ mark :: behind)) = _
      unfold skipBlanks at h ⊢
      rw [show startsLineComment (d :: (input ++ mark :: behind))
        = startsLineComment (d :: input) from
        hline (d :: input), show startsBlockComment (d :: (input ++ mark :: behind))
          = startsBlockComment (d :: input)
        from hblock (d :: input)]
      split at h
      · next hcomment =>
        rw [if_pos hcomment]
        have hbehind : (splitLine (d :: input)).2 ≠ [] := by
          intro hnil
          rw [hnil] at h
          cases fuel <;> cases h
        rw [show d :: (input ++ mark :: behind) = d :: input ++ mark :: behind from rfl,
          splitLine_append hbehind]
        exact ih h hmore
      · next hnoline =>
        rw [if_neg hnoline]
        split at h
        · next hcomment =>
          rw [if_pos hcomment]
          split at h
          · next inner others hsplit =>
            have hdrop : 1 ≤ input.length := by
              cases input with
              | nil => cases hsplit
              | cons e es => exact Nat.le_add_left 1 es.length
            rw [List.drop_append_of_le_length hdrop, splitComment?_append hsplit]
            exact ih h hmore
          · -- a comment without an end is left in place, and it starts with a slash
            cases h
            have hopen : startsWith ['/', '*'] (c :: rest) = true := by
              unfold startsBlockComment at hcomment
              rw [Bool.and_assoc] at hcomment
              exact (Bool.and_eq_true_iff.1 hcomment).1
            have hp : ('/' == c) = false := beq_eq_false_iff_ne.2 hslash.symm
            unfold startsWith skip? at hopen
            rw [hp] at hopen
            cases hopen
        · next hnoblock =>
          rw [if_neg hnoblock]
          split at h
          · next hskip =>
            rw [if_pos hskip]
            exact ih h hmore
          · next hkeep =>
            rw [if_neg hkeep]
            cases h
            rfl

/-! ### Suffixes of names -/

theorem dropRawMark_append {start cs : List Char} {c mark : Char} (hmark : mark ≠ '#')
    (h : dropRawMark start = c :: cs) (behind : List Char) :
    dropRawMark (start ++ mark :: behind) = c :: cs ++ mark :: behind := by
  unfold dropRawMark at h
  split at h
  · next raw =>
    subst h
    rfl
  · next hraw =>
    subst h
    unfold dropRawMark
    split
    · next raw hsplit =>
      cases cs with
      | nil =>
        injection hsplit with _ htail
        injection htail with hhash _
        exact absurd hhash hmark
      | cons d ds =>
        injection hsplit with hr htail
        injection htail with hhash _
        exact absurd (by rw [hr, hhash]) (hraw ds)
    · rfl

/-- The first character of a text that spells a name starts neither a comment nor is it blank. -/
theorem SpellsName.head {text : String} (h : SpellsName text) :
    ∃ c rest, behindBlanks text = c :: rest ∧ c ≠ '/' ∧ isBlank c = false := by
  obtain ⟨c, cs, hword, hstart⟩ := h
  have hidentifier : ∀ d, isIdentifierStart d = true → d ≠ '/' ∧ isBlank d = false := by
    intro d hd
    refine ⟨?_, isBlank_of_isIdentifierStart hd⟩
    rintro rfl
    exact absurd hd (by decide)
  unfold dropRawMark at hword
  split at hword
  · next raw hraw => exact ⟨'r', _, hraw, hidentifier 'r' (by decide)⟩
  · exact ⟨c, cs, hword, hidentifier c hstart⟩

theorem behindBlanks_append {text suffix : String} {mark : Char} {behind : List Char}
    (h : SpellsName text) (hsuffix : suffix.toList = mark :: behind)
    (hmark : mark ∉ ['/', '*', '!']) :
    behindBlanks (text ++ suffix) = behindBlanks text ++ mark :: behind := by
  obtain ⟨c, rest, hblanks, hslash, hblank⟩ := h.head
  have horder : dropByteOrderMark (text ++ suffix).toList
      = dropByteOrderMark text.toList ++ mark :: behind := by
    rw [String.toList_append, hsuffix]
    cases htext : text.toList with
    | nil =>
      unfold behindBlanks at hblanks
      rw [htext] at hblanks
      cases hblanks
    | cons d ds =>
      show (if d.toNat == 0xFEFF then ds ++ mark :: behind else d :: (ds ++ mark :: behind))
        = (if d.toNat == 0xFEFF then ds else d :: ds) ++ mark :: behind
      split <;> rfl
  unfold behindBlanks at hblanks ⊢
  rw [horder, hblanks]
  refine skipBlanks_append hmark hblanks hslash hblank ?_ behind
  rw [List.length_append]
  omega

/-- **What a suffix of identifier characters does to a name**: it becomes a part of the name when
nothing stands behind the name, and is lost otherwise. -/
theorem spelledName_append {text suffix : String} (h : SpellsName text)
    (hsuffix : ∀ c ∈ suffix.toList, isIdentifierContinue c = true) (hne : suffix.toList ≠ []) :
    spelledName (text ++ suffix) = if behindName text = [] then spelledName text ++ suffix
      else spelledName text := by
  obtain ⟨mark, behind, hmarked⟩ := List.exists_cons_of_ne_nil hne
  have hmark : isIdentifierContinue mark = true := hsuffix mark (hmarked ▸ List.mem_cons_self)
  have hcomment : mark ∉ ['/', '*', '!'] := by
    intro hmem
    have hnone : (['/', '*', '!'].all fun d => !isIdentifierContinue d) = true := by decide
    have hother := List.all_eq_true.1 hnone mark hmem
    rw [hmark] at hother
    exact Bool.noConfusion hother
  have hhash : mark ≠ '#' := by
    rintro rfl
    exact absurd hmark (by decide)
  obtain ⟨c, cs, hword, hstart⟩ := id h
  have happend : dropRawMark (behindBlanks (text ++ suffix)) = c :: (cs ++ suffix.toList) := by
    rw [behindBlanks_append h hmarked hcomment, dropRawMark_append hhash hword, hmarked]
    rfl
  unfold spelledName behindName
  rw [happend, hword]
  show String.ofList (c :: (cs ++ suffix.toList).takeWhile isIdentifierContinue)
    = if cs.dropWhile isIdentifierContinue = [] then
        String.ofList (c :: cs.takeWhile isIdentifierContinue) ++ suffix
      else String.ofList (c :: cs.takeWhile isIdentifierContinue)
  have hall : suffix.toList.takeWhile isIdentifierContinue = suffix.toList := by
    have htake : (suffix.toList ++ []).takeWhile isIdentifierContinue = suffix.toList ++ [] :=
      List.takeWhile_append_of_pos hsuffix
    rwa [List.append_nil] at htake
  have hsplit : cs.takeWhile isIdentifierContinue ++ cs.dropWhile isIdentifierContinue = cs :=
    List.takeWhile_append_dropWhile
  rw [List.takeWhile_append, hall]
  by_cases hend : cs.dropWhile isIdentifierContinue = []
  · rw [hend, List.append_nil] at hsplit
    rw [if_pos hend, if_pos (by rw [hsplit]), hsplit, ← String.toList_inj, String.toList_append,
      String.toList_ofList, String.toList_ofList]
    rfl
  · have hlength : (cs.takeWhile isIdentifierContinue).length ≠ cs.length := by
      intro hsame
      have htotal := congrArg List.length hsplit
      rw [List.length_append, hsame] at htotal
      exact hend (List.eq_nil_of_length_eq_zero (by omega))
    rw [if_neg hend, if_neg hlength]

end FluentBuilder.Code
