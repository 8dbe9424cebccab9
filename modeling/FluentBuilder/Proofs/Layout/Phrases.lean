import FluentBuilder.Proofs.Code.CommaLists
import FluentBuilder.Proofs.Layout.Spelling

/-!
# What a document is read as

However a document is laid out, its text is read as trees with a given property.

* `Lays` — the property of the trees, with what may stand in front of the text and behind it;
* `Lays.append`, `Lays.box`, `lays_group`, `lays_listed` — documents that are put together;
* `lays_name`, `lays_word`, `lays_operator` — single texts.
-/

namespace FluentBuilder.Layout

open FluentBuilder.Code FluentBuilder.Text

/-- Whether the texts of a document are read as trees with a property, in front of any text that is
read by itself.  With `starts`, every text of the document stands apart from a word in front of it;
with `ends`, a word may follow the document, and otherwise only what stands apart from a word. -/
structure Lays (starts ends : Bool) (ds : List Document) (P : Tokens → Prop) : Prop where
  apart : starts = true → ∀ s, Spells ds s → ∀ rest, Apart (s ++ rest)
  gives : ∀ s, Spells ds s → ∀ rest lexemes, ends = true ∨ Apart rest → Lexed rest lexemes →
    ∃ here trees, P trees ∧ Assembles here trees ∧ Lexed (s ++ rest) (here ++ lexemes)

variable {starts starts' ends ends' : Bool} {ds ds' : List Document} {P Q : Tokens → Prop}

theorem Lays.mono (h : Lays starts ends ds P) (hPQ : ∀ trees, P trees → Q trees) :
    Lays starts ends ds Q where
  apart := h.apart
  gives s hs rest lexemes hrest hlexed := by
    obtain ⟨here, trees, hP, hhere, hall⟩ := h.gives s hs rest lexemes hrest hlexed
    exact ⟨here, trees, hPQ trees hP, hhere, hall⟩

/-- Less may be known about what stands around a document. -/
theorem Lays.weaken (h : Lays starts ends ds P) : Lays false false ds P where
  apart := nofun
  gives s hs rest lexemes hrest hlexed :=
    h.gives s hs rest lexemes (.inr (hrest.resolve_left nofun)) hlexed

/-- Nothing need be known about what stands in front of a document. -/
theorem Lays.weaken_starts (h : Lays starts ends ds P) : Lays false ends ds P :=
  ⟨nofun, h.gives⟩

/-- A document that can be written in fewer ways. -/
theorem Lays.of_spells (h : Lays starts ends ds P) (hspells : ∀ s, Spells ds' s → Spells ds s) :
    Lays starts ends ds' P where
  apart hstarts s hs := h.apart hstarts s (hspells s hs)
  gives s hs := h.gives s (hspells s hs)

/-! ### Documents behind each other -/

/-- Trees of one kind with trees of another kind behind them. -/
def Then (P Q : Tokens → Prop) (trees : Tokens) : Prop :=
  ∃ front back, trees = front ++ back ∧ P front ∧ Q back

/-- **Documents behind each other** are read as what they are read as by themselves, unless a word
runs into a word. -/
theorem Lays.append (h : Lays starts ends ds P) (h' : Lays starts' ends' ds' Q)
    (hapart : ends = true ∨ starts' = true) :
    Lays starts ends' (ds ++ ds') (Then P Q) where
  apart hstarts s hs rest := by
    obtain ⟨s₁, s₂, rfl, h₁, -⟩ := spells_append_iff.1 hs
    rw [List.append_assoc]
    exact h.apart hstarts s₁ h₁ (s₂ ++ rest)
  gives s hs rest lexemes hrest hlexed := by
    obtain ⟨s₁, s₂, rfl, h₁, h₂⟩ := spells_append_iff.1 hs
    obtain ⟨here', trees', hQ, hhere', hlexed'⟩ := h'.gives s₂ h₂ rest lexemes hrest hlexed
    have hbetween : ends = true ∨ Apart (s₂ ++ rest) :=
      hapart.imp_right fun hstarts => h'.apart hstarts s₂ h₂ rest
    obtain ⟨here, trees, hP, hhere, hall⟩ :=
      h.gives s₁ h₁ (s₂ ++ rest) (here' ++ lexemes) hbetween hlexed'
    refine ⟨here ++ here', trees ++ trees', ⟨trees, trees', rfl, hP, hQ⟩, hhere.append hhere', ?_⟩
    rw [List.append_assoc, List.append_assoc]
    exact hall

/-- Nothing is read as no trees. -/
theorem lays_nil : Lays false false [] (· = []) where
  apart := nofun
  gives s hs rest lexemes _ hlexed := by
    cases hs
    exact ⟨[], [], rfl, assembles_nil, hlexed⟩

theorem Lays.box (h : Lays starts ends ds P) (indent : Int) (consistent : Bool) :
    Lays starts ends (box indent consistent ds) P :=
  h.of_spells fun _ hs => hs.of_box

theorem Lays.outdent (h : Lays starts ends ds P) : Lays starts ends (outdent ds) P :=
  h.of_spells fun _ hs => hs.of_outdent

/-- A group in front of further pieces stands for its pieces. -/
theorem Lays.box_append {indent : Int} {consistent : Bool} {more : List Document}
    (h : Lays starts ends (ds ++ more) P) :
    Lays starts ends (Layout.box indent consistent ds ++ more) P := by
  refine h.of_spells fun s hs => ?_
  obtain ⟨s₁, s₂, rfl, h₁, h₂⟩ := spells_append_iff.1 hs
  exact h₁.of_box.append h₂

/-! ### Blanks and places -/

theorem Blanks.lexed {w rest : List Char} {lexemes : List Lexeme} (hw : Blanks w)
    (h : Lexed rest lexemes) :
    Lexed (w ++ rest) lexemes := by
  induction w with
  | nil => exact h
  | cons c w ih =>
    have hrest := ih fun d hd => hw d (List.mem_cons_of_mem c hd)
    rcases hw c List.mem_cons_self with rfl | rfl
    · exact hrest.blank (by decide) (by decide)
    · exact hrest.blank (by decide) (by decide)

/-- Blanks stand apart from a word. -/
theorem Blanks.apart {w rest : List Char} (hw : Blanks w) (h : w ≠ [] ∨ Apart rest) :
    Apart (w ++ rest) := by
  cases w with
  | nil => exact h.resolve_left fun hne => hne rfl
  | cons c w =>
    rcases hw c List.mem_cons_self with rfl | rfl
    · exact (by decide : standsApart ' ' = true)
    · exact (by decide : standsApart '\n' = true)

/-- Whether a place writes nothing but blanks. -/
def Break.isBare (b : Break) : Bool :=
  b.before == "" && b.behind == "" && b.whole == ""

theorem Blanks.of_spells_place {b : Break} {s : List Char} (hb : b.isBare = true)
    (hs : Spells [.place b] s) :
    Blanks s := by
  unfold Break.isBare at hb
  simp only [Bool.and_eq_true, beq_iff_eq] at hb
  exact hs.of_place ⟨hb.1.1, hb.1.2, hb.2⟩

/-- A place in front of a document adds nothing. -/
theorem Lays.place_cons {b : Break} (hb : b.isBare = true) (h : Lays starts ends ds P) :
    Lays starts ends (.place b :: ds) P where
  apart hstarts s hs rest := by
    obtain ⟨s₁, s₂, rfl, h₁, h₂⟩ := (spells_append_iff (a := [.place b])).1 hs
    rw [List.append_assoc]
    exact (Blanks.of_spells_place hb h₁).apart (.inr (h.apart hstarts s₂ h₂ rest))
  gives s hs rest lexemes hrest hlexed := by
    obtain ⟨s₁, s₂, rfl, h₁, h₂⟩ := (spells_append_iff (a := [.place b])).1 hs
    obtain ⟨here, trees, hP, hhere, hall⟩ := h.gives s₂ h₂ rest lexemes hrest hlexed
    refine ⟨here, trees, hP, hhere, ?_⟩
    rw [List.append_assoc]
    exact (Blanks.of_spells_place hb h₁).lexed hall

/-- A place behind a document adds nothing. -/
theorem Lays.append_place {b : Break} (hb : b.isBare = true) (h : Lays starts ends ds P) :
    Lays starts ends (ds ++ [.place b]) P where
  apart hstarts s hs rest := by
    obtain ⟨s₁, s₂, rfl, h₁, h₂⟩ := spells_append_iff.1 hs
    rw [List.append_assoc]
    exact h.apart hstarts s₁ h₁ (s₂ ++ rest)
  gives s hs rest lexemes hrest hlexed := by
    obtain ⟨s₁, s₂, rfl, h₁, h₂⟩ := spells_append_iff.1 hs
    have hw := Blanks.of_spells_place hb h₂
    obtain ⟨here, trees, hP, hhere, hall⟩ :=
      h.gives s₁ h₁ (s₂ ++ rest) lexemes (hrest.imp_right fun hr => hw.apart (.inr hr))
        (hw.lexed hlexed)
    refine ⟨here, trees, hP, hhere, ?_⟩
    rw [List.append_assoc]
    exact hall

/-- A strut adds nothing. -/
theorem Lays.append_strut (h : Lays starts ends ds P) : Lays starts ends (ds ++ [.strut]) P := by
  refine h.of_spells fun s hs => ?_
  obtain ⟨s₁, s₂, rfl, h₁, h₂⟩ := spells_append_iff.1 hs
  cases h₂ with
  | strut hnil =>
    cases hnil
    rw [List.append_nil]
    exact h₁

/-! ### Single texts -/

/-- A single text, given how it is read. -/
theorem lays_text {t : String} (hapart : starts = true → ∀ rest, Apart (t.toList ++ rest))
    (hgives : ∀ rest lexemes, ends = true ∨ Apart rest → Lexed rest lexemes →
      ∃ here trees, P trees ∧ Assembles here trees ∧ Lexed (t.toList ++ rest) (here ++ lexemes)) :
    Lays starts ends [.text t] P where
  apart hstarts s hs rest := by
    cases hs with
    | text hw hnil =>
      cases hnil
      rw [List.append_nil, List.append_assoc]
      exact hw.apart (.inr (hapart hstarts rest))
  gives s hs rest lexemes hrest hlexed := by
    cases hs with
    | text hw hnil =>
      cases hnil
      obtain ⟨here, trees, hP, hhere, hall⟩ := hgives rest lexemes hrest hlexed
      refine ⟨here, trees, hP, hhere, ?_⟩
      rw [List.append_nil, List.append_assoc]
      exact hw.lexed hall

/-- A text that is two texts one behind the other. -/
theorem Lays.text_append {a b : String} (h : Lays starts ends (.text a :: .text b :: ds) P) :
    Lays starts ends (.text (a ++ b) :: ds) P := by
  refine h.of_spells fun s hs => ?_
  cases hs with
  | text hw hrest =>
    rw [String.toList_append, ← List.append_assoc, List.append_assoc _ b.toList]
    exact .text hw (.text (w := []) blanks_nil hrest)

/-- A word with blanks around it. -/
theorem lays_word {t name : String} (v w : List Char) (ht : t.toList = v ++ name.toList ++ w)
    (hname : IsName name) (hv : Blanks v) (hw : Blanks w) :
    Lays (!v.isEmpty) (!w.isEmpty) [.text t] (· = [word name]) := by
  refine lays_text (fun hstarts rest => ?_) fun rest lexemes hrest hlexed => ?_
  · rw [ht, List.append_assoc, List.append_assoc]
    exact hv.apart (.inl (by simpa using hstarts))
  · have hapart : Apart (w ++ rest) := hw.apart (hrest.imp_left fun hends => by simpa using hends)
    refine ⟨[.tree (word name)], [word name], rfl, assembles_tree _, ?_⟩
    rw [ht, List.append_assoc, List.append_assoc]
    exact hv.lexed ((hw.lexed hlexed).name hname hapart)

/-- Blanks by themselves are read as nothing. -/
theorem lays_blank : Lays true true [.text " "] (· = []) := by
  have hblank : Blanks " ".toList := by
    intro c hc
    exact .inl (List.mem_singleton.1 hc)
  refine lays_text (fun _ rest => hblank.apart (.inl (by decide))) fun rest lexemes _ hlexed => ?_
  exact ⟨[], [], rfl, assembles_nil, hblank.lexed hlexed⟩

/-- An optional word with a blank behind. -/
theorem Lays.prefixed {t name : String} (flag : Bool) (w : List Char)
    (ht : t.toList = name.toList ++ w) (hname : IsName name) (hw : Blanks w) (hne : w ≠ [])
    (h : Lays starts ends ds P) :
    Lays false ends (textIf flag t ++ ds) fun trees =>
      ∃ body, P body ∧ trees = (if flag then [word name] else []) ++ body := by
  cases flag with
  | false => exact h.weaken_starts.mono fun trees hP => ⟨trees, hP, rfl⟩
  | true =>
    have hword := lays_word [] w (by simpa using ht) hname blanks_nil hw
    have hends : (!w.isEmpty) = true := by
      rw [Bool.not_eq_true', List.isEmpty_eq_false_iff]
      exact hne
    refine (hword.append h (.inl hends)).mono ?_
    rintro _ ⟨_, body, rfl, rfl, hbody⟩
    exact ⟨body, hbody, rfl⟩

/-- A name. -/
theorem lays_name {name : String} (hname : IsName name) :
    Lays false false [.text name] (· = [word name]) :=
  lays_word [] [] (by simp) hname blanks_nil blanks_nil

/-- A lifetime. -/
theorem lays_lifetime {name : String} (hname : IsName name) :
    Lays false false [.text (Token.lifetime name).text] (· = [.leaf (.lifetime name)]) := by
  refine lays_text nofun fun rest lexemes hrest hlexed => ?_
  refine ⟨[.tree (.leaf (.lifetime name))], [.leaf (.lifetime name)], rfl, assembles_tree _, ?_⟩
  have htext : (Token.lifetime name).text.toList = '\'' :: name.toList := String.toList_ofList
  rw [htext]
  exact hlexed.lifetime hname (hrest.resolve_left nofun)

/-- An operator with blanks in front.  Whether its last character is joint depends on what
follows. -/
theorem lays_operator {t : String} (v cs : List Char) (ht : t.toList = v ++ cs)
    (hcs : isOperator cs = true) (hapart : ∀ rest, Apart (cs ++ rest)) (hv : Blanks v) :
    Lays true true [.text t] fun trees => ∃ last, trees = operatorTokens last cs := by
  refine lays_text (fun _ rest => ?_) fun rest lexemes _ hlexed => ?_
  · rw [ht, List.append_assoc]
    exact hv.apart (.inr (hapart rest))
  · refine ⟨_, _, ⟨startsPunctuation rest, rfl⟩, assembles_trees (operatorTokens _ cs), ?_⟩
    rw [ht, List.append_assoc]
    exact hv.lexed (hlexed.operators hcs)

/-- An operator with a blank behind is not joint to what follows. -/
theorem lays_operator_blank {t : String} (v cs w : List Char) (ht : t.toList = v ++ cs ++ ' ' :: w)
    (hcs : isOperator cs = true) (hapart : ∀ rest, Apart (cs ++ rest)) (hv : Blanks v)
    (hw : Blanks w) :
    Lays true true [.text t] (· = operatorTokens false cs) := by
  have hblank : Blanks (' ' :: w) := fun c hc => (List.mem_cons.1 hc).elim .inl (hw c)
  refine lays_text (fun _ rest => ?_) fun rest lexemes _ hlexed => ?_
  · rw [ht, List.append_assoc, List.append_assoc]
    exact hv.apart (.inr (hapart _))
  · refine ⟨_, _, rfl, assembles_trees (operatorTokens false cs), ?_⟩
    rw [ht, List.append_assoc, List.append_assoc]
    exact hv.lexed ((hblank.lexed hlexed).operators hcs)

/-- What starts with a name does not join the operator in front of it. -/
theorem startsPunctuation_name {name : String} (hname : IsName name) {w : List Char} (hw : Blanks w)
    (rest : List Char) :
    startsPunctuation (w ++ (name.toList ++ rest)) = false := by
  have hstart : ∀ c cs, punctuationChars.contains c = false →
      startsPunctuation (c :: cs) = false := by
    intro c cs hc
    unfold startsPunctuation
    dsimp only
    rw [hc, Bool.false_and, Bool.false_and]
  cases w with
  | cons c w =>
    refine hstart c _ ?_
    rcases hw c List.mem_cons_self with rfl | rfl <;> decide
  | nil =>
    obtain ⟨c, cs, hc, -, hcases⟩ := hname.cases
    rcases hcases with hcases | ⟨hcases, -⟩
    · rw [hcases]
      refine hstart c _ ?_
      rw [← Bool.not_eq_true, List.contains_iff_mem]
      intro hmem
      have hnone : punctuationChars.all (fun d => !isIdentifierStart d) = true := by decide
      have hstarts := List.all_eq_true.1 hnone c hmem
      rw [hc] at hstarts
      cases hstarts
    · rw [hcases]
      exact hstart 'r' _ (by decide)

/-- An operator in front of a name is not joint to it. -/
theorem lays_operator_cons {t name : String} (v cs : List Char) (ht : t.toList = v ++ cs)
    (hcs : isOperator cs = true) (hapart : ∀ rest, Apart (cs ++ rest)) (hv : Blanks v)
    (hname : IsName name) (h : Lays starts ends (.text name :: ds) P) :
    Lays true ends (.text t :: .text name :: ds) fun trees => ∃ body, P body
      ∧ trees = operatorTokens false cs ++ body where
  apart _ s hs rest := by
    cases hs with
    | text hw hs =>
      rw [ht, List.append_assoc, List.append_assoc, List.append_assoc]
      exact hw.apart (.inr (hv.apart (.inr (hapart _))))
  gives s hs rest lexemes hrest hlexed := by
    cases hs with
    | text hw hs =>
      obtain ⟨here, trees, hP, hhere, hall⟩ := h.gives _ hs rest lexemes hrest hlexed
      cases hs with
      | text hw' hs =>
        have hnot := startsPunctuation_name hname hw'
        refine ⟨_, _, ⟨trees, hP, rfl⟩,
          (assembles_trees (operatorTokens false cs)).append hhere, ?_⟩
        have hoperators := hall.operators hcs
        simp only [List.append_assoc] at hoperators
        rw [hnot] at hoperators
        rw [ht]
        simp only [List.append_assoc]
        exact hw.lexed (hv.lexed hoperators)

/-! ### Groups -/

theorem standsApart_openingChar (delimiter : Delimiter) :
    standsApart delimiter.openingChar = true := by
  cases delimiter <;> decide

theorem standsApart_closingChar (delimiter : Delimiter) :
    standsApart delimiter.closingChar = true := by
  cases delimiter <;> decide

/-- **A document between brackets** is read as a group. -/
theorem lays_group {opening closing : String} (delimiter : Delimiter) (v w : List Char)
    (hopening : opening.toList = v ++ [delimiter.openingChar])
    (hclosing : closing.toList = delimiter.closingChar :: w) (hv : Blanks v) (hw : Blanks w)
    (h : Lays starts ends ds P) :
    Lays true true (.text opening :: (ds ++ [.text closing]))
      fun trees => ∃ inner, P inner ∧ trees = [.group delimiter inner] where
  apart _ s hs rest := by
    cases hs with
    | text hblanks hs =>
      rw [hopening, List.append_assoc, List.append_assoc, List.append_assoc]
      exact hblanks.apart (.inr (hv.apart (.inr (standsApart_openingChar delimiter))))
  gives s hs rest lexemes _ hlexed := by
    cases hs with
    | text hblanks hs =>
      obtain ⟨s₁, s₂, rfl, h₁, h₂⟩ := spells_append_iff.1 hs
      cases h₂ with
      | text hblanks' hnil =>
        cases hnil
        have hlast : Lexed (closing.toList ++ rest) (.closing delimiter :: lexemes) := by
          rw [hclosing]
          exact (hw.lexed hlexed).closing delimiter
        have hapart : Apart (closing.toList ++ rest) := by
          rw [hclosing]
          exact standsApart_closingChar delimiter
        obtain ⟨here, trees, hP, hhere, hinner⟩ :=
          h.gives s₁ h₁ _ _ (.inr (hblanks'.apart (.inr hapart))) (hblanks'.lexed hlast)
        refine ⟨_, _, ⟨trees, hP, rfl⟩, hhere.group delimiter, ?_⟩
        have hall := hblanks.lexed (hv.lexed (hinner.opening delimiter))
        rw [hopening]
        simpa only [List.append_assoc, List.cons_append, List.nil_append,
          List.append_nil] using hall

/-! ### Lists -/

theorem lays_comma : Lays true true [.text ","] IsComma :=
  lays_operator [] [','] rfl (by decide) (fun _ => (by decide : standsApart ',' = true)) blanks_nil

/-- Whether a place writes nothing but blanks, or a comma in front of a line break. -/
def Break.isClosing (b : Break) : Bool :=
  (b.before == "" || b.before == ",") && b.behind == "" && b.whole == ""

/-- **A place behind the last of several items** may add a comma. -/
theorem Lays.closing {b : Break} (hb : b.isClosing = true) (h : Lays starts ends ds P) :
    Lays starts ends (ds ++ [.place b]) (Then P IsOptionalComma) := by
  unfold Break.isClosing at hb
  simp only [Bool.and_eq_true, Bool.or_eq_true, beq_iff_eq] at hb
  obtain ⟨⟨hbefore, hbehind⟩, hwhole⟩ := hb
  refine ⟨fun hstarts s hs rest => ?_, fun s hs rest lexemes hrest hlexed => ?_⟩
  · obtain ⟨s₁, s₂, rfl, h₁, -⟩ := spells_append_iff.1 hs
    rw [List.append_assoc]
    exact h.apart hstarts s₁ h₁ (s₂ ++ rest)
  · obtain ⟨s₁, s₂, rfl, h₁, h₂⟩ := spells_append_iff.1 hs
    -- either blanks, or a comma between blanks
    have hcases : Blanks s₂ ∨ ∃ v w, Blanks v ∧ Blanks w ∧ s₂ = v ++ [','] ++ w := by
      cases h₂ with
      | blank hw hnil =>
        cases hnil
        rw [List.append_nil]
        exact .inl hw
      | broken hv hw hnil =>
        cases hnil
        rw [hbehind]
        rcases hbefore with hbefore | hbefore
        · rw [hbefore]
          exact .inl (by simpa using hv.append hw)
        · rw [hbefore]
          exact .inr ⟨_, _, hv, hw, by simp⟩
      | whole hnil =>
        cases hnil
        rw [hwhole]
        exact .inl blanks_nil
    rw [List.append_assoc]
    rcases hcases with hblanks | ⟨v, w, hv, hw, rfl⟩
    · obtain ⟨here, trees, hP, hhere, hall⟩ :=
        h.gives s₁ h₁ (s₂ ++ rest) lexemes (hrest.imp_right fun hr => hblanks.apart (.inr hr))
          (hblanks.lexed hlexed)
      exact ⟨here, trees, ⟨trees, [], (List.append_nil _).symm, hP, .inl rfl⟩, hhere, hall⟩
    · have hcomma := hv.lexed ((hw.lexed hlexed).operator (c := ',') (by decide))
      have hapart : Apart (v ++ ',' :: (w ++ rest)) :=
        hv.apart (.inr (by decide : standsApart ',' = true))
      obtain ⟨here, trees, hP, hhere, hall⟩ := h.gives s₁ h₁ _ _ (.inr hapart) hcomma
      refine ⟨_, _, ⟨trees, _, rfl, hP, .inr ⟨startsPunctuation (w ++ rest), rfl⟩⟩,
        hhere.append (assembles_tree _), ?_⟩
      simpa only [List.append_assoc, List.cons_append, List.nil_append] using hall

/-- **Items with commas between them.** -/
theorem lays_list {b : Break} (hb : b.isClosing = true) {items : List (List Document)}
    (hne : items ≠ []) (h : ∀ item ∈ items, Lays false false item P) :
    Lays false false (listed (.place b) items) (CommaList P) := by
  induction items with
  | nil => exact absurd rfl hne
  | cons item rest ih =>
    obtain ⟨hitem, hrest⟩ := List.forall_mem_cons.1 h
    cases rest with
    | nil =>
      refine (hitem.closing hb).mono ?_
      rintro _ ⟨front, back, rfl, hfront, hback⟩
      exact .last hfront hback
    | cons next rest =>
      have hcomma : Lays true true ([.text ","] ++ [softSpace]) IsComma :=
        lays_comma.append_place (by decide)
      have hall := (hitem.append hcomma (.inr rfl)).append (ih nofun hrest) (.inl rfl)
      refine (show Lays false false (listed (.place b) (item :: next :: rest)) _ from hall).mono ?_
      rintro _ ⟨_, back, rfl, ⟨front, comma, rfl, hfront, hcomma⟩, hback⟩
      exact .cons hfront hcomma hback

/-- Items with commas between them, if there are any. -/
theorem lays_listed {b : Break} (hb : b.isClosing = true) {items : List (List Document)}
    (h : ∀ item ∈ items, Lays false false item P) :
    Lays false false (listed (.place b) items) (CommaTrees P) := by
  cases items with
  | nil => exact lays_nil.mono fun _ => .inl
  | cons item rest =>
    exact (lays_list hb (List.cons_ne_nil item rest) h).mono fun _ hlist => .inr hlist

end FluentBuilder.Layout
