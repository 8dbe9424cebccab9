import FluentBuilder.Proofs.Code.CommaLists

/-!
# Reading types

Tokens that are the text of a type, as far as reading is concerned: the rule for types reads them in
full wherever a type may end.  What the parts of a type are made of carries over to the type.

* `IsSegmentText`, `IsPathText`, `IsTypeText` — tokens that are read as a name of a path, a path, a
  type;
* `isSegmentText_name`, `isSegmentText_angle`, `IsPathText.link` — paths;
* `IsPathText.isTypeText`, `IsTypeText.reference`, `isTypeText_paren`, … — types.
-/

namespace FluentBuilder.Code

variable {input rest : Tokens}

/-! ### Names in paths -/

/-- Whether neither arguments nor a further name with arguments stand at the head of the input. -/
structure EndsSegment (inExpr : Bool) (rest : Tokens) : Prop where
  no_angle : inExpr = false → atPunct "<" rest = false
  no_link : atPunct "::" rest = true → atPunct "<" (rest.drop 2) = false

/-- A word is a path word because it is no keyword, or because it names a place. -/
theorem isKeyword_eq_false_of_isPathWord {s : String} (hs : isPathWord s = true)
    (hplace : atOneOf ["super", "self", "crate", "try"] (word s :: rest) = false)
    (hself : atWord "Self" (word s :: rest) = false) : isKeyword s = false := by
  unfold isPathWord at hs
  rcases Bool.or_eq_true_iff.1 hs with hs | hs
  · rwa [Bool.not_eq_true'] at hs
  · exfalso
    have hnot : s ∉ ["super", "self", "crate", "try"] := by
      rw [← List.contains_iff_mem, Bool.not_eq_true]
      exact hplace
    have hne : s ≠ "Self" := by
      rintro rfl
      cases hself
    rw [List.contains_iff_mem] at hs
    simp only [List.mem_cons, List.not_mem_nil, or_false, not_or] at hs hnot
    rcases hs with rfl | rfl | rfl | rfl
    · exact hnot.2.1 rfl
    · exact hne rfl
    · exact hnot.1 rfl
    · exact hnot.2.2.1 rfl

/-- A name in a path. -/
theorem pathSegmentRule_name {g : Grammar} {inExpr : Bool} {before : Path} {s : String}
    (hs : isPathWord s = true) (hrest : EndsSegment inExpr rest) :
    pathSegmentRule g inExpr before (word s :: rest) = some (.plain before s, rest) := by
  have hangle : (!inExpr && atPunct "<" rest && !atPunct "<=" rest && !atPunct "<<=" rest)
      = false := by
    cases hin : inExpr with
    | false => simp [hrest.no_angle hin]
    | true => rfl
  have hlink : (atPunct "::" rest && atPunct "<" (rest.drop 2)) = false := by
    cases hat : atPunct "::" rest with
    | false => rfl
    | true => rw [hrest.no_link hat, Bool.and_false]
  unfold pathSegmentRule
  cases hplace : atOneOf ["super", "self", "crate", "try"] (word s :: rest) with
  | true => exact (chosen hplace).trans rfl
  | false =>
    refine (otherwise hplace).trans ?_
    cases hself : atWord "Self" (word s :: rest) with
    | true =>
      refine (chosen hself).trans
        ((bind_of_eq_some rfl).trans ((otherwise ?_).trans ((otherwise ?_).trans rfl)))
      · exact hangle
      · exact hlink
    | false =>
      have hname : identifier (word s :: rest) = some (s, rest) :=
        identifier_of_not_keyword (isKeyword_eq_false_of_isPathWord hs hplace hself)
      refine (otherwise hself).trans
        ((bind_of_eq_some hname).trans ((otherwise ?_).trans ((otherwise ?_).trans rfl)))
      · exact hangle
      · exact hlink

/-! ### What types are made of -/

/-- Whether a type may end in front of the given tokens. -/
def endsType (rest : Tokens) : Bool :=
  endsAt [',', '>', ';'] true rest || atWord "as" rest

/-- Whether a token can be the first one of a type. -/
def startsType : TokenTree → Bool
  | .leaf (.ident name) => isPathWord name || name == "_"
  | .leaf (.punct c _) => [':', '&', '*', '!'].contains c
  | .group delimiter _ => delimiter != .brace
  | _ => false

/-- Tokens that are read as a type. -/
structure IsTypeText (tokens : Tokens) : Prop where
  head : ∃ first more, tokens = first :: more ∧ startsType first = true
  reads : ∀ n plus rest, tokensSize tokens < n → endsType rest = true →
    ∃ type, (Grammar.level n).type plus (tokens ++ rest) = some (type, rest)

/-- Tokens that are read as an argument between angle brackets. -/
def IsArgumentText (tokens : Tokens) : Prop :=
  (∃ name, tokens = [.leaf (.lifetime name)]) ∨ IsTypeText tokens

theorem startsOperator_of_startsType {first : TokenTree} (h : startsType first = true) {c : Char}
    (hc : c ∉ [':', '&', '*', '!']) (cs : List Char) (rest : Tokens) :
    startsOperator (c :: cs) (first :: rest) = false := by
  unfold startsType at h
  split at h
  · cases cs <;> rfl
  · refine startsOperator_of_ne ?_ cs _
    rintro rfl
    exact hc (List.contains_iff_mem.1 h)
  · cases cs <;> rfl
  · cases h

theorem atWord_of_startsType {first : TokenTree} (h : startsType first = true) {k : String}
    (hk : isPathWord k = false) (hne : k ≠ "_") (rest : Tokens) :
    atWord k (first :: rest) = false := by
  unfold startsType at h
  split at h
  · next name =>
    rcases Bool.or_eq_true_iff.1 h with hname | hname
    · exact atWord_eq_false hname hk
    · obtain rfl := eq_of_beq hname
      show (some "_" == some k) = false
      rw [beq_eq_false_iff_ne]
      rintro heq
      exact hne (Option.some.inj heq).symm
  · rfl
  · rfl
  · cases h

theorem atLiteral_of_startsType {first : TokenTree} (h : startsType first = true) (rest : Tokens) :
    atLiteral (first :: rest) = false := by
  unfold startsType at h
  split at h
  · rcases Bool.or_eq_true_iff.1 h with hname | hname
    · exact atLiteral_word_eq_false hname
    · obtain rfl := eq_of_beq hname
      rfl
  · next c joint =>
    have hminus : c ≠ '-' := by
      rintro rfl
      cases h
    unfold atLiteral splitLiteral?
    split
    · next heq => cases heq
    · next heq => cases heq
    · next heq =>
      injection heq with heq _
      injection heq with heq
      injection heq with heq _
      exact absurd heq hminus
    · rfl
  · rfl
  · cases h

theorem atLifetime_of_startsType {first : TokenTree} (h : startsType first = true) (rest : Tokens) :
    atLifetime (first :: rest) = false := by
  unfold startsType at h
  split at h
  · rfl
  · rfl
  · rfl
  · cases h

theorem atBrace_of_startsType {first : TokenTree} (h : startsType first = true) (rest : Tokens) :
    atGroup .brace (first :: rest) = false := by
  unfold startsType at h
  split at h
  · rfl
  · rfl
  · exact bne_iff_ne.1 h |> beq_eq_false_iff_ne.2
  · cases h

theorem startsOperator_of_endsType (h : endsType rest = true) {c : Char} (hc : c ∉ [',', '>', ';'])
    (cs : List Char) :
    startsOperator (c :: cs) rest = false := by
  rcases Bool.or_eq_true_iff.1 h with h | h
  · exact startsOperator_of_endsAt h hc cs
  · cases rest with
    | nil => cases h
    | cons first rest =>
      cases first with
      | group => cases cs <;> rfl
      | leaf token =>
        cases token with
        | ident => cases cs <;> rfl
        | punct => cases h
        | literal => cases h
        | lifetime => cases h

theorem atGroup_of_endsType (h : endsType rest = true) {delimiter : Delimiter}
    (hne : delimiter ≠ .brace) :
    atGroup delimiter rest = false := by
  rcases Bool.or_eq_true_iff.1 h with h | h
  · exact atGroup_of_endsAt h fun hd => absurd hd hne
  · cases rest with
    | nil => rfl
    | cons first rest =>
      cases first with
      | group => cases h
      | leaf => rfl

theorem endsSegment_of_endsType (h : endsType rest = true) (inExpr : Bool) :
    EndsSegment inExpr rest where
  no_angle _ := startsOperator_of_endsType h (by decide) []
  no_link hlink := by
    rw [show atPunct "::" rest = false from startsOperator_of_endsType h (by decide) _] at hlink
    cases hlink

/-! ### Arguments -/

theorem exists_of_atPunct_char {c : Char} {operator : String} (hoperator : operator.toList = [c])
    (h : atPunct operator input = true) :
    ∃ joint behind, input = .leaf (.punct c joint) :: behind := by
  unfold atPunct at h
  rw [hoperator] at h
  unfold startsOperator at h
  split at h
  · next heq => cases heq
  · next heq =>
    cases heq
    rw [eq_of_beq h]
    exact ⟨_, _, rfl⟩
  · next heq =>
    cases heq
    rw [eq_of_beq (Bool.and_eq_true_iff.1 h).1]
    exact ⟨_, _, rfl⟩
  · cases h

/-- An argument in front of a comma or of the closing bracket. -/
theorem readsEntries_argument {n : Nat} :
    ReadsEntries (atPunct ">") (genericArgumentRule (Grammar.level n))
    (fun ts => IsArgumentText ts ∧ tokensSize ts < n) := by
  rintro entry ⟨hentry, hsize⟩ rest hrest
  have hends : endsType rest = true ∧ atPunct "=" rest = false ∧ atPunct ":" rest = false := by
    rcases hrest with hrest | ⟨joint, behind, rfl⟩
    · obtain ⟨joint, behind, rfl⟩ := exists_of_atPunct_char rfl hrest
      exact ⟨rfl, rfl, rfl⟩
    · exact ⟨rfl, rfl, rfl⟩
  obtain ⟨hends, hequals, hcolon⟩ := hends
  rcases hentry with ⟨name, rfl⟩ | htype
  · refine ⟨rfl, .lifetime name, (chosen ?_).trans rfl⟩
    show (!atPunct "+" rest) = true
    rw [show atPunct "+" rest = false from startsOperator_of_endsType hends (by decide) _]
    rfl
  · obtain ⟨first, more, rfl, hfirst⟩ := htype.head
    obtain ⟨type, htype⟩ := htype.reads n true rest hsize hends
    refine ⟨startsOperator_of_startsType hfirst (by decide) _ _, ?_⟩
    have hlifetime : (atLifetime (first :: more ++ rest)
        && !atPunct "+" ((first :: more ++ rest).drop 1)) = false := by
      rw [List.cons_append, atLifetime_of_startsType hfirst]
      rfl
    have hconst : (atLiteral (first :: more ++ rest) || atGroup .brace (first :: more ++ rest))
        = false := by
      rw [List.cons_append, atLiteral_of_startsType hfirst, atBrace_of_startsType hfirst]
      rfl
    -- a path could be followed by what makes it the name of an associated type, but nothing of this
    -- kind follows
    cases type with
    | path name =>
      refine ⟨.type (.path name),
        (otherwise hlifetime).trans ((otherwise hconst).trans ((bind_of_eq_some htype).trans ?_))⟩
      dsimp only
      split
      · rfl
      · exact (otherwise_punct hequals).trans ((otherwise_punct hcolon).trans rfl)
    | _ =>
      exact ⟨_, (otherwise hlifetime).trans
        ((otherwise hconst).trans ((bind_of_eq_some htype).trans rfl))⟩

/-- An argument does not start like an operator with an equals sign or another angle bracket. -/
theorem exists_head_of_arguments {arguments : Tokens} (h : CommaList IsArgumentText arguments) :
    ∃ first more, arguments = first :: more
      ∧ ∀ c ∈ ['=', '<'], ∀ cs rest, startsOperator (c :: cs) (first :: rest) = false := by
  have hentry : ∀ entry, IsArgumentText entry → ∃ first more, entry = first :: more
      ∧ ∀ c ∈ ['=', '<'], ∀ cs rest, startsOperator (c :: cs) (first :: rest) = false := by
    rintro entry (⟨name, rfl⟩ | htype)
    · exact ⟨_, _, rfl, fun c _ cs rest => by cases cs <;> rfl⟩
    · obtain ⟨first, more, rfl, hfirst⟩ := htype.head
      refine ⟨first, more, rfl, fun c hc cs rest => startsOperator_of_startsType hfirst ?_ cs rest⟩
      rcases List.mem_cons.1 hc with rfl | hc
      · decide
      · rw [List.mem_singleton.1 hc]
        decide
  cases h with
  | last h =>
    obtain ⟨first, more, rfl, hfirst⟩ := hentry _ h
    exact ⟨first, _, List.cons_append, hfirst⟩
  | cons h =>
    obtain ⟨first, more, rfl, hfirst⟩ := hentry _ h
    exact ⟨first, _, by rw [List.append_assoc, List.cons_append], hfirst⟩

/-- Arguments between angle brackets. -/
theorem angleArgumentsRule_of_arguments {n : Nat} {arguments : Tokens}
    (h : CommaList IsArgumentText arguments) (hsize : tokensSize arguments < n)
    (joint joint' : Bool) (rest : Tokens) :
    ∃ entries, angleArgumentsRule (Grammar.level n)
      (.leaf (.punct '<' joint) :: (arguments ++ .leaf (.punct '>' joint') :: rest))
        = some (entries, rest) := by
  obtain ⟨entries, hentries⟩ := listUntil_of_commaList readsEntries_argument (fun _ _ => rfl)
    (h.sized hsize)
    (show atPunct ">" (.leaf (.punct '>' joint') :: rest) = true from rfl)
  exact ⟨entries, (bind_of_eq_some (punct_of_at rfl)).trans ((bind_of_eq_some hentries).trans
    ((bind_of_eq_some (punct_of_at rfl)).trans rfl))⟩

/-! ### Segments of paths -/

/-- Tokens that are read as a name of a path, with its arguments. -/
structure IsSegmentText (inExpr : Bool) (tokens : Tokens) : Prop where
  head : ∃ name more, tokens = word name :: more ∧ isPathWord name = true
    ∧ ∀ rest, atPunct "#" rest = false → atPunct "#" (more ++ rest) = false
  reads : ∀ n before rest, tokensSize tokens ≤ n → EndsSegment inExpr rest →
    ∃ path, pathSegmentRule (Grammar.level n) inExpr before (tokens ++ rest) = some (path, rest)

theorem isSegmentText_name {s : String} (hs : isPathWord s = true) (inExpr : Bool) :
    IsSegmentText inExpr [word s] where
  head := ⟨s, [], rfl, hs, fun _ h => h⟩
  reads _ before _ _ hrest := ⟨.plain before s, pathSegmentRule_name hs hrest⟩

/-- A name with arguments. -/
theorem isSegmentText_angle {s : String} (hs : isKeyword s = false) {arguments : Tokens}
    (h : CommaList IsArgumentText arguments) (joint joint' : Bool) :
    IsSegmentText false
      (word s :: .leaf (.punct '<' joint) :: (arguments ++ [.leaf (.punct '>' joint')])) where
  head := ⟨s, _, rfl, isPathWord_of_not_keyword hs, fun _ _ => rfl⟩
  reads n before rest hsize _ := by
    have hpath := isPathWord_of_not_keyword hs
    have hsize' : tokensSize arguments < n := by
      simp only [tokensSize, tokensSize_append, TokenTree.size, word] at hsize
      omega
    obtain ⟨⟨entries, trailing⟩, hentries⟩ :=
      angleArgumentsRule_of_arguments h hsize' joint joint' rest
    have hplace : ∀ more, atOneOf ["super", "self", "crate", "try"] (word s :: more) = false := by
      intro more
      show ["super", "self", "crate", "try"].contains s = false
      rw [← Bool.not_eq_true, List.contains_iff_mem]
      intro hmem
      have hkeywords : ∀ k ∈ ["super", "self", "crate", "try"], isKeyword k = true := by decide
      rw [hkeywords s hmem] at hs
      cases hs
    have hself : ∀ more, atWord "Self" (word s :: more) = false := by
      intro more
      show (some s == some "Self") = false
      rw [beq_eq_false_iff_ne]
      rintro heq
      cases heq
      exact absurd hs (by decide)
    -- no operator with an equals sign starts at the bracket
    have hopens :
      (!false && atPunct "<"
        (.leaf (.punct '<' joint) :: (arguments ++ .leaf (.punct '>' joint') :: rest))
        && !atPunct "<="
          (.leaf (.punct '<' joint) :: (arguments ++ .leaf (.punct '>' joint') :: rest))
        && !atPunct "<<="
          (.leaf (.punct '<' joint) :: (arguments ++ .leaf (.punct '>' joint') :: rest)))
          = true := by
      obtain ⟨first, more, rfl, hfirst⟩ := exists_head_of_arguments h
      rw [List.cons_append]
      cases joint with
      | false => rfl
      | true =>
        show (!startsOperator ['='] (first :: (more ++ .leaf (.punct '>' joint') :: rest))
          && !startsOperator ['<', '='] (first :: (more ++ .leaf (.punct '>' joint') :: rest)))
            = true
        rw [hfirst '=' (by decide), hfirst '<' (by decide)]
        rfl
    refine ⟨.angle before s false entries trailing, ?_⟩
    rw [List.cons_append, List.cons_append, List.append_assoc]
    unfold pathSegmentRule
    refine (otherwise (hplace _)).trans ((otherwise (hself _)).trans ?_)
    refine (bind_of_eq_some (identifier_of_not_keyword hs)).trans ((chosen ?_).trans ?_)
    · exact hopens
    · exact (bind_of_eq_some hentries).trans rfl

/-! ### Paths -/

/-- The reading of further segments of a path. -/
def segmentsAt (g : Grammar) (inExpr : Bool) : Nat → Path → Parser Path :=
  foldAt (fun s => atPunct "::" s && !atGroup .paren (s.drop 2)) fun path => do
    punct "::"
    pathSegmentRule g inExpr path

/-- Tokens that are read as a path, up to the point where the rule looks for further segments. -/
structure IsPathText (inExpr : Bool) (tokens : Tokens) : Prop where
  head : ∃ first more, tokens = first :: more
    ∧ ((first = .leaf (.punct ':' true) ∧ ∃ behind, more = .leaf (.punct ':' false) :: behind)
      ∨ ∃ name, first = word name ∧ isPathWord name = true)
    ∧ ∀ rest, atPunct "#" rest = false → atPunct "#" (more ++ rest) = false
  reads : ∀ n rest, tokensSize tokens ≤ n → EndsSegment inExpr rest → ∃ path fuel,
    rest.length < fuel
    ∧ pathRule (Grammar.level n) inExpr (tokens ++ rest)
      = segmentsAt (Grammar.level n) inExpr fuel path rest

/-- The path of a single segment. -/
theorem IsSegmentText.isPathText {inExpr : Bool} {tokens : Tokens}
    (h : IsSegmentText inExpr tokens) :
    IsPathText inExpr tokens where
  head := by
    obtain ⟨name, more, rfl, hname, hmore⟩ := h.head
    exact ⟨word name, more, rfl, .inr ⟨name, rfl, hname⟩, hmore⟩
  reads n rest hsize hrest := by
    obtain ⟨path, hpath⟩ := h.reads n (.root false) rest hsize hrest
    obtain ⟨name, more, rfl, -⟩ := h.head
    exact ⟨path, rest.length + 1, Nat.lt_succ_self _,
      (bind_of_eq_some (punct?_of_not rfl)).trans (bind_of_eq_some hpath)⟩

/-- The path of a single segment behind a double colon. -/
theorem IsSegmentText.isPathText_leading {inExpr : Bool} {tokens : Tokens}
    (h : IsSegmentText inExpr tokens) :
    IsPathText inExpr (.leaf (.punct ':' true) :: .leaf (.punct ':' false) :: tokens) where
  head := ⟨_, _, rfl, .inl ⟨rfl, _, rfl⟩, fun _ _ => rfl⟩
  reads n rest hsize hrest := by
    have hsize' : tokensSize tokens ≤ n := by
      simp only [tokensSize, TokenTree.size] at hsize
      omega
    obtain ⟨path, hpath⟩ := h.reads n (.root true) rest hsize' hrest
    exact ⟨path, rest.length + 1, Nat.lt_succ_self _,
      (bind_of_eq_some (punct?_of_at rfl)).trans (bind_of_eq_some hpath)⟩

/-- **A path with one more segment.** -/
theorem IsPathText.link {inExpr : Bool} {tokens segment : Tokens} (h : IsPathText inExpr tokens)
    (hsegment : IsSegmentText inExpr segment) :
    IsPathText inExpr
      (tokens ++ .leaf (.punct ':' true) :: .leaf (.punct ':' false) :: segment) where
  head := by
    obtain ⟨first, more, rfl, hfirst, hmore⟩ := h.head
    refine ⟨first, _, List.cons_append, hfirst.imp_left ?_, fun rest _ => ?_⟩
    · rintro ⟨hcolon, behind, rfl⟩
      exact ⟨hcolon, _, List.cons_append⟩
    · rw [List.append_assoc]
      exact hmore _ rfl
  reads n rest hsize hrest := by
    simp only [tokensSize_append, tokensSize, TokenTree.size] at hsize
    obtain ⟨name, more, rfl, -⟩ := hsegment.head
    have hlink : EndsSegment inExpr
        (.leaf (.punct ':' true) :: .leaf (.punct ':' false) :: (word name :: more ++ rest)) :=
      ⟨fun _ => rfl, fun _ => rfl⟩
    obtain ⟨path, fuel, hfuel, hpath⟩ := h.reads n _ (by omega) hlink
    obtain ⟨path', hpath'⟩ := hsegment.reads n path rest (by omega) hrest
    simp only [List.length_cons, List.length_append] at hfuel
    obtain ⟨fuel, rfl⟩ : ∃ k, fuel = k + 1 := ⟨fuel - 1, by omega⟩
    refine ⟨path', fuel, by omega, ?_⟩
    rw [List.append_assoc]
    refine hpath.trans ((chosen ?_).trans (bind_of_eq_some ?_))
    · rfl
    · exact (bind_of_eq_some (punct_of_at rfl)).trans hpath'

/-- A path is read in full where nothing continues it. -/
theorem IsPathText.pathRule_eq {inExpr : Bool} {tokens : Tokens} (h : IsPathText inExpr tokens)
    (n : Nat) (rest : Tokens) (hsize : tokensSize tokens ≤ n) (hrest : EndsSegment inExpr rest)
    (hlink : (atPunct "::" rest && !atGroup .paren (rest.drop 2)) = false) :
    ∃ path, pathRule (Grammar.level n) inExpr (tokens ++ rest) = some (path, rest) := by
  obtain ⟨path, fuel, hfuel, hpath⟩ := h.reads n rest hsize hrest
  obtain ⟨fuel, rfl⟩ : ∃ k, fuel = k + 1 := ⟨fuel - 1, by omega⟩
  refine ⟨path, hpath.trans ((otherwise ?_).trans rfl)⟩
  exact hlink

/-! ### Types -/

theorem binderRule?_of_not {g : Grammar} (h : atWord "for" input = false) :
    binderRule? g input = some (none, input) :=
  otherwise_keyword h

/-- A type that starts with a word is a path, unless the word calls a builtin. -/
theorem typeRule_of_word {g : Grammar} {plus : Bool} {s : String} (hs : isPathWord s = true)
    (hbuiltin : atPunct "#" rest = false) :
    typeRule g plus (word s :: rest) = pathTypeRule g plus none (word s :: rest) := by
  have hbuiltin' : atBuiltin (word s :: rest) = false := by
    unfold atBuiltin
    rw [List.drop_one, List.tail_cons, hbuiltin, Bool.and_false]
  have hbinder : binderRule? g (word s :: rest) = some (none, word s :: rest) :=
    binderRule?_of_not (atWord_eq_false hs (by decide))
  have hpath : (atIdentifier (word s :: rest) || atPathKeyword (word s :: rest)
    || atPunct "::" (word s :: rest)
      || atPunct "<" (word s :: rest)) = true := by
    rw [atIdentifier_or_atPathKeyword hs rest]
    rfl
  unfold typeRule
  refine (bind_of_eq_some hbinder).trans ?_
  refine (otherwise rfl).trans ((otherwise (atOneOf_eq_false hs (by decide))).trans ?_)
  exact (otherwise hbuiltin').trans (chosen hpath)

theorem qualifiedPathRule_of_not (g : Grammar) (inExpr : Bool) (h : atPunct "<" input = false) :
    qualifiedPathRule g inExpr input = pathRule g inExpr input :=
  otherwise_punct h

/-- A path where a type ends. -/
theorem pathTypeRule_of_path {g : Grammar} {plus : Bool} {path : Path}
    (hpath : qualifiedPathRule g false input = some (path, rest)) (hrest : endsType rest = true) :
    pathTypeRule g plus none input = some (.path path, rest) := by
  have hparams : atCallParams rest = false := by
    unfold atCallParams
    rw [atGroup_of_endsType hrest (by decide), show atPunct "::" rest
      = false from startsOperator_of_endsType hrest (by decide) _]
    rfl
  have hmark : atMacroMark rest = false := by
    unfold atMacroMark
    rw [show atPunct "!" rest = false from startsOperator_of_endsType hrest (by decide) _]
    rfl
  have hplus : atPunct "+" rest = false := startsOperator_of_endsType hrest (by decide) _
  have htail : typePathRule g input = some (path, rest) :=
    (bind_of_eq_some hpath).trans ((otherwise_and hparams).trans rfl)
  unfold pathTypeRule
  refine (bind_of_eq_some htail).trans ?_
  dsimp only
  split
  · rfl
  · refine (otherwise hmark).trans ((bind_of_eq_some rfl).trans ?_)
    show (if (false || plus && atPunct "+" rest) = true then
      _ else pure (TypeExpr.path path) : Parser TypeExpr) rest = _
    rw [hplus, Bool.and_false]
    rfl

/-- **A path is a type.** -/
theorem IsPathText.isTypeText {tokens : Tokens} (h : IsPathText false tokens) :
    IsTypeText tokens where
  head := by
    obtain ⟨first, more, rfl, ⟨rfl, -⟩ | ⟨name, rfl, hname⟩, -⟩ := h.head
    · exact ⟨_, _, rfl, rfl⟩
    · exact ⟨_, _, rfl, Bool.or_eq_true_iff.2 (.inl hname)⟩
  reads n plus rest hsize hrest := by
    obtain ⟨n, rfl⟩ : ∃ k, n = k + 1 := ⟨n - 1, by omega⟩
    have hlink : atPunct "::" rest = false := startsOperator_of_endsType hrest (by decide) _
    obtain ⟨path, hpath⟩ :=
      h.pathRule_eq n rest (Nat.le_of_lt_succ hsize) (endsSegment_of_endsType hrest false)
      (by rw [hlink]; rfl)
    have hnumber : atPunct "#" rest = false := startsOperator_of_endsType hrest (by decide) _
    obtain ⟨first, more, rfl, ⟨rfl, behind, rfl⟩ | ⟨name, rfl, hname⟩, hmore⟩ := h.head
    · have hqualified := (qualifiedPathRule_of_not (Grammar.level n) false rfl).trans hpath
      refine ⟨.path path, (bind_of_eq_some (binderRule?_of_not rfl)).trans ?_⟩
      refine (otherwise rfl).trans
        ((otherwise rfl).trans ((otherwise rfl).trans ((chosen rfl).trans ?_)))
      exact pathTypeRule_of_path hqualified hrest
    · have hqualified := (qualifiedPathRule_of_not (Grammar.level n) false rfl).trans hpath
      exact ⟨.path path, (typeRule_of_word hname (hmore rest hnumber)).trans
        (pathTypeRule_of_path hqualified hrest)⟩

/-- A single name is the type of that name. -/
theorem typeRule_name {n : Nat} {plus : Bool} {s : String} (hs : isPathWord s = true)
    (hrest : endsType rest = true) :
    (Grammar.level (n + 1)).type plus (word s :: rest) = some
    (.path (.plain (.root false) s), rest) := by
  have hlink : (atPunct "::" rest && !atGroup .paren (rest.drop 2)) = false := by
    rw [show atPunct "::" rest = false from startsOperator_of_endsType hrest (by decide) _]
    rfl
  have hsegment : pathSegmentRule (Grammar.level n) false (.root false) (word s :: rest) = _ :=
    pathSegmentRule_name hs (endsSegment_of_endsType hrest false)
  have hpath : pathRule (Grammar.level n) false (word s :: rest)
      = some (.plain (.root false) s, rest) := by
    refine (bind_of_eq_some (punct?_of_not rfl)).trans
      ((bind_of_eq_some hsegment).trans ((otherwise ?_).trans rfl))
    exact hlink
  have hnumber : atPunct "#" rest = false := startsOperator_of_endsType hrest (by decide) _
  refine (typeRule_of_word hs hnumber).trans (pathTypeRule_of_path ?_ hrest)
  exact (qualifiedPathRule_of_not (Grammar.level n) false rfl).trans hpath

theorem isTypeText_never (joint : Bool) : IsTypeText [.leaf (.punct '!' joint)] where
  head := ⟨_, _, rfl, rfl⟩
  reads n plus rest hsize _ := by
    obtain ⟨n, rfl⟩ : ∃ k, n = k + 1 := ⟨n - 1, by omega⟩
    exact ⟨.never, by cases joint <;> rfl⟩

theorem isTypeText_infer : IsTypeText [word "_"] where
  head := ⟨_, _, rfl, rfl⟩
  reads n plus rest hsize _ := by
    obtain ⟨n, rfl⟩ : ∃ k, n = k + 1 := ⟨n - 1, by omega⟩
    exact ⟨.infer, rfl⟩

/-- A slice. -/
theorem IsTypeText.slice {tokens : Tokens} (h : IsTypeText tokens) :
    IsTypeText [.group .bracket tokens] where
  head := ⟨_, _, rfl, rfl⟩
  reads n plus rest hsize _ := by
    obtain ⟨n, rfl⟩ : ∃ k, n = k + 1 := ⟨n - 1, by omega⟩
    simp only [tokensSize, TokenTree.size] at hsize
    obtain ⟨element, helement⟩ := h.reads n true [] (by omega) rfl
    rw [List.append_nil] at helement
    refine ⟨.slice element, (bind_of_eq_some (binderRule?_of_not rfl)).trans ?_⟩
    refine (otherwise rfl).trans
      ((otherwise rfl).trans ((otherwise rfl).trans ((otherwise rfl).trans ?_)))
    refine (otherwise rfl).trans
      ((chosen rfl).trans (inside_of ((bind_of_eq_some helement).trans ?_)))
    exact (otherwise_punct rfl).trans rfl

/-- A reference, perhaps with a lifetime and to something mutable. -/
theorem IsTypeText.reference {tokens : Tokens} (h : IsTypeText tokens) (joint mutable : Bool)
    (name : Option String) :
    IsTypeText (.leaf (.punct '&' joint)
      :: ((name.map fun name => TokenTree.leaf (.lifetime name)).toList
      ++ ((if mutable then [word "mut"] else []) ++ tokens))) where
  head := ⟨_, _, rfl, rfl⟩
  reads n plus rest hsize hrest := by
    obtain ⟨n, rfl⟩ : ∃ k, n = k + 1 := ⟨n - 1, by omega⟩
    simp only [tokensSize, tokensSize_append, TokenTree.size] at hsize
    obtain ⟨target, htarget⟩ := h.reads n false rest (by omega) hrest
    obtain ⟨first, more, rfl, hfirst⟩ := h.head
    have hpath : ∀ behind, (atIdentifier (.leaf (.punct '&' joint) :: behind)
        || atPathKeyword (.leaf (.punct '&' joint) :: behind)
        || atPunct "::" (.leaf (.punct '&' joint) :: behind)
        || atPunct "<" (.leaf (.punct '&' joint) :: behind)) = false := by
      intro behind
      cases joint <;> rfl
    have hlifetime : ∀ behind,
          lifetime? ((name.map fun name => TokenTree.leaf (.lifetime name)).toList
        ++ ((if mutable then [word "mut"] else []) ++ (first :: behind)))
          = some (name, (if mutable then [word "mut"] else []) ++ (first :: behind)) := by
      intro behind
      cases name with
      | some name => rfl
      | none =>
        cases mutable with
        | true => rfl
        | false =>
          have hnone := atLifetime_of_startsType hfirst behind
          cases first with
          | group => rfl
          | leaf token =>
            cases token with
            | lifetime => cases hnone
            | _ => rfl
    have hmutable : ∀ behind,
          keyword? "mut" ((if mutable then [word "mut"] else []) ++ (first :: behind))
        = some (mutable, first :: behind) := by
      intro behind
      cases mutable with
      | true => exact keyword?_of_word "mut" _
      | false => exact keyword?_of_not (atWord_of_startsType hfirst (by decide) (by decide) behind)
    refine ⟨.reference name mutable target, ?_⟩
    rw [List.cons_append, List.append_assoc, List.append_assoc]
    refine (bind_of_eq_some (binderRule?_of_not rfl)).trans
      ((otherwise rfl).trans ((otherwise rfl).trans ((otherwise rfl).trans ?_)))
    refine (otherwise ?_).trans ((otherwise rfl).trans ((otherwise rfl).trans ?_))
    · exact hpath _
    · refine (otherwise_punct rfl).trans ((chosen_punct rfl).trans ?_)
      refine (bind_of_eq_some (hlifetime _)).trans ((bind_of_eq_some (hmutable _)).trans ?_)
      exact (bind_of_eq_some htarget).trans rfl

/-- A pointer. -/
theorem IsTypeText.pointer {tokens : Tokens} (h : IsTypeText tokens) (joint mutable : Bool) :
    IsTypeText
      (.leaf (.punct '*' joint) :: word (if mutable then "mut" else "const") :: tokens) where
  head := ⟨_, _, rfl, rfl⟩
  reads n plus rest hsize hrest := by
    obtain ⟨n, rfl⟩ : ∃ k, n = k + 1 := ⟨n - 1, by omega⟩
    simp only [tokensSize, TokenTree.size, word] at hsize
    obtain ⟨target, htarget⟩ := h.reads n false rest (by omega) hrest
    have hpath : ∀ behind, (atIdentifier (.leaf (.punct '*' joint) :: behind)
        || atPathKeyword (.leaf (.punct '*' joint) :: behind)
        || atPunct "::" (.leaf (.punct '*' joint) :: behind)
        || atPunct "<" (.leaf (.punct '*' joint) :: behind)) = false := by
      intro behind
      cases joint <;> rfl
    refine ⟨.pointer mutable target, ?_⟩
    rw [List.cons_append, List.cons_append]
    refine (bind_of_eq_some (binderRule?_of_not rfl)).trans
      ((otherwise rfl).trans ((otherwise rfl).trans ((otherwise rfl).trans ?_)))
    refine (otherwise ?_).trans
      ((otherwise rfl).trans ((otherwise rfl).trans ((chosen_punct rfl).trans ?_)))
    · exact hpath _
    · cases mutable with
      | true =>
        refine (bind_of_eq_some (keyword?_of_not rfl)).trans
          ((bind_of_eq_some (keyword_of_word "mut" _)).trans ?_)
        exact (bind_of_eq_some htarget).trans rfl
      | false =>
        exact (bind_of_eq_some (keyword?_of_word "const" _)).trans
          ((bind_of_eq_some htarget).trans rfl)

/-- Types that fill a group, separated by commas. -/
theorem readsEntries_type {n : Nat} : ReadsEntries List.isEmpty ((Grammar.level n).type true)
    (fun ts => IsTypeText ts ∧ tokensSize ts < n) := by
  rintro entry ⟨hentry, hsize⟩ rest hrest
  have hends : endsType rest = true := by
    rcases hrest with hrest | ⟨joint, behind, rfl⟩
    · rw [List.isEmpty_iff.1 hrest]
      rfl
    · rfl
  obtain ⟨first, more, rfl, -⟩ := hentry.head
  exact ⟨rfl, hentry.reads n true rest hsize hends⟩

/-- What may stand behind the first type of a tuple. -/
def tupleRest (g : Grammar) (type : TypeExpr) : Parser Parenthesized := do
  if ← punct? "," then
    let (others, trailing) ← terminated (g.type true)
    return .tuple (type :: others) trailing
  else return .type type

/-- What stands between parentheses is read as a tuple or as a single type. -/
theorem parenthesizedRule_of_commaTrees {n : Nat} {tokens : Tokens}
    (h : CommaTrees IsTypeText tokens) (hsize : tokensSize tokens < n) : (∃ elements trailing,
        parenthesizedRule (Grammar.level n) tokens = some (.tuple elements trailing, []))
      ∨ ∃ inner, parenthesizedRule (Grammar.level n) tokens = some (.type inner, []) := by
  rcases h with rfl | h
  · exact .inl ⟨[], false, chosen rfl⟩
  · -- what stands in front of the first type's end
    have hfirst : ∀ entry, IsTypeText entry → tokensSize entry < n → ∀ rest, endsType rest = true →
      ∃ type,
        parenthesizedRule (Grammar.level n) (entry ++ rest)
          = tupleRest (Grammar.level n) type rest := by
      intro entry hentry hsize rest hrest
      obtain ⟨type, htype⟩ := hentry.reads n true rest hsize hrest
      obtain ⟨first, more, rfl, hfirst⟩ := hentry.head
      refine ⟨type,
        (otherwise rfl).trans ((otherwise ?_).trans ((otherwise ?_).trans (bind_of_eq_some htype)))⟩
      · exact atLifetime_of_startsType hfirst _
      · exact startsOperator_of_startsType hfirst (by decide) _ _
    cases h with
    | @last entry comma h hcomma =>
      rw [tokensSize_append] at hsize
      rcases hcomma with rfl | ⟨joint, rfl⟩
      · obtain ⟨type, htype⟩ := hfirst entry h (by omega) [] rfl
        exact .inr ⟨type, htype.trans (otherwise_punct rfl)⟩
      · obtain ⟨type, htype⟩ := hfirst entry h (by omega) [.leaf (.punct ',' joint)] rfl
        exact .inl ⟨[type], true, htype.trans (chosen_punct rfl)⟩
    | @cons entry comma more h hcomma hmore =>
      obtain ⟨joint, rfl⟩ := hcomma
      simp only [tokensSize_append] at hsize
      obtain ⟨type, htype⟩ := hfirst entry h (by omega) (.leaf (.punct ',' joint) :: more) rfl
      obtain ⟨⟨others, trailing⟩, hothers⟩ :=
        terminated_of_commaTrees readsEntries_type
          (.inr (hmore.sized (show tokensSize more < n by omega)))
      refine .inl ⟨type :: others, trailing, ?_⟩
      rw [List.append_assoc]
      exact htype.trans ((chosen_punct rfl).trans ((bind_of_eq_some hothers).trans rfl))

/-- A tuple, or a type between parentheses. -/
theorem isTypeText_paren {tokens : Tokens} (h : CommaTrees IsTypeText tokens) :
    IsTypeText [.group .paren tokens] where
  head := ⟨_, _, rfl, rfl⟩
  reads n plus rest hsize hrest := by
    obtain ⟨n, rfl⟩ : ∃ k, n = k + 1 := ⟨n - 1, by omega⟩
    simp only [tokensSize, TokenTree.size] at hsize
    have hplus : atPunct "+" rest = false := startsOperator_of_endsType hrest (by decide) _
    have htype : (Grammar.level (n + 1)).type plus ([.group .paren tokens] ++ rest)
        = parenTypeRule (Grammar.level n) plus ([.group .paren tokens] ++ rest) :=
      (bind_of_eq_some (binderRule?_of_not rfl)).trans (chosen rfl)
    rcases parenthesizedRule_of_commaTrees h (show tokensSize tokens < n by omega) with
      ⟨elements, trailing, hinner⟩ | ⟨inner, hinner⟩
    · exact ⟨.tuple elements trailing, htype.trans (bind_of_eq_some (inside_of hinner))⟩
    · refine ⟨.paren inner, htype.trans ((bind_of_eq_some (inside_of hinner)).trans ?_)⟩
      exact (otherwise_and hplus).trans rfl

end FluentBuilder.Code
