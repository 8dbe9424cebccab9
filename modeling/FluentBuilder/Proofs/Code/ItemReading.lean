import FluentBuilder.Proofs.Code.StatementReading

/-!
# Reading the items of a builder

* `IsFieldText`, `readsEntries_field` — the fields of a struct;
* `IsMemberText`, `isMemberText_method` — a method of an implementation;
* `SpellsModule` — the tree of an import;
* `item_struct`, `item_impl`, `item_import` — the items;
* `readTokens?_sourceFile_iff` — a file is one item after the other.
-/

namespace FluentBuilder.Code

variable {input rest : Tokens}

/-! ### Fields -/

/-- Tokens that are read as a field with a name. -/
def IsFieldText (tokens : Tokens) : Prop :=
  ∃ s type, tokens = word s :: .leaf (.punct ':' false) :: type ∧ isKeyword s = false
    ∧ IsTypeText type

theorem endsType_of_entry
    (hrest : rest.isEmpty = true ∨ ∃ joint behind, rest = .leaf (.punct ',' joint) :: behind) :
    endsType rest = true := by
  rcases hrest with hrest | ⟨joint, behind, rfl⟩
  · rw [List.isEmpty_iff.1 hrest]
    rfl
  · rfl

theorem readsEntries_field {n fuel : Nat} :
    ReadsEntries List.isEmpty (namedFieldAt (Grammar.level n) (fuel + 1))
    (fun ts => IsFieldText ts ∧ tokensSize ts < n) := by
  rintro entry ⟨⟨s, type, rfl, hs, htype⟩, hsize⟩ rest hrest
  simp only [tokensSize, TokenTree.size, word] at hsize
  obtain ⟨t, ht⟩ := htype.reads n true rest (by omega) (endsType_of_entry hrest)
  have hpath := isPathWord_of_not_keyword hs
  have hname : (s == "_") = false := by
    rw [beq_eq_false_iff_ne]
    rintro rfl
    exact absurd hs (by decide)
  have hnot : ∀ k, isPathWord k = false →
      atWord k (word s :: .leaf (.punct ':' false) :: (type ++ rest)) = false :=
    fun k hk => atWord_eq_false hpath hk
  refine ⟨rfl, .marked [] .inherited (.field (some s) t), ?_⟩
  refine (bind_of_eq_some (repeatWhile_of_not rfl)).trans ?_
  refine (bind_of_eq_some (a := ItemVisibility.inherited)
    ((otherwise_keyword (hnot "pub" (by decide))).trans rfl)).trans ?_
  refine (otherwise (hnot "_" (by decide))).trans
    ((bind_of_eq_some (identifier_of_not_keyword hs)).trans ?_)
  refine (bind_of_eq_some (punct_of_at rfl)).trans ?_
  rw [hname]
  exact (bind_of_eq_some rfl).trans ((bind_of_eq_some ht).trans rfl)

/-! ### Parameters of methods -/

/-- Tokens that are read as the parameters of a method. -/
def IsParamsText (params : Tokens) : Prop :=
  ∀ n, tokensSize params < n → ∃ entries, paramsAt (Grammar.level n) true (params.length + 1) params
    = some (entries, [])

theorem isParamsText_nil : IsParamsText [] :=
  fun _ _ => ⟨([], true), chosen rfl⟩

theorem isParamsText_self {comma : Tokens} (hcomma : IsOptionalComma comma) :
    IsParamsText (word "self" :: comma) := by
  intro n hsize
  obtain ⟨n, rfl⟩ : ∃ k, n = k + 1 := ⟨n - 1, by
    simp only [tokensSize, TokenTree.size, word] at hsize
    omega⟩
  rcases hcomma with rfl | ⟨joint, rfl⟩
  · exact ⟨_, rfl⟩
  · cases joint <;> exact ⟨_, rfl⟩

/-- A name is a pattern in front of its type. -/
theorem patternRule_name {g : Grammar} {s : String} (hs : isKeyword s = false) (rest : Tokens) :
    patternRule g (word s :: .leaf (.punct ':' false) :: rest)
      = some (.binding false false s, .leaf (.punct ':' false) :: rest) := by
  have hpath := isPathWord_of_not_keyword hs
  have hnot : ∀ k, isPathWord k = false →
      atWord k (word s :: .leaf (.punct ':' false) :: rest) = false :=
    fun k hk => atWord_eq_false hpath hk
  have hself : atWord "self" (word s :: .leaf (.punct ':' false) :: rest) = false :=
    atWord_of_not_keyword hs (by decide)
  have hstarts : startsPathPattern (word s :: .leaf (.punct ':' false) :: rest) = false := by
    unfold startsPathPattern
    rw [hself, atOneOf_of_not_keyword hs (by decide)]
    rw [atIdentifier_of_not_keyword hs]
    rfl
  have hliteral : (atPunct "-" (word s :: .leaf (.punct ':' false) :: rest)
      || atLiteral (word s :: .leaf (.punct ':' false) :: rest)
      || atWord "const" (word s :: .leaf (.punct ':' false) :: rest)) = false := by
    rw [atLiteral_word_eq_false hpath, hnot "const" (by decide)]
    rfl
  have hbinds : (atOneOf ["ref", "mut", "self"] (word s :: .leaf (.punct ':' false) :: rest)
      || atIdentifier (word s :: .leaf (.punct ':' false) :: rest)) = true := by
    rw [atIdentifier_of_not_keyword hs, Bool.or_true]
  refine (otherwise hstarts).trans ((otherwise_keyword (hnot "_" (by decide))).trans ?_)
  refine (otherwise (hnot "box" (by decide))).trans ((otherwise ?_).trans ((chosen ?_).trans ?_))
  · exact hliteral
  · exact hbinds
  · refine (bind_of_eq_some (keyword?_of_not (hnot "ref" (by decide)))).trans ?_
    refine (bind_of_eq_some (keyword?_of_not (hnot "mut" (by decide)))).trans ?_
    refine (otherwise hself).trans ((bind_of_eq_some (identifier_of_not_keyword hs)).trans ?_)
    exact (otherwise_punct rfl).trans rfl

theorem paramRule_name {n : Nat} {s : String} {type : Tokens} (hs : isKeyword s = false)
    (htype : IsTypeText type) (hsize : tokensSize type < n) (rest : Tokens)
    (hrest : endsType rest = true) :
    ∃ t, paramRule (Grammar.level (n + 1)) (word s :: .leaf (.punct ':' false) :: (type ++ rest))
      = some (.typed (.binding false false s) t, rest) := by
  obtain ⟨t, ht⟩ := htype.reads (n + 1) true rest (by omega) hrest
  obtain ⟨first, more, rfl, hfirst⟩ := htype.head
  have hreceiver : receiverRule (Grammar.level (n + 1))
      (word s :: .leaf (.punct ':' false) :: (first :: more ++ rest)) = none := by
    have hself : keyword "self" (word s :: .leaf (.punct ':' false) :: (first :: more ++ rest))
        = none := by
      unfold keyword expect
      show (if atWord "self" _ = true then _ else none).bind _ = none
      rw [atWord_of_not_keyword hs (by decide)]
      rfl
    refine (otherwise_punct rfl).trans ((bind_of_eq_some (a := none) rfl).trans ?_)
    refine (bind_of_eq_some (keyword?_of_not (atWord_of_not_keyword hs (by decide)))).trans ?_
    show (keyword "self" _).bind _ = none
    rw [hself]
    rfl
  have hahead : ahead (receiverRule (Grammar.level (n + 1)))
        (word s :: .leaf (.punct ':' false) :: (first :: more ++ rest))
      = some (none, word s :: .leaf (.punct ':' false) :: (first :: more ++ rest)) := by
    unfold ahead
    rw [hreceiver]
    rfl
  have hvariadic : atPunct "..." (first :: more ++ rest) = false :=
    startsOperator_of_startsType hfirst (by decide) _ _
  have hangle : (atIdentifier (word s :: .leaf (.punct ':' false) :: (first :: more ++ rest))
      && atPunct "<" (.leaf (.punct ':' false) :: (first :: more ++ rest))) = false :=
        Bool.and_false _
  refine ⟨t, (otherwise_punct rfl).trans ((bind_of_eq_some hahead).trans ((otherwise ?_).trans ?_))⟩
  · exact hangle
  · refine (bind_of_eq_some (patternRule_name hs _)).trans
      ((bind_of_eq_some (punct_of_at rfl)).trans ?_)
    exact (otherwise_punct hvariadic).trans ((bind_of_eq_some ht).trans rfl)

/-- The parameters of a setter. -/
theorem isParamsText_setter {s : String} {type comma : Tokens} (joint : Bool)
    (hs : isKeyword s = false) (htype : IsTypeText type) (hcomma : IsOptionalComma comma) :
    IsParamsText
      (word "mut" :: word "self" :: .leaf (.punct ',' joint) :: word s :: .leaf (.punct ':' false)
      :: (type ++ comma)) := by
  intro n hsize
  simp only [tokensSize, tokensSize_append, TokenTree.size, word] at hsize
  obtain ⟨n, rfl⟩ : ∃ k, n = k + 1 := ⟨n - 1, by omega⟩
  have hself : ∀ more, paramRule (Grammar.level (n + 1))
        (word "mut" :: word "self" :: .leaf (.punct ',' joint) :: more)
      = some (.receiver none true none, .leaf (.punct ',' joint) :: more) := by
    intro more
    cases joint <;> rfl
  have hlast : ∀ fuel, ∃ entries, paramsAt (Grammar.level (n + 1)) false (fuel + 2)
      (word s :: .leaf (.punct ':' false) :: (type ++ comma)) = some (entries, []) := by
    intro fuel
    rcases hcomma with rfl | ⟨joint, rfl⟩
    · obtain ⟨t, ht⟩ := paramRule_name hs htype (show tokensSize type < n by omega) [] rfl
      refine ⟨([.typed (.binding false false s) t], false), (otherwise rfl).trans ?_⟩
      refine (bind_of_eq_some (repeatWhile_of_not rfl)).trans ((bind_of_eq_some ht).trans ?_)
      exact (chosen rfl).trans rfl
    · obtain ⟨t, ht⟩ := paramRule_name hs htype (show tokensSize type < n by omega)
        [.leaf (.punct ',' joint)] rfl
      refine ⟨([.typed (.binding false false s) t], true), (otherwise rfl).trans ?_⟩
      refine (bind_of_eq_some (repeatWhile_of_not rfl)).trans ((bind_of_eq_some ht).trans ?_)
      exact (otherwise rfl).trans ((bind_of_eq_some (punct_comma joint [])).trans
        ((bind_of_eq_some (a := ([], true)) (chosen rfl)).trans rfl))
  obtain ⟨entries, hentries⟩ := hlast ((type ++ comma).length + 3)
  refine ⟨(.receiver none true none :: entries.1, entries.2), (otherwise rfl).trans ?_⟩
  refine (bind_of_eq_some (repeatWhile_of_not rfl)).trans ((bind_of_eq_some (hself _)).trans ?_)
  refine (otherwise rfl).trans ((bind_of_eq_some (punct_comma joint _)).trans ?_)
  show (paramsAt (Grammar.level (n + 1)) false ((type ++ comma).length + 3 + 2) >>= _ : Parser _)
    _ = _
  exact (bind_of_eq_some hentries).trans rfl

/-! ### Methods -/

/-- The tokens of a method. -/
def methodTokens (name : String) (params : Tokens) (output : String) (block : Tokens) : Tokens :=
  [word "pub", word "fn", word name, .group .paren params, .leaf (.punct '-' true),
    .leaf (.punct '>' false), word output, .group .brace block]

theorem conditionsRule_of_not {g : Grammar} (h : atWord "where" input = false) :
    conditionsRule g input = some (([], false), input) :=
  (otherwise_keyword h).trans rfl

theorem signatureRule_method {n : Nat} {name output : String} {params : Tokens}
    (hname : isKeyword name = false) (houtput : isPathWord output = true)
    (hparams : IsParamsText params) (hsize : tokensSize params < n + 1) (rest : Tokens)
    (hrest : endsType rest = true) (hwhere : atWord "where" rest = false) :
    ∃ signature, signatureRule (Grammar.level (n + 1)) false false
      (word "fn" :: word name :: .group .paren params
      :: .leaf (.punct '-' true) :: .leaf (.punct '>' false) :: word output :: rest)
        = some (signature, rest) := by
  obtain ⟨entries, hentries⟩ := hparams (n + 1) hsize
  have hinside : ∀ more,
    inside .paren (fun input => paramsAt (Grammar.level (n + 1)) true (List.length input + 1) input)
      (.group .paren params :: more) = some (entries, more) := fun more => inside_of hentries
  have htype : (Grammar.level (n + 1)).type true (word output :: rest)
      = some (.path (.plain (.root false) output), rest) := typeRule_name houtput hrest
  have hresult : outputRule (Grammar.level (n + 1)) true
      (.leaf (.punct '-' true) :: .leaf (.punct '>' false) :: word output :: rest)
        = some (some (.path (.plain (.root false) output)), rest) :=
    (chosen_punct rfl).trans ((bind_of_eq_some htype).trans rfl)
  let signature : Signature :=
    { head := ⟨false, false, false, false, .native, name⟩, isSafe := false, generics :=
      .mk [] false [] false, params := entries.1, trailing := entries.2, output :=
        some (.path (.plain (.root false) output)) }
  refine ⟨signature, (bind_of_eq_some (keyword?_of_not rfl)).trans
    ((bind_of_eq_some (keyword?_of_not rfl)).trans ?_)⟩
  refine (bind_of_eq_some (a := false) rfl).trans ((bind_of_eq_some (keyword?_of_not rfl)).trans ?_)
  refine (bind_of_eq_some (a := Linkage.native) (otherwise_keyword rfl)).trans ?_
  refine (bind_of_eq_some (keyword_of_word "fn" _)).trans
    ((bind_of_eq_some (identifier_of_not_keyword hname)).trans ?_)
  refine (bind_of_eq_some (a := ([], false)) (otherwise rfl)).trans
    ((bind_of_eq_some (hinside _)).trans ?_)
  refine (bind_of_eq_some hresult).trans ?_
  exact (bind_of_eq_some (conditionsRule_of_not hwhere)).trans rfl

/-- Tokens that are read as a member of an implementation. -/
def IsMemberText (tokens : Tokens) : Prop :=
  tokens ≠ [] ∧ atPunct "#" tokens = false ∧ ∀ n rest, tokensSize tokens + 3 < n →
    ∃ item, implMemberRule (Grammar.level n) (tokens ++ rest) = some (item, rest)

/-- An item behind its visibility, without attributes. -/
theorem markedRule_of {g : Grammar} {p : ItemVisibility → Parser (Option Item)}
    {attributes : List Meta} {visibility : ItemVisibility} {item : Item} {mid behind : Tokens}
    (hattributes : outerAttributesRule g input = some (attributes, mid))
    (hvisibility : visibilityRule mid = some (visibility, behind))
    (hitem : p visibility behind = some (some item, rest)) :
    markedRule g p input = some (.marked attributes visibility item, rest) := by
  have hparts : (do
      let attributes ← outerAttributesRule g
      let visibility ← visibilityRule
      return (← p visibility).map (Item.marked attributes visibility) : Parser (Option Item)) input
        = some (some (.marked attributes visibility item), rest) :=
    (bind_of_eq_some hattributes).trans
      ((bind_of_eq_some hvisibility).trans ((bind_of_eq_some hitem).trans rfl))
  exact (bind_of_eq_some (withTokens_of hparts)).trans rfl

/-- The lines of a block behind no attributes of the enclosing phrase. -/
theorem body_of_isBlockText {n : Nat} {block : Tokens} (h : IsBlockText block)
    (hsize : tokensSize block + 3 < n) (hnumber : atPunct "#" block = false) (rest : Tokens) :
    ∃ body, (Grammar.level n).body (.group .brace block :: rest) = some (body, rest) := by
  obtain ⟨statements, hstatements⟩ := h.statements hsize
  have hinner : (atPunct "#" block && atPunct "!" (block.drop 1)) = false := by
    rw [hnumber]
    rfl
  have hattributes : innerAttributesRule (Grammar.level n) block = some ([], block) :=
    repeatWhile_of_not hinner
  exact ⟨([], statements),
    inside_of ((bind_of_eq_some hattributes).trans ((bind_of_eq_some hstatements).trans rfl))⟩

/-- **A method.** -/
theorem isMemberText_method {name output : String} {params block : Tokens}
    (hname : isKeyword name = false) (houtput : isPathWord output = true)
    (hparams : IsParamsText params) (hblock : IsBlockText block)
    (hnumber : atPunct "#" block = false) :
    IsMemberText (methodTokens name params output block) := by
  refine ⟨nofun, rfl, fun n rest hsize => ?_⟩
  simp only [methodTokens, tokensSize, TokenTree.size, word] at hsize
  obtain ⟨n, rfl⟩ : ∃ k, n = k + 1 := ⟨n - 1, by omega⟩
  obtain ⟨signature, hsignature⟩ := signatureRule_method (n := n) hname houtput hparams (by omega)
    (.group .brace block :: rest) rfl rfl
  obtain ⟨body, hbody⟩ :=
    body_of_isBlockText hblock (show tokensSize block + 3 < n + 1 by omega) hnumber rest
  refine ⟨.marked [] .everywhere (signature.item (some body)), ?_⟩
  have hvisibility : ∀ more, visibilityRule (word "pub" :: word "fn" :: more)
      = some (.everywhere, word "fn" :: more) :=
    fun _ => rfl
  refine markedRule_of (repeatWhile_of_not rfl) (hvisibility _) ?_
  refine (bind_of_eq_some (look_of_not rfl)).trans
    ((bind_of_eq_some rfl).trans ((chosen rfl).trans ?_))
  refine (bind_of_eq_some hsignature).trans
    ((otherwise_punct rfl).trans ((bind_of_eq_some hbody).trans rfl))

theorem whileAt_of_forall {α : Type} {p : Parser α} {entries : List Tokens}
    (hentries : ∀ entry ∈ entries, entry ≠ [] ∧ ∀ rest, ∃ a, p (entry ++ rest) = some (a, rest))
    {fuel : Nat} (hfuel : entries.length < fuel) :
    ∃ as, whileAt (fun s => !s.isEmpty) p fuel entries.flatten = some (as, []) := by
  induction entries generalizing fuel with
  | nil =>
    obtain ⟨fuel, rfl⟩ : ∃ k, fuel = k + 1 := ⟨fuel - 1, by omega⟩
    exact ⟨[], otherwise rfl⟩
  | cons entry entries ih =>
    obtain ⟨fuel, rfl⟩ : ∃ k, fuel = k + 1 := ⟨fuel - 1, by
      rw [List.length_cons] at hfuel
      omega⟩
    obtain ⟨hne, hentry⟩ := hentries entry List.mem_cons_self
    obtain ⟨a, ha⟩ := hentry entries.flatten
    rw [List.length_cons] at hfuel
    obtain ⟨as, has⟩ := ih (fun e he => hentries e (List.mem_cons_of_mem entry he))
      (show entries.length < fuel by omega)
    have htest : (!(entry ++ entries.flatten).isEmpty) = true := by
      rw [Bool.not_eq_true', List.isEmpty_eq_false_iff]
      exact fun hnil => hne (List.append_eq_nil_iff.1 hnil).1
    exact ⟨a :: as, whileAt_cons htest ha has⟩

theorem length_le_length_flatten {entries : List Tokens}
    (hentries : ∀ entry ∈ entries, entry ≠ []) :
    entries.length ≤ entries.flatten.length := by
  induction entries with
  | nil => exact Nat.le_refl 0
  | cons entry entries ih =>
    have hentry := List.length_pos_iff.2 (hentries entry List.mem_cons_self)
    have hothers := ih fun e he => hentries e (List.mem_cons_of_mem entry he)
    rw [List.flatten_cons, List.length_append, List.length_cons]
    omega

theorem tokensSize_le_flatten {entries : List Tokens} {entry : Tokens} (h : entry ∈ entries) :
    tokensSize entry ≤ tokensSize entries.flatten := by
  induction entries with
  | nil => cases h
  | cons first entries ih =>
    rw [List.flatten_cons, tokensSize_append]
    rcases List.mem_cons.1 h with rfl | h
    · omega
    · have := ih h
      omega

/-- Phrases one behind the other are read one by one. -/
theorem repeatWhile_of_forall {α : Type} {p : Parser α} {entries : List Tokens}
    (hentries : ∀ entry ∈ entries, entry ≠ [] ∧ ∀ rest, ∃ a, p (entry ++ rest) = some (a, rest)) :
    ∃ as, repeatWhile (fun s => !s.isEmpty) p entries.flatten = some (as, []) :=
  whileAt_of_forall hentries
    (Nat.lt_succ_of_le (length_le_length_flatten fun entry he => (hentries entry he).1))

theorem atPunct_number_flatten {entries : List Tokens}
    (hentries : ∀ entry ∈ entries, entry ≠ [] ∧ atPunct "#" entry = false) :
    atPunct "#" entries.flatten = false := by
  cases entries with
  | nil => rfl
  | cons entry entries =>
    obtain ⟨hne, hentry⟩ := hentries entry List.mem_cons_self
    cases entry with
    | nil => exact absurd rfl hne
    | cons first entry =>
      have hhead : ∀ behind, atPunct "#" (first :: behind) = atPunct "#" [first] := by
        intro behind
        cases first with
        | leaf token => cases token <;> rfl
        | group => rfl
      rw [List.flatten_cons, List.cons_append, hhead, ← hhead entry, hentry]

/-! ### Items -/

/-- **An implementation.** -/
theorem item_impl {n : Nat} {name : String} {members : List Tokens} (hname : isKeyword name = false)
    (hmembers : ∀ member ∈ members, IsMemberText member)
    (hsize : tokensSize members.flatten + 5 < n) (rest : Tokens) :
    ∃ items, (Grammar.level n).item
        (word "impl" :: word name :: .group .brace members.flatten :: rest)
      = some (.marked [] .inherited (.impl false false (.mk [] false [] false) false none
          (.path (.plain (.root false) name)) [] items), rest) := by
  obtain ⟨n, rfl⟩ : ∃ k, n = k + 2 := ⟨n - 2, by omega⟩
  obtain ⟨items, hitems⟩ :=
    repeatWhile_of_forall (p := implMemberRule (Grammar.level (n + 1))) fun member hmember => by
      obtain ⟨hne, -, hreads⟩ := hmembers member hmember
      have := tokensSize_le_flatten hmember
      exact ⟨hne, fun rest => hreads (n + 1) rest (by omega)⟩
  have hinner : (atPunct "#" members.flatten && atPunct "!" (members.flatten.drop 1)) = false := by
    rw [atPunct_number_flatten fun member hmember =>
      ⟨(hmembers member hmember).1, (hmembers member hmember).2.1⟩]
    rfl
  have hattributes : innerAttributesRule (Grammar.level (n + 1)) members.flatten
      = some ([], members.flatten) :=
    repeatWhile_of_not hinner
  have hbody : itemBody (Grammar.level (n + 1)) (implMemberRule (Grammar.level (n + 1)))
      (.group .brace members.flatten :: rest) = some (([], items), rest) :=
    inside_of ((bind_of_eq_some hattributes).trans ((bind_of_eq_some hitems).trans rfl))
  have htype : (Grammar.level (n + 1)).type true
        (word name :: .group .brace members.flatten :: rest)
      = some (.path (.plain (.root false) name), .group .brace members.flatten :: rest) :=
    typeRule_name (isPathWord_of_not_keyword hname) rfl
  have hconst : (atWord "const" (word name :: .group .brace members.flatten :: rest)
      || (atPunct "?" (word name :: .group .brace members.flatten :: rest)
        && atWord "const" (.group .brace members.flatten :: rest))) = false := by
    rw [atWord_of_not_keyword hname (by decide)]
    rfl
  have himpl : implRule (Grammar.level (n + 1)) false
        (word "impl" :: word name :: .group .brace members.flatten :: rest)
      = some (some (.impl false false (.mk [] false [] false) false none
        (.path (.plain (.root false) name)) [] items),
        rest) := by
    refine (bind_of_eq_some (keyword?_of_not rfl)).trans
      ((bind_of_eq_some (keyword?_of_not rfl)).trans ?_)
    refine (bind_of_eq_some (keyword_of_word "impl" _)).trans ((otherwise rfl).trans ?_)
    refine (bind_of_eq_some (a := ([], false)) rfl).trans
      ((bind_of_eq_some (look_of_not hconst)).trans ?_)
    refine (bind_of_eq_some (look_of_not rfl)).trans ((bind_of_eq_some htype).trans ?_)
    refine (bind_of_eq_some (keyword?_of_not rfl)).trans ((bind_of_eq_some rfl).trans ?_)
    exact (bind_of_eq_some (conditionsRule_of_not rfl)).trans ((bind_of_eq_some hbody).trans rfl)
  refine ⟨items, ?_⟩
  have hvisibility : ∀ more, visibilityRule (word "impl" :: more)
      = some (.inherited, word "impl" :: more) :=
    fun _ => rfl
  refine markedRule_of (repeatWhile_of_not rfl) (hvisibility _) ?_
  refine (otherwise rfl).trans
    ((otherwise ?_).trans ((otherwise rfl).trans ((otherwise rfl).trans ?_)))
  · rfl
  refine (otherwise rfl).trans
    ((otherwise rfl).trans ((otherwise ?_).trans ((otherwise ?_).trans ?_)))
  · rfl
  · rfl
  refine (otherwise rfl).trans
    ((otherwise ?_).trans ((otherwise ?_).trans ((chosen ?_).trans himpl)))
  · rfl
  · rfl
  · rfl

/-- The attribute of a documented item. -/
theorem outerAttributesRule_documentation {g : Grammar} {input : Tokens} (line : List Char)
    (hnumber : atPunct "#" input = false) :
    outerAttributesRule g (documentation false line ++ input)
      = some ([.assigned ⟨false, ["doc"]⟩ (.literal (textLiteral line))], input) := by
  have hattribute : outerAttributeRule g (documentation false line ++ input)
      = some (.assigned ⟨false, ["doc"]⟩ (.literal (textLiteral line)), input) := rfl
  refine (chosen rfl).trans ((bind_of_eq_some hattribute).trans ?_)
  exact (bind_of_eq_some (otherwise hnumber)).trans rfl

/-- **A struct with named fields.** -/
theorem item_struct {n : Nat} {visibility : ItemVisibility} {visible fields : Tokens}
    {name : String}
    (line : List Char) (hname : isKeyword name = false)
    (hnumber : ∀ more, atPunct "#" (visible ++ word "struct" :: more) = false)
    (hvisible : ∀ more, visibilityRule (visible ++ word "struct" :: more)
      = some (visibility, word "struct" :: more))
    (hfields : CommaTrees IsFieldText fields) (hsize : tokensSize fields + 2 < n) (rest : Tokens) :
    ∃ entries trailing, (Grammar.level n).item (documentation false line
        ++ (visible ++ word "struct" :: word name :: .group .brace fields :: rest))
      = some (.marked [.assigned ⟨false, ["doc"]⟩ (.literal (textLiteral line))] visibility
          (.struct name (.mk [] false [] false) .named entries trailing), rest) := by
  obtain ⟨n, rfl⟩ : ∃ k, n = k + 1 := ⟨n - 1, by omega⟩
  obtain ⟨⟨entries, trailing⟩, hentries⟩ := terminated_of_commaTrees readsEntries_field
    (hfields.imp_right fun hlist => hlist.sized (show tokensSize fields < n by omega))
  have hnamed : namedFieldsRule (Grammar.level n) (.group .brace fields :: rest)
      = some ((entries, trailing), rest) := by
    refine (bind_of_eq_some (a := fields) rfl).trans ?_
    have hall :
        parseAll? (terminated (namedFieldAt (Grammar.level n) (tokensSize fields + 1))) fields
        = some (entries, trailing) := by
      unfold parseAll?
      rw [hentries]
    rw [hall]
    rfl
  have hstruct : structRule (Grammar.level n) (word name :: .group .brace fields :: rest)
      = some (.struct name (.mk [] false [] false) .named entries trailing, rest) := by
    refine (bind_of_eq_some (identifier_of_not_keyword hname)).trans ?_
    refine (bind_of_eq_some (a := ([], false)) (otherwise rfl)).trans
      ((bind_of_eq_some rfl).trans ?_)
    refine (bind_of_eq_some (conditionsRule_of_not rfl)).trans ((otherwise_and rfl).trans ?_)
    exact (chosen rfl).trans ((bind_of_eq_some hnamed).trans rfl)
  have hitem : visibleItemRule (Grammar.level n) visibility
        (word "struct" :: word name :: .group .brace fields :: rest)
      = some (some (.struct name (.mk [] false [] false) .named entries trailing), rest) := by
    refine (otherwise rfl).trans
      ((otherwise ?_).trans ((otherwise rfl).trans ((otherwise rfl).trans ?_)))
    · rfl
    refine (otherwise rfl).trans
      ((otherwise rfl).trans ((otherwise ?_).trans ((otherwise ?_).trans ?_)))
    · rfl
    · rfl
    refine (otherwise rfl).trans
      ((chosen ?_).trans ((bind_of_eq_some ((chosen_keyword "struct" _).trans hstruct)).trans rfl))
    · rfl
  refine ⟨entries, trailing, ?_⟩
  exact markedRule_of (outerAttributesRule_documentation line (hnumber _)) (hvisible _) hitem

/-! ### Imports -/

/-- Whether a name may stand in front of others in an import. -/
def isModuleWord (name : String) : Bool :=
  !isKeyword name || ["self", "super", "crate", "try"].contains name

/-- Tokens that spell the tree of an import of everything below the given names. -/
inductive SpellsModule : List String → Tokens → Prop
  | glob (joint : Bool) : SpellsModule [] [.leaf (.punct '*' joint)]
  | cons {s : String} {names : List String} {more : Tokens} (hs : isModuleWord s = true)
    (joint : Bool)
      (h : SpellsModule names more) :
      SpellsModule (s :: names)
        (word s :: .leaf (.punct ':' true) :: .leaf (.punct ':' joint) :: more)

theorem useTreeRule_of_spellsModule {names : List String} {tokens : Tokens}
    (h : SpellsModule names tokens) {n : Nat} {leading : Bool} (joint : Bool) (rest : Tokens)
    (hsize : tokensSize tokens < n) :
    (Grammar.level n).useTree leading (tokens ++ .leaf (.punct ';' joint) :: rest)
      = some (some (names.foldr UseTree.path .glob), .leaf (.punct ';' joint) :: rest) := by
  induction h generalizing n leading with
  | glob joint' =>
    obtain ⟨n, rfl⟩ : ∃ k, n = k + 1 := ⟨n - 1, by omega⟩
    have hname : (atIdentifier (.leaf (.punct '*' joint') :: .leaf (.punct ';' joint) :: rest)
        || atOneOf ["self", "super", "crate", "try"]
            (.leaf (.punct '*' joint') :: .leaf (.punct ';' joint) :: rest))
          = false := rfl
    refine (otherwise ?_).trans ((chosen_punct rfl).trans rfl)
    exact hname
  | @cons s names more hs joint' h ih =>
    simp only [tokensSize, TokenTree.size, word] at hsize
    obtain ⟨n, rfl⟩ : ∃ k, n = k + 1 := ⟨n - 1, by omega⟩
    have hname : (atIdentifier (word s :: .leaf (.punct ':' true) :: .leaf (.punct ':' joint')
        :: (more ++ .leaf (.punct ';' joint) :: rest))
          || atOneOf ["self", "super", "crate", "try"] (word s
          :: .leaf (.punct ':' true) :: .leaf (.punct ':' joint')
            :: (more ++ .leaf (.punct ';' joint) :: rest))) = true := hs
    refine (chosen ?_).trans ((bind_of_eq_some rfl).trans ((chosen_punct rfl).trans ?_))
    · exact hname
    · exact (bind_of_eq_some (ih (show tokensSize more < n by omega))).trans rfl

/-- The double colon in front of a path that starts at the root. -/
def leadTokens (leading joint : Bool) : Tokens :=
  if leading then [.leaf (.punct ':' true), .leaf (.punct ':' joint)] else []

/-- The attribute in front of an import that need not be used. -/
def allowTokens (joint : Bool) : Tokens :=
  [.leaf (.punct '#' joint), .group .bracket [word "allow", .group .paren [word "unused_imports"]]]

theorem outerAttributesRule_allow {g : Grammar} (joint : Bool) (rest : Tokens) :
    outerAttributesRule g (allowTokens joint ++ word "use" :: rest)
      = some ([.list ⟨false, ["allow"]⟩ (.group .paren [word "unused_imports"])],
        word "use" :: rest) := by
  have hattribute : outerAttributeRule g (allowTokens joint ++ word "use" :: rest)
      = some (.list ⟨false, ["allow"]⟩ (.group .paren [word "unused_imports"]),
        word "use" :: rest) := by
    cases joint <;> rfl
  refine (chosen rfl).trans ((bind_of_eq_some hattribute).trans ?_)
  exact (bind_of_eq_some (otherwise rfl)).trans rfl

theorem visibilityRule_use (rest : Tokens) :
    visibilityRule (word "use" :: rest) = some (.inherited, word "use" :: rest) :=
  rfl

/-- What starts with the keyword of an import is read as one. -/
theorem visibleItemRule_use (g : Grammar) (visibility : ItemVisibility) (rest : Tokens) :
    visibleItemRule g visibility (word "use" :: rest) = useRule g (word "use" :: rest) := by
  refine (otherwise rfl).trans ((otherwise ?_).trans ((otherwise rfl).trans (chosen rfl)))
  rfl

/-- **An import of everything in a module.** -/
theorem item_import {n : Nat} {names : List String} {tokens : Tokens}
    (h : SpellsModule names tokens) (leading joint joint' lead : Bool)
    (hsize : tokensSize tokens + 2 < n) (rest : Tokens) :
    (Grammar.level n).item (allowTokens joint ++ word "use" :: (leadTokens leading lead ++ (tokens
        ++ .leaf (.punct ';' joint') :: rest)))
      = some (.marked [.list ⟨false, ["allow"]⟩ (.group .paren [word "unused_imports"])] .inherited
          (.use leading (names.foldr UseTree.path .glob)), rest) := by
  obtain ⟨n, rfl⟩ : ∃ k, n = k + 1 := ⟨n - 1, by omega⟩
  have htree : ∀ rooted,
        (Grammar.level n).useTree rooted (tokens ++ .leaf (.punct ';' joint') :: rest)
      = some (some (names.foldr UseTree.path .glob), .leaf (.punct ';' joint') :: rest) :=
    fun _ => useTreeRule_of_spellsModule h joint' rest (by omega)
  have hlead : punct? "::"
        (leadTokens leading lead ++ (tokens ++ .leaf (.punct ';' joint') :: rest))
      = some (leading, tokens ++ .leaf (.punct ';' joint') :: rest) := by
    cases leading with
    | true => exact punct?_of_at rfl
    | false =>
      refine punct?_of_not ?_
      cases h with
      | glob joint => cases joint <;> rfl
      | cons => rfl
  have huse : useRule (Grammar.level n)
        (word "use" :: (leadTokens leading lead ++ (tokens ++ .leaf (.punct ';' joint') :: rest)))
      = some (some (.use leading (names.foldr UseTree.path .glob)), rest) := by
    refine (bind_of_eq_some (keyword_of_word "use" _)).trans ((bind_of_eq_some hlead).trans ?_)
    exact (bind_of_eq_some (htree _)).trans ((bind_of_eq_some (punct_of_at rfl)).trans rfl)
  refine markedRule_of (outerAttributesRule_allow joint _) (visibilityRule_use _) ?_
  rw [visibleItemRule_use]
  exact huse

/-! ### Files -/

/-- The reading of items, one behind the other, behind no attributes of the file. -/
theorem readTokens?_sourceFile_iff {trees : Tokens} {items : List Item}
    (hinner : (atPunct "#" trees && atPunct "!" (trees.drop 1)) = false) :
    readTokens? sourceFileRule trees = some items
      ↔ repeatWhile (fun s => !s.isEmpty) (Grammar.level (depthOf trees)).item trees
        = some (items, []) := by
  have hrule : sourceFileRule (Grammar.level (depthOf trees)) trees
      = repeatWhile (fun s => !s.isEmpty) (Grammar.level (depthOf trees)).item trees :=
    bind_of_eq_some (repeatWhile_of_not hinner)
  unfold readTokens?
  rw [parseAll?_eq_some_iff, hrule]

end FluentBuilder.Code
