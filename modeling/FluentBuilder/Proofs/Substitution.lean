import FluentBuilder.Proofs.References

/-!
# Substituting variables

The references of a text are replaced one after the other, each wherever it stands in what the ones
before have made of the text.  Replacing them at once is a different thing when a reference comes
out of the value of another one.

* `simultaneous` — the text with all references replaced at once.
* `replaceAll_filled`, `replaceEach_eq_of_dollars` — one replacement, and all of them, when dollar
  signs stand at the head of references only.
* `exists_replaceEach_ne` — two references and a value that holds the second one over and over: the
  text grows beyond anything that one replacement for each reference can give.
* `substitute_spec` — when the two are the same.
-/

namespace FluentBuilder

variable {r : Reference} {text rest pattern filler : List Char} {pieces : List Piece}
  {env : Environment}

/-! ### Replacing a pattern -/

theorem replaceFrom_skip (pattern filler front rest : List Char) :
    replaceFrom pattern filler front.length (front ++ rest) = replaceAll pattern filler rest := by
  induction front with
  | nil => rfl
  | cons c front ih => exact ih

theorem replaceAll_append (hpattern : pattern ≠ []) (filler rest : List Char) :
    replaceAll pattern filler (pattern ++ rest) = filler ++ replaceAll pattern filler rest := by
  obtain ⟨c, more, rfl⟩ := List.exists_cons_of_ne_nil hpattern
  have hbegins : (c :: more).isPrefixOf (c :: (more ++ rest)) = true :=
    List.isPrefixOf_iff_prefix.2 (List.prefix_append (c :: more) rest)
  simp only [List.cons_append, replaceAll, replaceFrom, hbegins, if_true, List.length_cons,
    Nat.add_sub_cancel, replaceFrom_skip]

theorem replaceAll_cons {c : Char} (h : ¬ pattern <+: c :: rest) (filler : List Char) :
    replaceAll pattern filler (c :: rest) = c :: replaceAll pattern filler rest := by
  have hbegins : ¬ pattern.isPrefixOf (c :: rest) = true :=
    fun hp => h (List.isPrefixOf_iff_prefix.1 hp)
  simp only [replaceAll, replaceFrom, if_neg hbegins]

/-- A pattern that stands in a text is replaced somewhere. -/
theorem infix_replaceAll (hpattern : pattern ≠ []) (filler : List Char) (h : pattern <:+: text) :
    filler <:+: replaceAll pattern filler text := by
  induction text with
  | nil => exact absurd (List.infix_nil.1 h) hpattern
  | cons c rest ih =>
    by_cases hbegins : pattern <+: c :: rest
    · obtain ⟨behind, hsplit⟩ := hbegins
      rw [← hsplit, replaceAll_append hpattern]
      exact (List.prefix_append _ _).isInfix
    · rw [replaceAll_cons hbegins]
      rcases List.infix_cons_iff.1 h with hp | hrest
      · exact absurd hp hbegins
      · exact (ih hrest).trans (List.suffix_cons _ _).isInfix

theorem replaceAll_eq_self (filler : List Char) (h : ¬ pattern <:+: text) :
    replaceAll pattern filler text = text := by
  induction text with
  | nil => rfl
  | cons c rest ih =>
    rw [replaceAll_cons (fun hp => h hp.isInfix),
      ih (fun hrest => h (hrest.trans (List.suffix_cons _ _).isInfix))]

/-- What stands in a text also stands there after a replacement with it. -/
theorem filler_infix_replaceAll (hpattern : pattern ≠ []) (h : filler <:+: text) :
    filler <:+: replaceAll pattern filler text := by
  by_cases hin : pattern <:+: text
  · exact infix_replaceAll hpattern filler hin
  · rwa [replaceAll_eq_self filler hin]

/-! ### One after the other, and at once -/

/-- What a reference stands for, when nothing is missing. -/
def Reference.meaning (env : Environment) (r : Reference) : List Char :=
  match r.value env with
  | .ok v => v
  | .error _ => []

/-- A text in which references are replaced one after the other. -/
def replaceEach (env : Environment) (refs : List Reference) (text : List Char) : List Char :=
  refs.foldl (fun done r => replaceAll r.written (r.meaning env) done) text

/-- What a piece of a text stands for, or the name of the variable that is missing. -/
def Piece.value (env : Environment) : Piece → Except String (List Char)
  | .plain c => .ok [c]
  | .reference r => r.value env

/-- What a piece stands for, when nothing is missing. -/
def Piece.meaning (env : Environment) : Piece → List Char
  | .plain c => [c]
  | .reference r => r.meaning env

/-- How a piece is written. -/
def Piece.written : Piece → List Char
  | .plain c => [c]
  | .reference r => r.written

/-- A text in which all references are replaced at once, or the name of the first variable that is
missing. -/
def simultaneous (env : Environment) (pieces : List Piece) : Except String String := do
  return String.ofList (← pieces.mapM (Piece.value env)).flatten

/-- Without references, pieces stand for what they are written as. -/
theorem flatMap_meaning_of_plain (env : Environment) (h : referencesOf pieces = []) :
    pieces.flatMap (Piece.meaning env) = pieces.flatMap Piece.written := by
  refine List.flatMap_congr ?_
  intro p hp
  cases p with
  | plain c => rfl
  | reference r =>
    rw [← mem_referencesOf, h] at hp
    exact absurd hp List.not_mem_nil

theorem SplitInto.flatMap_written (h : SplitInto text pieces) :
    pieces.flatMap Piece.written = text := by
  induction h with
  | nil => rfl
  | reference _ _ ih => rw [List.flatMap_cons, ih, Piece.written]
  | plain _ _ ih => rw [List.flatMap_cons, ih, Piece.written, List.singleton_append]

theorem foldlM_replaceAll (env : Environment) (refs : List Reference) (text : List Char) :
    refs.foldlM (fun done r => do return replaceAll r.written (← r.value env) done) text
      = (refs.mapM (Reference.value env)).map fun _ => replaceEach env refs text := by
  induction refs generalizing text with
  | nil => rfl
  | cons r refs ih =>
    rw [List.foldlM_cons, List.mapM_cons]
    cases hr : r.value env with
    | error name => rfl
    | ok v =>
      have htext : r.meaning env = v := by rw [Reference.meaning, hr]
      have hstep := ih (replaceAll r.written v text)
      cases hrefs : refs.mapM (Reference.value env) with
      | error name =>
        rw [hrefs] at hstep
        exact hstep
      | ok vs =>
        rw [hrefs] at hstep
        refine hstep.trans ?_
        show Except.ok _ = Except.ok _
        rw [replaceEach, replaceEach, List.foldl_cons, htext]

theorem substitute_eq {text : String} (h : SplitInto text.toList pieces) (env : Environment) :
    substitute env text
      = ((referencesOf pieces).mapM (Reference.value env)).map fun _ =>
          String.ofList (replaceEach env (referencesOf pieces) text.toList) := by
  have hfold := foldlM_replaceAll env (referencesOf pieces) text.toList
  unfold substitute
  rw [references_of_splitInto h]
  refine (congrArg (· >>= fun result => pure (String.ofList result)) hfold).trans ?_
  cases (referencesOf pieces).mapM (Reference.value env) <;> rfl

theorem mapM_value (env : Environment) (pieces : List Piece) :
    pieces.mapM (Piece.value env)
      = ((referencesOf pieces).mapM (Reference.value env)).map fun _ =>
        pieces.map (Piece.meaning env) := by
  induction pieces with
  | nil => rfl
  | cons p pieces ih =>
    rw [List.mapM_cons, ih]
    cases p with
    | plain c =>
      rw [referencesOf]
      cases (referencesOf pieces).mapM (Reference.value env) <;> rfl
    | reference r =>
      rw [referencesOf, List.mapM_cons]
      cases hr : r.value env with
      | error name =>
        simp only [Piece.value, hr]
        rfl
      | ok v =>
        have htext : r.meaning env = v := by rw [Reference.meaning, hr]
        simp only [Piece.value, hr, List.map_cons, Piece.meaning, htext]
        cases (referencesOf pieces).mapM (Reference.value env) <;> rfl

theorem simultaneous_eq (env : Environment) (pieces : List Piece) :
    simultaneous env pieces
      = ((referencesOf pieces).mapM (Reference.value env)).map fun _ =>
          String.ofList (pieces.flatMap (Piece.meaning env)) := by
  unfold simultaneous
  rw [mapM_value, List.flatMap_def]
  cases (referencesOf pieces).mapM (Reference.value env) <;> rfl

/-! ### Dollar signs at the head of references only -/

/-- Pieces whose only dollar signs are those at the head of references. -/
structure HeadDollars (pieces : List Piece) : Prop where
  plain : ∀ c, Piece.plain c ∈ pieces → c ≠ '$'
  written : ∀ r, Piece.reference r ∈ pieces → r.IsWritten
  inside : ∀ r, Piece.reference r ∈ pieces → '$' ∉ r.written.tail

/-- A piece with a text put in for the references that are written like the pattern. -/
def Piece.filled (pattern filler : List Char) : Piece → List Piece
  | .plain c => [.plain c]
  | .reference r => if r.written = pattern then filler.map .plain else [.reference r]

theorem flatMap_written_plain (filler : List Char) :
    (filler.map Piece.plain).flatMap Piece.written = filler := by
  induction filler with
  | nil => rfl
  | cons c filler ih =>
    rw [List.map_cons, List.flatMap_cons, ih, Piece.written, List.singleton_append]

/-- Characters without dollar signs are passed over. -/
theorem replaceAll_of_no_dollar {more front : List Char} (h : '$' ∉ front)
    (filler rest : List Char) :
    replaceAll ('$' :: more) filler (front ++ rest)
      = front ++ replaceAll ('$' :: more) filler rest := by
  induction front with
  | nil => rfl
  | cons c front ih =>
    rw [List.mem_cons, not_or] at h
    rw [List.cons_append, replaceAll_cons (fun hp => h.1 (List.cons_prefix_cons.1 hp).1), ih h.2,
      List.cons_append]

/-- One replacement fills in the value for the references that are written like the pattern. -/
theorem replaceAll_filled (hr : r.IsWritten) (filler : List Char) (h : HeadDollars pieces) :
    replaceAll r.written filler (pieces.flatMap Piece.written)
      = (pieces.flatMap (Piece.filled r.written filler)).flatMap Piece.written := by
  obtain ⟨more, hmore⟩ := hr.exists_dollar
  induction pieces with
  | nil => rfl
  | cons p pieces ih =>
    have hrest : HeadDollars pieces :=
      ⟨fun c hc => h.plain c (List.mem_cons_of_mem _ hc),
        fun r' hr' => h.written r' (List.mem_cons_of_mem _ hr'),
        fun r' hr' => h.inside r' (List.mem_cons_of_mem _ hr')⟩
    rw [List.flatMap_cons, List.flatMap_cons, List.flatMap_append, ← ih hrest]
    cases p with
    | plain c =>
      have hc : '$' ∉ [c] := by simpa using (h.plain c List.mem_cons_self).symm
      rw [hmore]
      exact replaceAll_of_no_dollar hc filler _
    | reference r' =>
      have hr' := h.written r' List.mem_cons_self
      by_cases heq : r'.written = r.written
      · rw [Piece.written, heq, replaceAll_append hr.ne_nil, Piece.filled, if_pos heq,
          flatMap_written_plain]
      · -- the other reference begins where no occurrence of the pattern does, and its tail has no
        -- dollar sign
        obtain ⟨more', hmore'⟩ := hr'.exists_dollar
        have hinside : '$' ∉ more' := by
          have := h.inside r' List.mem_cons_self
          rwa [hmore'] at this
        have hhead : ¬ r.written <+: '$' :: (more' ++ pieces.flatMap Piece.written) := by
          rw [← List.cons_append, ← hmore']
          intro hp
          rw [hr'.eq_of_prefix hr hp] at heq
          exact heq rfl
        rw [Piece.filled, if_neg heq, List.flatMap_singleton, Piece.written, hmore',
          List.cons_append, replaceAll_cons hhead, hmore, replaceAll_of_no_dollar hinside]
        rfl

theorem HeadDollars.filled (h : HeadDollars pieces) (hvalue : '$' ∉ filler) :
    HeadDollars (pieces.flatMap (Piece.filled pattern filler)) := by
  have hmem : ∀ p, p ∈ pieces.flatMap (Piece.filled pattern filler) → p ∈ pieces ∨ ∃ c ∈ filler,
      p = .plain c := by
    intro p hp
    obtain ⟨q, hq, hpq⟩ := List.mem_flatMap.1 hp
    cases q with
    | plain c =>
      obtain rfl := List.mem_singleton.1 hpq
      exact .inl hq
    | reference r' =>
      rw [Piece.filled] at hpq
      split at hpq
      · obtain ⟨c, hc, rfl⟩ := List.mem_map.1 hpq
        exact .inr ⟨c, hc, rfl⟩
      · obtain rfl := List.mem_singleton.1 hpq
        exact .inl hq
  refine ⟨?_, ?_, ?_⟩
  · intro c hc
    rcases hmem _ hc with hold | ⟨d, hd, heq⟩
    · exact h.plain c hold
    · cases heq
      rintro rfl
      exact hvalue hd
  · intro r' hr'
    rcases hmem _ hr' with hold | ⟨d, -, heq⟩
    · exact h.written r' hold
    · cases heq
  · intro r' hr'
    rcases hmem _ hr' with hold | ⟨d, -, heq⟩
    · exact h.inside r' hold
    · cases heq

/-- Filling in what a reference stands for does not change what the pieces stand for. -/
theorem flatMap_text_filled (h : HeadDollars pieces) (hr : r.IsWritten) :
    (pieces.flatMap (Piece.filled r.written (r.meaning env))).flatMap (Piece.meaning env)
      = pieces.flatMap (Piece.meaning env) := by
  rw [List.flatMap_assoc]
  refine List.flatMap_congr ?_
  intro p hp
  cases p with
  | plain c => rw [Piece.filled, List.flatMap_singleton]
  | reference r' =>
    rw [Piece.filled]
    split
    · next heq =>
      obtain rfl : r' = r :=
        hr.eq_of_prefix (h.written r' hp) (by rw [heq]; exact List.prefix_append _ [])
      rw [Piece.meaning]
      induction r'.meaning env with
      | nil => rfl
      | cons c v ih =>
        rw [List.map_cons, List.flatMap_cons, ih, Piece.meaning, List.singleton_append]
    · rw [List.flatMap_singleton]

/-- Replacing references one after the other is replacing them at once, when dollar signs stand at
the head of references only and no value has one. -/
theorem replaceEach_eq_of_dollars (refs : List Reference) (hwritten : ∀ r ∈ refs, r.IsWritten)
    (hvalues : ∀ r ∈ refs, '$' ∉ r.meaning env) (h : HeadDollars pieces)
    (hrefs : ∀ r, Piece.reference r ∈ pieces → r ∈ refs) :
    replaceEach env refs (pieces.flatMap Piece.written) = pieces.flatMap (Piece.meaning env) := by
  induction refs generalizing pieces with
  | nil =>
    refine (flatMap_meaning_of_plain env ?_).symm
    exact List.eq_nil_iff_forall_not_mem.2 fun r hr => List.not_mem_nil
      (hrefs r (mem_referencesOf.1 hr))
  | cons r refs ih =>
    obtain ⟨hr, hwritten⟩ := List.forall_mem_cons.1 hwritten
    obtain ⟨hvalue, hvalues⟩ := List.forall_mem_cons.1 hvalues
    have hleft : ∀ r', Piece.reference r' ∈ pieces.flatMap
        (Piece.filled r.written (r.meaning env)) → r' ∈ refs := by
      intro r' hr'
      obtain ⟨q, hq, hmem⟩ := List.mem_flatMap.1 hr'
      cases q with
      | plain c => simp [Piece.filled] at hmem
      | reference q =>
        rw [Piece.filled] at hmem
        split at hmem
        · simp at hmem
        · next hne =>
          obtain ⟨rfl⟩ := List.mem_singleton.1 hmem
          rcases List.mem_cons.1 (hrefs r' hq) with rfl | hin
          · exact absurd rfl hne
          · exact hin
    show replaceEach env refs (replaceAll r.written (r.meaning env) (pieces.flatMap Piece.written))
      = _
    rw [replaceAll_filled hr _ h, ih hwritten hvalues (h.filled hvalue) hleft,
      flatMap_text_filled h hr]

/-! ### One reference -/

/-- A reference is replaced where it is a piece, and nowhere else, if no other one is. -/
theorem replaceAll_of_one (h : SplitInto text pieces) (hr : r.IsWritten)
    (hone : ∀ r' ∈ referencesOf pieces, r' = r) :
    replaceAll r.written (r.meaning env) text = pieces.flatMap (Piece.meaning env) := by
  induction h with
  | nil => rfl
  | reference _ _ ih =>
    obtain ⟨rfl, hone⟩ := List.forall_mem_cons.1 hone
    rw [replaceAll_append hr.ne_nil, ih hone, List.flatMap_cons, Piece.meaning]
  | plain hnone _ ih =>
    rw [replaceAll_cons (hnone r hr), ih hone, List.flatMap_cons, Piece.meaning,
      List.singleton_append]

theorem replaceEach_of_length_le_one (h : SplitInto text pieces)
    (hlength : (referencesOf pieces).length ≤ 1) :
    replaceEach env (referencesOf pieces) text = pieces.flatMap (Piece.meaning env) := by
  match hrefs : referencesOf pieces, hlength with
  | [], _ => rw [flatMap_meaning_of_plain env hrefs, h.flatMap_written, replaceEach, List.foldl_nil]
  | [r], _ =>
    exact replaceAll_of_one h (h.isWritten r (by rw [hrefs]; exact List.mem_singleton_self r))
      (by simp [hrefs])

/-! ### Two references -/

/-- A reference that begins before a closing brace ends with it or before. -/
theorem Reference.IsWritten.prefix_of_brace (hr : r.IsWritten) {front : List Char}
    (h : r.written <+: front ++ '\x7d' :: rest) : r.written <+: front ++ ['\x7d'] := by
  obtain ⟨inner, hinner, hfree⟩ := hr.exists_end
  have hbrace : front ++ ['\x7d'] <+: front ++ '\x7d' :: rest := ⟨rest, by simp⟩
  rcases List.prefix_or_prefix_of_prefix h hbrace with hp | hp
  · exact hp
  · rw [hinner] at hp ⊢
    rcases List.prefix_concat_iff.1 hp with heq | hin
    · rw [heq]
    · exact absurd (hin.subset (List.mem_append_right _ (List.mem_singleton_self _))) hfree

/-- What stands behind a closing brace is replaced by itself. -/
theorem replaceAll_brace (hr : r.IsWritten) (filler front rest : List Char) :
    replaceAll r.written filler (front ++ '\x7d' :: rest)
      = replaceAll r.written filler (front ++ ['\x7d']) ++ replaceAll r.written filler rest := by
  induction hlength : front.length using Nat.strong_induction_on generalizing front with
  | _ n ih =>
    have hwhole : front ++ '\x7d' :: rest = (front ++ ['\x7d']) ++ rest := by simp
    by_cases hbegins : r.written <+: front ++ ['\x7d']
    · obtain ⟨behind, hbehind⟩ := hbegins
      rcases List.eq_nil_or_concat' behind with rfl | ⟨front', c, rfl⟩
      · rw [hwhole, ← hbehind, List.append_assoc, List.nil_append, replaceAll_append hr.ne_nil,
          replaceAll_append hr.ne_nil, List.append_assoc]
        rfl
      · rw [← List.append_assoc] at hbehind
        obtain ⟨hfront, hc⟩ := List.append_inj' hbehind rfl
        obtain rfl : c = '\x7d' := by simpa using hc
        have hshorter : front'.length < n := by
          rw [← hlength, ← hfront, List.length_append]
          have := List.length_pos_iff.2 hr.ne_nil
          omega
        rw [← hfront, List.append_assoc, List.append_assoc, replaceAll_append hr.ne_nil,
          replaceAll_append hr.ne_nil, ih _ hshorter front' rfl, List.append_assoc]
    · have hlong : ¬ r.written <+: front ++ '\x7d' :: rest :=
        fun hp => hbegins (hr.prefix_of_brace hp)
      cases front with
      | nil =>
        rw [List.nil_append, List.nil_append] at *
        rw [replaceAll_cons hlong, replaceAll_cons hbegins]
        rfl
      | cons c front =>
        rw [List.cons_append] at hlong hbegins ⊢
        rw [List.cons_append, replaceAll_cons hlong, replaceAll_cons hbegins,
          ih front.length (by rw [← hlength]; simp) front rfl, List.cons_append]

/-- Every one of the references that stand side by side is replaced. -/
theorem length_le_replaceAll (hr : r.IsWritten) (filler : List Char) (count : Nat)
    (front rest : List Char) :
    count * filler.length
      ≤ (replaceAll r.written filler
        (front ++ ((List.replicate count r.written).flatten ++ rest))).length := by
  induction count generalizing front with
  | zero => simp
  | succ count ih =>
    obtain ⟨inner, hinner, -⟩ := hr.exists_end
    have hsplit : front ++ ((List.replicate (count + 1) r.written).flatten ++ rest)
        = (front ++ inner) ++ '\x7d' :: ((List.replicate count r.written).flatten ++ rest) := by
      rw [List.replicate_succ, List.flatten_cons, ← List.append_assoc, ← List.append_assoc]
      conv => lhs; enter [1, 1]; rw [hinner]
      simp
    have hfirst : filler <:+: replaceAll r.written filler (front ++ inner ++ ['\x7d']) := by
      refine infix_replaceAll hr.ne_nil filler ?_
      rw [List.append_assoc, ← hinner]
      exact (List.suffix_append _ _).isInfix
    have hothers := ih []
    rw [List.nil_append] at hothers
    rw [hsplit, replaceAll_brace hr, List.length_append, Nat.succ_mul, Nat.add_comm]
    exact Nat.add_le_add hfirst.length_le hothers

/-- The environment in which all references stand for one text. -/
def allSet (refs : List Reference) (filler : List Char) : Environment :=
  ⟨refs.map fun r => (String.ofList r.name, String.ofList filler)⟩

theorem value_allSet {refs : List Reference} (hr : r ∈ refs) (hname : '=' ∉ r.name)
    (filler : List Char) :
    r.value (allSet refs filler) = .ok filler := by
  have hlookup : (refs.map fun r => (String.ofList r.name, String.ofList filler)).lookup
        (String.ofList r.name)
      = some (String.ofList filler) := by
    induction refs with
    | nil => exact absurd hr List.not_mem_nil
    | cons r' refs ih =>
      rw [List.map_cons, List.lookup_cons]
      split
      · rfl
      · next hne =>
        rcases List.mem_cons.1 hr with rfl | hin
        · simp at hne
        · exact ih hin
  have hget : (allSet refs filler).get? (String.ofList r.name) = some (String.ofList filler) := by
    simp only [Environment.get?, String.toList_ofList, List.contains_iff_mem, hname, if_false,
      allSet, hlookup]
  simp only [Reference.value, hget, String.toList_ofList]

theorem filler_infix_replaceEach {refs : List Reference} (hwritten : ∀ r ∈ refs, r.IsWritten)
    (hmeaning : ∀ r ∈ refs, r.meaning env = filler) (h : filler <:+: text) :
    filler <:+: replaceEach env refs text := by
  induction refs generalizing text with
  | nil => exact h
  | cons r refs ih =>
    obtain ⟨hr, hwritten⟩ := List.forall_mem_cons.1 hwritten
    obtain ⟨hfiller, hmeaning⟩ := List.forall_mem_cons.1 hmeaning
    show filler <:+: replaceEach env refs (replaceAll r.written (r.meaning env) text)
    rw [hfiller]
    refine ih hwritten hmeaning ?_
    exact filler_infix_replaceAll hr.ne_nil h

/-- Replaced at once, every reference adds no more than what it stands for. -/
theorem length_flatMap_meaning (h : SplitInto text pieces)
    (hmeaning : ∀ r ∈ referencesOf pieces, r.meaning env = filler) :
    (pieces.flatMap (Piece.meaning env)).length
      ≤ text.length + (referencesOf pieces).length * filler.length := by
  induction h with
  | nil => simp
  | reference _ _ ih =>
    obtain ⟨hfiller, hmeaning⟩ := List.forall_mem_cons.1 hmeaning
    have := ih hmeaning
    simp only [List.flatMap_cons, List.length_append, Piece.meaning, hfiller, referencesOf,
      List.length_cons, Nat.succ_mul]
    omega
  | plain _ _ ih =>
    have := ih hmeaning
    simp only [List.flatMap_cons, List.length_append, Piece.meaning, List.length_cons,
      List.length_nil, referencesOf]
    omega

/-- **With two references** there are values for which replacing them one after the other gives
another text than replacing them at once. -/
theorem exists_replaceEach_ne (h : SplitInto text pieces)
    (hlength : 1 < (referencesOf pieces).length)
    (hnames : ∀ r ∈ referencesOf pieces, '=' ∉ r.name) :
    ∃ env, (∀ r ∈ referencesOf pieces, ∃ v, r.value env = .ok v)
      ∧ replaceEach env (referencesOf pieces) text ≠ pieces.flatMap (Piece.meaning env) := by
  obtain ⟨init, last, hrefs⟩ : ∃ init last, referencesOf pieces = init ++ [last] := by
    rcases List.eq_nil_or_concat' (referencesOf pieces) with hnil | hconcat
    · rw [hnil] at hlength
      simp at hlength
    · exact hconcat
  have hlast : last.IsWritten := h.isWritten last (by rw [hrefs]; simp)
  -- the last reference, written as often as the text and the references have characters and
  -- members, and once more
  let count := text.length + (referencesOf pieces).length + 1
  let filler := (List.replicate count last.written).flatten
  let env := allSet (referencesOf pieces) filler
  have hvalue : ∀ r ∈ referencesOf pieces, r.value env = .ok filler := by
    intro r hr
    exact value_allSet hr (hnames r hr) filler
  have hmeaning : ∀ r ∈ referencesOf pieces, r.meaning env = filler := by
    intro r hr
    rw [Reference.meaning, hvalue r hr]
  refine ⟨env, fun r hr => ⟨filler, hvalue r hr⟩, ?_⟩
  intro heq
  have hatonce := length_flatMap_meaning h hmeaning
  have hbefore : filler <:+: replaceEach env init text := by
    cases init with
    | nil => simp [hrefs] at hlength
    | cons first init =>
      have hfirst : first ∈ referencesOf pieces := by simp [hrefs]
      have hinit : ∀ r ∈ init, r ∈ referencesOf pieces := by
        intro r hr
        rw [hrefs]
        exact List.mem_append_left _ (List.mem_cons_of_mem _ hr)
      show filler <:+: replaceEach env init (replaceAll first.written (first.meaning env) text)
      rw [hmeaning first hfirst]
      refine filler_infix_replaceEach (fun r hr => h.isWritten r (hinit r hr))
        (fun r hr => hmeaning r (hinit r hr)) ?_
      exact infix_replaceAll (h.isWritten first hfirst).ne_nil filler (h.isInfix first hfirst)
  obtain ⟨front, rest, hsplit⟩ := hbefore
  have hone : count * filler.length ≤ (replaceEach env (referencesOf pieces) text).length := by
    have hstep : replaceEach env (referencesOf pieces) text
        = replaceAll last.written filler (front ++ (filler ++ rest)) := by
      rw [hrefs, replaceEach, List.foldl_append, List.foldl_cons, List.foldl_nil,
        ← List.append_assoc, hsplit, hmeaning last (by rw [hrefs]; simp)]
      rfl
    rw [hstep]
    exact length_le_replaceAll hlast filler count front rest
  have hpos : 0 < filler.length := by
    have : filler
        = last.written
        ++ (List.replicate (text.length + (referencesOf pieces).length) last.written).flatten := by
      simp only [filler, count, List.replicate_succ, List.flatten_cons]
    rw [this, List.length_append]
    have := List.length_pos_iff.2 hlast.ne_nil
    omega
  have htext : text.length ≤ text.length * filler.length := Nat.le_mul_of_pos_right _ hpos
  have hcount : count * filler.length
      = text.length * filler.length + (referencesOf pieces).length * filler.length
        + filler.length := by
    simp only [count, Nat.add_mul, Nat.one_mul]
  rw [heq] at hone
  omega

/-! ### Substitution -/

theorem mapM_value_ok {refs : List Reference} (h : ∀ r ∈ refs, ∃ v, r.value env = .ok v) :
    ∃ vs, refs.mapM (Reference.value env) = .ok vs := by
  induction refs with
  | nil => exact ⟨[], rfl⟩
  | cons r refs ih =>
    obtain ⟨⟨v, hv⟩, hothers⟩ := List.forall_mem_cons.1 h
    obtain ⟨vs, hvs⟩ := ih hothers
    exact ⟨v :: vs, by rw [List.mapM_cons, hv, hvs]; rfl⟩

theorem substitute_eq_error_iff {text : String} (h : SplitInto text.toList pieces)
    (env : Environment) (name : String) :
    substitute env text = .error name ↔ simultaneous env pieces = .error name := by
  rw [substitute_eq h, simultaneous_eq]
  cases (referencesOf pieces).mapM (Reference.value env) with
  | error missing => exact Iff.rfl
  | ok vs => simp [Except.map]

theorem substitute_eq_of_dollars {text : String} (h : SplitInto text.toList pieces)
    (hplain : ∀ c, Piece.plain c ∈ pieces → c ≠ '$')
    (hdollars : ∀ r, Piece.reference r ∈ pieces → '$' ∉ r.written.tail ∧ ∀ v, r.value env = .ok v →
      '$' ∉ v) :
    substitute env text = simultaneous env pieces := by
  have hheads : HeadDollars pieces :=
    ⟨hplain, fun r hr => h.isWritten r (mem_referencesOf.2 hr), fun r hr => (hdollars r hr).1⟩
  have hvalues : ∀ r ∈ referencesOf pieces, '$' ∉ r.meaning env := by
    intro r hr
    rw [Reference.meaning]
    split
    · next v hv => exact (hdollars r (mem_referencesOf.1 hr)).2 v hv
    · exact List.not_mem_nil
  have heach := replaceEach_eq_of_dollars (referencesOf pieces) h.isWritten hvalues hheads
    (fun r hr => mem_referencesOf.2 hr)
  rw [h.flatMap_written] at heach
  rw [substitute_eq h, simultaneous_eq, heach]

theorem forall_substitute_eq_iff {text : String} (h : SplitInto text.toList pieces)
    (hnames : ∀ r, Piece.reference r ∈ pieces → '=' ∉ r.name) :
    (∀ env, substitute env text = simultaneous env pieces) ↔ (referencesOf pieces).length ≤ 1 := by
  refine ⟨?_, ?_⟩
  · intro hall
    by_contra hlength
    obtain ⟨env, hset, hne⟩ :=
      exists_replaceEach_ne h (by omega) (fun r hr => hnames r (mem_referencesOf.1 hr))
    obtain ⟨vs, hvs⟩ := mapM_value_ok hset
    have heq := hall env
    rw [substitute_eq h, simultaneous_eq, hvs] at heq
    exact hne (String.ofList_injective (Except.ok.inj heq))
  · intro hlength env
    rw [substitute_eq h, simultaneous_eq, replaceEach_of_length_le_one h hlength]

/-- **When substituting variables is one simultaneous substitution.**  A text is taken apart in one
way into its leftmost references and the characters beside them.  The error is always that of the
first reference whose variable is missing and that has no default.  The result is that of replacing
all references at once when dollar signs stand at the head of references only and no reference
stands for a text with one; and it is so in every environment exactly for texts with no more than
one reference, if all references name variables that can be set. -/
theorem substitute_spec (text : String) :
    ∃ pieces, SplitInto text.toList pieces
      ∧ (∀ others, SplitInto text.toList others → others = pieces)
      ∧ (∀ env name, substitute env text = .error name ↔ simultaneous env pieces = .error name)
      ∧ (∀ env, (∀ c, Piece.plain c ∈ pieces → c ≠ '$') →
          (∀ r, Piece.reference r ∈ pieces →
            '$' ∉ r.written.tail ∧ ∀ v, r.value env = .ok v → '$' ∉ v) →
          substitute env text = simultaneous env pieces)
      ∧ ((∀ r, Piece.reference r ∈ pieces → '=' ∉ r.name) →
          ((∀ env, substitute env text = simultaneous env pieces)
            ↔ (referencesOf pieces).length ≤ 1)) := by
  obtain ⟨pieces, h⟩ := exists_splitInto text.toList
  exact ⟨pieces, h, fun others => h.unique, substitute_eq_error_iff h,
    fun env => substitute_eq_of_dollars h, forall_substitute_eq_iff h⟩

/-- A reference that comes out of the value of another one is replaced as well, if it also stands in
the text. -/
theorem substitute_reference_in_value :
    substitute ⟨[("A", "$\x7bB\x7d"), ("B", "x")]⟩ "$\x7bA\x7d$\x7bB\x7d" = .ok "xx"
      ∧ ∃ pieces, SplitInto "$\x7bA\x7d$\x7bB\x7d".toList pieces
          ∧ simultaneous ⟨[("A", "$\x7bB\x7d"), ("B", "x")]⟩ pieces = .ok "$\x7bB\x7dx" := by
  have hA : (⟨"$\x7bA\x7d".toList, ['A'], none⟩ : Reference).IsWritten :=
    ⟨by simp, by simp, by simp, rfl⟩
  have hB : (⟨"$\x7bB\x7d".toList, ['B'], none⟩ : Reference).IsWritten :=
    ⟨by simp, by simp, by simp, rfl⟩
  exact ⟨by decide +kernel, _, .reference hA (.reference hB .nil), by decide +kernel⟩

end FluentBuilder
