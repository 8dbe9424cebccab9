import FluentBuilder.Proofs.Code.RuleSteps

/-!
# Lists of phrases

Most lists in source text have a comma between two phrases, and perhaps one behind the last.  The
rules for lists read such a list if they read each phrase in front of a comma and in front of what
ends the list.

* `CommaList`, `CommaTrees` — phrases with commas between them;
* `listUntil_of_commaList`, `terminated_of_commaTrees` — what the rules for lists read;
* `terminated_iff` — which lists are read with entries of one kind.
-/

namespace FluentBuilder.Code

variable {α : Type} {P Q : Tokens → Prop} {trees rest : Tokens}

/-! ### Sizes -/

theorem tokensSize_append (a b : Tokens) : tokensSize (a ++ b) = tokensSize a + tokensSize b := by
  induction a with
  | nil => exact (Nat.zero_add _).symm
  | cons tree rest ih =>
    rw [List.cons_append, tokensSize, tokensSize, ih, Nat.add_assoc]

/-! ### Commas -/

/-- A comma. -/
def IsComma (trees : Tokens) : Prop :=
  ∃ joint, trees = [.leaf (.punct ',' joint)]

/-- A comma, or nothing. -/
def IsOptionalComma (trees : Tokens) : Prop :=
  trees = [] ∨ IsComma trees

/-- Trees with commas between them, and perhaps one behind the last. -/
inductive CommaList (P : Tokens → Prop) : Tokens → Prop
  | last {trees comma : Tokens} (h : P trees) (hcomma : IsOptionalComma comma) : CommaList P
    (trees ++ comma)
  | cons {trees comma more : Tokens} (h : P trees) (hcomma : IsComma comma)
    (hmore : CommaList P more) :
      CommaList P (trees ++ comma ++ more)

/-- Nothing, or trees with commas between them. -/
def CommaTrees (P : Tokens → Prop) (trees : Tokens) : Prop :=
  trees = [] ∨ CommaList P trees

theorem CommaList.mono (h : CommaList P trees) (hPQ : ∀ trees, P trees → Q trees) :
    CommaList Q trees := by
  induction h with
  | last h hcomma => exact .last (hPQ _ h) hcomma
  | cons h hcomma _ ih => exact .cons (hPQ _ h) hcomma ih

/-- No phrase of a list is larger than the list. -/
theorem CommaList.sized {bound : Nat} (h : CommaList P trees) (hsize : tokensSize trees < bound) :
    CommaList (fun ts => P ts ∧ tokensSize ts < bound) trees := by
  induction h with
  | last h hcomma =>
    rw [tokensSize_append] at hsize
    exact .last ⟨h, by omega⟩ hcomma
  | cons h hcomma _ ih =>
    rw [tokensSize_append, tokensSize_append] at hsize
    exact .cons ⟨h, by omega⟩ hcomma (ih (by omega))

/-! ### Reading lists -/

/-- Whether a parser reads every phrase of a kind as an entry of a list, with a result that has a
property: the phrase does not look like the end of the list, and it is read in front of a comma or
the end. -/
def ReadsEntriesAs (Q : α → Prop) (stop : Tokens → Bool) (p : Parser α) (P : Tokens → Prop) :
    Prop :=
  ∀ entry, P entry → ∀ rest,
    (stop rest = true ∨ ∃ joint behind, rest = .leaf (.punct ',' joint) :: behind) →
    stop (entry ++ rest) = false ∧ ∃ a, p (entry ++ rest) = some (a, rest) ∧ Q a

/-- Whether a parser reads every phrase of a kind as an entry of a list. -/
def ReadsEntries (stop : Tokens → Bool) (p : Parser α) (P : Tokens → Prop) : Prop :=
  ∀ entry, P entry → ∀ rest,
    (stop rest = true ∨ ∃ joint behind, rest = .leaf (.punct ',' joint) :: behind) →
    stop (entry ++ rest) = false ∧ ∃ a, p (entry ++ rest) = some (a, rest)

theorem ReadsEntries.anyway {stop : Tokens → Bool} {p : Parser α} (h : ReadsEntries stop p P) :
    ReadsEntriesAs (fun _ => True) stop p P := by
  intro entry hentry rest hrest
  obtain ⟨hstop, a, ha⟩ := h entry hentry rest hrest
  exact ⟨hstop, a, ha, trivial⟩

theorem punct_comma (joint : Bool) (rest : Tokens) :
    punct "," (.leaf (.punct ',' joint) :: rest) = some ((), rest) :=
  punct_of_at rfl

/-- **A list up to a stop** is read in full, and each of its entries has the property. -/
theorem untilAt_of_commaList {S : α → Prop} {stop : Tokens → Bool} {p : Parser α}
    (hentries : ReadsEntriesAs S stop p P)
    (hcomma : ∀ joint behind, stop (.leaf (.punct ',' joint) :: behind) = false)
    (h : CommaList P trees) (hrest : stop rest = true) {fuel : Nat} (hfuel : trees.length < fuel) :
    ∃ entries, untilAt stop "," p fuel (trees ++ rest) = some (entries, rest) ∧ ∀ a ∈ entries.1,
      S a := by
  have hstop : ∀ fuel, untilAt stop "," p (fuel + 1) rest = some (([], true), rest) :=
    fun fuel => chosen hrest
  induction h generalizing fuel with
  | @last entry comma h hoptional =>
    obtain ⟨fuel, rfl⟩ : ∃ n, fuel = n + 1 := ⟨fuel - 1, by omega⟩
    unfold untilAt
    rcases hoptional with rfl | ⟨joint, rfl⟩
    · rw [List.append_nil]
      obtain ⟨hentry, a, ha, hsa⟩ := hentries entry h rest (.inl hrest)
      refine ⟨([a], false), ?_, List.forall_mem_singleton.2 hsa⟩
      exact (otherwise hentry).trans ((bind_of_eq_some ha).trans ((chosen hrest).trans rfl))
    · have hne : 0 < entry.length := by
        rcases entry with - | ⟨first, entry⟩
        · have hempty := (hentries [] h rest (.inl hrest)).1
          rw [List.nil_append, hrest] at hempty
          cases hempty
        · exact Nat.zero_lt_succ _
      obtain ⟨hentry, a, ha, hsa⟩ :=
        hentries entry h (.leaf (.punct ',' joint) :: rest) (.inr ⟨joint, rest, rfl⟩)
      rw [List.length_append, List.length_singleton] at hfuel
      obtain ⟨fuel, rfl⟩ : ∃ n, fuel = n + 1 := ⟨fuel - 1, by omega⟩
      refine ⟨([a], true), ?_, List.forall_mem_singleton.2 hsa⟩
      rw [List.append_assoc]
      refine (otherwise hentry).trans
        ((bind_of_eq_some ha).trans ((otherwise (hcomma joint rest)).trans ?_))
      exact (bind_of_eq_some (punct_comma joint rest)).trans (bind_of_eq_some (hstop fuel))
  | @cons entry comma more h hcomma' _ ih =>
    obtain ⟨joint, rfl⟩ := hcomma'
    obtain ⟨fuel, rfl⟩ : ∃ n, fuel = n + 1 := ⟨fuel - 1, by omega⟩
    obtain ⟨hentry, a, ha, hsa⟩ := hentries entry h (.leaf (.punct ',' joint) :: (more ++ rest))
      (.inr ⟨joint, _, rfl⟩)
    simp only [List.length_append, List.length_singleton] at hfuel
    obtain ⟨⟨others, trailing⟩, hothers, hsothers⟩ := ih (show more.length < fuel by omega)
    refine ⟨(a :: others, trailing), ?_, List.forall_mem_cons.2 ⟨hsa, hsothers⟩⟩
    unfold untilAt
    rw [List.append_assoc, List.append_assoc]
    refine (otherwise hentry).trans
      ((bind_of_eq_some ha).trans ((otherwise (hcomma joint _)).trans ?_))
    exact (bind_of_eq_some (punct_comma joint _)).trans (bind_of_eq_some hothers)

theorem listUntil_of_commaList {stop : Tokens → Bool} {p : Parser α}
    (hentries : ReadsEntries stop p P)
    (hcomma : ∀ joint behind, stop (.leaf (.punct ',' joint) :: behind) = false)
    (h : CommaList P trees) (hrest : stop rest = true) :
    ∃ entries, listUntil stop "," p (trees ++ rest) = some (entries, rest) := by
  have hfuel : trees.length < (trees ++ rest).length + 1 := by
    rw [List.length_append]
    omega
  obtain ⟨entries, hlist, -⟩ := untilAt_of_commaList hentries.anyway hcomma h hrest hfuel
  exact ⟨entries, hlist⟩

theorem terminated_as_of_commaTrees {S : α → Prop} {p : Parser α}
    (hentries : ReadsEntriesAs S List.isEmpty p P) (h : CommaTrees P trees) :
    ∃ entries, terminated p trees = some (entries, []) ∧ ∀ a ∈ entries.1,
      S a := by
  rcases h with rfl | h
  · exact ⟨([], true), chosen rfl, nofun⟩
  · obtain ⟨entries, hlist, hall⟩ := untilAt_of_commaList hentries (fun _ _ => rfl) h
      (show List.isEmpty [] = true from rfl) (Nat.lt_succ_self _)
    rw [List.append_nil] at hlist
    exact ⟨entries, hlist, hall⟩

/-- **A list that fills its group** is read in full. -/
theorem terminated_of_commaTrees {p : Parser α} (hentries : ReadsEntries List.isEmpty p P)
    (h : CommaTrees P trees) :
    ∃ entries, terminated p trees = some (entries, []) := by
  obtain ⟨entries, hlist, -⟩ := terminated_as_of_commaTrees hentries.anyway h
  exact ⟨entries, hlist⟩

/-! ### What was read -/

/-- An operator of one character that was read. -/
theorem exists_of_punct {c : Char} {operator : String} (hoperator : operator.toList = [c])
    {input : Tokens} (h : punct operator input = some ((), rest)) :
    ∃ joint, input = .leaf (.punct c joint) :: rest := by
  obtain ⟨⟨⟩, mid, hat, hrest⟩ := bind_eq_some_iff.1 h
  unfold expect at hat
  rw [Option.ite_none_right_eq_some] at hat
  obtain ⟨hat, hmid⟩ := hat
  cases hmid
  unfold atPunct at hat
  rw [hoperator] at hat
  have hlength : operator.length = 1 := congrArg List.length hoperator
  rcases input with - | ⟨(⟨name⟩ | ⟨d, joint⟩ | ⟨text⟩ | ⟨name⟩) | ⟨delimiter, inner⟩, behind⟩
  · cases hat
  · cases hat
  · unfold advance at hrest
    rw [hlength] at hrest
    cases hrest
    exact ⟨joint, by rw [eq_of_beq hat]; rfl⟩
  · cases hat
  · cases hat
  · cases hat

/-- Trees that are read as a list, with entries that have a property, are phrases with commas
between them, if an entry with the property is read off such a phrase. -/
theorem commaTrees_of_untilAt {S : α → Prop} {p : Parser α}
    (hentry : ∀ input rest a, p input = some (a, rest) → S a → ∃ entry,
      P entry ∧ input = entry ++ rest)
    {fuel : Nat} {entries : List α × Bool}
    (h : untilAt List.isEmpty "," p fuel trees = some (entries, rest))
    (hall : ∀ a ∈ entries.1, S a) : rest = [] ∧ CommaTrees P trees := by
  induction fuel generalizing trees entries with
  | zero => cases h
  | succ fuel ih =>
    unfold untilAt at h
    cases hstop : trees.isEmpty with
    | true =>
      cases (chosen hstop).symm.trans h
      obtain rfl := List.isEmpty_iff.1 hstop
      exact ⟨rfl, .inl rfl⟩
    | false =>
      obtain ⟨a, mid, ha, h⟩ := bind_eq_some_iff.1 ((otherwise hstop).symm.trans h)
      cases hend : mid.isEmpty with
      | true =>
        cases (chosen hend).symm.trans h
        obtain rfl := List.isEmpty_iff.1 hend
        obtain ⟨entry, hP, rfl⟩ := hentry _ _ a ha (hall a List.mem_cons_self)
        exact ⟨rfl, .inr (.last hP (.inl rfl))⟩
      | false =>
        obtain ⟨⟨⟩, behind, hcomma, h⟩ := bind_eq_some_iff.1 ((otherwise hend).symm.trans h)
        obtain ⟨⟨others, trailing⟩, left, hothers, h⟩ := bind_eq_some_iff.1 h
        cases h
        obtain ⟨ha', hothers'⟩ := List.forall_mem_cons.1 hall
        obtain ⟨entry, hP, rfl⟩ := hentry _ _ a ha ha'
        obtain ⟨joint, rfl⟩ := exists_of_punct rfl hcomma
        obtain ⟨rfl, hmore⟩ := ih hothers hothers'
        rcases hmore with rfl | hmore
        · exact ⟨rfl, .inr (.last hP (.inr ⟨joint, rfl⟩))⟩
        · refine ⟨rfl, .inr ?_⟩
          rw [← List.singleton_append, ← List.append_assoc]
          exact .cons hP ⟨joint, rfl⟩ hmore

/-- **Which lists fill their group** with entries that have a property, if exactly the phrases of a
kind are read as such entries. -/
theorem terminated_iff {S : α → Prop} {p : Parser α} (hreads : ReadsEntriesAs S List.isEmpty p P)
    (hentry : ∀ input rest a, p input = some (a, rest) → S a → ∃ entry,
      P entry ∧ input = entry ++ rest) :
    (∃ entries, terminated p trees = some (entries, []) ∧ ∀ a ∈ entries.1, S a)
      ↔ CommaTrees P trees := by
  constructor
  · rintro ⟨entries, hlist, hall⟩
    exact (commaTrees_of_untilAt hentry hlist hall).2
  · exact terminated_as_of_commaTrees hreads

end FluentBuilder.Code
