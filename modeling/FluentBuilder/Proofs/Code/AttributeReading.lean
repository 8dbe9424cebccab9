import FluentBuilder.Proofs.Code.LiteralReading

/-!
# Reading the arguments of attributes

The arguments of an attribute are a list of entries.  An entry may be of many forms, since any
expression can be assigned in it.  This file says of two forms exactly which tokens are read as an
entry of that form: a word by itself, and a word that a string is assigned to.

* `AssignsString` — the tokens of an entry that assigns a string;
* `metaRule_word`, `metaRule_string` — such tokens are read as an entry;
* `exists_of_metaRule`, `EntryForm` — the forms of an entry that was read;
* `ReadOff`, `readList?_iff` — which arguments are read as a list of entries of a kind.
-/

namespace FluentBuilder.Code

variable {input rest : Tokens} {text name : String}

/-! ### Entries -/

/-- The tokens of an entry that assigns a string to a word. -/
def AssignsString (name value : String) (entry : Tokens) : Prop :=
  ∃ joint text, entry = [word name, .leaf (.punct '=' joint), .leaf (.literal text)]
    ∧ stringValue? text = some value

/-- A word by itself is read as an entry where nothing continues it. -/
theorem metaRule_word {g : Grammar} (hname : isKeyword name = false)
    (hrest : endsExpr true rest = true) :
    metaRule g (word name :: rest) = some (.bare ⟨false, [name]⟩, rest) := by
  have hplain : atWord "unsafe" (word name :: rest) = false :=
    atWord_of_not_keyword hname (by decide)
  have hlink : atPunct "::" rest = false := startsOperator_of_endsAt hrest (by decide) _
  have hassign : atPunct "=" rest = false := startsOperator_of_endsAt hrest (by decide) _
  have hgroup : ∀ delimiter, atGroup delimiter rest = false :=
    fun delimiter => atGroup_of_endsAt hrest fun _ => rfl
  refine (otherwise_keyword hplain).trans
    ((bind_of_eq_some (modulePathRule_word (isPathWord_of_not_keyword hname) hlink)).trans ?_)
  refine (otherwise ?_).trans ((otherwise ?_).trans rfl)
  · rw [hgroup, hgroup, hgroup]
    rfl
  · rw [hassign]
    rfl

/-- A literal is read as the value of an entry where nothing continues it, at the end of the
arguments or not. -/
theorem metaValueRule_literal {n : Nat} (hrest : endsExpr true rest = true) :
    metaValueRule (Grammar.level (n + 1)) (.leaf (.literal text) :: rest)
      = some (.literal text, rest) := by
  cases rest with
  | nil => rfl
  | cons tree behind =>
    have hahead : ahead (do let l ← literal; expect List.isEmpty; return l)
        (.leaf (.literal text) :: tree :: behind)
          = some (none, .leaf (.literal text) :: tree :: behind) := rfl
    exact (bind_of_eq_some hahead).trans ((otherwise rfl).trans (expr_literal hrest))

theorem metaRule_string {n : Nat} (hname : isKeyword name = false) (joint : Bool)
    (hrest : endsExpr true rest = true) :
    metaRule (Grammar.level (n + 1))
        (word name :: .leaf (.punct '=' joint) :: .leaf (.literal text) :: rest)
      = some (.assigned ⟨false, [name]⟩ (.literal text), rest) := by
  have hplain : atWord "unsafe"
      (word name :: .leaf (.punct '=' joint) :: .leaf (.literal text) :: rest) = false :=
    atWord_of_not_keyword hname (by decide)
  have hpath : modulePathRule
        (word name :: .leaf (.punct '=' joint) :: .leaf (.literal text) :: rest)
      = some (⟨false, [name]⟩, .leaf (.punct '=' joint) :: .leaf (.literal text) :: rest) :=
    modulePathRule_word (isPathWord_of_not_keyword hname) (by cases joint <;> rfl)
  refine (otherwise_keyword hplain).trans
    ((bind_of_eq_some hpath).trans ((otherwise rfl).trans ((chosen ?_).trans ?_)))
  · cases joint <;> rfl
  · exact (bind_of_eq_some (punct_of_at rfl)).trans
      ((bind_of_eq_some (metaValueRule_literal hrest)).trans rfl)

/-! ### Entries that were read -/

/-- A mark that is optional leaves the input in place where it is missing. -/
theorem eq_of_not_found {test : Tokens → Bool} {count : Nat}
    (h : (do if ← look test then advance count; return true else return false : Parser Bool) input
      = some (false, rest)) : rest = input := by
  obtain ⟨found, _, hlook, h⟩ := bind_eq_some_iff.1 h
  cases hlook
  split at h
  · cases h
  · cases h
    rfl

theorem eq_of_modulePathRule (h : modulePathRule input = some (⟨false, [name]⟩, rest)) :
    input = word name :: rest := by
  obtain ⟨leading, mid, hleading, h⟩ := bind_eq_some_iff.1 h
  obtain ⟨⟨⟩, behind, hnamed, h⟩ := bind_eq_some_iff.1 h
  obtain ⟨first, left, hfirst, h⟩ := bind_eq_some_iff.1 h
  obtain ⟨others, last, hothers, h⟩ := bind_eq_some_iff.1 h
  cases h
  obtain rfl := eq_of_not_found hleading
  unfold expect at hnamed
  rw [Option.ite_none_right_eq_some] at hnamed
  cases hnamed.2
  rw [anyWord_eq_some_iff.1 hfirst, eq_of_repeatWhile_nil hothers]

/-- What stands behind the path of an entry: a group, a value, or nothing. -/
inductive EntryForm (g : Grammar) (path : ModulePath) (mid rest : Tokens) : Meta → Prop
  | list (arguments : TokenTree) : EntryForm g path mid rest (.list path arguments)
  | assigned {behind : Tokens} {value : Expr} (hmark : punct "=" mid = some ((), behind))
      (hvalue : metaValueRule g behind = some (value, rest)) : EntryForm g path mid rest
        (.assigned path value)
  | bare (hrest : rest = mid) : EntryForm g path mid rest (.bare path)

theorem entryForm_of_read {g : Grammar} {path : ModulePath} {isGroup assigns : Tokens → Bool}
    {entry : Meta} (h : (do
      if ← look isGroup then return .list path (← anyGroup)
      else if ← look assigns then
        punct "="
        return .assigned path (← metaValueRule g)
      else return .bare path : Parser Meta) input = some (entry, rest)) : EntryForm g path input
        rest entry := by
  obtain ⟨found, _, hlook, h⟩ := bind_eq_some_iff.1 h
  cases hlook
  split at h
  · obtain ⟨arguments, _, -, h⟩ := bind_eq_some_iff.1 h
    cases h
    exact .list arguments
  · obtain ⟨found, _, hlook, h⟩ := bind_eq_some_iff.1 h
    cases hlook
    split at h
    · obtain ⟨⟨⟩, behind, hmark, h⟩ := bind_eq_some_iff.1 h
      obtain ⟨value, _, hvalue, h⟩ := bind_eq_some_iff.1 h
      cases h
      exact .assigned hmark hvalue
    · cases h
      exact .bare rfl

/-- An entry that was read has a path in front, and one of the forms behind it. -/
theorem exists_of_metaRule {g : Grammar} {entry : Meta}
    (h : metaRule g input = some (entry, rest)) :
    ∃ path mid, (path = ⟨false, ["unsafe"]⟩ ∨ modulePathRule input = some (path, mid))
      ∧ EntryForm g path mid rest entry := by
  obtain ⟨isUnsafe, start, hplain, hread⟩ := bind_eq_some_iff.1 h
  cases isUnsafe with
  | true =>
    obtain ⟨path, mid, hpath, hread⟩ := bind_eq_some_iff.1 hread
    cases hpath
    exact ⟨_, start, .inl rfl, entryForm_of_read hread⟩
  | false =>
    obtain ⟨path, mid, hpath, hread⟩ := bind_eq_some_iff.1 hread
    obtain rfl := eq_of_not_found hplain
    exact ⟨path, mid, .inr hpath, entryForm_of_read hread⟩

theorem eq_of_metaRule_bare {g : Grammar} (hname : name ≠ "unsafe")
    (h : metaRule g input = some (.bare ⟨false, [name]⟩, rest)) : input = word name :: rest := by
  obtain ⟨path, mid, hpath, hform⟩ := exists_of_metaRule h
  cases hform with
  | bare hrest =>
    subst hrest
    rcases hpath with hpath | hpath
    · cases hpath
      exact absurd rfl hname
    · exact eq_of_modulePathRule hpath

theorem literal_of_metaValueRule {n : Nat} {value : String}
    (hvalue : stringValue? text = some value)
    (h : metaValueRule (Grammar.level n) input = some (.literal text, rest)) :
    input = .leaf (.literal text) :: rest := by
  obtain ⟨last?, mid, hahead, hread⟩ := bind_eq_some_iff.1 h
  unfold ahead at hahead
  cases hlast : (do let l ← literal; expect List.isEmpty; return l : Parser String) input with
  | none =>
    rw [hlast] at hahead
    cases hahead
    obtain ⟨found, _, hlook, hread⟩ := bind_eq_some_iff.1 hread
    cases hlook
    split at hread
    · cases hread
    · exact eq_of_literal (literal_of_expr hread) hvalue
  | some last =>
    rw [hlast] at hahead
    cases hahead
    obtain ⟨again, _, hagain, hread⟩ := bind_eq_some_iff.1 hread
    obtain ⟨first, _, hfirst, hend⟩ := bind_eq_some_iff.1 hlast
    obtain ⟨⟨⟩, _, -, hend⟩ := bind_eq_some_iff.1 hend
    cases hend
    cases hread
    rw [hagain] at hfirst
    cases hfirst
    exact eq_of_literal hagain hvalue

theorem eq_of_metaRule_assigned {n : Nat} {value : String} (hname : name ≠ "unsafe")
    (hvalue : stringValue? text = some value)
    (h : metaRule (Grammar.level n) input
      = some (.assigned ⟨false, [name]⟩ (.literal text), rest)) :
    ∃ joint, input = word name :: .leaf (.punct '=' joint) :: .leaf (.literal text) :: rest := by
  obtain ⟨path, mid, hpath, hform⟩ := exists_of_metaRule h
  cases hform with
  | assigned hmark hread =>
    obtain ⟨joint, rfl⟩ := exists_of_punct rfl hmark
    obtain rfl := literal_of_metaValueRule hvalue hread
    rcases hpath with hpath | hpath
    · cases hpath
      exact absurd rfl hname
    · exact ⟨joint, eq_of_modulePathRule hpath⟩

/-! ### Arguments -/

/-- Whether the entries of a kind are exactly what is read off tokens of a kind. -/
structure ReadOff (entry : Meta → Prop) (tokens : Tokens → Prop) : Prop where
  ne_nil : ∀ here, tokens here → here ≠ []
  reads : ∀ n here rest, tokens here → endsExpr true rest = true →
    ∃ m, metaRule (Grammar.level (n + 1)) (here ++ rest) = some (m, rest) ∧ entry m
  only : ∀ n input rest m, metaRule (Grammar.level n) input = some (m, rest) → entry m →
    ∃ here, tokens here ∧ input = here ++ rest

/-- An entry that is a word is read off the word. -/
theorem readOff_word (name : String) (hname : isKeyword name = false) (hplain : name ≠ "unsafe") :
    ReadOff (· = .bare ⟨false, [name]⟩) (· = [word name]) where
  ne_nil := by
    rintro _ rfl
    exact List.cons_ne_nil _ _
  reads n here rest hhere hrest := by
    subst hhere
    exact ⟨_, metaRule_word hname hrest, rfl⟩
  only n input rest m hread hentry := by
    subst hentry
    exact ⟨_, rfl, eq_of_metaRule_bare hplain hread⟩

/-- An entry that assigns a string to a word is read off the word, an equals sign and the
literal. -/
theorem readOff_string (name : String) (accepts : String → Prop) (hname : isKeyword name = false)
    (hplain : name ≠ "unsafe") :
    ReadOff (fun m => ∃ text value, m = .assigned ⟨false, [name]⟩ (.literal text)
      ∧ stringValue? text = some value
        ∧ accepts value)
      (fun here => ∃ value, AssignsString name value here ∧ accepts value) where
  ne_nil := by
    rintro _ ⟨value, ⟨joint, text, rfl, -⟩, -⟩
    exact List.cons_ne_nil _ _
  reads n here rest hhere hrest := by
    obtain ⟨value, ⟨joint, text, rfl, hvalue⟩, haccepts⟩ := hhere
    exact ⟨_, metaRule_string hname joint hrest, text, value, rfl, hvalue, haccepts⟩
  only n input rest m hread hentry := by
    obtain ⟨text, value, rfl, hvalue, haccepts⟩ := hentry
    obtain ⟨joint, rfl⟩ := eq_of_metaRule_assigned hplain hvalue hread
    exact ⟨_, ⟨value, ⟨joint, text, rfl, hvalue⟩, haccepts⟩, rfl⟩

theorem ReadOff.congr {entry entry' : Meta → Prop} {tokens : Tokens → Prop}
    (h : ReadOff entry tokens) (hentry : ∀ m, entry m ↔ entry' m) : ReadOff entry' tokens := by
  rwa [← show entry = entry' from funext fun m => propext (hentry m)]

theorem ReadOff.or {entry entry' : Meta → Prop} {tokens tokens' : Tokens → Prop}
    (h : ReadOff entry tokens) (h' : ReadOff entry' tokens') :
    ReadOff (fun m => entry m ∨ entry' m) (fun here => tokens here ∨ tokens' here) where
  ne_nil here hhere := hhere.elim (h.ne_nil here) (h'.ne_nil here)
  reads n here rest hhere hrest := by
    rcases hhere with hhere | hhere
    · obtain ⟨m, hread, hm⟩ := h.reads n here rest hhere hrest
      exact ⟨m, hread, .inl hm⟩
    · obtain ⟨m, hread, hm⟩ := h'.reads n here rest hhere hrest
      exact ⟨m, hread, .inr hm⟩
  only n input rest m hread hentry := by
    rcases hentry with hentry | hentry
    · obtain ⟨here, hhere, rfl⟩ := h.only n input rest m hread hentry
      exact ⟨here, .inl hhere, rfl⟩
    · obtain ⟨here, hhere, rfl⟩ := h'.only n input rest m hread hentry
      exact ⟨here, .inr hhere, rfl⟩

/-- **Which arguments are a list of entries of a kind**: those in which tokens of the kind stand
between commas. -/
theorem readList?_iff {entry : Meta → Prop} {tokens : Tokens → Prop} (h : ReadOff entry tokens)
    {arguments : Tokens} :
    (∃ entries, Meta.readList? arguments = some entries ∧ ∀ m ∈ entries, entry m)
      ↔ CommaTrees tokens arguments := by
  have hreads : ReadsEntriesAs entry List.isEmpty (metaRule (Grammar.level (depthOf arguments)))
      tokens := by
    intro here hhere rest hrest
    refine ⟨?_, h.reads (6 * tokensSize arguments + 15) here rest hhere ?_⟩
    · rw [List.isEmpty_eq_false_iff]
      exact fun hnil => h.ne_nil here hhere (List.append_eq_nil_iff.1 hnil).1
    · rcases hrest with hrest | ⟨joint, behind, rfl⟩
      · rw [List.isEmpty_iff.1 hrest]
        rfl
      · rfl
  rw [← terminated_iff hreads (h.only _)]
  unfold Meta.readList? readTokens?
  constructor
  · rintro ⟨entries, hlist, hall⟩
    obtain ⟨list, hread, rfl⟩ := Option.map_eq_some_iff.1 hlist
    exact ⟨list, parseAll?_eq_some_iff.1 hread, hall⟩
  · rintro ⟨list, hlist, hall⟩
    exact ⟨list.1, by rw [parseAll?_eq_some_iff.2 hlist, Option.map_some], hall⟩

end FluentBuilder.Code
