import Mathlib.Data.List.Basic
import FluentBuilder.Data.Toml
import FluentBuilder.Proofs.Data.TomlTexts

/-!
# Written documents of TOML are read back

A document of sections is a header and lines with an entry each for every section, with a blank line
between two of them.

* `IsWrittenValue` — a text that is read as a value when a line ends behind it; texts, lists of
  texts and truth values have one;
* `sectionsText` — the text of a document;
* `readLinesOf?_entry`, `readLinesOf?_header` — what one line does to the tables under construction;
* `readToml?_sectionsText` — the text of a document is read back as the table of its sections.
-/

namespace FluentBuilder.Data

open FluentBuilder.Text

variable {rest : List Char}

/-! ### Tables under construction -/

theorem find?_append_of_none {key : String} {entries others : Entries}
    (h : Entries.find? key entries = none) :
    Entries.find? key (entries ++ others) = Entries.find? key others := by
  induction entries with
  | nil => rfl
  | cons e entries ih =>
    obtain ⟨k, node⟩ := e
    by_cases hk : k == key
    · simp [Entries.find?, hk] at h
    · simp only [Entries.find?, hk] at h
      simp only [List.cons_append, Entries.find?, hk]
      exact ih h

/-- A new key is put behind the others. -/
theorem put_append_of_none {key : String} {entries : Entries} (h : Entries.find? key entries = none)
    (node : Node) (others : Entries) :
    Entries.put key node (entries ++ others) = entries ++ Entries.put key node others := by
  induction entries with
  | nil => rfl
  | cons e entries ih =>
    obtain ⟨k, old⟩ := e
    by_cases hk : k == key
    · simp [Entries.find?, hk] at h
    · simp only [Entries.find?, hk] at h
      simp only [List.cons_append, Entries.put, hk]
      rw [if_neg (by simp), ih h]

theorem find?_eq_none_of_not_mem {key : String} {entries : Entries}
    (h : key ∉ entries.map Prod.fst) :
    Entries.find? key entries = none := by
  induction entries with
  | nil => rfl
  | cons e entries ih =>
    obtain ⟨k, node⟩ := e
    rw [List.map_cons, List.mem_cons, not_or] at h
    simp [Entries.find?, Ne.symm h.1, ih h.2]

/-- A header with a new name opens an empty table behind the others. -/
theorem openTable_new {name : String} {entries : Entries} (h : name ∉ entries.map Prod.fst) :
    openTable [name] ⟨.defined, entries⟩
      = some ⟨.defined, entries ++ [(name, .table .defined [])]⟩ := by
  have hnone := find?_eq_none_of_not_mem h
  have hput := put_append_of_none hnone (.table .defined []) []
  simp only [List.append_nil] at hput
  simp [openTable, editAt, hnone, hput, Entries.put]

/-- An entry with a new key goes to the end of the table in force. -/
theorem addEntry_new {name key : String} {before entries : Entries} (v : Value)
    (hname : name ∉ before.map Prod.fst) (hkey : key ∉ entries.map Prod.fst) :
    editAt false (addEntry [key] v) [name] ⟨.defined, before ++ [(name, .table .defined entries)]⟩
      = some ⟨.defined, before ++ [(name, .table .defined (entries ++ [(key, .value v)]))]⟩ := by
  have hbefore := find?_eq_none_of_not_mem hname
  have hentries := find?_eq_none_of_not_mem hkey
  have hput := put_append_of_none hentries (.value v) []
  simp only [List.append_nil] at hput
  simp [editAt, addEntry, find?_append_of_none hbefore, put_append_of_none hbefore, Entries.find?,
    Entries.put, hentries, hput]

/-! ### Blanks and keys -/

/-- A character at which a line goes on: it is neither a gap, a comment nor a line end. -/
def Starts (c : Char) : Prop :=
  c ≠ ' ' ∧ c ≠ '\t' ∧ c ≠ '#' ∧ c ≠ '\n' ∧ c ≠ '\r'

theorem skipGap_of_starts {c : Char} (h : Starts c) : skipGap (c :: rest) = c :: rest := by
  simp [skipGap, h.1, h.2.1]

theorem skipComment?_of_starts {c : Char} (h : Starts c) :
    skipComment? (c :: rest) = some (c :: rest) := by
  unfold skipComment?
  split
  · next heq => exact absurd (List.cons.inj heq).1 h.2.2.1
  · rfl

theorem behindNewline?_of_starts {c : Char} (h : Starts c) : behindNewline? (c :: rest) = none := by
  unfold behindNewline? splitNewline?
  split
  · next heq => exact absurd (List.cons.inj heq).1 h.2.2.2.1
  · next heq => exact absurd (List.cons.inj heq).1 h.2.2.2.2
  · rfl

theorem skipLinesWith?_of_starts {c : Char} (h : Starts c) (fuel : Nat) :
    skipLinesWith? (fuel + 1) (c :: rest) = some (c :: rest) := by
  simp [skipLinesWith?, skipGap_of_starts h, skipComment?_of_starts h, behindNewline?_of_starts h]

theorem skipLines?_of_starts {c : Char} (h : Starts c) :
    skipLines? (c :: rest) = some (c :: rest) :=
  skipLinesWith?_of_starts h _

theorem skipLines?_space {c : Char} (h : Starts c) :
    skipLines? (' ' :: c :: rest) = some (c :: rest) := by
  have hgap : skipGap (' ' :: c :: rest) = c :: rest := skipGap_of_starts h
  simp [skipLines?, skipLinesWith?, hgap, skipComment?_of_starts h, behindNewline?_of_starts h]

theorem skipLines?_newline {c : Char} (h : Starts c) :
    skipLines? ('\n' :: c :: rest) = some (c :: rest) :=
  skipLinesWith?_of_starts h _

/-- A key without quotes. -/
structure IsBare (key : String) : Prop where
  ne_nil : key.toList ≠ []
  all : ∀ c ∈ key.toList, isBareKey c = true

instance (key : String) : Decidable (IsBare key) :=
  decidable_of_iff (key.toList ≠ [] ∧ key.toList.all isBareKey = true)
    ⟨fun h => ⟨h.1, List.all_eq_true.1 h.2⟩, fun h => ⟨h.ne_nil, List.all_eq_true.2 h.all⟩⟩

theorem starts_of_isBareKey {c : Char} (h : isBareKey c = true) : Starts c := by
  refine ⟨?_, ?_, ?_, ?_, ?_⟩ <;>
  · rintro rfl
    revert h
    decide

theorem readKeyPart?_bare {key : String} (hkey : IsBare key) {c : Char}
    (hend : isBareKey c = false) :
    readKeyPart? (key.toList ++ c :: rest) = some (key, c :: rest) := by
  obtain ⟨first, more, hsplit⟩ := List.exists_cons_of_ne_nil hkey.ne_nil
  have hfirst : isBareKey first = true := hkey.all first (by rw [hsplit]; exact List.mem_cons_self)
  have htake : (key.toList ++ c :: rest).takeWhile isBareKey = key.toList := by
    rw [List.takeWhile_append_of_pos hkey.all, List.takeWhile_cons_of_neg (by simp [hend]),
      List.append_nil]
  have hdrop : (key.toList ++ c :: rest).dropWhile isBareKey = c :: rest := by
    rw [List.dropWhile_append_of_pos hkey.all, List.dropWhile_cons_of_neg (by simp [hend])]
  have hdouble : first ≠ '"' := by rintro rfl; revert hfirst; decide
  have hsingle : first ≠ '\'' := by rintro rfl; revert hfirst; decide
  have hopen : ∀ more', key.toList ++ c :: rest ≠ '"' :: more'
      ∧ key.toList ++ c :: rest ≠ '\'' :: more' := by
    intro more'
    rw [hsplit]
    exact ⟨fun heq => hdouble (List.cons.inj heq).1, fun heq => hsingle (List.cons.inj heq).1⟩
  unfold readKeyPart?
  split
  · next heq => exact absurd heq (hopen _).1
  · next heq => exact absurd heq (hopen _).2
  · next heq => exact absurd heq (hopen _).1
  · next heq => exact absurd heq (hopen _).2
  · rw [htake, hdrop]
    split
    · next heq => exact absurd heq hkey.ne_nil
    · rw [String.ofList_toList]

/-- A key without quotes is read up to what cannot stand in one. -/
theorem readKey?_bare {key : String} (hkey : IsBare key) {c : Char} (hend : isBareKey c = false)
    (hrest : ∀ more, skipGap (c :: rest) ≠ '.' :: more) :
    readKey? (key.toList ++ c :: rest) = some ([key], skipGap (c :: rest)) := by
  obtain ⟨first, more, hsplit⟩ := List.exists_cons_of_ne_nil hkey.ne_nil
  have hfirst : isBareKey first = true := hkey.all first (by rw [hsplit]; exact List.mem_cons_self)
  have hgap : skipGap (key.toList ++ c :: rest) = key.toList ++ c :: rest := by
    rw [hsplit]
    exact skipGap_of_starts (starts_of_isBareKey hfirst)
  have hone : ∀ count, readKeyOf? (count + 1) (key.toList ++ c :: rest)
      = some ([key], skipGap (c :: rest)) := by
    intro count
    simp only [readKeyOf?, hgap, readKeyPart?_bare hkey hend, Option.bind_eq_bind, Option.bind_some]
    rfl
  exact hone 79

/-! ### Values -/

/-- A text that is read as a value when a line ends behind it. -/
structure IsWrittenValue (text : List Char) (v : Value) : Prop where
  starts : ∃ c more, text = c :: more ∧ Starts c
  reads : ∀ rest fuel, 2 * text.length < fuel →
    readTomlWith? 0 fuel (text ++ '\n' :: rest) = some (v, '\n' :: rest)

theorem IsQuote.starts {quote : Char} (h : quote = '"' ∨ quote = '\'') : Starts quote := by
  rcases h with rfl | rfl
  · exact ⟨by decide, by decide, by decide, by decide, by decide⟩
  · exact ⟨by decide, by decide, by decide, by decide, by decide⟩

/-- A written text is read as a value of any depth. -/
theorem readTomlWith?_writeText (s : String) {rest : List Char} (hrest : NoQuoteAhead rest)
    (depth fuel : Nat) :
    readTomlWith? depth (fuel + 1) ((writeText s).toList ++ rest) = some (.text s, rest) := by
  have hread := readTomlText?_writeText s hrest
  obtain ⟨quote, w, hw, -, hquote⟩ := exists_quote_writeText s
  rw [hw, List.cons_append] at hread ⊢
  rcases hquote with rfl | rfl
  · simp [readTomlWith?, hread]
  · simp [readTomlWith?, hread]

theorem noQuoteAhead_cons {c : Char} (hdouble : c ≠ '"') (hsingle : c ≠ '\'') :
    NoQuoteAhead (c :: rest) :=
  ⟨by simpa using hdouble, by simpa using hsingle⟩

theorem isWrittenValue_text (s : String) : IsWrittenValue (writeText s).toList (.text s) := by
  obtain ⟨quote, w, hw, -, hquote⟩ := exists_quote_writeText s
  refine ⟨⟨quote, w, hw, IsQuote.starts hquote⟩, ?_⟩
  intro rest fuel hfuel
  obtain ⟨fuel, rfl⟩ : ∃ n, fuel = n + 1 := ⟨fuel - 1, by omega⟩
  exact readTomlWith?_writeText s (noQuoteAhead_cons (by decide) (by decide)) 0 fuel

theorem isWrittenValue_bool (b : Bool) :
    IsWrittenValue (if b then "true" else "false").toList (.bool b) := by
  cases b with
  | false =>
    refine ⟨⟨'f', _, rfl, by decide, by decide, by decide, by decide, by decide⟩, ?_⟩
    intro rest fuel hfuel
    obtain ⟨fuel, rfl⟩ : ∃ n, fuel = n + 1 := ⟨fuel - 1, by omega⟩
    rfl
  | true =>
    refine ⟨⟨'t', _, rfl, by decide, by decide, by decide, by decide, by decide⟩, ?_⟩
    intro rest fuel hfuel
    obtain ⟨fuel, rfl⟩ : ∃ n, fuel = n + 1 := ⟨fuel - 1, by omega⟩
    rfl

/-! ### Lists of texts -/

/-- The items of a list of texts. -/
def itemsText (texts : List String) : List Char :=
  (", ".intercalate (texts.map writeText)).toList

theorem itemsText_singleton (s : String) : itemsText [s] = (writeText s).toList := by
  simp [itemsText]

theorem itemsText_cons_cons (s next : String) (more : List String) :
    itemsText (s :: next :: more)
      = (writeText s).toList ++ ',' :: ' ' :: itemsText (next :: more) := by
  simp [itemsText, String.toList_intercalate]

/-- The items of a list open with a quote. -/
theorem exists_starts_itemsText (s : String) (more : List String) :
    ∃ c w, itemsText (s :: more) = c :: w ∧ Starts c := by
  obtain ⟨quote, w, hw, -, hquote⟩ := exists_quote_writeText s
  cases more with
  | nil => exact ⟨quote, w, by rw [itemsText_singleton, hw], IsQuote.starts hquote⟩
  | cons next more =>
    exact ⟨quote, _, by rw [itemsText_cons_cons, hw, List.cons_append], IsQuote.starts hquote⟩

/-- An item with a comma behind it. -/
theorem readTomlItems?_comma (s : String) {depth fuel : Nat} {done : List Value} {input : List Char}
    (hinput : skipLines? input = some ((writeText s).toList ++ ',' :: rest)) :
    readTomlItems? depth (fuel + 2) done input
      = readTomlItems? depth (fuel + 1) (.text s :: done) rest := by
  have hquotes : NoQuoteAhead (',' :: rest) := noQuoteAhead_cons (by decide) (by decide)
  have hread := readTomlWith?_writeText s hquotes depth fuel
  have hcomma : skipLines? (',' :: rest) = some (',' :: rest) :=
    skipLines?_of_starts ⟨by decide, by decide, by decide, by decide, by decide⟩
  obtain ⟨quote, w, hw, -, hquote⟩ := exists_quote_writeText s
  rw [hw, List.cons_append] at hread hinput
  conv => lhs; unfold readTomlItems?
  rcases hquote with rfl | rfl
  · simp [hinput, hread, hcomma]
  · simp [hinput, hread, hcomma]

/-- The last item, with the bracket behind it. -/
theorem readTomlItems?_bracket (s : String) {depth fuel : Nat} {done : List Value}
    {input : List Char} (hinput : skipLines? input = some ((writeText s).toList ++ ']' :: rest)) :
    readTomlItems? depth (fuel + 2) done input = some (.list (.text s :: done).reverse, rest) := by
  have hquotes : NoQuoteAhead (']' :: rest) := noQuoteAhead_cons (by decide) (by decide)
  have hread := readTomlWith?_writeText s hquotes depth fuel
  have hbracket : skipLines? (']' :: rest) = some (']' :: rest) :=
    skipLines?_of_starts ⟨by decide, by decide, by decide, by decide, by decide⟩
  obtain ⟨quote, w, hw, -, hquote⟩ := exists_quote_writeText s
  rw [hw, List.cons_append] at hread hinput
  unfold readTomlItems?
  rcases hquote with rfl | rfl
  · simp [hinput, hread, hbracket]
  · simp [hinput, hread, hbracket]

theorem readTomlItems?_itemsText (s : String) (more : List String) (depth : Nat) {fuel : Nat}
    (hfuel : more.length + 1 < fuel) (done : List Value) {input : List Char}
    (hinput : skipLines? input = some (itemsText (s :: more) ++ ']' :: rest)) :
    readTomlItems? depth fuel done input = some (.list (done.reverse ++ (s :: more).map Value.text),
      rest) := by
  induction more generalizing s fuel done input with
  | nil =>
    obtain ⟨fuel, rfl⟩ : ∃ n, fuel = n + 2 := ⟨fuel - 2, by omega⟩
    rw [itemsText_singleton] at hinput
    rw [readTomlItems?_bracket s hinput]
    simp
  | cons next more ih =>
    rw [List.length_cons] at hfuel
    obtain ⟨fuel, rfl⟩ : ∃ n, fuel = n + 2 := ⟨fuel - 2, by omega⟩
    rw [itemsText_cons_cons, List.append_assoc, List.cons_append, List.cons_append] at hinput
    rw [readTomlItems?_comma s hinput, ih next (by omega)]
    · simp
    · obtain ⟨c, w, hw, hstarts⟩ := exists_starts_itemsText next more
      rw [hw, List.cons_append]
      exact skipLines?_space hstarts

theorem length_le_itemsText (s : String) (more : List String) :
    more.length < (itemsText (s :: more)).length := by
  induction more generalizing s with
  | nil =>
    obtain ⟨c, w, hw, -⟩ := exists_starts_itemsText s []
    simp [hw]
  | cons next more ih =>
    have := ih next
    rw [itemsText_cons_cons, List.length_append, List.length_cons, List.length_cons,
      List.length_cons]
    omega

theorem isWrittenValue_texts (texts : List String) :
    IsWrittenValue ('[' :: (itemsText texts ++ [']'])) (.list (texts.map Value.text)) := by
  refine ⟨⟨'[', _, rfl, by decide, by decide, by decide, by decide, by decide⟩, ?_⟩
  intro rest fuel hfuel
  obtain ⟨fuel, rfl⟩ : ∃ n, fuel = n + 1 := ⟨fuel - 1, by omega⟩
  have hopen : readTomlWith? 0 (fuel + 1) ('[' :: (itemsText texts ++ [']']) ++ '\n' :: rest)
      = readTomlItems? 1 fuel [] (itemsText texts ++ ']' :: '\n' :: rest) := by
    rw [List.cons_append, List.append_assoc]
    rfl
  rw [hopen]
  cases texts with
  | nil =>
    obtain ⟨fuel, rfl⟩ : ∃ n, fuel = n + 1 := ⟨fuel - 1, by simp at hfuel; omega⟩
    rfl
  | cons s more =>
    have hlength := length_le_itemsText s more
    simp only [List.length_cons, List.length_append] at hfuel
    obtain ⟨c, w, hw, hstarts⟩ := exists_starts_itemsText s more
    refine readTomlItems?_itemsText s more 1 (by omega) [] ?_
    rw [hw, List.cons_append]
    exact skipLines?_of_starts hstarts

/-! ### Lines -/

/-- The text of an entry. -/
def entryText (key : String) (text : List Char) : List Char :=
  key.toList ++ ' ' :: '=' :: ' ' :: (text ++ ['\n'])

/-- The text of a header. -/
def headerText (name : String) : List Char :=
  '[' :: (name.toList ++ [']', '\n'])

theorem IsBare.exists_starts {key : String} (hkey : IsBare key) :
    ∃ c more, key.toList = c :: more ∧ Starts c
    ∧ c ≠ '[' := by
  obtain ⟨c, more, hsplit⟩ := List.exists_cons_of_ne_nil hkey.ne_nil
  have hc : isBareKey c = true := hkey.all c (by rw [hsplit]; exact List.mem_cons_self)
  refine ⟨c, more, hsplit, starts_of_isBareKey hc, ?_⟩
  rintro rfl
  revert hc
  decide

theorem readEntry?_bare {key : String} {text : List Char} {v : Value} (hkey : IsBare key)
    (hvalue : IsWrittenValue text v) {doc : Document} {root : OpenTable}
    (hedit : editAt false (addEntry [key] v) doc.current doc.root = some root) (rest : List Char) :
    readEntry? doc (entryText key text ++ rest) = some (⟨root, doc.current⟩, '\n' :: rest) := by
  obtain ⟨d, others, htext, hd⟩ := hvalue.starts
  have hline : entryText key text ++ rest
      = key.toList ++ ' ' :: '=' :: ' ' :: (text ++ '\n' :: rest) := by
    simp [entryText]
  have hgap : skipGap (' ' :: '=' :: ' ' :: (text ++ '\n' :: rest))
    = '=' :: ' ' :: (text ++ '\n' :: rest) := rfl
  have hgap' : skipGap (' ' :: (text ++ '\n' :: rest)) = text ++ '\n' :: rest := by
    rw [htext]
    exact skipGap_of_starts hd
  have hreadKey : readKey? (entryText key text ++ rest)
      = some ([key], '=' :: ' ' :: (text ++ '\n' :: rest)) := by
    rw [hline, readKey?_bare hkey rfl (by rw [hgap]; simp), hgap]
  have hfuel : 2 * text.length < 2 * (' ' :: (text ++ '\n' :: rest)).length + 2 := by
    simp only [List.length_cons, List.length_append]
    omega
  simp only [ readEntry?, hreadKey, Option.bind_eq_bind, Option.bind_some, behind?,
    beq_self_eq_true, if_true, hgap', hvalue.reads rest _ hfuel, hedit]
  rfl

theorem readHeader?_bare {name : String} (hname : IsBare name) {doc : Document} {root : OpenTable}
    (hopen : openTable [name] doc.root = some root) :
    readHeader? doc (name.toList ++ ']' :: '\n' :: rest) = some (⟨root, [name]⟩, '\n' :: rest) := by
  obtain ⟨c, more, hsplit, -, hbracket⟩ := hname.exists_starts
  have hreadKey : readKey? (name.toList ++ ']' :: '\n' :: rest)
      = some ([name], ']' :: '\n' :: rest) :=
    readKey?_bare hname rfl (by intro more heq; exact absurd (List.cons.inj heq).1 (by decide))
  unfold readHeader?
  split
  · next heq =>
    rw [hsplit] at heq
    exact absurd (List.cons.inj heq).1 hbracket
  · simp only [hreadKey, Option.bind_eq_bind, Option.bind_some, behind?, beq_self_eq_true,
      if_true, hopen]
    rfl

/-- **A line with an entry** adds the entry to the table in force. -/
theorem readLinesOf?_entry {key : String} {text : List Char} {v : Value} (hkey : IsBare key)
    (hvalue : IsWrittenValue text v) {doc : Document} {root : OpenTable}
    (hedit : editAt false (addEntry [key] v) doc.current doc.root = some root) (fuel : Nat)
    (rest : List Char) :
    readLinesOf? (fuel + 1) doc (entryText key text ++ rest)
      = readLinesOf? fuel ⟨root, doc.current⟩ rest := by
  obtain ⟨c, more, hsplit, hstarts, hbracket⟩ := hkey.exists_starts
  have hread := readEntry?_bare hkey hvalue hedit rest
  have hend : endLine? ('\n' :: rest) = some rest := rfl
  have hline : entryText key text ++ rest
      = c :: (more ++ ' ' :: '=' :: ' ' :: (text ++ '\n' :: rest)) := by
    simp [entryText, hsplit]
  rw [hline] at hread ⊢
  simp only [readLinesOf?, skipLines?_of_starts hstarts, Option.bind_eq_bind, Option.bind_some]
  split
  · next heq => cases heq
  · next heq => exact absurd (List.cons.inj heq).1 hbracket
  · rw [hread, Option.bind_some, hend, Option.bind_some]

/-- **A line with a header** opens a table, also behind a blank line. -/
theorem readLinesOf?_header {name : String} (hname : IsBare name) {doc : Document}
    {root : OpenTable} (hopen : openTable [name] doc.root = some root) {input : List Char}
    (hinput : skipLines? input = some (headerText name ++ rest)) (fuel : Nat) :
    readLinesOf? (fuel + 1) doc input = readLinesOf? fuel ⟨root, [name]⟩ rest := by
  have hend : endLine? ('\n' :: rest) = some rest := rfl
  have hline : headerText name ++ rest = '[' :: (name.toList ++ ']' :: '\n' :: rest) := by
    simp [headerText]
  rw [hline] at hinput
  simp only [readLinesOf?, hinput, Option.bind_eq_bind, Option.bind_some,
    readHeader?_bare hname hopen, hend]

/-! ### Sections -/

/-- An entry of a section: its key, the text of its value, and the value. -/
structure SectionEntry where
  key : String
  text : List Char
  value : Value

/-- A section of a document. -/
structure Section where
  name : String
  entries : List SectionEntry

/-- The text of a section. -/
def Section.text (s : Section) : List Char :=
  headerText s.name ++ s.entries.flatMap fun e => entryText e.key e.text

/-- The table of a section. -/
def Section.table (s : Section) : String × Value :=
  (s.name, .table (s.entries.map fun e => (e.key, e.value)))

/-- A section whose values are read back, with keys of its own. -/
structure Section.IsWritten (s : Section) : Prop where
  bare : IsBare s.name
  keys : ∀ e ∈ s.entries, IsBare e.key
  values : ∀ e ∈ s.entries, IsWrittenValue e.text e.value
  distinct : (s.entries.map SectionEntry.key).Nodup

theorem Section.isWritten_nil {name : String} (hname : IsBare name) :
    (⟨name, []⟩ : Section).IsWritten :=
  ⟨hname, by simp, by simp, List.nodup_nil⟩

theorem Section.IsWritten.cons {name key : String} {text : List Char} {v : Value}
    {entries : List SectionEntry} (h : (⟨name, entries⟩ : Section).IsWritten) (hkey : IsBare key)
    (hvalue : IsWrittenValue text v) (hnew : key ∉ entries.map SectionEntry.key) :
    (⟨name, ⟨key, text, v⟩ :: entries⟩ : Section).IsWritten :=
  ⟨h.bare, List.forall_mem_cons.2 ⟨hkey, h.keys⟩, List.forall_mem_cons.2 ⟨hvalue, h.values⟩,
    List.nodup_cons.2 ⟨hnew, h.distinct⟩⟩

/-- The text of a document: its sections with a blank line between two of them. -/
def sectionsText : List Section → List Char
  | [] => []
  | [s] => s.text
  | s :: rest => s.text ++ '\n' :: sectionsText rest

/-- The nodes of entries. -/
def nodesOf (entries : List SectionEntry) : Entries :=
  entries.map fun e => (e.key, .value e.value)

theorem map_fst_nodesOf (entries : List SectionEntry) :
    (nodesOf entries).map Prod.fst = entries.map SectionEntry.key := by
  simp [nodesOf]

/-- The lines of a section add their entries one behind the other. -/
theorem readLinesOf?_entries {name : String} {before : Entries} (hname : name ∉ before.map Prod.fst)
    (entries : List SectionEntry) (hkeys : ∀ e ∈ entries, IsBare e.key)
    (hvalues : ∀ e ∈ entries, IsWrittenValue e.text e.value) (done : List SectionEntry)
    (hdistinct : ((done ++ entries).map SectionEntry.key).Nodup) (fuel : Nat) (rest : List Char) :
    readLinesOf? (entries.length + fuel)
      ⟨⟨.defined, before ++ [(name, .table .defined (nodesOf done))]⟩, [name]⟩
        ((entries.flatMap fun e => entryText e.key e.text) ++ rest)
      = readLinesOf? fuel
        ⟨⟨.defined, before ++ [(name, .table .defined (nodesOf (done ++ entries)))]⟩, [name]⟩
          rest := by
  induction entries generalizing done with
  | nil => simp
  | cons e entries ih =>
    obtain ⟨hkey, hkeys⟩ := List.forall_mem_cons.1 hkeys
    obtain ⟨hvalue, hvalues⟩ := List.forall_mem_cons.1 hvalues
    have hnew : e.key ∉ (nodesOf done).map Prod.fst := by
      rw [map_fst_nodesOf]
      rw [List.map_append, List.map_cons, List.nodup_append] at hdistinct
      intro hmem
      exact hdistinct.2.2 _ hmem _ List.mem_cons_self rfl
    let doc : Document := ⟨⟨.defined, before ++ [(name, .table .defined (nodesOf done))]⟩, [name]⟩
    have hedit : editAt false (addEntry [e.key] e.value) doc.current doc.root = some _ :=
      addEntry_new e.value hname hnew
    have hstep := readLinesOf?_entry hkey hvalue hedit (entries.length + fuel)
      ((entries.flatMap fun e => entryText e.key e.text) ++ rest)
    have hothers := ih hkeys hvalues (done ++ [e]) (by simpa using hdistinct)
    rw [List.flatMap_cons, List.append_assoc, List.length_cons, Nat.succ_add, hstep]
    simpa [nodesOf] using hothers

/-- The node of a section. -/
def Section.node (s : Section) : String × Node :=
  (s.name, .table .defined (nodesOf s.entries))

/-- A section adds its table behind the others. -/
theorem readLinesOf?_section {s : Section} (h : s.IsWritten) {before : Entries}
    (hname : s.name ∉ before.map Prod.fst) {current : List String} {input : List Char}
    (hinput : skipLines? input = some (s.text ++ rest)) (fuel : Nat) :
    readLinesOf? (s.entries.length + 1 + fuel) ⟨⟨.defined, before⟩, current⟩ input
      = readLinesOf? fuel ⟨⟨.defined, before ++ [s.node]⟩, [s.name]⟩ rest := by
  rw [Section.text, List.append_assoc] at hinput
  let doc : Document := ⟨⟨.defined, before⟩, current⟩
  have hopen : openTable [s.name] doc.root = some _ := openTable_new hname
  have hheader := readLinesOf?_header h.bare hopen hinput (s.entries.length + fuel)
  have hentries := readLinesOf?_entries hname s.entries h.keys h.values []
    (by simpa using h.distinct) fuel rest
  rw [Nat.add_right_comm, hheader]
  exact hentries

/-- The number of lines of sections that are not blank. -/
def lineCount : List Section → Nat
  | [] => 0
  | s :: others => s.entries.length + 1 + lineCount others

theorem exists_sectionsText_cons (s : Section) (others : List Section) :
    ∃ more, sectionsText (s :: others) = '[' :: more := by
  cases others with
  | nil => exact ⟨_, rfl⟩
  | cons next others => exact ⟨_, rfl⟩

theorem starts_bracket : Starts '[' :=
  ⟨by decide, by decide, by decide, by decide, by decide⟩

/-- The sections of a document add their tables one behind the other. -/
theorem readLinesOf?_sectionsText (sections : List Section) (hwritten : ∀ s ∈ sections, s.IsWritten)
    (before : Entries) (hdistinct : (before.map Prod.fst ++ sections.map Section.name).Nodup)
    (current : List String) {input : List Char}
    (hinput : skipLines? input = some (sectionsText sections)) (fuel : Nat) :
    ∃ last, readLinesOf? (lineCount sections + (fuel + 1)) ⟨⟨.defined, before⟩, current⟩ input
      = some ⟨⟨.defined, before ++ sections.map Section.node⟩, last⟩ := by
  induction sections generalizing before current input with
  | nil =>
    refine ⟨current, ?_⟩
    simp only [lineCount, List.map_nil, readLinesOf?, hinput, sectionsText, List.append_nil]
    rfl
  | cons s others ih =>
    obtain ⟨hs, hothers⟩ := List.forall_mem_cons.1 hwritten
    have hname : s.name ∉ before.map Prod.fst := by
      intro hmem
      rw [List.nodup_append] at hdistinct
      exact hdistinct.2.2 _ hmem _ List.mem_cons_self rfl
    have hnext : ((before ++ [s.node]).map Prod.fst ++ others.map Section.name).Nodup := by
      simpa [Section.node] using hdistinct
    -- behind a section the document ends, or the next one comes after a blank line
    obtain ⟨rest, htext, hrest⟩ : ∃ rest, sectionsText (s :: others) = s.text ++ rest
        ∧ skipLines? rest = some (sectionsText others) := by
      cases others with
      | nil => exact ⟨[], by simp [sectionsText], rfl⟩
      | cons next others =>
        obtain ⟨more, hmore⟩ := exists_sectionsText_cons next others
        exact ⟨'\n' :: sectionsText (next :: others),
          rfl, by rw [hmore]; exact skipLines?_newline starts_bracket⟩
    rw [htext] at hinput
    obtain ⟨last, hlast⟩ := ih hothers (before ++ [s.node]) hnext [s.name] hrest
    refine ⟨last, ?_⟩
    have hcount : lineCount (s :: others) + (fuel + 1)
        = s.entries.length + 1 + (lineCount others + (fuel + 1)) := by
      simp only [lineCount]
      omega
    rw [hcount, readLinesOf?_section hs hname hinput, hlast, List.map_cons, List.append_assoc]
    rfl

theorem length_flatMap_entryText (entries : List SectionEntry) :
    entries.length ≤ (entries.flatMap fun e => entryText e.key e.text).length := by
  induction entries with
  | nil => exact Nat.le_refl 0
  | cons e entries ih =>
    have hline : 1 ≤ (entryText e.key e.text).length := by simp [entryText]; omega
    simp only [List.flatMap_cons, List.length_append, List.length_cons]
    omega

theorem lineCount_le_length (sections : List Section) :
    lineCount sections ≤ (sectionsText sections).length := by
  have htext : ∀ s : Section, s.entries.length + 1 ≤ s.text.length := by
    intro s
    have := length_flatMap_entryText s.entries
    simp only [Section.text, headerText, List.length_append, List.length_cons]
    omega
  induction sections with
  | nil => exact Nat.le_refl 0
  | cons s others ih =>
    have := htext s
    cases others with
    | nil => simpa [lineCount, sectionsText] using this
    | cons next others =>
      simp only [lineCount] at ih ⊢
      simp only [sectionsText, List.length_append, List.length_cons] at ih ⊢
      omega

theorem entriesValue_nodesOf (entries : List SectionEntry) :
    entriesValue (nodesOf entries) = entries.map fun e => (e.key, e.value) := by
  induction entries with
  | nil => rfl
  | cons e entries ih =>
    show (e.key, e.value) :: entriesValue (nodesOf entries) = _
    rw [ih, List.map_cons]

theorem entriesValue_sections (sections : List Section) :
    entriesValue (sections.map Section.node) = sections.map Section.table := by
  induction sections with
  | nil => rfl
  | cons s others ih =>
    show (s.name, Value.table (entriesValue (nodesOf s.entries))) :: entriesValue
      (others.map Section.node) = _
    rw [ih, entriesValue_nodesOf, List.map_cons, Section.table]

/-- Where no mark stands before the text, all of it is read. -/
theorem readToml?_of_lines {text : String} {doc : Document}
    (hmark : ∀ c rest, text.toList = c :: rest → c.toNat ≠ 0xFEFF)
    (hlines : readLinesOf? (text.toList.length + 1) ⟨⟨.defined, []⟩, []⟩ text.toList = some doc) :
    Value.readToml? text = some (.table (entriesValue doc.root.entries)) := by
  unfold Value.readToml?
  cases htext : text.toList with
  | nil =>
    rw [htext] at hlines
    simp only [Option.bind_eq_bind, hlines, Option.bind_some]
    rfl
  | cons c rest =>
    rw [htext] at hlines
    have hfirst : (c.toNat == 0xFEFF) = false := beq_eq_false_iff_ne.2 (hmark c rest htext)
    simp only [hfirst, Bool.false_eq_true, if_false, Option.bind_eq_bind, hlines, Option.bind_some]
    rfl

/-- **The text of a document is read back** as the table of its sections. -/
theorem readToml?_sectionsText {sections : List Section} (hwritten : ∀ s ∈ sections, s.IsWritten)
    (hdistinct : (sections.map Section.name).Nodup) {text : String}
    (htext : text.toList = sectionsText sections) :
    Value.readToml? text = some (.table (sections.map Section.table)) := by
  have hlength := lineCount_le_length sections
  obtain ⟨fuel, hfuel⟩ : ∃ fuel, (sectionsText sections).length + 1
      = lineCount sections + (fuel + 1) :=
    ⟨(sectionsText sections).length - lineCount sections, by omega⟩
  have hskip : skipLines? (sectionsText sections) = some (sectionsText sections) := by
    cases sections with
    | nil => rfl
    | cons s others =>
      obtain ⟨more, hmore⟩ := exists_sectionsText_cons s others
      rw [hmore]
      exact skipLines?_of_starts starts_bracket
  obtain ⟨last, hlast⟩ := readLinesOf?_sectionsText sections hwritten [] (by simpa using hdistinct)
    [] hskip fuel
  have hmark : ∀ c rest, text.toList = c :: rest → c.toNat ≠ 0xFEFF := by
    intro c rest heq
    rw [htext] at heq
    cases sections with
    | nil => cases heq
    | cons s others =>
      obtain ⟨more, hmore⟩ := exists_sectionsText_cons s others
      rw [hmore] at heq
      rw [← (List.cons.inj heq).1]
      decide
  rw [← hfuel, ← htext] at hlast
  rw [readToml?_of_lines hmark hlast, List.nil_append, entriesValue_sections]

end FluentBuilder.Data
