import Mathlib.Data.List.Basic
import FluentBuilder.Data.Json

/-!
# Written values of JSON are read back

* `readText?_jsonText` — a text between quotes, whatever its characters are.
* `ReadsBack` — the text of a value is read as that value inside a number of others, in front of any
  rest.
* `readsBack_list`, `readsBack_table` — lists and tables of such values, up to the limit of nesting.
* `readJson?_prettyJson` — the whole text of such a value.
-/

namespace FluentBuilder.Data

open FluentBuilder.Text

variable {rest : List Char} {depth : Nat} {v : Value}

/-! ### Texts -/

theorem hexDigit_spec : ∀ n < 16, isHexDigit (hexDigit n) = true ∧ hexValue (hexDigit n) = n := by
  decide

/-- A control character is read back from the four digits of its code. -/
theorem readEscape?_control {c : Char} (h : c.toNat < 0x20) (rest : List Char) :
    readEscape? ('u' :: '0' :: '0' :: hexDigit (c.toNat / 16) :: hexDigit (c.toNat % 16) :: rest)
      = some (some c, rest) := by
  obtain ⟨hhigh, hhigh'⟩ := hexDigit_spec (c.toNat / 16) (by omega)
  obtain ⟨hlow, hlow'⟩ := hexDigit_spec (c.toNat % 16) (by omega)
  have hzero : isHexDigit '0' = true ∧ hexValue '0' = 0 := by decide
  have hquad : hexQuad? ('0' :: '0' :: hexDigit (c.toNat / 16) :: hexDigit (c.toNat % 16) :: rest)
      = some (c.toNat, rest) := by
    have hcode : ((0 * 16 + 0) * 16 + c.toNat / 16) * 16 + c.toNat % 16 = c.toNat := by omega
    simp only [hexQuad?, List.all_cons, List.all_nil, hzero.1, hzero.2, hhigh, hlow, hhigh', hlow',
      Bool.and_self, if_true, hcode]
  have hsurrogate : ¬ 0xD800 ≤ c.toNat := by omega
  have hsurrogate' : ¬ 0xDC00 ≤ c.toNat := by omega
  simp only [readEscape?, hquad, hsurrogate, hsurrogate', decide_false, Bool.false_and,
    Bool.false_eq_true, if_false, Char.ofNat_toNat]

/-- A written character is read back. -/
theorem readTextWith?_jsonEscape (c : Char) (fuel : Nat) (rest : List Char) :
    readTextWith? (fuel + 1) (jsonEscape c ++ rest)
      = (readTextWith? fuel rest).map fun r => (r.1.map (c :: ·), r.2) := by
  -- behind a backslash, what the escape stands for goes in front of the others
  have hescape : ∀ {more : List Char}, readEscape? (more ++ rest) = some (some c, rest) →
      readTextWith? (fuel + 1) (('\\' :: more) ++ rest)
        = (readTextWith? fuel rest).map fun r => (r.1.map (c :: ·), r.2) := by
    intro more hmore
    simp only [List.cons_append, readTextWith?, hmore, Option.bind_eq_bind, Option.bind_some]
    cases readTextWith? fuel rest with
    | none => rfl
    | some r =>
      obtain ⟨chars, behind⟩ := r
      cases chars <;> rfl
  unfold jsonEscape
  split
  · next h =>
    refine hescape ?_
    rcases (by simpa using h : c = '"' ∨ c = '\\') with rfl | rfl <;> rfl
  split
  · next h =>
    obtain rfl : c = '\n' := by simpa using h
    exact hescape rfl
  split
  · next h =>
    obtain rfl : c = '\r' := by simpa using h
    exact hescape rfl
  split
  · next h =>
    obtain rfl : c = '\t' := by simpa using h
    exact hescape rfl
  split
  · next h =>
    refine hescape ?_
    obtain rfl : c = Char.ofNat 8 := by rw [← beq_iff_eq.1 h, Char.ofNat_toNat]
    rfl
  split
  · next h =>
    refine hescape ?_
    obtain rfl : c = Char.ofNat 12 := by rw [← beq_iff_eq.1 h, Char.ofNat_toNat]
    rfl
  split
  · next h => exact hescape (readEscape?_control h rest)
  · next hquote _ _ _ _ _ hcontrol =>
    have hplain : (c == '"') = false ∧ (c == '\\') = false := by simpa using hquote
    simp only [List.cons_append, List.nil_append, readTextWith?, hplain.1, hplain.2,
      Bool.false_eq_true, if_false, hcontrol, Option.bind_eq_bind]
    cases readTextWith? fuel rest <;> rfl

theorem readTextWith?_flatMap (chars : List Char) {fuel : Nat} (hfuel : chars.length < fuel)
    (rest : List Char) :
    readTextWith? fuel (chars.flatMap jsonEscape ++ '"' :: rest) = some (some chars, rest) := by
  induction chars generalizing fuel with
  | nil =>
    obtain ⟨fuel, rfl⟩ : ∃ n, fuel = n + 1 := ⟨fuel - 1, by omega⟩
    rfl
  | cons c chars ih =>
    rw [List.length_cons] at hfuel
    obtain ⟨fuel, rfl⟩ : ∃ n, fuel = n + 1 := ⟨fuel - 1, by omega⟩
    rw [List.flatMap_cons, List.append_assoc, readTextWith?_jsonEscape, ih (by omega)]
    rfl

theorem length_le_flatMap_jsonEscape (chars : List Char) :
    chars.length ≤ (chars.flatMap jsonEscape).length := by
  induction chars with
  | nil => exact Nat.le_refl 0
  | cons c chars ih =>
    have hone : 1 ≤ (jsonEscape c).length := by
      unfold jsonEscape
      repeat' split
      all_goals simp
    rw [List.flatMap_cons, List.length_append, List.length_cons]
    omega

theorem toList_jsonText (s : String) :
    (jsonText s).toList = '"' :: (s.toList.flatMap jsonEscape ++ ['"']) := by
  simp [jsonText]

/-- **A written text** is read back, whatever its characters are. -/
theorem readText?_jsonText (s : String) (rest : List Char) :
    readText? (s.toList.flatMap jsonEscape ++ '"' :: rest) = some (some s, rest) := by
  have hlength := length_le_flatMap_jsonEscape s.toList
  have hread := readTextWith?_flatMap s.toList
    (show s.toList.length < (s.toList.flatMap jsonEscape ++ '"' :: rest).length + 1 by
      rw [List.length_append]
      omega) rest
  rw [readText?, hread]
  simp

/-! ### Blanks -/

/-- A character that opens a value: it is neither a blank nor the end of a list. -/
def OpensValue (c : Char) : Prop :=
  c ≠ ' ' ∧ c ≠ '\n' ∧ c ≠ '\t' ∧ c ≠ '\r' ∧ c ≠ ']'

instance : DecidablePred OpensValue := fun c =>
  inferInstanceAs (Decidable (c ≠ ' ' ∧ c ≠ '\n' ∧ c ≠ '\t' ∧ c ≠ '\r' ∧ c ≠ ']'))

theorem skipJsonBlanks_cons {c : Char}
    (h : (c == ' ' || c == '\n' || c == '\t' || c == '\r') = false) (rest : List Char) :
    skipJsonBlanks (c :: rest) = c :: rest :=
  List.dropWhile_cons_of_neg (by simp [h])

theorem OpensValue.skipJsonBlanks {c : Char} (h : OpensValue c) (rest : List Char) :
    skipJsonBlanks (c :: rest) = c :: rest :=
  skipJsonBlanks_cons (by simp [h.1, h.2.1, h.2.2.1, h.2.2.2.1]) rest

theorem skipJsonBlanks_jsonBreak (level : Nat) (rest : List Char) :
    skipJsonBlanks ((jsonBreak level).toList ++ rest) = skipJsonBlanks rest := by
  refine List.dropWhile_append_of_pos ?_
  intro c hc
  rw [jsonBreak, String.toList_ofList, List.mem_cons] at hc
  rcases hc with rfl | hc
  · rfl
  · rw [List.eq_of_mem_replicate hc]
    rfl

theorem jsonBreak_length_pos (level : Nat) : 1 ≤ (jsonBreak level).toList.length := by
  simp [jsonBreak]

/-- What stands in front of a value is passed over. -/
theorem readValueWith?_of_skip {input other : List Char}
    (h : skipJsonBlanks input = skipJsonBlanks other) (fuel : Nat) :
    readValueWith? depth fuel input = readValueWith? depth fuel other := by
  cases fuel with
  | zero => rw [readValueWith?, readValueWith?]
  | succ fuel => rw [readValueWith?, readValueWith?, h]

/-! ### Values -/

/-- The text of a value is read as the value inside `depth` others, whatever comes behind it. -/
structure ReadsBack (depth : Nat) (v : Value) : Prop where
  opens : ∀ level, ∃ c more, (v.prettyJson level).toList = c :: more ∧ OpensValue c
  reads : ∀ level fuel rest, 2 * (v.prettyJson level).toList.length ≤ fuel →
    readValueWith? depth fuel ((v.prettyJson level).toList ++ rest) = some (v, rest)

theorem ReadsBack.length_pos (h : ReadsBack depth v) (level : Nat) :
    1 ≤ (v.prettyJson level).toList.length := by
  obtain ⟨c, more, hsplit, -⟩ := h.opens level
  simp [hsplit]

/-- A value that is written as a word. -/
theorem readsBack_word (word : String) (hword : ∀ level, v.prettyJson level = word)
    (hopens : ∃ c more, word.toList = c :: more ∧ OpensValue c)
    (hreads : ∀ fuel rest, readValueWith? depth (fuel + 1) (word.toList ++ rest) = some (v, rest)) :
    ReadsBack depth v := by
  refine ⟨fun level => by rw [hword level]; exact hopens, ?_⟩
  intro level fuel rest hfuel
  rw [hword level] at hfuel ⊢
  obtain ⟨c, more, hsplit, -⟩ := hopens
  rw [hsplit, List.length_cons] at hfuel
  obtain ⟨fuel, rfl⟩ : ∃ n, fuel = n + 1 := ⟨fuel - 1, by omega⟩
  exact hreads fuel rest

theorem readsBack_null : ReadsBack depth .null :=
  readsBack_word "null" (fun level => by rw [Value.prettyJson]) ⟨'n', _, rfl, by decide⟩
    (fun fuel rest => by simp only [readValueWith?]; rfl)

theorem readsBack_bool (b : Bool) : ReadsBack depth (.bool b) := by
  cases b with
  | false =>
    exact readsBack_word "false" (fun level => by rw [Value.prettyJson]; rfl)
      ⟨'f', _, rfl, by decide⟩
      (fun fuel rest => by simp only [readValueWith?]; rfl)
  | true =>
    exact readsBack_word "true" (fun level => by rw [Value.prettyJson]; rfl)
      ⟨'t', _, rfl, by decide⟩
      (fun fuel rest => by simp only [readValueWith?]; rfl)

theorem readsBack_text (s : String) : ReadsBack depth (.text s) := by
  refine readsBack_word _ (fun level => by rw [Value.prettyJson])
    ⟨'"', _, toList_jsonText s, by decide⟩ ?_
  intro fuel rest
  have hread := readText?_jsonText s rest
  have hskip : skipJsonBlanks ('"' :: (s.toList.flatMap jsonEscape ++ '"' :: rest))
      = '"' :: (s.toList.flatMap jsonEscape ++ '"' :: rest) :=
        OpensValue.skipJsonBlanks (by decide) _
  rw [toList_jsonText, List.cons_append, List.append_assoc, List.singleton_append, readValueWith?,
    hskip]
  simp only [hread]
  rfl

/-! ### Lists -/

theorem toList_prettyItems_singleton (level : Nat) (v : Value) :
    (prettyItems level [v]).toList = (jsonBreak level).toList ++ (v.prettyJson level).toList := by
  rw [prettyItems, String.toList_append]

theorem toList_prettyItems_cons (level : Nat) (v w : Value) (items : List Value) :
    (prettyItems level (v :: w :: items)).toList
      = (jsonBreak level).toList ++ (v.prettyJson level).toList
        ++ ',' :: (prettyItems level (w :: items)).toList := by
  rw [prettyItems]
  · simp [String.toList_append]
  · simp

/-- The text of items is read back, up to the bracket behind them. -/
theorem readItemsWith?_prettyItems (v : Value) (items : List Value)
    (h : ∀ w ∈ v :: items, ReadsBack depth w) (level outer fuel : Nat)
    (hfuel : 2 * (prettyItems level (v :: items)).toList.length ≤ fuel) (rest : List Char) :
    readItemsWith? depth fuel
        ((prettyItems level (v :: items)).toList ++ ((jsonBreak outer).toList ++ ']' :: rest))
      = some (v :: items, rest) := by
  obtain ⟨hv, hothers⟩ := List.forall_mem_cons.1 h
  have hlength := hv.length_pos level
  have hbreak := jsonBreak_length_pos level
  induction items generalizing v fuel with
  | nil =>
    rw [toList_prettyItems_singleton, List.length_append] at hfuel
    obtain ⟨fuel, rfl⟩ : ∃ n, fuel = n + 1 := ⟨fuel - 1, by omega⟩
    have hclose : skipJsonBlanks ((jsonBreak outer).toList ++ ']' :: rest) = ']' :: rest := by
      rw [skipJsonBlanks_jsonBreak]
      exact skipJsonBlanks_cons rfl rest
    rw [toList_prettyItems_singleton, List.append_assoc, readItemsWith?,
      readValueWith?_of_skip (skipJsonBlanks_jsonBreak level _), hv.reads level fuel _ (by omega)]
    simp only [Option.bind_eq_bind, Option.bind_some, hclose]
    rfl
  | cons w items ih =>
    obtain ⟨hw, hothers'⟩ := List.forall_mem_cons.1 hothers
    rw [toList_prettyItems_cons, List.length_append, List.length_append, List.length_cons] at hfuel
    obtain ⟨fuel, rfl⟩ : ∃ n, fuel = n + 1 := ⟨fuel - 1, by omega⟩
    rw [toList_prettyItems_cons, List.append_assoc, List.append_assoc, List.cons_append,
      readItemsWith?, readValueWith?_of_skip (skipJsonBlanks_jsonBreak level _),
      hv.reads level fuel _ (by omega)]
    have hnext := ih w hothers fuel (by omega) hw hothers' (hw.length_pos level)
    have hcomma : ∀ more, skipJsonBlanks (',' :: more) = ',' :: more := skipJsonBlanks_cons rfl
    simp only [Option.bind_eq_bind, Option.bind_some, hcomma, hnext]
    rfl

/-- In front of items the list does not end. -/
theorem exists_skipJsonBlanks_items {w : Value} (hw : ReadsBack depth w) (level : Nat)
    (items : List Value) (rest : List Char) :
    ∃ c more, skipJsonBlanks ((prettyItems level (w :: items)).toList ++ rest) = c :: more
      ∧ c ≠ ']' := by
  obtain ⟨c, more, hsplit, hc⟩ := hw.opens level
  obtain ⟨behind, hbehind⟩ : ∃ behind, (prettyItems level (w :: items)).toList
      = (jsonBreak level).toList ++ c :: behind := by
    cases items with
    | nil => exact ⟨more, by rw [toList_prettyItems_singleton, hsplit]⟩
    | cons next items =>
      exact ⟨_, by rw [toList_prettyItems_cons, hsplit, List.append_assoc, List.cons_append]⟩
  refine ⟨c, behind ++ rest, ?_, hc.2.2.2.2⟩
  rw [hbehind, List.append_assoc, skipJsonBlanks_jsonBreak]
  exact hc.skipJsonBlanks _

/-- A list of values that are read back is read back, up to the limit of nesting. -/
theorem readsBack_list {items : List Value} (hdepth : depth < jsonDepth)
    (h : ∀ v ∈ items, ReadsBack (depth + 1) v) :
    ReadsBack depth (.list items) := by
  have hlimited : limited (depth + 1) (.list items) = .list items := if_pos hdepth
  cases items with
  | nil =>
    refine readsBack_word "[]" (fun level => by rw [Value.prettyJson]) ⟨'[', _, rfl, by decide⟩ ?_
    intro fuel rest
    rw [← hlimited]
    simp only [readValueWith?]
    rfl
  | cons v items =>
    have htext : ∀ level, (Value.prettyJson level (.list (v :: items))).toList
        = '[' :: ((prettyItems (level + 1) (v :: items)).toList
          ++ ((jsonBreak level).toList ++ [']'])) := by
      intro level
      rw [Value.prettyJson]
      · simp [String.toList_append]
      · simp
    refine ⟨fun level => ⟨'[', _, htext level, by decide⟩, ?_⟩
    intro level fuel rest hfuel
    rw [htext, List.length_cons, List.length_append] at hfuel
    obtain ⟨fuel, rfl⟩ : ∃ n, fuel = n + 1 := ⟨fuel - 1, by omega⟩
    have hitems := readItemsWith?_prettyItems v items h (level + 1) level fuel (by omega) rest
    have hopen : ∀ more, skipJsonBlanks ('[' :: more) = '[' :: more := skipJsonBlanks_cons rfl
    obtain ⟨c, more, hskip, hc⟩ :=
      exists_skipJsonBlanks_items (h v List.mem_cons_self) (level + 1) items
      ((jsonBreak level).toList ++ ']' :: rest)
    rw [htext, List.cons_append, List.append_assoc, List.append_assoc, List.singleton_append,
      readValueWith?, hopen]
    simp only [hskip, hitems]
    split
    · next heq => exact absurd (List.cons.inj heq).1 hc
    · simp only [Option.map_some, hlimited]

/-! ### Tables -/

theorem toList_prettyEntries_singleton (level : Nat) (key : String) (v : Value) :
    (prettyEntries level [(key, v)]).toList
      = (jsonBreak level).toList
        ++ ((jsonText key).toList ++ ':' :: ' ' :: (v.prettyJson level).toList) := by
  rw [prettyEntries]
  simp [String.toList_append]

theorem toList_prettyEntries_cons (level : Nat) (key : String) (v : Value) (e : String × Value)
    (entries : List (String × Value)) :
    (prettyEntries level ((key, v) :: e :: entries)).toList
      = (jsonBreak level).toList ++ ((jsonText key).toList
          ++ ':' :: ' ' :: ((v.prettyJson level).toList
            ++ ',' :: (prettyEntries level (e :: entries)).toList)) := by
  rw [prettyEntries]
  · simp [String.toList_append]
  · simp

/-- A key and the value behind it are read back, as the last entry or in front of others. -/
theorem readEntriesWith?_entry (key : String) (hv : ReadsBack depth v) {level fuel : Nat}
    (hfuel : 2 * (v.prettyJson level).toList.length ≤ fuel) {rest more : List Char} :
    (skipJsonBlanks rest = '\x7d' :: more →
      readEntriesWith? depth (fuel + 1) ((jsonBreak level).toList
          ++ ((jsonText key).toList ++ ':' :: ' ' :: ((v.prettyJson level).toList ++ rest)))
        = some ([(some key, v)], more))
    ∧ ∀ others behind, skipJsonBlanks rest = ',' :: more →
      readEntriesWith? depth fuel more = some (others, behind) →
      readEntriesWith? depth (fuel + 1) ((jsonBreak level).toList
          ++ ((jsonText key).toList ++ ':' :: ' ' :: ((v.prettyJson level).toList ++ rest)))
        = some ((some key, v) :: others, behind) := by
  have hquote : ∀ more, skipJsonBlanks ('"' :: more) = '"' :: more := skipJsonBlanks_cons rfl
  have hcolon : ∀ more, skipJsonBlanks (':' :: more) = ':' :: more := skipJsonBlanks_cons rfl
  have hread := readText?_jsonText key (':' :: ' ' :: ((v.prettyJson level).toList ++ rest))
  have hvalue : readValueWith? depth fuel (' ' :: ((v.prettyJson level).toList ++ rest))
      = some (v, rest) := by
    have hspace : ∀ more, skipJsonBlanks (' ' :: more) = skipJsonBlanks more := fun _ => rfl
    rw [← hv.reads level fuel rest hfuel]
    exact readValueWith?_of_skip (hspace _) fuel
  rw [readEntriesWith?, skipJsonBlanks_jsonBreak, toList_jsonText, List.cons_append,
    List.append_assoc, List.singleton_append, hquote]
  refine ⟨?_, ?_⟩
  · intro hend
    simp only [hread, Option.bind_eq_bind, Option.bind_some, hcolon, hvalue, hend]
    rfl
  · intro others behind hnext hothers
    simp only [hread, Option.bind_eq_bind, Option.bind_some, hcolon, hvalue, hnext, hothers]
    rfl

/-- The text of entries is read back, up to the brace behind them. -/
theorem readEntriesWith?_prettyEntries (key : String) (v : Value) (entries : List (String × Value))
    (h : ∀ e ∈ (key, v) :: entries, ReadsBack depth e.2) (level outer fuel : Nat)
    (hfuel : 2 * (prettyEntries level ((key, v) :: entries)).toList.length ≤ fuel)
    (rest : List Char) :
    readEntriesWith? depth fuel
        ((prettyEntries level ((key, v) :: entries)).toList
          ++ ((jsonBreak outer).toList ++ '\x7d' :: rest))
      = some (((key, v) :: entries).map fun e => (some e.1, e.2), rest) := by
  obtain ⟨hv, hothers⟩ : ReadsBack depth v ∧ ∀ e ∈ entries, ReadsBack depth e.2 :=
    List.forall_mem_cons.1 h
  induction entries generalizing key v fuel with
  | nil =>
    rw [toList_prettyEntries_singleton, List.length_append, List.length_append, List.length_cons,
      List.length_cons] at hfuel
    obtain ⟨fuel, rfl⟩ : ∃ n, fuel = n + 1 := ⟨fuel - 1, by omega⟩
    have hclose : skipJsonBlanks ((jsonBreak outer).toList ++ '\x7d' :: rest) = '\x7d' :: rest := by
      rw [skipJsonBlanks_jsonBreak]
      exact skipJsonBlanks_cons rfl rest
    rw [toList_prettyEntries_singleton, List.append_assoc, List.append_assoc, List.cons_append,
      List.cons_append]
    exact (readEntriesWith?_entry key hv (by omega)).1 hclose
  | cons e entries ih =>
    obtain ⟨next, w⟩ := e
    obtain ⟨hw, hothers'⟩ := List.forall_mem_cons.1 hothers
    rw [toList_prettyEntries_cons, List.length_append, List.length_append, List.length_cons,
      List.length_cons, List.length_append, List.length_cons] at hfuel
    obtain ⟨fuel, rfl⟩ : ∃ n, fuel = n + 1 := ⟨fuel - 1, by omega⟩
    have hnext := ih next w hothers fuel (by omega) hw hothers'
    rw [toList_prettyEntries_cons]
    simp only [List.append_assoc, List.cons_append]
    exact (readEntriesWith?_entry key hv (by omega)).2 _ _ (skipJsonBlanks_cons rfl _) hnext

theorem tableOf_map (entries : List (String × Value)) :
    tableOf (entries.map fun e => (some e.1, e.2)) = some entries := by
  induction entries with
  | nil => rfl
  | cons e entries ih =>
    rw [List.map_cons, tableOf, ih]
    rfl

/-- A table of values that are read back is read back, up to the limit of nesting. -/
theorem readsBack_table {entries : List (String × Value)} (hdepth : depth < jsonDepth)
    (h : ∀ e ∈ entries, ReadsBack (depth + 1) e.2) : ReadsBack depth (.table entries) := by
  have hlimited : limited (depth + 1) (.table entries) = .table entries := if_pos hdepth
  cases entries with
  | nil =>
    refine readsBack_word "\x7b\x7d" (fun level => by rw [Value.prettyJson])
      ⟨'\x7b', _, rfl, by decide⟩ ?_
    intro fuel rest
    rw [← hlimited]
    simp only [readValueWith?]
    rfl
  | cons e entries =>
    obtain ⟨key, v⟩ := e
    have htext : ∀ level, (Value.prettyJson level (.table ((key, v) :: entries))).toList
        = '\x7b' :: ((prettyEntries (level + 1) ((key, v) :: entries)).toList
            ++ ((jsonBreak level).toList ++ ['\x7d'])) := by
      intro level
      rw [Value.prettyJson]
      · simp [String.toList_append]
      · simp
    refine ⟨fun level => ⟨'\x7b', _, htext level, by decide⟩, ?_⟩
    intro level fuel rest hfuel
    rw [htext, List.length_cons, List.length_append] at hfuel
    obtain ⟨fuel, rfl⟩ : ∃ n, fuel = n + 1 := ⟨fuel - 1, by omega⟩
    have hentries := readEntriesWith?_prettyEntries key v entries h (level + 1) level fuel
      (by omega) rest
    have hopen : ∀ more, skipJsonBlanks ('\x7b' :: more) = '\x7b' :: more := skipJsonBlanks_cons rfl
    obtain ⟨more, hskip⟩ : ∃ more,
          skipJsonBlanks ((prettyEntries (level + 1) ((key, v) :: entries)).toList
        ++ ((jsonBreak level).toList ++ '\x7d' :: rest)) = '"' :: more := by
      cases entries with
      | nil =>
        rw [toList_prettyEntries_singleton, toList_jsonText, List.append_assoc,
          skipJsonBlanks_jsonBreak]
        exact ⟨_, skipJsonBlanks_cons rfl _⟩
      | cons next entries =>
        rw [toList_prettyEntries_cons, toList_jsonText, List.append_assoc, skipJsonBlanks_jsonBreak]
        exact ⟨_, skipJsonBlanks_cons rfl _⟩
    rw [htext, List.cons_append, List.append_assoc, List.append_assoc, List.singleton_append,
      readValueWith?, hopen]
    simp only [hskip, hentries, Option.map_some, tableOf_map, Option.getD_some, hlimited]
    rfl

/-! ### Whole texts -/

/-- **The text of a value is read back** as the value, whatever blanks stand behind it. -/
theorem readJson?_prettyJson_append (h : ReadsBack 0 v) (level : Nat) {blanks : String}
    (hblanks : skipJsonBlanks blanks.toList = []) :
    Value.readJson? (v.prettyJson level ++ blanks) = some v := by
  have htext : (v.prettyJson level ++ blanks).toList
      = (v.prettyJson level).toList ++ blanks.toList :=
    String.toList_append
  have hread := h.reads level (2 * (v.prettyJson level ++ blanks).toList.length + 2) blanks.toList
    (by
      rw [htext, List.length_append]
      omega)
  rw [← htext] at hread
  simp only [Value.readJson?, hread, hblanks, Option.bind_eq_bind, Option.bind_some]
  rfl

theorem readJson?_prettyJson (h : ReadsBack 0 v) (level : Nat) :
    Value.readJson? (v.prettyJson level) = some v := by
  rw [← String.append_empty (s := v.prettyJson level)]
  exact readJson?_prettyJson_append h level rfl

end FluentBuilder.Data
