import Mathlib.Data.List.Basic
import FluentBuilder.Data.TomlText

/-!
# Written texts of TOML are read back

A text is written in one of four forms.  Escapes do not depend on the form, and in a form of several
lines a quote may stand for itself as long as it does not make three in a row with those in front of
it.

* `IsEscape` — what may stand behind a backslash for a character;
* `WrittenLines` — the ways to write a text between triple quotes;
* `WrittenLines.read` — whatever is written in such a way is read back, with the quotes at its end;
* `readTomlText?_writeText` — the written form of any text is read back, in front of anything but a
  quote.
-/

namespace FluentBuilder.Data

open FluentBuilder.Text

/-! ### Escapes -/

theorem isHexDigit_upperHexDigit {n : Nat} (h : n < 16) :
    isHexDigit (upperHexDigit n) = true ∧ hexValue (upperHexDigit n) = n := by
  have hall : ∀ m : Fin 16, isHexDigit (upperHexDigit m.val) = true
      ∧ hexValue (upperHexDigit m.val) = m.val := by
    decide
  exact hall ⟨n, h⟩

/-- Four digits, two of them zeros, are read as the character that they number. -/
theorem hexCharacter?_upperHexDigit {c : Char} (h : c.toNat < 128) (rest : List Char) :
    hexCharacter? 4
        ('0' :: '0' :: upperHexDigit (c.toNat / 16) :: upperHexDigit (c.toNat % 16) :: rest)
      = some (c, rest) := by
  obtain ⟨hhigh, hhighValue⟩ := isHexDigit_upperHexDigit (n := c.toNat / 16) (by omega)
  obtain ⟨hlow, hlowValue⟩ := isHexDigit_upperHexDigit (n := c.toNat % 16) (by omega)
  have hzero : isHexDigit '0' = true ∧ hexValue '0' = 0 := by decide
  have hnumber : c.toNat / 16 * 16 + c.toNat % 16 = c.toNat := by omega
  have hsmall : c.toNat < 0xD800 := by omega
  simp [hexCharacter?, hhigh, hlow, hhighValue, hlowValue, hzero, hnumber, hsmall, Char.ofNat_toNat]

/-- What may stand behind a backslash for a character: it is read as the character, whatever
follows, and does not make the line go on. -/
structure IsEscape (c : Char) (e : List Char) : Prop where
  reads : ∀ rest, basicEscape? (e ++ rest) = some (c, rest)
  stays : ∀ rest, behindContinuation? (e ++ rest) = none

theorem isEscape_quote : IsEscape '"' ['"'] := ⟨fun _ => rfl, fun _ => rfl⟩

theorem isEscape_backslash : IsEscape '\\' ['\\'] := ⟨fun _ => rfl, fun _ => rfl⟩

theorem isEscape_newline : IsEscape '\n' ['n'] := ⟨fun _ => rfl, fun _ => rfl⟩

/-- The written form of a control is a backslash and an escape of it. -/
theorem exists_isEscape_controlEscape {c : Char} (h : c.toNat < 128) :
    ∃ e, IsEscape c e ∧ controlEscape c = '\\' :: e := by
  unfold controlEscape
  split
  · next hb =>
    have hc : c = Char.ofNat 8 := by rw [← Char.ofNat_toNat c, eq_of_beq hb]
    subst hc
    exact ⟨['b'], ⟨fun _ => rfl, fun _ => rfl⟩, rfl⟩
  split
  · next ht =>
    rw [eq_of_beq ht]
    exact ⟨['t'], ⟨fun _ => rfl, fun _ => rfl⟩, rfl⟩
  split
  · next hf =>
    have hc : c = Char.ofNat 12 := by rw [← Char.ofNat_toNat c, eq_of_beq hf]
    subst hc
    exact ⟨['f'], ⟨fun _ => rfl, fun _ => rfl⟩, rfl⟩
  split
  · next hr =>
    rw [eq_of_beq hr]
    exact ⟨['r'], ⟨fun _ => rfl, fun _ => rfl⟩, rfl⟩
  · refine ⟨['u', '0', '0', upperHexDigit (c.toNat / 16), upperHexDigit (c.toNat % 16)],
      ⟨?_, fun _ => rfl⟩, rfl⟩
    exact fun rest => hexCharacter?_upperHexDigit h rest

/-! ### Texts on one line -/

/-- A character of an escaped text is an escape, or stands for itself. -/
theorem escapeBasic_cons (c : Char) (cs : List Char) :
    (∃ e, IsEscape c e ∧ escapeBasic (c :: cs) = '\\' :: (e ++ escapeBasic cs))
      ∨ (c ≠ '"' ∧ c ≠ '\\' ∧ isControl c = false
        ∧ escapeBasic (c :: cs) = c :: escapeBasic cs) := by
  by_cases hquote : c = '"'
  · subst hquote
    exact .inl ⟨_, isEscape_quote, rfl⟩
  by_cases hback : c = '\\'
  · subst hback
    exact .inl ⟨_, isEscape_backslash, rfl⟩
  by_cases hnewline : c = '\n'
  · subst hnewline
    exact .inl ⟨_, isEscape_newline, rfl⟩
  by_cases hcontrol : c.toNat < 0x20 ∨ c.toNat = 0x7F
  · obtain ⟨e, he, heq⟩ := exists_isEscape_controlEscape (c := c) (by omega)
    refine .inl ⟨e, he, ?_⟩
    simp [escapeBasic, hquote, hback, hnewline, hcontrol, heq]
  · refine .inr ⟨hquote, hback, ?_, ?_⟩
    · simp only [not_or] at hcontrol
      simp [isControl, hcontrol]
    · simp [escapeBasic, hquote, hback, hnewline, hcontrol]

theorem readBasicWith?_escapeBasic (cs rest : List Char) {fuel : Nat} (hfuel : cs.length < fuel) :
    readBasicWith? fuel (escapeBasic cs ++ '"' :: rest) = some (cs, rest) := by
  induction cs generalizing fuel with
  | nil =>
    obtain ⟨fuel, rfl⟩ : ∃ n, fuel = n + 1 := ⟨fuel - 1, by omega⟩
    rfl
  | cons c cs ih =>
    rw [List.length_cons] at hfuel
    obtain ⟨fuel, rfl⟩ : ∃ n, fuel = n + 1 := ⟨fuel - 1, by omega⟩
    have hrest := ih (show cs.length < fuel by omega)
    rcases escapeBasic_cons c cs with ⟨e, he, heq⟩ | ⟨hquote, hback, hcontrol, heq⟩
    · rw [heq, List.cons_append, List.append_assoc]
      simp [readBasicWith?, he.reads, hrest]
    · rw [heq, List.cons_append]
      simp [readBasicWith?, hquote, hback, hcontrol, hrest]

theorem length_le_escapeBasic (cs : List Char) : cs.length ≤ (escapeBasic cs).length := by
  induction cs with
  | nil => exact Nat.le_refl 0
  | cons c cs ih =>
    rcases escapeBasic_cons c cs with ⟨e, -, heq⟩ | ⟨-, -, -, heq⟩
    · rw [heq]
      simp only [List.length_cons, List.length_append]
      omega
    · rw [heq]
      simp only [List.length_cons]
      omega

theorem readBasic?_escapeBasic (cs rest : List Char) :
    readBasic? (escapeBasic cs ++ '"' :: rest) = some (cs, rest) := by
  refine readBasicWith?_escapeBasic cs rest ?_
  have hlength := length_le_escapeBasic cs
  rw [List.length_append]
  omega

theorem readLiteral?_append {cs : List Char} (hplain : ∀ c ∈ cs, isControl c = false)
    (hquote : '\'' ∉ cs) (rest : List Char) :
    readLiteral? (cs ++ '\'' :: rest) = some (cs, rest) := by
  induction cs with
  | nil => rfl
  | cons c cs ih =>
    obtain ⟨hc, hcs⟩ := List.forall_mem_cons.1 hplain
    rw [List.mem_cons, not_or] at hquote
    simp [readLiteral?, hc, Ne.symm hquote.1, ih hcs hquote.2]

/-! ### Texts on several lines -/

/-- The ways to write a text between triple quotes. `run` counts the quotes directly in front;
`escapes` says whether backslashes are special. -/
inductive WrittenLines (quote : Char) (escapes : Bool) : Nat → List Char → List Char → Prop where
  | nil {run : Nat} : WrittenLines quote escapes run [] []
  | quote {run : Nat} {w cs : List Char} (hrun : run < 2)
    (h : WrittenLines quote escapes (run + 1) w cs) :
    WrittenLines quote escapes run (quote :: w) (quote :: cs)
  | newline {run : Nat} {w cs : List Char} (h : WrittenLines quote escapes 0 w cs) :
    WrittenLines quote escapes run ('\n' :: w) ('\n' :: cs)
  | plain {run : Nat} {c : Char} {w cs : List Char} (hquote : c ≠ quote)
    (hcontrol : isControl c = false)
    (hback : escapes = true → c ≠ '\\') (h : WrittenLines quote escapes 0 w cs) :
    WrittenLines quote escapes run (c :: w) (c :: cs)
  | escape {run : Nat} {c : Char} {e w cs : List Char} (hescapes : escapes = true)
    (he : IsEscape c e)
    (h : WrittenLines quote escapes 0 w cs) : WrittenLines quote escapes run ('\\' :: (e ++ w))
      (c :: cs)

/-- The characters that can open and close a text of several lines. -/
structure IsQuote (quote : Char) : Prop where
  ne_backslash : quote ≠ '\\'
  ne_newline : quote ≠ '\n'
  ne_return : quote ≠ '\r'
  plain : isControl quote = false

theorem isQuote_double : IsQuote '"' := ⟨by decide, by decide, by decide, by decide⟩

theorem isQuote_single : IsQuote '\'' := ⟨by decide, by decide, by decide, by decide⟩

variable {quote : Char} {escapes : Bool} {run : Nat} {w cs rest : List Char}

theorem splitNewline?_cons_of_plain {c : Char} (h : isControl c = false) (rest : List Char) :
    splitNewline? (c :: rest) = none := by
  have hnewline : c ≠ '\n' := by rintro rfl; revert h; decide
  have hreturn : c ≠ '\r' := by rintro rfl; revert h; decide
  unfold splitNewline?
  split
  · next heq => exact absurd (List.cons.inj heq).1 hnewline
  · next heq => exact absurd (List.cons.inj heq).1 hreturn
  · rfl

theorem WrittenLines.length_le (h : WrittenLines quote escapes run w cs) :
    cs.length ≤ w.length := by
  induction h with
  | nil => exact Nat.le_refl 0
  | quote _ _ ih => simpa using ih
  | newline _ ih => simpa using ih
  | plain _ _ _ _ ih => simpa using ih
  | escape _ _ _ ih =>
    simp only [List.length_cons, List.length_append]
    omega

/-- Quotes that end a text close it together with the three behind them. -/
theorem closingQuotes?_replicate {k : Nat} (hk : k ≤ 2) (hrest : rest.head? ≠ some quote) :
    closingQuotes? quote (List.replicate k quote ++ quote :: quote :: quote :: rest)
      = some (List.replicate k quote, rest) := by
  have htake : (List.replicate k quote ++ quote :: quote :: quote :: rest).takeWhile (· == quote)
      = List.replicate (k + 3) quote := by
    have hbehind : rest.takeWhile (· == quote) = [] := by
      cases rest with
      | nil => rfl
      | cons c more =>
        have hc : c ≠ quote := by simpa using hrest
        simp [hc]
    rw [List.takeWhile_append_of_pos (by simp [List.mem_replicate])]
    simp [hbehind, List.replicate_add]
  have hcount : min 5 (k + 3) = k + 3 := by omega
  have hmany : ¬ k + 3 < 3 := by omega
  simp only [closingQuotes?, htake, List.length_replicate, hcount, if_neg hmany, Nat.add_sub_cancel]
  have hsplit : List.replicate k quote ++ quote :: quote :: quote :: rest
      = List.replicate (k + 3) quote ++ rest := by
    simp [List.replicate_add]
  rw [hsplit, List.drop_left' (by simp)]

theorem closingQuotes?_eq_none {input : List Char} (h : (input.takeWhile (· == quote)).length < 3) :
    closingQuotes? quote input = none := by
  have hcount : min 5 (input.takeWhile (· == quote)).length < 3 := by omega
  simp only [closingQuotes?, if_pos hcount]

/-- What is written consists of quotes up to its end, or has fewer than three of them in front of
something else. -/
theorem WrittenLines.quotes_or_few (hquote : IsQuote quote)
    (h : WrittenLines quote escapes run w cs) (hrun : run ≤ 2) :
    (∃ k, run + k ≤ 2 ∧ w = List.replicate k quote ∧ cs = List.replicate k quote)
      ∨ ∀ tail, run + ((w ++ tail).takeWhile (· == quote)).length ≤ 2 := by
  induction h with
  | nil => exact .inl ⟨0, hrun, rfl, rfl⟩
  | quote hlt _ ih =>
    rcases ih (by omega) with ⟨k, hk, rfl, rfl⟩ | hfew
    · exact .inl ⟨k + 1, by omega, rfl, rfl⟩
    · refine .inr ?_
      intro tail
      have := hfew tail
      simp only [List.cons_append, List.takeWhile_cons, beq_self_eq_true, if_true, List.length_cons]
      omega
  | newline _ _ =>
    refine .inr ?_
    intro tail
    simpa [Ne.symm hquote.ne_newline] using hrun
  | plain hne _ _ _ _ =>
    refine .inr ?_
    intro tail
    simpa [hne] using hrun
  | escape _ _ _ _ =>
    refine .inr ?_
    intro tail
    simpa [Ne.symm hquote.ne_backslash] using hrun

theorem readLinesWith?_of_close {fuel : Nat} {input : List Char} {r : List Char × List Char}
    (h : closingQuotes? quote input = some r) :
    readLinesWith? quote escapes (fuel + 1) input = some r := by
  cases input with
  | nil => simp [closingQuotes?] at h
  | cons c rest => simp [readLinesWith?, h]

theorem closingQuotes?_cons_of_ne {c : Char} (h : c ≠ quote) :
    closingQuotes? quote (c :: rest) = none := by
  apply closingQuotes?_eq_none
  simp [h]

/-- A character that is not special stands for itself. -/
theorem readLinesWith?_cons_plain {c : Char} (hclose : closingQuotes? quote (c :: rest) = none)
    (hcontrol : isControl c = false) (hback : escapes = true → c ≠ '\\') (fuel : Nat) :
    readLinesWith? quote escapes (fuel + 1) (c :: rest)
      = (readLinesWith? quote escapes fuel rest).map fun r => (c :: r.1, r.2) := by
  have hspecial : (escapes && c == '\\') = false := by
    cases escapes with
    | false => rfl
    | true => simpa using hback rfl
  simp only [readLinesWith?, hclose, splitNewline?_cons_of_plain hcontrol, hspecial, hcontrol,
    Bool.false_eq_true, if_false]
  cases readLinesWith? quote escapes fuel rest <;> rfl

theorem readLinesWith?_newline (hquote : IsQuote quote) (fuel : Nat) :
    readLinesWith? quote escapes (fuel + 1) ('\n' :: rest)
      = (readLinesWith? quote escapes fuel rest).map fun r => ('\n' :: r.1, r.2) := by
  simp only [readLinesWith?, closingQuotes?_cons_of_ne (Ne.symm hquote.ne_newline), splitNewline?]
  cases readLinesWith? quote escapes fuel rest <;> rfl

theorem readLinesWith?_escape (hquote : IsQuote quote) {c : Char} {e : List Char}
    (he : IsEscape c e) (fuel : Nat) :
    readLinesWith? quote true (fuel + 1) ('\\' :: (e ++ rest))
      = (readLinesWith? quote true fuel rest).map fun r => (c :: r.1, r.2) := by
  simp only [readLinesWith?, closingQuotes?_cons_of_ne (Ne.symm hquote.ne_backslash),
    splitNewline?_cons_of_plain (c := '\\') rfl, he.stays, he.reads, Bool.true_and,
    beq_self_eq_true, if_true,
    Option.bind_eq_bind, Option.bind_some]
  cases readLinesWith? quote true fuel rest <;> rfl

/-- **What is written between triple quotes is read back**, if the quotes are not followed by
another one. -/
theorem WrittenLines.read (hquote : IsQuote quote) (h : WrittenLines quote escapes run w cs)
    (hrun : run ≤ 2) (hrest : rest.head? ≠ some quote) {fuel : Nat} (hfuel : cs.length < fuel) :
    readLinesWith? quote escapes fuel (w ++ quote :: quote :: quote :: rest) = some (cs, rest) := by
  induction h generalizing fuel with
  | nil =>
    obtain ⟨fuel, rfl⟩ : ∃ n, fuel = n + 1 := ⟨fuel - 1, by omega⟩
    exact readLinesWith?_of_close (closingQuotes?_replicate (k := 0) (by omega) hrest)
  | @quote run w cs hlt hw ih =>
    rw [List.length_cons] at hfuel
    obtain ⟨fuel, rfl⟩ : ∃ n, fuel = n + 1 := ⟨fuel - 1, by omega⟩
    -- the quotes ahead end the text, or are too few to close it
    rcases (WrittenLines.quote hlt hw).quotes_or_few hquote hrun with ⟨k, hk, hwk, hcsk⟩ | hfew
    · rw [hwk, hcsk]
      exact readLinesWith?_of_close (closingQuotes?_replicate (by omega) hrest)
    · have hclose : closingQuotes? quote (quote :: w ++ quote :: quote :: quote :: rest)
          = none := by
        apply closingQuotes?_eq_none
        have := hfew (quote :: quote :: quote :: rest)
        omega
      rw [List.cons_append] at hclose ⊢
      rw [readLinesWith?_cons_plain hclose hquote.plain (fun _ => hquote.ne_backslash),
        ih (by omega) (by omega)]
      rfl
  | newline _ ih =>
    rw [List.length_cons] at hfuel
    obtain ⟨fuel, rfl⟩ : ∃ n, fuel = n + 1 := ⟨fuel - 1, by omega⟩
    rw [List.cons_append, readLinesWith?_newline hquote, ih (by omega) (by omega)]
    rfl
  | plain hne hcontrol hback _ ih =>
    rw [List.length_cons] at hfuel
    obtain ⟨fuel, rfl⟩ : ∃ n, fuel = n + 1 := ⟨fuel - 1, by omega⟩
    rw [List.cons_append, readLinesWith?_cons_plain (closingQuotes?_cons_of_ne hne) hcontrol hback,
      ih (by omega) (by omega)]
    rfl
  | escape hescapes he _ ih =>
    rw [List.length_cons] at hfuel
    obtain ⟨fuel, rfl⟩ : ∃ n, fuel = n + 1 := ⟨fuel - 1, by omega⟩
    subst hescapes
    rw [List.cons_append, List.append_assoc, readLinesWith?_escape hquote he,
      ih (by omega) (by omega)]
    rfl

/-- A line end that is read in front of a written text is one of the text. -/
theorem WrittenLines.behindNewline?_eq_none (hquote : IsQuote quote)
    (h : WrittenLines quote escapes run w cs) (hline : '\n' ∉ cs) :
    behindNewline? (w ++ quote :: quote :: quote :: rest) = none := by
  unfold behindNewline?
  cases h with
  | nil => rw [List.nil_append, splitNewline?_cons_of_plain hquote.plain, Option.map_none]
  | quote _ _ => rw [List.cons_append, splitNewline?_cons_of_plain hquote.plain, Option.map_none]
  | newline _ => exact absurd List.mem_cons_self hline
  | plain _ hcontrol _ _ =>
    rw [List.cons_append, splitNewline?_cons_of_plain hcontrol, Option.map_none]
  | escape _ _ _ => rfl

/-- The same behind the opening quotes, with the line end that is put in front of a text that has
one itself. -/
theorem WrittenLines.readLines? (hquote : IsQuote quote) (h : WrittenLines quote escapes 0 w cs)
    (hrest : rest.head? ≠ some quote) :
    readLines? quote escapes ((if cs.contains '\n' then ['\n'] else []) ++ w
      ++ quote :: quote :: quote :: rest)
      = some (cs, rest) := by
  have hlength := h.length_le
  unfold Data.readLines?
  split
  · refine h.read hquote (by omega) hrest ?_
    simp only [List.length_append, List.length_cons]
    omega
  · next hline =>
    rw [List.nil_append, h.behindNewline?_eq_none hquote (by simpa using hline), Option.getD_none]
    refine h.read hquote (by omega) hrest ?_
    simp only [List.length_append, List.length_cons]
    omega

/-! ### The form that a text gets -/

/-- With escapes every text is written in lines. -/
theorem writtenLines_escapeLines (cs : List Char) {run : Nat} (hrun : run ≤ 2) :
    WrittenLines '"' true run (escapeLines run cs) cs := by
  induction cs generalizing run with
  | nil => exact .nil
  | cons c cs ih =>
    have hothers := ih (show 0 ≤ 2 by omega)
    by_cases hquote : c = '"'
    · subst hquote
      by_cases hfull : run = 2
      · have heq : escapeLines run ('"' :: cs) = '\\' :: (['"'] ++ escapeLines 0 cs) := by
          simp [escapeLines, hfull]
        rw [heq]
        exact .escape rfl isEscape_quote hothers
      · have heq : escapeLines run ('"' :: cs) = '"' :: escapeLines (run + 1) cs := by
          simp [escapeLines, hfull]
        rw [heq]
        exact .quote (by omega) (ih (by omega))
    by_cases hback : c = '\\'
    · subst hback
      exact .escape (e := ['\\']) rfl isEscape_backslash hothers
    by_cases hnewline : c = '\n'
    · subst hnewline
      exact .newline hothers
    by_cases hcontrol : c.toNat < 0x20 ∨ c.toNat = 0x7F
    · obtain ⟨e, he, hescape⟩ := exists_isEscape_controlEscape (c := c) (by omega)
      have heq : escapeLines run (c :: cs) = '\\' :: (e ++ escapeLines 0 cs) := by
        simp [escapeLines, hquote, hback, hnewline, hcontrol, hescape]
      rw [heq]
      exact .escape rfl he hothers
    · have heq : escapeLines run (c :: cs) = c :: escapeLines 0 cs := by
        simp [escapeLines, hquote, hback, hnewline, hcontrol]
      rw [heq]
      simp only [not_or] at hcontrol
      exact .plain hquote (by simp [isControl, hcontrol]) (fun _ => hback) hothers

theorem le_longestRun (quote : Char) (cs : List Char) (run : Nat) :
    run ≤ longestRun quote cs run := by
  induction cs generalizing run with
  | nil => exact Nat.le_refl run
  | cons c cs ih =>
    unfold longestRun
    split
    · exact Nat.le_trans (Nat.le_succ run) (ih (run + 1))
    · exact Nat.le_max_left _ _

/-- A text without controls in which no three quotes meet is written in lines as it stands. -/
theorem writtenLines_self (cs : List Char) (hplain : ∀ c ∈ cs, isControl c = false ∨ c = '\n')
    (hlongest : longestRun quote cs run < 3) : WrittenLines quote false run cs cs := by
  induction cs generalizing run with
  | nil => exact .nil
  | cons c cs ih =>
    obtain ⟨hc, hcs⟩ := List.forall_mem_cons.1 hplain
    unfold longestRun at hlongest
    by_cases hquote : c = quote
    · subst hquote
      rw [if_pos (beq_self_eq_true c)] at hlongest
      have hrun := le_longestRun c cs (run + 1)
      exact .quote (by omega) (ih hcs hlongest)
    · rw [if_neg (by simpa using hquote)] at hlongest
      have hothers := ih hcs (Nat.lt_of_le_of_lt (Nat.le_max_right _ _) hlongest)
      rcases hc with hcontrol | rfl
      · exact .plain hquote hcontrol nofun hothers
      · exact .newline hothers

/-- What a text without controls consists of. -/
theorem forall_plain_of_any {cs : List Char}
    (h : (cs.any fun c => isControl c && c != '\n') = false) :
    ∀ c ∈ cs, isControl c = false ∨ c = '\n' := by
  intro c hc
  have := List.any_eq_false.1 h c hc
  by_cases hnewline : c = '\n'
  · exact .inr hnewline
  · exact .inl (by simpa [hnewline] using this)

/-- A text is written as it stands on one line only if it has no controls and no quote. -/
theorem textForm_literal {cs : List Char} (h : textForm cs = .literal) :
    (∀ c ∈ cs, isControl c = false) ∧ '\'' ∉ cs := by
  simp only [textForm] at h
  split at h
  · cases h
  split at h
  · next hform =>
    simp only [Bool.and_eq_true, Bool.not_eq_true'] at hform
    obtain ⟨⟨hcontrol, hline⟩, hquote⟩ := hform
    refine ⟨?_, by simpa using hquote⟩
    intro c hc
    rcases forall_plain_of_any hcontrol c hc with hplain | rfl
    · exact hplain
    · simp [hc] at hline
  · split at h
    · cases h
    split at h
    · cases h
    split at h <;> cases h

/-- A text is written as it stands on several lines only if it has no controls and no three quotes
in a row. -/
theorem textForm_literalLines {cs : List Char} (h : textForm cs = .literalLines) :
    (∀ c ∈ cs, isControl c = false ∨ c = '\n') ∧ longestRun '\'' cs 0 < 3 := by
  simp only [textForm] at h
  split at h
  · cases h
  split at h
  · cases h
  split at h
  · cases h
  split at h
  · next hform =>
    simp only [Bool.and_eq_true, Bool.not_eq_true', decide_eq_true_eq] at hform
    exact ⟨forall_plain_of_any hform.1, hform.2⟩
  · split at h <;> cases h

/-! ### All forms -/

/-- One quote is told from three by what stands behind it. -/
theorem readTomlText?_basic {input : List Char} (hopen : ∀ more, input ≠ '"' :: '"' :: more) :
    readTomlText? ('"' :: input) = readBasic? input := by
  unfold readTomlText?
  split
  · next heq => exact absurd (List.cons.inj heq).2 (hopen _)
  · next heq => exact absurd (List.cons.inj heq).1 (by decide)
  · next heq => rw [(List.cons.inj heq).2]
  · next heq => exact absurd (List.cons.inj heq).1 (by decide)
  · next hno _ => exact absurd rfl (hno input)

theorem readTomlText?_literal {input : List Char} (hopen : ∀ more, input ≠ '\'' :: '\'' :: more) :
    readTomlText? ('\'' :: input) = readLiteral? input := by
  unfold readTomlText?
  split
  · next heq => exact absurd (List.cons.inj heq).1 (by decide)
  · next heq => exact absurd (List.cons.inj heq).2 (hopen _)
  · next heq => exact absurd (List.cons.inj heq).1 (by decide)
  · next heq => rw [(List.cons.inj heq).2]
  · next hno => exact absurd rfl (hno input)

/-- The escaped form of a text does not open with a quote. -/
theorem escapeBasic_ne_quotes {cs rest : List Char} (hrest : rest.head? ≠ some '"')
    (more : List Char) :
    escapeBasic cs ++ '"' :: rest ≠ '"' :: '"' :: more := by
  intro heq
  cases cs with
  | nil =>
    have hhead := congrArg List.head? (List.cons.inj heq).2
    exact hrest hhead
  | cons c cs =>
    rcases escapeBasic_cons c cs with ⟨e, -, hcons⟩ | ⟨hquote, -, -, hcons⟩
    · rw [hcons] at heq
      exact absurd (List.cons.inj heq).1 (by decide)
    · rw [hcons] at heq
      exact hquote (List.cons.inj heq).1

/-- What may follow a written text: anything but a quote. -/
def NoQuoteAhead (rest : List Char) : Prop :=
  rest.head? ≠ some '"' ∧ rest.head? ≠ some '\''

/-- **The written form of a text is read back**, whatever the text. -/
theorem readTomlText?_writeText (s : String) {rest : List Char} (hrest : NoQuoteAhead rest) :
    readTomlText? ((writeText s).toList ++ rest) = some (s.toList, rest) := by
  unfold writeText
  simp only [String.toList_ofList]
  cases hform : textForm s.toList with
  | basic =>
    simp only [List.cons_append, List.append_assoc, List.nil_append]
    rw [readTomlText?_basic (escapeBasic_ne_quotes hrest.1), readBasic?_escapeBasic]
  | literal =>
    obtain ⟨hplain, hquote⟩ := textForm_literal hform
    simp only [List.cons_append, List.append_assoc, List.nil_append]
    rw [readTomlText?_literal, readLiteral?_append hplain hquote]
    intro more heq
    cases hs : s.toList with
    | nil =>
      rw [hs] at heq
      exact hrest.2 (congrArg List.head? (List.cons.inj heq).2)
    | cons c cs =>
      rw [hs] at heq hquote
      rw [(List.cons.inj heq).1] at hquote
      exact hquote List.mem_cons_self
  | basicLines =>
    simp only [List.cons_append, List.append_assoc, List.nil_append]
    have hread :=
      (writtenLines_escapeLines s.toList (show 0 ≤ 2 by omega)).readLines? isQuote_double hrest.1
    rw [List.append_assoc] at hread
    exact hread
  | literalLines =>
    obtain ⟨hplain, hlongest⟩ := textForm_literalLines hform
    simp only [List.cons_append, List.append_assoc, List.nil_append]
    have hread := (writtenLines_self s.toList hplain hlongest).readLines? isQuote_single hrest.2
    rw [List.append_assoc] at hread
    exact hread

/-- A written text opens with a quote. -/
theorem exists_quote_writeText (s : String) :
    ∃ quote w, (writeText s).toList = quote :: w ∧ IsQuote quote
    ∧ (quote = '"' ∨ quote = '\'') := by
  unfold writeText
  simp only [String.toList_ofList]
  cases textForm s.toList with
  | basic => exact ⟨'"', _, rfl, isQuote_double, .inl rfl⟩
  | literal => exact ⟨'\'', _, rfl, isQuote_single, .inr rfl⟩
  | basicLines => exact ⟨'"', _, rfl, isQuote_double, .inl rfl⟩
  | literalLines => exact ⟨'\'', _, rfl, isQuote_single, .inr rfl⟩

end FluentBuilder.Data
