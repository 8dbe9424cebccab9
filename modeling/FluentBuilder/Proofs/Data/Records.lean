import Mathlib.Data.List.Basic
import FluentBuilder.Data.Decoder

/-!
# Records that are read

* `Reads` — a reader takes a record apart, one member after the other.
* `reads_required_iff`, `reads_optional_iff` — what one member of a table has to be like, and what
  is left.
* `record?_table_iff`, `record?_table` — a whole table.
* `Spells` — a table with the entries of a record in any order, without defaults and with unknown
  entries.
* `Positional` — a reader gives the same for values in the order of the members as for the table of
  these values; `record?_list` is the whole record.
-/

namespace FluentBuilder.Data

variable {α β : Type} {key : String} {v : Value} {read : Value → Option α}
  {entries : List (String × Value)}

/-! ### Members -/

/-- What a reader does with the member that it has found, or without one. -/
def received (missing : RecordReader α) (read : Value → Option α) : Option Value → RecordReader α
  | some v =>
    match read v with
    | some a => pure a
    | none => failure
  | none => missing

theorem required_eq (key : String) (read : Value → Option α) :
    required key read = nextMember key >>= received failure read := rfl

theorem optional_eq (key : String) (default : α) (read : Value → Option α) :
    optional key default read = nextMember key >>= received (pure default) read := rfl

/-! ### Tables -/

/-- A reader finds a value in the members of a record and leaves the rest of them. -/
def Reads (reader : RecordReader α) (members : Members) (a : α) (rest : Members) : Prop :=
  reader members = some (a, rest)

/-- The entries with other keys. -/
def without (key : String) (entries : List (String × Value)) : List (String × Value) :=
  entries.filter fun e => e.1 != key

/-- There is one entry with a key, and its value is read. -/
def HasMember (entries : List (String × Value)) (key : String) (read : Value → Option α) (a : α) :
    Prop :=
  ∃ v, valuesAt key entries = [v] ∧ read v = some a

/-- There is one entry with a key, and its value is read, or there is none and the default stands
for it. -/
def HasMemberOr (default : α) (entries : List (String × Value)) (key : String)
    (read : Value → Option α) (a : α) :
    Prop :=
  HasMember entries key read a ∨ (valuesAt key entries = [] ∧ a = default)

theorem reads_pure_iff {a b : α} {members rest : Members} :
    Reads (pure a) members b rest ↔ a = b ∧ members = rest := by
  show some (a, members) = some (b, rest) ↔ _
  simp

theorem reads_bind_iff {reader : RecordReader α} {next : α → RecordReader β}
    {members last : Members} {b : β} :
    Reads (reader >>= next) members b last
      ↔ ∃ a rest, Reads reader members a rest ∧ Reads (next a) rest b last := by
  show (reader members).bind (fun p => next p.1 p.2) = some (b, last) ↔ _
  simp only [Option.bind_eq_some_iff, Prod.exists]
  rfl

theorem reads_nextMember_iff {found : Option Value} {rest : Members} :
    Reads (nextMember key) (.keyed entries) found rest
      ↔ valuesAt key entries = found.toList ∧ rest = .keyed (without key entries) := by
  have hnone : valuesAt key entries = [] → without key entries = entries := by
    intro h
    rw [valuesAt, List.map_eq_nil_iff, List.filter_eq_nil_iff] at h
    refine List.filter_eq_self.2 ?_
    intro e he
    simpa using h e he
  unfold Reads
  match hvalues : valuesAt key entries with
  | [] =>
    rw [nextMember, hvalues]
    cases found with
    | none => simp [hnone hvalues, eq_comm]
    | some v => simp
  | [v] =>
    rw [nextMember, hvalues]
    cases found with
    | none => simp
    | some w => simp [without, eq_comm]
  | v :: w :: more =>
    rw [nextMember, hvalues]
    cases found <;> simp

theorem reads_received_iff {missing : RecordReader α} {found : Option Value}
    {members rest : Members} {a : α} :
    Reads (received missing read found) members a rest
      ↔ (∃ v, found = some v ∧ read v = some a ∧ members = rest)
        ∨ (found = none ∧ Reads missing members a rest) := by
  cases found with
  | none => simp [received]
  | some v =>
    cases hread : read v with
    | none =>
      have : ¬ Reads (failure : RecordReader α) members a rest := fun h => nomatch h
      simp [received, hread, this]
    | some b => simp [received, hread, reads_pure_iff]

theorem reads_required_iff {a : α} {rest : Members} :
    Reads (required key read) (.keyed entries) a rest
      ↔ HasMember entries key read a ∧ rest = .keyed (without key entries) := by
  have hfailure : ∀ members, ¬ Reads (failure : RecordReader α) members a rest :=
    fun _ h => nomatch h
  rw [required_eq, reads_bind_iff]
  simp only [reads_nextMember_iff, reads_received_iff, hfailure, and_false, or_false, HasMember]
  refine ⟨?_, ?_⟩
  · rintro ⟨_, _, ⟨hvalues, rfl⟩, v, rfl, hread, rfl⟩
    exact ⟨⟨v, hvalues, hread⟩, rfl⟩
  · rintro ⟨⟨v, hvalues, hread⟩, rfl⟩
    exact ⟨some v, _, ⟨hvalues, rfl⟩, v, rfl, hread, rfl⟩

theorem reads_optional_iff {a default : α} {rest : Members} :
    Reads (optional key default read) (.keyed entries) a rest
      ↔ HasMemberOr default entries key read a ∧ rest = .keyed (without key entries) := by
  rw [optional_eq, reads_bind_iff]
  simp only [reads_nextMember_iff, reads_received_iff, reads_pure_iff, HasMemberOr, HasMember]
  refine ⟨?_, ?_⟩
  · rintro ⟨_, _, ⟨hvalues, rfl⟩, ⟨v, rfl, hread, rfl⟩ | ⟨rfl, rfl, rfl⟩⟩
    · exact ⟨.inl ⟨v, hvalues, hread⟩, rfl⟩
    · exact ⟨.inr ⟨hvalues, rfl⟩, rfl⟩
  · rintro ⟨⟨v, hvalues, hread⟩ | ⟨hvalues, rfl⟩, rfl⟩
    · exact ⟨some v, _, ⟨hvalues, rfl⟩, .inl ⟨v, rfl, hread, rfl⟩⟩
    · exact ⟨none, _, ⟨hvalues, rfl⟩, .inr ⟨rfl, rfl, rfl⟩⟩

theorem reads_required_bind_iff {next : α → RecordReader β} {b : β} {last : Members} :
    Reads (required key read >>= next) (.keyed entries) b last
      ↔ ∃ a, HasMember entries key read a
        ∧ Reads (next a) (.keyed (without key entries)) b last := by
  simp only [reads_bind_iff, reads_required_iff, and_assoc, exists_and_left, exists_eq_left]

theorem reads_optional_bind_iff {default : α} {next : α → RecordReader β} {b : β} {last : Members} :
    Reads (optional key default read >>= next) (.keyed entries) b last
      ↔ ∃ a, HasMemberOr default entries key read a
        ∧ Reads (next a) (.keyed (without key entries)) b last := by
  simp only [reads_bind_iff, reads_optional_iff, and_assoc, exists_and_left, exists_eq_left]

/-- What is read from a table leaves entries that the format passes over. -/
theorem record?_table_iff {dialect : Dialect} {reader : RecordReader α} {a : α} :
    Value.record? dialect reader (.table entries) = some a
      ↔ ∃ rest, Reads reader (.keyed entries) a rest
          ∧ match rest with
            | .keyed unknown => ∀ e ∈ unknown, dialect.skips e.2 = true
            | .listed items => items = [] ∨ dialect.surplus = true := by
  show (reader (.keyed entries)).bind _ = some a ↔ _
  unfold Reads
  cases reader (.keyed entries) with
  | none => simp
  | some p =>
    obtain ⟨b, rest⟩ := p
    match rest with
    | .keyed unknown => simp [and_comm]
    | .listed [] => simp
    | .listed (v :: items) => simp [and_comm]

theorem valuesAt_without {other : String} (h : other ≠ key) :
    valuesAt other (without key entries) = valuesAt other entries := by
  rw [valuesAt, valuesAt, without, List.filter_filter]
  congr 1
  refine List.filter_congr ?_
  intro e _
  by_cases he : e.1 = other
  · simp [he, h]
  · simp [he]

theorem mem_without {e : String × Value} : e ∈ without key entries ↔ e ∈ entries ∧ e.1 ≠ key := by
  simp only [without, List.mem_filter, bne_iff_ne]

theorem hasMember_without {other : String} {a : α} (h : other ≠ key) :
    HasMember (without key entries) other read a ↔ HasMember entries other read a := by
  rw [HasMember, HasMember, valuesAt_without h]

theorem hasMemberOr_without {other : String} {a default : α} (h : other ≠ key) :
    HasMemberOr default (without key entries) other read a
      ↔ HasMemberOr default entries other read a := by
  rw [HasMemberOr, HasMemberOr, hasMember_without h, valuesAt_without h]

/-! ### Tables in the order of their members -/

theorem valuesAt_eq_nil (hkey : key ∉ entries.map Prod.fst) : valuesAt key entries = [] := by
  rw [valuesAt, List.map_eq_nil_iff, List.filter_eq_nil_iff]
  intro e he hk
  exact hkey (List.mem_map.2 ⟨e, he, beq_iff_eq.1 hk⟩)

theorem without_eq_self (hkey : key ∉ entries.map Prod.fst) : without key entries = entries := by
  refine List.filter_eq_self.2 ?_
  intro e he
  refine bne_iff_ne.2 ?_
  rintro rfl
  exact hkey (List.mem_map_of_mem he)

theorem valuesAt_cons (v : Value) (hkey : key ∉ entries.map Prod.fst) :
    valuesAt key ((key, v) :: entries) = [v] := by
  have hhead : valuesAt key ((key, v) :: entries) = v :: valuesAt key entries := by simp [valuesAt]
  rw [hhead, valuesAt_eq_nil hkey]

theorem without_cons (v : Value) (hkey : key ∉ entries.map Prod.fst) :
    without key ((key, v) :: entries) = entries := by
  have htail : without key ((key, v) :: entries) = without key entries :=
    List.filter_cons_of_neg (by simp)
  rw [htail, without_eq_self hkey]

theorem reads_pure (a : α) (members : Members) : Reads (pure a) members a members := rfl

theorem Reads.bind {reader : RecordReader α} {next : α → RecordReader β}
    {members rest last : Members} {a : α} {b : β} (h : Reads reader members a rest)
    (hnext : Reads (next a) rest b last) :
    Reads (reader >>= next) members b last :=
  reads_bind_iff.2 ⟨a, rest, h, hnext⟩

theorem reads_optional {a default : α} (hkey : key ∉ entries.map Prod.fst) (h : read v = some a) :
    Reads (optional key default read) (.keyed ((key, v) :: entries)) a (.keyed entries) :=
  reads_optional_iff.2 ⟨.inl ⟨v, valuesAt_cons v hkey, h⟩, by rw [without_cons v hkey]⟩

/-- A table all of whose entries are used up. -/
theorem record?_table {reader : RecordReader α} {a : α}
    (h : Reads reader (.keyed entries) a (.keyed [])) (dialect : Dialect) :
    Value.record? dialect reader (.table entries) = some a :=
  record?_table_iff.2 ⟨_, h, by simp⟩

/-- A list whose items are all read. -/
theorem list?_map {encode : α → Value} (h : ∀ a, read (encode a) = some a) (items : List α) :
    Value.list? read (.list (items.map encode)) = some items := by
  induction items with
  | nil => rfl
  | cons a items ih =>
    have ih : (items.map encode).mapM read = some items := ih
    simp [Value.list?, h, ih]

/-! ### Tables in any order -/

/-- A table spells a record: its keys are distinct, every entry is one of the record or has an
unknown key and is passed over, and of the entries of the record only defaults are left out. -/
structure Spells (dialect : Dialect) (defaults full entries : List (String × Value)) : Prop where
  distinct : (entries.map Prod.fst).Nodup
  known : ∀ e ∈ entries, e ∈ full ∨ (e.1 ∉ full.map Prod.fst ∧ dialect.skips e.2 = true)
  there : ∀ e ∈ full, e ∈ entries ∨ e ∈ defaults

variable {dialect : Dialect} {defaults full : List (String × Value)}

theorem valuesAt_of_mem (hdistinct : (entries.map Prod.fst).Nodup) (hmem : (key, v) ∈ entries) :
    valuesAt key entries = [v] := by
  induction entries with
  | nil => exact absurd hmem List.not_mem_nil
  | cons e entries ih =>
    obtain ⟨hnew, hdistinct⟩ := List.nodup_cons.1 hdistinct
    rcases List.mem_cons.1 hmem with rfl | hmem
    · exact valuesAt_cons v hnew
    · have hne : (e.1 == key) = false := by
        refine beq_eq_false_iff_ne.2 ?_
        rintro rfl
        exact hnew (List.mem_map.2 ⟨_, hmem, rfl⟩)
      rw [← ih hdistinct hmem, valuesAt, valuesAt, List.filter_cons_of_neg (by simp [hne])]

/-- A member that is no default is there. -/
theorem Spells.hasMember {a : α} (h : Spells dialect defaults full entries) (hmem : (key, v) ∈ full)
    (hread : read v = some a) (hrequired : (key, v) ∉ defaults) : HasMember entries key read a :=
  ⟨v, valuesAt_of_mem h.distinct ((h.there _ hmem).resolve_right hrequired), hread⟩

/-- A member is there, or it is the default. -/
theorem Spells.hasMemberOr {a default : α} (h : Spells dialect defaults full entries)
    (hfull : (full.map Prod.fst).Nodup) (hmem : (key, v) ∈ full) (hread : read v = some a)
    (hdefault : (key, v) ∈ defaults → a = default) : HasMemberOr default entries key read a := by
  by_cases hin : (key, v) ∈ entries
  · exact .inl ⟨v, valuesAt_of_mem h.distinct hin, hread⟩
  · refine .inr ⟨valuesAt_eq_nil ?_, hdefault ((h.there _ hmem).resolve_left hin)⟩
    intro hkey
    obtain ⟨e, he, rfl⟩ := List.mem_map.1 hkey
    rcases h.known e he with hknown | ⟨hunknown, -⟩
    · have hv := (valuesAt_of_mem hfull hknown).symm.trans (valuesAt_of_mem hfull hmem)
      rw [← (List.cons.inj hv).1] at hin
      exact hin he
    · exact hunknown (List.mem_map.2 ⟨_, hmem, rfl⟩)

theorem Spells.skips (h : Spells dialect defaults full entries) :
    ∀ e ∈ entries, e.1 ∉ full.map Prod.fst → dialect.skips e.2 = true := by
  intro e he hunknown
  rcases h.known e he with hknown | ⟨-, hskips⟩
  · exact absurd (List.mem_map_of_mem hknown) hunknown
  · exact hskips

theorem spells_self (hfull : (full.map Prod.fst).Nodup) : Spells dialect defaults full full :=
  ⟨hfull, fun _ he => .inl he, fun _ he => .inl he⟩

/-- The leading entries spell a record when the others are defaults. -/
theorem spells_take {count : Nat} (hfull : (full.map Prod.fst).Nodup)
    (h : ∀ e ∈ full.drop count, e ∈ defaults) :
    Spells dialect defaults full (full.take count) := by
  refine ⟨?_, fun e he => .inl (List.mem_of_mem_take he), ?_⟩
  · exact hfull.sublist ((List.take_sublist count full).map Prod.fst)
  · intro e he
    rw [← List.take_append_drop count full, List.mem_append] at he
    exact he.imp_right (h e)

/-! ### Lists -/

/-- A reader of the first of some members, up to those that are left, gives the same for a list of
values in the order of the members as for the table of these values. -/
def Positional (keys : List String) (reader : RecordReader α) (left : List String) : Prop :=
  ∀ items, items.length ≤ keys.length →
    (reader (.listed items) = none ∧ reader (.keyed (keys.zip items)) = none)
      ∨ ∃ a rest, rest.length ≤ left.length ∧ reader (.listed items) = some (a, .listed rest)
          ∧ reader (.keyed (keys.zip items)) = some (a, .keyed (left.zip rest))

theorem positional_pure (keys : List String) (a : α) : Positional keys (pure a) keys := by
  intro items hitems
  exact .inr ⟨a, items, hitems, rfl, rfl⟩

theorem positional_failure (keys left : List String) :
    Positional keys (failure : RecordReader α) left := by
  intro items hitems
  exact .inl ⟨rfl, rfl⟩

theorem Positional.bind {keys left last : List String} {reader : RecordReader α}
    {next : α → RecordReader β} (h : Positional keys reader left)
    (hnext : ∀ a, Positional left (next a) last) :
    Positional keys (reader >>= next) last := by
  intro items hitems
  have hbind : ∀ members, (reader >>= next) members = (reader members).bind fun p => next p.1 p.2 :=
    fun _ => rfl
  simp only [hbind]
  rcases h items hitems with ⟨hlisted, hkeyed⟩ | ⟨a, rest, hrest, hlisted, hkeyed⟩
  · exact .inl ⟨by rw [hlisted]; rfl, by rw [hkeyed]; rfl⟩
  · rw [hlisted, hkeyed]
    exact hnext a rest hrest

/-- The next member is the same by position as by key. -/
theorem positional_nextMember {left : List String} (hkey : key ∉ left) :
    Positional (key :: left) (nextMember key) left := by
  intro items hitems
  refine .inr ?_
  cases items with
  | nil =>
    refine ⟨none, [], Nat.zero_le _, rfl, ?_⟩
    rw [List.zip_nil_right, List.zip_nil_right]
    exact reads_nextMember_iff.2 ⟨rfl, rfl⟩
  | cons v items =>
    have hzip : key ∉ (left.zip items).map Prod.fst := by
      intro hmem
      obtain ⟨e, he, rfl⟩ := List.mem_map.1 hmem
      exact hkey (List.of_mem_zip he).1
    refine ⟨some v, items, by simpa using hitems, rfl, reads_nextMember_iff.2 ⟨valuesAt_cons v hzip,
      ?_⟩⟩
    rw [List.zip_cons_cons, without_cons v hzip]

theorem positional_received {left : List String} {missing : RecordReader α}
    (h : Positional left missing left) (read : Value → Option α) (found : Option Value) :
    Positional left (received missing read found) left := by
  cases found with
  | none => exact h
  | some v =>
    cases hread : read v with
    | none =>
      rw [received, hread]
      exact positional_failure left left
    | some a =>
      rw [received, hread]
      exact positional_pure left a

theorem positional_required {left : List String} (hkey : key ∉ left) (read : Value → Option α) :
    Positional (key :: left) (required key read) left :=
  (positional_nextMember hkey).bind (positional_received (positional_failure left left) read)

theorem positional_optional {left : List String} (hkey : key ∉ left) (default : α)
    (read : Value → Option α) :
    Positional (key :: left) (optional key default read) left :=
  (positional_nextMember hkey).bind (positional_received (positional_pure left default) read)

/-- **A record written as a list** is the record written as the table of the same values. -/
theorem record?_list {keys : List String} {reader : RecordReader α} (h : Positional keys reader [])
    (dialect : Dialect) {items : List Value} (hitems : items.length ≤ keys.length) :
    Value.record? dialect reader (.list items)
      = Value.record? dialect reader (.table (keys.zip items)) := by
  show (reader (.listed items)).bind _ = (reader (.keyed (keys.zip items))).bind _
  rcases h items hitems with ⟨hlisted, hkeyed⟩ | ⟨a, rest, hrest, hlisted, hkeyed⟩
  · rw [hlisted, hkeyed]
  · obtain rfl : rest = [] := List.eq_nil_of_length_eq_zero (Nat.le_zero.1 hrest)
    rw [hlisted, hkeyed]
    rfl

/-- The leading values of a record, written as a list, are the table of its leading entries. -/
theorem zip_take_map_snd (full : List (String × Value)) (count : Nat) :
    (full.map Prod.fst).zip ((full.take count).map Prod.snd) = full.take count := by
  induction full generalizing count with
  | nil => simp
  | cons e full ih =>
    cases count with
    | zero => simp
    | succ count => rw [List.take_succ_cons, List.map_cons, List.map_cons, List.zip_cons_cons, ih]

end FluentBuilder.Data
