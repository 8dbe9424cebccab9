import FluentBuilder.Data.Value

/-!
# Reading records from values

Records are written as tables or as lists of their members in order.  The formats differ in small
things, which a `Dialect` says.

* `Members`: the members of a record, by key or by position.
* `required`, `optional`: one member after the other.
-/

namespace FluentBuilder.Data

/-- In what the formats of data files differ. -/
structure Dialect where
  /-- Whether a list may hold more items than the record has members. -/
  surplus : Bool
  /-- Whether a choice that is written as a table of one entry may have the given payload. -/
  payload : Value → Bool
  /-- Whether a record passes over an entry with an unknown key and the given value. -/
  skips : Value → Bool

/-- The payload of a choice in a format that has a null. -/
def nullPayload : Value → Bool
  | .null => true
  | _ => false

/-- The payload of a choice in a format without a null. -/
def emptyPayload : Value → Bool
  | .list [] => true
  | .table [] => true
  | _ => false

/-- Values as JSON has them. -/
def Dialect.json : Dialect := ⟨false, nullPayload, fun _ => true⟩

/-- Values as TOML has them. -/
def Dialect.toml : Dialect := ⟨true, emptyPayload, Value.isSkippable⟩

/-- A record that is read: by key, or by position. -/
inductive Members where
  | keyed (entries : List (String × Value))
  | listed (items : List Value)

/-- The members of a record, if a value has the shape of one. -/
def Value.members? : Value → Option Members
  | .table entries => some (.keyed entries)
  | .list items => some (.listed items)
  | _ => none

/-- A step of reading a record: it uses up the member that it reads. -/
abbrev RecordReader := StateT Members Option

/-- The next member, which is used up; a key that is there more than once is refused. -/
def nextMember (key : String) : RecordReader (Option Value)
  | .keyed entries =>
    match valuesAt key entries with
    | [] => some (none, .keyed entries)
    | [v] => some (some v, .keyed (entries.filter fun e => e.1 != key))
    | _ => none
  | .listed [] => some (none, .listed [])
  | .listed (v :: rest) => some (some v, .listed rest)

/-- A member that has to be there. -/
def required (key : String) (read : Value → Option α) : RecordReader α := do
  match ← nextMember key with
  | some v =>
    match read v with
    | some a => return a
    | none => failure
  | none => failure

/-- A member that may be left out. -/
def optional (key : String) (default : α) (read : Value → Option α) : RecordReader α := do
  match ← nextMember key with
  | some v =>
    match read v with
    | some a => return a
    | none => failure
  | none => return default

/-- The record that a value spells.  The entries left over have unknown keys and are passed over. -/
def Value.record? (dialect : Dialect) (reader : RecordReader α) (v : Value) : Option α := do
  let (a, rest) ← reader (← v.members?)
  match rest with
  | .listed (_ :: _) => if dialect.surplus then some a else none
  | .listed [] => some a
  | .keyed unknown => if unknown.all fun e => dialect.skips e.2 then some a else none

/-- The text that a value is. -/
def Value.text? : Value → Option String
  | .text s => some s
  | _ => none

/-- The text that a value is, or nothing for a null. -/
def Value.textOrNull? : Value → Option (Option String)
  | .text s => some (some s)
  | .null => some none
  | _ => none

/-- The truth value that a value is. -/
def Value.bool? : Value → Option Bool
  | .bool b => some b
  | _ => none

/-- The list that a value is. -/
def Value.list? (read : Value → Option α) : Value → Option (List α)
  | .list items => items.mapM read
  | _ => none

/-- The choice that a value spells: its name, alone or as the key of a single entry. -/
def Value.choice? (dialect : Dialect) (choices : List (String × α)) : Value → Option α
  | .text s => choices.lookup s
  | .table [(key, v)] => if dialect.payload v then choices.lookup key else none
  | _ => none

end FluentBuilder.Data
