/-!
# Data values

The values that descriptor and configuration files hold, whatever the format they are written in.
Tables are lists of entries in the order of the file, with repeated keys kept.

* `Value.isReadable`: whether a value can be set aside and looked at later.
* `Value.isSkippable`: whether a value can be passed over.
* `valuesAt`: the values with a given key.
-/

namespace FluentBuilder.Data

/-- A value. -/
inductive Value where
  | null
  | bool (b : Bool)
  /-- A number in the spelling of the source. -/
  | number (literal : String)
  /-- An integer of more than 64 bits.  It can be passed over, but not be set aside. -/
  | wide (literal : String)
  | text (s : String)
  | list (items : List Value)
  | table (entries : List (String × Value))
  /-- A value that is well-formed but has no meaning: a number out of range, a text that is no
  sequence of characters, or a value nested too deep. -/
  | unreadable
  deriving Inhabited, Repr

mutual
/-- Whether a value has a meaning, with all that it contains. -/
def Value.isReadable : Value → Bool
  | .unreadable => false
  | .wide _ => false
  | .list items => listReadable items
  | .table entries => entriesReadable entries
  | _ => true

/-- Whether all values of a list have a meaning. -/
def listReadable : List Value → Bool
  | [] => true
  | v :: rest => v.isReadable && listReadable rest

/-- Whether all values of a table have a meaning. -/
def entriesReadable : List (String × Value) → Bool
  | [] => true
  | (_, v) :: rest => v.isReadable && entriesReadable rest
end

mutual
/-- Whether a value has a meaning or is an integer of many bits, with all that it contains. -/
def Value.isSkippable : Value → Bool
  | .unreadable => false
  | .list items => listSkippable items
  | .table entries => entriesSkippable entries
  | _ => true

/-- Whether all values of a list can be passed over. -/
def listSkippable : List Value → Bool
  | [] => true
  | v :: rest => v.isSkippable && listSkippable rest

/-- Whether all values of a table can be passed over. -/
def entriesSkippable : List (String × Value) → Bool
  | [] => true
  | (_, v) :: rest => v.isSkippable && entriesSkippable rest
end

/-- The values with a given key. -/
def valuesAt (key : String) (entries : List (String × Value)) : List Value :=
  (entries.filter fun e => e.1 == key).map (·.2)

end FluentBuilder.Data
