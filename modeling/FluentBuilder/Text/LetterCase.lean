import FluentBuilder.Text.CharacterClass
import FluentBuilder.Text.LetterCaseTable

/-!
# Letter case

The full case mappings on texts: one character may become several, and a capital sigma at the end of
a word becomes the final small sigma.

* `lowerChar`, `upperChar`: the mappings of a single character.
* `lower`, `upper`: the mappings of a text, `lower` with the rule for the final sigma.
-/

namespace FluentBuilder.Text

/-- The offset of the first run that holds the code point. -/
def runOffset? (runs : List (Nat × Nat × Nat × Int)) (n : Nat) : Option Int :=
  (runs.find? fun r => decide (r.1 ≤ n) && decide (n ≤ r.2.1) && (n - r.1) % r.2.2.1 == 0).map
    fun r => r.2.2.2

/-- The case mapping given by runs and expansions. -/
def mapCase (runs : List (Nat × Nat × Nat × Int)) (expansions : List (Nat × List Nat)) (c : Char) :
    List Char :=
  match expansions.find? fun e => e.1 == c.toNat with
  | some e => e.2.map Char.ofNat
  | none =>
    match runOffset? runs c.toNat with
    | some d => [Char.ofNat (Int.toNat (Int.ofNat c.toNat + d))]
    | none => [c]

/-- The lower case of one character, out of context. -/
def lowerChar (c : Char) : List Char :=
  if c.toNat < 128 then
    if 'A' ≤ c && c ≤ 'Z' then [Char.ofNat (c.toNat + 32)] else [c]
  else mapCase lowerRuns lowerExpansions c

/-- The upper case of one character. -/
def upperChar (c : Char) : List Char :=
  if c.toNat < 128 then
    if 'a' ≤ c && c ≤ 'z' then [Char.ofNat (c.toNat - 32)] else [c]
  else mapCase upperRuns upperExpansions c

/-- Whether the first character that case rules do not ignore is a cased one. -/
def reachesCased : List Char → Bool
  | [] => false
  | c :: rest =>
    if inRanges caseIgnorableRanges c.toNat then reachesCased rest else inRanges casedRanges c.toNat

/-- The lower case of the text `rest` that follows the reversed text `before`. -/
def lowerFrom (before : List Char) : List Char → List Char
  | [] => []
  | c :: rest =>
    let here :=
      if c == 'Σ' then
        if reachesCased before && !reachesCased rest then ['ς'] else ['σ']
      else lowerChar c
    here ++ lowerFrom (c :: before) rest

/-- The lower case of a text. -/
def lower (cs : List Char) : List Char :=
  lowerFrom [] cs

/-- The upper case of a text. -/
def upper (cs : List Char) : List Char :=
  cs.flatMap upperChar

end FluentBuilder.Text
