import FluentBuilder.Code.Lexer

/-!
# Identifiers

An identifier is a single word token that is no keyword.  A raw identifier is never a keyword, and
it denotes the same name as its plain spelling.

* `keywords`: the reserved words.
* `Identifier`: a word that is not reserved.
* `Identifier.read?`: the identifier that a text spells once blanks and comments are dropped.
* `Identifier.key`: the name that an identifier denotes.
-/

namespace FluentBuilder.Code

/-- The reserved words; the underscore is among them. -/
def keywords : List String :=
  ["_", "abstract", "as", "async", "await", "become", "box", "break", "const", "continue", "crate",
    "do", "dyn", "else", "enum", "extern", "false", "final", "fn", "for", "if", "impl", "in", "let",
    "loop", "macro", "match",
    "mod", "move", "mut", "override", "priv", "pub", "ref", "return", "Self", "self", "static",
    "struct", "super",
    "trait", "true", "try", "type", "typeof", "unsafe", "unsized", "use", "virtual", "where",
    "while", "yield"]

/-- Whether a word is reserved. -/
def isKeyword (name : String) : Bool :=
  keywords.contains name

/-- A word that is not reserved, in its written form: a raw identifier keeps its mark. -/
structure Identifier where
  text : String
  not_keyword : isKeyword text = false
  deriving DecidableEq

instance : Repr Identifier where
  reprPrec i _ := repr i.text

/-- A word as an identifier, unless it is reserved. -/
def Identifier.ofWord? (name : String) : Option Identifier :=
  if h : isKeyword name = false then some ⟨name, h⟩ else none

/-- The identifier that a text spells: exactly one token, which is a word and not reserved. -/
def Identifier.read? (text : String) : Option Identifier :=
  match tokens? text.toList with
  | some [.leaf (.ident name)] => Identifier.ofWord? name
  | _ => none

/-- An identifier as a token tree. -/
def Identifier.token (i : Identifier) : TokenTree :=
  word i.text

/-- The name without a raw mark. -/
def plainName (name : String) : String :=
  match name.toList with
  | 'r' :: '#' :: rest => String.ofList rest
  | _ => name

/-- The name that an identifier denotes: the raw mark makes no difference. -/
def Identifier.key (i : Identifier) : String :=
  plainName i.text

theorem Identifier.ofWord?_eq_some_iff {name : String} {i : Identifier} :
    Identifier.ofWord? name = some i ↔ i.text = name := by
  constructor
  · intro h
    unfold Identifier.ofWord? at h
    split at h
    · cases h; rfl
    · cases h
  · rintro rfl
    simp [Identifier.ofWord?, i.not_keyword]

end FluentBuilder.Code
