import FluentBuilder.Config
import FluentBuilder.Text.CharacterClass
import FluentBuilder.Text.Utf8

/-!
# Environment files

A file of variables, one to a line.  Values may be quoted, hold escapes, and refer to variables of
the environment or of earlier lines.  Variables that are set already stay as they are.

* `readLine?`: the variable that a line sets.
* `Environment.load`: the environment with the variables of a file, up to the first line that cannot
  be read.
-/

namespace FluentBuilder

open FluentBuilder.Text

/-! ### Values -/

/-- How far a reference to a variable has been read. -/
inductive ReferenceState where
  | none
  /-- Behind a dollar sign. -/
  | opened
  /-- Inside braces. -/
  | braced
  deriving DecidableEq, Repr

/-- A value under way. -/
structure ValueState where
  inSingle : Bool := false
  inDouble : Bool := false
  escaped : Bool := false
  /-- Whether only a comment may follow. -/
  ended : Bool := false
  reference : ReferenceState := .none
  /-- The name referred to, reversed. -/
  name : List Char := []
  /-- The value, reversed. -/
  done : List Char := []

/-- The value with the variable that was referred to put behind it. -/
def ValueState.resolve (lookup : String → String) (s : ValueState) : ValueState :=
  { s with done := (lookup (String.ofList s.name.reverse)).toList.reverse ++ s.done, name := [] }

/-- The value with one more character. -/
def ValueState.push (s : ValueState) (c : Char) : ValueState :=
  { s with done := c :: s.done }

/-- The value behind one more character outside quotes, escapes and references. -/
def ValueState.plain (s : ValueState) (c : Char) : ValueState :=
  if c == '$' then { s with reference := .opened }
  else if s.inDouble then
    if c == '"' then { s with inDouble := false }
    else if c == '\\' then { s with escaped := true }
    else s.push c
  else if c == '\'' then { s with inSingle := true }
  else if c == '"' then { s with inDouble := true }
  else if c == '\\' then { s with escaped := true }
  else if c == ' ' || c == '\t' then { s with ended := true }
  else s.push c

/-- The value behind one more character of a reference. -/
def ValueState.refer (lookup : String → String) (s : ValueState) (c : Char) : ValueState :=
  if isAlphanumeric c then { s with name := c :: s.name }
  else
    match s.reference with
    | .opened =>
      if c == '\x7b' && s.name.isEmpty then { s with reference := .braced }
      else
        let s := s.resolve lookup
        if c == '$' then { s with reference := .opened } else { s with reference := .none }.push c
    | .braced =>
      if c == '\x7d' then { s.resolve lookup with reference := .none }
      else { s with name := c :: s.name }
    | .none => s

/-- The value of the rest of a line. -/
def readValue? (lookup : String → String) (s : ValueState) : List Char → Option (List Char)
  | [] =>
    if s.reference == .braced || s.inSingle || s.inDouble then none
    else some (s.resolve lookup).done.reverse
  | c :: rest =>
    if s.ended then
      if c == ' ' || c == '\t' then readValue? lookup s rest
      else if c == '#' then readValue? lookup s []
      else none
    else if s.escaped then
      if ['\\', '\'', '"', '$', ' '].contains c then
        readValue? lookup { s.push c with escaped := false } rest
      else if c == 'n' then readValue? lookup { s.push '\n' with escaped := false } rest
      else none
    else if s.inSingle then
      if c == '\'' then readValue? lookup { s with inSingle := false } rest
      else readValue? lookup (s.push c) rest
    else if s.reference != .none then readValue? lookup (s.refer lookup c) rest
    else readValue? lookup (s.plain c) rest

/-! ### Lines -/

/-- The key at the head of the input. -/
def readVariableName? (input : List Char) : Option (List Char × List Char) :=
  let isPart := fun c : Char => isAsciiLetter c || isAsciiDigit c || c == '_' || c == '.'
  match input with
  | c :: _ =>
    if isAsciiLetter c || c == '_' then some (input.takeWhile isPart, input.dropWhile isPart)
    else none
  | [] => none

/-- The input behind an equals sign, with the blanks around it. -/
def behindEquals? (input : List Char) : Option (List Char) :=
  match input.dropWhile isWhiteSpace with
  | '=' :: rest => some (rest.dropWhile isWhiteSpace)
  | _ => none

/-- The name of the variable that a line sets, and the text of its value.  The word `export` may
stand in front, and is a name only when an equals sign follows it. -/
def splitLine? (line : List Char) : Option (String × List Char) := do
  let (name, rest) ← readVariableName? line
  match behindEquals? rest with
  | some value => return (String.ofList name, value)
  | none =>
    if name == "export".toList then
      let (name, rest) ← readVariableName? (rest.dropWhile isWhiteSpace)
      return (String.ofList name, ← behindEquals? rest)
    else none

/-- What a line says. -/
inductive LineMeaning where
  | nothing
  | variable (name value : String)
  deriving Repr

/-- What a line says, where `lookup` gives the variables that it may refer to. -/
def readLine? (lookup : String → String) (line : List Char) : Option LineMeaning :=
  let trimmed := (line.reverse.dropWhile isWhiteSpace).reverse.dropWhile isWhiteSpace
  match trimmed with
  | [] => some .nothing
  | '#' :: _ => some .nothing
  | _ => do
    let (name, value) ← splitLine? trimmed
    match value with
    | [] => return .variable name ""
    | '#' :: _ => return .variable name ""
    | _ => return .variable name (String.ofList (← readValue? lookup {} value))

/-! ### Files -/

/-- The lines of some characters or bytes, without the line ends. -/
def linesOf [BEq α] (newline : α) : List α → List (List α)
  | [] => []
  | a :: rest =>
    if a == newline then [] :: linesOf newline rest
    else
      match linesOf newline rest with
      | [] => [[a]]
      | line :: lines => (a :: line) :: lines

/-- The environment with the variables that lines set, up to the first line that cannot be read.
`set` holds the variables of the lines before, also those that the environment had already. -/
def Environment.loadLines (env : Environment) (set : List (String × String)) :
    List (List Char) → Environment
  | [] => env
  | line :: rest =>
    let lookup := fun name : String =>
      match if name.isEmpty then none else env.get? name with
      | some value => value
      | none => (set.lookup name).getD ""
    match readLine? lookup line with
    | none => env
    | some .nothing => env.loadLines set rest
    | some (.variable name value) =>
      let env := if (env.get? name).isSome then env else env.set name value
      env.loadLines ((name, value) :: set) rest

/-- The lines of bytes up to the first that is no text. -/
def textLines : List (List UInt8) → List (List Char)
  | [] => []
  | line :: rest =>
    match decodeUtf8? line with
    | some s => s.toList :: textLines rest
    | none => []

/-- The environment with the variables of a text. -/
def Environment.load (env : Environment) (text : String) : Environment :=
  env.loadLines [] (linesOf '\n' text.toList)

/-- The environment with the variables of bytes, up to the first line that is no text. -/
def Environment.loadBytes (env : Environment) (bytes : List UInt8) : Environment :=
  env.loadLines [] (textLines (linesOf 10 bytes))

end FluentBuilder
