import FluentBuilder.Data.TomlText

/-!
# TOML

A document is a sequence of headers and entries.  Tables are built up in the order of the document;
what was defined in one way cannot be extended in another.

* `Value.readToml?`: the table of a document.
-/

namespace FluentBuilder.Data

open FluentBuilder.Text

/-! ### Tables under construction -/

/-- How a table came to be. -/
inductive TableOrigin where
  /-- As a step on the way of a header. -/
  | implied
  /-- As a step on the way of a dotted key. -/
  | dotted
  /-- By a header of its own. -/
  | defined
  deriving DecidableEq, Repr

/-- What a key stands for while a document is read. -/
inductive Node where
  | value (v : Value)
  | table (origin : TableOrigin) (entries : List (String × Node))
  /-- Tables in a list, each with a header; the last one comes first. -/
  | tables (items : List (List (String × Node)))
  deriving Inhabited

/-- The entries of a table. -/
abbrev Entries := List (String × Node)

/-- The node with a given key. -/
def Entries.find? (key : String) : Entries → Option Node
  | [] => none
  | (k, node) :: rest => if k == key then some node else Entries.find? key rest

/-- The entries with a node put at a key, in the place of the one before. -/
def Entries.put (key : String) (node : Node) : Entries → Entries
  | [] => [(key, node)]
  | (k, old) :: rest =>
    if k == key then (k, node) :: rest else (k, old) :: Entries.put key node rest

mutual
/-- The value of a node. -/
def Node.toValue : Node → Value
  | .value v => v
  | .table _ entries => .table (entriesValue entries)
  | .tables items => .list (tablesValue items).reverse

/-- The values of the entries of a table. -/
def entriesValue : List (String × Node) → List (String × Value)
  | [] => []
  | (key, node) :: rest => (key, node.toValue) :: entriesValue rest

/-- The values of tables in a list. -/
def tablesValue : List (List (String × Node)) → List Value
  | [] => []
  | entries :: rest => .table (entriesValue entries) :: tablesValue rest
end

/-- A table with its origin. -/
structure OpenTable where
  origin : TableOrigin
  entries : Entries

/-- A change of a table that may be refused. -/
abbrev Edit := OpenTable → Option OpenTable

/-- A change of the table that a path leads to.  Missing tables on the way are added.  A dotted key
does not lead into a table with a header of its own, but into a table that only lies on the way of a
header. -/
def editAt (dotted : Bool) (edit : Edit) : List String → Edit
  | [] => edit
  | key :: path => fun t =>
    match Entries.find? key t.entries with
    | none => do
      let inner ← editAt dotted edit path ⟨if dotted then .dotted else .implied, []⟩
      return { t with entries := Entries.put key (.table inner.origin inner.entries) t.entries }
    | some (.table origin entries) =>
      if dotted && origin == .defined then none
      else do
        let inner ← editAt dotted edit path ⟨origin, entries⟩
        return { t with entries := Entries.put key (.table inner.origin inner.entries) t.entries }
    | some (.tables (last :: before)) => do
      let inner ← editAt dotted edit path ⟨.defined, last⟩
      return { t with entries := Entries.put key (.tables (inner.entries :: before)) t.entries }
    | some _ => none

/-- Adds an entry with a key of several parts.  The last part of a key with others in front does not
extend a table with a header of its own. -/
def addEntry (path : List String) (v : Value) : Edit :=
  match path.getLast? with
  | none => fun _ => none
  | some key =>
    editAt true (fun t =>
      if (t.origin == .defined) != (path.length == 1) then none
      else if (Entries.find? key t.entries).isSome then none
      else some { t with entries := Entries.put key (.value v) t.entries }) path.dropLast

/-- Opens the table of a header. -/
def openTable (path : List String) : Edit :=
  match path.getLast? with
  | none => fun _ => none
  | some key =>
    editAt false (fun t =>
      match Entries.find? key t.entries with
      | none => some { t with entries := Entries.put key (.table .defined []) t.entries }
      | some (.table .implied entries) =>
        some { t with entries := Entries.put key (.table .defined entries) t.entries }
      | some _ => none) path.dropLast

/-- Opens a further table of a list of tables. -/
def openListed (path : List String) : Edit :=
  match path.getLast? with
  | none => fun _ => none
  | some key =>
    editAt false (fun t =>
      match Entries.find? key t.entries with
      | none => some { t with entries := Entries.put key (.tables [[]]) t.entries }
      | some (.tables items) =>
        some { t with entries := Entries.put key (.tables ([] :: items)) t.entries }
      | some _ => none) path.dropLast

/-! ### Blanks and keys -/

/-- The input without spaces and tabs in front. -/
def skipGap (input : List Char) : List Char :=
  input.dropWhile fun c => c == ' ' || c == '\t'

/-- The input behind a comment, if one is there. -/
def skipComment? (input : List Char) : Option (List Char) :=
  match input with
  | '#' :: rest =>
    let isEnd := fun c : Char => c == '\n' || c == '\r'
    if (rest.takeWhile fun c => !isEnd c).any isControl then none
    else some (rest.dropWhile fun c => !isEnd c)
  | _ => some input

/-- The input without blanks, comments and line ends in front.  The fuel bounds the number of
lines. -/
def skipLinesWith? : Nat → List Char → Option (List Char)
  | 0, _ => none
  | fuel + 1, input => do
    let rest ← skipComment? (skipGap input)
    match behindNewline? rest with
    | some rest => skipLinesWith? fuel rest
    | none => some rest

/-- The input without blanks, comments and line ends in front. -/
def skipLines? (input : List Char) : Option (List Char) :=
  skipLinesWith? (input.length + 1) input

/-- Whether a character can stand in a key without quotes. -/
def isBareKey (c : Char) : Bool :=
  isAsciiLetter c || isAsciiDigit c || c == '_' || c == '-'

/-- A part of a key. -/
def readKeyPart? (input : List Char) : Option (String × List Char) :=
  match input with
  | '"' :: '"' :: '"' :: _ => none
  | '\'' :: '\'' :: '\'' :: _ => none
  | '"' :: rest => (readBasic? rest).map fun r => (String.ofList r.1, r.2)
  | '\'' :: rest => (readLiteral? rest).map fun r => (String.ofList r.1, r.2)
  | _ =>
    match input.takeWhile isBareKey with
    | [] => none
    | cs => some (String.ofList cs, input.dropWhile isBareKey)

/-- The number of parts that a key may have. -/
def keyParts : Nat := 80

/-- A key of at most `count` parts with points between them. -/
def readKeyOf? : Nat → List Char → Option (List String × List Char)
  | 0, _ => none
  | count + 1, input => do
    let (part, rest) ← readKeyPart? (skipGap input)
    match skipGap rest with
    | '.' :: rest =>
      let (others, rest) ← readKeyOf? count rest
      return (part :: others, rest)
    | rest => return ([part], rest)

/-- A key, with the blanks around it. -/
def readKey? (input : List Char) : Option (List String × List Char) :=
  readKeyOf? keyParts input

/-! ### Values -/

/-- Whether a character can stand in a scalar. -/
def isScalarChar (c : Char) : Bool :=
  isBareKey c || c == '+' || c == '.' || c == ':'

/-- The characters of a scalar; a single space may stand between a date and a time. -/
def splitScalar (input : List Char) : List Char × List Char :=
  let cs := input.takeWhile isScalarChar
  let rest := input.dropWhile isScalarChar
  match behindDate? cs, rest with
  | some [], ' ' :: c :: more =>
    if isAsciiDigit c then
      (cs ++ [' '] ++ (c :: more).takeWhile isScalarChar, (c :: more).dropWhile isScalarChar)
    else (cs, rest)
  | _, _ => (cs, rest)

/-- The depth of nesting up to which values are read. -/
def tomlDepth : Nat := 80

mutual
/-- A value at the head of the input, inside `depth` others.  The fuel bounds the number of
steps. -/
def readTomlWith? (depth : Nat) : Nat → List Char → Option (Value × List Char)
  | 0, _ => none
  | fuel + 1, input =>
    match input with
    | '[' :: rest => if depth < tomlDepth then readTomlItems? (depth + 1) fuel [] rest else none
    | '\x7b' :: rest =>
      if depth < tomlDepth then readTomlEntries? (depth + 1) fuel ⟨.defined, []⟩ rest else none
    | '"' :: _ => (readTomlText? input).map fun r => (.text (String.ofList r.1), r.2)
    | '\'' :: _ => (readTomlText? input).map fun r => (.text (String.ofList r.1), r.2)
    | _ =>
      let (cs, rest) := splitScalar input
      (scalar? cs).map fun v => (v, rest)

/-- The items of a list up to its closing bracket; `done` holds the ones before in reverse. -/
def readTomlItems? (depth : Nat) : Nat → List Value → List Char → Option (Value × List Char)
  | 0, _, _ => none
  | fuel + 1, done, input => do
    match ← skipLines? input with
    | ']' :: rest => return (.list done.reverse, rest)
    | input =>
      let (v, rest) ← readTomlWith? depth fuel input
      match ← skipLines? rest with
      | ',' :: rest => readTomlItems? depth fuel (v :: done) rest
      | ']' :: rest => return (.list (v :: done).reverse, rest)
      | _ => none

/-- The entries of a table up to its closing brace. -/
def readTomlEntries? (depth : Nat) : Nat → OpenTable → List Char → Option (Value × List Char)
  | 0, _, _ => none
  | fuel + 1, t, input => do
    match ← skipLines? input with
    | '\x7d' :: rest => return ((Node.table t.origin t.entries).toValue, rest)
    | input =>
      let (key, rest) ← readKey? input
      let rest ← behind? '=' rest
      let (v, rest) ← readTomlWith? depth fuel (skipGap rest)
      let t ← addEntry key v t
      match ← skipLines? rest with
      | ',' :: rest => readTomlEntries? depth fuel t rest
      | '\x7d' :: rest => return ((Node.table t.origin t.entries).toValue, rest)
      | _ => none
end

/-! ### Documents -/

/-- A document under way: its tables, and the path of the header in force. -/
structure Document where
  root : OpenTable
  current : List String

/-- The input behind the rest of a line. -/
def endLine? (input : List Char) : Option (List Char) := do
  let rest ← skipComment? (skipGap input)
  match rest with
  | [] => some []
  | _ => behindNewline? rest

/-- The document behind a header whose first bracket is read. -/
def readHeader? (doc : Document) (input : List Char) : Option (Document × List Char) :=
  match input with
  | '[' :: rest => do
    let (path, rest) ← readKey? rest
    let rest ← behind? ']' rest
    let rest ← behind? ']' rest
    let root ← openListed path doc.root
    return (⟨root, path⟩, rest)
  | _ => do
    let (path, rest) ← readKey? input
    let rest ← behind? ']' rest
    let root ← openTable path doc.root
    return (⟨root, path⟩, rest)

/-- The document behind an entry. -/
def readEntry? (doc : Document) (input : List Char) : Option (Document × List Char) := do
  let (key, rest) ← readKey? input
  let rest ← behind? '=' rest
  let (v, rest) ← readTomlWith? 0 (2 * rest.length + 2) (skipGap rest)
  let root ← editAt false (addEntry key v) doc.current doc.root
  return (⟨root, doc.current⟩, rest)

/-- The document behind the remaining lines.  The fuel bounds their number. -/
def readLinesOf? : Nat → Document → List Char → Option Document
  | 0, _, _ => none
  | fuel + 1, doc, input => do
    match ← skipLines? input with
    | [] => return doc
    | '[' :: rest =>
      let (doc, rest) ← readHeader? doc rest
      readLinesOf? fuel doc (← endLine? rest)
    | input =>
      let (doc, rest) ← readEntry? doc input
      readLinesOf? fuel doc (← endLine? rest)

/-- The table of a document. -/
def Value.readToml? (text : String) : Option Value := do
  let input := match text.toList with
    | c :: rest => if c.toNat == 0xFEFF then rest else c :: rest
    | [] => []
  let doc ← readLinesOf? (input.length + 1) ⟨⟨.defined, []⟩, []⟩ input
  return (Node.table doc.root.origin doc.root.entries).toValue

end FluentBuilder.Data
