/-!
# File paths

A path is text: names between slashes, absolute when it starts with one.  Paths are joined and taken
apart as they are written, without looking at files.

* `components`: the steps that a path takes.
* `join`, `parent?`, `ancestors`: paths made from paths.
* `fileName?`, `extension?`: the parts of the last name.
-/

namespace FluentBuilder.FilePath

/-- A step of a path. -/
inductive Component where
  | root
  | current
  | parent
  | name (s : String)
  deriving DecidableEq, Repr

/-- The texts between slashes. -/
def splitSlash : List Char → List (List Char)
  | [] => [[]]
  | c :: rest =>
    if c == '/' then [] :: splitSlash rest
    else
      match splitSlash rest with
      | [] => [[c]]
      | part :: parts => (c :: part) :: parts

/-- Texts with slashes between them. -/
def joinSlash : List (List Char) → List Char
  | [] => []
  | [part] => part
  | part :: parts => part ++ '/' :: joinSlash parts

theorem splitSlash_ne_nil (cs : List Char) : splitSlash cs ≠ [] := by
  cases cs with
  | nil => simp [splitSlash]
  | cons c rest =>
    simp only [splitSlash]
    split
    · simp
    · split <;> simp

theorem joinSlash_splitSlash (cs : List Char) : joinSlash (splitSlash cs) = cs := by
  induction cs with
  | nil => rfl
  | cons c rest ih =>
    simp only [splitSlash]
    split
    · rename_i h
      have hc : c = '/' := by simpa using h
      cases hs : splitSlash rest with
      | nil => exact absurd hs (splitSlash_ne_nil rest)
      | cons part parts => simp [joinSlash, ← hs, ih, hc]
    · split
      · rename_i hs
        exact absurd hs (splitSlash_ne_nil rest)
      · rename_i part parts hs
        rw [hs] at ih
        cases parts with
        | nil => simpa [joinSlash] using ih
        | cons p ps => simpa [joinSlash] using ih

/-- Where a path starts: at the root, at the directory that it is relative to by name, or without
saying so. -/
inductive Start where
  | root
  | current
  | plain
  deriving DecidableEq, Repr

/-- Whether a part of a path takes no step. -/
def isIdle (part : List Char) : Bool :=
  part.isEmpty || part == ['.']

/-- The start of a path and the parts behind it. -/
def anatomy (path : String) : Start × List (List Char) :=
  match path.toList with
  | '/' :: rest => (.root, splitSlash rest)
  | cs =>
    match splitSlash cs with
    | ['.'] :: parts => (.current, parts)
    | parts => (.plain, parts)

/-- The step that a part of a path takes. -/
def stepOf (part : List Char) : Component :=
  if part == ['.', '.'] then .parent else .name (String.ofList part)

/-- The steps that a path takes. -/
def components (path : String) : List Component :=
  let (start, parts) := anatomy path
  let steps := (parts.filter fun p => !isIdle p).map stepOf
  match start with
  | .root => .root :: steps
  | .current => .current :: steps
  | .plain => steps

/-- Whether a path starts at the root. -/
def isAbsolute (path : String) : Bool :=
  path.toList.head? == some '/'

/-- A path continued by another one, which replaces it when it is absolute. -/
def join (base path : String) : String :=
  if isAbsolute path || base.isEmpty then path
  else if base.toList.getLast? == some '/' then base ++ path
  else base ++ "/" ++ path

/-- Parts without the idle ones at the end. -/
def dropIdle (parts : List (List Char)) : List (List Char) :=
  (parts.reverse.dropWhile isIdle).reverse

/-- A path without its last step; the root and the empty path have none. -/
def parent? (path : String) : Option String :=
  let (start, parts) := anatomy path
  match dropIdle parts with
  | [] =>
    match start with
    | .current => some ""
    | _ => none
  | steps =>
    let before := dropIdle steps.dropLast
    some <| String.ofList <|
      match start with
      | .root => '/' :: joinSlash before
      | .current => if before.isEmpty then ['.'] else ['.', '/'] ++ joinSlash before
      | .plain => joinSlash before

/-- A path and what remains of it when steps are taken away; the fuel bounds their number. -/
def ancestorsWith : Nat → String → List String
  | 0, path => [path]
  | fuel + 1, path =>
    match parent? path with
    | some up => path :: ancestorsWith fuel up
    | none => [path]

/-- A path and what remains of it when its steps are taken away one by one. -/
def ancestors (path : String) : List String :=
  ancestorsWith path.length path

/-- The name of the file that a path leads to. -/
def fileName? (path : String) : Option String :=
  match (components path).getLast? with
  | some (.name s) => some s
  | _ => none

/-- The part of the last name behind its last point; a point in front of everything does not
count. -/
def extension? (path : String) : Option String :=
  match fileName? path with
  | some name =>
    let behind := name.toList.reverse.takeWhile (· != '.')
    match name.toList.reverse.dropWhile (· != '.') with
    | '.' :: _ :: _ => some (String.ofList behind.reverse)
    | _ => none
  | none => none

/-- What is left of a list behind another one that it starts with. -/
def behindStart? [BEq α] : List α → List α → Option (List α)
  | [], rest => some rest
  | a :: start, b :: rest => if a == b then behindStart? start rest else none
  | _ :: _, [] => none

/-- The names on the way from a base to a path; all names of the path when it does not start with
the base. -/
def namesBelow (base path : String) : List String :=
  let steps := components path
  let rest := (behindStart? (components base) steps).getD steps
  rest.filterMap fun
    | .name s => some s
    | _ => none

end FluentBuilder.FilePath
