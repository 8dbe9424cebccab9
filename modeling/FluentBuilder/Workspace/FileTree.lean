import FluentBuilder.Workspace.FilePath
import FluentBuilder.Text.Utf8

/-!
# File trees

Files and directories by the names that lead to them from the root.  A path that is not absolute
starts at a working directory.

* `FileTree.resolve?`: the place that a path leads to.
* `FileTree.read?`, `FileTree.write?`, `FileTree.createDirectories`, `FileTree.remove`: access by
  path.
* `FileTree.walk`: all places below a path, in the order of names.
-/

namespace FluentBuilder

open FilePath

/-- What a file holds. -/
inductive Content where
  | text (s : String)
  /-- Bytes that are no text. -/
  | bytes (bs : List UInt8)
  deriving Repr, DecidableEq, Inhabited

/-- The content with the given bytes. -/
def Content.ofBytes (bs : List UInt8) : Content :=
  match Text.decodeUtf8? bs with
  | some s => .text s
  | none => .bytes bs

/-- A file or a directory. -/
inductive Place where
  | directory
  | file (content : Content)
  deriving Repr, DecidableEq, Inhabited

/-- The names that lead from the root to a place. -/
abbrev Location := List String

/-- Files and directories, with the working directory.  The root and the working directory are
always there. -/
structure FileTree where
  places : List (Location × Place)
  working : Location
  deriving Repr, Inhabited

namespace FileTree

/-- The tree without files. -/
def empty (working : Location) : FileTree :=
  ⟨[], working⟩

/-- What is at a location. -/
def get? (t : FileTree) (location : Location) : Option Place :=
  if location.isPrefixOf t.working then some .directory else t.places.lookup location

/-- Whether a location is a directory. -/
def isDirectoryAt (t : FileTree) (location : Location) : Bool :=
  t.get? location == some .directory

/-- The tree with something put at a location. -/
def put (t : FileTree) (location : Location) (place : Place) : FileTree :=
  { t with places := (location, place) :: t.places.filter fun p => p.1 != location }

/-- Whether a name can be the name of a file. -/
def isFileName (name : String) : Bool :=
  decide (name.utf8ByteSize ≤ 255) && !name.toList.contains (Char.ofNat 0)

/-! ### Paths -/

/-- The location that steps lead to.  Every step but the last has to end at a directory. -/
def follow? (t : FileTree) (location : Location) : List Component → Option Location
  | [] => if (t.get? location).isSome then some location else none
  | step :: rest =>
    match step with
    | .root => t.follow? [] rest
    | .current => if t.isDirectoryAt location then t.follow? location rest else none
    | .parent => if t.isDirectoryAt location then t.follow? location.dropLast rest else none
    | .name s =>
      if t.isDirectoryAt location && isFileName s then t.follow? (location ++ [s]) rest else none

/-- Whether a path can only lead to a directory: nothing stands behind its last slash. -/
def endsInDirectory (path : String) : Bool :=
  match (splitSlash path.toList).getLast? with
  | some part => isIdle part
  | none => false

/-- The place that a path leads to. -/
def resolve? (t : FileTree) (path : String) : Option Location :=
  if path.isEmpty then none
  else
    match t.follow? t.working (components path) with
    | some location =>
      if endsInDirectory path && !t.isDirectoryAt location then none else some location
    | none => none

/-- Whether a path leads anywhere. -/
def exists? (t : FileTree) (path : String) : Bool :=
  (t.resolve? path).isSome

/-- Whether a path leads to a directory. -/
def isDirectory (t : FileTree) (path : String) : Bool :=
  (t.resolve? path).any t.isDirectoryAt

/-- Whether a path leads to a file. -/
def isFile (t : FileTree) (path : String) : Bool :=
  (t.resolve? path).any fun location => !t.isDirectoryAt location

/-- The content of the file that a path leads to. -/
def content? (t : FileTree) (path : String) : Option Content :=
  match (t.resolve? path).bind t.get? with
  | some (.file content) => some content
  | _ => none

/-- The text of the file that a path leads to. -/
def read? (t : FileTree) (path : String) : Option String :=
  match t.content? path with
  | some (.text s) => some s
  | _ => none

/-! ### Changes -/

/-- The location of a path whose last step may lead to nothing yet. -/
def target? (t : FileTree) (path : String) : Option Location :=
  let steps := components path
  match steps.getLast? with
  | some (.name s) =>
    match t.follow? t.working steps.dropLast with
    | some location =>
      if t.isDirectoryAt location && isFileName s then some (location ++ [s]) else none
    | none => none
  | _ => none

/-- The tree with a file written, if its path leads into a directory. -/
def write? (t : FileTree) (path : String) (content : Content) : Option FileTree :=
  if endsInDirectory path then none
  else
    match t.target? path with
    | some location =>
      if t.isDirectoryAt location then none else some (t.put location (.file content))
    | none => none

/-- What comes of creating one directory. -/
inductive Creation where
  | created (t : FileTree)
  /-- A directory on the way is missing. -/
  | missing
  /-- Something is there already, or in the way. -/
  | refused

/-- Whether the steps of a path fail for a name that is missing, rather than for a file in the
way. -/
def isMissing (t : FileTree) (location : Location) : List Component → Bool
  | [] => (t.get? location).isNone
  | step :: rest =>
    match t.get? location with
    | none => true
    | some (.file _) => false
    | some .directory =>
      match step with
      | .root => t.isMissing [] rest
      | .current => t.isMissing location rest
      | .parent => t.isMissing location.dropLast rest
      | .name s => isFileName s && t.isMissing (location ++ [s]) rest

/-- The text behind the last slash that something stands behind. -/
def lastPart? (path : String) : Option (List Char) :=
  ((splitSlash path.toList).reverse.dropWhile List.isEmpty).head?

/-- Creates one directory. -/
def createDirectory (t : FileTree) (path : String) : Creation :=
  match t.resolve? path with
  | some _ => .refused
  | none =>
    match t.target? path with
    | some location =>
      if lastPart? path == some ['.'] then .missing
      else if (t.get? location).isSome then .refused
      else .created (t.put location .directory)
    | none => if path.isEmpty || t.isMissing t.working (components path) then .missing else .refused

/-- Creates the directories along a path, given with the paths above it.  The answer says whether
the path leads to a directory in the end; what is created on the way remains. -/
def createAlong (t : FileTree) : List String → FileTree × Bool
  | [] => (t, false)
  | path :: above =>
    if path.isEmpty then (t, true)
    else
      match t.createDirectory path with
      | .created t => (t, true)
      | .refused => (t, t.isDirectory path)
      | .missing =>
        match t.createAlong above with
        | (t, false) => (t, false)
        | (t, true) =>
          match t.createDirectory path with
          | .created t => (t, true)
          | _ => (t, t.isDirectory path)

/-- Creates a directory with all directories on the way. -/
def createDirectories (t : FileTree) (path : String) : FileTree × Bool :=
  t.createAlong (ancestors path)

/-- The tree without what is at or below a location. -/
def removeAt (t : FileTree) (location : Location) : FileTree :=
  { t with places := t.places.filter fun p => !location.isPrefixOf p.1 }

/-- The tree without what a path leads to. -/
def remove (t : FileTree) (path : String) : FileTree :=
  match t.resolve? path with
  | some location => t.removeAt location
  | none => t

/-! ### Walks -/

/-- A list with a name inserted in order. -/
def insertName (name : String) : List String → List String
  | [] => [name]
  | other :: rest => if name < other then name :: other :: rest else other :: insertName name rest

/-- The names in a directory, in order. -/
def namesIn (t : FileTree) (location : Location) : List String :=
  let known := t.places.map (·.1) ++ (List.range (t.working.length + 1)).map t.working.take
  let names := known.filterMap fun l =>
    if l.length == location.length + 1 && location.isPrefixOf l then l.getLast? else none
  names.eraseDups.foldr insertName []

/-- A place met on a walk: the path that leads to it, and what is there. -/
structure Visit where
  path : String
  place : Place
  deriving Repr

mutual
/-- The places at and below a location, each directory in front of what it holds. `enters` says
which names are visited; the fuel bounds the depth. -/
def walkAt (t : FileTree) (enters : String → Bool) : Nat → String → Location → List Visit
  | 0, _, _ => []
  | fuel + 1, path, location =>
    match t.get? location with
    | some .directory =>
      ⟨path, .directory⟩ :: walkNames t enters fuel path location (t.namesIn location)
    | some place => [⟨path, place⟩]
    | none => []

/-- The places at and below several names of a directory. -/
def walkNames (t : FileTree) (enters : String → Bool) (fuel : Nat) (path : String)
    (location : Location) :
    List String → List Visit
  | [] => []
  | name :: rest =>
    (if enters name then walkAt t enters fuel (join path name) (location ++ [name]) else [])
      ++ walkNames t enters fuel path location rest
end

/-- The places at and below what a path leads to, in the order of names. `enters` says which names
below the path are visited. -/
def walk (t : FileTree) (enters : String → Bool) (path : String) : List Visit :=
  match t.resolve? path with
  | some location => t.walkAt enters (t.places.length + t.working.length + 2) path location
  | none => []

end FileTree

end FluentBuilder
