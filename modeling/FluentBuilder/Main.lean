import FluentBuilder.Command.Run

/-!
# The program

The part of the files and of the environment that a call of the command can see is read into a tree,
the command is run on it, and what it changed is written back.

* `readSurroundings`: what a call can see.
* `writeChanges`: what it changed.
* `main`: the program.
-/

namespace FluentBuilder

/-- The location that the steps of a path lead to from a working directory, without looking at
files. -/
def locationFrom (working : Location) (path : String) : Location :=
  (FilePath.components path).foldl (fun location step =>
    match step with
    | .root => []
    | .current => location
    | .parent => location.dropLast
    | .name s => location ++ [s]) working

/-- The path of a location. -/
def pathOf (location : Location) : String :=
  "/" ++ "/".intercalate location

/-- The tree with what is at and below a location; what cannot be read is left out. -/
partial def readBelow (t : FileTree) (location : Location) : IO FileTree := do
  try
    let path ← IO.FS.realPath (pathOf location)
    if ← path.isDir then
      let entries ← path.readDir
      entries.foldlM (fun t entry => readBelow t (location ++ [entry.fileName]))
        (t.put location .directory)
    else
      return t.put location (.file (.ofBytes (← IO.FS.readBinFile path).toList))
  catch _ => return t

/-- The tree with a location, if there is a directory. -/
def readDirectory (t : FileTree) (location : Location) : IO FileTree := do
  try
    let path ← IO.FS.realPath (pathOf location)
    if ← path.isDir then return t.put location .directory else return t
  catch _ => return t

/-- The tree with what is at and below a path, and the directories above it. -/
def readPath (t : FileTree) (path : String) : IO FileTree := do
  let location := locationFrom t.working path
  let t ← ((List.range location.length).map location.take).foldlM readDirectory t
  readBelow t location

/-- The paths of the files that say how the command runs. -/
def settingPaths (t : FileTree) (given : Option String) : List String :=
  let around := (FilePath.ancestors t.workingPath).flatMap fun up =>
    [FilePath.join up FileTree.environmentFileName, FilePath.join up configFileName]
  around ++ given.toList

/-- The paths that a call reads and writes below. -/
def Call.workPaths (call : Call) (env : Environment) (t : FileTree) : List String :=
  match call.action, call.settings env t with
  | .init _, _ => []
  | _, .ok settings => [settings.scanPath, settings.descriptorPath, settings.outputPath]
  | _, .error _ => []

/-- The words of a text that can be names of variables. -/
def nameWords (text : String) : List String :=
  let isPart := fun c : Char => Text.isAlphanumeric c || c == '_' || c == '.'
  (text.toList.splitBy fun a b => isPart a && isPart b).map String.ofList

/-- The names of the variables that the files of a tree mention. -/
def mentionedNames (t : FileTree) : List String :=
  t.places.flatMap fun p =>
    match p.2 with
    | .file (.text s) => nameWords s ++ (references s.toList).map fun r => String.ofList r.name
    | _ => []

/-- The variables with the given names. -/
def readEnvironment (names : List String) : IO Environment :=
  names.eraseDups.foldlM (fun env name => do
    match ← IO.getEnv name with
    | some value => return env.set name value
    | none => return env) Environment.empty

/-- What a call of the command can see: its environment, and its files. -/
def readSurroundings (working : Location) (words : List String) : IO (Environment × FileTree) := do
  let outer ← readEnvironment [configVariable]
  match readCall outer words with
  | .error _ => return (outer, FileTree.empty working)
  | .ok call =>
    let start := FileTree.empty working
    let t ← (settingPaths start call.config).foldlM readPath start
    let env ← readEnvironment (configVariable :: mentionedNames t)
    let t ← (call.workPaths env t).foldlM readPath t
    return (env, t)

/-- Writes what differs between two trees, where nothing is missing from the second. -/
def writeChanges (before after : FileTree) : IO Unit :=
  (after.places.reverse.filter fun p => before.get? p.1 != some p.2).forM fun (location, place) =>
    match place with
    | .directory => IO.FS.createDirAll (pathOf location)
    | .file (.text s) => IO.FS.writeFile (pathOf location) s
    | .file (.bytes bs) => IO.FS.writeBinFile (pathOf location) ⟨bs.toArray⟩

end FluentBuilder

open FluentBuilder in
/-- The program. -/
def main (words : List String) : IO UInt32 := do
  let working := locationFrom [] (← IO.currentDir).toString
  let (env, t) ← readSurroundings working words
  let effect := run words env t
  writeChanges t effect.tree
  IO.print effect.output
  return UInt32.ofNat effect.status.code
