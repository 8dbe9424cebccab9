import FluentBuilder.Data.DescriptorFormat
import FluentBuilder.Data.Json
import FluentBuilder.Data.Toml
import FluentBuilder.Scan
import FluentBuilder.Workspace.Failure
import FluentBuilder.Workspace.FileTree
import FluentBuilder.Workspace.ModulePath
import FluentBuilder.Workspace.Settings

/-!
# Discovery

The types of a workspace: marked structs in source files below a directory, or types in descriptor
files.

* `FileTree.scan`, `FileTree.loadDescriptors`: the two ways to find types.
* `FileTree.discover`: the types for given settings, no two with the same name.
-/

namespace FluentBuilder

open FluentBuilder.Data FluentBuilder.Code

/-- A type with the file in which it was found. -/
structure Discovered where
  type : TypeDescriptor
  origin : String
  deriving Repr, DecidableEq

/-! ### Source files -/

/-- Whether a name is visited when source files are looked for: neither hidden nor the directory of
a build. -/
def isScanned (name : String) : Bool :=
  name.toList.head? != some '.' && name != "target"

/-- The marked structs of the items of a file. -/
def scanFileItems (markers : List String) (module file : String) (items : List Item) :
    Except WorkspaceError (List Discovered) :=
  match scanItems markers module items with
  | .ok types => .ok (types.map fun t => ⟨t, file⟩)
  | .error e => .error (.malformedFile file (some e))

/-- The marked structs of a visited place; what is no readable source file has none. -/
def scanVisit (root : String) (markers : List String) (visit : FileTree.Visit) :
    Except WorkspaceError (List Discovered) :=
  match visit.place with
  | .file (.text text) =>
    if FilePath.extension? visit.path == some "rs" then
      match sourceItems? text with
      | some items => scanFileItems markers (modulePath root visit.path) visit.path items
      | none => .ok []
    else .ok []
  | _ => .ok []

/-- The marked structs of all source files below a directory, in the order of names. -/
def FileTree.scan (t : FileTree) (root : String) (markers : List String) :
    Except WorkspaceError (List Discovered) :=
  if t.exists? root then do
    let found ← (t.walk isScanned root).mapM (scanVisit root markers)
    return found.flatten
  else .error (.missingScanPath root)

/-! ### Descriptor files -/

/-- The types that a text describes, in the format that the extension of its file stands for. -/
def readTypes? (file text : String) : Option (List TypeDescriptor) :=
  if FilePath.extension? file == some "json" then Value.readJson? text >>= decodeTypes? .json
  else Value.readToml? text >>= decodeTypes? .toml

/-- Refuses a type that declares a field more than once. -/
def checkFields (file : String) (t : TypeDescriptor) : Except WorkspaceError Unit :=
  match t.duplicateField? with
  | some field => .error (.repeatedField field t.name file)
  | none => .ok ()

/-- The types of a descriptor file. -/
def FileTree.loadDescriptorFile (t : FileTree) (file : String) :
    Except WorkspaceError (List TypeDescriptor) :=
  match t.read? file with
  | none => .error .access
  | some text =>
    match readTypes? file text with
    | none => .error (.malformedFile file none)
    | some types => do
      let _ ← types.mapM (checkFields file)
      return types

/-- The types of a visited place; what is no descriptor file has none. -/
def FileTree.loadVisit (t : FileTree) (visit : Visit) : Except WorkspaceError (List Discovered) :=
  match visit.place with
  | .file _ =>
    if (FilePath.extension? visit.path).any ["toml", "json"].contains then do
      let types ← t.loadDescriptorFile visit.path
      return types.map fun type => ⟨type, visit.path⟩
    else .ok []
  | .directory => .ok []

/-- The types of all descriptor files below a directory, in the order of names; a missing directory
has none. -/
def FileTree.loadDescriptors (t : FileTree) (directory : String) :
    Except WorkspaceError (List Discovered) := do
  let found ← (t.walk (fun _ => true) directory).mapM t.loadVisit
  return found.flatten

/-! ### Types of a workspace -/

/-- Refuses a type whose name occurred before; `before` holds the names with their files. -/
def checkNames (before : List (QualifiedName × String)) :
    List Discovered → Except WorkspaceError Unit
  | [] => .ok ()
  | d :: rest =>
    match before.lookup d.type.name with
    | some first => .error (.repeatedType d.type.name first d.origin)
    | none => checkNames ((d.type.name, d.origin) :: before) rest

/-- The types for given settings, no two with the same name. -/
def FileTree.discover (t : FileTree) (settings : Settings) :
    Except WorkspaceError (List Discovered) := do
  let found ← match settings.source with
    | .sourceFiles => t.scan settings.scanPath settings.markers
    | .descriptors => t.loadDescriptors settings.descriptorPath
  let _ ← checkNames [] found
  return found

end FluentBuilder
