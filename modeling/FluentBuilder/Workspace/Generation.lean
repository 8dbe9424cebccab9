import FluentBuilder.Layout.BuilderLayout
import FluentBuilder.Text.SnakeCase
import FluentBuilder.Workspace.Discovery

/-!
# Generation

A pass over a workspace writes one file for each builder.  Everything that can fail for another
reason than access to files is settled in a plan, before the first file is written.

* `synthesizeAll`, `violations`: what becomes of types, in the order in which they were found.
* `FileTree.plan`: the files of a pass.
* `FileTree.generate`: a pass, with its report.
-/

namespace FluentBuilder

open FluentBuilder.Data

/-! ### Synthesis -/

/-- What becomes of a type that was found in a file. -/
structure Synthesized where
  origin : String
  outcome : Except Violation BuilderModel

/-- What becomes of types, in their order. -/
def synthesizeAll (rules : List Check) (types : List Discovered) : List Synthesized :=
  types.map fun d => ⟨d.origin, synthesizeWith rules d.type⟩

/-- How a type violates a chain of rules. -/
def violation? (rules : List Check) (t : TypeDescriptor) : Option Violation :=
  match validate rules t with
  | .error v => some v
  | .ok _ => none

/-- The violations among types, in their order. -/
def violations (rules : List Check) (types : List Discovered) : List Violation :=
  types.filterMap fun d => violation? rules d.type

/-! ### Plans -/

/-- A builder that a pass writes, with the file in which its target was found. -/
structure Accepted where
  model : BuilderModel
  origin : String
  deriving Repr

/-- The builders to write and the violations to report. -/
structure Sifted where
  accepted : List Accepted := []
  violations : List Violation := []
  deriving Repr

/-- The builders to write and the violations to report, unless a violation ends the pass. -/
def FailurePolicy.sift (policy : FailurePolicy) : List Synthesized → Except WorkspaceError Sifted
  | [] => .ok {}
  | s :: rest =>
    match s.outcome, policy with
    | .ok model, _ => do
      let sifted ← policy.sift rest
      return { sifted with accepted := ⟨model, s.origin⟩ :: sifted.accepted }
    | .error v, .abort => .error (.violation v)
    | .error v, .proceed => do
      let sifted ← policy.sift rest
      return { sifted with violations := v :: sifted.violations }

/-- The name of the file for a builder. -/
def QualifiedName.fileName (builder : QualifiedName) : String :=
  Text.snakeCase builder.name ++ ".rs"

/-- The comment in front of a builder. -/
def fileHeader (origin : String) : String :=
  "// @generated by autobuilder from " ++ origin ++ ". Do not edit.\n\n"

/-- The text of the file for a builder. -/
def Accepted.text (a : Accepted) : Except CodeError String := do
  return fileHeader a.origin ++ (← a.model.fileSource)

/-- A file that is to be written. -/
structure PlannedFile where
  name : String
  builder : QualifiedName
  text : String
  deriving Repr, DecidableEq

/-- The files for builders, no two with the same name; `taken` holds the names of the files
before. -/
def planFiles (taken : List String) : List Accepted → Except WorkspaceError (List PlannedFile)
  | [] => .ok []
  | a :: rest =>
    let name := a.model.name.fileName
    if taken.contains name then .error (.repeatedFile a.model.name name)
    else do
      let text ← a.text.mapError .code
      return ⟨name, a.model.name, text⟩ :: (← planFiles (name :: taken) rest)

/-- What a pass is going to do. -/
structure Plan where
  files : List PlannedFile
  /-- How many types were found. -/
  processed : Nat
  violations : List Violation
  deriving Repr, DecidableEq

/-- The plan for types that were found. -/
def planFor (settings : Settings) (rules : List Check) (types : List Discovered) :
    Except WorkspaceError Plan := do
  let sifted ← settings.failurePolicy.sift (synthesizeAll rules types)
  let files ← planFiles [] sifted.accepted
  return ⟨files, types.length, sifted.violations⟩

/-- The plan of a pass. -/
def FileTree.plan (t : FileTree) (settings : Settings) (rules : List Check) :
    Except WorkspaceError Plan := do
  planFor settings rules (← t.discover settings)

/-! ### Passes -/

/-- A file that was written. -/
structure WrittenFile where
  path : String
  /-- How many bytes the file has. -/
  size : Nat
  builder : QualifiedName
  deriving Repr, DecidableEq

/-- What a pass did. -/
structure Report where
  files : List WrittenFile
  processed : Nat
  violations : List Violation
  deriving Repr, DecidableEq

/-- Whether no type violates a rule. -/
def Report.isClean (r : Report) : Bool :=
  r.violations.isEmpty

/-- A report as a value. -/
def Report.encode (r : Report) : Value :=
  .table
    [("files", .list (r.files.map fun f =>
        .table [("path", .text f.path), ("bytes_written", .number (toString f.size)),
          ("builder", f.builder.encode)])),
      ("types_processed", .number (toString r.processed)),
      ("violations", .list (r.violations.map Violation.encode))]

/-- Writes planned files into a directory, up to the first that cannot be written. -/
def FileTree.writeFiles (t : FileTree) (directory : String) :
    List PlannedFile → FileTree × Except WorkspaceError (List WrittenFile)
  | [] => (t, .ok [])
  | file :: rest =>
    let path := FilePath.join directory file.name
    match t.write? path (.text file.text) with
    | none => (t, .error .access)
    | some t =>
      let (t, written) := t.writeFiles directory rest
      (t, written.map fun files => ⟨path, file.text.utf8ByteSize, file.builder⟩ :: files)

/-- Carries out a plan: creates the directory for the files, and writes them. -/
def FileTree.carryOut (t : FileTree) (directory : String) (plan : Plan) :
    FileTree × Except WorkspaceError Report :=
  match t.createDirectories directory with
  | (t, false) => (t, .error .access)
  | (t, true) =>
    let (t, written) := t.writeFiles directory plan.files
    (t, written.map fun files => ⟨files, plan.processed, plan.violations⟩)

/-- A pass over a workspace. -/
def FileTree.generate (t : FileTree) (settings : Settings) (rules : List Check) :
    FileTree × Except WorkspaceError Report :=
  match t.plan settings rules with
  | .ok plan => t.carryOut settings.outputPath plan
  | .error e => (t, .error e)

end FluentBuilder
