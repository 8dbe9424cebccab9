import FluentBuilder.Command.Arguments
import FluentBuilder.Data.Json
import FluentBuilder.Workspace.ConfigFile
import FluentBuilder.Workspace.Generation

/-!
# The command

What a call of the command does to a tree of files, what it prints, and how it ends.

* `runCall`: a call.
* `run`: the command with its words.
-/

namespace FluentBuilder

open FluentBuilder.Data

/-- How the command ends. -/
inductive ExitStatus where
  | success
  | failure
  /-- The words make no sense. -/
  | usage
  deriving DecidableEq, Repr

/-- The number for an end of the command. -/
def ExitStatus.code : ExitStatus → Nat
  | .success => 0
  | .failure => 1
  | .usage => 2

/-- What comes of the command. -/
structure Effect where
  status : ExitStatus
  /-- What is printed. -/
  output : String := ""
  tree : FileTree

/-! ### Settings -/

/-- The settings of a configuration that is given, or found, or of none. -/
def Call.baseSettings (call : Call) (env : Environment) (t : FileTree) :
    Except WorkspaceError Settings :=
  match call.config with
  | some path => t.loadSettings env path
  | none =>
    match t.findConfig t.workingPath with
    | .ok path => t.loadSettings env path
    | .error _ => .ok Settings.default

/-- The settings of a call. -/
def Call.settings (call : Call) (env : Environment) (t : FileTree) :
    Except WorkspaceError Settings := do
  let settings ← call.baseSettings (t.extendEnvironment env) t
  return { settings with source := call.source.getD settings.source,
                         outputPath := call.output.getD settings.outputPath }

/-! ### Texts -/

/-- The word for a kind of source. -/
def SourceKind.word : SourceKind → String
  | .sourceFiles => "Rust"
  | .descriptors => "Descriptors"

/-- The word for a policy. -/
def FailurePolicy.word : FailurePolicy → String
  | .abort => "Abort"
  | .proceed => "Continue"

/-- The line for a field: whether a builder offers it, and if not, why. -/
def Field.line (field : Field) : String :=
  match field.exclusion? with
  | none => "  + " ++ field.name ++ ": " ++ field.type ++ "\n"
  | some reason => "  - " ++ field.name ++ ": " ++ field.type ++ " (" ++ reason.text ++ ")\n"

/-- The line for what becomes of a type. -/
def Synthesized.line (s : Synthesized) : String :=
  match s.outcome with
  | .ok model => "  builder: " ++ model.name.text ++ " -> " ++ model.name.fileName ++ "\n"
  | .error v => "  rejected: " ++ v.message ++ "\n"

/-- The lines for a type and what becomes of it. -/
def typeLines (d : Discovered) (s : Synthesized) : String :=
  "\n" ++ d.type.name.text ++ " (" ++ d.origin ++ ")\n"
    ++ String.join (d.type.fields.map Field.line) ++ s.line

/-- The lines for settings and types. -/
def infoText (settings : Settings) (types : List Discovered) (synthesized : List Synthesized) :
    String :=
  "\n=== Configuration ===\n\nSource:         " ++ settings.source.word
    ++ "\nScan Path:      " ++ settings.scanPath
    ++ "\nOutput Path:    " ++ settings.outputPath
    ++ "\nFailure Policy: " ++ settings.failurePolicy.word
    ++ "\n\n=== Types (" ++ toString types.length ++ ") ===\n"
    ++ String.join (List.zipWith typeLines types synthesized)

/-- The models of builders as text. -/
def modelsText (synthesized : List Synthesized) : String :=
  let models := synthesized.filterMap fun s =>
    match s.outcome with
    | .ok model => some model.encode
    | .error _ => none
  (Value.list models).prettyJson 0 ++ "\n"

/-- The line for a violation. -/
def Violation.line (v : Violation) : String :=
  v.typeName.text ++ ": " ++ v.message ++ "\n"

/-- The text of a fresh configuration file. -/
def freshConfig : String :=
  "# AutoBuilder Configuration\n\n[general]\n# Derive names that mark a struct for builder generation.\n"
    ++ "# #[derive(AutoBuilder)] already emits the builder inline. Do not include!\n"
    ++ "# a generated file for a type that also derives AutoBuilder, or the builder\n"
    ++ "# is defined twice. List a separate marker here to generate files only.\n"
    ++ "markers = [\"AutoBuilder\"]\n"
    ++ "# \"rust\" scans source files, \"descriptors\" reads TOML/JSON descriptor files\n"
    ++ "source = \"rust\"\n\n[source]\nscan_path = \".\"\ndescriptor_path = \"./descriptors\"\n\n[output]\n"
    ++ "# Supports $\x7bVAR\x7d and $\x7bVAR:-default\x7d\n"
    ++ "path = \"./src/generated/\"\n\n[driver]\n"
    ++ "# \"abort\" writes nothing when a type violates a rule, \"continue\" skips it\n"
    ++ "failure_policy = \"abort\"\nparallel = true\n"

/-! ### Actions -/

/-- The effect of something that reads a tree, where nothing is printed when it fails. -/
def Effect.ofReading (t : FileTree) : Except WorkspaceError (ExitStatus × String) → Effect
  | .ok (status, output) => { status, output, tree := t }
  | .error _ => { status := .failure, tree := t }

/-- Writes builders. -/
def runGenerate (settings : Settings) (keepGoing : Bool) (t : FileTree) : Effect :=
  let settings := if keepGoing then { settings with failurePolicy := .proceed } else settings
  match t.generate settings defaultRules with
  | (tree, .ok report) => { status := if report.isClean then .success else .failure, tree }
  | (tree, .error _) => { status := .failure, tree }

/-- Tells which types violate a rule. -/
def runValidate (settings : Settings) (t : FileTree) : Effect :=
  .ofReading t do
    let found := violations defaultRules (← t.discover settings)
    return (if found.isEmpty then .success else .failure, String.join (found.map Violation.line))

/-- Tells which types there are, with their builders. -/
def runInfo (settings : Settings) (json : Bool) (t : FileTree) : Effect :=
  .ofReading t do
    let types ← t.discover settings
    let synthesized := synthesizeAll defaultRules types
    return (.success, if json then modelsText synthesized else infoText settings types synthesized)

/-- Writes a fresh configuration file; one that is there already is only replaced by force. -/
def runInit (config : Option String) (force : Bool) (t : FileTree) : Effect :=
  let path := config.getD configFileName
  if t.exists? path && !force then { status := .failure, tree := t }
  else
    match t.write? path (.text freshConfig) with
    | some tree => { status := .success, tree }
    | none => { status := .failure, tree := t }

/-- The effect of something that needs the settings of a call. -/
def Call.withSettings (call : Call) (env : Environment) (t : FileTree)
    (effect : Settings → Effect) : Effect :=
  match call.settings env t with
  | .ok settings => effect settings
  | .error _ => { status := .failure, tree := t }

/-- The effect of a call. -/
def runCall (call : Call) (env : Environment) (t : FileTree) : Effect :=
  match call.action with
  | .generate keepGoing => call.withSettings env t fun settings => runGenerate settings keepGoing t
  | .validate => call.withSettings env t fun settings => runValidate settings t
  | .info json => call.withSettings env t fun settings => runInfo settings json t
  | .init force => runInit call.config force t

/-- The name of the command, or of one of its subcommands. -/
def commandName : Option Subcommand → String
  | none => "autobuilder"
  | some subcommand => "autobuilder-" ++ subcommand.label

/-- The line for the version. -/
def versionText (of : Option Subcommand) : String :=
  commandName of ++ " 0.1.0\n"

/-- How the command is called. -/
def helpText : String :=
  "Usage: autobuilder [OPTIONS] [COMMAND]\n"

/-- The effect of the command with its words. -/
def run (words : List String) (env : Environment) (t : FileTree) : Effect :=
  match readCall env words with
  | .ok call => runCall call env t
  | .error .usage => { status := .usage, tree := t }
  | .error .help => { status := .success, output := helpText, tree := t }
  | .error (.version of) => { status := .success, output := versionText of, tree := t }

end FluentBuilder
