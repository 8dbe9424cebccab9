import FluentBuilder.Data.Decoder
import FluentBuilder.Data.Toml

/-!
# Configuration

The settings of a generation pass as a file gives them, with the variables of the environment put
into paths.

* `Config.parse`: the settings of a text.
* `substitute`: a text with the variables that it refers to.
* `Config.toml`: the text of settings.
-/

namespace FluentBuilder

open FluentBuilder.Data

/-! ### Settings -/

/-- Where types come from. -/
inductive SourceKind where
  | sourceFiles
  | descriptors
  deriving DecidableEq, Repr

/-- What becomes of a pass in which a type violates a rule. -/
inductive FailurePolicy where
  /-- Nothing is written. -/
  | abort
  /-- The type is skipped. -/
  | proceed
  deriving DecidableEq, Repr

/-- General settings. -/
structure GeneralSettings where
  markers : List String := ["AutoBuilder"]
  source : SourceKind := .sourceFiles
  deriving DecidableEq, Repr

/-- Where types are looked for. -/
structure SourceSettings where
  scanPath : String := "."
  descriptorPath : String := "./descriptors"
  deriving DecidableEq, Repr

/-- Where builders are written to. -/
structure OutputSettings where
  path : String := "./src/generated/"
  deriving DecidableEq, Repr

/-- How a pass runs. -/
structure DriverSettings where
  failurePolicy : FailurePolicy := .abort
  parallel : Bool := true
  deriving DecidableEq, Repr

/-- All settings. -/
structure Config where
  general : GeneralSettings := {}
  source : SourceSettings := {}
  output : OutputSettings := {}
  driver : DriverSettings := {}
  deriving DecidableEq, Repr

/-- The name of a kind of source. -/
def SourceKind.label : SourceKind → String
  | .sourceFiles => "rust"
  | .descriptors => "descriptors"

/-- The name of a policy. -/
def FailurePolicy.label : FailurePolicy → String
  | .abort => "abort"
  | .proceed => "continue"

/-- The kinds of sources by name. -/
def sourceKinds : List (String × SourceKind) :=
  [("rust", .sourceFiles), ("descriptors", .descriptors)]

/-- The policies by name. -/
def failurePolicies : List (String × FailurePolicy) :=
  [("abort", .abort), ("continue", .proceed)]

/-- The settings that a value spells. -/
def Config.decode? (dialect : Dialect) : Value → Option Config :=
  Value.record? dialect do
    let general ← optional "general" {} <| Value.record? dialect do
      let markers ← optional "markers" ["AutoBuilder"] (Value.list? Value.text?)
      let source ← optional "source" .sourceFiles (Value.choice? dialect sourceKinds)
      return { markers, source }
    let source ← optional "source" {} <| Value.record? dialect do
      let scanPath ← optional "scan_path" "." Value.text?
      let descriptorPath ← optional "descriptor_path" "./descriptors" Value.text?
      return { scanPath, descriptorPath }
    let output ← optional "output" {} <| Value.record? dialect do
      return { path := ← optional "path" "./src/generated/" Value.text? }
    let driver ← optional "driver" {} <| Value.record? dialect do
      let failurePolicy ← optional "failure_policy" .abort (Value.choice? dialect failurePolicies)
      let parallel ← optional "parallel" true Value.bool?
      return { failurePolicy, parallel }
    return { general, source, output, driver }

/-- Settings as a value. -/
def Config.encode (c : Config) : Value :=
  .table
    [("general", .table [("markers", .list (c.general.markers.map Value.text)),
        ("source", .text c.general.source.label)]),
      ("source", .table [("scan_path", .text c.source.scanPath),
        ("descriptor_path", .text c.source.descriptorPath)]),
      ("output", .table [("path", .text c.output.path)]),
      ("driver", .table [("failure_policy", .text c.driver.failurePolicy.label),
        ("parallel", .bool c.driver.parallel)])]

/-- The text of settings. -/
def Config.toml (c : Config) : String :=
  "[general]\nmarkers = [" ++ ", ".intercalate (c.general.markers.map writeText) ++ "]\nsource = "
    ++ writeText c.general.source.label
    ++ "\n\n[source]\nscan_path = " ++ writeText c.source.scanPath
    ++ "\ndescriptor_path = " ++ writeText c.source.descriptorPath
    ++ "\n\n[output]\npath = " ++ writeText c.output.path
    ++ "\n\n[driver]\nfailure_policy = " ++ writeText c.driver.failurePolicy.label
    ++ "\nparallel = " ++ (if c.driver.parallel then "true" else "false") ++ "\n"

/-! ### Environment -/

/-- The variables of an environment. -/
structure Environment where
  entries : List (String × String)
  deriving Repr, Inhabited

namespace Environment

/-- The environment without variables. -/
def empty : Environment := ⟨[]⟩

/-- The value of a variable.  No variable has a name with an equals sign. -/
def get? (env : Environment) (name : String) : Option String :=
  if name.toList.contains '=' then none else env.entries.lookup name

/-- The environment with a variable set. -/
def set (env : Environment) (name value : String) : Environment :=
  ⟨(name, value) :: env.entries.filter fun v => v.1 != name⟩

/-- The environment without a variable. -/
def unset (env : Environment) (name : String) : Environment :=
  ⟨env.entries.filter fun v => v.1 != name⟩

end Environment

/-- A reference to a variable inside a text, with the text that it is written with. -/
structure Reference where
  written : List Char
  name : List Char
  default : Option (List Char)
  deriving DecidableEq, Repr

/-- The reference at the head of the input: `${NAME}` or `${NAME:-DEFAULT}`.  A name is not empty
and has no colon and no closing brace; a default has no closing brace. -/
def referenceAt? (input : List Char) : Option Reference :=
  match input with
  | '$' :: '\x7b' :: rest =>
    let isName := fun c : Char => c != '\x7d' && c != ':'
    let name := rest.takeWhile isName
    let open_ : List Char := ['$', '\x7b'] ++ name
    if name.isEmpty then none
    else
      match rest.dropWhile isName with
      | '\x7d' :: _ => some ⟨open_ ++ ['\x7d'], name, none⟩
      | ':' :: '-' :: rest =>
        let default := rest.takeWhile (· != '\x7d')
        if (rest.dropWhile (· != '\x7d')).isEmpty then none
        else some ⟨open_ ++ [':', '-'] ++ default ++ ['\x7d'], name, some default⟩
      | _ => none
  | _ => none

/-- The references of a text from left to right, none of them inside another; `skip` counts the
characters that belong to the one before. -/
def referencesFrom (skip : Nat) : List Char → List Reference
  | [] => []
  | c :: rest =>
    match skip with
    | skip + 1 => referencesFrom skip rest
    | 0 =>
      match referenceAt? (c :: rest) with
      | some r => r :: referencesFrom (r.written.length - 1) rest
      | none => referencesFrom 0 rest

/-- The references of a text. -/
def references (text : List Char) : List Reference :=
  referencesFrom 0 text

/-- A text in which every occurrence of a pattern is replaced, from left to right; `skip` counts the
characters that belong to the occurrence before. -/
def replaceFrom (pattern replacement : List Char) (skip : Nat) : List Char → List Char
  | [] => []
  | c :: rest =>
    match skip with
    | skip + 1 => replaceFrom pattern replacement skip rest
    | 0 =>
      if pattern.isPrefixOf (c :: rest) then
        replacement ++ replaceFrom pattern replacement (pattern.length - 1) rest
      else c :: replaceFrom pattern replacement 0 rest

/-- A text in which every occurrence of a pattern, which is not empty, is replaced. -/
def replaceAll (pattern replacement text : List Char) : List Char :=
  replaceFrom pattern replacement 0 text

/-- What a reference stands for, or the name of the variable that is missing. -/
def Reference.value (env : Environment) (r : Reference) : Except String (List Char) :=
  let name := String.ofList r.name
  match env.get? name, r.default with
  | some value, _ => .ok value.toList
  | none, some default => .ok default
  | none, none => .error name

/-- A text with the variables that it refers to, or the name of the first one that is missing.  The
references are those of the text itself; each replaces all of its occurrences in what the ones
before have made of the text. -/
def substitute (env : Environment) (text : String) : Except String String := do
  let result ← (references text.toList).foldlM (fun done r => do
    let value ← r.value env
    return replaceAll r.written value done) text.toList
  return String.ofList result

/-- Why settings cannot be read. -/
inductive ConfigError where
  | malformed
  | missingVariable (name : String)
  deriving DecidableEq, Repr

/-- Settings with the variables of the environment put into their paths, the first missing one being
an error. -/
def Config.substituted (env : Environment) (c : Config) : Except ConfigError Config := do
  let expand (text : String) : Except ConfigError String :=
    (substitute env text).mapError .missingVariable
  let scanPath ← expand c.source.scanPath
  let descriptorPath ← expand c.source.descriptorPath
  let path ← expand c.output.path
  return { c with source := { scanPath, descriptorPath }, output := { path } }

/-- The settings of a text. -/
def Config.parse (env : Environment) (text : String) : Except ConfigError Config :=
  match Value.readToml? text >>= Config.decode? .toml with
  | some c => c.substituted env
  | none => .error .malformed

end FluentBuilder
