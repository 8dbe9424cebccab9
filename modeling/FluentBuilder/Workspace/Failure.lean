import FluentBuilder.BuilderCode
import FluentBuilder.Config
import FluentBuilder.Describe
import FluentBuilder.Text.Quoted

/-!
# Failures

Why work on a workspace fails, with the words for it.

* `WorkspaceError`, `WorkspaceError.message`: the reasons and their wording.
-/

namespace FluentBuilder

/-- Why work on a workspace fails. -/
inductive WorkspaceError where
  /-- A file cannot be read or written. -/
  | access
  /-- A descriptor file cannot be read, or a struct in a source file cannot be described. -/
  | malformedFile (file : String) (reason : Option DescribeError)
  | repeatedField (field : String) (type : QualifiedName) (file : String)
  | repeatedType (type : QualifiedName) (first second : String)
  | repeatedFile (builder : QualifiedName) (file : String)
  | missingScanPath (path : String)
  | config (error : ConfigError)
  | configNotFound (start : String)
  | violation (v : Violation)
  | code (error : CodeError)
  deriving DecidableEq, Repr

/-- The name of the file that holds a configuration. -/
def configFileName : String :=
  "autobuilder.toml"

/-- A failure in words; the wording of a reader of data formats is not told. -/
def WorkspaceError.message : WorkspaceError → String
  | .access => "IO error"
  | .malformedFile file reason =>
    "Parse error in file " ++ file ++ ((reason.map fun r => ": " ++ r.message).getD "")
  | .repeatedField field type file =>
    "Duplicate definition: field '" ++ field ++ "' is declared more than once in " ++ type.text
      ++ " (" ++ file
      ++ ")"
  | .repeatedType type first second =>
    "Duplicate definition: type " ++ type.text ++ " is defined in both " ++ first
      ++ " and " ++ second
  | .repeatedFile builder file =>
    "Duplicate definition: " ++ builder.text ++ " maps to " ++ file
      ++ ", which is already generated for another type"
  | .missingScanPath path =>
    "Workspace scan error: scan path " ++ Text.quoted path ++ " does not exist"
  | .config .malformed => "Configuration error"
  | .config (.missingVariable name) => "Environment variable not set: " ++ name
  | .configNotFound start =>
    "Configuration file autobuilder.toml not found (searched upwards from " ++ Text.quoted start
      ++ ")"
  | .violation v => v.message
  | .code e => e.message

end FluentBuilder
