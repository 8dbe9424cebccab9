import FluentBuilder.Workspace.FilePath

/-!
# Module paths of source files

The module that a file defines follows from its place below the last directory named `src`.

* `modulePath`: the path of the module, starting at the package.
-/

namespace FluentBuilder

/-- The names behind the last occurrence of a name, and whether there is one. -/
def behindLast (mark : String) : List String → Bool × List String
  | [] => (false, [])
  | name :: rest =>
    match behindLast mark rest with
    | (true, tail) => (true, tail)
    | (false, _) => if name == mark then (true, rest) else (false, name :: rest)

/-- A text without the given ending, as often as it has it. -/
def dropEnding (ending : List Char) (text : List Char) : List Char :=
  let start := ending.reverse
  let rec strip : Nat → List Char → List Char
    | 0, cs => cs
    | fuel + 1, cs => if start.isPrefixOf cs then strip fuel (cs.drop start.length) else cs
  (strip text.length text.reverse).reverse

/-- The name of a source file without its extension. -/
def sourceStem (name : String) : String :=
  String.ofList (dropEnding ['.', 'r', 's'] name.toList)

/-- The segments for the names below the source directory; `top` says whether a file stands directly
in one. -/
def moduleSegments (top : Bool) : List String → List String
  | [] => []
  | [file] =>
    let stem := sourceStem file
    if stem == "mod" || (top && (stem == "lib" || stem == "main")) then [] else [stem]
  | directory :: rest => directory :: moduleSegments false rest

/-- The path of the module that a file defines, where `root` is the directory in which files are
looked for. -/
def modulePath (root file : String) : String :=
  let (inSource, names) := behindLast "src" (FilePath.namesBelow root file)
  "::".intercalate ("crate" :: moduleSegments inSource names)

end FluentBuilder
