import FluentBuilder.Describe

/-!
# Types in source files

Structs that derive one of the given markers are described together with the constructors found in
the same module of the same file.

* `derivedNames`: the names in the derive attributes.
* `scanItems`: the descriptors of the marked structs, in source order.
-/

namespace FluentBuilder

open FluentBuilder.Code

/-- The last names of the paths in the derive attributes; an attribute that lists no paths counts
for nothing. -/
def derivedNames (attributes : List Meta) : List String :=
  (attributes.filter fun a => a.path.isIdent "derive").flatMap fun
    | .list _ arguments => ((Path.readList? arguments.inner).getD []).filterMap Path.lastName?
    | _ => []

/-- The name of a type by which an implementation is found. -/
def Code.TypeExpr.itemName? : TypeExpr → Option String
  | .path p => if p.isQualified then none else p.lastName?
  | _ => none

/-- Whether a function with the given parameters and result constructs a value of the given type: it
has no receiver and returns the type by a path. -/
def constructs (params : List Pattern) (output : Option TypeExpr) (typeName : String) : Bool :=
  let bound := params.head?.any Pattern.isReceiver
  let returns := match output with
    | some (.path path) => path.lastName?.any fun last => last == "Self" || last == typeName
    | _ => false
  !bound && returns

/-- The parameter that a parameter of a function declares, unless it is a receiver or stands for any
number of arguments. -/
def Code.Pattern.parameter? (p : Pattern) : Option Parameter :=
  match p.bare with
  | .typed pattern type => some ⟨pattern.name?.getD pattern.text, type.text⟩
  | _ => none

/-- The constructor of a type that a member of its implementation is, if it is one. -/
def Code.Item.constructor? (typeName : String) : Item → Option Constructor
  | .marked _ visibility (.function head _ params _ output _ _ _) =>
    if constructs params output typeName then
      some { name := some head.name, params := params.filterMap Pattern.parameter?,
             visibility := visibility.described }
    else none
  | _ => none

/-- The constructors in an implementation for a type. -/
def implConstructors (asTrait : Option TypeExpr) (members : List Item) (typeName : String) :
    List Constructor :=
  match asTrait with
  | some type => if type.itemName? == some "Default" then [.ofDefault] else []
  | none => members.filterMap (Item.constructor? typeName)

/-- What an item of a module contributes. -/
inductive Finding where
  /-- A marked struct in a module. -/
  | marked (module : String) (declaration : TypeDeclaration)
  /-- Constructors of a type in a module. -/
  | constructors (module name : String) (found : List Constructor)

/-- What a declared struct contributes. -/
def structFindings (markers : List String) (module : String) (declaration : TypeDeclaration) :
    List Finding :=
  let derived := derivedNames declaration.attributes
  (if derived.contains "Default" then [.constructors module declaration.name [.ofDefault]] else [])
    ++ (if derived.any markers.contains then [.marked module declaration] else [])

mutual
/-- What an item contributes. -/
def Code.Item.findings (markers : List String) (module : String) : Item → List Finding
  | .marked attributes visibility (.struct name generics style fields trailing) =>
    match (Item.marked attributes visibility
      (.struct name generics style fields trailing)).declaration? with
    | some declaration => structFindings markers module declaration
    | none => []
  | .marked _ _ (.impl _ _ _ _ asTrait self _ members) =>
    match self.itemName? with
    | some name => [.constructors module name (implConstructors asTrait members name)]
    | none => []
  | .marked _ _ (.module _ name _ _ items) => itemsFindings markers (module ++ "::" ++ name) items
  | _ => []

/-- What the items of a module contribute, in source order. -/
def itemsFindings (markers : List String) (module : String) : List Item → List Finding
  | [] => []
  | item :: rest => item.findings markers module ++ itemsFindings markers module rest
end

/-- The constructors found for a type, in source order. -/
def constructorsFor (module name : String) (findings : List Finding) : List Constructor :=
  findings.flatMap fun
    | .constructors m n found => if m == module && n == name then found else []
    | .marked .. => []

/-- The marked structs with their modules, in source order. -/
def markedStructs (findings : List Finding) : List (String × TypeDeclaration) :=
  findings.filterMap fun
    | .marked module declaration => some (module, declaration)
    | .constructors .. => none

/-- The descriptors of marked structs.  When two of them have the same name in the same module, the
first one gets the constructors; `before` holds the names that are taken. -/
def describeMarked (findings : List Finding) (before : List (String × String)) :
    List (String × TypeDeclaration) → Except DescribeError (List TypeDescriptor)
  | [] => .ok []
  | (module, declaration) :: rest => do
    let key := (module, declaration.name)
    let found := if before.contains key then []
      else constructorsFor module declaration.name findings
    let t ← describe declaration module (some found)
    return t :: (← describeMarked findings (key :: before) rest)

/-- The descriptors of the marked structs among the items of a module, or the first error. -/
def scanItems (markers : List String) (module : String) (items : List Item) :
    Except DescribeError (List TypeDescriptor) :=
  let findings := itemsFindings markers module items
  describeMarked findings [] (markedStructs findings)

end FluentBuilder
