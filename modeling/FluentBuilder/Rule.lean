import FluentBuilder.Selection

/-!
# Rules

A type has to satisfy structural rules before a builder is synthesized for it.  Rules are checked in
the order of a chain, and the first one that is violated decides.

* `Check`: any rule, as what it answers about a type.
* `Rule.check?`: the violation of a rule that is built in by a type.
* `validate`: the verdict of a chain of checks.  A type that passes comes with the constructor that
  its builder calls.
-/

namespace FluentBuilder

/-- The methods that every builder has. -/
inductive FixedMethod where
  /-- The function that gives an empty builder. -/
  | factory
  /-- The method that gives the value built. -/
  | terminal
  deriving DecidableEq, Repr

/-- The name of a method that every builder has. -/
def FixedMethod.name : FixedMethod → String
  | .factory => "builder"
  | .terminal => "build"

/-- A structural rule that is built in. -/
inductive Rule where
  | noAbstractType
  | requiresConstructor
  | noMethodCollision
  deriving DecidableEq, Repr

/-- The name of a rule. -/
def Rule.name : Rule → String
  | .noAbstractType => "NoAbstractType"
  | .requiresConstructor => "RequiresAccessibleNoArgConstructor"
  | .noMethodCollision => "NoMethodNameCollision"

/-- The rules in the order in which they are usually checked. -/
def defaultRules : List Rule :=
  [.noAbstractType, .requiresConstructor, .noMethodCollision]

/-- A rejected type: which rule was violated, by which type, and why in words. -/
structure Violation where
  rule : Rule
  typeName : QualifiedName
  message : String
  deriving DecidableEq, Repr

/-- An abstract type. -/
def Violation.abstract (type : QualifiedName) : Violation where
  rule := .noAbstractType
  typeName := type
  message := "The type " ++ type.text
    ++ " is abstract. You can't derive AutoBuilder for abstract types"

/-- A type without a constructor that its builder can call. -/
def Violation.noConstructor (type : QualifiedName) : Violation where
  rule := .requiresConstructor
  typeName := type
  message := "The type " ++ type.text ++ " must provide a non-private no-argument constructor"

/-- A field whose setter would hide a method that every builder has. -/
def Violation.collision (type : QualifiedName) (field : String) (method : FixedMethod) :
    Violation where
  rule := .noMethodCollision
  typeName := type
  message :=
    "The field '" ++ field ++ "' of " ++ type.text ++ " collides with the generated '"
      ++ method.name ++ "' method"

/-- A check of a whole type: its answer to a type that it rejects, none to one that it accepts. -/
abbrev Check := TypeDescriptor → Option Violation

/-- A name without the raw marks in front of it. -/
def dropRawMarks : List Char → List Char
  | 'r' :: '#' :: rest => dropRawMarks rest
  | name => name

/-- The fixed method that a field's setter would hide. -/
def Field.collision? (field : Field) : Option FixedMethod :=
  let name := String.ofList (dropRawMarks field.name.toList)
  if name = FixedMethod.factory.name then some .factory
  else if name = FixedMethod.terminal.name then some .terminal
  else none

/-- The violation of a rule by a type, if there is one. -/
def Rule.check? (t : TypeDescriptor) : Rule → Option Violation
  | .noAbstractType => if t.isAbstract then some (.abstract t.name) else none
  | .requiresConstructor =>
    if t.accessibleConstructor?.isSome then none else some (.noConstructor t.name)
  | .noMethodCollision =>
    t.eligible.findSome? fun field => field.collision?.map (.collision t.name field.name)

/-- Rules that are built in stand for their checks. -/
instance : Coe (List Rule) (List Check) :=
  ⟨List.map fun rule t => rule.check? t⟩

/-- A type that passed a chain, with the constructor that its builder calls. -/
structure Validated where
  type : TypeDescriptor
  constructor : Constructor
  accessible : type.accessibleConstructor? = some constructor

/-- The verdict of a chain: the first violation in the order of the chain.  A type without an
accessible constructor is refused also by a chain that lacks the rule for it. -/
def validate (rules : List Check) (t : TypeDescriptor) : Except Violation Validated :=
  match rules.findSome? fun check => check t with
  | some violation => .error violation
  | none =>
    match h : t.accessibleConstructor? with
    | some c => .ok ⟨t, c, h⟩
    | none => .error (.noConstructor t.name)

end FluentBuilder
