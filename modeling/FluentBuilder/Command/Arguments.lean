import FluentBuilder.Config

/-!
# Arguments of the command

The command is called with words: options, and the name of a subcommand with options of its own.
Options that every subcommand knows may stand in front of the name or behind it.

* `Call`: what the command is asked to do.
* `readCall`: the call that words make, or why there is none.
-/

namespace FluentBuilder

/-! ### Calls -/

/-- The name of something that the command can do. -/
inductive Subcommand where
  | generate
  | validate
  | info
  | init
  deriving DecidableEq, Repr

/-- The subcommands by name. -/
def subcommands : List (String × Subcommand) :=
  [("generate", .generate), ("validate", .validate), ("info", .info), ("init", .init)]

/-- The name of a subcommand as text. -/
def Subcommand.label : Subcommand → String
  | .generate => "generate"
  | .validate => "validate"
  | .info => "info"
  | .init => "init"

/-- What the command is asked to do. -/
inductive Action where
  /-- Writes builders. -/
  | generate (keepGoing : Bool)
  /-- Tells which types violate a rule. -/
  | validate
  /-- Tells which types there are, with their builders. -/
  | info (json : Bool)
  /-- Writes a configuration file. -/
  | init (force : Bool)
  deriving DecidableEq, Repr

/-- An action with the settings that the caller wants in place of those of a configuration. -/
structure Call where
  action : Action
  config : Option String
  source : Option SourceKind
  output : Option String
  deriving DecidableEq, Repr

/-- Why there is no call. -/
inductive NoCall where
  /-- The words make no sense. -/
  | usage
  /-- The caller wants to know how to call the command. -/
  | help
  /-- The caller wants to know the version, of the command or of one of its subcommands. -/
  | version (of : Option Subcommand)
  deriving DecidableEq, Repr

/-! ### Options -/

/-- An option. -/
inductive Switch where
  | config
  | source
  | output
  | verbose
  | quiet
  | help
  | version
  | keepGoing
  | sequential
  | json
  | force
  deriving DecidableEq, Repr

/-- Whether an option has a value. -/
def Switch.takesValue : Switch → Bool
  | .config | .source | .output => true
  | _ => false

/-- The options by name that may stand in front of the name of a subcommand, or behind it. -/
def commonSwitches : List (String × Switch) :=
  [("config", .config), ("source", .source), ("output", .output), ("verbose", .verbose),
    ("quiet", .quiet), ("help", .help), ("version", .version)]

/-- The options by name that only one subcommand knows. -/
def Subcommand.switches : Subcommand → List (String × Switch)
  | .generate => [("keep-going", .keepGoing), ("sequential", .sequential)]
  | .validate => []
  | .info => [("json", .json)]
  | .init => [("force", .force)]

/-- The options by name that may stand in a place: in front of the name of a subcommand, or behind
it. -/
def switchesAt : Option Subcommand → List (String × Switch)
  | none => commonSwitches
  | some subcommand => commonSwitches ++ subcommand.switches

/-- The options by letter. -/
def switchLetters : List (Char × Switch) :=
  [('c', .config), ('o', .output), ('v', .verbose), ('q', .quiet), ('h', .help), ('V', .version)]

/-! ### Words -/

/-- What the words in one place say. -/
structure Given where
  config : Option String := none
  source : Option SourceKind := none
  output : Option String := none
  /-- The options without values. -/
  flags : List Switch := []
  /-- The last option with a value that was met, with its value once that is known.  It counts when
  the next option is met, and when the words are at their end. -/
  pending : Option (Switch × Option String) := none
  deriving Repr

namespace Given

/-- Adds the value of an option.  No option is given twice, and no path is empty. -/
def addValue (g : Given) (switch : Switch) (value : String) : Except NoCall Given :=
  match switch with
  | .config =>
    if g.config.isSome || value.isEmpty then .error .usage else .ok { g with config := some value }
  | .output =>
    if g.output.isSome || value.isEmpty then .error .usage else .ok { g with output := some value }
  | .source =>
    match g.source, sourceKinds.lookup value with
    | none, some kind => .ok { g with source := some kind }
    | _, _ => .error .usage
  | _ => .error .usage

/-- Adds the value of the option that was met last. -/
def settle (g : Given) : Except NoCall Given :=
  match g.pending with
  | none => .ok g
  | some (_, none) => .error .usage
  | some (switch, some value) => { g with pending := none }.addValue switch value

/-- Adds an option without a value.  Only the option for more messages may be given more than
once. -/
def addFlag (place : Option Subcommand) (g : Given) (switch : Switch) : Except NoCall Given := do
  let g ← g.settle
  match switch with
  | .help => throw .help
  | .version => throw (.version place)
  | .verbose => return g
  | _ =>
    if g.flags.contains switch then throw .usage else return { g with flags := switch :: g.flags }

/-- Adds an option with the value that is attached to it. -/
def addAttached (g : Given) (switch : Switch) (value : String) : Except NoCall Given := do
  (← g.settle).addValue switch value

/-- Adds an option whose value is the next word. -/
def await (g : Given) (switch : Switch) : Except NoCall Given := do
  return { (← g.settle) with pending := some (switch, none) }

/-- Whether the next word is the value of an option. -/
def isAwaiting (g : Given) : Bool :=
  g.pending.any fun p => p.2.isNone

/-- Adds an option that is written out, with or without an attached value. -/
def addLong (place : Option Subcommand) (g : Given) (word : List Char) : Except NoCall Given :=
  let name := String.ofList (word.takeWhile (· != '='))
  match (switchesAt place).lookup name, word.dropWhile (· != '=') with
  | none, _ => .error .usage
  | some switch, '=' :: value =>
    if switch.takesValue then g.addAttached switch (String.ofList value) else .error .usage
  | some switch, _ => if switch.takesValue then g.await switch else g.addFlag place switch

/-- Adds options that are written as letters.  What stands behind the letter of an option with a
value is the value; an equals sign may stand between them. -/
def addLetters (place : Option Subcommand) (g : Given) : List Char → Except NoCall Given
  | [] => .ok g
  | c :: rest =>
    match switchLetters.lookup c with
    | none => .error .usage
    | some switch =>
      if switch.takesValue then
        match rest with
        | [] => g.await switch
        | '=' :: value => g.addAttached switch (String.ofList value)
        | value => g.addAttached switch (String.ofList value)
      else do (← g.addFlag place switch).addLetters place rest

/-- Adds a word that is no name of a subcommand.  A hyphen alone is no option. -/
def addWord (place : Option Subcommand) (g : Given) (word : String) : Except NoCall Given :=
  match word.toList with
  | '-' :: '-' :: name => g.addLong place name
  | '-' :: c :: letters => g.addLetters place (c :: letters)
  | _ =>
    match g.pending with
    | some (switch, none) => .ok { g with pending := some (switch, some word) }
    | _ => .error .usage

end Given

/-- The answer to a call for help with the given words. -/
def readHelp : List String → NoCall
  | [] => .help
  | [name] => if name == "help" || (subcommands.lookup name).isSome then .help else .usage
  | _ => .usage

/-- Reads the words in one place, up to the name of a subcommand; only a first such name counts.
Nothing may stand behind two hyphens. -/
def readWords (place : Option Subcommand) (g : Given) :
    List String → Except NoCall (Given × Option (Subcommand × List String))
  | [] => .ok (g, none)
  | word :: rest =>
    if word == "--" then
      if rest.isEmpty then .ok (g, none) else .error .usage
    else if place.isNone && !g.isAwaiting && word == "help" then .error (readHelp rest)
    else
      match if place.isNone && !g.isAwaiting then subcommands.lookup word else none with
      | some subcommand => .ok (g, some (subcommand, rest))
      | none => do readWords place (← g.addWord place word) rest

/-- The variable that holds the path of a configuration file. -/
def configVariable : String :=
  "AUTOBUILDER_CONFIG"

/-- What the words in one place say in the end.  Where no configuration file is given, that of the
environment counts, and its path must not be empty either. -/
def Given.complete (g : Given) (env : Environment) : Except NoCall Given := do
  let g ← g.settle
  if g.config.isNone && env.get? configVariable == some "" then throw .usage
  return g

/-- The action of a subcommand with options. -/
def Subcommand.action (flags : List Switch) : Subcommand → Action
  | .generate => .generate (flags.contains .keepGoing)
  | .validate => .validate
  | .info => .info (flags.contains .json)
  | .init => .init (flags.contains .force)

/-- The call that words make in an environment.  What stands behind the name of a subcommand counts
before what stands in front of it, and both count before the environment.  Builders are written when
no subcommand is named. -/
def readCall (env : Environment) (words : List String) : Except NoCall Call := do
  let (outer, found) ← readWords none {} words
  let (subcommand, inner) ← match found with
    | none => pure (Subcommand.generate, ({} : Given))
    | some (subcommand, rest) => do
      let (inner, _) ← readWords (some subcommand) {} rest
      pure (subcommand, ← inner.complete env)
  let outer ← outer.complete env
  return {
    action := subcommand.action inner.flags
    config := inner.config <|> outer.config <|> env.get? configVariable
    source := inner.source <|> outer.source
    output := inner.output <|> outer.output }

end FluentBuilder
