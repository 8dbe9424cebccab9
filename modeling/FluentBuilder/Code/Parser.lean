import FluentBuilder.Code.Identifier
import FluentBuilder.Code.LiteralValue

/-!
# Parsers over token trees

A parser consumes a prefix of a sequence of token trees or fails.  What stands inside a group is
parsed by itself and has to be consumed in full.

* `at…` predicates look at the head of the input without consuming it.
* `punct`, `keyword`, `identifier`, `group`, …: parsers for single tokens.
* `terminated`, `listUntil`, `listWhile`: the three ways in which lists are written.
* `foldWhile`: one step behind the other.
-/

namespace FluentBuilder.Code

/-- A parser over token trees. -/
abbrev Parser := StateT Tokens Option

/-! ### Looking ahead -/

/-- Whether the input starts with the characters of an operator, joint up to the last. -/
def startsOperator : List Char → Tokens → Bool
  | [], _ => true
  | [c], .leaf (.punct d _) :: _ => c == d
  | c :: cs, .leaf (.punct d true) :: rest => c == d && startsOperator cs rest
  | _, _ => false

/-- Whether an operator stands at the head of the input. -/
def atPunct (operator : String) (input : Tokens) : Bool :=
  startsOperator operator.toList input

/-- The word at the head of the input, reserved or not. -/
def headWord? : Tokens → Option String
  | .leaf (.ident name) :: _ => some name
  | _ => none

/-- Whether the given word stands at the head of the input. -/
def atWord (name : String) (input : Tokens) : Bool :=
  headWord? input == some name

/-- Whether any word stands at the head of the input. -/
def atAnyWord (input : Tokens) : Bool :=
  (headWord? input).isSome

/-- Whether one of several words stands at the head of the input. -/
def atOneOf (names : List String) (input : Tokens) : Bool :=
  (headWord? input).any names.contains

/-- Whether a word that is not reserved stands at the head of the input. -/
def atIdentifier (input : Tokens) : Bool :=
  (headWord? input).any fun name => !isKeyword name

/-- Whether a lifetime stands at the head of the input. -/
def atLifetime : Tokens → Bool
  | .leaf (.lifetime _) :: _ => true
  | _ => false

/-- Whether a group with the given delimiter stands at the head of the input. -/
def atGroup (delimiter : Delimiter) : Tokens → Bool
  | .group d _ :: _ => d == delimiter
  | _ => false

/-- The literal at the head of the input, with what follows it.  The two truth values are literals,
and a minus sign before a number belongs to it. -/
def splitLiteral? : Tokens → Option (String × Tokens)
  | .leaf (.literal text) :: rest => some (text, rest)
  | .leaf (.ident name) :: rest =>
    if name == "true" || name == "false" then some (name, rest) else none
  | .leaf (.punct '-' _) :: .leaf (.literal text) :: rest =>
    if isNumber text then some ("-" ++ text, rest) else none
  | _ => none

/-- Whether a literal stands at the head of the input. -/
def atLiteral (input : Tokens) : Bool :=
  (splitLiteral? input).isSome

/-- Whether a string literal stands at the head of the input. -/
def atString (input : Tokens) : Bool :=
  match input with
  | .leaf (.literal text) :: _ => (stringValue? text).isSome
  | _ => false

/-- Whether the head of the input can start the first segment of a path, other than a plain
identifier. -/
def atPathKeyword (input : Tokens) : Bool :=
  atOneOf ["self", "Self", "super", "crate"] input

/-! ### Single tokens -/

/-- The answer of a look at the input. -/
def look (test : Tokens → Bool) : Parser Bool :=
  fun input => some (test input, input)

/-- Fails unless a look at the input succeeds. -/
def expect (test : Tokens → Bool) : Parser Unit :=
  fun input => if test input then some ((), input) else none

/-- Consumes a fixed number of trees. -/
def advance (count : Nat) : Parser Unit :=
  fun input => some ((), input.drop count)

/-- Consumes an operator. -/
def punct (operator : String) : Parser Unit := do
  expect (atPunct operator)
  advance operator.length

/-- Consumes an operator if it is there, and tells so. -/
def punct? (operator : String) : Parser Bool := do
  if ← look (atPunct operator) then
    advance operator.length
    return true
  else return false

/-- Consumes the given word. -/
def keyword (name : String) : Parser Unit := do
  expect (atWord name)
  advance 1

/-- Consumes the given word if it is there, and tells so. -/
def keyword? (name : String) : Parser Bool := do
  if ← look (atWord name) then
    advance 1
    return true
  else return false

/-- Consumes any word. -/
def anyWord : Parser String
  | .leaf (.ident name) :: rest => some (name, rest)
  | _ => none

/-- Consumes a word that is not reserved. -/
def identifier : Parser String
  | .leaf (.ident name) :: rest => if isKeyword name then none else some (name, rest)
  | _ => none

/-- Consumes a lifetime. -/
def lifetime : Parser String
  | .leaf (.lifetime name) :: rest => some (name, rest)
  | _ => none

/-- Consumes a lifetime if one is there. -/
def lifetime? : Parser (Option String)
  | .leaf (.lifetime name) :: rest => some (some name, rest)
  | input => some (none, input)

/-- Consumes a literal. -/
def literal : Parser String :=
  fun input => splitLiteral? input

/-- Consumes a group and answers with its inside. -/
def group (delimiter : Delimiter) : Parser Tokens
  | .group d inner :: rest => if d == delimiter then some (inner, rest) else none
  | _ => none

/-- Consumes a group of any kind. -/
def anyGroup : Parser TokenTree
  | .group d inner :: rest => some (.group d inner, rest)
  | _ => none

/-- The result of a parser that consumes a whole sequence of trees. -/
def parseAll? (p : Parser α) (input : Tokens) : Option α :=
  match p input with
  | some (a, []) => some a
  | _ => none

/-- Consumes a group whose inside the given parser accepts in full. -/
def inside (delimiter : Delimiter) (p : Parser α) : Parser α := do
  let inner ← group delimiter
  match parseAll? p inner with
  | some a => return a
  | none => failure

/-- The result of a parser together with the trees that it consumed. -/
def withTokens (p : Parser α) : Parser (α × Tokens) :=
  fun input =>
    match p input with
    | some (a, rest) => some ((a, input.take (input.length - rest.length)), rest)
    | none => none

/-- The result of a parser that leaves the input in place. -/
def ahead (p : Parser α) : Parser (Option α) :=
  fun input => some ((p input).map (·.1), input)

/-! ### Lists -/

/-- Repeats a parser while the input passes a test.  The fuel bounds the number of rounds. -/
def whileAt (test : Tokens → Bool) (p : Parser α) : Nat → Parser (List α)
  | 0 => failure
  | fuel + 1 => do
    if ← look test then
      let a ← p
      let others ← whileAt test p fuel
      return a :: others
    else return []

/-- Takes one step behind the other while the input passes a test.  The fuel bounds the number of
steps. -/
def foldAt (test : Tokens → Bool) (step : α → Parser α) : Nat → α → Parser α
  | 0, _ => failure
  | fuel + 1, a => do
    if ← look test then foldAt test step fuel (← step a) else return a

/-- Takes one step behind the other while the input passes a test. -/
def foldWhile (test : Tokens → Bool) (step : α → Parser α) (a : α) : Parser α :=
  fun input => foldAt test step (input.length + 1) a input

/-- Repeats a parser while the input passes a test. -/
def repeatWhile (test : Tokens → Bool) (p : Parser α) : Parser (List α) :=
  fun input => whileAt test p (input.length + 1) input

/-- One item after another with a separator that has to stand between them, until the input passes a
test. -/
def untilAt (stop : Tokens → Bool) (separator : String) (p : Parser α) :
    Nat → Parser (List α × Bool)
  | 0 => failure
  | fuel + 1 => do
    if ← look stop then return ([], true)
    else
      let a ← p
      if ← look stop then return ([a], false)
      else
        punct separator
        let (others, trailing) ← untilAt stop separator p fuel
        return (a :: others, trailing)

/-- A list of items up to a stop, and whether a separator stands behind the last of them. -/
def listUntil (stop : Tokens → Bool) (separator : String) (p : Parser α) : Parser (List α × Bool) :=
  fun input => untilAt stop separator p (input.length + 1) input

/-- A list that fills its group, separated by commas. -/
def terminated (p : Parser α) : Parser (List α × Bool) :=
  listUntil List.isEmpty "," p

/-- One item after another as long as a separator follows and the input does not pass a test. -/
def linkedAt (stop : Tokens → Bool) (separator : String) (p : Parser α) :
    Nat → Parser (List α × Bool)
  | 0 => failure
  | fuel + 1 => do
    if ← look stop then return ([], true)
    else
      let a ← p
      if ← punct? separator then
        let (others, trailing) ← linkedAt stop separator p fuel
        return (a :: others, trailing)
      else return ([a], false)

/-- A list of items linked by a separator, and whether one stands behind the last of them. -/
def listWhile (stop : Tokens → Bool) (separator : String) (p : Parser α) : Parser (List α × Bool) :=
  fun input => linkedAt stop separator p (input.length + 1) input

end FluentBuilder.Code
