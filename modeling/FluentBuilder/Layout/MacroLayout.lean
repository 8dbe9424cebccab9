import FluentBuilder.Layout.Document
import FluentBuilder.Code.TreeTokens
import FluentBuilder.Code.LiteralValue

/-!
# The layout of macro calls

The arguments of a macro are tokens without a tree.  They are written with the spacing that common
macros have, and a line may break wherever a space stands.

* `spacing`: whether a space stands in front of a token, by what precedes it.
* `argumentsLayout`: the arguments of a macro.
* `definitionLayout`: the rules of a macro that is defined by example.
-/

namespace FluentBuilder.Layout

open FluentBuilder.Code

/-- The words between which spaces stand in any case. -/
def spacedWords : List String :=
  ["as", "async", "await", "box", "break", "const", "continue", "crate", "dyn", "else", "enum",
    "extern", "fn", "for", "if", "impl", "in", "let", "loop", "macro", "match", "mod", "move",
    "mut", "pub", "ref", "return",
    "static", "struct", "trait", "type", "unsafe", "use", "where", "while", "yield"]

/-- What the last of the tokens written was, as far as the next one depends on it. -/
inductive Preceding where
  | dollar
  /-- The name of a fragment that a rule matches. -/
  | dollarWord
  | dollarWordColon
  | dollarParen
  | dollarSeparator
  | pound
  | poundBang
  | point
  | colon
  | doubleColon
  | word
  | wordBang
  | closing
  | other
  deriving DecidableEq, Repr

/-- Whether a token is a point. -/
def isPointToken : TokenTree → Bool
  | .leaf (.punct '.' _) => true
  | _ => false

/-- Whether nothing comes between a token and the next one in any case. -/
def closesUp : TokenTree → Bool
  | .leaf (.punct c joint) => joint || c == '$'
  | _ => false

/-- Whether a space stands in front of a word, and what the word leaves behind. -/
def wordSpacing (before : Preceding) (name : String) : Bool × Preceding :=
  if spacedWords.contains name then (true, .other)
  else (before != .point && before != .doubleColon, .word)

/-- Whether a space stands in front of a punctuation character, and what it leaves behind;
`matching` says whether the tokens are the pattern of a rule. -/
def punctSpacing (matching : Bool) (before : Preceding) (c : Char) (joint : Bool) :
    Bool × Preceding :=
  if before == .dollarWord && c == ':' && !joint then (false, .dollarWordColon)
  else if before == .dollarParen then
    if (c == '+' || c == '*' || c == '?') && !joint then (false, .other)
    else (false, if joint then .dollarParen else .dollarSeparator)
  else if before == .dollarSeparator && (c == '+' || c == '*') then (false, .other)
  else if before == .pound && c == '!' then (false, .poundBang)
  else if before == .word && c == '!' && !joint then (false, .wordBang)
  else if before == .colon && c == ':' then (false, .doubleColon)
  else if c == ',' || c == ';' then (false, .other)
  else if c == '.' && !matching then (before != .word && before != .closing, .point)
  else if c == ':' && joint then (before != .word, .colon)
  else if c == '$' then (true, .dollar)
  else if c == '#' then (true, .pound)
  else (true, .other)

/-- Whether a space stands in front of a token, and what the token leaves behind. -/
def spacing (matching : Bool) (before : Preceding) : TokenTree → Bool × Preceding
  | .group .paren _ =>
    match before with
    | .dollar => (false, .dollarParen)
    | .word => (false, .closing)
    | .wordBang => (false, .other)
    | _ => (true, .closing)
  | .group .bracket _ =>
    match before with
    | .pound | .poundBang | .wordBang => (false, .other)
    | .word => (false, .closing)
    | _ => (true, .closing)
  | .group .brace _ => (true, .other)
  | .leaf (.ident name) =>
    match before with
    | .dollar => (false, if matching then .dollarWord else .word)
    | .dollarWordColon => (false, .other)
    | .dollarParen => (false, .dollarSeparator)
    | _ => wordSpacing before name
  | .leaf (.literal text) =>
    if before == .dollarParen then (false, .dollarSeparator)
    else (before != .point, if text.endsWith "." then .other else .word)
  | .leaf (.lifetime name) =>
    if before == .dollarParen then (false, .dollarSeparator)
    else (true, (wordSpacing .other name).2)
  | .leaf (.punct c joint) => punctSpacing matching before c joint

mutual
/-- The layout of one token of a macro. -/
def macroTreeLayout (matching : Bool) : TokenTree → List Document
  | .leaf token => [.text token.text]
  | .group .paren inner =>
    [.text "("] ++ macroTokensLayout matching .other true inner ++ [.text ")"]
  | .group .bracket inner =>
    [.text "["] ++ macroTokensLayout matching .other true inner ++ [.text "]"]
  | .group .brace [] => [.text "\x7b\x7d"]
  | .group .brace inner =>
    [.text "\x7b", softSpace] ++ macroTokensLayout matching .other true inner
      ++ [softSpace, .text "\x7d"]

/-- The layout of the tokens of a macro behind the given one; `closed` says whether nothing comes
between it and the next one in any case. -/
def macroTokensLayout (matching : Bool) (before : Preceding) (closed : Bool) :
    List TokenTree → List Document
  | [] => []
  | tree :: rest =>
    let (spaced, next) := spacing matching before tree
    (if closed then [] else if spaced then [softSpace] else if isPointToken tree then
      [softBreak] else [])
      ++ macroTreeLayout matching tree ++ macroTokensLayout matching next (closesUp tree) rest
end

/-- The layout of tokens between two breaks. -/
def tokensBlock (edge : Document) (matching : Bool) (tokens : Tokens) : List Document :=
  match tokens with
  | [] => []
  | _ =>
    indented ([edge] ++ box 0 false (macroTokensLayout matching .other true tokens)
      ++ outdent [edge])

/-- The layout of the arguments of a macro. -/
def argumentsLayout : TokenTree → List Document
  | .group .paren inner => [.text "("] ++ tokensBlock softBreak false inner ++ [.text ")"]
  | .group .bracket inner => [.text "["] ++ tokensBlock softBreak false inner ++ [.text "]"]
  | .group .brace inner => [.text " \x7b"] ++ tokensBlock hardBreak false inner ++ [.text "\x7d"]
  | .leaf token => [.text token.text]

/-- The path of a module on one line. -/
def modulePathText (path : ModulePath) : String :=
  (if path.leading then "::" else "") ++ "::".intercalate path.names

/-- The layout of a macro call. -/
def macroCallLayout (call : MacroCall) : List Document :=
  [.text (modulePathText call.path), .text "!"] ++ argumentsLayout call.arguments

/-! ### Definitions by example -/

/-- What a rule of a macro expects next. -/
inductive RulePart where
  | pattern
  | equals
  | greater
  | template
  | semicolon
  deriving DecidableEq, Repr

/-- The layout of the pattern of a rule. -/
def patternBlock : TokenTree → List Document
  | .group .paren inner => [.text "("] ++ tokensBlock softBreak true inner ++ [.text ")"]
  | .group .bracket inner => [.text "["] ++ tokensBlock softBreak true inner ++ [.text "]"]
  | .group .brace inner => [.text "\x7b"] ++ tokensBlock softBreak true inner ++ [.text "\x7d"]
  | .leaf token => [.text token.text]

/-- The layout of the rules of a macro, each a pattern, an arrow, a template and a semicolon. -/
def rulesLayout (part : RulePart) : List TokenTree → List Document
  | [] =>
    match part with
    | .pattern => []
    | .semicolon => [.text ";", hardBreak]
    | _ => [hardBreak]
  | tree :: rest =>
    match part with
    | .pattern => patternBlock tree ++ rulesLayout .equals rest
    | .equals => [.text " ="] ++ rulesLayout .greater rest
    | .greater => [.text ">"] ++ rulesLayout .template rest
    | .template =>
      [.text " \x7b", noBreak] ++ tokensBlock hardBreak false tree.inner ++ [.text "\x7d"]
        ++ rulesLayout .semicolon rest
    | .semicolon => [.text ";", hardBreak] ++ rulesLayout .pattern rest

/-- The layout of the definition of a macro by example. -/
def definitionLayout (name : String) (rules : Tokens) : List Document :=
  [.text "macro_rules! ", .text name, .text " \x7b"]
    ++ indented (outdent (openBreak :: rulesLayout .pattern rules)) ++ [.text "\x7d"]

/-- The layout of a macro call as an item. -/
def macroItemLayout (call : MacroCall) (name : Option String) : List Document :=
  match name with
  | some name =>
    if call.path.names == ["macro_rules"] && !call.path.leading then
      definitionLayout name call.arguments.inner
    else
      [.text (modulePathText call.path), .text "! ", .text name] ++ argumentsLayout call.arguments
        ++ textIf (!call.arguments.isBraceGroup) ";"
  | none => macroCallLayout call ++ textIf (!call.arguments.isBraceGroup) ";"

end FluentBuilder.Layout
