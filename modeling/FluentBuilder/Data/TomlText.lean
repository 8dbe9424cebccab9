import FluentBuilder.Data.TomlScalar

/-!
# Texts of TOML

The four written forms of a text: with escapes or literal, on one line or on several.

* `readBasic?`, `readLiteral?`, `readLines?`: the text behind its opening quotes.
* `writeText`: the written form that a text gets.
-/

namespace FluentBuilder.Data

open FluentBuilder.Text

/-- Whether a character may not stand for itself: a control other than the tab. -/
def isControl (c : Char) : Bool :=
  (c.toNat < 0x20 && c != '\t') || c.toNat == 0x7F

/-! ### Reading -/

/-- The character with a given number, written with a fixed count of hexadecimal digits. -/
def hexCharacter? (count : Nat) (input : List Char) : Option (Char × List Char) :=
  let digits := input.take count
  if digits.length == count && digits.all isHexDigit then
    let n := digits.foldl (fun n c => n * 16 + hexValue c) 0
    if n < 0xD800 || (0xDFFF < n && n < 0x110000) then some (Char.ofNat n, input.drop count)
    else none
  else none

/-- The character of an escape behind its backslash. -/
def basicEscape? : List Char → Option (Char × List Char)
  | 'b' :: rest => some (Char.ofNat 8, rest)
  | 't' :: rest => some ('\t', rest)
  | 'n' :: rest => some ('\n', rest)
  | 'f' :: rest => some (Char.ofNat 12, rest)
  | 'r' :: rest => some ('\r', rest)
  | 'e' :: rest => some (Char.ofNat 27, rest)
  | '"' :: rest => some ('"', rest)
  | '\\' :: rest => some ('\\', rest)
  | 'x' :: rest => hexCharacter? 2 rest
  | 'u' :: rest => hexCharacter? 4 rest
  | 'U' :: rest => hexCharacter? 8 rest
  | _ => none

/-- The characters of a text with escapes, up to its closing quote.  The fuel bounds their
number. -/
def readBasicWith? : Nat → List Char → Option (List Char × List Char)
  | 0, _ => none
  | _ + 1, [] => none
  | fuel + 1, c :: rest =>
    if c == '"' then some ([], rest)
    else if c == '\\' then do
      let (here, rest) ← basicEscape? rest
      let (others, rest) ← readBasicWith? fuel rest
      return (here :: others, rest)
    else if isControl c then none
    else do
      let (others, rest) ← readBasicWith? fuel rest
      return (c :: others, rest)

/-- A text with escapes behind its opening quote. -/
def readBasic? (input : List Char) : Option (List Char × List Char) :=
  readBasicWith? (input.length + 1) input

/-- A literal text behind its opening quote. -/
def readLiteral? : List Char → Option (List Char × List Char)
  | [] => none
  | c :: rest =>
    if c == '\'' then some ([], rest)
    else if isControl c then none
    else (readLiteral? rest).map fun r => (c :: r.1, r.2)

/-- The line end at the head of the input, written with one character or two, and the input behind
it. -/
def splitNewline? : List Char → Option (List Char × List Char)
  | '\n' :: rest => some (['\n'], rest)
  | '\r' :: '\n' :: rest => some (['\r', '\n'], rest)
  | _ => none

/-- The input behind the line end at its head. -/
def behindNewline? (input : List Char) : Option (List Char) :=
  (splitNewline? input).map (·.2)

/-- The quotes at the end of a text of several lines: up to two of them belong to the text. -/
def closingQuotes? (quote : Char) (input : List Char) : Option (List Char × List Char) :=
  let count := min 5 (input.takeWhile (· == quote)).length
  if count < 3 then none else some (List.replicate (count - 3) quote, input.drop count)

/-- The input without spaces, tabs and line ends in front. -/
def skipGaps : List Char → List Char
  | ' ' :: rest => skipGaps rest
  | '\t' :: rest => skipGaps rest
  | '\n' :: rest => skipGaps rest
  | '\r' :: '\n' :: rest => skipGaps rest
  | input => input

/-- The input behind the spaces and the line ends that a backslash at the end of a line swallows. -/
def behindContinuation? (input : List Char) : Option (List Char) :=
  (behindNewline? (input.dropWhile fun c => c == ' ' || c == '\t')).map skipGaps

/-- The characters of a text of several lines, up to its closing quotes; `escapes` says whether
backslashes are special.  Line ends stay as they are written.  The fuel bounds the number of
characters. -/
def readLinesWith? (quote : Char) (escapes : Bool) :
    Nat → List Char → Option (List Char × List Char)
  | 0, _ => none
  | _ + 1, [] => none
  | fuel + 1, c :: rest =>
    match closingQuotes? quote (c :: rest), splitNewline? (c :: rest) with
    | some r, _ => some r
    | none, some (newline, rest) => do
      let (others, rest) ← readLinesWith? quote escapes fuel rest
      return (newline ++ others, rest)
    | none, none =>
      if escapes && c == '\\' then
        match behindContinuation? rest with
        | some rest => readLinesWith? quote escapes fuel rest
        | none => do
          let (here, rest) ← basicEscape? rest
          let (others, rest) ← readLinesWith? quote escapes fuel rest
          return (here :: others, rest)
      else if isControl c then none
      else do
        let (others, rest) ← readLinesWith? quote escapes fuel rest
        return (c :: others, rest)

/-- A text of several lines behind its opening quotes and, directly behind these, an optional line
end. -/
def readLines? (quote : Char) (escapes : Bool) (input : List Char) :
    Option (List Char × List Char) :=
  readLinesWith? quote escapes (input.length + 1) ((behindNewline? input).getD input)

/-- A text at the head of the input, in any of its forms. -/
def readTomlText? : List Char → Option (List Char × List Char)
  | '"' :: '"' :: '"' :: rest => readLines? '"' true rest
  | '\'' :: '\'' :: '\'' :: rest => readLines? '\'' false rest
  | '"' :: rest => readBasic? rest
  | '\'' :: rest => readLiteral? rest
  | _ => none

/-! ### Writing -/

/-- A digit in base sixteen, in upper case. -/
def upperHexDigit (n : Nat) : Char :=
  if n < 10 then Char.ofNat ('0'.toNat + n) else Char.ofNat ('A'.toNat + (n - 10))

/-- The escaped form of a control character. -/
def controlEscape (c : Char) : List Char :=
  if c.toNat == 8 then ['\\', 'b']
  else if c == '\t' then ['\\', 't']
  else if c.toNat == 12 then ['\\', 'f']
  else if c == '\r' then ['\\', 'r']
  else ['\\', 'u', '0', '0', upperHexDigit (c.toNat / 16), upperHexDigit (c.toNat % 16)]

/-- The escaped form of a text on one line. -/
def escapeBasic : List Char → List Char
  | [] => []
  | c :: rest =>
    (if c == '"' || c == '\\' then ['\\', c]
      else if c == '\n' then ['\\', 'n']
      else if c.toNat < 0x20 || c.toNat == 0x7F then controlEscape c
      else [c]) ++ escapeBasic rest

/-- The escaped form of a text on several lines; `run` counts the quotes directly in front. -/
def escapeLines (run : Nat) : List Char → List Char
  | [] => []
  | c :: rest =>
    if c == '"' then
      if run == 2 then '\\' :: '"' :: escapeLines 0 rest else '"' :: escapeLines (run + 1) rest
    else if c == '\\' then '\\' :: '\\' :: escapeLines 0 rest
    else if c == '\n' then '\n' :: escapeLines 0 rest
    else if c.toNat < 0x20 || c.toNat == 0x7F then controlEscape c ++ escapeLines 0 rest
    else c :: escapeLines 0 rest

/-- The longest run of a character. -/
def longestRun (quote : Char) : List Char → Nat → Nat
  | [], run => run
  | c :: rest, run =>
    if c == quote then longestRun quote rest (run + 1) else max run (longestRun quote rest 0)

/-- How a text is written. -/
inductive TextForm where
  | basic
  | literal
  | basicLines
  | literalLines
  deriving DecidableEq, Repr

/-- The form that a text gets: the first that shows it without escapes, and else one with
escapes. -/
def textForm (cs : List Char) : TextForm :=
  let control := cs.any fun c => isControl c && c != '\n'
  let lines := cs.contains '\n'
  if !control && !lines && !cs.contains '\\' && !cs.contains '"' then .basic
  else if !control && !lines && !cs.contains '\'' then .literal
  else if !control && !cs.contains '\\' && longestRun '"' cs 0 < 3 then .basicLines
  else if !control && longestRun '\'' cs 0 < 3 then .literalLines
  else if lines then .basicLines
  else .basic

/-- The written form of a text. -/
def writeText (s : String) : String :=
  let cs := s.toList
  let start := if cs.contains '\n' then ['\n'] else []
  String.ofList <| match textForm cs with
    | .basic => ['"'] ++ escapeBasic cs ++ ['"']
    | .literal => ['\''] ++ cs ++ ['\'']
    | .basicLines => ['"', '"', '"'] ++ start ++ escapeLines 0 cs ++ ['"', '"', '"']
    | .literalLines => ['\'', '\'', '\''] ++ start ++ cs ++ ['\'', '\'', '\'']

end FluentBuilder.Data
