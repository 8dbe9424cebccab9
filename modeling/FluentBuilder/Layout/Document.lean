/-!
# Documents

A document is text with places where a line may break.  Groups decide together: a group whose text
fits into what is left of the line stays on it, and any other group breaks, either at all of its
places or only where needed.

* `widthOf`, `reach`: how much room text asks for, up to the next place where the enclosing text may
  break.
* `render`: the lines of a document.
* `box`, `outdent`: how groups are put together.
-/

namespace FluentBuilder.Layout

/-- The room on a line. -/
def lineWidth : Int := 89

/-- The room that a line offers however deep it is indented. -/
def minimalWidth : Int := 60

/-- The step of indentation. -/
def indentStep : Int := 4

/-- A width that no line has room for. -/
def infiniteWidth : Nat := 65535

/-- A place where a line may break. -/
structure Break where
  /-- The number of spaces written when the line does not break. -/
  blank : Nat := 0
  /-- The change of indentation against the group when the line breaks. -/
  offset : Int := 0
  /-- What is written in front of the line break. -/
  before : String := ""
  /-- What is written at the start of the new line. -/
  behind : String := ""
  /-- What is written when the line does not break; it has no width. -/
  whole : String := ""
  /-- Whether the line never breaks here; such a place still ends the text that has to fit. -/
  never : Bool := false
  /-- Whether the line does not break here if the group ends directly behind. -/
  optional : Bool := false
  deriving DecidableEq, Repr, Inhabited

/-- A piece of a document. -/
inductive Document where
  | text (s : String)
  | place (b : Break)
  /-- Nothing, for which no line has room: every group with a strut inside breaks. -/
  | strut
  /-- A group with its own indentation; `consistent` says whether it breaks at all of its places. -/
  | group (indent : Int) (consistent : Bool) (pieces : List Document)
  deriving Repr, Inhabited

mutual
/-- The width of a piece on a single line, in bytes. -/
def Document.width : Document → Nat
  | .text s => s.utf8ByteSize
  | .place b => b.blank
  | .strut => infiniteWidth
  | .group _ _ pieces => widthOf pieces

/-- The width of several pieces on a single line. -/
def widthOf : List Document → Nat
  | [] => 0
  | d :: rest => d.width + widthOf rest
end

/-- The width of what follows up to the next place where the enclosing text may break; places inside
groups do not count, and `after` is the width behind the last of the pieces. -/
def reach (after : Nat) : List Document → Nat
  | [] => after
  | .place _ :: _ => 0
  | d :: rest => d.width + reach after rest

/-! ### Rendering -/

/-- A text under way. -/
structure Cursor where
  /-- What is written. -/
  written : String
  /-- The room left on the line. -/
  space : Int
  /-- Spaces that are written only when text follows on the line. -/
  pending : Nat
  deriving Repr, Inhabited

/-- How the places of the enclosing group behave. -/
inductive Frame where
  /-- The group fits on its line. -/
  | fits
  /-- The group breaks, at all of its places or where needed. -/
  | broken (consistent : Bool)
  deriving Repr, DecidableEq

/-- The text with more text on the same line. -/
def Cursor.write (c : Cursor) (s : String) : Cursor :=
  { written := c.written ++ String.ofList (List.replicate c.pending ' ') ++ s
    space := c.space - s.utf8ByteSize
    pending := 0 }

/-- The text with spaces on the same line. -/
def Cursor.blank (c : Cursor) (count : Nat) : Cursor :=
  { c with space := c.space - count, pending := c.pending + count }

/-- The text with a new line. -/
def Cursor.newline (c : Cursor) (indent : Int) (b : Break) : Cursor :=
  let c := if b.before.isEmpty then c else c.write b.before
  let c : Cursor :=
    { written := c.written ++ "\n"
      space := max (lineWidth - indent) minimalWidth
      pending := indent.toNat }
  if b.behind.isEmpty then c else c.write b.behind

/-- The text with a place where the line does not break. -/
def Cursor.stay (c : Cursor) (b : Break) : Cursor :=
  let c := c.blank b.blank
  if b.whole.isEmpty then c
  else { c with written := c.written ++ b.whole, space := c.space - b.whole.utf8ByteSize }

/-- Whether the line stays whole at a place, where `after` is the width of what follows. -/
def Break.stays (b : Break) (frame : Frame) (after : Nat) (space : Int) : Bool :=
  b.never ||
    match frame with
    | .fits => true
    | .broken true => false
    | .broken false => decide ((b.blank + after : Nat) ≤ space)

mutual
/-- The text with a piece written behind it. -/
def Document.print (indent : Int) (frame : Frame) (after : Nat) : Document → Cursor → Cursor
  | .text s, c => c.write s
  | .place b, c =>
    if b.stays frame after c.space then c.stay b else c.newline (indent + b.offset) b
  | .strut, c => c
  | .group offset consistent pieces, c =>
    if c.space < (widthOf pieces + after : Nat) then
      printAll (indent + offset) (.broken consistent) after pieces c
    else printAll indent .fits after pieces c

/-- The text with several pieces written behind it. -/
def printAll (indent : Int) (frame : Frame) (after : Nat) : List Document → Cursor → Cursor
  | [], c => c
  | d :: rest, c => printAll indent frame after rest (d.print indent frame (reach after rest) c)
end

/-- The lines of a document. -/
def render (pieces : List Document) : String :=
  ((Document.group 0 true pieces).print 0 (.broken false) 0 ⟨"", lineWidth, 0⟩).written

/-! ### Common pieces -/

/-- A place that is empty on a whole line. -/
def softBreak : Document := .place {}

/-- A place that is a space on a whole line. -/
def softSpace : Document := .place { blank := 1 }

/-- A place where the line always breaks. -/
def hardBreak : Document := .place { blank := infiniteWidth }

/-- A place where the line never breaks. -/
def noBreak : Document := .place { never := true }

/-- A place where the line always breaks, unless nothing follows in its group. -/
def openBreak : Document := .place { blank := infiniteWidth, optional := true }

/-- A place that is a space on a whole line, unless nothing follows in its group. -/
def openSpace : Document := .place { blank := 1, optional := true }

/-- A place behind the last of several items, with a comma if the line breaks. -/
def commaBreak : Document := .place { before := "," }

/-- A place behind the last of several items that is a space on a whole line and a comma if the line
breaks. -/
def commaSpace : Document := .place { blank := 1, before := "," }

/-- A group.  A group that holds a place and nothing else vanishes, and an optional place at the end
of a group does not break the line. -/
def box (indent : Int) (consistent : Bool) (pieces : List Document) : List Document :=
  match pieces, pieces.getLast? with
  | [.place _], _ => []
  | _, some (.place b) =>
    if b.optional then [.group indent consistent (pieces.dropLast ++ [noBreak])]
    else [.group indent consistent pieces]
  | _, _ => [.group indent consistent pieces]

/-- A group that is indented one step and breaks at all of its places or none. -/
def indented (pieces : List Document) : List Document :=
  box indentStep true pieces

/-- Pieces whose last place goes back one step, since a closing bracket stands behind it. -/
def outdent (pieces : List Document) : List Document :=
  match pieces.getLast? with
  | some (.place b) => pieces.dropLast ++ [.place { b with offset := b.offset - indentStep }]
  | _ => pieces

/-- Pieces with a separator between them. -/
def joined (separator : List Document) : List (List Document) → List Document
  | [] => []
  | [last] => last
  | item :: rest => item ++ separator ++ joined separator rest

/-- Items with commas between them, and a place behind the last one. -/
def listed (closing : Document) : List (List Document) → List Document
  | [] => []
  | [last] => last ++ [closing]
  | item :: rest => item ++ [.text ",", softSpace] ++ listed closing rest

/-- Items in brackets, on one line or one to a line; `closing` is the place behind the last one. -/
def bracketed (opening closingBracket : String) (closing : Document)
    (items : List (List Document)) :
    List Document :=
  [.text opening] ++ indented (outdent (softBreak :: listed closing items))
    ++ [.text closingBracket]

/-- Items in brackets, on one line, or one to a line with a comma behind each. -/
def enclosed (opening closing : String) (items : List (List Document)) : List Document :=
  bracketed opening closing commaBreak items

/-- A text if the flag is set. -/
def textIf (flag : Bool) (s : String) : List Document :=
  if flag then [.text s] else []

end FluentBuilder.Layout
