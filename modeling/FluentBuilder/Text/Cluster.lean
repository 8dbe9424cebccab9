import FluentBuilder.Text.CharacterClass
import FluentBuilder.Text.ClusterTable

/-!
# Grapheme clusters

A text cut into the units a reader takes for one character: a base character with the marks that
attach to it.  Controls stand alone.  Only the attachments that can meet a cased letter, a digit or
a separator are told apart here; scripts without letter case are cut more finely, which no caller
can observe.

The main fact is `flatten_clusters`: the cut loses nothing.
-/

namespace FluentBuilder.Text

/-- Whether a character attaches to the cluster before it. -/
def attaches (c : Char) : Bool :=
  decide (128 ≤ c.toNat) && inRanges attachingRanges c.toNat

/-- Whether a character attaches to the cluster that follows it. -/
def prepends (c : Char) : Bool :=
  decide (128 ≤ c.toNat) && inRanges prependingRanges c.toNat

/-- Whether a character is a control, to which nothing attaches. -/
def isControl (c : Char) : Bool :=
  inRanges controlRanges c.toNat

/-- Whether a character is a picture, which a joiner can link to another one. -/
def isPicture (c : Char) : Bool :=
  decide (128 ≤ c.toNat) && inRanges pictureRanges c.toNat

/-- Whether a character is a mark that may stand between a picture and the joiner behind it. -/
def isExtendingMark (c : Char) : Bool :=
  decide (128 ≤ c.toNat) && inRanges extendingMarkRanges c.toNat

/-- How much of a picture with a joiner stands at the end of a text. -/
inductive PictureState where
  | outside
  /-- A picture with any marks. -/
  | picture
  /-- A picture with any marks and a joiner. -/
  | joiner
  deriving DecidableEq, Repr

/-- What stands at the end of a text after one more character. -/
def PictureState.next (s : PictureState) (c : Char) : PictureState :=
  if isPicture c then .picture
  else
    match s with
    | .picture =>
      if c.toNat == 0x200D then .joiner else if isExtendingMark c then .picture else .outside
    | _ => .outside

/-- Whether a cluster boundary stands between two neighbouring characters, the text up to the first
of them ending as `s` says. -/
def clusterBreak (s : PictureState) (a b : Char) : Bool :=
  if a == '\r' && b == '\n' then false
  else if isControl a || isControl b then true
  else !(attaches b || prepends a || (s == .joiner && isPicture b))

/-- The grapheme clusters of a text behind a text that ends as `s` says, in order. -/
def clustersFrom (s : PictureState) : List Char → List (List Char)
  | [] => []
  | [c] => [[c]]
  | a :: b :: rest =>
    match clustersFrom (s.next a) (b :: rest) with
    | [] => [[a]]
    | first :: others =>
      if clusterBreak (s.next a) a b then [a] :: first :: others else (a :: first) :: others

/-- The grapheme clusters of a text, in order. -/
def clusters (cs : List Char) : List (List Char) :=
  clustersFrom .outside cs

theorem clustersFrom_ne_nil (s : PictureState) (c : Char) (rest : List Char) :
    clustersFrom s (c :: rest) ≠ [] := by
  cases rest with
  | nil => simp [clustersFrom]
  | cons b rest =>
    rw [clustersFrom]
    split
    · simp
    · split <;> simp

/-- Cutting a text into clusters loses nothing, whatever stands before it. -/
theorem flatten_clustersFrom (s : PictureState) (cs : List Char) :
    (clustersFrom s cs).flatten = cs := by
  induction cs generalizing s with
  | nil => rfl
  | cons a rest ih =>
    cases rest with
    | nil => rfl
    | cons b rest =>
      rw [clustersFrom]
      split
      · next h => exact absurd h (clustersFrom_ne_nil _ b rest)
      · next first others h =>
        have ih := ih (s.next a)
        rw [h] at ih
        split <;> simpa using ih

/-- Cutting a text into clusters loses nothing. -/
theorem flatten_clusters (cs : List Char) : (clusters cs).flatten = cs :=
  flatten_clustersFrom .outside cs

end FluentBuilder.Text
