import Mathlib.Data.List.Basic
import FluentBuilder.Layout.Document

/-!
# What a document can write

How a document is laid out depends on the widths of its texts.  Whatever the widths are, its texts
are written in their order, with nothing between them but blanks and what the places write where a
line breaks.

* `Spells`: the texts that a document can be written as.
* `exists_spells`, `exists_spells_line` — what is written is such a text, also around a line of its
  own;
* `Spells.of_box`, `Spells.of_outdent`, `spells_append_iff` — the texts of documents that are put
  together.
-/

namespace FluentBuilder.Layout

/-- Whether a text holds nothing but spaces and line ends. -/
def Blanks (w : List Char) : Prop :=
  ∀ c ∈ w, c = ' ' ∨ c = '\n'

theorem blanks_nil : Blanks [] :=
  nofun

theorem blanks_space : Blanks [' '] :=
  fun _ hc => .inl (List.mem_singleton.1 hc)

theorem Blanks.append {v w : List Char} (hv : Blanks v) (hw : Blanks w) : Blanks (v ++ w) := by
  intro c hc
  rcases List.mem_append.1 hc with hc | hc
  · exact hv c hc
  · exact hw c hc

theorem blanks_replicate (n : Nat) : Blanks (List.replicate n ' ') :=
  fun _ hc => .inl (List.eq_of_mem_replicate hc)

theorem blanks_newline : Blanks ['\n'] :=
  fun _ hc => .inr (List.mem_singleton.1 hc)

/-- The texts that pieces of a document can be written as.  A place writes blanks, or what it writes
where the line breaks or stays whole. -/
inductive Spells : List Document → List Char → Prop
  | nil : Spells [] []
  | text {w rest : List Char} {s : String} {ds : List Document} (hw : Blanks w)
    (h : Spells ds rest) :
      Spells (.text s :: ds) (w ++ s.toList ++ rest)
  | blank {w rest : List Char} {b : Break} {ds : List Document} (hw : Blanks w)
    (h : Spells ds rest) :
      Spells (.place b :: ds) (w ++ rest)
  | broken {v w rest : List Char} {b : Break} {ds : List Document} (hv : Blanks v) (hw : Blanks w)
      (h : Spells ds rest) : Spells (.place b :: ds)
        (v ++ b.before.toList ++ w ++ b.behind.toList ++ rest)
  | whole {rest : List Char} {b : Break} {ds : List Document} (h : Spells ds rest) :
      Spells (.place b :: ds) (b.whole.toList ++ rest)
  | strut {rest : List Char} {ds : List Document} (h : Spells ds rest) : Spells (.strut :: ds) rest
  | group {inner rest : List Char} {indent : Int} {consistent : Bool} {pieces ds : List Document}
      (hinner : Spells pieces inner) (h : Spells ds rest) :
      Spells (.group indent consistent pieces :: ds) (inner ++ rest)

/-! ### Pieces behind each other -/

theorem Spells.append {a b : List Document} {s r : List Char} (ha : Spells a s) (hb : Spells b r) :
    Spells (a ++ b) (s ++ r) := by
  induction ha with
  | nil => exact hb
  | text hw _ ih =>
    rw [List.append_assoc]
    exact .text hw ih
  | blank hw _ ih =>
    rw [List.append_assoc]
    exact .blank hw ih
  | broken hv hw _ ih =>
    rw [List.append_assoc]
    exact .broken hv hw ih
  | whole _ ih =>
    rw [List.append_assoc]
    exact .whole ih
  | strut _ ih => exact .strut ih
  | group hinner _ _ ih =>
    rw [List.append_assoc]
    exact .group hinner ih

theorem spells_append_iff {a b : List Document} {s : List Char} :
    Spells (a ++ b) s ↔ ∃ s₁ s₂, s = s₁ ++ s₂ ∧ Spells a s₁ ∧ Spells b s₂ := by
  constructor
  · intro h
    induction a generalizing s with
    | nil => exact ⟨[], s, rfl, .nil, h⟩
    | cons d rest ih =>
      cases h with
      | text hw h =>
        obtain ⟨s₁, s₂, rfl, h₁, h₂⟩ := ih h
        exact ⟨_, s₂, (List.append_assoc _ _ _).symm, .text hw h₁, h₂⟩
      | blank hw h =>
        obtain ⟨s₁, s₂, rfl, h₁, h₂⟩ := ih h
        exact ⟨_, s₂, (List.append_assoc _ _ _).symm, .blank hw h₁, h₂⟩
      | broken hv hw h =>
        obtain ⟨s₁, s₂, rfl, h₁, h₂⟩ := ih h
        exact ⟨_, s₂, (List.append_assoc _ _ _).symm, .broken hv hw h₁, h₂⟩
      | whole h =>
        obtain ⟨s₁, s₂, rfl, h₁, h₂⟩ := ih h
        exact ⟨_, s₂, (List.append_assoc _ _ _).symm, .whole h₁, h₂⟩
      | strut h =>
        obtain ⟨s₁, s₂, rfl, h₁, h₂⟩ := ih h
        exact ⟨s₁, s₂, rfl, .strut h₁, h₂⟩
      | group hinner h =>
        obtain ⟨s₁, s₂, rfl, h₁, h₂⟩ := ih h
        exact ⟨_, s₂, (List.append_assoc _ _ _).symm, .group hinner h₁, h₂⟩
  · rintro ⟨s₁, s₂, rfl, h₁, h₂⟩
    exact h₁.append h₂

/-! ### What is written -/

/-- Where the line breaks, blanks stand around what the place writes. -/
theorem exists_newline (c : Cursor) (indent : Int) (b : Break) : ∃ v w, Blanks v ∧ Blanks w
    ∧ (c.newline indent b).written.toList
      = c.written.toList ++ (v ++ b.before.toList ++ w ++ b.behind.toList) := by
  have hwrite : ∀ (c : Cursor) (s : String), ∃ v, Blanks v
      ∧ (if s.isEmpty then c else c.write s).written.toList
        = c.written.toList ++ (v ++ s.toList) := by
    intro c s
    split
    · next hempty =>
      rw [String.isEmpty_iff.1 hempty]
      exact ⟨[], blanks_nil, (List.append_nil _).symm⟩
    · refine ⟨List.replicate c.pending ' ', blanks_replicate _, ?_⟩
      simp only [Cursor.write, String.toList_append, String.toList_ofList, List.append_assoc]
  obtain ⟨v, hv, hbefore⟩ := hwrite c b.before
  obtain ⟨w, hw, hbehind⟩ := hwrite
    ⟨(if b.before.isEmpty then c else c.write b.before).written ++ "\n",
      max (lineWidth - indent) minimalWidth, indent.toNat⟩ b.behind
  refine ⟨v, '\n' :: w, hv, blanks_newline.append hw, ?_⟩
  have hline : (c.newline indent b).written.toList
      = (if b.before.isEmpty then c else c.write b.before).written.toList ++ ['\n']
        ++ (w ++ b.behind.toList) := by
    rw [show ['\n'] = "\n".toList from rfl, ← String.toList_append]
    exact hbehind
  rw [hline, hbefore]
  simp only [List.append_assoc, List.cons_append, List.nil_append]

theorem written_stay (c : Cursor) (b : Break) :
    (c.stay b).written.toList = c.written.toList ++ b.whole.toList := by
  unfold Cursor.stay
  dsimp only
  split
  · next hempty =>
    rw [String.isEmpty_iff.1 hempty]
    exact (List.append_nil _).symm
  · exact String.toList_append

mutual
theorem exists_spells_print (d : Document) (indent : Int) (frame : Frame) (after : Nat)
    (c : Cursor) :
    ∃ s, Spells [d] s ∧ (d.print indent frame after c).written.toList = c.written.toList ++ s := by
  cases d with
  | text t =>
    refine ⟨_, .text (blanks_replicate c.pending) .nil, ?_⟩
    simp only [Document.print, Cursor.write, String.toList_append, String.toList_ofList,
      List.append_assoc, List.append_nil]
  | place b =>
    unfold Document.print
    split
    · refine ⟨_, .whole .nil, ?_⟩
      rw [List.append_nil]
      exact written_stay c b
    · obtain ⟨v, w, hv, hw, hwritten⟩ := exists_newline c (indent + b.offset) b
      refine ⟨_, .broken hv hw .nil, ?_⟩
      rw [List.append_nil]
      exact hwritten
  | strut => exact ⟨[], .strut .nil, (List.append_nil _).symm⟩
  | group offset consistent pieces =>
    unfold Document.print
    split
    · obtain ⟨s, hs, hwritten⟩ :=
        exists_spells pieces (indent + offset) (.broken consistent) after c
      refine ⟨s ++ [], .group hs .nil, ?_⟩
      rw [List.append_nil]
      exact hwritten
    · obtain ⟨s, hs, hwritten⟩ := exists_spells pieces indent .fits after c
      refine ⟨s ++ [], .group hs .nil, ?_⟩
      rw [List.append_nil]
      exact hwritten

/-- **What is written is one of the texts that the pieces can be written as.** -/
theorem exists_spells (ds : List Document) (indent : Int) (frame : Frame) (after : Nat)
    (c : Cursor) :
    ∃ s, Spells ds s ∧ (printAll indent frame after ds c).written.toList = c.written.toList
      ++ s := by
  cases ds with
  | nil => exact ⟨[], .nil, (List.append_nil _).symm⟩
  | cons d rest =>
    obtain ⟨s, hs, hfirst⟩ := exists_spells_print d indent frame (reach after rest) c
    obtain ⟨r, hr, hrest⟩ :=
      exists_spells rest indent frame after (d.print indent frame (reach after rest) c)
    refine ⟨s ++ r, hs.append hr, ?_⟩
    unfold printAll
    rw [hrest, hfirst, List.append_assoc]
end

/-! ### Groups -/

/-- A group stands for its pieces. -/
theorem Spells.of_group {indent : Int} {consistent : Bool} {pieces ds : List Document}
    {s : List Char} (h : Spells (.group indent consistent pieces :: ds) s) :
    Spells (pieces ++ ds) s := by
  cases h with
  | group hinner h => exact hinner.append h

/-- A place that writes nothing else writes blanks. -/
theorem Spells.of_place {b : Break} {s : List Char}
    (hbreak : b.before = "" ∧ b.behind = "" ∧ b.whole = "") (h : Spells [.place b] s) :
    Blanks s := by
  obtain ⟨hbefore, hbehind, hwhole⟩ := hbreak
  cases h with
  | blank hw h =>
    cases h
    rwa [List.append_nil]
  | broken hv hw h =>
    cases h
    rw [hbefore, hbehind]
    simpa using hv.append hw
  | whole h =>
    cases h
    rw [hwhole]
    exact blanks_nil

/-- Putting pieces in a group adds nothing to what they can be written as. -/
theorem Spells.of_box {indent : Int} {consistent : Bool} {pieces : List Document} {s : List Char}
    (h : Spells (box indent consistent pieces) s) : Spells pieces s := by
  have hgroup : ∀ ds, Spells [.group indent consistent ds] s → Spells ds s := by
    intro ds h
    have hpieces := h.of_group
    rwa [List.append_nil] at hpieces
  unfold box at h
  split at h
  · cases h
    exact .blank blanks_nil .nil
  · next b _ hlast =>
    split at h
    · -- the place at the end writes blanks only
      obtain ⟨s₁, s₂, rfl, h₁, h₂⟩ := spells_append_iff.1 (hgroup _ h)
      rw [← List.dropLast_append_getLast? _ hlast]
      have hblanks : Blanks s₂ := h₂.of_place ⟨rfl, rfl, rfl⟩
      have hend : Spells [.place b] (s₂ ++ []) := .blank hblanks .nil
      rw [List.append_nil] at hend
      exact h₁.append hend
    · exact hgroup _ h
  · exact hgroup _ h

/-- What a place writes does not depend on where the next line starts. -/
theorem Spells.of_outdent {pieces : List Document} {s : List Char} (h : Spells (outdent pieces) s) :
    Spells pieces s := by
  have hplace : ∀ (b : Break) (offset : Int) (r : List Char), Spells [.place { b with offset }] r →
      Spells [.place b] r := by
    intro b offset r h
    cases h with
    | blank hw h =>
      cases h
      exact .blank hw .nil
    | broken hv hw h =>
      cases h
      exact .broken (b := b) hv hw .nil
    | whole h =>
      cases h
      exact .whole (b := b) .nil
  unfold outdent at h
  split at h
  · next b hlast =>
    obtain ⟨s₁, s₂, rfl, h₁, h₂⟩ := spells_append_iff.1 h
    rw [← List.dropLast_append_getLast? _ hlast]
    exact h₁.append (hplace b _ _ h₂)
  · exact h

/-! ### Lines of their own -/

theorem reach_append (after : Nat) (a b : List Document) :
    reach after (a ++ b) = reach (reach after b) a := by
  induction a with
  | nil => rfl
  | cons d rest ih =>
    cases d with
    | place => rfl
    | _ =>
      simp only [List.cons_append, reach, ih]

theorem printAll_append (indent : Int) (frame : Frame) (after : Nat) (a b : List Document)
    (c : Cursor) :
    printAll indent frame after (a ++ b) c
      = printAll indent frame after b (printAll indent frame (reach after b) a c) := by
  induction a generalizing c with
  | nil => rfl
  | cons d rest ih =>
    rw [List.cons_append, printAll, printAll, ih, reach_append]

theorem width_le_widthOf {d : Document} {ds : List Document} (h : d ∈ ds) :
    d.width ≤ widthOf ds := by
  induction ds with
  | nil => cases h
  | cons e rest ih =>
    unfold widthOf
    rcases List.mem_cons.1 h with rfl | h
    · omega
    · have := ih h
      omega

/-- **Around a line of its own**: a place of a document at which the line always breaks ends the
line. -/
theorem exists_spells_line (before behind : List Document) (opening line : String) :
    ∃ s w r, Spells before s ∧ Blanks w ∧ Spells behind r
      ∧ (render (before ++ [.text opening, .text line, hardBreak] ++ behind)).toList
        = s ++ w ++ opening.toList ++ line.toList ++ '\n' :: r := by
  -- the place asks for more room than a line has, so the outermost group breaks at all of its
  -- places
  have hwide : infiniteWidth
      ≤ widthOf (before ++ [.text opening, .text line, hardBreak] ++ behind) := by
    refine width_le_widthOf (d := hardBreak) ?_
    simp
  have hbroken : (lineWidth : Int)
      < (widthOf (before ++ [.text opening, .text line, hardBreak] ++ behind) + 0 : Nat) := by
    have hroom : lineWidth < (infiniteWidth : Int) := by decide
    omega
  unfold render Document.print
  rw [if_pos hbroken, List.append_assoc, printAll_append]
  obtain ⟨s, hs, hbefore⟩ := exists_spells before (0 + 0) (.broken true)
    (reach 0 ([.text opening, .text line, hardBreak] ++ behind)) ⟨"", lineWidth, 0⟩
  generalize printAll (0 + 0) (.broken true)
    (reach 0 ([.text opening, .text line, hardBreak] ++ behind)) before
    ⟨"", lineWidth, 0⟩ = c at hbefore
  obtain ⟨r, hr, hbehind⟩ := exists_spells behind (0 + 0) (.broken true) 0
    (((c.write opening).write line).newline (0 + 0 + 0) { blank := infiniteWidth })
  refine ⟨s, List.replicate c.pending ' ', r, hs, blanks_replicate _, hr, ?_⟩
  have hline : (((c.write opening).write line).newline (0 + 0 + 0) { blank :=
                                                                     infiniteWidth }).written.toList
      = c.written.toList ++ List.replicate c.pending ' ' ++ opening.toList ++ line.toList
        ++ ['\n'] := by
    show ((c.written ++ String.ofList (List.replicate c.pending ' ') ++ opening)
      ++ String.ofList (List.replicate 0 ' ') ++ line ++ "\n").toList = _
    simp only [String.toList_append, String.toList_ofList, List.replicate_zero, List.append_nil]
    rfl
  rw [show printAll (0 + 0) (.broken true) 0 ([.text opening, .text line, hardBreak] ++ behind) c
    = printAll (0 + 0) (.broken true) 0 behind
      (((c.write opening).write line).newline (0 + 0 + 0) { blank := infiniteWidth }) from rfl,
      hbehind, hline, hbefore]
  simp

end FluentBuilder.Layout
