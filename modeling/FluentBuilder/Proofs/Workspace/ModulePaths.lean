import Mathlib.Tactic.Common
import FluentBuilder.Proofs.Workspace.PathSteps
import FluentBuilder.Workspace.ModulePath

/-!
# Module paths below two directories

A crate can be searched from its own directory or from its directory `src`.  What a file's path has
in front of the last `src` does not count, so both searches see the same module, except where that
`src` is the very directory that was searched: then nothing says that a `lib.rs` in it is the root
of the crate.

* `namesBelow_of_components` — the names behind a directory;
* `isCrateRoot` — a file that is the root of the crate by its place;
* `modulePath_below_src`, `modulePath_of_isCrateRoot` — the module paths under either directory.
-/

namespace FluentBuilder

open FilePath

/-! ### Names behind a directory -/

/-- The names among steps. -/
def stepNames (steps : List Component) : List String :=
  steps.filterMap fun
    | .name s => some s
    | _ => none

theorem behindStart?_append {α : Type} [BEq α] [LawfulBEq α] (start rest : List α) :
    behindStart? start (start ++ rest) = some rest := by
  induction start with
  | nil => rfl
  | cons a start ih => simp [behindStart?, ih]

/-- The names behind a directory are those of the steps behind its steps. -/
theorem namesBelow_of_components {base path : String} {below : List Component}
    (h : components path = components base ++ below) : namesBelow base path = stepNames below := by
  unfold namesBelow
  dsimp only
  rw [h, behindStart?_append]
  rfl

theorem isPlainName_src : IsPlainName "src" :=
  ⟨by decide, by decide, by decide⟩

/-! ### The last source directory -/

/-- Nothing is left out where the mark does not occur. -/
theorem eq_of_behindLast {mark : String} {names tail : List String}
    (h : behindLast mark names = (false, tail)) :
    tail = names := by
  cases names with
  | nil => simpa [behindLast] using h.symm
  | cons name rest =>
    unfold behindLast at h
    split at h
    · simp at h
    · split at h
      · simp at h
      · simpa using h.symm

/-- One more mark in front of everything only counts when it is the last. -/
theorem behindLast_cons_self (mark : String) (names : List String) :
    behindLast mark (mark :: names) = (true, (behindLast mark names).2) := by
  cases h : behindLast mark names with
  | mk found tail =>
    cases found with
    | true => simp [behindLast, h]
    | false => simp [behindLast, h, eq_of_behindLast h]

/-! ### Roots of crates -/

/-- Whether the names behind a source directory are those of the root of a crate. -/
def isCrateRoot : List String → Bool
  | [file] => sourceStem file == "lib" || sourceStem file == "main"
  | _ => false

/-- Directly in a source directory or not makes a difference for the roots of crates only. -/
theorem moduleSegments_top {names : List String} (h : isCrateRoot names = false) :
    moduleSegments true names = moduleSegments false names := by
  match names with
  | [] => rfl
  | [file] =>
    simp only [isCrateRoot] at h
    simp [moduleSegments, h]
  | directory :: file :: rest => rfl

theorem namesBelow_of_join_src {crate file : String} {below : List Component}
    (h : components file = components (join crate "src") ++ below) :
    namesBelow crate file = "src" :: stepNames below := by
  rw [components_join isPlainName_src, List.append_assoc] at h
  exact namesBelow_of_components h

/-- **Away from the roots of crates** the module path is the same under a crate and under its source
directory. -/
theorem modulePath_below_src {crate file : String} {below : List Component}
    (h : components file = components (join crate "src") ++ below)
    (hroot : isCrateRoot (stepNames below) = false) :
    modulePath crate file = modulePath (join crate "src") file := by
  unfold modulePath
  rw [namesBelow_of_join_src h, namesBelow_of_components h, behindLast_cons_self]
  cases hlast : behindLast "src" (stepNames below) with
  | mk found tail =>
    cases found with
    | true => rfl
    | false =>
      obtain rfl := eq_of_behindLast hlast
      dsimp only
      rw [moduleSegments_top hroot]

/-- **The root of a crate** is the crate's own module under the crate, and a module of the crate
under its source directory. -/
theorem modulePath_of_isCrateRoot {crate file : String} {below : List Component}
    (h : components file = components (join crate "src") ++ below)
    (hroot : isCrateRoot (stepNames below) = true) :
    modulePath crate file = "crate"
      ∧ (modulePath (join crate "src") file = "crate::lib"
        ∨ modulePath (join crate "src") file = "crate::main") := by
  have hcrate := namesBelow_of_join_src h
  have hsource := namesBelow_of_components h
  match hnames : stepNames below with
  | [] => simp [hnames, isCrateRoot] at hroot
  | _ :: _ :: _ => simp [hnames, isCrateRoot] at hroot
  | [name] =>
    simp only [hnames, isCrateRoot, Bool.or_eq_true, beq_iff_eq] at hroot
    have hother : name ≠ "src" := by
      rintro rfl
      revert hroot
      decide
    unfold modulePath
    rw [hcrate, hsource, hnames]
    rcases hroot with hstem | hstem <;> simp [behindLast, hother, moduleSegments, hstem]

end FluentBuilder
