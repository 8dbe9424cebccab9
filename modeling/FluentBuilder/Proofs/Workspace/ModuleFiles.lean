import Mathlib.Data.List.Basic
import FluentBuilder.Proofs.Code.TokenWords
import FluentBuilder.Proofs.Workspace.FileNames
import FluentBuilder.Proofs.Workspace.ModulePaths

/-!
# The modules of source files

The source directory of a crate holds one file for each module.  Which module a file holds can be
told from the names on the way to it, and the module path is computed from the same names as they
stand in the text of a path.

* `dropEnding_append`, `moduleSegments_concat` — the last name of a path without its extension;
* `intercalate_injective` — joined names can be told apart again;
* `ModuleFile`, `ModuleFile.modulePath_of_liesAt` — a file below a source directory, and its module
  path;
* `ModuleFile.module_eq_iff` — the files that share a module path;
* `ModuleFile.Holds`, `ModuleFile.Holds.module_eq` — the module that a file holds, said from the
  module's side;
* `module_files_spec` — all of this for the paths of files.
-/

namespace FluentBuilder

open FilePath FluentBuilder.Code

/-! ### Names of files -/

theorem strip_of_not_isPrefixOf {start cs : List Char} (h : start.isPrefixOf cs = false)
    (fuel : Nat) :
    dropEnding.strip start fuel cs = cs := by
  cases fuel with
  | zero => rfl
  | succ fuel => simp [dropEnding.strip, h]

/-- An ending is dropped once from a text that does not have it. -/
theorem dropEnding_append {ending text : List Char} (hending : ending ≠ [])
    (h : ¬ ending <:+ text) :
    dropEnding ending (text ++ ending) = text := by
  obtain ⟨fuel, hfuel⟩ : ∃ fuel, (text ++ ending).length = fuel + 1 := by
    refine ⟨(text ++ ending).length - 1, ?_⟩
    have hpos := List.length_pos_of_ne_nil hending
    rw [List.length_append]
    omega
  have hfirst : ending.reverse.isPrefixOf (ending.reverse ++ text.reverse) = true :=
    List.isPrefixOf_iff_prefix.2 (List.prefix_append _ _)
  have hstop : ending.reverse.isPrefixOf text.reverse = false := by
    rw [Bool.eq_false_iff, ne_eq, List.isPrefixOf_iff_prefix, List.reverse_prefix]
    exact h
  unfold dropEnding
  dsimp only
  rw [hfuel, List.reverse_append, dropEnding.strip, if_pos hfirst, List.drop_left,
    strip_of_not_isPrefixOf hstop, List.reverse_reverse]

/-- A word is one step of a path: it has no slash and no point. -/
theorem isPlainName_of_isWord {name : String} (h : IsWord name) : IsPlainName name := by
  have hpoint : '.' ∉ name.toList := h.not_mem (by decide) (by decide) (by decide)
  refine ⟨h.slash_not_mem, ?_, fun hparent => hpoint (by simp [hparent])⟩
  have hne : name.toList ≠ [] := by
    obtain ⟨c, cs, hplain, -⟩ := h
    rintro hnil
    rw [String.toList_eq_nil_iff.1 hnil] at hplain
    exact absurd (congrArg String.toList hplain) (by simp [plainName])
  have hdot : name.toList ≠ ['.'] := fun hdot => hpoint (by simp [hdot])
  simp [isIdle, hne, hdot]

/-- The stem of a name without points is the name. -/
theorem sourceStem_append {stem : String} (h : '.' ∉ stem.toList) :
    sourceStem (stem ++ ".rs") = stem := by
  have hends : ¬ ['.', 'r', 's'] <:+ stem.toList := fun hends => h (hends.subset List.mem_cons_self)
  unfold sourceStem
  rw [String.toList_append, show ".rs".toList = ['.', 'r', 's'] from rfl,
    dropEnding_append (by simp) hends, String.ofList_toList]

/-- The segments for a file are the directories on the way to it and its stem, unless the stem says
nothing. -/
theorem moduleSegments_concat (top : Bool) (directories : List String) (file : String) :
    moduleSegments top (directories ++ [file])
      = directories ++ if sourceStem file == "mod"
          || (top && directories.isEmpty
            && (sourceStem file == "lib" || sourceStem file == "main")) then []
        else [sourceStem file] := by
  induction directories generalizing top with
  | nil => simp [moduleSegments]
  | cons directory rest ih =>
    have hcons : moduleSegments top (directory :: rest ++ [file])
        = directory :: moduleSegments false (rest ++ [file]) := by
      cases rest <;> rfl
    rw [hcons, ih]
    simp

/-- Without the mark all names are left, and the mark is not found. -/
theorem behindLast_of_not_mem {mark : String} {names : List String} (h : mark ∉ names) :
    behindLast mark names = (false, names) := by
  induction names with
  | nil => rfl
  | cons name rest ih =>
    rw [List.mem_cons, not_or] at h
    simp [behindLast, ih h.2, Ne.symm h.1]

/-! ### Joined names -/

/-- What stands in front of the first separator, and what behind it. -/
theorem append_cons_injective {α : Type} {sep : α} {xs ys rest more : List α} (hxs : sep ∉ xs)
    (hys : sep ∉ ys) (h : xs ++ sep :: rest = ys ++ sep :: more) : xs = ys ∧ rest = more := by
  rcases List.append_eq_append_iff.1 h with ⟨between, hy, hrest⟩ | ⟨between, hx, hmore⟩
  · cases between with
    | nil => exact ⟨by simpa using hy.symm, (List.cons.inj hrest).2⟩
    | cons c others =>
      rw [(List.cons.inj hrest).1] at hys
      exact absurd (by simp [hy]) hys
  · cases between with
    | nil => exact ⟨by simpa using hx, (List.cons.inj hmore).2.symm⟩
    | cons c others =>
      rw [(List.cons.inj hmore).1] at hxs
      exact absurd (by simp [hx]) hxs

/-- **Joined texts can be told apart again** when none of them has the first character of the
separator. -/
theorem intercalate_injective {α : Type} {sep : α} {sepRest : List α} {xs ys : List (List α)}
    (hxs : xs ≠ []) (hys : ys ≠ []) (hx : ∀ x ∈ xs, sep ∉ x) (hy : ∀ y ∈ ys, sep ∉ y)
    (h : (sep :: sepRest).intercalate xs = (sep :: sepRest).intercalate ys) : xs = ys := by
  have hcons : ∀ (x x' : List α) (rest : List (List α)),
        (sep :: sepRest).intercalate (x :: x' :: rest)
      = x ++ sep :: (sepRest ++ (sep :: sepRest).intercalate (x' :: rest)) := by
    intro x x' rest
    rw [List.intercalate_cons_cons, List.append_assoc, List.cons_append]
  induction xs generalizing ys with
  | nil => exact absurd rfl hxs
  | cons x xs ih =>
    cases ys with
    | nil => exact absurd rfl hys
    | cons y ys =>
      have hxhead : sep ∉ x := hx x List.mem_cons_self
      have hyhead : sep ∉ y := hy y List.mem_cons_self
      cases xs with
      | nil =>
        cases ys with
        | nil => simpa using h
        | cons y' ys =>
          rw [hcons, List.intercalate_singleton] at h
          exact absurd (by simp [h]) hxhead
      | cons x' xs =>
        cases ys with
        | nil =>
          rw [hcons, List.intercalate_singleton] at h
          exact absurd (by simp [← h]) hyhead
        | cons y' ys =>
          rw [hcons, hcons] at h
          obtain ⟨rfl, hrest⟩ := append_cons_injective hxhead hyhead h
          rw [ih (by simp) (by simp) (fun z hz => hx z (List.mem_cons_of_mem x hz))
            (fun z hz => hy z (List.mem_cons_of_mem x hz)) (List.append_cancel_left hrest)]

/-- Module paths can be told apart by their names. -/
theorem crate_intercalate_inj {xs ys : List String} (hx : ∀ x ∈ xs, ':' ∉ x.toList)
    (hy : ∀ y ∈ ys, ':' ∉ y.toList) :
    "::".intercalate ("crate" :: xs) = "::".intercalate ("crate" :: ys) ↔ xs = ys := by
  refine ⟨fun h => ?_, fun h => by rw [h]⟩
  have hcrate : ∀ names : List String, (∀ name ∈ names, ':' ∉ name.toList) →
      ∀ part ∈ ("crate" :: names).map String.toList, ':' ∉ part := by
    intro names hnames part hpart
    obtain ⟨name, hname, rfl⟩ := List.mem_map.1 hpart
    rcases List.mem_cons.1 hname with rfl | hname
    · decide
    · exact hnames name hname
  rw [← String.toList_inj, String.toList_intercalate, String.toList_intercalate] at h
  have hparts := intercalate_injective (by simp) (by simp) (hcrate xs hx) (hcrate ys hy) h
  exact (List.cons.inj (List.map_injective_iff.2 (fun _ _ => String.toList_inj.1) hparts)).2

/-! ### Files below a source directory -/

/-- A file below the source directory of a crate, by the names of the directories on the way to it
and its own name without the extension.  All of them are identifiers, and no directory on the way is
a source directory again. -/
@[ext]
structure ModuleFile where
  directories : List String
  stem : String
  isWord_directory : ∀ directory ∈ directories, IsWord directory
  isWord_stem : IsWord stem
  src_not_mem : "src" ∉ directories

namespace ModuleFile

variable {f g : ModuleFile} {root file other : String}

/-- The names that lead from the crate to the file. -/
def names (f : ModuleFile) : List String :=
  "src" :: f.directories ++ [f.stem ++ ".rs"]

/-- The path of the file below the path of the crate. -/
def path (root : String) (f : ModuleFile) : String :=
  f.names.foldl join root

/-- A path leads to the file from the path of the crate, however it is written. -/
def LiesAt (root file : String) (f : ModuleFile) : Prop :=
  components file = components root ++ f.names.map .name

/-- Whether the name of the file is no part of its module path: `mod.rs`, and `lib.rs` and `main.rs`
directly in the source directory. -/
def isSilent (f : ModuleFile) : Bool :=
  f.stem == "mod" || (f.directories.isEmpty && (f.stem == "lib" || f.stem == "main"))

/-- The directories on the way to the file, and its own name unless it is no part of the module
path. -/
def module (f : ModuleFile) : List String :=
  f.directories ++ if f.isSilent then [] else [f.stem]

theorem isWord_of_mem_module {name : String} (h : name ∈ f.module) : IsWord name := by
  rcases List.mem_append.1 h with hdirectory | hstem
  · exact f.isWord_directory name hdirectory
  · split at hstem
    · cases hstem
    · rw [List.mem_singleton.1 hstem]
      exact f.isWord_stem

/-- The path of a file, written name by name, leads to it. -/
theorem liesAt_path (root : String) (f : ModuleFile) : f.LiesAt root (f.path root) := by
  refine components_foldl_join (fun name hname => ?_) root
  rw [names, List.cons_append, List.mem_cons, List.mem_append, List.mem_singleton] at hname
  rcases hname with rfl | hdirectory | rfl
  · exact isPlainName_src
  · exact isPlainName_of_isWord (f.isWord_directory name hdirectory)
  · have hends : (f.stem ++ ".rs").toList = f.stem.toList ++ ['.', 'r', 's'] := String.toList_append
    refine isPlainName_of_ends ?_ hends
    rw [hends, List.mem_append, not_or]
    exact ⟨f.isWord_stem.slash_not_mem, by decide⟩

/-- **The module path of a file** is made of the directories on the way to it and its own name,
which counts unless it is silent. -/
theorem modulePath_of_liesAt (h : f.LiesAt root file) :
    modulePath root file = "::".intercalate ("crate" :: f.module) := by
  have hpoint : '.' ∉ f.stem.toList := f.isWord_stem.not_mem (by decide) (by decide) (by decide)
  have hnames : stepNames (f.names.map .name) = f.names := by
    simp [stepNames, List.filterMap_map]
  have hsource : "src" ∉ f.directories ++ [f.stem ++ ".rs"] := by
    rw [List.mem_append, not_or, List.mem_singleton]
    refine ⟨f.src_not_mem, fun hsame => ?_⟩
    have hmem : '.' ∈ "src".toList := by
      rw [hsame, String.toList_append]
      simp
    exact absurd hmem (by decide)
  unfold modulePath
  rw [namesBelow_of_components h, hnames, names, List.cons_append, behindLast_cons_self,
    behindLast_of_not_mem hsource]
  dsimp only
  rw [moduleSegments_concat, sourceStem_append hpoint, module, isSilent, Bool.true_and]

/-! ### Files with one module path -/

/-- One file is `P.rs`, and the other one is `P/mod.rs`. -/
def IsTwin (f g : ModuleFile) : Prop :=
  g.directories = f.directories ++ [f.stem] ∧ g.stem = "mod"

/-- The file is `lib.rs`, `main.rs` or `mod.rs` directly in the source directory. -/
def IsTop (f : ModuleFile) : Prop :=
  f.directories = [] ∧ f.stem ∈ ["lib", "main", "mod"]

/-- A silent file is `mod.rs`, or it stands directly in the source directory. -/
theorem isSilent_iff : f.isSilent = true ↔ f.stem = "mod" ∨ f.IsTop := by
  unfold isSilent IsTop
  simp only [Bool.or_eq_true, Bool.and_eq_true, beq_iff_eq, List.isEmpty_iff, List.mem_cons,
    List.not_mem_nil, or_false]
  tauto

theorem module_of_isSilent (h : f.isSilent = true) : f.module = f.directories := by
  rw [module, if_pos h, List.append_nil]

theorem module_of_not_isSilent (h : f.isSilent = false) : f.module = f.directories ++ [f.stem] := by
  rw [module, h, if_neg Bool.false_ne_true]

/-- A file that counts shares its module path with a silent one only when they are twins. -/
theorem isTwin_of_module_eq (hf : f.isSilent = false) (hg : g.isSilent = true)
    (h : f.module = g.module) :
    f.IsTwin g := by
  rw [module_of_not_isSilent hf, module_of_isSilent hg] at h
  refine ⟨h.symm, (isSilent_iff.1 hg).resolve_right fun htop => ?_⟩
  exact absurd (h.trans htop.1) (by simp)

/-- Silent files share a module path only when they are the same or stand directly in the source
directory. -/
theorem eq_or_isTop_of_module_eq (hf : f.isSilent = true) (hg : g.isSilent = true)
    (h : f.module = g.module) :
    f = g ∨ (f.IsTop ∧ g.IsTop) := by
  rw [module_of_isSilent hf, module_of_isSilent hg] at h
  by_cases hempty : f.directories = []
  · have htop : ∀ file : ModuleFile, file.isSilent = true → file.directories = [] → file.IsTop := by
      intro file hfile hdirectories
      refine (isSilent_iff.1 hfile).elim (fun hstem => ⟨hdirectories, ?_⟩) id
      rw [hstem]
      decide
    exact .inr ⟨htop f hf hempty, htop g hg (h ▸ hempty)⟩
  · have hmod : f.stem = "mod" := (isSilent_iff.1 hf).resolve_right fun htop => hempty htop.1
    have hmod' : g.stem = "mod" := (isSilent_iff.1 hg).resolve_right fun htop =>
      hempty (h.trans htop.1)
    exact .inl (ModuleFile.ext h (hmod.trans hmod'.symm))

theorem IsTwin.module_eq (h : f.IsTwin g) (hf : f.isSilent = false) : f.module = g.module := by
  rw [module_of_not_isSilent hf, module_of_isSilent (isSilent_iff.2 (.inl h.2)), h.1]

/-- **The files that share a module path**: a file with itself, `P.rs` with `P/mod.rs`, and the
files directly in the source directory whose names are silent. -/
theorem module_eq_iff : f.module = g.module
    ↔ f = g ∨ (f.isSilent = false ∧ f.IsTwin g) ∨ (g.isSilent = false ∧ g.IsTwin f)
      ∨ (f.IsTop ∧ g.IsTop) := by
  constructor
  · intro h
    cases hf : f.isSilent with
    | false =>
      cases hg : g.isSilent with
      | false =>
        rw [module_of_not_isSilent hf, module_of_not_isSilent hg] at h
        obtain ⟨hdirectories, hstem⟩ := List.append_inj' h rfl
        exact .inl (ModuleFile.ext hdirectories (List.cons.inj hstem).1)
      | true => exact .inr (.inl ⟨rfl, isTwin_of_module_eq hf hg h⟩)
    | true =>
      cases hg : g.isSilent with
      | false => exact .inr (.inr (.inl ⟨rfl, isTwin_of_module_eq hg hf h.symm⟩))
      | true => exact (eq_or_isTop_of_module_eq hf hg h).imp_right fun htop => .inr (.inr htop)
  · rintro (rfl | ⟨hf, htwin⟩ | ⟨hg, htwin⟩ | ⟨hf, hg⟩)
    · rfl
    · exact htwin.module_eq hf
    · exact (htwin.module_eq hg).symm
    · rw [module_of_isSilent (isSilent_iff.2 (.inr hf)),
        module_of_isSilent (isSilent_iff.2 (.inr hg)), hf.1, hg.1]

/-- The module path tells the names of the module. -/
theorem modulePath_eq_iff (hf : f.LiesAt root file) (hg : g.LiesAt root other) :
    modulePath root file = modulePath root other ↔ f.module = g.module := by
  have hcolon : ∀ file : ModuleFile, ∀ name ∈ file.module, ':' ∉ name.toList :=
    fun file name hname =>
      (isWord_of_mem_module hname).not_mem (by decide) (by decide) (by decide)
  rw [modulePath_of_liesAt hf, modulePath_of_liesAt hg, crate_intercalate_inj (hcolon f) (hcolon g)]

/-! ### Modules of a crate -/

/-- The file holds a module of the crate whose root has the given stem.  The module of the crate
itself stands in the root.  Any other one stands below the directories of the modules around it, in
the file of its name or in `mod.rs` in the directory of its name.  No module is named by the keyword
`mod`, and the root of a crate is no module of another. -/
inductive Holds (crateRoot : String) (f : ModuleFile) : List String → Prop
  | root (hdirectories : f.directories = []) (hstem : f.stem = crateRoot) : Holds crateRoot f []
  | file {outer : List String} {name : String} (hdirectories : f.directories = outer)
    (hstem : f.stem = name)
      (hkeyword : name ≠ "mod") (hroot : outer = [] → name ≠ "lib" ∧ name ≠ "main") :
      Holds crateRoot f (outer ++ [name])
  | directory {outer : List String} {name : String} (hdirectories : f.directories = outer ++ [name])
      (hstem : f.stem = "mod") : Holds crateRoot f (outer ++ [name])

/-- **The names of a module path are those of the module that the file holds.** -/
theorem Holds.module_eq {crateRoot : String} {names : List String} (h : f.Holds crateRoot names)
    (hroot : crateRoot = "lib" ∨ crateRoot = "main") : f.module = names := by
  cases h with
  | root hdirectories hstem =>
    have htop : f.IsTop := ⟨hdirectories, by rcases hroot with rfl | rfl <;> simp [hstem]⟩
    rw [module_of_isSilent (isSilent_iff.2 (.inr htop)), hdirectories]
  | file hdirectories hstem hkeyword hother =>
    have hcounts : f.isSilent = false := by
      rw [← Bool.not_eq_true, isSilent_iff, hstem]
      rintro (hmod | ⟨hempty, hmem⟩)
      · exact hkeyword hmod
      · have hnames := hother (hdirectories ▸ hempty)
        simp [hstem, hnames, hkeyword] at hmem
    rw [module_of_not_isSilent hcounts, hdirectories, hstem]
  | directory hdirectories hstem =>
    rw [module_of_isSilent (isSilent_iff.2 (.inl hstem)), hdirectories]

end ModuleFile

/-- **The modules of source files.**  For the files below the source directory of a crate, by the
path written name by name or by any other one that takes the same steps, the module path is the
crate with the directories on the way to the file and its own name behind it, unless the name is
silent.  Files share it exactly when they are the same file, when one is `P.rs` (and counts) and the
other one `P/mod.rs`, or when both are among `lib.rs`, `main.rs` and `mod.rs` directly in the source
directory.  So files that hold different modules of one crate do not share it. -/
theorem module_files_spec (root : String) :
    (∀ f : ModuleFile, f.LiesAt root (f.path root))
    ∧ (∀ (f : ModuleFile) (file : String), f.LiesAt root file →
      modulePath root file = "::".intercalate ("crate" :: f.module))
    ∧ (∀ (f g : ModuleFile) (file other : String), f.LiesAt root file → g.LiesAt root other →
      (modulePath root file = modulePath root other
        ↔ f = g ∨ (f.isSilent = false ∧ f.IsTwin g) ∨ (g.isSilent = false ∧ g.IsTwin f)
          ∨ (f.IsTop ∧ g.IsTop)))
    ∧ ∀ (crateRoot : String) (f g : ModuleFile) (file other : String) (names names' : List String),
      crateRoot = "lib" ∨ crateRoot = "main" → f.LiesAt root file → g.LiesAt root other →
      f.Holds crateRoot names → g.Holds crateRoot names' → names ≠ names' →
      modulePath root file ≠ modulePath root other := by
  refine ⟨ModuleFile.liesAt_path root, fun f file => ModuleFile.modulePath_of_liesAt, ?_, ?_⟩
  · intro f g file other hf hg
    rw [ModuleFile.modulePath_eq_iff hf hg, ModuleFile.module_eq_iff]
  · intro crateRoot f g file other names names' hroot hf hg hholds hholds' hdifferent hsame
    rw [ModuleFile.modulePath_eq_iff hf hg, hholds.module_eq hroot,
      hholds'.module_eq hroot] at hsame
    exact hdifferent hsame

theorem isWord_models : IsWord "models" := by decide +kernel

/-- The two files that a module `models` of a crate can stand in, and one for a module `lib` inside
it. -/
def modelsFile : ModuleFile := ⟨[], "models", by simp, isWord_models, by simp⟩
def modelsDirectoryFile :
    ModuleFile := ⟨["models"], "mod", by simp [isWord_models], by decide +kernel, by simp⟩
def modelsLibraryFile :
    ModuleFile := ⟨["models"], "lib", by simp [isWord_models], by decide +kernel, by simp⟩

/-- The two files of one module share its path, and a module inside it has a path of its own,
whatever its name. -/
theorem module_files_spec_models :
    modulePath "/ws" "/ws/src/models/lib.rs" = "crate::models::lib"
      ∧ modulePath "/ws" "/ws/src/models.rs" = modulePath "/ws" "/ws/src/models/mod.rs"
      ∧ modulePath "/ws" "/ws/src/models.rs" ≠ modulePath "/ws" "/ws/src/models/lib.rs" := by
  have hfile : modelsFile.LiesAt "/ws" "/ws/src/models.rs" := by
    unfold ModuleFile.LiesAt
    decide
  have hdirectory : modelsDirectoryFile.LiesAt "/ws" "/ws/src/models/mod.rs" := by
    unfold ModuleFile.LiesAt
    decide
  have hlibrary : modelsLibraryFile.LiesAt "/ws" "/ws/src/models/lib.rs" := by
    unfold ModuleFile.LiesAt
    decide
  have hholds : modelsFile.Holds "lib" ["models"] := .file rfl rfl (by decide) (by decide)
  have hholds' : modelsLibraryFile.Holds "lib" ["models", "lib"] :=
    .file rfl rfl (by decide) (by decide)
  obtain ⟨-, hpath, hshared, hapart⟩ := module_files_spec "/ws"
  refine ⟨hpath _ _ hlibrary, (hshared _ _ _ _ hfile hdirectory).2
    (.inr (.inl ⟨by decide, by decide, rfl⟩)), ?_⟩
  exact hapart "lib" _ _ _ _ _ _ (.inl rfl) hfile hlibrary hholds hholds' (by decide)

end FluentBuilder
