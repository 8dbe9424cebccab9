import FluentBuilder.Proofs.Text.WordBoundaries
import FluentBuilder.Proofs.Workspace.FailurePolicies
import FluentBuilder.Proofs.Workspace.PassOutcome

/-!
# The files of builders

A builder is named by its target with a suffix, and its file by the builder's name in snake case.
For usual names this is the target's name in snake case with a suffix of its own, so two targets
have one file exactly when their names have the same snake case; a pass that meets both says so.

* `IsAsciiTypeName`, `fileName_builder` — usual names of types, and the files of their builders;
* `planFiles_repeated`, `generate_repeatedFile_iff` — a pass ends at the first file with the name of
  one before;
* `builder_files_spec` — both together.
-/

namespace FluentBuilder

open FileTree FluentBuilder.Code FluentBuilder.Text

/-! ### Names of files -/

/-- An identifier of ASCII characters that does not end in an underscore. -/
structure IsAsciiTypeName (name : String) : Prop where
  isWord : IsWord name
  ascii : ∀ c ∈ name.toList, c.toNat < 128
  last : name.toList.getLast? ≠ some '_'

theorem IsAsciiTypeName.isAscii {name : String} (h : IsAsciiTypeName name) :
    IsAscii name.toList := by
  intro c hc
  refine ⟨h.ascii c hc, fun hreturn => ?_⟩
  subst hreturn
  exact h.isWord.not_mem (by decide) (by decide) (by decide) hc

/-- Such a name ends in a letter or a digit. -/
theorem IsAsciiTypeName.exists_last {name : String} (h : IsAsciiTypeName name) :
    ∃ front c, name.toList = front ++ [c] ∧ c.toNat < 128
      ∧ (isAsciiLetter c || isAsciiDigit c) = true := by
  obtain ⟨front, c, hname, hc⟩ := h.isWord.exists_last
  have hascii : c.toNat < 128 := h.ascii c (by simp [hname])
  have hunderscore : c ≠ '_' := by
    rintro rfl
    exact h.last (by simp [hname])
  have hbeyond : ¬ 128 ≤ c.toNat := by omega
  refine ⟨front, c, hname, hascii, ?_⟩
  simp only [isIdentifierStart, isIdentifierContinue, hbeyond, decide_false, Bool.false_and,
    Bool.or_false, Bool.or_eq_true, beq_iff_eq, hunderscore, false_or] at hc
  rw [Bool.or_eq_true]
  exact hc.elim .inl id

/-- A word that ends in a letter or a digit ends in front of the suffix, in whatever case the letter
is. -/
theorem splitsBetween_suffix {c : Char} (hascii : c.toNat < 128)
    (h : (isAsciiLetter c || isAsciiDigit c) = true) :
    isSeparator [c] = false ∧ splitsBetween [c] ['B'] (some ['u']) = true := by
  have hall : ∀ n < 128, (isAsciiLetter (Char.ofNat n) || isAsciiDigit (Char.ofNat n)) = true →
      isSeparator [Char.ofNat n] = false
        ∧ splitsBetween [Char.ofNat n] ['B'] (some ['u']) = true := by
    decide +kernel
  have hc := hall c.toNat hascii
  rw [Char.ofNat_toNat] at hc
  exact hc h

/-- **The file of a builder** is named by the target in snake case. -/
theorem fileName_builder {target : QualifiedName} (h : IsAsciiTypeName target.name) :
    target.builder.fileName = snakeCase target.name ++ "_builder.rs" := by
  obtain ⟨front, c, hname, hascii, hc⟩ := h.exists_last
  obtain ⟨hsep, hends⟩ := splitsBetween_suffix hascii hc
  have hsuffix : IsAscii "Builder".toList := by
    unfold IsAscii
    simp
  have hsnake : snakeCase (target.name ++ "Builder")
      = snakeCase target.name ++ "_" ++ snakeCase "Builder" :=
    snakeCase_append h.isAscii hsuffix hname rfl hsep hends (by decide)
  have hbuilder : snakeCase "Builder" = "builder" := by decide +kernel
  show snakeCase (target.name ++ "Builder") ++ ".rs" = _
  rw [hsnake, hbuilder, String.append_assoc, String.append_assoc]
  rfl

/-- Two targets have one file exactly when their names have the same snake case. -/
theorem fileName_builder_eq_iff {target other : QualifiedName} (h : IsAsciiTypeName target.name)
    (h' : IsAsciiTypeName other.name) :
    target.builder.fileName = other.builder.fileName
      ↔ snakeCase target.name = snakeCase other.name := by
  rw [fileName_builder h, fileName_builder h']
  refine ⟨fun hsame => ?_, fun hsame => by rw [hsame]⟩
  rw [← String.toList_inj, String.toList_append, String.toList_append] at hsame
  exact String.toList_inj.1 (List.append_cancel_right hsame)

/-! ### Repeated files -/

/-- **A plan ends at a file with the name of one before**, if it comes as far as that. -/
theorem planFiles_repeated {taken : List String} {front back : List Accepted} {again : Accepted}
    {files : List PlannedFile} (hfront : planFiles taken front = .ok files)
    (hmem : again.model.name.fileName ∈ taken
      ∨ ∃ first ∈ front, first.model.name.fileName = again.model.name.fileName) :
    planFiles taken (front ++ again :: back)
      = .error (.repeatedFile again.model.name again.model.name.fileName) := by
  induction front generalizing taken files with
  | nil =>
    have htaken : again.model.name.fileName ∈ taken := hmem.resolve_right (by simp)
    simp [planFiles, htaken]
  | cons a rest ih =>
    simp only [planFiles] at hfront
    split at hfront
    · cases hfront
    · next hfree =>
      obtain ⟨text, htext, hrest⟩ := bind_eq_ok_iff.1 hfront
      obtain ⟨others, hothers, -⟩ := bind_eq_ok_iff.1 hrest
      have hmem' : again.model.name.fileName ∈ a.model.name.fileName :: taken
          ∨ ∃ first ∈ rest, first.model.name.fileName = again.model.name.fileName := by
        rcases hmem with htaken | ⟨first, hfirst, hsame⟩
        · exact .inl (List.mem_cons_of_mem _ htaken)
        · rcases List.mem_cons.1 hfirst with rfl | hfirst
          · exact .inl (hsame ▸ List.mem_cons_self)
          · exact .inr ⟨first, hfirst, hsame⟩
      simp only [List.cons_append, planFiles]
      rw [if_neg hfree, htext, ih hothers hmem']
      rfl

/-- What a plan ends at has the name of the file of its builder. -/
theorem fileName_of_planFiles_error {taken : List String} {as : List Accepted}
    {builder : QualifiedName} {file : String}
    (h : planFiles taken as = .error (.repeatedFile builder file)) :
    file = builder.fileName := by
  induction as generalizing taken with
  | nil => cases h
  | cons a rest ih =>
    simp only [planFiles] at h
    split at h
    · cases h
      rfl
    · cases htext : a.text with
      | error e =>
        rw [htext] at h
        cases h
      | ok text =>
        rw [htext] at h
        cases hrest : planFiles (a.model.name.fileName :: taken) rest with
        | error e =>
          simp only [hrest, Except.mapError, bind, Except.bind] at h
          cases h
          exact ih hrest
        | ok files =>
          simp only [hrest, Except.mapError, bind, Except.bind] at h
          cases h

/-- Nothing but its plan makes a pass over types that were found end at a repeated file. -/
theorem generate_repeatedFile_iff {t : FileTree} {settings : Settings} {rules : List Check}
    {types : List Discovered} {builder : QualifiedName} {file : String}
    (htypes : t.discover settings = .ok types)
    (hclean : settings.failurePolicy = .abort → violations rules types = []) :
    t.generate settings rules = (t, .error (.repeatedFile builder file))
      ↔ planFiles [] (accepted rules types) = .error (.repeatedFile builder file) := by
  have hsift := sift_eq_ok_iff.2 ⟨hclean, rfl⟩
  rw [generate_of_discover_ok rules htypes]
  unfold FileTree.generateFrom planFor
  rw [hsift]
  cases hfiles : planFiles [] (accepted rules types) with
  | error e => simp [hfiles, bind, Except.bind]
  | ok files =>
    simp only [hfiles, bind, Except.bind, pure, Except.pure]
    refine iff_of_false (fun hcarry => ?_) nofun
    obtain ⟨_, _, -, -, hend⟩ := carryOut_spec settings.outputPath
      ⟨files, types.length, violations rules types⟩ t
    rw [hcarry] at hend
    rcases hend with ⟨-, hok⟩ | haccess
    · cases hok
    · cases haccess

/-- Whatever a pass plans for a target, it is the target's builder. -/
theorem name_of_mem_accepted {rules : List Check} {types : List Discovered} {a : Accepted}
    (h : a ∈ accepted rules types) : a.model.name = a.model.target.builder := by
  obtain ⟨d, -, hmodel, -⟩ := mem_accepted_iff.1 h
  have hbuilder := isBuilderOf_of_synthesizeWith hmodel
  rw [hbuilder.name, hbuilder.target]
  rfl

/-- **The files of builders.**  For a type whose name is an ASCII identifier that does not end in an
underscore the file of its builder is named by the type's name in snake case with `_builder.rs`
behind it, and two such types have one file exactly when the snake case of their names is the same.
When a pass comes as far as a type behind another one, both so named, it ends with the report that
the second maps to the file of the first exactly in this case. -/
theorem builder_files_spec :
    (∀ target : QualifiedName, IsAsciiTypeName target.name →
      target.builder.fileName = snakeCase target.name ++ "_builder.rs")
    ∧ (∀ target other : QualifiedName, IsAsciiTypeName target.name → IsAsciiTypeName other.name →
      (target.builder.fileName = other.builder.fileName
        ↔ snakeCase target.name = snakeCase other.name))
    ∧ ∀ (t : FileTree) (settings : Settings) (rules : List Check) (types : List Discovered)
        (front back : List Accepted) (first again : Accepted) (files : List PlannedFile),
      t.discover settings = .ok types →
      (settings.failurePolicy = .abort → violations rules types = []) →
      accepted rules types = front ++ again :: back → planFiles [] front = .ok files →
      first ∈ front →
      IsAsciiTypeName first.model.target.name → IsAsciiTypeName again.model.target.name →
      (t.generate settings rules
          = (t, .error (.repeatedFile again.model.name
            (snakeCase first.model.target.name ++ "_builder.rs")))
        ↔ snakeCase first.model.target.name = snakeCase again.model.target.name) := by
  refine ⟨fun _ => fileName_builder, fun _ _ => fileName_builder_eq_iff, ?_⟩
  intro t settings rules types front back first again files htypes hclean hsplit hfront hmem
    hfirst hagain
  have hname : first.model.name = first.model.target.builder := by
    have haccepted : first ∈ accepted rules types := hsplit ▸ List.mem_append_left _ hmem
    exact name_of_mem_accepted haccepted
  have hname' : again.model.name = again.model.target.builder := by
    have haccepted : again ∈ accepted rules types :=
      hsplit ▸ List.mem_append_right front List.mem_cons_self
    exact name_of_mem_accepted haccepted
  rw [generate_repeatedFile_iff htypes hclean, hsplit, ← fileName_builder hfirst,
    ← fileName_builder_eq_iff hfirst hagain]
  constructor
  · intro hplan
    rw [fileName_of_planFiles_error hplan, hname']
  · intro hsame
    rw [planFiles_repeated hfront (.inr ⟨first, hmem, by rw [hname, hname', hsame]⟩), hname', hsame]

/-- A workspace with one descriptor file, which describes two types whose names differ in case. -/
def clashingTree : FileTree :=
  ⟨[(["d"], .directory), (["d", "a.toml"], .file (.text clashingText))], []⟩
where
  /-- The text of the descriptor file. -/
  clashingText : String :=
    "[[types]]\nname = \"HttpJob\"\n[[types.constructors]]\n"
      ++ "[[types]]\nname = \"HTTPJob\"\n[[types.constructors]]\n"

/-- A pass over this workspace reports the second type for the file of the first. -/
theorem builder_files_spec_clashing : ∃ types first again files,
    clashingTree.discover descriptorSettings = .ok types ∧ violations defaultRules types = []
    ∧ accepted defaultRules types = [first, again] ∧ planFiles [] [first] = .ok files
    ∧ first.model.target.name = "HttpJob" ∧ again.model.target.name = "HTTPJob"
    ∧ IsAsciiTypeName "HttpJob" ∧ IsAsciiTypeName "HTTPJob"
    ∧ snakeCase "HttpJob" = snakeCase "HTTPJob"
    ∧ clashingTree.generate descriptorSettings defaultRules
      = (clashingTree,
        .error (.repeatedFile again.model.name (snakeCase "HttpJob" ++ "_builder.rs"))) := by
  have hrun : ((descriptorSettings.visits [("a.toml", .text clashingTree.clashingText)]).mapM
      (clashingTree.yield descriptorSettings)).toOption.any (fun found =>
        (checkNames [] found.flatten).toOption.any fun _ =>
          (violations defaultRules found.flatten).isEmpty
          && (accepted defaultRules found.flatten).map (fun a => a.model.target.name)
            == ["HttpJob", "HTTPJob"]
          && (planFiles [] ((accepted defaultRules found.flatten).take 1)).toOption.any fun _ =>
            true) = true := by
    decide +kernel
  obtain ⟨found, hfound, hrun⟩ := exists_ok_of_any hrun
  obtain ⟨_, hnames, hrun⟩ := exists_ok_of_any hrun
  obtain ⟨hrun, hplan⟩ := Bool.and_eq_true_iff.1 hrun
  obtain ⟨hclean, htargets⟩ := Bool.and_eq_true_iff.1 hrun
  rw [List.isEmpty_iff] at hclean
  have hdiscover := discover_of_files ["d"] [("a.toml", .text clashingTree.clashingText)]
    (by decide +kernel) hfound hnames
  obtain ⟨first, rest, haccepted, hfirst, hrest⟩ := List.map_eq_cons_iff.1 (beq_iff_eq.1 htargets)
  obtain ⟨again, others, rfl, hagain, hothers⟩ := List.map_eq_cons_iff.1 hrest
  obtain rfl := List.map_eq_nil_iff.1 hothers
  rw [haccepted] at hplan
  obtain ⟨files, hfiles, -⟩ := exists_ok_of_any hplan
  have hname : IsAsciiTypeName "HttpJob" := ⟨by decide +kernel, by simp, by simp⟩
  have hname' : IsAsciiTypeName "HTTPJob" := ⟨by decide +kernel, by simp, by simp⟩
  have hsnake : snakeCase "HttpJob" = snakeCase "HTTPJob" := by decide +kernel
  have hreport := (builder_files_spec.2.2 clashingTree descriptorSettings defaultRules
    found.flatten [first] [] first again files hdiscover (fun _ => hclean) haccepted hfiles
    (by simp) (by rwa [hfirst]) (by rwa [hagain])).2 (by rw [hfirst, hagain, hsnake])
  rw [hfirst] at hreport
  exact ⟨_, first, again, files, hdiscover, hclean, haccepted, hfiles, hfirst, hagain, hname,
    hname', hsnake, hreport⟩

end FluentBuilder
