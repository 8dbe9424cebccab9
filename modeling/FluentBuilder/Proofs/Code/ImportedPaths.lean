import FluentBuilder.BuilderItems
import FluentBuilder.Proofs.Code.ItemReading
import FluentBuilder.Proofs.Code.StructNames

/-!
# Paths in imports

A package is read by the grammar of paths, and a file imports everything below the path by the
grammar of imports.  The names of a path may have arguments, and one of them may be the type `Self`;
an import knows neither.

* `Path.Named`, `Path.named_of_read?` — a path that a text spells is made of names, some of them
  with arguments;
* `GoesOn`, `Path.Named.module_of_goesOn` — a path whose tokens go on as an import has no arguments;
* `Path.Named.readTokens?_importTokens` — the tokens of an import are read exactly when its path is
  importable.
-/

namespace FluentBuilder.Code

variable {α : Type} {input rest : Tokens}

/-! ### Paths that a text spells -/

/-- A path of names among the given words, some of them with arguments between angle brackets. -/
inductive Path.Named (words : List String) : Path → Prop
  | root (leading : Bool) : Named words (.root leading)
  | plain {before : Path} {name : String} (h : before.Named words) (hmem : name ∈ words)
      (hname : isModuleWord name = true ∨ name = "Self") : Named words (.plain before name)
  | angle {before : Path} (h : before.Named words) (name : String) (turbofish : Bool)
    (arguments : List Generic)
      (trailing : Bool) : Named words (.angle before name turbofish arguments trailing)

/-- What each step keeps, on any end of the input, is kept by all of them. -/
theorem foldWhile_keeps {test : Tokens → Bool} {step : α → Parser α}
    [hconsumes : ∀ a, Consumes (step a)] {P : α → Prop} {whole : Tokens}
    (hstep : ∀ {a b input rest}, input <:+ whole → P a → step a input = some (b, rest) → P b)
    {a b : α} (ha : P a) (hinput : input <:+ whole)
    (h : foldWhile test step a input = some (b, rest)) : P b := by
  unfold foldWhile at h
  generalize input.length + 1 = fuel at h
  induction fuel generalizing a input with
  | zero => cases h
  | succ fuel ih =>
    obtain ⟨more, _, hlook, h⟩ := bind_eq_some_iff.1 h
    cases hlook
    cases htest : test input with
    | false =>
      rw [htest] at h
      cases h
      exact ha
    | true =>
      rw [htest] at h
      obtain ⟨next, _, hnext, h⟩ := bind_eq_some_iff.1 h
      exact ih (hstep hinput ha hnext) (((hconsumes a).suffix hnext).trans hinput) h

/-- A word that is read as the name of a segment. -/
theorem isModuleWord_of_atOneOf {name : String}
    (h : atOneOf ["super", "self", "crate", "try"] (word name :: rest) = true) :
    isModuleWord name = true := by
  have hmem : name ∈ ["super", "self", "crate", "try"] := List.contains_iff_mem.1 h
  have hplaces : name ∈ ["self", "super", "crate", "try"] := by
    simp only [List.mem_cons, List.not_mem_nil, or_false] at hmem ⊢
    rcases hmem with rfl | rfl | rfl | rfl <;> simp
  unfold isModuleWord
  rw [List.contains_iff_mem.2 hplaces, Bool.or_true]

theorem isModuleWord_of_not_keyword {name : String} (h : isKeyword name = false) :
    isModuleWord name = true := by
  unfold isModuleWord
  rw [h]
  rfl

theorem named_of_pathSegmentRule {g : Grammar} {inExpr : Bool} {before path : Path}
    {words : List String} (hwords : tokensWords input ⊆ words) (hbefore : before.Named words)
    (h : pathSegmentRule g inExpr before input = some (path, rest)) : path.Named words := by
  unfold pathSegmentRule at h
  obtain ⟨_, _, hlook, h⟩ := bind_eq_some_iff.1 h
  cases hlook
  cases hplace : atOneOf ["super", "self", "crate", "try"] input with
  | true =>
    rw [hplace] at h
    obtain ⟨name, _, hname, h⟩ := bind_eq_some_iff.1 h
    cases h
    obtain rfl := anyWord_eq_some_iff.1 hname
    exact .plain hbefore (hwords List.mem_cons_self) (.inl (isModuleWord_of_atOneOf hplace))
  | false =>
    rw [hplace] at h
    obtain ⟨_, _, hlook, h⟩ := bind_eq_some_iff.1 h
    cases hlook
    -- behind the name, the segment may have arguments in two ways, and is a plain name otherwise
    have hangle : ∀ name turbofish arguments trailing,
        Computes (Path.Named words (.angle before name turbofish arguments trailing)) :=
      fun _ _ _ _ => ⟨.angle hbefore _ _ _ _⟩
    cases hself : atWord "Self" input with
    | true =>
      rw [hself] at h
      obtain ⟨name, _, hname, h⟩ := bind_eq_some_iff.1 h
      rw [anyWord_eq_some_iff.1 hname] at hself hwords
      have hplain : Computes (Path.Named words (before.plain name)) :=
        ⟨.plain hbefore (hwords List.mem_cons_self) (.inr (Option.some.inj (eq_of_beq hself)))⟩
      exact Yields.holds h
    | false =>
      rw [hself] at h
      obtain ⟨name, _, hname, h⟩ := bind_eq_some_iff.1 h
      obtain ⟨hinput, hkeyword⟩ := identifier_eq_some_iff.1 hname
      rw [hinput] at hwords
      have hplain : Computes (Path.Named words (before.plain name)) :=
        ⟨.plain hbefore (hwords List.mem_cons_self) (.inl (isModuleWord_of_not_keyword hkeyword))⟩
      exact Yields.holds h

theorem named_of_pathRule {g : Grammar} [g.Consuming] {inExpr : Bool} {path : Path}
    (h : pathRule g inExpr input = some (path, rest)) : path.Named (tokensWords input) := by
  obtain ⟨leading, mid, hlead, h⟩ := bind_eq_some_iff.1 h
  obtain ⟨first, behind, hfirst, h⟩ := bind_eq_some_iff.1 h
  have hmid : mid <:+ input := Consumes.suffix hlead
  have hnamed := named_of_pathSegmentRule (tokensWords_subset_of_suffix hmid) (.root leading) hfirst
  have hbehind : behind <:+ mid := Consumes.suffix hfirst
  refine foldWhile_keeps (P := Path.Named (tokensWords input)) ?_ hnamed (hbehind.trans hmid) h
  intro before path here rest hhere hbefore h
  obtain ⟨_, behind, hlink, h⟩ := bind_eq_some_iff.1 h
  have hbehind : behind <:+ here := Consumes.suffix hlink
  exact named_of_pathSegmentRule (tokensWords_subset_of_suffix (hbehind.trans hhere)) hbefore h

/-- **A path that a text spells is made of words of the text.** -/
theorem Path.named_of_read? {text : String} {path : Path} (h : Path.read? text = some path) :
    ∃ trees, tokens? text.toList = some trees ∧ path.Named (tokensWords trees) := by
  obtain ⟨trees, htrees, h⟩ := Option.bind_eq_some_iff.1 h
  exact ⟨trees, htrees, named_of_pathRule (parseAll?_eq_some_iff.1 h)⟩

/-! ### Paths without arguments -/

/-- The tokens of names, each of which links to what is behind it. -/
def linkedNames (names : List String) : Tokens :=
  names.flatMap fun name => word name :: punctuation "::"

theorem linkedNames_append (names : List String) (name : String) :
    linkedNames (names ++ [name]) = linkedNames names ++ word name :: punctuation "::" := by
  unfold linkedNames
  rw [List.flatMap_append, List.flatMap_singleton]

theorem Path.importable?_eq_some_iff {path : Path} {module : ModulePath} :
    path.importable? = some module ↔ path.modulePath? = some module ∧ "Self" ∉ module.names := by
  unfold importable?
  rw [Option.bind_eq_bind, Option.bind_eq_some_iff]
  constructor
  · rintro ⟨found, hfound, h⟩
    rw [Option.ite_none_left_eq_some, List.contains_iff_mem] at h
    obtain ⟨hself, h⟩ := h
    cases h
    exact ⟨hfound, hself⟩
  · rintro ⟨hmodule, hself⟩
    refine ⟨module, hmodule, ?_⟩
    rw [if_neg]
    rwa [List.contains_iff_mem]

/-- What the names of a path without arguments are, and how its tokens are made of them. -/
theorem Path.Named.modulePath? {words : List String} {path : Path} (h : path.Named words)
    {module : ModulePath} (hmodule : path.modulePath? = some module) :
    (∀ s ∈ module.names, s ∈ words ∧ (isModuleWord s = true ∨ s = "Self"))
      ∧ path.tokens true = markTokens "::" module.leading ++ linkedNames module.names := by
  induction h generalizing module with
  | root leading =>
    cases hmodule
    exact ⟨nofun, (List.append_nil _).symm⟩
  | @plain before name h hmem hname ih =>
    obtain ⟨start, hstart, rfl⟩ := Option.map_eq_some_iff.1 hmodule
    obtain ⟨hnames, htokens⟩ := ih hstart
    constructor
    · intro s hs
      rcases List.mem_append.1 hs with hs | hs
      · exact hnames s hs
      · rw [List.mem_singleton.1 hs]
        exact ⟨hmem, hname⟩
    · show before.tokens true ++ [word name] ++ markTokens "::" true = _
      rw [htokens, linkedNames_append, List.append_assoc, List.append_assoc]
      rfl
  | angle => cases hmodule

/-- The names of an importable path are words that an import knows. -/
theorem Path.Named.isModuleWord_of_importable {words : List String} {path : Path}
    (h : path.Named words) {module : ModulePath} (hmodule : path.importable? = some module) :
    ∀ s ∈ module.names, s ∈ words ∧ isModuleWord s = true := by
  obtain ⟨hplain, hself⟩ := importable?_eq_some_iff.1 hmodule
  intro s hs
  obtain ⟨hmem, hname⟩ := (h.modulePath? hplain).1 s hs
  refine ⟨hmem, hname.resolve_right ?_⟩
  rintro rfl
  exact hself hs

theorem spellsModule_linkedNames {names : List String} (h : ∀ s ∈ names, isModuleWord s = true) :
    SpellsModule names (linkedNames names ++ punctuation "*") := by
  induction names with
  | nil => exact .glob false
  | cons name names ih =>
    exact .cons (h name List.mem_cons_self) false
      (ih fun s hs => h s (List.mem_cons_of_mem name hs))

/-! ### What goes on as an import -/

/-- Whether the tree of an import is read at the head of the input, up to a semicolon. -/
def GoesOn (input : Tokens) : Prop :=
  ∃ n allowRoot tree? rest, useTreeRule (Grammar.level n) allowRoot input = some (tree?, rest)
    ∧ atPunct ";" rest = true

theorem goesOn_of_useTree {n : Nat} {allowRoot : Bool} {tree? : Option UseTree}
    (h : (Grammar.level n).useTree allowRoot input = some (tree?, rest))
    (hend : atPunct ";" rest = true) :
    GoesOn input := by
  cases n with
  | zero => cases h
  | succ n => exact ⟨n, allowRoot, tree?, rest, h, hend⟩

/-- Where no name can stand, there is a star or a group. -/
theorem not_goesOn
    (hname : (atIdentifier input || atOneOf ["self", "super", "crate", "try"] input) = false)
    (hstar : atPunct "*" input = false) (hgroup : atGroup .brace input = false) :
    ¬ GoesOn input := by
  rintro ⟨n, allowRoot, tree?, rest, hread, -⟩
  unfold useTreeRule at hread
  rw [otherwise hname, otherwise_punct hstar] at hread
  obtain ⟨_, _, htrees, -⟩ := bind_eq_some_iff.1 hread
  obtain ⟨inner, rfl, -⟩ := inside_eq_some_iff.1 htrees
  cases hgroup

theorem GoesOn.isModuleWord {name : String} (h : GoesOn (word name :: rest)) :
    isModuleWord name = true := by
  cases hname : Code.isModuleWord name with
  | true => rfl
  | false => exact absurd h (not_goesOn hname rfl rfl)

/-- A name that links to the next is read by itself. -/
theorem GoesOn.behind_link {name : String} (h : GoesOn (word name :: (punctuation "::" ++ rest))) :
    GoesOn rest := by
  have hname := h.isModuleWord
  obtain ⟨n, allowRoot, tree?, left, hread, hend⟩ := h
  unfold useTreeRule at hread
  rw [chosen hname, bind_of_eq_some rfl, chosen_punct rfl] at hread
  obtain ⟨tree, _, htree, h⟩ := bind_eq_some_iff.1 hread
  cases h
  exact goesOn_of_useTree htree hend

theorem not_goesOn_arguments (name : String) (rest : Tokens) :
    ¬ GoesOn (word name :: (punctuation "<" ++ rest)) := by
  intro h
  have hname := h.isModuleWord
  obtain ⟨n, allowRoot, tree?, left, hread, hend⟩ := h
  unfold useTreeRule at hread
  rw [chosen hname, bind_of_eq_some rfl, otherwise_punct rfl, otherwise_keyword rfl] at hread
  cases hread
  cases hend

theorem Path.plain_tokens_append (before : Path) (name : String) (behind : Tokens) :
    (Path.plain before name).tokens true ++ behind
      = before.tokens true ++ (word name :: (punctuation "::" ++ behind)) := by
  show before.tokens true ++ [word name] ++ punctuation "::" ++ behind = _
  simp only [List.append_assoc, List.cons_append, List.nil_append]

theorem Path.angle_tokens_append (before : Path) (name : String) (turbofish trailing : Bool)
    (arguments : List Generic) (behind : Tokens) :
    ∃ inner, (Path.angle before name turbofish arguments trailing).tokens true ++ behind
      = before.tokens true
        ++ (word name :: (markTokens "::" turbofish ++ (punctuation "<" ++ inner))) := by
  refine ⟨lifetimesFirst trailing (genericsTokens arguments)
    ++ (punctuation ">" ++ (markTokens "::" true ++ behind)), ?_⟩
  show before.tokens true ++ [word name] ++ markTokens "::" turbofish ++ punctuation "<"
    ++ lifetimesFirst trailing (genericsTokens arguments) ++ punctuation ">" ++ markTokens "::" true
    ++ behind = _
  simp only [List.append_assoc, List.cons_append, List.nil_append]

/-- **A path whose tokens go on as an import** has no arguments, and the import goes on behind
them. -/
theorem Path.Named.module_of_goesOn {words : List String} {path : Path} (h : path.Named words)
    {behind : Tokens} (hbehind : atPunct "::" behind = false) {leading : Bool}
    (hlead : punct? "::" (path.tokens true ++ behind) = some (leading, rest)) (hgo : GoesOn rest) :
    (∃ module, path.modulePath? = some module ∧ ∀ s ∈ module.names, isModuleWord s = true)
      ∧ GoesOn behind := by
  induction h generalizing behind with
  | root marked =>
    refine ⟨⟨⟨marked, []⟩, rfl, nofun⟩, ?_⟩
    cases marked with
    | true =>
      have hread : punct? "::" (punctuation "::" ++ behind) = some (true, behind) :=
        punct?_of_at rfl
      cases hread.symm.trans hlead
      exact hgo
    | false =>
      cases (punct?_of_not hbehind).symm.trans hlead
      exact hgo
  | @plain before name h _ _ ih =>
    rw [plain_tokens_append] at hlead
    obtain ⟨⟨module, hmodule, hnames⟩, hname⟩ := ih rfl hlead
    refine ⟨⟨⟨module.leading, module.names ++ [name]⟩, ?_, ?_⟩, hname.behind_link⟩
    · exact Option.map_eq_some_iff.2 ⟨module, hmodule, rfl⟩
    · intro s hs
      rcases List.mem_append.1 hs with hs | hs
      · exact hnames s hs
      · rw [List.mem_singleton.1 hs]
        exact hname.isModuleWord
  | @angle before h name turbofish arguments trailing ih =>
    exfalso
    obtain ⟨inner, hinner⟩ := angle_tokens_append before name turbofish trailing arguments behind
    rw [hinner] at hlead
    obtain ⟨-, hname⟩ := ih rfl hlead
    cases turbofish with
    | true => exact not_goesOn rfl rfl rfl hname.behind_link
    | false => exact not_goesOn_arguments name inner hname

/-! ### Reading an import -/

theorem importTokens_eq (path : Path) :
    importTokens path = allowTokens false ++ word "use" :: (path.tokens true
      ++ (punctuation "*" ++ punctuation ";")) := by
  unfold importTokens
  simp only [List.append_assoc]
  rfl

/-- An importable path is read in an import. -/
theorem Path.Named.readTokens?_of_importable {words : List String} {path : Path}
    (h : path.Named words) {module : ModulePath} (hmodule : path.importable? = some module) :
    readTokens? sourceFileRule (importTokens path) = some [importItem module] := by
  obtain ⟨-, htokens⟩ := h.modulePath? (importable?_eq_some_iff.1 hmodule).1
  have hspells := spellsModule_linkedNames fun s hs => (h.isModuleWord_of_importable hmodule s hs).2
  have htrees : importTokens path
        = allowTokens false ++ word "use" :: (leadTokens module.leading false
      ++ (linkedNames module.names ++ punctuation "*" ++ [.leaf (.punct ';' false)])) := by
    have hlead : leadTokens module.leading false = markTokens "::" module.leading := by
      cases module.leading <;> rfl
    rw [importTokens_eq, htokens, hlead]
    simp only [List.append_assoc]
    rfl
  generalize linkedNames module.names ++ punctuation "*" = tree at hspells htrees
  rw [htrees, readTokens?_sourceFile_iff rfl]
  have hitem :=
      item_import (n := depthOf (allowTokens false ++ word "use" :: (leadTokens module.leading false
    ++ (tree ++ [.leaf (.punct ';' false)])))) hspells module.leading false false false (by
      unfold depthOf
      simp only [tokensSize_append, tokensSize]
      omega) []
  exact whileAt_cons rfl hitem (otherwise rfl)

/-- What stands in front of an import is read as on every import. -/
theorem useRule_of_item {depth : Nat} {joint : Bool} {item : Item}
    (h : (Grammar.level depth).item (allowTokens joint ++ word "use" :: input)
      = some (item, rest)) :
    ∃ n tree?, useRule (Grammar.level n) (word "use" :: input) = some (tree?, rest) := by
  cases depth with
  | zero => cases h
  | succ n =>
    obtain ⟨⟨item?, tokens⟩, _, hmarked, h⟩ := bind_eq_some_iff.1 h
    cases h
    obtain ⟨hmarked, -⟩ := withTokens_eq_some_iff.1 hmarked
    rw [bind_of_eq_some (outerAttributesRule_allow joint _),
      bind_of_eq_some (visibilityRule_use _)] at hmarked
    obtain ⟨tree?, _, hvisible, hmarked⟩ := bind_eq_some_iff.1 hmarked
    cases hmarked
    rw [visibleItemRule_use] at hvisible
    exact ⟨n, tree?, hvisible⟩

theorem goesOn_of_useRule {n : Nat} {tree? : Option Item}
    (h : useRule (Grammar.level n) (word "use" :: input) = some (tree?, rest)) :
    ∃ leading mid, punct? "::" input = some (leading, mid) ∧ GoesOn mid := by
  unfold useRule at h
  rw [bind_of_eq_some (keyword_of_word "use" _)] at h
  obtain ⟨leading, mid, hlead, h⟩ := bind_eq_some_iff.1 h
  obtain ⟨tree?, behind, htree, h⟩ := bind_eq_some_iff.1 h
  obtain ⟨_, _, hend, -⟩ := bind_eq_some_iff.1 h
  obtain ⟨_, _, hexpect, -⟩ := bind_eq_some_iff.1 hend
  unfold expect at hexpect
  exact ⟨leading, mid, hlead, goesOn_of_useTree htree (Option.ite_none_right_eq_some.1 hexpect).1⟩

/-- An import that is read names a module. -/
theorem Path.Named.importable_of_readTokens? {words : List String} {path : Path}
    (h : path.Named words) {items : List Item}
    (hread : readTokens? sourceFileRule (importTokens path) = some items) :
    ∃ module, path.importable? = some module := by
  rw [importTokens_eq, readTokens?_sourceFile_iff rfl] at hread
  generalize depthOf _ = depth at hread
  obtain ⟨_, _, hlook, hread⟩ := bind_eq_some_iff.1 hread
  cases hlook
  obtain ⟨item, left, hitem, -⟩ := bind_eq_some_iff.1 hread
  obtain ⟨n, tree?, hrule⟩ := useRule_of_item hitem
  obtain ⟨leading, mid, hlead, hgo⟩ := goesOn_of_useRule hrule
  obtain ⟨⟨module, hmodule, hnames⟩, -⟩ := h.module_of_goesOn rfl hlead hgo
  refine ⟨module, importable?_eq_some_iff.2 ⟨hmodule, fun hself => ?_⟩⟩
  exact absurd (hnames "Self" hself) (by decide)

/-- **The tokens of an import are read exactly when its path is importable.** -/
theorem Path.Named.readTokens?_importTokens {words : List String} {path : Path}
    (h : path.Named words) :
    (∃ items, readTokens? sourceFileRule (importTokens path) = some items)
      ↔ ∃ module, path.importable? = some module := by
  constructor
  · rintro ⟨items, hread⟩
    exact h.importable_of_readTokens? hread
  · rintro ⟨module, hmodule⟩
    exact ⟨_, h.readTokens?_of_importable hmodule⟩

end FluentBuilder.Code
