import FluentBuilder.Proofs.Code.GrammarConsumption
import FluentBuilder.Proofs.Code.TokenWords

/-!
# Names of structs in source text

A struct that an item declares, on its own or inside a module, is named by a word of the source
text.

* `Item.structNames` — the names of the structs that an item declares;
* `Yields`, `Spells` — parsers whose results have a property, and parsers whose results have names
  from the input;
* `spells_level_item` — the items of every level of the grammar;
* `isWord_of_sourceItems?` — the names of the structs in a file;
* `isSome_name_of_read?` — the fields of a declaration that stand in braces have names.
-/

namespace FluentBuilder.Code

variable {α β : Type}

/-! ### Names of structs -/

mutual
/-- The names of the structs that an item declares, those inside modules as well. -/
def Item.structNames : Item → List String
  | .marked _ _ (.struct name _ _ _ _) => [name]
  | .marked _ _ (.module _ _ _ _ items) => itemsStructNames items
  | _ => []

/-- The names of the structs that items declare. -/
def itemsStructNames : List Item → List String
  | [] => []
  | item :: rest => item.structNames ++ itemsStructNames rest
end

theorem mem_itemsStructNames_iff {items : List Item} {name : String} :
    name ∈ itemsStructNames items ↔ ∃ item ∈ items, name ∈ item.structNames := by
  induction items with
  | nil => exact ⟨nofun, fun ⟨_, h, _⟩ => nomatch h⟩
  | cons item rest ih =>
    show name ∈ item.structNames ++ itemsStructNames rest ↔ _
    rw [List.mem_append, ih]
    simp only [List.mem_cons, exists_eq_or_imp]

/-- The names of the structs that an item declares once attributes and a visibility stand in front
of it. -/
def Item.heldNames (item : Item) : List String :=
  (Item.marked [] .inherited item).structNames

theorem Item.structNames_marked (attributes : List Meta) (visibility : ItemVisibility)
    (item : Item) :
    (Item.marked attributes visibility item).structNames = item.heldNames := by
  cases item <;> rfl

/-- The names below an item that may be missing. -/
def namesIn (item? : Option Item) : List String :=
  match item? with
  | some item => item.heldNames
  | none => []

/-! ### Results with a property -/

/-- A proposition that is found by following how its terms compute. -/
class Computes (P : Prop) : Prop where
  out : P

instance computes_rfl (a : α) : Computes (a = a) :=
  ⟨rfl⟩

/-- A parser whose results have a property. -/
class Yields (Q : α → Prop) (p : Parser α) : Prop where
  holds : ∀ {input rest : Tokens} {a : α}, p input = some (a, rest) → Q a

instance yields_pure {Q : α → Prop} {a : α} [h : Computes (Q a)] : Yields Q (pure a) where
  holds e := by
    cases e
    exact h.out

instance yields_failure {Q : α → Prop} : Yields Q failure where
  holds h := by
    cases h

instance yields_bind {Q : β → Prop} {p : Parser α} {f : α → Parser β} [hf : ∀ a, Yields Q (f a)] :
    Yields Q (p >>= f) where
  holds h := by
    obtain ⟨a, mid, -, hrest⟩ := bind_eq_some_iff.1 h
    exact (hf a).holds hrest

instance yields_ite {Q : α → Prop} {c : Prop} [Decidable c] {p q : Parser α} [hp : Yields Q p]
    [hq : Yields Q q] :
    Yields Q (if c then p else q) := by
  split
  · exact hp
  · exact hq

theorem Yields.bind {Q : β → Prop} {p : Parser α} {f : α → Parser β} (hf : ∀ a, Yields Q (f a)) :
    Yields Q (p >>= f) :=
  yields_bind

instance yields_inside {Q : α → Prop} {delimiter : Delimiter} {p : Parser α} [hp : Yields Q p] :
    Yields Q (inside delimiter p) where
  holds h := by
    obtain ⟨inner, -, hinner⟩ := inside_eq_some_iff.1 h
    exact hp.holds hinner

theorem Yields.ite {Q : α → Prop} {c : Prop} [Decidable c] {p q : Parser α} (hp : Yields Q p)
    (hq : Yields Q q) : Yields Q (if c then p else q) :=
  yields_ite

/-- A choice by a test, one alternative of which is left to show. -/
theorem Yields.otherwise {Q : α → Prop} {test : Parser β} {c : β → Prop} [∀ b, Decidable (c b)]
    {p q : Parser α} [hp : Yields Q p] (hq : Yields Q q) :
    Yields Q (test >>= fun b => if c b then p else q) :=
  .bind fun _ => .ite hp hq

/-- What a step yields can be used behind it. -/
theorem Yields.bind_of {R : α → Prop} {Q : β → Prop} {p : Parser α} {f : α → Parser β}
    (hp : Yields R p) (hf : ∀ a, R a → Yields Q (f a)) : Yields Q (p >>= f) where
  holds h := by
    obtain ⟨a, mid, ha, hrest⟩ := bind_eq_some_iff.1 h
    exact (hf a (hp.holds ha)).holds hrest

theorem Yields.of {Q : α → Prop} {a : α} (ha : Q a) : Yields Q (pure a) where
  holds h := by
    cases h
    exact ha

/-! ### Items without names -/

/-- Whether an item is neither a struct nor a module. -/
@[reducible]
def Item.isOther : Item → Bool
  | .struct .. => false
  | .module .. => false
  | _ => true

/-- Whether an item, if there is one, is neither a struct nor a module. -/
@[reducible]
def isOther? : Option Item → Bool
  | some item => item.isOther
  | none => true

theorem namesIn_of_isOther? {item? : Option Item} (h : isOther? item? = true) :
    namesIn item? = [] := by
  cases item? with
  | none => rfl
  | some item =>
    cases item with
    | struct => cases h
    | module => cases h
    | _ => rfl

instance yields_some {p : Parser Item} [hp : Yields (fun item => item.isOther = true) p] :
    Yields (fun item? => isOther? item? = true) (do return some (← p)) where
  holds h := by
    obtain ⟨item, _, hitem, h⟩ := bind_eq_some_iff.1 h
    cases h
    exact hp.holds hitem

instance computes_function (signature : Signature) (body : Option (List Meta × List Statement)) :
    Computes (isOther? (some (signature.item body)) = true) :=
  ⟨rfl⟩

instance computes_use (leading : Bool) (tree? : Option UseTree) :
    Computes (isOther? (tree?.map (.use leading)) = true) where
  out := by
    cases tree? <;> rfl

instance computes_ofTrait (asTrait self : TypeExpr) (isDefault isUnsafe negative : Bool)
    (generics : Generics) (trait? : Option TypeExpr) (attributes : List Meta) (items : List Item) :
    Computes (isOther? (Item.ofTrait? asTrait
      (.impl isDefault isUnsafe generics negative trait? self attributes items)) = true) where
  out := by
    unfold Item.ofTrait?
    split
    · split <;> rfl
    · rfl

section Rules

variable (g : Grammar)

-- as for what rules leave of their input, the search takes a rule step by step
set_option synthInstance.maxSize 1000

instance yields_functionItemRule :
    Yields (fun item? => isOther? item? = true) (functionItemRule g) := by
  unfold functionItemRule
  infer_instance

instance yields_externCrateRule : Yields (fun item => item.isOther = true) externCrateRule := by
  unfold externCrateRule
  infer_instance

instance yields_foreignRule : Yields (fun item => item.isOther = true) (foreignRule g) := by
  unfold foreignRule
  infer_instance

instance yields_useRule : Yields (fun item? => isOther? item? = true) (useRule g) := by
  unfold useRule
  infer_instance

instance yields_staticRule : Yields (fun item? => isOther? item? = true) (staticRule g) := by
  unfold staticRule
  infer_instance

instance yields_constRule (isDefault needsValue : Bool) :
    Yields (fun item? => isOther? item? = true) (constRule g isDefault needsValue) := by
  unfold constRule
  infer_instance

instance yields_definiteAliasRule (isDefault : Bool) (place : WherePlace) :
    Yields (fun item? => isOther? item? = true) (definiteAliasRule g isDefault place) := by
  unfold definiteAliasRule
  refine .bind fun _ => ?_
  split <;> infer_instance

instance yields_enumRule : Yields (fun item => item.isOther = true) (enumRule g) := by
  unfold enumRule
  infer_instance

instance yields_unionRule : Yields (fun item => item.isOther = true) (unionRule g) := by
  unfold unionRule
  infer_instance

instance yields_traitRule (isUnsafe isAuto : Bool) :
    Yields (fun item => item.isOther = true) (traitRule g isUnsafe isAuto) := by
  unfold traitRule
  infer_instance

instance yields_macroDefinitionRule :
    Yields (fun item? => isOther? item? = true) macroDefinitionRule := by
  unfold macroDefinitionRule
  infer_instance

instance yields_macroItemRule (named : Bool) :
    Yields (fun item => item.isOther = true) (macroItemRule named) := by
  unfold macroItemRule
  infer_instance

instance yields_implRule (visible : Bool) :
    Yields (fun item? => isOther? item? = true) (implRule g visible) := by
  unfold implRule
  refine .bind fun isDefault => .bind fun isUnsafe => .bind fun _ => .bind fun hasParams => ?_
  extract_lets behindParams
  have hparams : ∀ params, Yields (fun item? => isOther? item? = true) (behindParams params) := by
    intro params
    refine .bind fun isConst => ?_
    extract_lets behindConst
    have hconst : ∀ u, Yields (fun item? => isOther? item? = true) (behindConst u) := by
      intro u
      infer_instance
    clear_value behindConst
    infer_instance
  clear_value behindParams
  infer_instance

end Rules

/-! ### Names from the input -/

/-- A parser whose results have names that are words of the input. -/
def Spells (names : α → List String) (p : Parser α) : Prop :=
  ∀ input rest a, p input = some (a, rest) → names a ⊆ tokensWords input

theorem Spells.bind {names : β → List String} {p : Parser α} {f : α → Parser β} [hp : Consumes p]
    (hf : ∀ a, Spells names (f a)) : Spells names (p >>= f) := by
  intro input rest b h
  obtain ⟨a, mid, hmid, hrest⟩ := bind_eq_some_iff.1 h
  exact List.Subset.trans (hf a mid rest b hrest) (tokensWords_subset_of_suffix (hp.suffix hmid))

theorem Spells.ite {names : α → List String} {c : Prop} [Decidable c] {p q : Parser α}
    (hp : Spells names p) (hq : Spells names q) : Spells names (if c then p else q) := by
  split
  · exact hp
  · exact hq

theorem Spells.choose {names : α → List String} {test : Parser Bool} {p q : Parser α}
    [Consumes test] (hp : Spells names p) (hq : Spells names q) :
    Spells names (do if ← test then p else q) :=
  .bind fun _ => .ite hp hq

theorem Spells.other {p : Parser (Option Item)}
    [hp : Yields (fun item? => isOther? item? = true) p] :
    Spells namesIn p := by
  intro input rest item? h
  rw [namesIn_of_isOther? (hp.holds h)]
  exact List.nil_subset _

/-- A parser whose result is always there has the names that the result has. -/
theorem Spells.present {p : Parser Item} (hp : Spells Item.heldNames p) :
    Spells namesIn (do return some (← p)) := by
  intro input rest item? h
  obtain ⟨item, _, hitem, h⟩ := bind_eq_some_iff.1 h
  cases h
  exact hp input _ item hitem

theorem Spells.otherItem {p : Parser Item} [hp : Yields (fun item => item.isOther = true) p] :
    Spells Item.heldNames p := by
  intro input rest item h
  have hnone : namesIn (some item) = [] := namesIn_of_isOther? (hp.holds h)
  rw [show item.heldNames = [] from hnone]
  exact List.nil_subset _

/-- The name of an item that is a struct. -/
@[reducible]
def Item.structName? : Item → Option String
  | .struct name _ _ _ _ => some name
  | _ => none

theorem Item.heldNames_of_structName? {item : Item} {name : String}
    (h : item.structName? = some name) :
    item.heldNames = [name] := by
  cases item with
  | struct =>
    cases h
    rfl
  | _ => cases h

/-! ### Structs and modules -/

section Levels

variable {g : Grammar}

theorem spells_structRule : Spells Item.heldNames (structRule g) := by
  intro input rest item h
  obtain ⟨name, mid, hname, h⟩ := bind_eq_some_iff.1 h
  have hstruct : item.structName? = some name :=
    Yields.holds (Q := fun item => item.structName? = some name) h
  rw [Item.heldNames_of_structName? hstruct, (identifier_eq_some_iff.1 hname).1]
  intro w hw
  exact List.mem_append_left _ hw

theorem spells_dataRule : Spells Item.heldNames (dataRule g) := by
  unfold dataRule
  exact .choose spells_structRule (.choose .otherItem (.bind fun _ => .otherItem))

variable [g.Consuming]

/-- The items inside braces. -/
theorem spells_itemBody (hitem : Spells Item.structNames g.item) :
    Spells (fun r => itemsStructNames r.2) (itemBody g g.item) := by
  rintro input rest ⟨attributes, items⟩ h
  obtain ⟨inner, rfl, hinner⟩ := inside_eq_some_iff.1 h
  obtain ⟨_, mid, hattributes, h⟩ := bind_eq_some_iff.1 hinner
  obtain ⟨_, _, hitems, h⟩ := bind_eq_some_iff.1 h
  cases h
  intro w hw
  obtain ⟨item, hmem, hw⟩ := mem_itemsStructNames_iff.1 hw
  obtain ⟨here, left, hsuffix, hhere⟩ := exists_of_mem_repeatWhile hitems hmem
  rw [tokensWords_group]
  refine List.mem_append_left _ (tokensWords_subset_of_suffix (hsuffix.trans ?_)
    (hitem here left item hhere hw))
  exact Consumes.suffix hattributes

theorem spells_moduleRule (hitem : Spells Item.structNames g.item) :
    Spells Item.heldNames (moduleRule g) := by
  unfold moduleRule
  refine .bind fun isUnsafe => .bind fun _ => .bind fun isTry => ?_
  extract_lets named
  have hnamed : ∀ name, Spells Item.heldNames (named name) := by
    intro name
    refine .choose ?_ ?_
    · intro input rest item h
      cases h
      exact List.nil_subset _
    · intro input rest item h
      obtain ⟨⟨attributes, items⟩, _, hbody, h⟩ := bind_eq_some_iff.1 h
      cases h
      exact spells_itemBody hitem input _ _ hbody
  exact .ite (.bind hnamed) (.bind hnamed)

/-- An item behind its attributes and visibility. -/
theorem spells_visibleItemRule (hitem : Spells Item.structNames g.item)
    (visibility : ItemVisibility) :
    Spells namesIn (visibleItemRule g visibility) := by
  unfold visibleItemRule
  extract_lets inherited next
  refine .choose .other <| .choose .other <| .choose .other <| .choose .other <| .choose .other ?_
  refine .choose .other <| .choose .other ?_
  refine .choose (.present (spells_moduleRule hitem)) <| .choose .other ?_
  exact .choose (.present spells_dataRule) <| .choose .other <| .choose .other <| .choose .other <|
    .other

theorem spells_itemRule (hitem : Spells Item.structNames g.item) :
    Spells Item.structNames (itemRule g) := by
  intro input rest item h
  obtain ⟨⟨item?, tokens⟩, _, hmarked, h⟩ := bind_eq_some_iff.1 h
  cases h
  obtain ⟨hmarked, -⟩ := withTokens_eq_some_iff.1 hmarked
  obtain ⟨attributes, mid, hattributes, hmarked⟩ := bind_eq_some_iff.1 hmarked
  obtain ⟨visibility, behind, hvisibility, hmarked⟩ := bind_eq_some_iff.1 hmarked
  obtain ⟨visible?, _, hvisible, hmarked⟩ := bind_eq_some_iff.1 hmarked
  cases hmarked
  cases visible? with
  | none => exact List.nil_subset _
  | some visible =>
    show (Item.marked attributes visibility visible).structNames ⊆ tokensWords input
    rw [Item.structNames_marked]
    refine List.Subset.trans (spells_visibleItemRule hitem visibility behind _ _ hvisible) ?_
    exact tokensWords_subset_of_suffix
      ((Consumes.suffix hvisibility).trans (Consumes.suffix hattributes))

end Levels

/-- **Structs are named by words of the input**, on every level of the grammar. -/
theorem spells_level_item (depth : Nat) : Spells Item.structNames (Grammar.level depth).item := by
  induction depth with
  | zero =>
    intro input rest item h
    cases h
  | succ depth ih => exact spells_itemRule ih

/-- **The names of the structs in a file** are spelled by identifier characters. -/
theorem isWord_of_sourceItems? {text : String} {items : List Item}
    (h : sourceItems? text = some items) {name : String} (hname : name ∈ itemsStructNames items) :
    IsWord name := by
  obtain ⟨trees, htrees, h⟩ := Option.bind_eq_some_iff.1 h
  have h := parseAll?_eq_some_iff.1 h
  obtain ⟨_, mid, hattributes, hitems⟩ := bind_eq_some_iff.1 h
  obtain ⟨item, hmem, hname⟩ := mem_itemsStructNames_iff.1 hname
  obtain ⟨here, left, hsuffix, hhere⟩ := exists_of_mem_repeatWhile hitems hmem
  have hword := spells_level_item _ here left item hhere hname
  exact isWord_of_mem_tokens? htrees
    (tokensWords_subset_of_suffix (hsuffix.trans (Consumes.suffix hattributes)) hword)

/-! ### Names of fields -/

/-- A member that is a field with a name. -/
def Item.IsNamedField (member : Item) : Prop :=
  ∃ attributes visibility name type,
    member = .marked attributes visibility (.field (some name) type)

/-- Whether the fields among named ones have names. -/
def Item.NamesFields : Item → Prop
  | .struct _ _ .named members _ => ∀ member ∈ members, member.IsNamedField
  | _ => True

instance yields_untilAt {Q : α → Prop} {stop : Tokens → Bool} {separator : String} {p : Parser α}
    [hp : Yields Q p] (fuel : Nat) :
    Yields (fun entries => ∀ a ∈ entries.1, Q a) (untilAt stop separator p fuel) := by
  induction fuel with
  | zero => exact yields_failure
  | succ fuel ih =>
    unfold untilAt
    refine .bind fun _ => .ite (.of nofun) (.bind_of hp fun a ha => .bind fun _ => .ite ?_ ?_)
    · exact .of (List.forall_mem_singleton.2 ha)
    · exact .bind fun _ => .bind_of ih fun others hothers =>
        .of (List.forall_mem_cons.2 ⟨ha, hothers⟩)

instance yields_terminated {Q : α → Prop} {p : Parser α} [Yields Q p] :
    Yields (fun entries => ∀ a ∈ entries.1, Q a) (terminated p) where
  holds h := (yields_untilAt _).holds h

variable {g : Grammar}

instance yields_namedFieldAt (fuel : Nat) : Yields Item.IsNamedField (namedFieldAt g fuel) := by
  cases fuel with
  | zero => exact yields_failure
  | succ fuel =>
    unfold namedFieldAt
    refine .bind fun attributes => .bind fun visibility => .bind fun _ => ?_
    extract_lets behind
    have hbehind : ∀ name, Yields Item.IsNamedField (behind name) := by
      intro name
      refine .bind fun _ => .bind fun _ => .ite (.bind fun tokens => .of ?_)
        (.bind fun type => .of ?_)
      · exact ⟨attributes, visibility, name, _, rfl⟩
      · exact ⟨attributes, visibility, name, type, rfl⟩
    exact .ite (.bind hbehind) (.bind hbehind)

instance yields_namedFieldsRule :
    Yields (fun fields => ∀ a ∈ fields.1, a.IsNamedField) (namedFieldsRule g) := by
  unfold namedFieldsRule
  refine .bind fun inner => ?_
  split
  · next fields hfields => exact .of (yields_terminated.holds (parseAll?_eq_some_iff.1 hfields))
  · exact yields_failure

theorem yields_structRule : Yields Item.NamesFields (structRule g) := by
  unfold structRule
  refine .bind fun _ => .bind fun _ => .bind fun _ => .bind fun _ => .bind fun _ =>
    .ite ?_ (.bind fun _ => .ite ?_ ?_)
  · exact .bind fun _ => .bind fun _ => .bind fun _ => .of trivial
  · exact .bind_of yields_namedFieldsRule fun _ hfields => .of hfields
  · exact .bind fun _ => .of trivial

theorem yields_dataRule : Yields Item.NamesFields (dataRule g) := by
  unfold dataRule enumRule unionRule
  refine .bind fun _ => .ite yields_structRule (.bind fun _ => .ite ?_ (.bind fun _ => ?_))
  · exact .bind fun _ => .bind fun _ => .bind fun _ => .bind fun _ => .of trivial
  · exact .bind fun _ => .bind fun _ => .bind fun _ => .bind fun _ => .of trivial

/-- **Fields among named ones have names** in every declaration that a text spells. -/
theorem isSome_name_of_read? {text : String} {d : TypeDeclaration}
    (h : TypeDeclaration.read? text = some d) {items : List FieldItem}
    (hitems : d.data = .struct (.named items)) {field : FieldItem} (hfield : field ∈ items) :
    field.name.isSome = true := by
  obtain ⟨item, hitem, hdeclared⟩ := Option.bind_eq_some_iff.1 h
  obtain ⟨tokens, -, hread⟩ := Option.bind_eq_some_iff.1 hitem
  obtain ⟨attributes, _, -, hread⟩ := bind_eq_some_iff.1 (parseAll?_eq_some_iff.1 hread)
  obtain ⟨visibility, _, -, hread⟩ := bind_eq_some_iff.1 hread
  obtain ⟨declared, _, hdata, hread⟩ := bind_eq_some_iff.1 hread
  cases hread
  have hnamed := yields_dataRule.holds hdata
  cases declared with
  | struct name generics style members trailing =>
    cases hdeclared
    cases style with
    | named =>
      cases hitems
      obtain ⟨member, hmember, hfield⟩ := List.mem_filterMap.1 hfield
      obtain ⟨_, _, fieldName, _, rfl⟩ := hnamed member hmember
      cases hfield
      rfl
    | unnamed => cases hitems
    | unit => cases hitems
  | enum => cases hdeclared; cases hitems
  | union => cases hdeclared; cases hitems
  | _ => cases hdeclared

end FluentBuilder.Code
