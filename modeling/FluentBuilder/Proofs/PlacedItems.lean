import Mathlib.Data.List.Basic
import FluentBuilder.Scan

/-!
# Items in their modules

A scan goes through modules inside one another and adds to two accounts, one of marked structs and
one of constructors.  Here the same is said without accounts: first the items of a file are listed
with the modules around them, and then each item is looked at by itself.

* `Placed`, `itemsPlaced` — the items of a file at every depth, in source order, with the modules in
  which they stand;
* `derivedPaths`, `Path.NamesItem` — what the derive attributes list, and the type that an
  implementation is found by;
* `Item.markedStruct?`, `markedIn` — the marked structs;
* `Origin`, `Item.origins`, `originsIn` — what the constructors of a type come from;
* `markedStructs_itemsFindings`, `constructorsFor_itemsFindings` — the accounts of a scan hold
  exactly these.
-/

namespace FluentBuilder

open FluentBuilder.Code

/-! ### The items of a file -/

/-- An item with the names of the modules in which it stands, from the outside in. -/
structure Placed where
  modules : List String
  item : Item

/-- An item seen from outside of one more module. -/
def Placed.within (name : String) (p : Placed) : Placed :=
  { p with modules := name :: p.modules }

/-- The path of the module in which an item stands, where `module` is that of its file. -/
def Placed.path (module : String) (p : Placed) : String :=
  "::".intercalate (module :: p.modules)

mutual
/-- An item and, if it is a module, what stands in it. -/
def Code.Item.placed : Item → List Placed
  | .marked attributes visibility (.module isUnsafe name hasBody inner items) =>
    ⟨[], .marked attributes visibility (.module isUnsafe name hasBody inner items)⟩
      :: (itemsPlaced items).map (Placed.within name)
  | item => [⟨[], item⟩]

/-- Items one behind the other, each with what stands in it. -/
def itemsPlaced : List Item → List Placed
  | [] => []
  | item :: rest => item.placed ++ itemsPlaced rest
end

/-! ### Marked structs -/

/-- The paths that the derive attributes list; one whose arguments are no list of paths counts for
nothing. -/
def derivedPaths (attributes : List Meta) : List Path :=
  attributes.flatMap fun
    | .list path arguments =>
      if path.isIdent "derive" then (Path.readList? arguments.inner).getD [] else []
    | _ => []

/-- One of the derive attributes lists a path that ends in the given name. -/
def Derives (attributes : List Meta) (name : String) : Prop :=
  ∃ p ∈ derivedPaths attributes, p.lastName? = some name

instance (attributes : List Meta) (name : String) : Decidable (Derives attributes name) := by
  unfold Derives
  infer_instance

theorem mem_derivedNames_iff {attributes : List Meta} {name : String} :
    name ∈ derivedNames attributes ↔ Derives attributes name := by
  simp only [derivedNames, Derives, derivedPaths, List.mem_flatMap, List.mem_filter]
  constructor
  · rintro ⟨a, ⟨ha, hderive⟩, hname⟩
    cases a with
    | list path arguments =>
      obtain ⟨p, hp, hlast⟩ := List.mem_filterMap.1 hname
      exact ⟨p, ⟨_, ha, List.mem_ite_nil_right.2 ⟨hderive, hp⟩⟩, hlast⟩
    | bare path => cases hname
    | assigned path value => cases hname
  · rintro ⟨p, ⟨a, ha, hp⟩, hlast⟩
    cases a with
    | list path arguments =>
      obtain ⟨hderive, hp⟩ := List.mem_ite_nil_right.1 hp
      exact ⟨_, ⟨ha, hderive⟩, List.mem_filterMap.2 ⟨p, hp, hlast⟩⟩
    | bare path => cases hp
    | assigned path value => cases hp

/-- The declaration that an item is, if it is a struct that derives one of the markers. -/
def Code.Item.markedStruct? (markers : List String) : Item → Option TypeDeclaration
  | .marked attributes visibility (.struct name generics style fields trailing) =>
    if ∃ marker ∈ markers, Derives attributes marker then
      (Item.marked attributes visibility (.struct name generics style fields trailing)).declaration?
    else none
  | _ => none

/-- The marked structs of a file with the paths of their modules, in source order. -/
def markedIn (markers : List String) (module : String) (items : List Item) :
    List (String × TypeDeclaration) :=
  (itemsPlaced items).filterMap fun p => (p.item.markedStruct? markers).map fun d =>
    (p.path module, d)

/-! ### What constructors come from -/

/-- Whether a path has no type in front and ends in the given name. -/
def Code.Path.NamesItem (p : Path) (name : String) : Prop :=
  p.isQualified = false ∧ p.lastName? = some name

instance (p : Path) (name : String) : Decidable (p.NamesItem name) := by
  unfold Path.NamesItem
  infer_instance

theorem itemName?_path_eq_some_iff {p : Path} {name : String} :
    (TypeExpr.path p).itemName? = some name ↔ p.NamesItem name := by
  simp only [TypeExpr.itemName?, Path.NamesItem]
  cases p.isQualified <;> simp

/-- What a constructor of a type comes from. -/
inductive Origin where
  /-- A struct of the type's name, with the given attributes, derives the default. -/
  | derived (attributes : List Meta)
  /-- An implementation of the trait `asTrait` for the type `self`, which may be a negative one. -/
  | implemented (negative : Bool) (asTrait self : Path)
  /-- A function among the members of an implementation of the type `self`, with a result of the
  type `output`. -/
  | function (self : Path) (visibility : ItemVisibility) (head : FunctionHead)
    (params : List Pattern) (output : Path)

/-- The constructor that comes from an origin: the default of the type, or a function with its name,
its parameters and its visibility. -/
def Origin.constructor : Origin → Constructor
  | .derived _ => .ofDefault
  | .implemented _ _ _ => .ofDefault
  | .function _ visibility head params _ =>
    { name := some head.name, params := params.filterMap Pattern.parameter?, visibility :=
      visibility.described }

/-- The origin that a member of an implementation is: a function without receiver whose result is
given by a path that ends in `Self` or in the name of the type. -/
def Code.Item.functionOrigin? (self : Path) (name : String) : Item → Option Origin
  | .marked _ visibility (.function head _ params _ (some (.path output)) _ _ _) =>
    if (∀ p ∈ params.head?, p.isReceiver = false)
      ∧ (output.lastName? = some "Self" ∨ output.lastName? = some name) then
      some (.function self visibility head params output)
    else none
  | _ => none

/-- The origins of constructors of a type with the given name that an item holds. -/
def Code.Item.origins (name : String) : Item → List Origin
  | .marked attributes _ (.struct declared _ _ _ _) =>
    if declared = name ∧ Derives attributes "Default" then [.derived attributes] else []
  | .marked _ _ (.impl _ _ _ negative (some (.path asTrait)) (.path self) _ _) =>
    if asTrait.NamesItem "Default" ∧ self.NamesItem name then [.implemented negative asTrait self]
    else []
  | .marked _ _ (.impl _ _ _ _ none (.path self) _ members) =>
    if self.NamesItem name then members.filterMap (Item.functionOrigin? self name) else []
  | _ => []

/-- The origins of constructors of a type in the module with the given path, in source order. -/
def originsIn (module : String) (items : List Item) (path name : String) : List Origin :=
  (itemsPlaced items).flatMap fun p => if p.path module = path then p.item.origins name else []

theorem mem_originsIn_iff {module : String} {items : List Item} {path name : String} {o : Origin} :
    o ∈ originsIn module items path name ↔ ∃ p ∈ itemsPlaced items,
      p.path module = path ∧ o ∈ p.item.origins name := by
  simp only [originsIn, List.mem_flatMap, List.mem_ite_nil_right]

/-! ### The accounts of a scan -/

/-- What an item contributes without the items inside it. -/
def Code.Item.ownFindings (markers : List String) (module : String) : Item → List Finding
  | .marked _ _ (.module _ _ _ _ _) => []
  | item => item.findings markers module

-- the cases follow the recursion of the scan: into modules, and along the items of each
mutual
theorem findings_eq_placed (markers : List String) (module : String) (item : Item) :
    item.findings markers module = item.placed.flatMap fun p =>
      p.item.ownFindings markers (p.path module) := by
  unfold Item.placed
  split
  · next attributes visibility isUnsafe name hasBody inner items =>
    show itemsFindings markers (module ++ "::" ++ name) items = _
    rw [itemsFindings_eq_placed markers (module ++ "::" ++ name) items, List.flatMap_cons,
      List.flatMap_map]
    rfl
  · next hmodule =>
    simp only [List.flatMap_cons, List.flatMap_nil, List.append_nil]
    show _ = item.ownFindings markers module
    unfold Item.ownFindings
    split
    · next isUnsafe name hasBody inner items => exact absurd rfl (hmodule _ _ _ _ _ _ _)
    · rfl

theorem itemsFindings_eq_placed (markers : List String) (module : String) (items : List Item) :
    itemsFindings markers module items
      = (itemsPlaced items).flatMap fun p => p.item.ownFindings markers (p.path module) := by
  cases items with
  | nil => rfl
  | cons item rest =>
    show item.findings markers module ++ itemsFindings markers module rest = _
    rw [findings_eq_placed markers module item, itemsFindings_eq_placed markers module rest,
      itemsPlaced, List.flatMap_append]
end

theorem derivedNames_any_iff {markers : List String} {attributes : List Meta} :
    (derivedNames attributes).any markers.contains = true ↔ ∃ marker ∈ markers,
      Derives attributes marker := by
  simp only [List.any_eq_true, List.contains_iff_mem, mem_derivedNames_iff]
  exact exists_congr fun name => and_comm

theorem derivedNames_contains_iff {attributes : List Meta} {name : String} :
    (derivedNames attributes).contains name = true ↔ Derives attributes name := by
  rw [List.contains_iff_mem, mem_derivedNames_iff]

/-- An implementation adds to the constructors of the type that it is found by. -/
theorem ownFindings_impl {attributes inner : List Meta} {visibility : ItemVisibility}
    {isDefault isUnsafe negative : Bool} {generics : Generics} {asTrait : Option TypeExpr}
    {self : TypeExpr} {members : List Item} (markers : List String) (module : String) :
    (Item.marked attributes visibility
      (.impl isDefault isUnsafe generics negative asTrait self inner members)).ownFindings
        markers module
      = (self.itemName?.map fun name => .constructors module name
        (implConstructors asTrait members name)).toList := by
  simp only [Item.ownFindings, Item.findings]
  cases self.itemName? <;> rfl

/-- An item by itself adds to the marked structs what it is. -/
theorem markedStructs_ownFindings (markers : List String) (module : String) (item : Item) :
    markedStructs (item.ownFindings markers module)
      = ((item.markedStruct? markers).map fun d => (module, d)).toList := by
  cases item with
  | marked attributes visibility inner =>
    cases inner with
    | struct name generics style fields trailing =>
      show markedStructs (structFindings markers module
        ⟨attributes, visibility, name, generics.hasParams, .struct (style.fields fields)⟩) = _
      simp only [structFindings, Item.markedStruct?, markedStructs, List.filterMap_append,
        derivedNames_any_iff]
      by_cases hmarked : ∃ marker ∈ markers, Derives attributes marker <;>
        by_cases hdefault : (derivedNames attributes).contains "Default" = true <;>
        simp only [hdefault, hmarked, if_true, if_false] <;> rfl
    | impl _ _ _ _ asTrait self _ members =>
      rw [ownFindings_impl]
      cases self.itemName? <;> rfl
    | _ => rfl
  | _ => rfl

/-- **The account of marked structs** holds those of the file, in source order. -/
theorem markedStructs_itemsFindings (markers : List String) (module : String) (items : List Item) :
    markedStructs (itemsFindings markers module items) = markedIn markers module items := by
  rw [itemsFindings_eq_placed, markedIn, List.filterMap_eq_flatMap_toList]
  unfold markedStructs
  rw [List.filterMap_flatMap]
  exact congrArg (fun f => List.flatMap f _)
    (funext fun p => markedStructs_ownFindings markers (p.path module) p.item)

theorem constructorsFor_append (path name : String) (xs ys : List Finding) :
    constructorsFor path name (xs ++ ys)
      = constructorsFor path name xs ++ constructorsFor path name ys :=
  List.flatMap_append

theorem constructorsFor_singleton (module named : String) (found : List Constructor)
    (path name : String) :
    constructorsFor path name [.constructors module named found]
      = if module = path ∧ named = name then found else [] := by
  simp [constructorsFor]

theorem constructs_iff {params : List Pattern} {output : Option TypeExpr} {name : String} :
    constructs params output name = true ↔ (∀ p ∈ params.head?, p.isReceiver = false)
      ∧ ∃ path, output = some (.path path)
      ∧ (path.lastName? = some "Self" ∨ path.lastName? = some name) := by
  have hreceiver : (!params.head?.any Pattern.isReceiver) = true ↔ ∀ p ∈ params.head?,
      p.isReceiver = false := by
    cases params.head? <;> simp
  unfold constructs
  rw [Bool.and_eq_true, hreceiver]
  refine and_congr_right fun _ => ?_
  cases output with
  | none => simp
  | some type =>
    cases type with
    | path path => cases hlast : path.lastName? <;> simp [hlast]
    | _ => simp

/-- A member is a constructor of the type just when it is an origin of one. -/
theorem constructor?_eq_functionOrigin? (self : Path) (name : String) (member : Item) :
    member.constructor? name = (member.functionOrigin? self name).map Origin.constructor := by
  cases member with
  | marked attributes visibility inner =>
    cases inner with
    | function head generics params trailing output hasBody attributes body =>
      have hconstructs := @constructs_iff params output name
      show (if constructs params output name = true then _ else none) = _
      cases output with
      | none => simp [Item.functionOrigin?, hconstructs]
      | some type =>
        cases type with
        | path path =>
          simp only [Item.functionOrigin?, hconstructs, Option.some.injEq, TypeExpr.path.injEq,
            exists_eq_left']
          split <;> rfl
        | _ => simp [Item.functionOrigin?, hconstructs]
    | _ => rfl
  | _ => rfl

/-- The constructors in an implementation that is found by the name of the type. -/
theorem implConstructors_eq_origins {attributes inner : List Meta} {visibility : ItemVisibility}
    {isDefault isUnsafe negative : Bool} {generics : Generics} {asTrait : Option TypeExpr}
    {self : Path} {members : List Item} {name : String} (h : self.NamesItem name) :
    implConstructors asTrait members name
      = ((Item.marked attributes visibility
          (.impl isDefault isUnsafe generics negative asTrait (.path self) inner members)).origins
            name).map
            Origin.constructor := by
  cases asTrait with
  | none =>
    show members.filterMap (Item.constructor? name)
      = (if self.NamesItem name then members.filterMap (Item.functionOrigin? self name) else []).map
        Origin.constructor
    rw [if_pos h, List.map_filterMap]
    exact List.filterMap_congr fun member _ => constructor?_eq_functionOrigin? self name member
  | some type =>
    cases type with
    | path asTrait =>
      simp only [implConstructors, Item.origins, beq_iff_eq, itemName?_path_eq_some_iff,
        h, and_true]
      split <;> rfl
    | _ => rfl

/-- An implementation that is not found by the name of the type holds no constructor of it. -/
theorem origins_impl_of_not {attributes inner : List Meta} {visibility : ItemVisibility}
    {isDefault isUnsafe : Bool} {generics : Generics} {negative : Bool} {asTrait : Option TypeExpr}
    {self : TypeExpr} {members : List Item} {name : String} (h : self.itemName? ≠ some name) :
    (Item.marked attributes visibility
      (.impl isDefault isUnsafe generics negative asTrait self inner members)).origins name
        = [] := by
  unfold Item.origins
  split
  · next heq => cases heq
  · next heq =>
    cases heq
    rw [if_neg fun hboth => h (itemName?_path_eq_some_iff.2 hboth.2)]
  · next heq =>
    cases heq
    rw [if_neg fun hself => h (itemName?_path_eq_some_iff.2 hself)]
  · rfl

/-- An item by itself adds to the constructors of a type those that it holds. -/
theorem constructorsFor_ownFindings (markers : List String) (module path name : String)
    (item : Item) :
    constructorsFor path name (item.ownFindings markers module)
      = (if module = path then item.origins name else []).map Origin.constructor := by
  cases item with
  | marked attributes visibility inner =>
    cases inner with
    | struct declared generics style fields trailing =>
      show constructorsFor path name (structFindings markers module
        ⟨attributes, visibility, declared, generics.hasParams, .struct (style.fields fields)⟩) = _
      have hmarked : ∀ d, constructorsFor path name
          (if (derivedNames attributes).any markers.contains then [.marked module d] else [])
            = [] := by
        intro d
        split <;> rfl
      simp only [structFindings, constructorsFor_append, hmarked, List.append_nil,
        derivedNames_contains_iff, Item.origins]
      by_cases hdefault : Derives attributes "Default"
      · simp only [hdefault, if_true, and_true, constructorsFor_singleton]
        by_cases hpath : module = path <;> by_cases hname : declared = name
          <;> simp [hpath, hname, Origin.constructor]
      · simp [hdefault, constructorsFor]
    | impl isDefault isUnsafe generics negative asTrait self inner members =>
      rw [ownFindings_impl]
      by_cases hname : self.itemName? = some name
      · obtain ⟨p, rfl⟩ : ∃ p, self = .path p := by
          cases self with
          | path p => exact ⟨p, rfl⟩
          | _ => cases hname
        simp only [hname, Option.map_some, Option.toList_some, constructorsFor_singleton, and_true]
        rw [implConstructors_eq_origins (itemName?_path_eq_some_iff.1 hname)]
        split <;> rfl
      · rw [origins_impl_of_not hname, ite_self, List.map_nil]
        cases hnamed : self.itemName? with
        | none => rfl
        | some named =>
          rw [hnamed] at hname
          rw [Option.map_some, Option.toList_some, constructorsFor_singleton,
            if_neg fun hboth => hname (congrArg some hboth.2)]
    | _ => simp [Item.ownFindings, Item.findings, Item.origins, constructorsFor]
  | _ => simp [Item.ownFindings, Item.findings, Item.origins, constructorsFor]

/-- **The account of constructors** holds those of a type by what they come from, in source
order. -/
theorem constructorsFor_itemsFindings (markers : List String) (module : String) (items : List Item)
    (path name : String) :
    constructorsFor path name (itemsFindings markers module items)
      = (originsIn module items path name).map Origin.constructor := by
  rw [itemsFindings_eq_placed, originsIn, List.map_flatMap]
  unfold constructorsFor
  rw [List.flatMap_assoc]
  exact congrArg (fun f => List.flatMap f _)
    (funext fun p => constructorsFor_ownFindings markers (p.path module) path name p.item)

end FluentBuilder
