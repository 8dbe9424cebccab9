import FluentBuilder.Proofs.ScannedItems

/-!
# Constructors that can be called

A builder calls a constructor that takes no parameters.  A scan tells such constructors from the
form of the items alone, and by the last name of each path, so it also lists some that a builder
cannot call.  This file says which.

* `Scope` — what the paths in a module stand for;
* `Origin.Callable` — the origins from which a builder gets a value of the type by a call without
  arguments;
* `Item.Misleads` — the items with an origin that only looks like one of these, form by form;
* `constructors_callable_iff` — the listed constructors without parameters can be called exactly
  when no item of the module misleads the scan;
* `suspended_constructor` — an asynchronous function that is listed.
-/

namespace FluentBuilder

open FluentBuilder.Code

/-- What paths stand for where a type is declared. -/
structure Scope where
  /-- Whether a path stands for the type itself. -/
  isType : Path → Prop
  /-- Whether a path stands for the default: its trait, or what derives it. -/
  isDefault : Path → Prop

/-- Whether a call without arguments gets a value of the type from an origin.  The default has to be
the one that everyone knows, and implemented for the type.  A function has to be one that can simply
be called, in an implementation of the type, and its result the type itself. -/
def Origin.Callable (scope : Scope) : Origin → Prop
  | .derived attributes =>
    ∃ p ∈ derivedPaths attributes, p.lastName? = some "Default" ∧ scope.isDefault p
  | .implemented negative asTrait self =>
    negative = false ∧ scope.isDefault asTrait ∧ scope.isType self
  | .function self _ head params output =>
    head.isAsync = false ∧ head.isUnsafe = false ∧ (∀ p ∈ params, p.isVariadic = false)
      ∧ scope.isType self
      ∧ (output.ident? = some "Self" ∨ scope.isType output)

instance (scope : Scope) [DecidablePred scope.isType] [DecidablePred scope.isDefault] (o : Origin) :
    Decidable (o.Callable scope) := by
  cases o <;> unfold Origin.Callable <;> infer_instance

/-- The items that a scan takes for a constructor without parameters, of the type with the given
name, although a builder cannot call it. -/
inductive Code.Item.Misleads (scope : Scope) (name : String) : Item → Prop where
  /-- A struct derives something else whose name is that of the default. -/
  | derived {attributes : List Meta} {visibility : ItemVisibility} {generics : Generics}
    {style : FieldStyle}
      {fields : List Item} {trailing : Bool} :
    Derives attributes "Default" →
    (∀ p ∈ derivedPaths attributes, p.lastName? = some "Default" → ¬ scope.isDefault p) →
    Misleads scope name
      (.marked attributes visibility (.struct name generics style fields trailing))
  /-- An implementation is negative, or one of another trait, or for another type of the same
  name. -/
  | implemented {attributes inner : List Meta} {visibility : ItemVisibility}
    {isDefault isUnsafe negative : Bool}
      {generics : Generics} {asTrait self : Path} {members : List Item} :
    asTrait.NamesItem "Default" → self.NamesItem name →
    negative = true ∨ ¬ scope.isDefault asTrait ∨ ¬ scope.isType self →
    Misleads scope name (.marked attributes visibility
      (.impl isDefault isUnsafe generics negative (some (.path asTrait))
        (.path self) inner members))
  /-- A function cannot simply be called, or it belongs to another type of the same name, or it
  gives one. -/
  | function {attributes inner : List Meta} {visibility : ItemVisibility}
    {isDefault isUnsafe negative : Bool}
      {generics : Generics} {self : Path} {members : List Item}
        {memberAttributes bodyAttributes : List Meta}
      {memberVisibility : ItemVisibility} {head : FunctionHead} {memberGenerics : Generics}
        {params : List Pattern}
      {trailing hasBody : Bool} {output : Path} {body : List Statement} :
    self.NamesItem name →
    Item.marked memberAttributes memberVisibility
      (.function head memberGenerics params trailing (some (.path output)) hasBody bodyAttributes
        body) ∈ members →
    (∀ p ∈ params.head?, p.isReceiver = false) →
      (output.lastName? = some "Self" ∨ output.lastName? = some name) →
    params.filterMap Pattern.parameter? = [] →
    (head.isAsync = true ∨ head.isUnsafe = true ∨ (∃ p ∈ params, p.isVariadic = true)
      ∨ ¬ scope.isType self
      ∨ (output.ident? ≠ some "Self" ∧ ¬ scope.isType output)) →
    Misleads scope name (.marked attributes visibility
      (.impl isDefault isUnsafe generics negative none (.path self) inner members))

/-! ### Items and their origins -/

variable {scope : Scope} {name : String}

theorem functionOrigin?_eq_some_iff {self : Path} {member : Item} {o : Origin} :
    member.functionOrigin? self name = some o
      ↔ ∃ attributes visibility head generics params trailing output hasBody
      inner body, member = .marked attributes visibility
          (.function head generics params trailing (some (.path output)) hasBody inner body)
        ∧ (∀ p ∈ params.head?, p.isReceiver = false)
        ∧ (output.lastName? = some "Self" ∨ output.lastName? = some name)
        ∧ o = .function self visibility head params output := by
  constructor
  · intro h
    unfold Item.functionOrigin? at h
    split at h
    · rw [Option.ite_none_right_eq_some] at h
      obtain ⟨⟨hreceiver, hresult⟩, ho⟩ := h
      exact ⟨_, _, _, _, _, _, _, _, _, _, rfl, hreceiver, hresult, (Option.some.inj ho).symm⟩
    · cases h
  · rintro ⟨attributes, visibility, head, generics, params, trailing, output, hasBody, inner, body,
      rfl, hreceiver, hresult, rfl⟩
    exact if_pos ⟨hreceiver, hresult⟩

theorem not_callable_derived_iff {attributes : List Meta} :
    ¬ (Origin.derived attributes).Callable scope
    ↔ ∀ p ∈ derivedPaths attributes, p.lastName? = some "Default" → ¬ scope.isDefault p := by
  simp only [Origin.Callable, not_exists, not_and]

theorem not_callable_implemented_iff {negative : Bool} {asTrait self : Path} :
    ¬ (Origin.implemented negative asTrait self).Callable scope
      ↔ negative = true ∨ ¬ scope.isDefault asTrait ∨ ¬ scope.isType self := by
  simp only [Origin.Callable, not_and_or, Bool.not_eq_false]

theorem not_callable_function_iff {self output : Path} {visibility : ItemVisibility}
    {head : FunctionHead} {params : List Pattern} :
    ¬ (Origin.function self visibility head params output).Callable scope
      ↔ head.isAsync = true ∨ head.isUnsafe = true ∨ (∃ p ∈ params, p.isVariadic = true)
        ∨ ¬ scope.isType self
        ∨ (output.ident? ≠ some "Self" ∧ ¬ scope.isType output) := by
  simp only [Origin.Callable, not_and_or, not_or, not_forall, Bool.not_eq_false, exists_prop, ne_eq]

/-- **An item misleads a scan** exactly when an origin in it takes no parameters and cannot be
called. -/
theorem misleads_iff {item : Item} : item.Misleads scope name
    ↔ ∃ o ∈ item.origins name, o.constructor.params = [] ∧ ¬ o.Callable scope := by
  constructor
  · intro h
    cases h with
    | @derived attributes _ _ _ _ _ hderives hother =>
      exact ⟨.derived attributes, by simp [Item.origins,
        hderives], rfl, not_callable_derived_iff.2 hother⟩
    | @implemented _ _ _ _ _ negative _ asTrait self _ htrait hself hwrong =>
      exact ⟨.implemented negative asTrait self, by simp [Item.origins, htrait, hself], rfl,
        not_callable_implemented_iff.2 hwrong⟩
    | @function _ _ _ _ _ _ _ self _ _ _ visibility head _ params _ _ output _ hself hmember
      hreceiver hresult hparams
        hwrong =>
      refine ⟨.function self visibility head params output, ?_, hparams,
        not_callable_function_iff.2 hwrong⟩
      simp only [Item.origins, hself, if_true, List.mem_filterMap]
      exact ⟨_, hmember, functionOrigin?_eq_some_iff.2
        ⟨_, _, _, _, _, _, _, _, _, _, rfl, hreceiver, hresult, rfl⟩⟩
  · rintro ⟨o, ho, hparams, hnot⟩
    unfold Item.origins at ho
    split at ho
    · rw [List.mem_ite_nil_right, List.mem_singleton] at ho
      obtain ⟨⟨rfl, hderives⟩, rfl⟩ := ho
      exact .derived hderives (not_callable_derived_iff.1 hnot)
    · rw [List.mem_ite_nil_right, List.mem_singleton] at ho
      obtain ⟨⟨htrait, hself⟩, rfl⟩ := ho
      exact .implemented htrait hself (not_callable_implemented_iff.1 hnot)
    · rw [List.mem_ite_nil_right, List.mem_filterMap] at ho
      obtain ⟨hself, member, hmember, ho⟩ := ho
      obtain ⟨_, _, _, _, _, _, _, _, _, _, rfl, hreceiver, hresult, rfl⟩ :=
        functionOrigin?_eq_some_iff.1 ho
      exact .function hself hmember hreceiver hresult hparams (not_callable_function_iff.1 hnot)
    · cases ho

/-! ### Listed constructors -/

/-- **When the constructors that a scan lists can be called.**  For a marked struct whose attributes
leave its construction open, the listed constructors are those that come from the origins in its
module, in this order; and a builder can call each of them that has no parameters exactly when no
item of the module misleads the scan. -/
theorem constructors_callable_iff {markers : List String} {module file : String} {items : List Item}
    {types : List Discovered} {m : String × TypeDeclaration} (scope : Scope)
    (hdistinct : ((markedIn markers module items).map fun m => (m.1, m.2.name)).Nodup)
    (hscan : scanFileItems markers module file items = .ok types)
    (hm : m ∈ markedIn markers module items) (hopen : ¬ CarriesConstruction m.2.attributes) :
    (∃ d ∈ types, d.type.name = ⟨m.1, m.2.name⟩
        ∧ d.type.constructors = (originsIn module items m.1 m.2.name).map Origin.constructor)
      ∧ ((∀ o ∈ originsIn module items m.1 m.2.name, o.constructor.params = [] → o.Callable scope)
        ↔ ∀ p ∈ itemsPlaced items, p.path module = m.1 → ¬ p.item.Misleads scope m.2.name) := by
  constructor
  · have hall := (scanFileItems_spec file hdistinct).2.2 types hscan
    obtain ⟨d, hd, hfrom⟩ := exists_of_mem_right
      (show List.Forall₂ (fun d m => ScannedFrom module file items m d) types
        (markedIn markers module items) from
        hall.flip) hm
    exact ⟨d, hd, hfrom.name, hfrom.constructors hopen⟩
  · simp only [misleads_iff, not_exists, not_and, not_not, mem_originsIn_iff]
    constructor
    · exact fun h p hp hpath o ho => h o ⟨p, hp, hpath, ho⟩
    · rintro h o ⟨p, hp, hpath, ho⟩
      exact h p hp hpath o ho

/-- The text of a file with a struct and an implementation of it that has the given member. -/
def memberText (member : String) : String :=
  "#[derive(AutoBuilder)]\npub struct Job;\nimpl Job \x7b\n    " ++ member ++ "\n\x7d\n"

/-- Paths as they are understood where nothing is imported under the names of the type and of the
default. -/
def plainScope : Scope where
  isType p := p.ident? = some "Job"
  isDefault p := p.ident? = some "Default"

instance : DecidablePred plainScope.isType :=
  fun p => inferInstanceAs (Decidable (p.ident? = some "Job"))

instance : DecidablePred plainScope.isDefault :=
  fun p => inferInstanceAs (Decidable (p.ident? = some "Default"))

/-- A plain function without parameters can be called, as no item misleads the scan. -/
theorem constructors_callable_iff_plain : ∃ items types m,
    sourceItems? (memberText "pub fn new() -> Self \x7b Job \x7d") = some items
      ∧ ((markedIn ["AutoBuilder"] "crate" items).map fun m => (m.1, m.2.name)).Nodup
      ∧ scanFileItems ["AutoBuilder"] "crate" "lib.rs" items = .ok types
      ∧ m ∈ markedIn ["AutoBuilder"] "crate" items ∧ ¬ CarriesConstruction m.2.attributes
      ∧ (∃ d ∈ types, d.type.name = ⟨m.1, m.2.name⟩
        ∧ d.type.constructors = (originsIn "crate" items m.1 m.2.name).map Origin.constructor)
      ∧ originsIn "crate" items m.1 m.2.name ≠ []
      ∧ ∀ p ∈ itemsPlaced items, p.path "crate" = m.1 → ¬ p.item.Misleads plainScope m.2.name := by
  have hrun : (sourceItems? (memberText "pub fn new() -> Self \x7b Job \x7d")).any (fun items =>
      (scanFileItems ["AutoBuilder"] "crate" "lib.rs" items).toOption.any fun types =>
        decide ((markedIn ["AutoBuilder"] "crate" items).map fun m => (m.1, m.2.name)).Nodup
          && (markedIn ["AutoBuilder"] "crate" items).any fun m =>
            decide (¬ CarriesConstruction m.2.attributes)
            && decide (originsIn "crate" items m.1 m.2.name ≠ [])
            && decide (∀ o ∈ originsIn "crate" items m.1 m.2.name, o.Callable plainScope))
              = true := by
    decide +kernel
  obtain ⟨items, types, hitems, htypes, hp⟩ := exists_scan_of_any hrun
  simp only [Bool.and_eq_true, decide_eq_true_eq, List.any_eq_true] at hp
  obtain ⟨hdistinct, m, hm, ⟨hopen, hsome⟩, hcallable⟩ := hp
  obtain ⟨hlisted, hiff⟩ := constructors_callable_iff plainScope hdistinct htypes hm hopen
  exact ⟨items, types, m, hitems, hdistinct, htypes, hm, hopen, hlisted, hsome,
    hiff.1 fun o ho _ => hcallable o ho⟩

/-- Paths that may stand for anything. -/
def openScope : Scope where
  isType _ := True
  isDefault _ := True

instance : DecidablePred openScope.isType := fun _ => inferInstanceAs (Decidable True)

instance : DecidablePred openScope.isDefault := fun _ => inferInstanceAs (Decidable True)

/-- What can be called can be called wherever paths may stand for more. -/
theorem Origin.Callable.open {o : Origin} (h : o.Callable scope) : o.Callable openScope := by
  cases o with
  | derived attributes =>
    obtain ⟨p, hp, hlast, -⟩ := h
    exact ⟨p, hp, hlast, trivial⟩
  | implemented negative asTrait self => exact ⟨h.1, trivial, trivial⟩
  | function self visibility head params output =>
    obtain ⟨hasync, hunsafe, hvariadic, -, -⟩ := h
    exact ⟨hasync, hunsafe, hvariadic, trivial, .inr trivial⟩

/-- **An asynchronous function is listed** as a constructor without parameters, although a call of
it gives no value of the type, whatever the paths stand for. -/
theorem suspended_constructor : ∃ items types,
    sourceItems? (memberText "pub async fn new() -> Self \x7b Job \x7d") = some items
      ∧ scanFileItems ["AutoBuilder"] "crate" "lib.rs" items = .ok types
      ∧ types.map (fun d => (d.type.name, d.type.constructors)) =
        [(⟨"crate", "Job"⟩, [{ name := some "new", visibility := .pub }])]
      ∧ (originsIn "crate" items "crate" "Job").map Origin.constructor
        = [{ name := some "new", visibility := .pub }]
      ∧ ∀ o ∈ originsIn "crate" items "crate" "Job", ∀ scope, ¬ o.Callable scope := by
  have hrun : (sourceItems? (memberText "pub async fn new() -> Self \x7b Job \x7d")).any
    (fun items =>
      (scanFileItems ["AutoBuilder"] "crate" "lib.rs" items).toOption.any fun types =>
        types.map (fun d => (d.type.name, d.type.constructors)) ==
            [(⟨"crate", "Job"⟩, [{ name := some "new", visibility := .pub }])]
          && (originsIn "crate" items "crate" "Job").map Origin.constructor ==
            [{ name := some "new", visibility := .pub }]
          && decide (∀ o ∈ originsIn "crate" items "crate" "Job", ¬ o.Callable openScope))
            = true := by
    decide +kernel
  obtain ⟨items, types, hitems, htypes, hp⟩ := exists_scan_of_any hrun
  simp only [Bool.and_eq_true, beq_iff_eq, decide_eq_true_eq] at hp
  obtain ⟨⟨hlisted, horigins⟩, hnot⟩ := hp
  exact ⟨items, types, hitems, htypes, hlisted, horigins, fun o ho scope hcallable =>
    hnot o ho hcallable.open⟩

end FluentBuilder
