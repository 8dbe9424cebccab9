import FluentBuilder.Proofs.Code.AttributeReading
import FluentBuilder.Proofs.Code.SpelledName
import FluentBuilder.Proofs.Demands
import FluentBuilder.Proofs.Descriptions

/-!
# Which structs are described

A description asks about the parameters of a declaration, its data, the attributes of the type and
of each field, and the names of the fields.  This file says without its programs which declarations
are described, what the descriptor is, and which failure the others meet.

* `Describable` — the declarations that are described, by the tokens in their attributes;
* `TypeDeclaration.descriptor` — what they are described as;
* `TypeDeclaration.demands` — what is asked about a declaration, in order;
* `describe_spec` — a description gives the descriptor, or fails as the first demand says that is
  not met.
-/

namespace FluentBuilder

open FluentBuilder.Code

/-! ### Entries -/

/-- Whether an attribute is meant for the builder: its path is the one word `builder`. -/
def Code.Meta.isForBuilder : Meta → Bool
  | .bare path | .list path _ | .assigned path _ => path = ⟨false, ["builder"]⟩

/-- The entries of an attribute, none if it does not hold a list of them. -/
def entriesOf : Meta → List Meta
  | .list _ arguments => (Meta.readList? arguments.inner).getD []
  | _ => []

/-- Whether an attribute holds a list of entries. -/
def Code.Meta.HoldsEntries (a : Meta) : Prop :=
  ∃ path arguments entries, a = .list path arguments ∧ Meta.readList? arguments.inner = some entries

/-- The entries that the attributes for the builder list, in order. -/
def listedEntries (attributes : List Meta) : List Meta :=
  (attributes.filter Meta.isForBuilder).flatMap entriesOf

/-- The string that an expression is the literal of. -/
def Code.Expr.string? : Expr → Option String
  | .literal text => stringValue? text
  | _ => none

/-- The function that an entry names as constructor. -/
def Code.Meta.constructorName? : Meta → Option String
  | .assigned path value => if path = ⟨false, ["constructor"]⟩ then value.string? else none
  | _ => none

/-- Whether an entry is the given word by itself. -/
def Code.Meta.isWord (name : String) : Meta → Bool
  | .bare path => path = ⟨false, [name]⟩
  | _ => false

/-! ### Visibilities -/

/-- The visibility in a descriptor for the one that is written: `pub` is public, nothing and
`pub(self)` are private, with or without the word `in`, and what is left stays inside the
package. -/
def Code.ItemVisibility.mapped (v : ItemVisibility) : Visibility :=
  if v = .everywhere then .pub
  else if v = .inherited ∨ ∃ isIn, v = .restricted isIn ⟨false, ["self"]⟩ then .priv
  else .package

/-! ### Declarations that are described -/

/-- Whether an attribute has a list of entries of a kind, with commas between them. -/
def Code.Meta.Lists (tokens : Tokens → Prop) (a : Meta) : Prop :=
  ∃ path arguments, a = .list path arguments ∧ CommaTrees tokens arguments.inner

/-- The tokens of an entry that may stand in an attribute of a type. -/
def IsTypeEntry (here : Tokens) : Prop :=
  here = [word "default"] ∨ ∃ value, AssignsString "constructor" value here ∧ ∃ name,
    SpellsIdentifier value name

/-- The tokens of an entry that may stand in an attribute of a field. -/
def IsFieldEntry (here : Tokens) : Prop :=
  here = [word "ignore"]

/-- The fields of a declaration, if they are named. -/
def Code.DeclaredData.fields : DeclaredData → List FieldItem
  | .struct (.named fields) => fields
  | _ => []

/-- The name of a field in a descriptor. -/
def Code.FieldItem.nameText (field : FieldItem) : String :=
  field.name.getD ""

/-- Whether attributes list the default as well as a constructor. -/
def ListsBoth (attributes : List Meta) : Prop :=
  (∃ m ∈ listedEntries attributes, m.constructorName?.isSome = true)
    ∧ ∃ m ∈ listedEntries attributes, m.isWord "default" = true

/-- The declarations that are described. -/
structure Describable (input : TypeDeclaration) : Prop where
  plain : input.generic = false
  /-- The declaration is a struct without fields in parentheses. -/
  struct : input.data = .struct .unit ∨ input.data = .struct (.named input.data.fields)
  /-- The attributes of the type list nothing but the default, and constructors whose names are
  identifiers. -/
  entries : ∀ a ∈ input.attributes, a.isForBuilder = true → a.Lists IsTypeEntry
  /-- They do not list both. -/
  agree : ¬ ListsBoth input.attributes
  /-- The fields have names, as they do in every declaration that is read off a text. -/
  named : ∀ field ∈ input.data.fields, field.name.isSome = true
  /-- The attributes of the fields list nothing but that the field is ignored. -/
  ignored : ∀ field ∈ input.data.fields, ∀ a ∈ field.attributes, a.isForBuilder = true →
    a.Lists IsFieldEntry
  distinct : (input.data.fields.map FieldItem.nameText).Nodup

/-- The descriptor of a field: it is excluded if an attribute says that it is ignored. -/
def Code.FieldItem.descriptor (field : FieldItem) : Field :=
  { name := field.nameText, type := field.type.text, isStatic := false, isFinal := false,
    visibility := field.visibility.mapped,
    excluded := (listedEntries field.attributes).any (Meta.isWord "ignore") }

/-- The constructors of a type: the last function that its attributes name, else the default if they
ask for it, else those that were found, else the default. -/
def statedConstructors (attributes : List Meta) (found : Option (List Constructor)) :
    List Constructor :=
  let ofDefault : Constructor := { name := none, params := [], visibility := .pub }
  match ((listedEntries attributes).filterMap Meta.constructorName?).getLast? with
  | some name => [{ name := some name, params := [], visibility := .package }]
  | none =>
    if (listedEntries attributes).any (Meta.isWord "default") then [ofDefault]
    else found.getD [ofDefault]

/-- The descriptor of a declaration. -/
def Code.TypeDeclaration.descriptor (input : TypeDeclaration) (package : String)
    (found : Option (List Constructor)) :
    TypeDescriptor :=
  { name := ⟨package, input.name⟩, visibility := input.visibility.mapped, isAbstract := false,
    fields := input.data.fields.map FieldItem.descriptor, constructors :=
      statedConstructors input.attributes found }

/-! ### What is asked -/

/-- What is asked about an entry of a type's attribute. -/
def typeEntryDemands : Meta → List (Demand DescribeError)
  | .bare path => [⟨path = ⟨false, ["default"]⟩, .unknownTypeAttribute⟩]
  | .list _ _ => [⟨False, .unknownTypeAttribute⟩]
  | .assigned path value =>
    [⟨path = ⟨false, ["constructor"]⟩, .unknownTypeAttribute⟩,
      ⟨value.string?.isSome = true, .constructorNotText⟩,
      ⟨∃ name, SpellsIdentifier (value.string?.getD "") name,
        .invalidFunctionName (value.string?.getD "")⟩]

/-- What is asked about an entry of a field's attribute. -/
def fieldEntryDemands (entry : Meta) : List (Demand DescribeError) :=
  [⟨entry.isWord "ignore" = true, .unknownFieldAttribute⟩]

/-- What is asked about attributes: each one for the builder has a list of entries, and then each
entry in turn. -/
def attributeDemands (entryDemands : Meta → List (Demand DescribeError)) (attributes : List Meta) :
    List (Demand DescribeError) :=
  (attributes.filter Meta.isForBuilder).flatMap fun a =>
    ⟨a.HoldsEntries, .malformedAttribute⟩ :: (entriesOf a).flatMap entryDemands

/-- What is asked about a field. -/
def Code.FieldItem.demands (field : FieldItem) : List (Demand DescribeError) :=
  ⟨field.name.isSome = true, .unnamedField⟩ :: attributeDemands fieldEntryDemands field.attributes

/-- What is asked about names: none of them is among those in front of it. -/
def distinctDemands (seen : List String) : List String → List (Demand DescribeError)
  | [] => []
  | name :: rest => ⟨name ∉ seen, .repeatedField name⟩ :: distinctDemands (name :: seen) rest

/-- What is asked about data: it is a struct, and its fields do not stand in parentheses. -/
def Code.DeclaredData.demands (name : String) (data : DeclaredData) : List (Demand DescribeError) :=
  [⟨∃ fields, data = .struct fields, .notStruct⟩,
    ⟨∀ fields, data ≠ .struct (.unnamed fields), .notNamed name⟩]

/-- What is asked about the attributes of a type. -/
def typeDemands (attributes : List Meta) : List (Demand DescribeError) :=
  attributeDemands typeEntryDemands attributes
    ++ [⟨¬ ListsBoth attributes, .conflictingConstructors⟩]

/-- What is asked about a declaration: its parameters, its data, its attributes, each field, and the
names. -/
def Code.TypeDeclaration.demands (input : TypeDeclaration) : List (Demand DescribeError) :=
  ⟨input.generic = false, .generic input.name⟩ :: (input.data.demands input.name
    ++ (typeDemands input.attributes
    ++ (input.data.fields.flatMap FieldItem.demands
      ++ distinctDemands [] (input.data.fields.map FieldItem.nameText))))

/-! ### What the program reads -/

theorem isIdent_iff {path : ModulePath} {name : String} :
    path.isIdent name = true ↔ path = ⟨false, [name]⟩ := by
  obtain ⟨leading, names⟩ := path
  simp [ModulePath.isIdent]

/-- The attributes that are read are those meant for the builder. -/
theorem builderAttributes_eq_filter (attributes : List Meta) :
    builderAttributes attributes = attributes.filter Meta.isForBuilder := by
  refine List.filter_congr fun a _ => ?_
  cases a <;> exact Bool.eq_iff_iff.2 (isIdent_iff.trans decide_eq_true_iff.symm)

theorem described_eq_mapped (v : ItemVisibility) : v.described = v.mapped := by
  cases v with
  | inherited => rfl
  | everywhere => rfl
  | restricted isIn path =>
    by_cases hself : path = ⟨false, ["self"]⟩ <;>
      simp [ItemVisibility.described, ItemVisibility.mapped, isIdent_iff, hself]

/-! ### Asking -/

theorem builderEntries_eq_ok_iff {a : Meta} {entries : List Meta} : builderEntries a = .ok entries
    ↔ ∃ path arguments, a = .list path arguments
      ∧ Meta.readList? arguments.inner = some entries := by
  constructor
  · intro h
    unfold builderEntries at h
    split at h
    · next path arguments =>
      split at h
      · next hlist =>
        cases h
        exact ⟨path, arguments, rfl, hlist⟩
      · cases h
    · cases h
  · rintro ⟨path, arguments, rfl, hlist⟩
    unfold builderEntries
    dsimp only
    rw [hlist]

theorem eq_entriesOf {a : Meta} {entries : List Meta} (h : builderEntries a = .ok entries) :
    entriesOf a = entries := by
  obtain ⟨path, arguments, rfl, hlist⟩ := builderEntries_eq_ok_iff.1 h
  unfold entriesOf
  dsimp only
  rw [hlist, Option.getD_some]

theorem makes_builderEntries (a : Meta) :
    Makes [⟨a.HoldsEntries, .malformedAttribute⟩] (builderEntries a) := by
  refine makes_singleton ?_ fun e he => ?_
  · constructor
    · rintro ⟨entries, h⟩
      obtain ⟨path, arguments, ha, hlist⟩ := builderEntries_eq_ok_iff.1 h
      exact ⟨path, arguments, entries, ha, hlist⟩
    · rintro ⟨path, arguments, entries, h⟩
      exact ⟨entries, builderEntries_eq_ok_iff.2 ⟨path, arguments, h⟩⟩
  · unfold builderEntries at he
    split at he
    · split at he
      · cases he
      · cases he
        rfl
    · cases he
      rfl

/-- The entries of an attribute are asked about once they are known. -/
theorem makes_entries {α : Type} {entryDemands : Meta → List (Demand DescribeError)} {a : Meta}
    {step : List Meta → Except DescribeError α}
    (h : ∀ entries, Makes (entries.flatMap entryDemands) (step entries)) :
    Makes (⟨a.HoldsEntries, .malformedAttribute⟩ :: (entriesOf a).flatMap entryDemands)
      (builderEntries a >>= step) := by
  refine (makes_builderEntries a).bind fun entries hentries => ?_
  rw [eq_entriesOf hentries]
  exact h entries

theorem read_bare (said : TypeAttributes) (path : ModulePath) :
    said.read (.bare path)
      = if path.isIdent "default" then .ok { said with default := true }
        else .error .unknownTypeAttribute :=
  rfl

theorem read_assigned (said : TypeAttributes) (path : ModulePath) (value : Expr) :
    said.read (.assigned path value) = if path.isIdent "constructor" then
        match value.string? with
        | some name =>
          if (Identifier.read? name).isSome then .ok { said with constructor := some name }
          else .error (.invalidFunctionName name)
        | none => .error .constructorNotText
      else .error .unknownTypeAttribute := by
  cases value <;> rfl

theorem makes_read (said : TypeAttributes) (entry : Meta) :
    Makes (typeEntryDemands entry) (said.read entry) := by
  cases entry with
  | bare path => exact makes_check isIdent_iff fun _ => .done _
  | list path arguments => exact .error (.here [] id)
  | assigned path value =>
    rw [read_assigned]
    refine makes_check isIdent_iff fun _ => ?_
    cases value.string? with
    | none => exact .error (.here _ Bool.false_ne_true)
    | some name =>
      have hname : (Identifier.read? name).isSome = true ↔ ∃ word, SpellsIdentifier name word :=
        Option.isSome_iff_exists.trans exists_identifier_iff
      exact (makes_check hname fun _ => .done _).cons rfl

theorem makes_checkFieldEntry (entry : Meta) :
    Makes (fieldEntryDemands entry) (checkFieldEntry entry) := by
  cases entry with
  | bare path => exact makes_check (isIdent_iff.trans decide_eq_true_iff.symm) fun _ => .done ()
  | list path arguments => exact .error (.here [] Bool.false_ne_true)
  | assigned path value => exact .error (.here [] Bool.false_ne_true)

theorem makes_ignoresField (attributes : List Meta) :
    Makes (attributeDemands fieldEntryDemands attributes) (ignoresField attributes) := by
  unfold ignoresField
  rw [builderAttributes_eq_filter]
  exact .foldlM (fun _ _ _ => makes_entries fun _ =>
    (Makes.mapM fun entry _ => makes_checkFieldEntry entry).map) false

theorem makes_describeField (field : FieldItem) : Makes field.demands field.describe := by
  unfold FieldItem.demands FieldItem.describe
  cases field.name with
  | none => exact .error (.here _ Bool.false_ne_true)
  | some name =>
    exact (makes_ignoresField field.attributes).map.cons rfl

theorem makes_describable (name : String) (data : DeclaredData) :
    Makes (data.demands name) (data.describable name) := by
  cases data with
  | enum => exact .error (.here _ nofun)
  | union => exact .error (.here _ nofun)
  | struct fields =>
    refine Makes.cons ⟨fields, rfl⟩ ?_
    cases fields with
    | named items => exact (Makes.done items).cons nofun
    | unit => exact (Makes.done []).cons nofun
    | unnamed items => exact .error (.here [] fun hmet => hmet items rfl)

theorem makes_distinct {α : Type} (a : α) (seen names : List String) :
    Makes (distinctDemands seen names) (match firstRepeated? seen names with
      | some name => Except.error (DescribeError.repeatedField name)
      | none => .ok a) := by
  induction names generalizing seen with
  | nil => exact .done a
  | cons name rest ih =>
    unfold distinctDemands firstRepeated?
    by_cases hname : seen.contains name = true
    · rw [if_pos hname]
      exact .error (.here _ fun hmet => hmet (List.contains_iff_mem.1 hname))
    · rw [if_neg hname]
      exact (ih (name :: seen)).cons fun hmem => hname (List.contains_iff_mem.2 hmem)

/-! ### What the attributes of a type say -/

/-- What is said once one more entry is added. -/
def TypeAttributes.add (said : TypeAttributes) (entry : Meta) : TypeAttributes :=
  { constructor := entry.constructorName?.or said.constructor, default :=
    entry.isWord "default" || said.default }

theorem eq_add_of_read {said after : TypeAttributes} {entry : Meta}
    (h : said.read entry = .ok after) :
    after = said.add entry := by
  cases entry with
  | list path arguments => cases h
  | bare path =>
    rw [read_bare] at h
    split at h
    · next hpath =>
      cases h
      simp [TypeAttributes.add, Meta.constructorName?, Meta.isWord, isIdent_iff.1 hpath]
    · cases h
  | assigned path value =>
    rw [read_assigned] at h
    split at h
    · next hpath =>
      split at h
      · next name hname =>
        split at h
        · cases h
          simp [TypeAttributes.add, Meta.constructorName?, Meta.isWord, isIdent_iff.1 hpath, hname]
        · cases h
      · cases h
    · cases h

/-- What is said in the end: the function that was named last, and whether the default was asked
for. -/
theorem foldl_add (entries : List Meta) (said : TypeAttributes) :
    entries.foldl TypeAttributes.add said
      = { constructor := (entries.filterMap Meta.constructorName?).getLast?.or said.constructor,
          default := entries.any (Meta.isWord "default") || said.default } := by
  induction entries generalizing said with
  | nil => rfl
  | cons entry rest ih =>
    rw [List.foldl_cons, ih, TypeAttributes.add, List.any_cons]
    refine TypeAttributes.mk.injEq .. ▸ ⟨?_, ?_⟩
    · cases hname : entry.constructorName? with
      | none => rw [List.filterMap_cons_none hname, Option.none_or]
      | some name =>
        rw [List.filterMap_cons_some hname, List.getLast?_cons]
        cases (rest.filterMap Meta.constructorName?).getLast? <;> rfl
    · rw [Bool.or_left_comm, Bool.or_assoc]

theorem isSome_last_iff {entries : List Meta} :
    (entries.filterMap Meta.constructorName?).getLast?.isSome = true
      ↔ ∃ m ∈ entries, m.constructorName?.isSome = true := by
  rw [Option.isSome_iff_ne_none, Ne, List.getLast?_eq_none_iff, List.filterMap_eq_nil_iff]
  simp [Option.isSome_iff_ne_none]

/-- **What the attributes of a type say**, from the entries that they list. -/
theorem typeAttributes_eq {attributes : List Meta} {said : TypeAttributes}
    (h : (builderAttributes attributes).foldlM (fun said a => do
      (← builderEntries a).foldlM TypeAttributes.read said) {} = .ok said) :
    said = { constructor := ((listedEntries attributes).filterMap Meta.constructorName?).getLast?,
             default := (listedEntries attributes).any (Meta.isWord "default") } := by
  have hstep : ∀ said a after, (do (← builderEntries a).foldlM TypeAttributes.read said)
    = .ok after →
      after = (entriesOf a).foldl TypeAttributes.add said := by
    intro said a after hstep
    obtain ⟨entries, hentries, hstep⟩ := bind_eq_ok_iff.1 hstep
    rw [eq_entriesOf hentries]
    exact foldlM_ok_eq_foldl (fun _ _ _ => eq_add_of_read) hstep
  have hlisted : (builderAttributes attributes).flatMap entriesOf = listedEntries attributes := by
    rw [builderAttributes_eq_filter]
    rfl
  rw [foldlM_ok_eq_foldl hstep h, ← List.foldl_flatMap, hlisted, foldl_add, Option.or_none,
    Bool.or_false]

theorem makes_typeAttributes (attributes : List Meta) :
    Makes (typeDemands attributes) (typeAttributes attributes) := by
  refine Makes.bind ?_ fun said hsaid => ?_
  · rw [builderAttributes_eq_filter]
    exact .foldlM (fun _ _ said => makes_entries fun _ =>
      .foldlM (fun entry _ said => makes_read said entry) said) {}
  · refine makes_check_not ?_ fun _ => .done said
    rw [typeAttributes_eq hsaid, Bool.and_eq_true, isSome_last_iff, List.any_eq_true]
    rfl

/-! ### What the attributes of a field say -/

theorem foldl_or {α : Type} (p : α → Bool) (xs : List α) (b : Bool) :
    xs.foldl (fun b x => b || p x) b = (b || xs.any p) := by
  induction xs generalizing b with
  | nil => exact (Bool.or_false b).symm
  | cons x rest ih => rw [List.foldl_cons, ih, List.any_cons, Bool.or_assoc]

theorem any_of_checked {entries : List Meta} {units : List Unit}
    (h : entries.mapM checkFieldEntry = .ok units) :
    (!entries.isEmpty) = entries.any (Meta.isWord "ignore") := by
  cases entries with
  | nil => rfl
  | cons entry rest =>
    rw [List.mapM_cons] at h
    obtain ⟨u, hu, -⟩ := bind_eq_ok_iff.1 h
    have hword := (makes_checkFieldEntry entry).exists_eq_ok_iff.1 ⟨u, hu⟩ _ List.mem_cons_self
    rw [List.any_cons, show entry.isWord "ignore" = true from hword]
    rfl

/-- A field is ignored if an entry says so. -/
theorem eq_any_of_ignoresField {attributes : List Meta} {ignored : Bool}
    (h : ignoresField attributes = .ok ignored) :
    ignored = (listedEntries attributes).any (Meta.isWord "ignore") := by
  have hstep : ∀ ignored a after, (do
      let entries ← builderEntries a
      let _ ← entries.mapM checkFieldEntry
      return ignored || !entries.isEmpty) = .ok after →
        after = (ignored || (entriesOf a).any (Meta.isWord "ignore")) := by
    intro ignored a after hstep
    obtain ⟨entries, hentries, hstep⟩ := bind_eq_ok_iff.1 hstep
    obtain ⟨units, hunits, hstep⟩ := bind_eq_ok_iff.1 hstep
    cases hstep
    rw [eq_entriesOf hentries, any_of_checked hunits]
  rw [foldlM_ok_eq_foldl hstep h, builderAttributes_eq_filter, foldl_or, Bool.false_or,
    listedEntries, List.any_flatMap]

/-! ### Describing -/

theorem eq_fields_of_describable {name : String} {data : DeclaredData} {items : List FieldItem}
    (h : data.describable name = .ok items) : items = data.fields := by
  unfold DeclaredData.describable at h
  split at h <;> cases h <;> rfl

theorem eq_descriptor_of_describe {item : FieldItem} {field : Field}
    (h : item.describe = .ok field) :
    field = item.descriptor := by
  unfold FieldItem.describe at h
  split at h
  · next name hname =>
    obtain ⟨excluded, hexcluded, h⟩ := bind_eq_ok_iff.1 h
    cases h
    rw [eq_any_of_ignoresField hexcluded, described_eq_mapped]
    unfold FieldItem.descriptor FieldItem.nameText
    rw [hname]
    rfl
  · cases h

theorem makes_describe (input : TypeDeclaration) (package : String)
    (found : Option (List Constructor)) :
    Makes input.demands (describe input package found) := by
  refine makes_check_not (by rw [Bool.not_eq_true]) fun _ => ?_
  refine (makes_describable input.name input.data).bind fun items hitems => ?_
  refine (makes_typeAttributes input.attributes).bind fun said _ => ?_
  obtain rfl := eq_fields_of_describable hitems
  refine (Makes.mapM fun item _ => makes_describeField item).bind fun fields hfields => ?_
  have hnames : fields.map Field.name = input.data.fields.map FieldItem.nameText := by
    rw [mapM_ok_eq_map (fun _ _ => eq_descriptor_of_describe) hfields, List.map_map]
    rfl
  rw [← hnames]
  exact makes_distinct _ [] _

/-! ### What the demands come to -/

/-- The demands on attributes are met when they list tokens of which entries are read off that meet
theirs. -/
theorem attributeDemands_met_iff {tokens : Tokens → Prop}
    {entryDemands : Meta → List (Demand DescribeError)}
    (hread : ReadOff (fun m => ∀ d ∈ entryDemands m, d.Met) tokens) {attributes : List Meta} :
    (∀ d ∈ attributeDemands entryDemands attributes, d.Met)
      ↔ ∀ a ∈ attributes, a.isForBuilder = true → a.Lists tokens := by
  unfold attributeDemands
  simp only [List.forall_mem_flatMap, List.mem_filter, and_imp]
  refine forall₂_congr fun a _ => imp_congr_right fun _ => ?_
  rw [List.forall_mem_cons]
  constructor
  · rintro ⟨⟨path, arguments, entries, rfl, hlist⟩, hall⟩
    rw [eq_entriesOf (builderEntries_eq_ok_iff.2 ⟨path, arguments, rfl, hlist⟩),
      List.forall_mem_flatMap] at hall
    exact ⟨path, arguments, rfl, (readList?_iff hread).1 ⟨entries, hlist, hall⟩⟩
  · rintro ⟨path, arguments, rfl, htrees⟩
    obtain ⟨entries, hlist, hall⟩ := (readList?_iff hread).2 htrees
    refine ⟨⟨path, arguments, entries, rfl, hlist⟩, ?_⟩
    rw [eq_entriesOf (builderEntries_eq_ok_iff.2 ⟨path, arguments, rfl, hlist⟩),
      List.forall_mem_flatMap]
    exact hall

theorem readOff_typeEntry : ReadOff (fun m => ∀ d ∈ typeEntryDemands m, d.Met) IsTypeEntry := by
  refine ((readOff_word "default" (by decide) (by decide)).or (readOff_string "constructor"
    (fun value => ∃ name, SpellsIdentifier value name) (by decide) (by decide))).congr fun m => ?_
  cases m with
  | bare path => simp [typeEntryDemands]
  | list path arguments => simp [typeEntryDemands]
  | assigned path value =>
    cases value with
    | literal text =>
      cases hvalue : stringValue? text <;> simp [typeEntryDemands, Expr.string?, hvalue]
    | _ => simp [typeEntryDemands, Expr.string?]

theorem readOff_fieldEntry : ReadOff (fun m => ∀ d ∈ fieldEntryDemands m, d.Met) IsFieldEntry := by
  refine (readOff_word "ignore" (by decide) (by decide)).congr fun m => ?_
  cases m <;> simp [fieldEntryDemands, Meta.isWord]

theorem distinctDemands_met_iff {seen names : List String} :
    (∀ d ∈ distinctDemands seen names, d.Met) ↔ names.Nodup ∧ ∀ name ∈ names, name ∉ seen := by
  induction names generalizing seen with
  | nil => simp [distinctDemands]
  | cons name rest ih =>
    unfold distinctDemands
    rw [List.forall_mem_cons, ih, List.nodup_cons, List.forall_mem_cons]
    simp only [List.mem_cons, not_or]
    constructor
    · rintro ⟨hname, hnodup, hrest⟩
      exact ⟨⟨fun hmem => (hrest name hmem).1 rfl, hnodup⟩, hname,
        fun other hother => (hrest other hother).2⟩
    · rintro ⟨⟨hnew, hnodup⟩, hname, hrest⟩
      exact ⟨hname, hnodup,
        fun other hother => ⟨fun heq => hnew (heq ▸ hother), hrest other hother⟩⟩

theorem dataDemands_met_iff {name : String} {data : DeclaredData} :
    (∀ d ∈ data.demands name, d.Met) ↔ data = .struct .unit ∨ data = .struct
    (.named data.fields) := by
  unfold DeclaredData.demands
  rw [List.forall_mem_cons, List.forall_mem_singleton]
  cases data with
  | struct fields => cases fields <;> simp [DeclaredData.fields]
  | enum => simp
  | union => simp

/-- The declarations that are described are those that meet the demands. -/
theorem describable_iff {input : TypeDeclaration} :
    Describable input ↔ ∀ d ∈ input.demands, d.Met := by
  have hfields : (∀ d ∈ input.data.fields.flatMap FieldItem.demands, d.Met)
      ↔ (∀ field ∈ input.data.fields, field.name.isSome = true)
        ∧ ∀ field ∈ input.data.fields, ∀ a ∈ field.attributes, a.isForBuilder = true →
          a.Lists IsFieldEntry := by
    rw [List.forall_mem_flatMap, ← forall₂_and]
    refine forall₂_congr fun field _ => ?_
    unfold FieldItem.demands
    rw [List.forall_mem_cons, attributeDemands_met_iff readOff_fieldEntry]
  unfold TypeDeclaration.demands typeDemands
  rw [List.forall_mem_cons, List.forall_mem_append, List.forall_mem_append, List.forall_mem_append,
    List.forall_mem_append, List.forall_mem_singleton, dataDemands_met_iff,
    attributeDemands_met_iff readOff_typeEntry, hfields, distinctDemands_met_iff]
  constructor
  · rintro ⟨hplain, hstruct, hentries, hagree, hnamed, hignored, hdistinct⟩
    exact ⟨hplain, hstruct, ⟨hentries, hagree⟩, ⟨hnamed, hignored⟩, hdistinct,
      fun _ _ => List.not_mem_nil⟩
  · rintro ⟨hplain, hstruct, ⟨hentries, hagree⟩, ⟨hnamed, hignored⟩, hdistinct, -⟩
    exact ⟨hplain, hstruct, hentries, hagree, hnamed, hignored, hdistinct⟩

theorem constructors_eq_stated {attributes : List Meta} {said : TypeAttributes}
    (h : typeAttributes attributes = .ok said) (found : Option (List Constructor)) :
    said.constructors found = statedConstructors attributes found := by
  rw [typeAttributes_eq (foldlM_of_typeAttributes h)]
  rfl

/-- A struct with attributes of several kinds, an ignored field, and a field of every visibility. -/
def doorText : String :=
  "#[builder(constructor = \"new\")] #[doc = \"A door.\"] #[builder(constructor = \"open\",)] "
    ++ "pub(crate) struct Door \x7b pub wide: bool, #[builder()] pub(in self) hinge: u8, "
    ++ "#[builder()] #[builder(ignore, ignore)] key: Key, "
    ++ "#[ignore] pub(super) lock: Option<Lock> \x7d"

/-- What the struct is described as. -/
def doorDescriptor : TypeDescriptor where
  name := ⟨"crate::doors", "Door"⟩
  visibility := .package
  fields :=
    [{ name := "wide", type := "bool", visibility := .pub },
      { name := "hinge", type := "u8", visibility := .priv },
      { name := "key", type := "Key", visibility := .priv, excluded := true },
      { name := "lock", type := "Option < Lock >", visibility := .package }]
  constructors := [{ name := some "open", visibility := .package }]

/-- A struct with several defects: it asks for the default and names a constructor, an attribute of
a field has an unknown entry, and two fields have one name. -/
def gateText : String :=
  "#[builder(default)] #[builder(constructor = \"open\")] "
    ++ "struct Gate \x7b #[builder(hidden)] a: u8, a: u8 \x7d"

end FluentBuilder
