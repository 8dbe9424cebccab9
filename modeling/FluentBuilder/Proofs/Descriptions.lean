import FluentBuilder.Describe
import FluentBuilder.Proofs.Outcome

/-!
# What a description consists of

A declaration is described by its fields and by what its attributes say.  The constructors found
beside it count only when the attributes say nothing about construction.

* `describe_eq_ok_iff` — the descriptor of a declaration, from the answers to the questions that are
  asked about it;
* `ConstructionEntry`, `CarriesConstruction` — attributes that say how a value is constructed, as
  they are written;
* `TypeAttributes.Says`, `says_of_typeAttributes` — what is read from such attributes;
* `TypeAttributes.constructors_of_says` — then no constructor that was found is looked at.
-/

namespace FluentBuilder

open FluentBuilder.Code

/-! ### Descriptors -/

/-- A declaration is described exactly when it has no parameters, its data and attributes can be
read, and no field is repeated. -/
theorem describe_eq_ok_iff {input : TypeDeclaration} {package : String}
    {found : Option (List Constructor)} {t : TypeDescriptor} :
    describe input package found = .ok t ↔ input.generic = false ∧ ∃ items said fields,
      input.data.describable input.name = .ok items ∧ typeAttributes input.attributes = .ok said
        ∧ items.mapM Code.FieldItem.describe = .ok fields
        ∧ firstRepeated? [] (fields.map Field.name) = none
        ∧ t = { name := ⟨package, input.name⟩, visibility := input.visibility.described, fields,
                constructors := said.constructors found } := by
  unfold describe
  cases input.generic with
  | true => exact ⟨nofun, fun ⟨h, _⟩ => nomatch h⟩
  | false =>
    show _ >>= _ = _ ↔ _
    constructor
    · intro h
      obtain ⟨items, hitems, h⟩ := bind_eq_ok_iff.1 h
      obtain ⟨said, hsaid, h⟩ := bind_eq_ok_iff.1 h
      obtain ⟨fields, hfields, h⟩ := bind_eq_ok_iff.1 h
      split at h
      · cases h
      · next hnone =>
        cases h
        exact ⟨rfl, items, said, fields, hitems, hsaid, hfields, hnone, rfl⟩
    · rintro ⟨-, items, said, fields, hitems, hsaid, hfields, hnone, rfl⟩
      refine bind_eq_ok_iff.2
        ⟨items, hitems, bind_eq_ok_iff.2 ⟨said, hsaid, bind_eq_ok_iff.2 ⟨fields, hfields, ?_⟩⟩⟩
      rw [hnone]
      rfl

/-! ### Attributes that speak about construction -/

/-- An entry of an attribute that says how a value is constructed. -/
def ConstructionEntry : Meta → Prop
  | .assigned path _ => path.isIdent "constructor" = true
  | .bare path => path.isIdent "default" = true
  | .list _ _ => False

instance (entry : Meta) : Decidable (ConstructionEntry entry) := by
  cases entry <;> unfold ConstructionEntry <;> infer_instance

/-- Attributes one of which is for the builder and has an entry that says how a value is
constructed. -/
def CarriesConstruction (attributes : List Meta) : Prop :=
  ∃ a ∈ builderAttributes attributes, ∃ entries, builderEntries a = .ok entries
    ∧ ∃ entry ∈ entries, ConstructionEntry entry

instance (attributes : List Meta) : Decidable (CarriesConstruction attributes) :=
  decidable_of_iff ((builderAttributes attributes).any (fun a =>
      (builderEntries a).toOption.any fun entries => entries.any fun entry =>
        decide (ConstructionEntry entry)) = true) (by
    simp only [List.any_eq_true, Option.any_eq_true, decide_eq_true_eq, CarriesConstruction]
    refine exists_congr fun a => and_congr Iff.rfl
      (exists_congr fun entries => and_congr ?_ Iff.rfl)
    cases builderEntries a <;> simp [Except.toOption])

/-- What was read says how a value is constructed. -/
def TypeAttributes.Says (said : TypeAttributes) : Prop :=
  said.constructor.isSome = true ∨ said.default = true

/-- One more entry keeps what was said, and adds what it says. -/
theorem TypeAttributes.says_of_read {said after : TypeAttributes} {entry : Meta}
    (h : said.read entry = .ok after) :
    (said.Says → after.Says) ∧ (ConstructionEntry entry → after.Says) := by
  cases entry with
  | assigned path value =>
    simp only [TypeAttributes.read] at h
    split at h
    · split at h
      · split at h
        · cases h
          exact ⟨fun _ => .inl rfl, fun _ => .inl rfl⟩
        · cases h
      · cases h
    · cases h
  | bare path =>
    simp only [TypeAttributes.read] at h
    split at h
    · cases h
      exact ⟨fun _ => .inr rfl, fun _ => .inr rfl⟩
    · cases h
  | list path arguments => cases h

/-- What the attributes of a type say is what is read from them one after the other. -/
theorem foldlM_of_typeAttributes {attributes : List Meta} {said : TypeAttributes}
    (h : typeAttributes attributes = .ok said) :
    (builderAttributes attributes).foldlM (fun said a => do
      (← builderEntries a).foldlM TypeAttributes.read said) {} = .ok said := by
  unfold typeAttributes at h
  obtain ⟨read, hread, h⟩ := bind_eq_ok_iff.1 h
  split at h
  · cases h
  · cases h
    exact hread

/-- What the attributes of a type say about construction when one of them carries it. -/
theorem says_of_typeAttributes {attributes : List Meta} {said : TypeAttributes}
    (h : typeAttributes attributes = .ok said) (hcarries : CarriesConstruction attributes) :
    said.Says := by
  obtain ⟨a, ha, entries, hentries, entry, hentry, hconstruction⟩ := hcarries
  refine foldlM_ok_of_mem (P := TypeAttributes.Says) ?_ ha ?_ (foldlM_of_typeAttributes h)
  · intro before after a' hstep hsays
    obtain ⟨entries', -, hstep⟩ := bind_eq_ok_iff.1 hstep
    exact foldlM_ok_of (fun _ _ _ _ hone => (TypeAttributes.says_of_read hone).1) hstep hsays
  · intro before after hstep
    obtain ⟨entries', hentries', hstep⟩ := bind_eq_ok_iff.1 hstep
    rw [hentries] at hentries'
    cases hentries'
    exact foldlM_ok_of_mem (f := TypeAttributes.read)
      (fun _ _ _ hone => (TypeAttributes.says_of_read hone).1) hentry
      (fun _ _ hone => (TypeAttributes.says_of_read hone).2 hconstruction) hstep

/-- Whatever is read from an attribute says how a value is constructed. -/
theorem constructionEntry_of_read {said after : TypeAttributes} {entry : Meta}
    (h : said.read entry = .ok after) :
    ConstructionEntry entry := by
  cases entry with
  | assigned path value =>
    simp only [TypeAttributes.read] at h
    split at h
    · next hname => exact hname
    · cases h
  | bare path =>
    simp only [TypeAttributes.read] at h
    split at h
    · next hname => exact hname
    · cases h
  | list path arguments => cases h

/-- Attributes that do not speak about construction say nothing. -/
theorem eq_empty_of_typeAttributes {attributes : List Meta} {said : TypeAttributes}
    (h : typeAttributes attributes = .ok said) (hcarries : ¬ CarriesConstruction attributes) :
    said = {} := by
  refine foldlM_ok_of (P := (· = {})) (fun a ha before after hstep hbefore => ?_)
    (foldlM_of_typeAttributes h) rfl
  obtain ⟨entries, hentries, hstep⟩ := bind_eq_ok_iff.1 hstep
  refine foldlM_ok_of (f := TypeAttributes.read) (P := (· = {})) (fun entry hentry _ _ hone _ => ?_)
    hstep hbefore
  exact absurd ⟨a, ha, entries, hentries, entry, hentry, constructionEntry_of_read hone⟩ hcarries

/-- What was found beside a type does not matter once its attributes say how a value is
constructed. -/
theorem TypeAttributes.constructors_of_says {said : TypeAttributes} (h : said.Says)
    (found found' : Option (List Constructor)) :
    said.constructors found = said.constructors found' := by
  unfold TypeAttributes.constructors
  cases hname : said.constructor with
  | some name => rfl
  | none =>
    rcases h with h | h
    · rw [hname] at h
      cases h
    · simp only [h]
      rfl

end FluentBuilder
