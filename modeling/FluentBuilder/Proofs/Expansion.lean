import FluentBuilder.Expand
import FluentBuilder.Proofs.Descriptions
import FluentBuilder.Proofs.Synthesis

/-!
# Expansion and generation

A struct gets its builder in two ways: expansion makes it from the declaration alone, and generation
from the declaration, the module that it stands in and the constructors found beside it.  The module
is written nowhere in the code of a builder, so the two ways differ in the construction only.

* `SameBuilder` — two descriptors that differ in their packages and in constructors that are not
  called;
* `SameBuilder.code` — such types get builders with the same code;
* `expand_eq_ok_iff` — expansion as the three steps that generation takes;
* `expand_iff_generation` — the two ways end in the same code whenever they construct the value in
  the same way.
-/

namespace FluentBuilder

open FluentBuilder.Code

/-! ### Descriptors with the same builder -/

/-- The call that the builder of a type makes. -/
def TypeDescriptor.construction? (t : TypeDescriptor) : Option Construction :=
  t.accessibleConstructor?.map Constructor.construction

/-- Two descriptors that agree on all that is written into the code of a builder. -/
structure SameBuilder (t u : TypeDescriptor) : Prop where
  name : t.name.name = u.name.name
  visibility : t.visibility = u.visibility
  concrete : t.isAbstract = u.isAbstract
  fields : t.fields = u.fields
  construction : t.construction? = u.construction?

theorem SameBuilder.symm {t u : TypeDescriptor} (h : SameBuilder t u) : SameBuilder u t :=
  ⟨h.name.symm, h.visibility.symm, h.concrete.symm, h.fields.symm, h.construction.symm⟩

theorem TypeDescriptor.construction?_isSome_iff {t : TypeDescriptor} :
    t.construction?.isSome = true ↔ ∃ c ∈ t.constructors, c.Callable := by
  rw [TypeDescriptor.construction?, Option.isSome_map]
  cases hfound : t.accessibleConstructor? with
  | none =>
    refine ⟨nofun, fun ⟨c, hc, hcall⟩ => ?_⟩
    exact absurd hcall (TypeDescriptor.accessibleConstructor?_eq_none_iff.1 hfound c hc)
  | some c =>
    obtain ⟨before, after, hsplit, hcall, -⟩ :=
      TypeDescriptor.accessibleConstructor?_eq_some_iff.1 hfound
    refine ⟨fun _ => ⟨c, ?_, hcall⟩, fun _ => rfl⟩
    rw [hsplit]
    exact List.mem_append_right before List.mem_cons_self

theorem SameBuilder.buildable {t u : TypeDescriptor} (h : SameBuilder t u) (ht : t.Buildable) :
    u.Buildable where
  concrete := h.concrete ▸ ht.concrete
  constructible := by
    rw [← TypeDescriptor.construction?_isSome_iff, ← h.construction,
      TypeDescriptor.construction?_isSome_iff]
    exact ht.constructible
  unhidden := h.fields ▸ ht.unhidden

/-- A buildable type is synthesized with the constructor that it is validated with. -/
theorem exists_validated_of_buildable {t : TypeDescriptor} (h : t.Buildable) :
    ∃ v : Validated, v.type = t ∧ synthesize t = .ok (v.builder t.eligible) := by
  obtain ⟨c, hc, hvalid⟩ := validate_of_buildable h
  exact ⟨⟨t, c, hc⟩, rfl, synthesizeWith_of_validate_ok hvalid⟩

theorem buildable_of_synthesize {t : TypeDescriptor} {b : BuilderModel} (h : synthesize t = .ok b) :
    t.Buildable := by
  rcases buildable_or_firstViolation t with hbuild | ⟨v, hviolation⟩
  · exact hbuild
  · rw [synthesize_error_of_firstViolation hviolation] at h
    cases h

theorem Validated.construction?_type (v : Validated) :
    v.type.construction? = some v.constructor.construction := by
  rw [TypeDescriptor.construction?, v.accessible]
  rfl

/-- The last method of a list can be replaced by one with the same code. -/
theorem mapM_code_append_last {before : List Method} {m m' : Method} (h : m.code = m'.code) :
    (before ++ [m]).mapM Method.code = (before ++ [m']).mapM Method.code := by
  rw [List.mapM_append, List.mapM_append, List.mapM_cons, List.mapM_cons, h]

/-- The code of a builder does not depend on the package of its type, nor on constructors that it
does not call. -/
theorem Validated.code_builder {v w : Validated} (h : SameBuilder v.type w.type) :
    (v.builder v.type.eligible).code = (w.builder w.type.eligible).code := by
  have heligible : v.type.eligible = w.type.eligible := by
    unfold TypeDescriptor.eligible
    rw [h.fields]
  have hcall : v.constructor.construction = w.constructor.construction := by
    have hsame := h.construction
    rw [v.construction?_type, w.construction?_type] at hsame
    exact Option.some.inj hsame
  have hmethods : (v.builder v.type.eligible).methods.mapM Method.code
      = (w.builder w.type.eligible).methods.mapM Method.code := by
    unfold Validated.builder
    rw [heligible, hcall]
    exact mapM_code_append_last rfl
  have hname : (v.builder v.type.eligible).name.name = (w.builder w.type.eligible).name.name := by
    show v.type.name.name ++ "Builder" = w.type.name.name ++ "Builder"
    rw [h.name]
  have htarget : (v.builder v.type.eligible).target.name
    = (w.builder w.type.eligible).target.name := h.name
  have hslots : (v.builder v.type.eligible).slots = (w.builder w.type.eligible).slots :=
    congrArg (List.map Field.slot) heligible
  have hvisibility : (v.builder v.type.eligible).visibility
    = (w.builder w.type.eligible).visibility := h.visibility
  unfold BuilderModel.code BuilderModel.documentation
  rw [hname, htarget, hslots, hmethods, hvisibility]

/-- **Types that agree on what is written get the same builder.**  One is synthesized when the other
is, and the codes of the two builders are the same, errors included. -/
theorem SameBuilder.code {t u : TypeDescriptor} {b : BuilderModel} (h : SameBuilder t u)
    (hb : synthesize t = .ok b) :
    ∃ b', synthesize u = .ok b' ∧ b.code = b'.code := by
  have hbuild := buildable_of_synthesize hb
  obtain ⟨v, rfl, hv⟩ := exists_validated_of_buildable hbuild
  obtain ⟨w, rfl, hw⟩ := exists_validated_of_buildable (h.buildable hbuild)
  rw [hv] at hb
  cases hb
  exact ⟨_, hw, Validated.code_builder h⟩

/-! ### Two ways to a builder -/

/-- The steps from a declaration to the code of its builder, in a package and with constructors
found beside it. -/
def Generates (input : TypeDeclaration) (package : String) (found : Option (List Constructor))
    (code : BuilderCode) :
    Prop :=
  ∃ t b, describe input package found = .ok t ∧ synthesize t = .ok b ∧ b.code = .ok code

/-- Expansion takes the steps of generation without a package and without looking for
constructors. -/
theorem expand_eq_ok_iff {input : TypeDeclaration} {code : BuilderCode} :
    expand input = .ok code ↔ Generates input "" none code := by
  unfold expand Generates
  simp only [bind_eq_ok_iff, mapError_eq_ok_iff]
  constructor
  · rintro ⟨t, ht, b, hb, hcode⟩
    exact ⟨t, b, ht, hb, hcode⟩
  · rintro ⟨t, b, ht, hb, hcode⟩
    exact ⟨t, ht, b, hb, hcode⟩

/-- The first constructor in a list that can be called without arguments is the default of the
type. -/
def DefaultFirst (found : List Constructor) : Prop :=
  ∃ c, found.find? Constructor.isAccessible = some c ∧ c.name = none

instance (found : List Constructor) : Decidable (DefaultFirst found) :=
  decidable_of_iff ((found.find? Constructor.isAccessible).any (·.name.isNone) = true) (by
    rw [Option.any_eq_true]
    exact exists_congr fun c => and_congr Iff.rfl Option.isNone_iff_eq_none)

/-- What is said about a type and what was found beside it lead to the call that is made without
looking. -/
theorem TypeAttributes.construction_found {said : TypeAttributes} {found : List Constructor}
    (h : said.Says ∨ DefaultFirst found) :
    ((said.constructors (some found)).find? Constructor.isAccessible).map Constructor.construction
      = ((said.constructors none).find? Constructor.isAccessible).map Constructor.construction := by
  by_cases hsays : said.Says
  · rw [TypeAttributes.constructors_of_says hsays (some found) none]
  · obtain ⟨c, hc, hname⟩ := h.resolve_left hsays
    have hnone : said.constructor = none := by
      rw [← Option.not_isSome_iff_eq_none]
      exact fun h => hsays (.inl h)
    have hfalse : said.default = false := by
      rw [← Bool.not_eq_true]
      exact fun h => hsays (.inr h)
    have hconstructors : ∀ found', said.constructors found' = found'.getD [.ofDefault] := by
      intro found'
      simp only [TypeAttributes.constructors, hnone, hfalse]
      rfl
    rw [hconstructors, hconstructors, Option.getD_some, hc, Option.map_some,
      Constructor.construction, hname]
    rfl

/-- Descriptions of one declaration agree on what is written, apart from the construction. -/
theorem exists_sameBuilder {input : TypeDeclaration} {package : String} (package' : String)
    {found found' : Option (List Constructor)} {t : TypeDescriptor}
    (ht : describe input package found = .ok t)
    (hcall : ∀ said, typeAttributes input.attributes = .ok said →
      ((said.constructors found).find? Constructor.isAccessible).map Constructor.construction
        = ((said.constructors found').find? Constructor.isAccessible).map
          Constructor.construction) :
    ∃ u, describe input package' found' = .ok u ∧ SameBuilder t u := by
  obtain ⟨hgeneric, items, said, fields, hitems, hsaid, hfields, hnone, rfl⟩ :=
    describe_eq_ok_iff.1 ht
  exact ⟨_, describe_eq_ok_iff.2 ⟨hgeneric, items, said, fields, hitems, hsaid, hfields,
    hnone, rfl⟩,
    rfl, rfl, rfl, rfl, hcall said hsaid⟩

/-- Declarations that are constructed in the same way either way get the same builder either way. -/
theorem generates_of_generates {input : TypeDeclaration} {package package' : String}
    {found found' : Option (List Constructor)} {code : BuilderCode}
    (h : Generates input package found code)
    (hcall : ∀ said, typeAttributes input.attributes = .ok said →
      ((said.constructors found).find? Constructor.isAccessible).map Constructor.construction
        = ((said.constructors found').find? Constructor.isAccessible).map
          Constructor.construction) :
    Generates input package' found' code := by
  obtain ⟨t, b, ht, hb, hcode⟩ := h
  obtain ⟨u, hu, hsame⟩ := exists_sameBuilder package' ht hcall
  obtain ⟨b', hb', hcodes⟩ := hsame.code hb
  exact ⟨u, b', hu, hb', hcodes ▸ hcode⟩

/-- **Expansion and generation make the same builder.**  Let the attributes of a declaration say how
a value is constructed, or let the default be the first of the constructors found beside it that can
be called.  Then expansion succeeds exactly when the declaration is described in its module with
these constructors, synthesized and written, and both ways give the same code. -/
theorem expand_iff_generation (input : TypeDeclaration) (package : String)
    (found : List Constructor) (h : CarriesConstruction input.attributes ∨ DefaultFirst found) :
    ((∃ code, expand input = .ok code) ↔ ∃ t b code, describe input package (some found) = .ok t
        ∧ synthesize t = .ok b ∧ b.code = .ok code)
      ∧ ∀ code, expand input = .ok code → ∀ t b code', describe input package (some found) = .ok t →
        synthesize t = .ok b → b.code = .ok code' → code' = code := by
  have hcall : ∀ said, typeAttributes input.attributes = .ok said →
      ((said.constructors (some found)).find? Constructor.isAccessible).map Constructor.construction
        = ((said.constructors none).find? Constructor.isAccessible).map
          Constructor.construction := by
    intro said hsaid
    exact TypeAttributes.construction_found (h.imp_left (says_of_typeAttributes hsaid))
  have hiff : ∀ code, expand input = .ok code ↔ Generates input package (some found) code := by
    intro code
    rw [expand_eq_ok_iff]
    exact ⟨fun hgen => generates_of_generates hgen fun said hsaid => (hcall said hsaid).symm,
      fun hgen => generates_of_generates hgen hcall⟩
  refine ⟨⟨?_, ?_⟩, ?_⟩
  · rintro ⟨code, hcode⟩
    obtain ⟨t, b, hgen⟩ := (hiff code).1 hcode
    exact ⟨t, b, code, hgen⟩
  · rintro ⟨t, b, code, hgen⟩
    exact ⟨code, (hiff code).2 ⟨t, b, hgen⟩⟩
  · intro code hcode t b code' ht hb hcode'
    have hother := (hiff code').2 ⟨t, b, ht, hb, hcode'⟩
    rw [hcode] at hother
    exact (Except.ok.inj hother).symm

/-- Constructors of which one takes an argument and one is private; the first of the others is the
default. -/
def foundBeside : List Constructor :=
  [{ name := some "sized", params := [⟨"size", "usize"⟩], visibility := .pub },
    .ofFunction "fresh" .priv, .ofDefault, .ofFunction "fresh" .pub, .ofDefault]

/-- A declared struct that is expanded, and about which something else can be tested. -/
theorem exists_declared_of_any (text : String) (p : TypeDeclaration → Bool)
    (h : (TypeDeclaration.read? text).any (fun d => (expand d).toOption.isSome && p d) = true) :
    ∃ d, TypeDeclaration.read? text = some d ∧ (∃ code, expand d = .ok code) ∧ p d = true := by
  obtain ⟨d, hd, htest⟩ := Option.any_eq_true _ _ |>.1 h
  obtain ⟨hexpand, hp⟩ := Bool.and_eq_true_iff.1 htest
  refine ⟨d, hd, ?_, hp⟩
  cases hcode : expand d with
  | error e =>
    rw [hcode] at hexpand
    cases hexpand
  | ok code => exact ⟨code, rfl⟩

/-- A struct without attributes whose default comes first, and one that names its constructor, are
generated as they are expanded. -/
theorem generation_of_expand :
    (DefaultFirst foundBeside
        ∧ ∃ d, TypeDeclaration.read? "pub struct Job \x7b pub id: u32 \x7d" = some d
          ∧ ∃ t b code, describe d "crate::jobs" (some foundBeside) = .ok t ∧ synthesize t = .ok b
            ∧ b.code = .ok code)
      ∧ ∃ d, TypeDeclaration.read?
          "#[builder(constructor = \"open\")] struct Door \x7b pub wide: bool \x7d" = some d
        ∧ CarriesConstruction d.attributes
        ∧ ∃ t b code, describe d "crate" (some foundBeside) = .ok t ∧ synthesize t = .ok b
          ∧ b.code = .ok code := by
  have hfirst : DefaultFirst foundBeside := by decide
  refine ⟨⟨hfirst, ?_⟩, ?_⟩
  · obtain ⟨d, hd, hexpand, -⟩ := exists_declared_of_any "pub struct Job \x7b pub id: u32 \x7d"
      (fun _ => true) (by decide +kernel)
    exact ⟨d, hd, (expand_iff_generation d "crate::jobs" foundBeside (.inr hfirst)).1.1 hexpand⟩
  · obtain ⟨d, hd, hexpand, hcarries⟩ := exists_declared_of_any
      "#[builder(constructor = \"open\")] struct Door \x7b pub wide: bool \x7d"
      (fun d => decide (CarriesConstruction d.attributes)) (by decide +kernel)
    have hcarries := of_decide_eq_true hcarries
    exact ⟨d, hd, hcarries,
      (expand_iff_generation d "crate" foundBeside (.inl hcarries)).1.1 hexpand⟩

end FluentBuilder
