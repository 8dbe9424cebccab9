import FluentBuilder.Data.DescriptorFormat
import FluentBuilder.Proofs.Data.JsonTexts
import FluentBuilder.Proofs.Data.Records

/-!
# Descriptors that are written are read back

* `Field.decode?_table_iff` and its likes — which tables are read as a record, and as which one.
* `Field.decode?_spells` and its likes — a record is read from its entries in any order, when
  defaults are left out and unknown keys are put in.
* `Field.decode?_list` and its likes — a record written as a list.
* `TypeDescriptor.decode?_spec` — reading undoes writing, and writing gives the normal form of what
  is read.
-/

namespace FluentBuilder

open FluentBuilder.Data

variable {dialect : Dialect} {given : List (String × Value)}

/-! ### Choices -/

theorem Visibility.decode?_encode (dialect : Dialect) (v : Visibility) :
    Visibility.decode? dialect v.encode = some v := by
  cases v <;> rfl

theorem Visibility.eq_package_of_encode {v : Visibility} (h : v.encode = .text "package") :
    v = .package := by
  cases v
  · exact absurd (Value.text.inj h) (by decide)
  · rfl
  · exact absurd (Value.text.inj h) (by decide)
  · exact absurd (Value.text.inj h) (by decide)

/-! ### Parameters -/

/-- The entries of a parameter. -/
def Parameter.entries (p : Parameter) : List (String × Value) :=
  [("name", .text p.name), ("type", .text p.type)]

theorem Parameter.decode?_table_iff {p : Parameter} :
    Parameter.decode? dialect (.table given) = some p
      ↔ HasMember given "name" Value.text? p.name ∧ HasMember given "type" Value.text? p.type
        ∧ ∀ e ∈ given, e.1 ∉ ["name", "type"] → dialect.skips e.2 = true := by
  unfold Parameter.decode?
  rw [record?_table_iff]
  simp (disch := decide) only [reads_required_bind_iff, reads_pure_iff, hasMember_without]
  refine ⟨?_, ?_⟩
  · rintro ⟨_, ⟨name, hname, type, htype, rfl, rfl⟩, hskips⟩
    exact ⟨hname, htype, by simpa [mem_without] using hskips⟩
  · rintro ⟨hname, htype, hskips⟩
    exact ⟨_, ⟨_, hname, _, htype, rfl, rfl⟩, by simpa [mem_without] using hskips⟩

theorem Parameter.decode?_spells {p : Parameter} (h : Spells dialect [] p.entries given) :
    Parameter.decode? dialect (.table given) = some p :=
  Parameter.decode?_table_iff.2
    ⟨h.hasMember (v := .text p.name) (by simp [Parameter.entries]) rfl (by simp),
      h.hasMember (v := .text p.type) (by simp [Parameter.entries]) rfl (by simp), h.skips⟩

theorem Parameter.decode?_encode (dialect : Dialect) (p : Parameter) :
    Parameter.decode? dialect p.encode = some p :=
  Parameter.decode?_spells (spells_self (by simp [Parameter.entries]))

theorem Parameter.decode?_list (dialect : Dialect) {items : List Value}
    (hitems : items.length ≤ 2) :
    Parameter.decode? dialect (.list items)
      = Parameter.decode? dialect (.table (["name", "type"].zip items)) := by
  refine record?_list ?_ dialect hitems
  refine (positional_required (by decide) _).bind fun _ => ?_
  exact (positional_required (by decide) _).bind fun _ => positional_pure _ _

/-! ### Fields -/

/-- The entries of a field. -/
def Field.entries (f : Field) : List (String × Value) :=
  [("name", .text f.name), ("type", .text f.type),
    ("modifiers", flagLabels [("static", f.isStatic), ("final", f.isFinal)]),
    ("visibility", f.visibility.encode), ("excluded", .bool f.excluded)]

/-- The entries of a field that may be left out. -/
def Field.defaults : List (String × Value) :=
  [("modifiers", .list []), ("visibility", .text "package"), ("excluded", .bool false)]

/-- The keys of a field. -/
def Field.keys : List String :=
  ["name", "type", "modifiers", "visibility", "excluded"]

theorem Field.decode?_table_iff {f : Field} :
    Field.decode? dialect (.table given) = some f
      ↔ HasMember given "name" Value.text? f.name ∧ HasMember given "type" Value.text? f.type
        ∧ (∃ modifiers, HasMemberOr [] given "modifiers"
          (Value.list? (Value.choice? dialect fieldModifierNames)) modifiers
            ∧ f.isStatic = modifiers.contains false ∧ f.isFinal = modifiers.contains true)
        ∧ HasMemberOr .package given "visibility" (Visibility.decode? dialect) f.visibility
        ∧ HasMemberOr false given "excluded" Value.bool? f.excluded
        ∧ ∀ e ∈ given, e.1 ∉ Field.keys → dialect.skips e.2 = true := by
  unfold Field.decode?
  rw [record?_table_iff]
  simp (disch := decide) only [reads_required_bind_iff, reads_optional_bind_iff, reads_pure_iff,
    hasMember_without, hasMemberOr_without]
  refine ⟨?_, ?_⟩
  · rintro ⟨_, ⟨name, hname, type, htype, modifiers, hmodifiers, visibility, hvisibility, excluded,
      hexcluded, rfl, rfl⟩, hskips⟩
    exact ⟨hname, htype, ⟨modifiers, hmodifiers, rfl, rfl⟩, hvisibility, hexcluded,
      by simpa [mem_without, Field.keys] using hskips⟩
  · rintro ⟨hname, htype, ⟨modifiers, hmodifiers, hstatic, hfinal⟩, hvisibility, hexcluded, hskips⟩
    refine ⟨_, ⟨_, hname, _, htype, _, hmodifiers, _, hvisibility, _, hexcluded, ?_, rfl⟩,
      by simpa [mem_without, Field.keys] using hskips⟩
    rw [← hstatic, ← hfinal]

theorem list?_fieldModifiers (dialect : Dialect) (isStatic isFinal : Bool) :
    ∃ modifiers, Value.list? (Value.choice? dialect fieldModifierNames)
        (flagLabels [("static", isStatic), ("final", isFinal)]) = some modifiers
      ∧ isStatic = modifiers.contains false ∧ isFinal = modifiers.contains true := by
  cases isStatic <;> cases isFinal <;> exact ⟨_, rfl, rfl, rfl⟩

theorem Field.decode?_spells {f : Field} (h : Spells dialect Field.defaults f.entries given) :
    Field.decode? dialect (.table given) = some f := by
  have hkeys : (f.entries.map Prod.fst).Nodup := by simp [Field.entries]
  obtain ⟨modifiers, hmodifiers, hflags⟩ := list?_fieldModifiers dialect f.isStatic f.isFinal
  refine Field.decode?_table_iff.2 ⟨?_, ?_, ⟨modifiers, ?_, hflags⟩, ?_, ?_, h.skips⟩
  · exact h.hasMember (v := .text f.name) (by simp [Field.entries]) rfl (by simp [Field.defaults])
  · exact h.hasMember (v := .text f.type) (by simp [Field.entries]) rfl (by simp [Field.defaults])
  · refine h.hasMemberOr hkeys (by simp [Field.entries]) hmodifiers ?_
    intro hdefault
    rw [show flagLabels [("static", f.isStatic), ("final", f.isFinal)] = .list [] by
      simpa [Field.defaults] using hdefault] at hmodifiers
    exact (Option.some.inj hmodifiers).symm
  · refine h.hasMemberOr hkeys (by simp [Field.entries]) (f.visibility.decode?_encode dialect) ?_
    intro hdefault
    exact Visibility.eq_package_of_encode (by simpa [Field.defaults] using hdefault)
  · refine h.hasMemberOr hkeys (v := .bool f.excluded) (by simp [Field.entries]) rfl ?_
    intro hdefault
    simpa [Field.defaults] using hdefault

theorem Field.decode?_encode (dialect : Dialect) (f : Field) :
    Field.decode? dialect f.encode = some f :=
  Field.decode?_spells (spells_self (by simp [Field.entries]))

theorem Field.decode?_list (dialect : Dialect) {items : List Value} (hitems : items.length ≤ 5) :
    Field.decode? dialect (.list items)
      = Field.decode? dialect (.table (Field.keys.zip items)) := by
  refine record?_list ?_ dialect hitems
  refine (positional_required (by decide) _).bind fun _ => ?_
  refine (positional_required (by decide) _).bind fun _ => ?_
  refine (positional_optional (by decide) _ _).bind fun _ => ?_
  refine (positional_optional (by decide) _ _).bind fun _ => ?_
  exact (positional_optional (by decide) _ _).bind fun _ => positional_pure _ _

/-! ### Constructors -/

/-- The entries of a constructor. -/
def Constructor.entries (c : Constructor) : List (String × Value) :=
  [("name", encodeOptional c.name), ("params", .list (c.params.map Parameter.encode)),
    ("visibility", c.visibility.encode)]

/-- The entries of a constructor that may be left out, which is each of them. -/
def Constructor.defaults : List (String × Value) :=
  [("name", .null), ("params", .list []), ("visibility", .text "package")]

/-- The keys of a constructor. -/
def Constructor.keys : List String :=
  ["name", "params", "visibility"]

theorem Constructor.decode?_table_iff {c : Constructor} :
    Constructor.decode? dialect (.table given) = some c
      ↔ HasMemberOr none given "name" Value.textOrNull? c.name
        ∧ HasMemberOr [] given "params" (Value.list? (Parameter.decode? dialect)) c.params
        ∧ HasMemberOr .package given "visibility" (Visibility.decode? dialect) c.visibility
        ∧ ∀ e ∈ given, e.1 ∉ Constructor.keys → dialect.skips e.2 = true := by
  unfold Constructor.decode?
  rw [record?_table_iff]
  simp (disch := decide) only [reads_optional_bind_iff, reads_pure_iff, hasMemberOr_without]
  refine ⟨?_, ?_⟩
  · rintro ⟨_, ⟨name, hname, params, hparams, visibility, hvisibility, rfl, rfl⟩, hskips⟩
    exact ⟨hname, hparams, hvisibility, by simpa [mem_without, Constructor.keys] using hskips⟩
  · rintro ⟨hname, hparams, hvisibility, hskips⟩
    exact ⟨_, ⟨_, hname, _, hparams, _, hvisibility, rfl, rfl⟩,
      by simpa [mem_without, Constructor.keys] using hskips⟩

theorem textOrNull?_encodeOptional (name : Option String) :
    Value.textOrNull? (encodeOptional name) = some name := by
  cases name <;> rfl

theorem Constructor.decode?_spells {c : Constructor}
    (h : Spells dialect Constructor.defaults c.entries given) :
    Constructor.decode? dialect (.table given) = some c := by
  have hkeys : (c.entries.map Prod.fst).Nodup := by simp [Constructor.entries]
  have hparams : Value.list? (Parameter.decode? dialect) (.list (c.params.map Parameter.encode))
      = some c.params :=
    list?_map (Parameter.decode?_encode dialect) c.params
  refine Constructor.decode?_table_iff.2 ⟨?_, ?_, ?_, h.skips⟩
  · refine h.hasMemberOr hkeys (by simp [Constructor.entries])
      (textOrNull?_encodeOptional c.name) ?_
    intro hdefault
    cases hname : c.name with
    | none => rfl
    | some name => simp [Constructor.defaults, hname, encodeOptional] at hdefault
  · refine h.hasMemberOr hkeys (by simp [Constructor.entries]) hparams ?_
    intro hdefault
    simpa [Constructor.defaults] using hdefault
  · refine h.hasMemberOr hkeys (by simp [Constructor.entries])
      (c.visibility.decode?_encode dialect) ?_
    intro hdefault
    exact Visibility.eq_package_of_encode (by simpa [Constructor.defaults] using hdefault)

theorem Constructor.decode?_encode (dialect : Dialect) (c : Constructor) :
    Constructor.decode? dialect c.encode = some c :=
  Constructor.decode?_spells (spells_self (by simp [Constructor.entries]))

theorem Constructor.decode?_list (dialect : Dialect) {items : List Value}
    (hitems : items.length ≤ 3) :
    Constructor.decode? dialect (.list items)
      = Constructor.decode? dialect (.table (Constructor.keys.zip items)) := by
  refine record?_list ?_ dialect hitems
  refine (positional_optional (by decide) _ _).bind fun _ => ?_
  refine (positional_optional (by decide) _ _).bind fun _ => ?_
  exact (positional_optional (by decide) _ _).bind fun _ => positional_pure _ _

/-! ### Types -/

/-- The entries of a type. -/
def TypeDescriptor.entries (t : TypeDescriptor) : List (String × Value) :=
  [("package", .text t.name.package), ("name", .text t.name.name),
    ("visibility", t.visibility.encode), ("modifiers", flagLabels [("abstract", t.isAbstract)]),
    ("fields", .list (t.fields.map Field.encode)),
    ("constructors", .list (t.constructors.map Constructor.encode))]

/-- The entries of a type that may be left out, which is each of them but the name. -/
def TypeDescriptor.defaults : List (String × Value) :=
  [("package", .text ""), ("visibility", .text "package"), ("modifiers", .list []),
    ("fields", .list []), ("constructors", .list [])]

/-- The keys of a type. -/
def TypeDescriptor.keys : List String :=
  ["package", "name", "visibility", "modifiers", "fields", "constructors"]

theorem TypeDescriptor.decode?_table_iff {t : TypeDescriptor} :
    TypeDescriptor.decode? dialect (.table given) = some t
      ↔ HasMemberOr "" given "package" Value.text? t.name.package
        ∧ HasMember given "name" Value.text? t.name.name
        ∧ HasMemberOr .package given "visibility" (Visibility.decode? dialect) t.visibility
        ∧ (∃ modifiers, HasMemberOr [] given "modifiers"
          (Value.list? (Value.choice? dialect typeModifierNames)) modifiers
            ∧ t.isAbstract = !modifiers.isEmpty)
        ∧ HasMemberOr [] given "fields" (Value.list? (Field.decode? dialect)) t.fields
        ∧ HasMemberOr [] given "constructors" (Value.list? (Constructor.decode? dialect))
          t.constructors
        ∧ (∀ e ∈ given, e.1 ∉ TypeDescriptor.keys → dialect.skips e.2 = true)
        ∧ ∀ e ∈ given, e.1 ∉ typeKeys → e.2.isReadable = true := by
  have hreadable : ((given.filter fun e => !typeKeys.contains e.1).all fun e => e.2.isReadable)
        = true
      ↔ ∀ e ∈ given, e.1 ∉ typeKeys → e.2.isReadable = true := by
    simp [or_iff_not_imp_left]
  rw [TypeDescriptor.decode?]
  simp only [hreadable, Option.ite_none_right_eq_some, record?_table_iff]
  simp (disch := decide) only [reads_required_bind_iff, reads_optional_bind_iff, reads_pure_iff,
    hasMember_without, hasMemberOr_without]
  refine ⟨?_, ?_⟩
  · rintro ⟨hread, _, ⟨package, hpackage, name, hname, visibility, hvisibility, modifiers,
      hmodifiers, fields, hfields, constructors, hconstructors, rfl, rfl⟩, hskips⟩
    exact ⟨hpackage, hname, hvisibility, ⟨modifiers, hmodifiers, rfl⟩, hfields, hconstructors,
      by simpa [mem_without, TypeDescriptor.keys] using hskips, hread⟩
  · rintro ⟨hpackage, hname, hvisibility, ⟨modifiers, hmodifiers, habstract⟩, hfields,
      hconstructors, hskips, hread⟩
    refine ⟨hread, _, ⟨_, hpackage, _, hname, _, hvisibility, _, hmodifiers, _, hfields, _,
      hconstructors, ?_, rfl⟩,
      by simpa [mem_without, TypeDescriptor.keys] using hskips⟩
    rw [← habstract]

theorem list?_typeModifiers (dialect : Dialect) (isAbstract : Bool) :
    ∃ modifiers, Value.list? (Value.choice? dialect typeModifierNames)
          (flagLabels [("abstract", isAbstract)])
        = some modifiers ∧ isAbstract = !modifiers.isEmpty := by
  cases isAbstract <;> exact ⟨_, rfl, rfl⟩

/-- A type is read from its entries; what stands under unknown keys has to have a meaning. -/
theorem TypeDescriptor.decode?_spells {t : TypeDescriptor}
    (h : Spells dialect TypeDescriptor.defaults t.entries given)
    (hreadable : ∀ e ∈ given, e.1 ∉ TypeDescriptor.keys → e.2.isReadable = true) :
    TypeDescriptor.decode? dialect (.table given) = some t := by
  have hkeys : (t.entries.map Prod.fst).Nodup := by simp [TypeDescriptor.entries]
  have hfields : Value.list? (Field.decode? dialect) (.list (t.fields.map Field.encode))
      = some t.fields :=
    list?_map (Field.decode?_encode dialect) t.fields
  have hconstructors : Value.list? (Constructor.decode? dialect)
        (.list (t.constructors.map Constructor.encode))
      = some t.constructors :=
    list?_map (Constructor.decode?_encode dialect) t.constructors
  obtain ⟨modifiers, hmodifiers, habstract⟩ := list?_typeModifiers dialect t.isAbstract
  refine TypeDescriptor.decode?_table_iff.2 ⟨?_, ?_, ?_, ⟨modifiers, ?_, habstract⟩, ?_, ?_,
    h.skips, ?_⟩
  · refine h.hasMemberOr hkeys (v := .text t.name.package) (by simp [TypeDescriptor.entries]) rfl ?_
    intro hdefault
    simpa [TypeDescriptor.defaults] using hdefault
  · exact h.hasMember (v := .text t.name.name) (by simp [TypeDescriptor.entries]) rfl
      (by simp [TypeDescriptor.defaults])
  · refine h.hasMemberOr hkeys (by simp [TypeDescriptor.entries])
      (t.visibility.decode?_encode dialect) ?_
    intro hdefault
    exact Visibility.eq_package_of_encode (by simpa [TypeDescriptor.defaults] using hdefault)
  · refine h.hasMemberOr hkeys (by simp [TypeDescriptor.entries]) hmodifiers ?_
    intro hdefault
    rw [show flagLabels [("abstract", t.isAbstract)] = .list [] by
      simpa [TypeDescriptor.defaults] using hdefault] at hmodifiers
    exact (Option.some.inj hmodifiers).symm
  · refine h.hasMemberOr hkeys (by simp [TypeDescriptor.entries]) hfields ?_
    intro hdefault
    simpa [TypeDescriptor.defaults] using hdefault
  · refine h.hasMemberOr hkeys (by simp [TypeDescriptor.entries]) hconstructors ?_
    intro hdefault
    simpa [TypeDescriptor.defaults] using hdefault
  · intro e he hname
    rcases h.known e he with hknown | ⟨hunknown, -⟩
    · have htext : e = ("package", .text t.name.package) ∨ e = ("name", .text t.name.name) := by
        simp only [TypeDescriptor.entries, List.mem_cons, List.not_mem_nil, or_false] at hknown
        rcases hknown with rfl | rfl | rfl | rfl | rfl | rfl
        · exact .inl rfl
        · exact .inr rfl
        all_goals exact absurd (by simp [typeKeys]) hname
      rcases htext with rfl | rfl <;> rfl
    · exact hreadable e he hunknown

theorem TypeDescriptor.decode?_encode (dialect : Dialect) (t : TypeDescriptor) :
    TypeDescriptor.decode? dialect t.encode = some t := by
  refine TypeDescriptor.decode?_spells (spells_self (by simp [TypeDescriptor.entries])) ?_
  intro e he hunknown
  exact absurd (List.mem_map_of_mem he) hunknown

/-! ### Texts -/

theorem readsBack_encodeOptional {depth : Nat} (s : Option String) :
    ReadsBack depth (encodeOptional s) := by
  cases s with
  | none => exact readsBack_null
  | some s => exact readsBack_text s

theorem readsBack_flagLabels {depth : Nat} (hdepth : depth < jsonDepth)
    (flags : List (String × Bool)) :
    ReadsBack depth (flagLabels flags) := by
  refine readsBack_list hdepth ?_
  intro v hv
  obtain ⟨f, -, rfl⟩ := List.mem_map.1 hv
  exact readsBack_text f.1

theorem readsBack_map {α : Type} {depth : Nat} (hdepth : depth < jsonDepth) {encode : α → Value}
    (h : ∀ a, ReadsBack (depth + 1) (encode a)) (items : List α) :
    ReadsBack depth (.list (items.map encode)) := by
  refine readsBack_list hdepth ?_
  intro v hv
  obtain ⟨a, -, rfl⟩ := List.mem_map.1 hv
  exact h a

/-- A table of texts is read back. -/
theorem readsBack_texts {depth : Nat} (hdepth : depth < jsonDepth)
    (entries : List (String × String)) :
    ReadsBack depth (.table (entries.map fun e => (e.1, .text e.2))) := by
  refine readsBack_table hdepth ?_
  intro e he
  obtain ⟨entry, -, rfl⟩ := List.mem_map.1 he
  exact readsBack_text entry.2

theorem Parameter.readsBack_encode {depth : Nat} (hdepth : depth < jsonDepth) (p : Parameter) :
    ReadsBack depth p.encode :=
  readsBack_texts hdepth [("name", p.name), ("type", p.type)]

theorem Field.readsBack_encode {depth : Nat} (hdepth : depth + 1 < jsonDepth) (f : Field) :
    ReadsBack depth f.encode := by
  refine readsBack_table (by omega) ?_
  simp only [List.forall_mem_cons, List.not_mem_nil, false_implies, implies_true, and_true]
  exact ⟨readsBack_text _, readsBack_text _, readsBack_flagLabels hdepth _, readsBack_text _,
    readsBack_bool _⟩

theorem Constructor.readsBack_encode {depth : Nat} (hdepth : depth + 2 < jsonDepth)
    (c : Constructor) :
    ReadsBack depth c.encode := by
  refine readsBack_table (by omega) ?_
  simp only [List.forall_mem_cons, List.not_mem_nil, false_implies, implies_true, and_true]
  exact ⟨readsBack_encodeOptional _, readsBack_map (by omega) (Parameter.readsBack_encode hdepth) _,
    readsBack_text _⟩

theorem TypeDescriptor.readsBack_encode (t : TypeDescriptor) : ReadsBack 0 t.encode := by
  refine readsBack_table (by decide) ?_
  simp only [QualifiedName.entries, List.cons_append, List.nil_append, List.forall_mem_cons,
    List.not_mem_nil, false_implies, implies_true, and_true]
  exact ⟨readsBack_text _, readsBack_text _, readsBack_text _, readsBack_flagLabels (by decide) _,
    readsBack_map (by decide) (Field.readsBack_encode (by decide)) _,
    readsBack_map (by decide) (Constructor.readsBack_encode (by decide)) _⟩

/-! ### Descriptors -/

/-- A record that is written as the list of its leading members is read back, when the others are
defaults. -/
theorem decode?_leading {α : Type} {decode? : Value → Option α} {keys : List String} {a : α}
    {defaults full : List (String × Value)} {count : Nat} (hkeys : full.map Prod.fst = keys)
    (hdistinct : keys.Nodup)
    (hlist : ∀ items : List Value, items.length ≤ keys.length →
      decode? (.list items) = decode? (.table (keys.zip items)))
    (hspells : ∀ given, Spells dialect defaults full given → decode? (.table given) = some a)
    (hleft : ∀ e ∈ full.drop count, e ∈ defaults) :
    decode? (.list ((full.take count).map Prod.snd)) = some a := by
  have hlength : ((full.take count).map Prod.snd).length ≤ keys.length := by
    rw [← hkeys, List.length_map, List.length_map]
    exact List.length_take_le' count full
  rw [hlist _ hlength, ← hkeys, zip_take_map_snd]
  exact hspells _ (spells_take (by rw [hkeys]; exact hdistinct) hleft)

/-- **Reading a descriptor undoes writing it**, as a value of any format and as a text, and what is
written is the normal form of every value from which the descriptor is read.  In a table the entries
may stand in any order, with defaults left out and unknown keys put in.  Parameters, fields and
constructors may also be written as lists: a list is read as the table with the same values under
the keys in their order, and one that leaves out trailing members which are defaults is read as the
whole record. -/
theorem TypeDescriptor.decode?_spec :
    (∀ (dialect : Dialect) (t : TypeDescriptor), TypeDescriptor.decode? dialect t.encode = some t)
    ∧ (∀ (t : TypeDescriptor) (level : Nat),
        (Value.readJson? (t.encode.prettyJson level)).bind (TypeDescriptor.decode? .json) = some t)
    ∧ (∀ (dialect other : Dialect) (v : Value),
        ((TypeDescriptor.decode? dialect v).map TypeDescriptor.encode).bind
            (TypeDescriptor.decode? other)
          = TypeDescriptor.decode? dialect v)
    ∧ (∀ (dialect : Dialect) (given : List (String × Value)),
        (∀ p : Parameter, Spells dialect [] p.entries given →
          Parameter.decode? dialect (.table given) = some p)
        ∧ (∀ f : Field, Spells dialect Field.defaults f.entries given →
          Field.decode? dialect (.table given) = some f)
        ∧ (∀ c : Constructor, Spells dialect Constructor.defaults c.entries given →
          Constructor.decode? dialect (.table given) = some c)
        ∧ ∀ t : TypeDescriptor, Spells dialect TypeDescriptor.defaults t.entries given →
          (∀ e ∈ given, e.1 ∉ TypeDescriptor.keys → e.2.isReadable = true) →
          TypeDescriptor.decode? dialect (.table given) = some t)
    ∧ (∀ (dialect : Dialect) (items : List Value),
        (items.length ≤ 2 → Parameter.decode? dialect (.list items)
          = Parameter.decode? dialect (.table (["name", "type"].zip items)))
        ∧ (items.length ≤ 5 → Field.decode? dialect (.list items)
          = Field.decode? dialect (.table (Field.keys.zip items)))
        ∧ (items.length ≤ 3 → Constructor.decode? dialect (.list items)
          = Constructor.decode? dialect (.table (Constructor.keys.zip items))))
    ∧ (∀ (dialect : Dialect) (count : Nat),
        (∀ f : Field, (∀ e ∈ f.entries.drop count, e ∈ Field.defaults) →
          Field.decode? dialect (.list ((f.entries.take count).map Prod.snd)) = some f)
        ∧ ∀ c : Constructor, (∀ e ∈ c.entries.drop count, e ∈ Constructor.defaults) →
          Constructor.decode? dialect (.list ((c.entries.take count).map Prod.snd)) = some c) := by
  refine ⟨TypeDescriptor.decode?_encode, ?_, ?_, ?_, ?_, ?_⟩
  · intro t level
    rw [readJson?_prettyJson t.readsBack_encode level]
    exact TypeDescriptor.decode?_encode .json t
  · intro dialect other v
    cases TypeDescriptor.decode? dialect v with
    | none => rfl
    | some t => exact TypeDescriptor.decode?_encode other t
  · intro dialect given
    exact ⟨fun _ => Parameter.decode?_spells, fun _ => Field.decode?_spells,
      fun _ => Constructor.decode?_spells, fun _ => TypeDescriptor.decode?_spells⟩
  · intro dialect items
    exact ⟨Parameter.decode?_list dialect, Field.decode?_list dialect,
      Constructor.decode?_list dialect⟩
  · intro dialect count
    refine ⟨?_, ?_⟩
    · intro f hleft
      have hkeys : f.entries.map Prod.fst = Field.keys := rfl
      exact decode?_leading hkeys (by decide) (fun _ => Field.decode?_list dialect)
        (fun _ => Field.decode?_spells) hleft
    · intro c hleft
      have hkeys : c.entries.map Prod.fst = Constructor.keys := rfl
      exact decode?_leading hkeys (by decide) (fun _ => Constructor.decode?_list dialect)
        (fun _ => Constructor.decode?_spells) hleft

end FluentBuilder
