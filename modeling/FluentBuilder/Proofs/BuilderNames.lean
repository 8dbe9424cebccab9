import Mathlib.Data.List.Nodup
import FluentBuilder.BuilderCode
import FluentBuilder.Proofs.Code.SpelledName
import FluentBuilder.Proofs.Outcome
import FluentBuilder.Proofs.Synthesis

/-!
# Names in the code of a builder

The members of a type have different names as texts, and the rule on collisions looks at the texts
as well.  The code of a builder holds the identifiers that the texts spell.  Different texts may
spell one identifier: blanks, comments and a raw mark around a name are not a part of it.  So the
names in the code are different only if the spelled names are.

* `BuilderModel.code_keys` — the names in the code are those that the texts of the model spell;
* `key_builder_ne_iff` — the builder has another name than its target when nothing stands behind the
  target's name;
* `unambiguous_iff` — when the names in the code of a synthesized builder are different;
* `clashing_names` — types whose fields have different names as texts, and whose builders do not
  compile.
-/

namespace FluentBuilder

open FluentBuilder.Code FluentBuilder.Text

/-! ### Names in code -/

/-- The name of a method. -/
def MethodCode.name : MethodCode → Identifier
  | .factory name => name
  | .setter name .. => name
  | .terminal name .. => name

theorem identifierOf_eq_ok_iff {text : String} {i : Identifier} :
    identifierOf text = .ok i ↔ Identifier.read? text = some i := by
  unfold identifierOf
  cases Identifier.read? text with
  | none => exact ⟨nofun, nofun⟩
  | some j => rw [Except.ok.injEq, Option.some.injEq]

theorem key_of_identifierOf {text : String} {i : Identifier} (h : identifierOf text = .ok i) :
    i.key = spelledName text :=
  (Identifier.key_of_read? (identifierOf_eq_ok_iff.1 h)).1

theorem Slot.key_of_code {s : Slot} {c : SlotCode} (h : s.code = .ok c) :
    c.name.key = spelledName s.name := by
  obtain ⟨name, hname, h⟩ := bind_eq_ok_iff.1 h
  obtain ⟨type, -, h⟩ := bind_eq_ok_iff.1 h
  cases h
  exact key_of_identifierOf hname

theorem Method.key_of_code {m : Method} {c : MethodCode} (h : m.code = .ok c) :
    c.name.key = spelledName m.name := by
  cases m with
  | factory name =>
    obtain ⟨i, hi, h⟩ := bind_eq_ok_iff.1 h
    cases h
    exact key_of_identifierOf hi
  | setter name slot =>
    obtain ⟨i, hi, h⟩ := bind_eq_ok_iff.1 h
    obtain ⟨code, -, h⟩ := bind_eq_ok_iff.1 h
    cases h
    exact key_of_identifierOf hi
  | terminal name returns construction assignments =>
    obtain ⟨i, hi, h⟩ := bind_eq_ok_iff.1 h
    obtain ⟨call, -, h⟩ := bind_eq_ok_iff.1 h
    obtain ⟨names, -, h⟩ := bind_eq_ok_iff.1 h
    cases h
    exact key_of_identifierOf hi

/-- The names in code that is made piece by piece. -/
theorem keys_of_mapM {α β : Type} {code : α → Except CodeError β} {name : α → String}
    {key : β → String} (hkey : ∀ a b, code a = .ok b → key b = spelledName (name a)) {xs : List α}
    {ys : List β} (h : xs.mapM code = .ok ys) : ys.map key = (xs.map name).map spelledName := by
  have hall := mapM_eq_ok_iff.1 h
  induction hall with
  | nil => rfl
  | @cons x y xs ys hhead htail ih =>
    rw [List.map_cons, List.map_cons, List.map_cons, hkey x y hhead, ih (mapM_eq_ok_iff.2 htail)]

/-- **The names in the code are those that the texts of the model spell.** -/
theorem BuilderModel.code_keys {b : BuilderModel} {c : BuilderCode} (h : b.code = .ok c) :
    c.name.key = spelledName b.name.name
      ∧ (c.target.key = spelledName b.target.name ∧ SpellsName b.target.name)
      ∧ (c.slots.map fun s => s.name.key) = (b.slots.map Slot.name).map spelledName
      ∧ (c.methods.map fun m => m.name.key) = (b.methods.map Method.name).map spelledName := by
  obtain ⟨name, hname, h⟩ := bind_eq_ok_iff.1 h
  obtain ⟨target, htarget, h⟩ := bind_eq_ok_iff.1 h
  obtain ⟨slots, hslots, h⟩ := bind_eq_ok_iff.1 h
  obtain ⟨methods, hmethods, h⟩ := bind_eq_ok_iff.1 h
  cases h
  refine ⟨key_of_identifierOf hname,
    Identifier.key_of_read? (identifierOf_eq_ok_iff.1 htarget), ?_, ?_⟩
  · exact keys_of_mapM (fun _ _ => Slot.key_of_code) hslots
  · exact keys_of_mapM (fun _ _ => Method.key_of_code) hmethods

/-! ### Different names -/

/-- Whether the names in the code of a builder are different: no two methods and no two slots have
one name, and the builder has not that of its target.  Names are compared in a normal form. -/
structure BuilderCode.Unambiguous (normal : String → String) (c : BuilderCode) : Prop where
  methods : (c.methods.map fun m => normal m.name.key).Nodup
  slots : (c.slots.map fun s => normal s.name.key).Nodup
  builder : normal c.name.key ≠ normal c.target.key

/-- The builder has another name than its target exactly when nothing stands behind the name of the
target. -/
theorem key_builder_ne_iff {normal : String → String}
    (hnormal : ∀ s, normal (s ++ "Builder") = normal s ++ "Builder") {target : String}
    (h : SpellsName target) :
    normal (spelledName (target ++ "Builder")) ≠ normal (spelledName target)
      ↔ behindName target = [] := by
  have hletters : "Builder".toList.all isIdentifierContinue = true := by decide +kernel
  rw [spelledName_append h (List.all_eq_true.1 hletters) (by decide)]
  by_cases hend : behindName target = []
  · rw [if_pos hend, hnormal]
    refine ⟨fun _ => hend, fun _ hsame => ?_⟩
    have hlength := congrArg (fun s : String => s.toList.length) hsame
    simp only [String.toList_append, List.length_append] at hlength
    have hsuffix : "Builder".toList.length = 7 := rfl
    omega
  · rw [if_neg hend]
    exact ⟨fun h => absurd rfl h, fun h => absurd h hend⟩

/-- The names that the texts of the offered fields spell, between those of the fixed methods. -/
def TypeDescriptor.methodNames (t : TypeDescriptor) : List String :=
  ["builder"] ++ (t.fields.filter fun f => decide f.Offered).map (fun f => spelledName f.name)
    ++ ["build"]

theorem IsBuilderOf.methodNames_eq {t : TypeDescriptor} {b : BuilderModel} (h : IsBuilderOf t b) :
    (b.methods.map Method.name).map spelledName = t.methodNames := by
  obtain ⟨before, call, after, -, -, -, hmethods⟩ := h.methods
  have hnames : b.methods.map Method.name
      = ["builder"] ++ (t.fields.filter fun f => decide f.Offered).map Field.name ++ ["build"] := by
    rw [hmethods, List.map_append, List.map_append, List.map_map]
    rfl
  have hfixed : ["builder"].map spelledName = ["builder"]
      ∧ ["build"].map spelledName = ["build"] := by
    decide +kernel
  rw [hnames, List.map_append, List.map_append, List.map_map, hfixed.1, hfixed.2]
  rfl

theorem IsBuilderOf.slotNames_eq {t : TypeDescriptor} {b : BuilderModel} (h : IsBuilderOf t b) :
    (b.slots.map Slot.name).map spelledName
      = (t.fields.filter fun f => decide f.Offered).map fun f => spelledName f.name := by
  rw [h.slots, List.map_map, List.map_map]
  rfl

/-- **When the names in the code of a builder are different.**  They are exactly when the names that
the texts of the offered fields spell differ from each other and from those of the fixed methods,
and nothing stands behind the name of the target in its text.  The normal form in which names are
compared leaves the letters of the suffix alone. -/
theorem unambiguous_iff (normal : String → String)
    (hnormal : ∀ s, normal (s ++ "Builder") = normal s ++ "Builder") {t : TypeDescriptor}
    {b : BuilderModel} {c : BuilderCode} (hb : synthesize t = .ok b) (hc : b.code = .ok c) :
    c.Unambiguous normal ↔ (t.methodNames.map normal).Nodup ∧ behindName t.name.name = [] := by
  have hbuilder : IsBuilderOf t b := isBuilderOf_of_synthesizeWith hb
  obtain ⟨hname, ⟨htarget, hspells⟩, hslots, hmethods⟩ := BuilderModel.code_keys hc
  rw [hbuilder.name] at hname
  rw [hbuilder.target] at htarget hspells
  rw [hbuilder.slotNames_eq] at hslots
  rw [hbuilder.methodNames_eq] at hmethods
  have hmethods' : (c.methods.map fun m => normal m.name.key) = t.methodNames.map normal := by
    rw [← hmethods, List.map_map]
    rfl
  have hslots' : (c.slots.map fun s => normal s.name.key)
      = ((t.fields.filter fun f => decide f.Offered).map fun f => spelledName f.name).map
        normal := by
    rw [← hslots, List.map_map]
    rfl
  have hnames : normal c.name.key ≠ normal c.target.key ↔ behindName t.name.name = [] := by
    rw [hname, htarget]
    exact key_builder_ne_iff hnormal hspells
  constructor
  · intro h
    exact ⟨hmethods' ▸ h.methods, hnames.1 h.builder⟩
  · rintro ⟨hnodup, hend⟩
    refine ⟨hmethods' ▸ hnodup, ?_, hnames.2 hend⟩
    -- the slots are the setters, which stand between the two fixed methods
    rw [hslots']
    unfold TypeDescriptor.methodNames at hnodup
    rw [List.map_append, List.map_append] at hnodup
    exact hnodup.of_append_left.of_append_right

/-- A type that offers fields of the given names and can be constructed. -/
def sampleType (name : String) (fields : List String) : TypeDescriptor where
  name := ⟨"", name⟩
  fields := fields.map fun field => { name := field, type := "u8" }
  constructors := [.ofDefault]

/-- A type whose builder has code with a property that can be tested. -/
theorem exists_code_of_any (t : TypeDescriptor) (p : BuilderCode → Prop) [DecidablePred p]
    (h : (synthesize t).toOption.any (fun b => b.code.toOption.any fun c => decide (p c)) = true) :
    ∃ b c, synthesize t = .ok b ∧ b.code = .ok c ∧ p c := by
  obtain ⟨b, hb, h⟩ := exists_ok_of_any h
  obtain ⟨c, hc, h⟩ := exists_ok_of_any h
  exact ⟨b, c, hb, hc, of_decide_eq_true h⟩

/-- Plain names of fields that differ from each other and from those of the fixed methods stay
different. -/
theorem unambiguous_iff_plain :
    ∃ b c, synthesize (sampleType "Job" ["id", "r#type"]) = .ok b ∧ b.code = .ok c
      ∧ c.Unambiguous id := by
  obtain ⟨b, c, hb, hc, -⟩ := exists_code_of_any (sampleType "Job" ["id", "r#type"]) (fun _ => True)
    (by decide +kernel)
  exact ⟨b, c, hb, hc, (unambiguous_iff id (fun _ => rfl) hb hc).2 (by decide +kernel)⟩

/-- **Different texts, one name.**  A field that spells the name of a fixed method behind a blank,
two fields of which one has a raw mark, and a target with a comment behind its name: each type
passes the rules, and in the code of its builder two names are the same. -/
theorem clashing_names :
    (((sampleType "Job" [" build"]).fields.map Field.name).Nodup
        ∧ ∃ b c, synthesize (sampleType "Job" [" build"]) = .ok b ∧ b.code = .ok c
          ∧ ¬ (c.methods.map fun m => m.name.key).Nodup)
      ∧ (((sampleType "Job" ["a", "r#a"]).fields.map Field.name).Nodup
        ∧ ∃ b c, synthesize (sampleType "Job" ["a", "r#a"]) = .ok b ∧ b.code = .ok c
          ∧ ¬ (c.slots.map fun s => s.name.key).Nodup)
      ∧ ((sampleType "Job//" []).fields.map Field.name).Nodup
        ∧ ∃ b c, synthesize (sampleType "Job//" []) = .ok b ∧ b.code = .ok c
          ∧ c.name.key = c.target.key := by
  refine ⟨⟨by decide, ?_⟩, ⟨by decide, ?_⟩, by decide, ?_⟩
  · exact exists_code_of_any (sampleType "Job" [" build"])
      (fun c => ¬ (c.methods.map fun m => m.name.key).Nodup)
      (by decide +kernel)
  · exact exists_code_of_any (sampleType "Job" ["a", "r#a"])
      (fun c => ¬ (c.slots.map fun s => s.name.key).Nodup)
      (by decide +kernel)
  · exact exists_code_of_any (sampleType "Job//" []) (fun c => c.name.key = c.target.key)
      (by decide +kernel)

end FluentBuilder
