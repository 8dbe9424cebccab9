import FluentBuilder.Proofs.DescriptorData
import FluentBuilder.Proofs.Outcome

/-!
# Models in print

The text in which models are listed is JSON.  This file reads the names of the models off such a
text, without asking how models are written, and shows that the text of some models holds their
names.

* `printedNames?` — the names in a text;
* `BuilderModel.readsBack_encode` — the text of a model is read back;
* `printedNames?_models` — the names in the text of some models.
-/

namespace FluentBuilder

open FluentBuilder.Data

/-! ### Reading names -/

/-- The value at a key of a table. -/
def Data.Value.at? (key : String) : Value → Option Value
  | .table entries => (entries.find? fun e => e.1 == key).map Prod.snd
  | _ => none

/-- The qualified name in a table: the texts at its keys `package` and `name`. -/
def printedName? (v : Value) : Option QualifiedName :=
  match v.at? "package", v.at? "name" with
  | some (.text package), some (.text name) => some ⟨package, name⟩
  | _, _ => none

/-- The names in a JSON text: it is a list of tables, and each of them has a name at its key
`name`. -/
def printedNames? (text : String) : Option (List QualifiedName) :=
  match Value.readJson? text with
  | some (.list items) => items.mapM fun item => (item.at? "name").bind printedName?
  | _ => none

/-! ### Texts of models -/

variable {depth : Nat}

theorem QualifiedName.readsBack_encode (hdepth : depth < jsonDepth) (q : QualifiedName) :
    ReadsBack depth q.encode :=
  readsBack_texts hdepth [("package", q.package), ("name", q.name)]

theorem Slot.readsBack_encode (hdepth : depth < jsonDepth) (s : Slot) : ReadsBack depth s.encode :=
  readsBack_texts hdepth [("name", s.name), ("type", s.type)]

theorem Construction.readsBack_encode (hdepth : depth < jsonDepth) (c : Construction) :
    ReadsBack depth c.encode := by
  cases c with
  | default => exact readsBack_text _
  | associated function => exact readsBack_texts hdepth [("associated", function)]

theorem Method.readsBack_encode (hdepth : depth + 1 < jsonDepth) (m : Method) :
    ReadsBack depth m.encode := by
  cases m with
  | factory name => exact readsBack_texts (by omega) [("kind", "factory"), ("name", name)]
  | setter name slot =>
    refine readsBack_table (by omega) ?_
    simp only [List.forall_mem_cons, List.not_mem_nil, false_implies, implies_true, and_true]
    exact ⟨readsBack_text _, readsBack_text _, slot.readsBack_encode hdepth⟩
  | terminal name returns construction assignments =>
    refine readsBack_table (by omega) ?_
    simp only [List.forall_mem_cons, List.not_mem_nil, false_implies, implies_true, and_true]
    exact ⟨readsBack_text _, readsBack_text _, returns.readsBack_encode hdepth,
      construction.readsBack_encode hdepth, readsBack_map hdepth readsBack_text assignments⟩

/-- **The text of a model is read back**, inside a few other values at most. -/
theorem BuilderModel.readsBack_encode (hdepth : depth + 3 < jsonDepth) (b : BuilderModel) :
    ReadsBack depth b.encode := by
  refine readsBack_table (by omega) ?_
  simp only [BuilderModel.entries, List.forall_mem_cons, List.not_mem_nil, false_implies,
    implies_true, and_true]
  exact ⟨b.name.readsBack_encode (by omega), b.target.readsBack_encode (by omega), readsBack_text _,
    readsBack_map (by omega) (Slot.readsBack_encode (by omega)) b.slots,
    readsBack_map (by omega) (Method.readsBack_encode (by omega)) b.methods⟩

/-- **The text of some models holds their names**, in order. -/
theorem printedNames?_models (models : List BuilderModel) :
    printedNames? ((Value.list (models.map BuilderModel.encode)).prettyJson 0 ++ "\n")
      = some (models.map BuilderModel.name) := by
  have hread : ReadsBack 0 (.list (models.map BuilderModel.encode)) :=
    readsBack_map (by decide) (BuilderModel.readsBack_encode (by decide)) models
  -- the table of a model starts with its name
  have hname : ∀ b : BuilderModel, (b.encode.at? "name").bind printedName? = some b.name :=
    fun _ => rfl
  unfold printedNames?
  rw [readJson?_prettyJson_append hread 0 rfl]
  show (models.map BuilderModel.encode).mapM (fun item => (item.at? "name").bind printedName?) = _
  refine mapM_map_of_some ?_ models
  exact hname

end FluentBuilder
