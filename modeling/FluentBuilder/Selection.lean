import FluentBuilder.Descriptor

/-!
# Selection of fields

A builder offers a setter for every field that a sibling of the type may assign.  A field that it
does not offer is excluded for the first reason that applies.

* `Field.exclusion?`: why a field is left out.
* `TypeDescriptor.eligible`: the fields that are offered, in declaration order.
-/

namespace FluentBuilder

/-- Why a field is left out of the builder. -/
inductive Exclusion where
  | ignored
  | static
  | final
  | priv
  deriving DecidableEq, Repr

/-- The short name of a reason. -/
def Exclusion.label : Exclusion → String
  | .ignored => "ignored"
  | .static => "static"
  | .final => "final"
  | .priv => "private"

/-- A reason in words. -/
def Exclusion.text : Exclusion → String
  | .ignored => "marked #[builder(ignore)]"
  | .static => "static"
  | .final => "final"
  | .priv => "private"

/-- Why a field is left out, if it is. -/
def Field.exclusion? (field : Field) : Option Exclusion :=
  if field.excluded then some .ignored
  else if field.isStatic then some .static
  else if field.isFinal then some .final
  else if field.visibility.isRestricted then some .priv
  else none

/-- Whether a field is offered. -/
def Field.isEligible (field : Field) : Bool :=
  field.exclusion?.isNone

/-- The fields that a builder offers, in declaration order. -/
def TypeDescriptor.eligible (t : TypeDescriptor) : List Field :=
  t.fields.filter Field.isEligible

theorem Field.isEligible_iff (field : Field) :
    field.isEligible = true ↔ field.excluded = false ∧ field.isStatic = false
      ∧ field.isFinal = false
      ∧ field.visibility.isRestricted = false := by
  unfold Field.isEligible Field.exclusion?
  cases field.excluded <;> cases field.isStatic <;> cases field.isFinal
    <;> cases field.visibility.isRestricted <;> simp

end FluentBuilder
