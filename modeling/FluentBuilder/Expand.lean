import FluentBuilder.Describe
import FluentBuilder.Layout.BuilderLayout

/-!
# Expansion of a declaration

The builder that stands beside a declared struct, made from the declaration alone.

* `expand`: the code of the builder, or the reason why there is none.
-/

namespace FluentBuilder

open FluentBuilder.Code

/-- Why a declaration has no builder. -/
inductive ExpandError where
  | describe (error : DescribeError)
  | violation (violation : Violation)
  | code (error : CodeError)
  deriving DecidableEq, Repr

/-- A reason in words. -/
def ExpandError.message : ExpandError → String
  | .describe e => e.message
  | .violation v => v.message
  | .code e => e.message

/-- The code of the builder of a declaration.  Only the attributes say how a value is constructed,
and without them the default does. -/
def expand (input : TypeDeclaration) : Except ExpandError BuilderCode := do
  let t ← (describe input "" none).mapError .describe
  let model ← (synthesize t).mapError .violation
  model.code.mapError .code

end FluentBuilder
