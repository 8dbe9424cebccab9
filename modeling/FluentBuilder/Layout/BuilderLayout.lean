import FluentBuilder.BuilderItems
import FluentBuilder.Layout.TreeLayout

/-!
# The text of builders

* `BuilderCode.text`: the items of a builder as source text.
* `BuilderFile.text`: the items of a file as source text.
-/

namespace FluentBuilder

open FluentBuilder.Code FluentBuilder.Layout

/-- Items as source text. -/
def Code.itemsText (items : List Item) : String :=
  render (itemsLayout items)

/-- The items of a builder as source text. -/
def BuilderCode.text (b : BuilderCode) : String :=
  itemsText b.items

/-- The items of a file as source text. -/
def BuilderFile.text (file : BuilderFile) : String :=
  itemsText file.items

/-- The items of a model as source text. -/
def BuilderModel.source (b : BuilderModel) : Except CodeError String := do
  return (← b.code).text

/-- The file of a model as source text. -/
def BuilderModel.fileSource (b : BuilderModel) : Except CodeError String := do
  return (← b.fileCode).text

end FluentBuilder
