import EntityQuery.Condition.Category
import EntityQuery.Predicate.Simplified
import EntityQuery.Settings.Filter

namespace EntityQuery

/-- The property that a condition is about. -/
structure PropertyContext where
  model : Model
  field : Field
  access : Access
  settings : FilterSettings

namespace PropertyContext

/-- A field of the entity itself. -/
def ofField (model : Model) (field : Field) (settings : FilterSettings) : PropertyContext :=
  ⟨model, field, Access.root.member field.name false, settings⟩

/-- The fault of a text that is no value of the field's type. -/
def invalidValue (context : PropertyContext) (operator : Operator) (value : String) : Fault :=
  .invalidFilterValue context.model.name context.field.name context.field.typeName operator
    (some value) none

/-- The fault of a text that is none of the names to choose from. -/
def invalidChoice (context : PropertyContext) (operator : Operator) (value : String)
    (names : List String) : Fault :=
  .invalidFilterValue context.model.name context.field.name context.field.typeName operator
    (some value) (some names)

/-- The fault of an operator that the field's type does not take. -/
def unsupported (context : PropertyContext) (operator : Operator) (value : Option String)
    (supported : List Operator) : Fault :=
  .unsupportedOperator context.model.name context.field.name context.field.typeName operator
    value supported

end PropertyContext

end EntityQuery
