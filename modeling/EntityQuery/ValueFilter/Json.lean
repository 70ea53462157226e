import EntityQuery.Json.Part
import EntityQuery.ValueFilter.Basic

namespace EntityQuery.ValueFilter

open Document

/-- The filter as an object, in which a missing value has no key. -/
def toJson (filter : ValueFilter) : Json :=
  .ofMembers (("operator", .string filter.operator.name) ::
    filter.value.toList.map fun value => ("value", .string value))

/-- Reads a filter. Values of null checks are kept. -/
def ofPart? (part : Json.Part) : Option ValueFilter := do
  let fields ← part.fields? false ["operator", "value"]
  return {
    operator := ← required? fields "operator" (chosen? Operator.ofName?)
    value := ← given? fields "value" none (Json.Part.option? text?) }

end EntityQuery.ValueFilter
