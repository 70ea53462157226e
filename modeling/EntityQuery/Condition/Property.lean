import EntityQuery.Condition.Basic
import EntityQuery.ValueFilter.Basic

namespace EntityQuery.PropertyContext

/-- The condition of one value filter. A field that is never null meets null checks in
    advance. -/
def filterCondition (context : PropertyContext) (filter : ValueFilter) : Except Fault Predicate :=
  let supported := context.field.kind.supportedOperators
  if !supported.contains filter.operator then
    .error (context.unsupported filter.operator filter.value supported)
  else
    match filter.operator with
    | .isNull => .ok (if context.field.nullable then .isNull context.access else .nothing)
    | .notNull => .ok (if context.field.nullable then .notNull context.access else .everything)
    | operator =>
      match filter.value with
      | none => .error (context.invalidValue operator "")
      | some value => context.condition (Category.ofKind context.field.kind) operator value

/-- The condition of all value filters of one property: some of those that ask for a value
    has to hold, if there are any, and all of those that rule one out. -/
def propertyCondition (context : PropertyContext) (filters : List ValueFilter) :
    Except Fault Predicate := do
  let conditions ← filters.mapM fun filter => do
    return (filter.operator.isNegation, ← context.filterCondition filter)
  let wanted := (conditions.filter fun entry => !entry.1).map (·.2)
  let ruledOut := (conditions.filter (·.1)).map (·.2)
  let anyOf := if wanted.isEmpty then .everything else .someOf wanted
  return .allOf [anyOf, .allOf ruledOut]

end EntityQuery.PropertyContext
