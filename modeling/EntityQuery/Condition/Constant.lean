import EntityQuery.Condition.Context
import EntityQuery.Span.Literal

namespace EntityQuery

/-- The comparison that an operator asks for between values that are equal or ordered. -/
def Comparison.ofOperator? : Operator → Option Comparison
  | .default | .equalCaseSensitive | .equalCaseInsensitive => some .equal
  | .notEqual => some .notEqual
  | .lessThan => some .less
  | .lessThanOrEqual => some .lessOrEqual
  | .greaterThan => some .greater
  | .greaterThanOrEqual => some .greaterOrEqual
  | _ => none

namespace PropertyContext

/-- A truth value: `true` or `false` in any letter case, or a word of the settings. -/
def readBool? (context : PropertyContext) (value : String) : Option Bool :=
  let word := Text.trim value.toList
  if Text.sameIgnoringCase word "true".toList then some true
  else if Text.sameIgnoringCase word "false".toList then some false
  else context.settings.booleanWord? (String.ofList word)

/-- A number as the culture of the settings writes it. -/
def readNumber? (context : PropertyContext) (value : String) : Option Scalar :=
  let culture := context.settings.resolvedCulture
  match context.field.kind with
  | .int => (culture.readInt? value.toList).map Scalar.int
  | _ => (culture.readFloat? value.toList).map Scalar.float

/-- The span that a date literal names. -/
def readSpan? (context : PropertyContext) (value : String) : Option Span :=
  Span.read? context.settings.resolvedCulture context.settings.now value

/-- A comparison of the property with a constant, if there is one. -/
def compared (context : PropertyContext) (operator : Operator) (value : String)
    (comparison : Comparison) (constant : Option Scalar) : Except Fault Predicate :=
  match constant with
  | some constant => .ok (.comparison context.access comparison constant)
  | none => .error (context.invalidValue operator value)

/-- The condition that the property lies within a span of time. -/
def within (context : PropertyContext) (span : Span) : Predicate :=
  .allOf [
    .comparison context.access .greaterOrEqual (.dateTime span.start),
    .comparison context.access .less (.dateTime span.stop)]

/-- The condition on a date or a time. The usual comparison asks whether it lies within the
    span of a literal, and all others compare it with the start of the span. -/
def dateTimeCondition (context : PropertyContext) (operator : Operator) (value : String) :
    Except Fault Predicate :=
  match context.readSpan? value with
  | none => .error (context.invalidValue operator value)
  | some span =>
    match operator with
    | .default | .contains => .ok (context.within span)
    | operator =>
      context.compared operator value ((Comparison.ofOperator? operator).getD .equal)
        (some (.dateTime span.start))

end PropertyContext

end EntityQuery
