import EntityQuery.Condition.Constant
import EntityQuery.Condition.Enumeration

namespace EntityQuery.PropertyContext

/-- The condition on a text. The usual comparison looks for the value anywhere in it. -/
def textCondition (context : PropertyContext) (operator : Operator) (value : String) : Predicate :=
  let ignoreCase := context.settings.textComparison.ignoresCase
  match operator with
  | .startsWith => .textMatch context.access .startsWith value ignoreCase
  | .endsWith => .textMatch context.access .endsWith value ignoreCase
  | .equalCaseSensitive => .textMatch context.access .equals value false
  | .equalCaseInsensitive => .textMatch context.access .equals value true
  | .notEqual => .not (.textMatch context.access .equals value true)
  | _ => .textMatch context.access .contains value ignoreCase

/-- The condition on a value of another type, which is compared in its textual form. -/
def fallbackCondition (context : PropertyContext) (operator : Operator) (value : String) :
    Predicate :=
  match operator with
  | .equalCaseInsensitive => .textMatch context.access .equals value true
  | .notEqual => .comparison context.access .notEqual (.text value)
  | _ => .comparison context.access .equal (.text value)

/-- The comparison of an operator with a constant that a text is read as. -/
def constantCondition (context : PropertyContext) (operator : Operator) (value : String)
    (constant : Option Scalar) : Except Fault Predicate :=
  context.compared operator value ((Comparison.ofOperator? operator).getD .equal) constant

/-- The condition that an operator and a value put on the property, read in the way of a
    category. Operators that the category does not compare with are refused, except that
    for members of an enumeration all further operators look for a part of their names. -/
def condition (context : PropertyContext) (category : Category) (operator : Operator)
    (value : String) : Except Fault Predicate :=
  let refused := context.unsupported operator (some value) category.supported
  match category, context.field.kind with
  | .enumeration, .enumeration members => context.memberCondition members operator value
  | .enumeration, _ => .error refused
  | category, _ =>
    if category.compares operator then
      match category with
      | .text => .ok (context.textCondition operator value)
      | .guid =>
        context.constantCondition operator value
          ((Guid.read? (Text.trim value.toList)).map Scalar.guid)
      | .dateTime => context.dateTimeCondition operator value
      | .boolean =>
        context.constantCondition operator value ((context.readBool? value).map Scalar.bool)
      | .numeric => context.constantCondition operator value (context.readNumber? value)
      | _ => .ok (context.fallbackCondition operator value)
    else .error refused

end EntityQuery.PropertyContext
