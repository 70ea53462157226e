import EntityQuery.Condition.Context
import EntityQuery.Number.Integer
import EntityQuery.Text.Lowercase

namespace EntityQuery.PropertyContext

/-- Whether the name of a member matches a text. Apart from exact equality, letter case is
    ignored. -/
def memberMatches (operator : Operator) (value : List Char) (member : EnumMember) : Bool :=
  let wanted := Text.trim value
  let name := Text.lowercase member.name.toList
  let needle := Text.lowercase wanted
  match operator with
  | .startsWith => needle.isPrefixOf name
  | .endsWith => needle.isSuffixOf name
  | .equalCaseSensitive => member.name.toList == wanted
  | .equalCaseInsensitive | .notEqual => name == needle
  | _ => Text.occursIn needle name

/-- Whether an operator asks for one member by its full name. -/
def namesMember : Operator → Bool
  | .equalCaseSensitive | .equalCaseInsensitive | .notEqual => true
  | _ => false

/-- The condition on a member of an enumeration. A number stands for the member of that
    value; any other text for all members whose names match it, and one of them at least
    has to match a full name. -/
def memberCondition (context : PropertyContext) (members : List EnumMember)
    (operator : Operator) (value : String) : Except Fault Predicate :=
  let negated := operator == .notEqual
  let comparison := if negated then Comparison.notEqual else Comparison.equal
  let ofNumber := fun (number : Int64) =>
    Predicate.comparison context.access comparison (.int number)
  let number :=
    if namesMember operator || operator == .default then
      Number.readInt64 (Text.trim value.toList)
    else none
  match number with
  | some number => .ok (ofNumber number)
  | none =>
    let matched := members.filter (memberMatches operator value.toList)
    if matched.isEmpty && namesMember operator then
      .error (context.invalidChoice operator value (members.map (·.name)))
    else
      let parts := matched.map fun member => ofNumber member.value
      .ok (if negated then .allOf parts else .someOf parts)

end EntityQuery.PropertyContext
