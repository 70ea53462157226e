import EntityQuery.Text.Basic

namespace EntityQuery

/-- The comparison that a value filter makes. Each kind of field takes some of them. -/
inductive Operator where
  /-- The usual comparison of the field's kind. -/
  | default
  | contains
  | startsWith
  | endsWith
  | equalCaseSensitive
  | equalCaseInsensitive
  /-- Several values of this operator mean "none of these". -/
  | notEqual
  | lessThan
  | lessThanOrEqual
  | greaterThan
  | greaterThanOrEqual
  | isNull
  | notNull
deriving DecidableEq, Repr

namespace Operator

/-- All operators in their usual order. -/
def all : List Operator := [
  default, contains, startsWith, endsWith, equalCaseSensitive, equalCaseInsensitive, notEqual,
  lessThan, lessThanOrEqual, greaterThan, greaterThanOrEqual, isNull, notNull]

def name : Operator → String
  | default => "Default"
  | contains => "Contains"
  | startsWith => "StartsWith"
  | endsWith => "EndsWith"
  | equalCaseSensitive => "EqualCaseSensitive"
  | equalCaseInsensitive => "EqualCaseInsensitive"
  | notEqual => "NotEqual"
  | lessThan => "LessThan"
  | lessThanOrEqual => "LessThanOrEqual"
  | greaterThan => "GreaterThan"
  | greaterThanOrEqual => "GreaterThanOrEqual"
  | isNull => "IsNull"
  | notNull => "NotNull"

/-- The operator with exactly this name. -/
def ofName? (name : String) : Option Operator := all.find? fun operator => operator.name == name

/-- The operator whose name differs from a text at most in letter case. -/
def read? (text : String) : Option Operator :=
  all.find? fun operator => Text.sameIgnoringCase operator.name.toList text.toList

/-- Whether the operator compares with a value. -/
def requiresValue : Operator → Bool
  | isNull | notNull => false
  | _ => true

/-- Whether several filters with the operator all have to hold. -/
def isNegation : Operator → Bool
  | notEqual => true
  | _ => false

end Operator

end EntityQuery
