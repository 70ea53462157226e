import EntityQuery.Model
import EntityQuery.Operator

namespace EntityQuery

/-- The ways in which the values of fields are read and compared. -/
inductive Category where
  | text
  | guid
  | dateTime
  | boolean
  | numeric
  | enumeration
  /-- Values of other types, compared in their textual form. -/
  | fallback
deriving DecidableEq, Repr

namespace Category

/-- All categories, the fallback last. -/
def all : List Category := [text, guid, dateTime, boolean, numeric, enumeration, fallback]

def name : Category → String
  | text => "string"
  | guid => "guid"
  | dateTime => "datetime"
  | boolean => "boolean"
  | numeric => "numeric"
  | enumeration => "enum"
  | fallback => "fallback"

/-- Whether a category is made for a kind of field. The fallback takes all of them. -/
def handles : Category → FieldKind → Bool
  | text, .text => true
  | guid, .guid => true
  | dateTime, .dateTime => true
  | boolean, .bool => true
  | numeric, .int => true
  | numeric, .float => true
  | enumeration, .enumeration _ => true
  | fallback, _ => true
  | _, _ => false

def ofKind (kind : FieldKind) : Category := (all.find? (·.handles kind)).getD fallback

/-- The operators that a category takes, with the null checks at the end. -/
def supported : Category → List Operator
  | text | enumeration => [
      .default, .contains, .startsWith, .endsWith, .equalCaseSensitive, .equalCaseInsensitive,
      .notEqual, .isNull, .notNull]
  | guid | boolean | fallback => [
      .default, .equalCaseSensitive, .equalCaseInsensitive, .notEqual, .isNull, .notNull]
  | dateTime => [
      .default, .contains, .equalCaseSensitive, .equalCaseInsensitive, .notEqual, .lessThan,
      .lessThanOrEqual, .greaterThan, .greaterThanOrEqual, .isNull, .notNull]
  | numeric => [
      .default, .equalCaseSensitive, .equalCaseInsensitive, .notEqual, .lessThan,
      .lessThanOrEqual, .greaterThan, .greaterThanOrEqual, .isNull, .notNull]

/-- Whether a category compares with a value in the way of an operator. -/
def compares (category : Category) (operator : Operator) : Bool :=
  operator.requiresValue && category.supported.contains operator

end Category

/-- The operators that a field of any kind takes: fields that hold no value only have null
    checks. -/
def FieldKind.supportedOperators (kind : FieldKind) : List Operator :=
  if kind.isScalar then (Category.ofKind kind).supported else [.isNull, .notNull]

end EntityQuery
