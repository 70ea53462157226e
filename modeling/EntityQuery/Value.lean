import EntityQuery.Calendar.DateTime
import EntityQuery.Guid
import EntityQuery.Number.Binary64.Decimal
import EntityQuery.Text.Quoted

namespace EntityQuery

mutual

/-- The value of one property of an entity. -/
inductive Value where
  | null
  | bool (value : Bool)
  | int (value : Int64)
  | float (value : Binary64)
  | text (value : String)
  | dateTime (value : Calendar.DateTime)
  | guid (value : Guid)
  /-- A value of another type, in its textual form. -/
  | other (value : String)
  | object (entity : Entity)
  | list (items : List Entity)

/-- A thing with named properties. -/
inductive Entity where
  | ofProperties (properties : List (String × Value))

end

def Entity.properties : Entity → List (String × Value)
  | .ofProperties properties => properties

/-- The value of a property, which is null unless the entity has one. -/
def Entity.get (entity : Entity) (name : String) : Value :=
  (entity.properties.lookup name).getD .null

/-- Things that can be filtered and sorted as entities. -/
class AsEntity (α : Type) where
  entity : α → Entity

export AsEntity (entity)

instance : AsEntity Entity := ⟨id⟩

/-- A constant that the value of a property is compared with. -/
inductive Scalar where
  | null
  | bool (value : Bool)
  | int (value : Int64)
  | float (value : Binary64)
  | text (value : String)
  | dateTime (value : Calendar.DateTime)
  | guid (value : Guid)
deriving DecidableEq

namespace Value

def isNull : Value → Bool
  | null => true
  | _ => false

/-- The text of a value that is compared as a text. -/
def asText? : Value → Option String
  | text value | other value => some value
  | _ => none

def kindName : Value → String
  | null => "null"
  | bool _ => "bool"
  | int _ => "int"
  | float _ => "float"
  | text _ => "string"
  | dateTime _ => "datetime"
  | guid _ => "guid"
  | other _ => "other"
  | object _ => "object"
  | list _ => "list"

/-- The place of a kind of value among the others, in which numbers are one kind and so
    are texts. -/
def rank : Value → Nat
  | null => 0
  | bool _ => 1
  | int _ | float _ => 2
  | text _ | other _ => 3
  | dateTime _ => 4
  | guid _ => 5
  | object _ => 6
  | list _ => 7

/-- Compares a value with a constant. Values of different kinds are not comparable, and
    neither is null. An integer and a floating point number are compared as floating point
    numbers. -/
def compareScalar? : Value → Scalar → Option Ordering
  | bool a, .bool b => some (compare a b)
  | int a, .int b => some (compare a b)
  | int a, .float b => (Binary64.ofInt a.toInt).compare? b
  | float a, .int b => a.compare? (Binary64.ofInt b.toInt)
  | float a, .float b => a.compare? b
  | text a, .text b => some (compare a b)
  | other a, .text b => some (compare a b)
  | dateTime a, .dateTime b => some (a.compare b)
  | guid a, .guid b => some (a.compare b)
  | _, _ => none

/-- Compares two values as sort keys. Null comes first, then values of the same kind by
    value and those of different kinds by kind. Collections are compared by size, and two
    related entities are equal. -/
def sortCompare : Value → Value → Ordering
  | bool a, bool b => compare a b
  | int a, int b => compare a b
  | int a, float b => (Binary64.ofInt a.toInt).totalCompare b
  | float a, int b => a.totalCompare (Binary64.ofInt b.toInt)
  | float a, float b => a.totalCompare b
  | dateTime a, dateTime b => a.compare b
  | guid a, guid b => a.compare b
  | list a, list b => compare a.length b.length
  | a, b =>
    match a.asText?, b.asText? with
    | some a, some b => compare a b
    | _, _ => compare a.rank b.rank

/-- A value with its kind, as it is shown to developers. -/
def describe : Value → String
  | null => "Null"
  | bool value => s!"Bool({value})"
  | int value => s!"Int({value})"
  | float value => s!"Float({value.toText})"
  | text value => s!"String({Text.quoted value})"
  | dateTime value => "DateTime(" ++ value.toText ' ' ++ ")"
  | guid value => s!"Guid({value.toText})"
  | other value => s!"Other({Text.quoted value})"
  | object _ => "Object(..)"
  | list items => s!"List(len={items.length})"

end Value

namespace Scalar

def isNull : Scalar → Bool
  | null => true
  | _ => false

def toText : Scalar → String
  | null => "null"
  | bool value => toString value
  | int value => toString value
  | float value => value.toText
  | text value => Text.quoted value
  | dateTime value => value.toText 'T'
  | guid value => value.toText

end Scalar

end EntityQuery
