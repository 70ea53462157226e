namespace EntityQuery

/-- Ascending order puts null first and descending order puts it last. -/
inductive SortDirection where
  | ascending
  | descending
deriving DecidableEq, Repr

namespace SortDirection

def keyword : SortDirection → String
  | ascending => "ASC"
  | descending => "DESC"

def name : SortDirection → String
  | ascending => "ascending"
  | descending => "descending"

def ofName? (name : String) : Option SortDirection :=
  [ascending, descending].find? fun direction => direction.name == name

/-- The outcome of a comparison seen from the direction. -/
def orient {α : Type} (direction : SortDirection) (compare : α → α → Ordering) (a b : α) :
    Ordering :=
  match direction with
  | ascending => compare a b
  | descending => compare b a

end SortDirection

/-- A property path to sort by. Keys of lower positions come first. -/
structure SortKey where
  path : String
  direction : SortDirection
  position : UInt64
deriving DecidableEq

namespace SortKey

/-- The position behind which there is no other one. -/
def lastPosition : UInt64 := 18446744073709551615

/-- The position right behind the key's own, if there is one. -/
def nextPosition? (key : SortKey) : Option UInt64 :=
  if key.position = lastPosition then none else some (key.position + 1)

/-- The path of a key that sorts entities by themselves, which only has a meaning in a sort
    of related values. -/
def pathToSelf : String := "_self_"

def isSelf (key : SortKey) : Bool := key.path == pathToSelf

def toText (key : SortKey) : String :=
  match key.direction with
  | .ascending => key.path
  | .descending => key.path ++ "-desc"

end SortKey

end EntityQuery
