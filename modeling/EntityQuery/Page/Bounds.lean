namespace EntityQuery

/-- How many items a page leaves out at the start and how many it has at most. -/
structure PageBounds where
  skip : Option Nat
  take : Option Nat
deriving DecidableEq

namespace PageBounds

/-- The greatest count of items, which stands for no bound. -/
def unbounded : Nat := UInt64.size - 1

def isEmpty (bounds : PageBounds) : Bool := bounds.skip.isNone && bounds.take.isNone

/-- The bounds as a `LIMIT` and `OFFSET` clause. -/
def toSql (bounds : PageBounds) : String :=
  let limit := bounds.take.toList.map fun take => s!"LIMIT {take}"
  let offset := bounds.skip.toList.map fun skip => s!"OFFSET {skip}"
  String.intercalate " " (limit ++ offset)

/-- The items within the bounds. -/
def apply {α : Type} (bounds : PageBounds) (items : List α) : List α :=
  let rest := items.drop (bounds.skip.getD 0)
  match bounds.take with
  | some take => rest.take take
  | none => rest

end PageBounds

end EntityQuery
