import EntityQuery.Access
import EntityQuery.Sort.Key
import EntityQuery.Sort.Rearrangement
import EntityQuery.StableSort

namespace EntityQuery

/-- An order of items by several keys, of which the earlier ones count more. -/
structure CompiledSort where
  keys : List (Access × SortDirection)
  /-- Whether every step of a path is checked for a missing entity. -/
  guarded : Bool

namespace CompiledSort

def isEmpty (sort : CompiledSort) : Bool := sort.keys.isEmpty

def row (sort : CompiledSort) (entity : Entity) : Except Fault (List Value) :=
  sort.keys.mapM fun key => key.1.resolve entity sort.guarded

/-- Compares two rows by the first key in which they differ. -/
def compareRows : List (Access × SortDirection) → List Value → List Value → Ordering
  | (_, direction) :: keys, a :: as, b :: bs =>
    (direction.orient Value.sortCompare a b).then (compareRows keys as bs)
  | _, _, _ => .eq

variable {α : Type} [AsEntity α]

/-- The positions of items in sorted order. Items that no key tells apart keep their order. -/
def order (sort : CompiledSort) (items : List α) : Except Fault (List Nat) := do
  if sort.isEmpty then return List.range items.length
  let rows ← items.mapM fun item => sort.row (entity item)
  let less := fun (a b : List Value × Nat) => compareRows sort.keys a.1 b.1 == .lt
  return (StableSort.sort less rows.zipIdx).map (·.2)

def sorted (sort : CompiledSort) (items : List α) : Except Fault (List α) := do
  return (← sort.order items).filterMap fun position => items[position]?

/-- Sorts an array of items by moving them within it, once all keys have been read. -/
def sortInPlace (sort : CompiledSort) : EStateM Fault (Array α) Unit := do
  let order ← MonadExcept.ofExcept (sort.order (← get).toList)
  modify (rearrange · order)

/-- The array that sorting in place leaves. -/
def sortArray (sort : CompiledSort) (items : Array α) : Except Fault (Array α) :=
  match sort.sortInPlace.run items with
  | .ok _ arranged => .ok arranged
  | .error fault _ => .error fault

/-- The keys as the list of an `ORDER BY` clause. -/
def toSql (sort : CompiledSort) : String :=
  String.intercalate ", " (sort.keys.map fun key => key.1.path ++ " " ++ key.2.keyword)

end CompiledSort

end EntityQuery
