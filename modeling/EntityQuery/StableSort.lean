namespace EntityQuery.StableSort

/-- Puts an element into a list whose last elements come first, before all elements that
    it is not less than. -/
def insert {α : Type} (less : α → α → Bool) (x : α) : List α → List α
  | [] => [x]
  | y :: rest => if less x y then y :: insert less x rest else x :: y :: rest

/-- The elements of a list in ascending order. Elements of which none is less than the other
    keep their order. -/
def sort {α : Type} (less : α → α → Bool) (xs : List α) : List α :=
  (xs.foldl (fun sorted x => insert less x sorted) []).reverse

end EntityQuery.StableSort
