namespace EntityQuery

/-- An array that is being rearranged: position `i` is to receive the element that was at
    `order[i]`, and a position that has its element refers to itself. -/
structure Rearrangement (α : Type) where
  items : Array α
  order : Array Nat

namespace Rearrangement

variable {α : Type}

/-- The position whose element a position is to receive. -/
def source (state : Rearrangement α) (position : Nat) : Nat := state.order.getD position position

/-- Goes round the cycle of positions that `start` lies on, giving each position its element.
    No cycle has more positions than there are. -/
def followCycle (start : Nat) : Nat → Nat → Rearrangement α → Rearrangement α
  | 0, _, state => state
  | steps + 1, current, state =>
    let next := state.source current
    let settled := state.order.setIfInBounds current current
    if next == start then ⟨state.items, settled⟩
    else followCycle start steps next ⟨state.items.swapIfInBounds current next, settled⟩

def run (state : Rearrangement α) : Rearrangement α :=
  (List.range state.order.size).foldl
    (fun state start => followCycle start state.order.size start state) state

end Rearrangement

/-- The elements of an array in the order of the given positions, moved within the array. -/
def rearrange {α : Type} (items : Array α) (order : List Nat) : Array α :=
  (Rearrangement.run ⟨items, order.toArray⟩).items

end EntityQuery
