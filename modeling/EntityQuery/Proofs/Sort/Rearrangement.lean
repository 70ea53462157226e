import EntityQuery.Proofs.Sort.Order
import EntityQuery.Sort.Rearrangement
import Mathlib.Data.Finset.Card
import Mathlib.Data.List.Range

namespace EntityQuery

namespace Rearrangement

variable {α : Type} {items : Array α} {origin : Nat → Nat} {left : Finset Nat}
  {state : Rearrangement α} {start current : Nat}

private theorem getElem?_swapIfInBounds {xs : Array α} {i j : Nat} (hi : i < xs.size)
    (hj : j < xs.size) (k : Nat) :
    (xs.swapIfInBounds i j)[k]? = if j = k then xs[i]? else if i = k then xs[j]? else xs[k]? := by
  rw [Array.swapIfInBounds_def, dif_pos hi, dif_pos hj, Array.getElem?_swap,
    Array.getElem?_eq_getElem hi, Array.getElem?_eq_getElem hj]

/-- Going round the cycle of `start` from a position on ends, and leaves one state in the place of
    another. No position on the way lies outside the arrays. -/
inductive Closes (start : Nat) : Nat → Rearrangement α → Rearrangement α → Prop
  | close {current : Nat} {state : Rearrangement α}
    (hsource : state.order[current]? = some start) :
    Closes start current state ⟨state.items, state.order.setIfInBounds current current⟩
  | advance {current next : Nat} {state final : Rearrangement α}
    (hsource : state.order[current]? = some next) (hopen : next ≠ start)
    (hcurrent : current < state.items.size) (hnext : next < state.items.size)
    (hrest : Closes start next
      ⟨state.items.swapIfInBounds current next, state.order.setIfInBounds current current⟩ final) :
    Closes start current state final

/-- The cycles of the first positions are gone round one after the other, each to its end. -/
inductive Completes (initial : Rearrangement α) : Nat → Rearrangement α → Prop
  | zero : Completes initial 0 initial
  | succ {count : Nat} {state final : Rearrangement α} (hearlier : Completes initial count state)
    (hround : Closes count count state final) : Completes initial (count + 1) final

theorem Closes.unique {final other : Rearrangement α} (h : Closes start current state final)
    (h' : Closes start current state other) : final = other := by
  induction h with
  | close hsource =>
    cases h' with
    | close => rfl
    | advance hsource' hopen =>
      rw [hsource] at hsource'
      exact absurd (Option.some.inj hsource').symm hopen
  | advance hsource hopen _ _ _ ih =>
    cases h' with
    | close hsource' =>
      rw [hsource] at hsource'
      exact absurd (Option.some.inj hsource') hopen
    | advance hsource' _ _ _ hrest =>
      rw [hsource] at hsource'
      cases hsource'
      exact ih hrest

theorem Completes.unique {count : Nat} {final other : Rearrangement α}
    (h : Completes state count final) (h' : Completes state count other) : final = other := by
  induction h generalizing other with
  | zero =>
    cases h'
    rfl
  | succ _ hround ih =>
    cases h' with
    | succ hearlier hround' =>
      cases ih hearlier
      exact hround.unique hround'

/-- How far a rearrangement has got. The positions that are left still refer to the ones whose
    elements they are to receive, and all others have their element. -/
structure Progress (items : Array α) (origin : Nat → Nat) (left : Finset Nat)
    (state : Rearrangement α) : Prop where
  items_size : state.items.size = items.size
  order_size : state.order.size = items.size
  lt : ∀ i ∈ left, i < items.size
  waiting : ∀ i ∈ left, state.order[i]? = some (origin i)
  settled : ∀ i < items.size, i ∉ left →
    state.order[i]? = some i ∧ state.items[i]? = items[origin i]?

/-- Between two cycles, the positions that are left have their first elements and lie on cycles of
    their own. -/
structure Between (items : Array α) (origin : Nat → Nat) (left : Finset Nat)
    (state : Rearrangement α) : Prop extends Progress items origin left state where
  origin_mem : ∀ i ∈ left, origin i ∈ left
  kept : ∀ i ∈ left, state.items[i]? = items[i]?

/-- On the way round the cycle of `start`, the current position holds the element of `start`, for
    the position that closes the cycle. -/
structure Within (items : Array α) (origin : Nat → Nat) (start current : Nat)
    (left : Finset Nat) (state : Rearrangement α) : Prop
    extends Progress items origin left state where
  current_mem : current ∈ left
  origin_mem : ∀ i ∈ left, origin i = start ∨ origin i ∈ left
  unreached : ∀ i ∈ left, origin i = current → current = start
  kept : ∀ i ∈ left, i ≠ current → state.items[i]? = items[i]?
  carried : state.items[current]? = items[start]?

theorem Between.within (h : Between items origin left state) (hstart : start ∈ left) :
    Within items origin start start left state where
  toProgress := h.toProgress
  current_mem := hstart
  origin_mem i hi := .inr (h.origin_mem i hi)
  unreached _ _ _ := rfl
  kept i hi _ := h.kept i hi
  carried := h.kept start hstart

theorem Progress.source_eq (h : Progress items origin left state) {i : Nat} (hi : i ∈ left) :
    state.source i = origin i := by
  rw [source, Array.getD_eq_getD_getElem?, h.waiting i hi, Option.getD_some]

/-- Once a position has its element, it refers to itself. -/
theorem Progress.settle (h : Progress items origin left state) (hcurrent : current ∈ left)
    {moved : Array α} (hsize : moved.size = items.size)
    (hmoved : moved[current]? = items[origin current]?)
    (hothers : ∀ i < items.size, i ∉ left → moved[i]? = state.items[i]?) :
    Progress items origin (left.erase current)
      ⟨moved, state.order.setIfInBounds current current⟩ where
  items_size := hsize
  order_size := by rw [Array.size_setIfInBounds, h.order_size]
  lt i hi := h.lt i (Finset.mem_of_mem_erase hi)
  waiting i hi := by
    obtain ⟨hne, hi⟩ := Finset.mem_erase.mp hi
    rw [Array.getElem?_setIfInBounds_ne hne.symm, h.waiting i hi]
  settled i hlt hi := by
    by_cases heq : i = current
    · subst heq
      exact ⟨Array.getElem?_setIfInBounds_self_of_lt (h.order_size.symm ▸ hlt), hmoved⟩
    · have hi' : i ∉ left := fun hmem => hi (Finset.mem_erase.mpr ⟨heq, hmem⟩)
      obtain ⟨horder, hitem⟩ := h.settled i hlt hi'
      rw [Array.getElem?_setIfInBounds_ne (Ne.symm heq), horder, hothers i hlt hi', hitem]
      exact ⟨rfl, rfl⟩

section

variable (hinj : ∀ i < items.size, ∀ j < items.size, origin i = origin j → i = j)

include hinj

/-- The position that refers to `start` receives the element that it holds. -/
theorem Within.close (h : Within items origin start current left state)
    (hclosed : origin current = start) :
    Between items origin (left.erase current)
      ⟨state.items, state.order.setIfInBounds current current⟩ where
  toProgress := h.toProgress.settle h.current_mem h.items_size (hclosed.symm ▸ h.carried)
    fun _ _ _ => rfl
  origin_mem i hi := by
    obtain ⟨hne, hi⟩ := Finset.mem_erase.mp hi
    have hstart : origin i ≠ start := fun hstart =>
      hne (hinj i (h.lt i hi) current (h.lt current h.current_mem) (hstart.trans hclosed.symm))
    refine Finset.mem_erase.mpr ⟨fun hcurrent => ?_, (h.origin_mem i hi).resolve_left hstart⟩
    exact hstart (hcurrent.trans (h.unreached i hi hcurrent))
  kept i hi := by
    obtain ⟨hne, hi⟩ := Finset.mem_erase.mp hi
    exact h.kept i hi hne

/-- The current position receives its element, and the next one holds that of `start`. -/
theorem Within.advance (h : Within items origin start current left state)
    (hopen : origin current ≠ start) :
    Within items origin start (origin current) (left.erase current)
      ⟨state.items.swapIfInBounds current (origin current),
        state.order.setIfInBounds current current⟩ := by
  have hnext : origin current ∈ left := (h.origin_mem current h.current_mem).resolve_left hopen
  have hne : origin current ≠ current := fun heq =>
    hopen (heq.trans (h.unreached current h.current_mem heq))
  have hget (i : Nat) : (state.items.swapIfInBounds current (origin current))[i]? =
      if origin current = i then state.items[current]?
      else if current = i then state.items[origin current]? else state.items[i]? :=
    getElem?_swapIfInBounds (h.items_size.symm ▸ h.lt current h.current_mem)
      (h.items_size.symm ▸ h.lt _ hnext) i
  have hothers : ∀ i < items.size, i ∉ left →
      (state.items.swapIfInBounds current (origin current))[i]? = state.items[i]? := by
    intro i _ hi
    have hnotNext : origin current ≠ i := fun heq => hi (heq ▸ hnext)
    have hnotCurrent : current ≠ i := fun heq => hi (heq ▸ h.current_mem)
    rw [hget, if_neg hnotNext, if_neg hnotCurrent]
  have hprogress := h.toProgress.settle h.current_mem
    (by rw [Array.size_swapIfInBounds, h.items_size])
    (by rw [hget, if_neg hne, if_pos rfl, h.kept _ hnext hne]) hothers
  exact {
    toProgress := hprogress
    current_mem := Finset.mem_erase.mpr ⟨hne, hnext⟩
    origin_mem := fun i hi => by
      obtain ⟨hne, hi⟩ := Finset.mem_erase.mp hi
      by_cases hcurrent : origin i = current
      · exact .inl (hcurrent.trans (h.unreached i hi hcurrent))
      · exact (h.origin_mem i hi).imp_right fun hmem => Finset.mem_erase.mpr ⟨hcurrent, hmem⟩
    unreached := fun i hi hsame => by
      obtain ⟨hne, hi⟩ := Finset.mem_erase.mp hi
      exact absurd (hinj i (h.lt i hi) current (h.lt current h.current_mem) hsame) hne
    kept := fun i hi hnot => by
      obtain ⟨hne, hi⟩ := Finset.mem_erase.mp hi
      rw [hget, if_neg hnot.symm, if_neg hne.symm, h.kept i hi hne]
    carried := by rw [hget, if_pos rfl, h.carried] }

/-- No cycle has more positions than are left, so that going round it ends. -/
theorem Within.closes_followCycle (h : Within items origin start current left state) {steps : Nat}
    (hsteps : left.card ≤ steps) :
    Closes start current state (followCycle start steps current state) ∧
      ∃ rest ⊆ left.erase current, Between items origin rest
        (followCycle start steps current state) := by
  induction steps generalizing current left state with
  | zero =>
    have hpositive := Finset.card_pos.mpr ⟨current, h.current_mem⟩
    omega
  | succ steps ih =>
    have hsource := h.waiting current h.current_mem
    rw [followCycle, h.source_eq h.current_mem]
    split
    case isTrue hclosed =>
      have hstart : origin current = start := beq_iff_eq.mp hclosed
      exact ⟨.close (hstart ▸ hsource), _, subset_rfl, h.close hinj hstart⟩
    case isFalse hopen =>
      have hstart : origin current ≠ start := by simpa using hopen
      have hnext := (h.origin_mem current h.current_mem).resolve_left hstart
      have hcard : (left.erase current).card ≤ steps := by
        rw [Finset.card_erase_of_mem h.current_mem]
        omega
      obtain ⟨hcloses, rest, hrest, hbetween⟩ := ih (h.advance hinj hstart) hcard
      refine ⟨.advance hsource hstart ?_ ?_ hcloses, rest,
        hrest.trans (Finset.erase_subset _ _), hbetween⟩
      · exact h.items_size.symm ▸ h.lt current h.current_mem
      · exact h.items_size.symm ▸ h.lt _ hnext

/-- One round ends and leaves no position of the cycle of `start`. -/
theorem Between.round (h : Between items origin left state) (hstart : start < items.size) :
    Closes start start state (followCycle start state.order.size start state) ∧
      ∃ rest ⊆ left.erase start, Between items origin rest
        (followCycle start state.order.size start state) := by
  by_cases hmem : start ∈ left
  · refine (h.within hmem).closes_followCycle hinj ?_
    have hbelow : left ⊆ Finset.range items.size := fun i hi => Finset.mem_range.mpr (h.lt i hi)
    rw [h.order_size]
    exact (Finset.card_le_card hbelow).trans (Finset.card_range _).le
  · -- The position has its element already and refers to itself, so that nothing changes.
    have horder := (h.settled start hstart hmem).1
    have hunchanged : state.order.setIfInBounds start start = state.order := by
      refine Array.ext_getElem? fun i => ?_
      rw [Array.getElem?_setIfInBounds]
      split
      case isTrue heq =>
        subst heq
        rw [if_pos (h.order_size.symm ▸ hstart), horder]
      case isFalse => rfl
    have hsource : state.source start = start := by
      rw [source, Array.getD_eq_getD_getElem?, horder, Option.getD_some]
    have hround : followCycle start state.order.size start state = state := by
      rw [h.order_size, ← Nat.succ_pred_eq_of_pos (Nat.zero_lt_of_lt hstart), followCycle, hsource,
        hunchanged]
      simp
    have hcloses : Closes start start state state := by
      simpa only [hunchanged] using Closes.close horder
    rw [hround]
    exact ⟨hcloses, left, (Finset.erase_eq_of_notMem hmem).ge, h⟩

theorem Between.rounds (h : Between items origin left state) {count : Nat}
    (hcount : count ≤ items.size) :
    let final := (List.range count).foldl
      (fun state start => followCycle start state.order.size start state) state
    Completes state count final ∧
      ∃ rest ⊆ left, (∀ i ∈ rest, count ≤ i) ∧ Between items origin rest final := by
  induction count with
  | zero => exact ⟨.zero, left, subset_rfl, fun _ _ => Nat.zero_le _, h⟩
  | succ count ih =>
    obtain ⟨hearlier, rest, hrest, hle, hbetween⟩ := ih (Nat.le_of_succ_le hcount)
    obtain ⟨hcloses, next, hnext, hround⟩ := hbetween.round hinj hcount
    rw [List.range_succ, List.foldl_append]
    refine ⟨.succ hearlier hcloses, next, (hnext.trans (Finset.erase_subset _ _)).trans hrest,
      fun i hi => ?_, hround⟩
    obtain ⟨hne, hmem⟩ := Finset.mem_erase.mp (hnext hi)
    exact Nat.lt_of_le_of_ne (hle i hmem) hne.symm

/-- A rearrangement comes to an end, and gives every position its element. -/
theorem Between.run (h : Between items origin left state) :
    Completes state items.size state.run ∧ state.run.items.size = items.size ∧
      ∀ i < items.size, state.run.items[i]? = items[origin i]? := by
  obtain ⟨hcompletes, rest, -, hle, hbetween⟩ := h.rounds hinj le_rfl
  rw [← h.order_size] at hbetween
  refine ⟨?_, hbetween.items_size, fun i hi => (hbetween.settled i hi fun hmem => ?_).2⟩
  · rwa [← h.order_size] at hcompletes ⊢
  · have hge := hle i hmem
    omega

end

end Rearrangement

section

variable {α : Type} {items : Array α} {order : List Nat}
  (hperm : order.Perm (List.range items.size))

include hperm

private theorem length_order : order.length = items.size := by
  rw [hperm.length_eq, List.length_range]

private theorem getElem?_order {i : Nat} (hi : i < items.size) :
    order[i]? = some (order.getD i i) ∧ order.getD i i < items.size := by
  have hlt : i < order.length := (length_order hperm).symm ▸ hi
  rw [List.getD_eq_getElem?_getD, List.getElem?_eq_getElem hlt, Option.getD_some]
  exact ⟨rfl, List.mem_range.mp (hperm.mem_iff.mp (List.getElem_mem hlt))⟩

private theorem order_injective : ∀ i < items.size, ∀ j < items.size,
    order.getD i i = order.getD j j → i = j := by
  intro i hi j hj hsame
  have hnodup : order.Nodup := hperm.nodup_iff.mpr List.nodup_range
  have hlt : i < order.length := (length_order hperm).symm ▸ hi
  refine (List.getElem?_inj hlt hnodup).mp ?_
  rw [(getElem?_order hperm hi).1, (getElem?_order hperm hj).1, hsame]

private theorem between_all : Rearrangement.Between items (fun i => order.getD i i)
    (Finset.range items.size) ⟨items, order.toArray⟩ where
  items_size := rfl
  order_size := List.size_toArray.trans (length_order hperm)
  lt i hi := Finset.mem_range.mp hi
  waiting i hi := by
    rw [List.getElem?_toArray, (getElem?_order hperm (Finset.mem_range.mp hi)).1]
  settled i hlt hi := absurd (Finset.mem_range.mpr hlt) hi
  origin_mem i hi := Finset.mem_range.mpr (getElem?_order hperm (Finset.mem_range.mp hi)).2
  kept _ _ := rfl

private theorem run_rearrangement :
    Rearrangement.Completes ⟨items, order.toArray⟩ items.size
        (Rearrangement.run ⟨items, order.toArray⟩) ∧
      (rearrange items order).size = items.size ∧
      ∀ i < items.size, (rearrange items order)[i]? = items[order.getD i i]? :=
  (between_all hperm).run (order_injective hperm)

/-- The loops that move the elements end in one state, which is the one that is computed. -/
theorem completes_iff {final : Rearrangement α} :
    Rearrangement.Completes ⟨items, order.toArray⟩ order.length final ↔
      final = Rearrangement.run ⟨items, order.toArray⟩ := by
  have hcompletes := (run_rearrangement hperm).1
  rw [length_order hperm]
  constructor
  · exact fun h => h.unique hcompletes
  · rintro rfl
    exact hcompletes

theorem size_rearrange : (rearrange items order).size = items.size := (run_rearrangement hperm).2.1

/-- Each position is left with the element at the position that is given for it. -/
theorem getElem?_rearrange {i position : Nat} (hposition : order[i]? = some position) :
    (rearrange items order)[i]? = items[position]? := by
  have hi : i < items.size := length_order hperm ▸ (List.getElem?_eq_some_iff.mp hposition).1
  rw [(run_rearrangement hperm).2.2 i hi, List.getD_eq_getElem?_getD, hposition, Option.getD_some]

/-- Elements that are moved within an array are the elements at the given positions, provided that
    each position is given once. -/
theorem toList_rearrange : (rearrange items order).toList = order.filterMap (items[·]?) := by
  have hsome : (rearrange items order).toList.map some = order.map (items[·]?) := by
    refine List.ext_getElem? fun i => ?_
    rw [List.getElem?_map, List.getElem?_map, Array.getElem?_toList]
    by_cases hi : i < items.size
    · obtain ⟨horder, hlt⟩ := getElem?_order hperm hi
      rw [getElem?_rearrange hperm horder, horder, Option.map_some,
        Array.getElem?_eq_getElem hlt]
      rfl
    · have hlength := length_order hperm
      have hsize := size_rearrange hperm
      rw [List.getElem?_eq_none (by omega), Array.getElem?_eq_none (by omega)]
      rfl
  have hgathered : order.filterMap (items[·]?) = (order.map (items[·]?)).filterMap id := by
    rw [List.filterMap_map]
    rfl
  rw [hgathered, ← hsome, List.filterMap_map]
  exact List.filterMap_some.symm

end

end EntityQuery
