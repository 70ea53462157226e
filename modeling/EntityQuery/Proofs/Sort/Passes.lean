import EntityQuery.Proofs.Sort.Selection

namespace EntityQuery.CompiledSort

variable {α : Type} [AsEntity α] {sort : CompiledSort} {items : List α} {guarded : Bool}
  {key : Access × SortDirection} {keys : List (Access × SortDirection)}

theorem row_cons_eq_ok_iff {entity : Entity} {row : List Value} :
    CompiledSort.row ⟨key :: keys, guarded⟩ entity = .ok row ↔ ∃ value rest,
      CompiledSort.row ⟨[key], guarded⟩ entity = .ok [value] ∧
      CompiledSort.row ⟨keys, guarded⟩ entity = .ok rest ∧ row = value :: rest := by
  simp only [CompiledSort.row, mapM_eq_ok_iff, List.forall₂_cons_left_iff,
    List.forall₂_nil_left_iff]
  constructor
  · rintro ⟨value, rest, hvalue, hrest, rfl⟩
    exact ⟨value, rest, ⟨value, [], hvalue, rfl, rfl⟩, hrest, rfl⟩
  · rintro ⟨value, rest, ⟨_, _, hvalue, rfl, hsingle⟩, hrest, rfl⟩
    cases hsingle
    exact ⟨value, rest, hvalue, hrest, rfl⟩

namespace Sortable

theorem perm {arranged : List α} (h : sort.Sortable items) (hperm : arranged.Perm items) :
    sort.Sortable arranged where
  row item hitem := h.row item (hperm.mem_iff.mp hitem)
  uniform first hfirst second hsecond :=
    h.uniform first (hperm.mem_iff.mp hfirst) second (hperm.mem_iff.mp hsecond)

variable (h : CompiledSort.Sortable ⟨key :: keys, guarded⟩ items)

include h

/-- The row of an item is its value under the first key and then its row under the others. -/
private theorem exists_rowOf {item : α} (hitem : item ∈ items) : ∃ value,
    CompiledSort.row ⟨[key], guarded⟩ (entity item) = .ok [value] ∧
    CompiledSort.row ⟨keys, guarded⟩ (entity item) = .ok (CompiledSort.rowOf ⟨keys, guarded⟩ item) ∧
    CompiledSort.rowOf ⟨[key], guarded⟩ item = [value] ∧
    CompiledSort.rowOf ⟨key :: keys, guarded⟩ item =
      value :: CompiledSort.rowOf ⟨keys, guarded⟩ item := by
  obtain ⟨value, rest, hvalue, hrest, hrow⟩ := row_cons_eq_ok_iff.mp (h.row item hitem)
  have hothers : CompiledSort.rowOf ⟨keys, guarded⟩ item = rest := by rw [rowOf, hrest]
  rw [hothers]
  exact ⟨value, hvalue, hrest, by rw [rowOf, hvalue], hrow⟩

theorem first : CompiledSort.Sortable ⟨[key], guarded⟩ items where
  row item hitem := by
    obtain ⟨value, hvalue, -, hrow, -⟩ := h.exists_rowOf hitem
    rw [hrow, hvalue]
  uniform item hitem other hother := by
    obtain ⟨value, -, -, hsingle, hrow⟩ := h.exists_rowOf hitem
    obtain ⟨value', -, -, hsingle', hrow'⟩ := h.exists_rowOf hother
    have huniform := h.uniform item hitem other hother
    rw [hrow, hrow', List.forall₂_cons] at huniform
    rw [hsingle, hsingle']
    exact .cons huniform.1 .nil

theorem others : CompiledSort.Sortable ⟨keys, guarded⟩ items where
  row item hitem := by
    obtain ⟨_, -, hrest, -, -⟩ := h.exists_rowOf hitem
    exact hrest
  uniform item hitem other hother := by
    obtain ⟨value, -, -, -, hrow⟩ := h.exists_rowOf hitem
    obtain ⟨value', -, -, -, hrow'⟩ := h.exists_rowOf hother
    have huniform := h.uniform item hitem other hother
    rw [hrow, hrow', List.forall₂_cons] at huniform
    exact huniform.2

/-- An item comes before another one by its first key, or if that ties, by the others. -/
theorem before_eq {first second : α} (hfirst : first ∈ items) (hsecond : second ∈ items) :
    CompiledSort.before ⟨key :: keys, guarded⟩ first second =
      StableSort.lessThen (CompiledSort.before ⟨[key], guarded⟩)
        (CompiledSort.before ⟨keys, guarded⟩) first second := by
  obtain ⟨a, -, -, hsingle, hrow⟩ := h.exists_rowOf hfirst
  obtain ⟨b, -, -, hsingle', hrow'⟩ := h.exists_rowOf hsecond
  have huniform := h.uniform first hfirst second hsecond
  rw [hrow, hrow', List.forall₂_cons] at huniform
  have hswap := (Value.comparesOn_orient key.2).swap huniform.1
  simp only [StableSort.lessThen, before, hrow, hrow', hsingle, hsingle', compareRows, hswap]
  cases key.2.orient Value.sortCompare a b <;> simp

/-- Sorting by all keys is sorting by the others and then by the first. -/
theorem sort_sort :
    StableSort.sort (CompiledSort.before ⟨[key], guarded⟩)
        (StableSort.sort (CompiledSort.before ⟨keys, guarded⟩) items) =
      StableSort.sort (CompiledSort.before ⟨key :: keys, guarded⟩) items := by
  rw [StableSort.sort_sort_of_mem h.first.ordersByRank h.others.ordersByRank]
  exact StableSort.sort_congr h.ordersByRank fun first hfirst second hsecond =>
    (h.before_eq hfirst hsecond).symm

end Sortable

/-- Passes by one key each, from the last key to the first, sort by all keys. -/
theorem Sortable.passes_eq (h : CompiledSort.Sortable ⟨keys, guarded⟩ items) :
    keys.foldrM (fun key items => CompiledSort.sorted ⟨[key], guarded⟩ items) items =
      .ok (StableSort.sort (CompiledSort.before ⟨keys, guarded⟩) items) := by
  induction keys with
  | nil =>
    have hnone : items.Pairwise fun first second =>
        CompiledSort.before ⟨[], guarded⟩ second first = false :=
      List.pairwise_of_forall fun _ _ => rfl
    rw [StableSort.sort_eq_self hnone]
    rfl
  | cons key keys ih =>
    have hfirst := h.first.perm (StableSort.sort_perm (CompiledSort.before ⟨keys, guarded⟩) items)
    rw [List.foldrM_cons, ih h.others, ← h.sort_sort]
    exact hfirst.sorted_eq

/-- Passes that move the items within an array leave it with what passes over its list give. -/
private theorem run_passesInPlace {arranged : List α}
    (hpasses : keys.foldrM (fun key items => CompiledSort.sorted ⟨[key], guarded⟩ items) items =
      .ok arranged) :
    (forM keys.reverse fun key => CompiledSort.sortInPlace ⟨[key], guarded⟩).run items.toArray =
      .ok () arranged.toArray := by
  induction keys generalizing arranged with
  | nil =>
    cases hpasses
    rfl
  | cons key keys ih =>
    rw [List.foldrM_cons] at hpasses
    obtain ⟨between, hothers, hfirst⟩ := bind_eq_ok_iff.mp hpasses
    have hlast := sortInPlace_of_sorted hfirst
    rw [List.reverse_cons, List.forM_append, EStateM.run_bind, ih hothers]
    simp only [List.forM_cons, List.forM_nil, EStateM.run_bind, hlast]
    rfl

/-- Sorting by several keys is sorting by the last key alone, then the result by the key before it,
    and so on up to the first key. If all keys can be read, and in each column all values but nulls
    are of one kind, then all passes succeed and arrange the items as sorting once does, and so do
    passes that move the items within their array. -/
theorem sorted_eq_passes {rows : List (List Value)}
    (hrows : List.Forall₂ (fun item row => sort.row (entity item) = .ok row) items rows)
    (huniform : Uniform rows) :
    ∃ arranged, sort.sorted items = .ok arranged ∧
      sort.keys.foldrM (fun key items => CompiledSort.sorted ⟨[key], sort.guarded⟩ items) items =
        .ok arranged ∧
      sort.sortInPlace.run items.toArray = .ok () arranged.toArray ∧
      (forM sort.keys.reverse fun key =>
        CompiledSort.sortInPlace ⟨[key], sort.guarded⟩).run items.toArray =
          .ok () arranged.toArray := by
  have hsortable := sortable_of_rows hrows huniform
  have honce := hsortable.sorted_eq
  have hpasses := hsortable.passes_eq
  exact ⟨_, honce, hpasses, sortInPlace_of_sorted honce, run_passesInPlace hpasses⟩

/-- By name, and then by score from high to low. -/
theorem sorted_eq_passes_scores :
    let byScore : CompiledSort := ⟨[(Access.root.member "Score" false, .descending)], true⟩
    let byName : CompiledSort := ⟨[(Access.root.member "Name" false, .ascending)], true⟩
    let ranking := [2, 3, 1, 4, 0].filterMap (Scores.players[·]?)
    Scores.sort.sorted Scores.players = .ok ranking ∧
      (do byScore.sorted (← byName.sorted Scores.players)) = .ok ranking := by
  intro byScore byName ranking
  have hrows : List.Forall₂ (fun player row => Scores.sort.row (entity player) = .ok row)
      Scores.players (Scores.entries.map Scores.row) :=
    List.forall₂_map_left_iff.mpr (List.forall₂_map_right_iff.mpr
      (List.forall₂_same.mpr fun _ _ => rfl))
  obtain ⟨arranged, honce, hpasses, -⟩ :=
    sorted_eq_passes hrows (Scores.uniform_map_row Scores.entries)
  have hranked : Scores.sort.sorted Scores.players = .ok ranking := rfl
  cases hranked.symm.trans honce
  exact ⟨honce, hpasses⟩

end EntityQuery.CompiledSort
