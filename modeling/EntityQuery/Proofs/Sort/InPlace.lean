import EntityQuery.Proofs.Sort.Rearrangement

namespace EntityQuery.CompiledSort

variable {α : Type} [AsEntity α] {sort : CompiledSort} {items : List α} {fault : Fault}

/-- Of the keys of items, all those of one item before those of the next one, the first that cannot
    be read has a fault. -/
def ReadFails (sort : CompiledSort) (items : List α) (fault : Fault) : Prop :=
  ∃ before item after earlier key later,
    items = before ++ item :: after ∧ sort.keys = earlier ++ key :: later ∧
    (∀ other ∈ before, ∀ read ∈ sort.keys, ∃ value,
      read.1.resolve (entity other) sort.guarded = .ok value) ∧
    (∀ read ∈ earlier, ∃ value, read.1.resolve (entity item) sort.guarded = .ok value) ∧
    key.1.resolve (entity item) sort.guarded = .error fault

private theorem rows_eq_error_iff :
    items.mapM (fun item => sort.row (entity item)) = .error fault ↔
      sort.ReadFails items fault := by
  simp only [mapM_eq_error_iff, row, exists_mapM_eq_ok_iff]
  constructor
  · rintro ⟨before, item, after, hitems, hbefore, earlier, key, later, hkeys, hearlier, hkey⟩
    exact ⟨before, item, after, earlier, key, later, hitems, hkeys, hbefore, hearlier, hkey⟩
  · rintro ⟨before, item, after, earlier, key, later, hitems, hkeys, hbefore, hearlier, hkey⟩
    exact ⟨before, item, after, hitems, hbefore, earlier, key, later, hkeys, hearlier, hkey⟩

/-- If some key cannot be read, there is a first one. -/
theorem exists_readFails {item : α} {key : Access × SortDirection} (hitem : item ∈ items)
    (hkey : key ∈ sort.keys) (hfault : key.1.resolve (entity item) sort.guarded = .error fault) :
    ∃ first, sort.ReadFails items first := by
  cases hrows : items.mapM fun item => sort.row (entity item) with
  | error first => exact ⟨first, rows_eq_error_iff.mp hrows⟩
  | ok rows =>
    obtain ⟨row, hrow⟩ := exists_mapM_eq_ok_iff.mp ⟨rows, hrows⟩ item hitem
    obtain ⟨value, hvalue⟩ := exists_mapM_eq_ok_iff.mp ⟨row, hrow⟩ key hkey
    rw [hfault] at hvalue
    cases hvalue

/-- A sort fails only at a key that cannot be read. -/
theorem order_eq_error_iff : sort.order items = .error fault ↔ sort.ReadFails items fault := by
  rw [← rows_eq_error_iff]
  by_cases hkeys : sort.keys = []
  · have hrows : ∃ rows, items.mapM (fun item => sort.row (entity item)) = .ok rows := by
      refine exists_mapM_eq_ok_iff.mpr fun item _ => ⟨[], ?_⟩
      rw [row, hkeys]
      rfl
    obtain ⟨rows, hrows⟩ := hrows
    rw [order_of_keys_eq_nil hkeys, hrows]
    simp
  · rw [order, isEmpty, List.isEmpty_eq_false_iff.mpr hkeys]
    exact map_eq_error_iff

theorem sorted_eq_error_iff : sort.sorted items = .error fault ↔ sort.ReadFails items fault :=
  map_eq_error_iff.trans order_eq_error_iff

theorem run_sortInPlace (items : Array α) : sort.sortInPlace.run items =
    match sort.order items.toList with
    | .ok order => .ok () (rearrange items order)
    | .error fault => .error fault items := by
  change (MonadExcept.ofExcept (sort.order items.toList) >>= fun order =>
    modify (rearrange · order) : EStateM Fault (Array α) Unit).run items = _
  cases sort.order items.toList <;> rfl

/-- An array is left with the items that sorting its list gathers. -/
theorem sortInPlace_of_sorted {arranged : List α} (hsorted : sort.sorted items = .ok arranged) :
    sort.sortInPlace.run items.toArray = .ok () arranged.toArray := by
  obtain ⟨order, horder, hgathered⟩ := bind_eq_ok_iff.mp hsorted
  have hmoved : (rearrange items.toArray order).toList =
      order.filterMap (items.toArray[·]?) := toList_rearrange (order_perm horder)
  simp only [List.getElem?_toArray, Except.ok.inj hgathered] at hmoved
  rw [run_sortInPlace, List.toList_toArray, horder, ← hmoved]

theorem sortInPlace_of_readFails (hfails : sort.ReadFails items fault) :
    sort.sortInPlace.run items.toArray = .error fault items.toArray := by
  rw [run_sortInPlace, List.toList_toArray, order_eq_error_iff.mpr hfails]

theorem sortArray_of_sorted {arranged : List α} (hsorted : sort.sorted items = .ok arranged) :
    sort.sortArray items.toArray = .ok arranged.toArray := by
  rw [sortArray, sortInPlace_of_sorted hsorted]

/-- Sorting in place agrees with gathering. If each position is given once, the loops that move
    elements within an array end, in one state only, and each position has the element that was at
    the position given for it. So sorting an array leaves the items that sorting its list gathers,
    or else has the fault of the first key that cannot be read and leaves the items as they were. -/
theorem sortInPlace_agrees :
    (∀ (α : Type) (items : Array α) (order : List Nat), order.Perm (List.range items.size) →
      ∃ final, (∀ other, Rearrangement.Completes ⟨items, order.toArray⟩ order.length other ↔
          other = final) ∧
        final.items = rearrange items order ∧ final.items.size = items.size ∧
        ∀ i position : Nat, order[i]? = some position → final.items[i]? = items[position]?) ∧
    ∀ (α : Type) [AsEntity α] (sort : CompiledSort) (items : List α),
      (∀ arranged, sort.sorted items = .ok arranged →
        sort.sortInPlace.run items.toArray = .ok () arranged.toArray) ∧
      (∀ fault, (sort.sorted items = .error fault ↔ sort.ReadFails items fault) ∧
        (sort.ReadFails items fault →
          sort.sortInPlace.run items.toArray = .error fault items.toArray)) ∧
      ∀ item ∈ items, ∀ key ∈ sort.keys, ∀ fault,
        key.1.resolve (entity item) sort.guarded = .error fault →
          ∃ first, sort.ReadFails items first := by
  constructor
  · intro α items order hperm
    exact ⟨Rearrangement.run ⟨items, order.toArray⟩, fun _ => completes_iff hperm, rfl,
      size_rearrange hperm, fun _ _ => getElem?_rearrange hperm⟩
  · intro α _ sort items
    exact ⟨fun _ => sortInPlace_of_sorted,
      fun _ => ⟨sorted_eq_error_iff, sortInPlace_of_readFails⟩,
      fun _ hitem _ hkey _ => exists_readFails hitem hkey⟩

/-- Four elements on one cycle, scores that are ranked, and players of whom the second has no team
    when the names of teams are read without checks. -/
theorem sortInPlace_agrees_scores :
    let inTeam := fun (name : String) (team : Value) =>
      Entity.ofProperties [("Name", .text name), ("Team", team)]
    let reds := Entity.ofProperties [("Name", .text "Red")]
    let players := [inTeam "Ann" (.object reds), inTeam "Bob" .null]
    let byTeam : CompiledSort :=
      ⟨[((Access.root.member "Team" false).member "Name" false, .ascending)], false⟩
    let ranking := [2, 3, 1, 4, 0].filterMap (Scores.players[·]?)
    (∃ final, Rearrangement.Completes ⟨#['a', 'b', 'c', 'd'], #[2, 0, 3, 1]⟩ 4 final ∧
      final.items[0]? = some 'c' ∧ final.items[3]? = some 'b') ∧
    (Scores.sort.sorted Scores.players = .ok ranking ∧
      Scores.sort.sortInPlace.run Scores.players.toArray = .ok () ranking.toArray) ∧
    byTeam.ReadFails players (.nullNavigation "Team") ∧
    byTeam.sortInPlace.run players.toArray = .error (.nullNavigation "Team") players.toArray := by
  intro inTeam reds players byTeam ranking
  have hperm : [2, 0, 3, 1].Perm (List.range 4) := by decide
  obtain ⟨final, hends, -, -, hmoved⟩ :=
    sortInPlace_agrees.1 Char #['a', 'b', 'c', 'd'] [2, 0, 3, 1] hperm
  have hranked : Scores.sort.sorted Scores.players = .ok ranking := rfl
  have hfails : byTeam.ReadFails players (.nullNavigation "Team") := by
    refine ⟨[inTeam "Ann" (.object reds)], inTeam "Bob" .null, [], [], _, [], rfl, rfl, ?_, nofun,
      rfl⟩
    exact List.forall_mem_singleton.mpr (List.forall_mem_singleton.mpr ⟨.text "Red", rfl⟩)
  refine ⟨⟨final, (hends final).mpr rfl, hmoved 0 2 rfl, hmoved 3 1 rfl⟩, ⟨hranked, ?_⟩, hfails, ?_⟩
  · exact (sortInPlace_agrees.2 Entity Scores.sort Scores.players).1 ranking hranked
  · exact ((sortInPlace_agrees.2 Entity byTeam players).2.1 (.nullNavigation "Team")).2 hfails

end EntityQuery.CompiledSort
