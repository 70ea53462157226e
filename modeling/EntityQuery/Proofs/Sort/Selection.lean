import EntityQuery.Filter.Build
import EntityQuery.Page.Basic
import EntityQuery.Proofs.Sort.InPlace

namespace EntityQuery

private theorem filterMap_zipIdx {α : Type} (items : List α) :
    items.zipIdx.filterMap (fun numbered => items[numbered.2]?) = items := by
  have hget : ∀ numbered ∈ items.zipIdx, items[numbered.2]? = some numbered.1 :=
    fun _ hmem => List.mem_zipIdx_iff_getElem?.mp hmem
  rw [List.filterMap_congr hget, List.filterMap_eq_map', List.zipIdx_map_fst]

variable {α : Type} [AsEntity α] {items : List α}

/-- Selecting keeps the accepted items, if all of them can be evaluated. -/
theorem CompiledFilter.select_eq_filter {filter : CompiledFilter}
    (hverdicts : ∀ item ∈ items, ∃ verdict, filter.evaluate item = .ok verdict) :
    filter.select items = .ok (items.filter filter.accepts) := by
  induction items with
  | nil => rfl
  | cons item rest ih =>
    obtain ⟨⟨verdict, hverdict⟩, hrest⟩ := List.forall_mem_cons.mp hverdicts
    have haccepts : filter.accepts item = verdict := by rw [accepts, hverdict]
    rw [select, hverdict, ih hrest, List.filter_cons, haccepts]
    rfl

namespace CompiledSort

variable {sort : CompiledSort}

/-- The values of the sort keys of an item. There are none if they cannot all be read. -/
def rowOf (sort : CompiledSort) (item : α) : List Value :=
  match sort.row (entity item) with
  | .ok row => row
  | .error _ => []

/-- Whether an item comes before another one, whichever of them is the first in a list. -/
def before (sort : CompiledSort) (first second : α) : Bool :=
  compareRows sort.keys (sort.rowOf first) (sort.rowOf second) == .lt

/-- The keys of the items can be read, and in each column all values but nulls are of one kind. -/
structure Sortable (sort : CompiledSort) (items : List α) : Prop where
  row : ∀ item ∈ items, sort.row (entity item) = .ok (sort.rowOf item)
  uniform : ∀ first ∈ items, ∀ second ∈ items,
    List.Forall₂ Value.SameKind (sort.rowOf first) (sort.rowOf second)

theorem sortable_of_rows {rows : List (List Value)}
    (hrows : List.Forall₂ (fun item row => sort.row (entity item) = .ok row) items rows)
    (huniform : Uniform rows) : sort.Sortable items := by
  have hrow : ∀ item ∈ items, ∃ row ∈ rows, sort.row (entity item) = .ok row ∧
      sort.rowOf item = row := by
    intro item hitem
    obtain ⟨row, hmem, hrow⟩ := exists_of_forall₂_mem hrows.flip hitem
    exact ⟨row, hmem, hrow, by rw [rowOf, hrow]⟩
  constructor
  · intro item hitem
    obtain ⟨row, -, hrow, rfl⟩ := hrow item hitem
    exact hrow
  · intro first hfirst second hsecond
    obtain ⟨_, hmem, -, rfl⟩ := hrow first hfirst
    obtain ⟨_, hmem', -, rfl⟩ := hrow second hsecond
    exact huniform _ hmem _ hmem'

namespace Sortable

theorem ordersByRank (h : sort.Sortable items) :
    StableSort.OrdersByRank fun first second : { item // item ∈ items } =>
      sort.before first.1 second.1 :=
  (comparesOn_compareRows sort.keys).ordersByRank
    fun first second => h.uniform first.1 first.2 second.1 second.2

theorem filter (h : sort.Sortable items) (keep : α → Bool) :
    sort.Sortable (items.filter keep) where
  row item hitem := h.row item (List.mem_of_mem_filter hitem)
  uniform first hfirst second hsecond :=
    h.uniform first (List.mem_of_mem_filter hfirst) second (List.mem_of_mem_filter hsecond)

theorem sort_filter (h : sort.Sortable items) (keep : α → Bool) :
    StableSort.sort sort.before (items.filter keep) =
      (StableSort.sort sort.before items).filter keep := by
  rw [← List.filterMap_eq_filter]
  refine StableSort.sort_filterMap_of_mem h.ordersByRank
    fun first _ second _ {_ _} hkept hkept' => ?_
  rw [(Option.guard_eq_some_iff.mp hkept).1, (Option.guard_eq_some_iff.mp hkept').1]

private theorem rowOf_of_mem_zipIdx {numbered : List Value × Nat} {item : α}
    (hmem : numbered ∈ (items.map sort.rowOf).zipIdx) (hitem : items[numbered.2]? = some item) :
    sort.rowOf item = numbered.1 := by
  have hget := List.mem_zipIdx_iff_getElem?.mp hmem
  rwa [List.getElem?_map, hitem, Option.map_some, Option.some.injEq] at hget

private theorem ordersByRank_zipIdx (h : sort.Sortable items) :
    StableSort.OrdersByRank fun first second :
        { numbered // numbered ∈ (items.map sort.rowOf).zipIdx } =>
      compareRows sort.keys first.1.1 second.1.1 == .lt := by
  refine (comparesOn_compareRows sort.keys).ordersByRank fun first second => ?_
  have hrow (numbered : { numbered // numbered ∈ (items.map sort.rowOf).zipIdx }) :
      ∃ item ∈ items, sort.rowOf item = numbered.1.1 :=
    List.mem_map.mp (List.mem_of_getElem? (List.mem_zipIdx_iff_getElem?.mp numbered.2))
  obtain ⟨item, hitem, hfirst⟩ := hrow first
  obtain ⟨other, hother, hsecond⟩ := hrow second
  exact hfirst ▸ hsecond ▸ h.uniform item hitem other hother

/-- The positions of sorted rows are those of the sorted items. -/
private theorem filterMap_sort_zipIdx (h : sort.Sortable items) :
    (StableSort.sort (fun a b : List Value × Nat => compareRows sort.keys a.1 b.1 == .lt)
        (items.map sort.rowOf).zipIdx).filterMap (fun numbered => items[numbered.2]?) =
      StableSort.sort sort.before items := by
  have hitems : (items.map sort.rowOf).zipIdx.filterMap (fun numbered => items[numbered.2]?) =
      items := by
    rw [List.zipIdx_map, List.filterMap_map]
    exact filterMap_zipIdx items
  rw [← StableSort.sort_filterMap_of_mem h.ordersByRank_zipIdx, hitems]
  intro first hfirst second hsecond _ _ hitem hitem'
  rw [before, rowOf_of_mem_zipIdx hfirst hitem, rowOf_of_mem_zipIdx hsecond hitem']

/-- Sorted items are the items in the stable order of their rows. -/
theorem sorted_eq (h : sort.Sortable items) :
    sort.sorted items = .ok (StableSort.sort sort.before items) := by
  by_cases hkeys : sort.keys = []
  · have hnone : items.Pairwise fun first second => sort.before second first = false :=
      List.pairwise_of_forall fun first second => by rw [before, hkeys]; rfl
    have hpositions : List.range items.length = items.zipIdx.map (·.2) := by
      rw [List.zipIdx_map_snd, List.range_eq_range']
    rw [sorted, order_of_keys_eq_nil hkeys, StableSort.sort_eq_self hnone, hpositions]
    exact congrArg Except.ok (List.filterMap_map.trans (filterMap_zipIdx items))
  · have hrows : List.Forall₂ (fun item row => sort.row (entity item) = .ok row) items
        (items.map sort.rowOf) := List.forall₂_map_right_iff.mpr (List.forall₂_same.mpr h.row)
    rw [sorted, order_of_rows hkeys hrows, ← h.filterMap_sort_zipIdx]
    exact congrArg Except.ok List.filterMap_map

end Sortable

/-- Selecting and sorting commute. If all items can be evaluated, all sort keys can be read, and
    in each column all values but nulls are of one kind, then the items that a filter selects from
    the sorted list are the sorted order of those that it selects from the list itself. So every
    page that can be resolved has the same items either way, also if the sort moves the items
    within their array. -/
theorem sorted_select_comm {filter : CompiledFilter} {rows : List (List Value)}
    (hverdicts : ∀ item ∈ items, ∃ verdict, filter.evaluate item = .ok verdict)
    (hrows : List.Forall₂ (fun item row => sort.row (entity item) = .ok row) items rows)
    (huniform : Uniform rows) :
    ∃ selected arranged result,
      filter.select items = .ok selected ∧ sort.sorted selected = .ok result ∧
      sort.sorted items = .ok arranged ∧ filter.select arranged = .ok result ∧
      ∀ (page : EntityPage) (current : PageSettings) (bounds : PageBounds),
        page.resolveWith (page.effectiveSettings current) = .ok bounds →
        (do page.paginate current (← filter.select (← sort.sortArray items.toArray).toList)) =
            .ok (bounds.apply result) ∧
        (do page.paginate current (← sort.sortArray (← filter.select items).toArray).toList) =
            .ok (bounds.apply result) := by
  have hsortable := sortable_of_rows hrows huniform
  have hselected := CompiledFilter.select_eq_filter hverdicts
  have hsorted := hsortable.sorted_eq
  have hresult := (hsortable.filter filter.accepts).sorted_eq
  have harranged : filter.select (StableSort.sort sort.before items) =
      .ok (StableSort.sort sort.before (items.filter filter.accepts)) := by
    rw [CompiledFilter.select_eq_filter fun item hitem =>
      hverdicts item (StableSort.mem_sort.mp hitem), hsortable.sort_filter]
  refine ⟨_, _, _, hselected, hresult, hsorted, harranged, fun page current bounds hbounds => ?_⟩
  have hpage : ∀ items : List α, page.paginate current items = .ok (bounds.apply items) := by
    intro items
    rw [EntityPage.paginate, hbounds]
    rfl
  rw [sortArray_of_sorted hsorted, hselected]
  simp only [bind, Except.bind, sortArray_of_sorted hresult, harranged, hpage, and_self]

/-- The first two players with a score, by score and then by name. -/
theorem sorted_select_comm_scores :
    let scored : CompiledFilter := ⟨.notNull (Access.root.member "Score" false), true⟩
    let page := EntityPage.ofTexts "1" "2"
    let topTwo := [Scores.player "Ann" (some 30), Scores.player "Bob" (some 10)]
    (do page.paginate ⟨false⟩
          (← scored.select (← Scores.sort.sortArray Scores.players.toArray).toList)) =
        .ok topTwo ∧
      (do page.paginate ⟨false⟩
            (← Scores.sort.sortArray (← scored.select Scores.players).toArray).toList) =
        .ok topTwo := by
  intro scored page topTwo
  have hverdicts : ∀ player ∈ Scores.players, ∃ verdict, scored.evaluate player = .ok verdict :=
    fun _ _ => ⟨_, rfl⟩
  have hrows : List.Forall₂ (fun player row => Scores.sort.row (entity player) = .ok row)
      Scores.players (Scores.entries.map Scores.row) :=
    List.forall₂_map_left_iff.mpr (List.forall₂_map_right_iff.mpr
      (List.forall₂_same.mpr fun _ _ => rfl))
  obtain ⟨selected, arranged, result, hselected, hresult, -, -, hpages⟩ :=
    sorted_select_comm hverdicts hrows (Scores.uniform_map_row Scores.entries)
  have hnumber : PositiveReading.read page.number = .value 1 := by decide
  have hsize : PositiveReading.read page.size = .value 2 := by decide
  have hbounds : page.resolveWith (page.effectiveSettings ⟨false⟩) = .ok ⟨some 0, some 2⟩ := by
    simp [EntityPage.resolveWith, EntityPage.take, EntityPage.pageNumber, hnumber, hsize, bind,
      Except.bind, pure, Except.pure]
  obtain ⟨hsortFirst, hfilterFirst⟩ := hpages page ⟨false⟩ _ hbounds
  have hcomputed : PageBounds.apply ⟨some 0, some 2⟩ result = topTwo := by
    cases hselected
    cases hresult
    rfl
  rw [hsortFirst, hfilterFirst, hcomputed]
  exact ⟨rfl, rfl⟩

end CompiledSort

end EntityQuery
