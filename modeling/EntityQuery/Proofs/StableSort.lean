import EntityQuery.StableSort

namespace EntityQuery.StableSort

variable {α β : Type} {less : α → α → Bool} {x y : α} {xs ys : List α}

/-- An order in which elements share a rank if none is less than the other: where one element
    is less than another, every third one is above the first or below the second. -/
structure OrdersByRank (less : α → α → Bool) : Prop where
  asymm : ∀ {x y}, less x y = true → less y x = false
  gap : ∀ {x y}, less x y = true → ∀ z, less x z = true ∨ less z y = true

theorem OrdersByRank.of_rank (rank : α → Nat) : OrdersByRank fun x y => rank y < rank x where
  asymm h := by
    simp only [decide_eq_true_eq, decide_eq_false_iff_not] at h ⊢
    omega
  gap h z := by
    simp only [decide_eq_true_eq] at h ⊢
    omega

theorem OrdersByRank.flip (hless : OrdersByRank less) : OrdersByRank fun x y => less y x where
  asymm h := hless.asymm h
  gap h z := (hless.gap h z).symm

theorem OrdersByRank.comap (hless : OrdersByRank less) (part : β → α) :
    OrdersByRank fun x y => less (part x) (part y) where
  asymm h := hless.asymm h
  gap h z := hless.gap h (part z)

/-- What lies on neither side of a gap leaves no gap. -/
theorem OrdersByRank.not_less_trans (hless : OrdersByRank less) {x y z : α}
    (hxy : less x y = false) (hyz : less y z = false) : less x z = false := by
  cases hxz : less x z with
  | false => rfl
  | true =>
    rcases hless.gap hxz y with h | h
    · exact h.symm.trans hxy
    · exact h.symm.trans hyz

/-- A comparison that puts elements into an order as long as they are related. -/
structure ComparesOn (related : α → α → Prop) (cmp : α → α → Ordering) : Prop where
  swap : ∀ {x y}, related x y → cmp y x = (cmp x y).swap
  trans : ∀ {x y z}, related x y → related y z → related x z → (cmp x y).isLE = true →
    (cmp y z).isLE = true → (cmp x z).isLE = true

namespace ComparesOn

variable {related : α → α → Prop} {cmp : α → α → Ordering} {z : α}

theorem flip (h : ComparesOn related cmp) (hsymm : ∀ {x y}, related x y → related y x) :
    ComparesOn related fun x y => cmp y x where
  swap hxy := h.swap (hsymm hxy)
  trans hxy hyz hxz hle hle' := h.trans (hsymm hyz) (hsymm hxy) (hsymm hxz) hle' hle

private theorem isLE_of_ne_lt (h : ComparesOn related cmp) (hxy : related x y)
    (hne : cmp x y ≠ .lt) : (cmp y x).isLE = true := by
  rw [h.swap hxy, Ordering.isLE_swap]
  exact Ordering.isGE_iff_ne_lt.mpr hne

/-- What lies between two elements that tie is tied with both. -/
theorem eq_of_eq (h : ComparesOn related cmp) (hsymm : ∀ {x y}, related x y → related y x)
    (hxy : related x y) (hyz : related y z) (hxz : related x z) (hle : (cmp x y).isLE = true)
    (hle' : (cmp y z).isLE = true) (heq : cmp x z = .eq) : cmp x y = .eq ∧ cmp y z = .eq := by
  have hback : (cmp z x).isLE = true := h.isLE_of_ne_lt hxz (by simp [heq])
  have hyx := h.trans hyz (hsymm hxz) (hsymm hxy) hle' hback
  have hzy := h.trans (hsymm hxz) hxy (hsymm hyz) hback hle
  rw [h.swap hxy] at hyx
  rw [h.swap hyz] at hzy
  exact ⟨Ordering.eq_eq_of_isLE_of_isLE_swap hle hyx,
    Ordering.eq_eq_of_isLE_of_isLE_swap hle' hzy⟩

/-- Elements that are all related are ordered by rank. -/
theorem ordersByRank (h : ComparesOn related cmp) {part : β → α}
    (hrelated : ∀ x y, related (part x) (part y)) :
    OrdersByRank fun x y => cmp (part x) (part y) == .lt where
  asymm hlt := by
    rw [beq_iff_eq] at hlt
    rw [h.swap (hrelated _ _), hlt]
    rfl
  gap {x y} hlt z := by
    simp only [beq_iff_eq] at hlt ⊢
    refine Decidable.or_iff_not_imp_left.mpr fun hxz => Decidable.byContradiction fun hzy => ?_
    have hzx := h.isLE_of_ne_lt (hrelated x z) hxz
    have hyz := h.isLE_of_ne_lt (hrelated z y) hzy
    have hyx := h.trans (hrelated y z) (hrelated z x) (hrelated y x) hyz hzx
    rw [h.swap (hrelated x y), hlt] at hyx
    cases hyx

end ComparesOn

theorem insert_perm (x : α) (xs : List α) : (insert less x xs).Perm (x :: xs) := by
  induction xs with
  | nil => rfl
  | cons y rest ih =>
    rw [insert]
    split
    · exact (ih.cons y).trans (.swap x y rest)
    · rfl

private theorem foldl_insert_perm (less : α → α → Bool) (xs sorted : List α) :
    (xs.foldl (fun sorted x => insert less x sorted) sorted).Perm (xs ++ sorted) := by
  induction xs generalizing sorted with
  | nil => rfl
  | cons x rest ih =>
    rw [List.foldl_cons]
    exact (ih (insert less x sorted)).trans
      (((insert_perm x sorted).append_left rest).trans List.perm_middle)

/-- Sorting rearranges the elements. -/
theorem sort_perm (less : α → α → Bool) (xs : List α) : (sort less xs).Perm xs := by
  have hperm := foldl_insert_perm less xs []
  rw [List.append_nil] at hperm
  exact (List.reverse_perm _).trans hperm

theorem mem_sort : x ∈ sort less xs ↔ x ∈ xs := (sort_perm less xs).mem_iff

section

variable {before : α → α → Prop}

/-- What sorting establishes for every element and every later one: the later one is not less,
    and if neither is less, their order is an earlier one. -/
private def InOrder (less : α → α → Bool) (before : α → α → Prop) (x y : α) : Prop :=
  less y x = false ∧ (less x y = false → before x y)

private theorem insert_pairwise (hless : OrdersByRank less)
    (hxs : xs.Pairwise fun y z => InOrder less before z y) (hx : ∀ y ∈ xs, before y x) :
    (insert less x xs).Pairwise fun y z => InOrder less before z y := by
  induction xs with
  | nil => exact List.pairwise_singleton _ x
  | cons y rest ih =>
    obtain ⟨hy, hrest⟩ := List.pairwise_cons.mp hxs
    rw [insert]
    split
    case isTrue hxy =>
      refine List.pairwise_cons.mpr ⟨fun z hz => ?_,
        ih hrest fun z hz => hx z (List.mem_cons_of_mem y hz)⟩
      rcases List.mem_cons.mp ((insert_perm x rest).mem_iff.mp hz) with rfl | hmem
      · exact ⟨hless.asymm hxy, fun hnot => nomatch hxy.symm.trans hnot⟩
      · exact hy z hmem
    case isFalse hxy =>
      rw [Bool.not_eq_true] at hxy
      refine List.pairwise_cons.mpr ⟨fun z hz => ⟨?_, fun _ => hx z hz⟩, hxs⟩
      rcases List.mem_cons.mp hz with rfl | hmem
      · exact hxy
      · exact hless.not_less_trans hxy (hy z hmem).1

private theorem foldl_insert_pairwise (hless : OrdersByRank less) (hxs : xs.Pairwise before)
    (hys : ys.Pairwise fun y z => InOrder less before z y)
    (hbefore : ∀ y ∈ ys, ∀ x ∈ xs, before y x) :
    (xs.foldl (fun sorted x => insert less x sorted) ys).Pairwise
      fun y z => InOrder less before z y := by
  induction xs generalizing ys with
  | nil => exact hys
  | cons x rest ih =>
    obtain ⟨hx, hrest⟩ := List.pairwise_cons.mp hxs
    have hnext := insert_pairwise hless hys fun y hy => hbefore y hy x List.mem_cons_self
    refine ih hrest hnext fun y hy z hz => ?_
    rcases List.mem_cons.mp ((insert_perm x ys).mem_iff.mp hy) with rfl | hmem
    · exact hx z hz
    · exact hbefore y hmem z (List.mem_cons_of_mem x hz)

/-- No element of a sorted list is less than one before it, and two of which none is less are
    in the order that they were in. -/
theorem sort_stable (hless : OrdersByRank less) (hxs : xs.Pairwise before) :
    (sort less xs).Pairwise fun x y => less y x = false ∧ (less x y = false → before x y) :=
  List.pairwise_reverse.mpr
    (foldl_insert_pairwise hless hxs .nil fun _ hy => absurd hy List.not_mem_nil)

end

/-- No element of a sorted list is less than one before it. -/
theorem sort_pairwise (hless : OrdersByRank less) (xs : List α) :
    (sort less xs).Pairwise fun y z => less z y = false := by
  have hany : xs.Pairwise fun _ _ => True := List.pairwise_of_forall fun _ _ => trivial
  exact (sort_stable hless hany).imp And.left

private theorem insert_eq_cons (hxs : ∀ y ∈ xs, less x y = false) :
    insert less x xs = x :: xs := by
  cases xs with
  | nil => rfl
  | cons y rest => rw [insert, hxs y List.mem_cons_self, if_neg Bool.false_ne_true]

private theorem foldl_insert_eq_append (hys : ys.Pairwise fun x y => less y x = false)
    (hxs : ∀ y ∈ ys, ∀ x ∈ xs, less y x = false) :
    ys.foldl (fun sorted y => insert less y sorted) xs = ys.reverse ++ xs := by
  induction ys generalizing xs with
  | nil => rfl
  | cons y rest ih =>
    obtain ⟨hy, hrest⟩ := List.pairwise_cons.mp hys
    have hnext : ∀ z ∈ rest, ∀ x ∈ y :: xs, less z x = false := fun z hz =>
      List.forall_mem_cons.mpr ⟨hy z hz, hxs z (List.mem_cons_of_mem y hz)⟩
    rw [List.foldl_cons, insert_eq_cons (hxs y List.mem_cons_self), ih hrest hnext,
      List.reverse_cons, List.append_assoc, List.singleton_append]

/-- Elements that are in order, and not less than those in front of them, stay behind them. -/
theorem sort_append (hys : ys.Pairwise fun x y => less y x = false)
    (hxs : ∀ y ∈ ys, ∀ x ∈ xs, less y x = false) : sort less (xs ++ ys) = sort less xs ++ ys := by
  have hsorted : ∀ y ∈ ys, ∀ x ∈ xs.foldl (fun sorted x => insert less x sorted) [],
      less y x = false := fun y hy x hx =>
    hxs y hy x (List.append_nil xs ▸ (foldl_insert_perm less xs []).mem_iff.mp hx)
  rw [sort, List.foldl_append, foldl_insert_eq_append hys hsorted, List.reverse_append,
    List.reverse_reverse, sort]

/-- A list in which no element is less than one before it is sorted. -/
theorem sort_eq_self (hxs : xs.Pairwise fun x y => less y x = false) : sort less xs = xs :=
  sort_append hxs fun _ _ _ (hx : _ ∈ []) => absurd hx List.not_mem_nil

section

variable {less' : β → β → Bool} {f : α → Option β}

private theorem filterMap_insert_of_none (hfx : f x = none) :
    (insert less x xs).filterMap f = xs.filterMap f := by
  induction xs with
  | nil => simp [insert, hfx]
  | cons y rest ih =>
    rw [insert]
    split
    · rw [List.filterMap_cons, List.filterMap_cons, ih]
    · rw [List.filterMap_cons_none hfx]

private theorem filterMap_insert (hless : OrdersByRank less)
    (hf : ∀ {x y x' y'}, f x = some x' → f y = some y' → less' x' y' = less x y)
    (hxs : xs.Pairwise fun y z => less y z = false) {x' : β} (hfx : f x = some x') :
    (insert less x xs).filterMap f = insert less' x' (xs.filterMap f) := by
  induction xs with
  | nil => simp [insert, hfx]
  | cons y rest ih =>
    obtain ⟨hy, hrest⟩ := List.pairwise_cons.mp hxs
    cases hxy : less x y with
    | true =>
      rw [insert, if_pos hxy]
      cases hfy : f y with
      | none => rw [List.filterMap_cons_none hfy, List.filterMap_cons_none hfy, ih hrest]
      | some y' =>
        rw [List.filterMap_cons_some hfy, List.filterMap_cons_some hfy, insert, hf hfx hfy,
          if_pos hxy, ih hrest]
    | false =>
      -- Then `x` is less than nothing in the list, and `x'` is less than no part of it.
      have hnone : ∀ z ∈ y :: rest, less x z = false := by
        intro z hz
        rcases List.mem_cons.mp hz with rfl | hmem
        · exact hxy
        · exact hless.not_less_trans hxy (hy z hmem)
      rw [insert_eq_cons hnone, List.filterMap_cons_some hfx, insert_eq_cons]
      intro z' hz'
      obtain ⟨z, hz, hfz⟩ := List.mem_filterMap.mp hz'
      rw [hf hfx hfz, hnone z hz]

/-- Sorting commutes with leaving elements out and with changes that keep their ranks. -/
theorem sort_filterMap (hless : OrdersByRank less)
    (hf : ∀ {x y x' y'}, f x = some x' → f y = some y' → less' x' y' = less x y) (xs : List α) :
    sort less' (xs.filterMap f) = (sort less xs).filterMap f := by
  suffices hfold : ∀ ys : List α, ys.Pairwise (fun y z => less y z = false) →
      (xs.filterMap f).foldl (fun sorted x => insert less' x sorted) (ys.filterMap f) =
        (xs.foldl (fun sorted x => insert less x sorted) ys).filterMap f by
    rw [sort, sort, List.filterMap_reverse, ← hfold [] .nil, List.filterMap_nil]
  induction xs with
  | nil => exact fun ys _ => rfl
  | cons x rest ih =>
    intro ys hys
    have hinOrder : ys.Pairwise fun y z => InOrder less (fun _ _ => True) z y :=
      hys.imp fun h => ⟨h, fun _ => trivial⟩
    have hnext : (insert less x ys).Pairwise fun y z => less y z = false :=
      (insert_pairwise hless hinOrder fun _ _ => trivial).imp And.left
    rw [List.foldl_cons, ← ih _ hnext]
    cases hfx : f x with
    | none => rw [List.filterMap_cons_none hfx, filterMap_insert_of_none hfx]
    | some x' =>
      rw [List.filterMap_cons_some hfx, List.foldl_cons, filterMap_insert hless hf hys hfx]

theorem sort_map {part : α → β} (hless : OrdersByRank fun x y => less' (part x) (part y))
    (xs : List α) :
    sort less' (xs.map part) = (sort (fun x y => less' (part x) (part y)) xs).map part := by
  rw [← List.filterMap_eq_map]
  refine sort_filterMap hless (fun hx hy => ?_) xs
  cases hx
  cases hy
  rfl

end

/-- Only the elements of a list have to be in order, so they can be sorted as a type of theirs. -/
private theorem sort_eq_map_attach (hless : OrdersByRank fun x y : { x // x ∈ xs } => less x y) :
    sort less xs =
      (sort (fun x y : { x // x ∈ xs } => less x y) xs.attach).map Subtype.val := by
  rw [← sort_map hless, List.attach_map_subtype_val]

theorem sort_filterMap_of_mem {less' : β → β → Bool} {f : α → Option β}
    (hless : OrdersByRank fun x y : { x // x ∈ xs } => less x y)
    (hf : ∀ x ∈ xs, ∀ y ∈ xs, ∀ {x' y'}, f x = some x' → f y = some y' →
      less' x' y' = less x y) :
    sort less' (xs.filterMap f) = (sort less xs).filterMap f := by
  have hattach : xs.attach.filterMap (f ∘ Subtype.val) = xs.filterMap f := by
    rw [← List.filterMap_map, List.attach_map_subtype_val]
  have hvalues : ∀ {x y : { x // x ∈ xs }} {x' y'}, (f ∘ Subtype.val) x = some x' →
      (f ∘ Subtype.val) y = some y' → less' x' y' = less x.1 y.1 :=
    fun {x y} => hf x.1 x.2 y.1 y.2
  rw [← hattach, sort_filterMap hless hvalues, sort_eq_map_attach hless, List.filterMap_map]

/-- Only what an order says of the elements of a list matters. -/
theorem sort_congr {less' : α → α → Bool}
    (hless : OrdersByRank fun x y : { x // x ∈ xs } => less x y)
    (hsame : ∀ x ∈ xs, ∀ y ∈ xs, less' x y = less x y) : sort less' xs = sort less xs := by
  have hparts : ∀ x ∈ xs, ∀ y ∈ xs, ∀ {x' y'}, some x = some x' → some y = some y' →
      less' x' y' = less x y := by
    intro x hx y hy x' y' hx' hy'
    cases hx'
    cases hy'
    exact hsame x hx y hy
  have hsort := sort_filterMap_of_mem hless hparts
  rwa [List.filterMap_some, List.filterMap_some] at hsort

/-- Elements that are sorted by a part of them come in the order of these parts, and those with
    tied parts in the order that they were in. -/
theorem sort_by_comparison {before : α → α → Prop} {related : β → β → Prop}
    {cmp : β → β → Ordering} (hcmp : ComparesOn related cmp) {part : α → β}
    (hrelated : ∀ x ∈ xs, ∀ y ∈ xs, related (part x) (part y)) (hxs : xs.Pairwise before) :
    (sort (fun x y => cmp (part x) (part y) == .lt) xs).Pairwise fun x y =>
      cmp (part x) (part y) = .lt ∨ cmp (part x) (part y) = .eq ∧ before x y := by
  have hless : OrdersByRank fun x y : { x // x ∈ xs } => cmp (part x.1) (part y.1) == .lt :=
    hcmp.ordersByRank fun x y => hrelated x.1 x.2 y.1 y.2
  have hattach : xs.attach.Pairwise fun x y => before x.1 y.1 := by
    rw [← List.attach_map_subtype_val xs] at hxs
    exact List.pairwise_map.mp hxs
  rw [sort_eq_map_attach hless]
  refine List.pairwise_map.mpr ((sort_stable hless hattach).imp fun {x y} hxy => ?_)
  obtain ⟨hback, hties⟩ := hxy
  rw [hcmp.swap (hrelated x.1 x.2 y.1 y.2)] at hback
  cases horder : cmp (part x.1) (part y.1) with
  | lt => exact .inl rfl
  | eq => exact .inr ⟨rfl, hties (by rw [horder]; rfl)⟩
  | gt => simp [horder] at hback

private theorem findSome?_of_pairwise {f : α → Option β} {result : β}
    (hxs : xs.Pairwise fun y z => less z y = false) (hx : x ∈ xs) (hfound : f x = some result)
    (hfirst : ∀ y ∈ xs, (f y).isSome = true → y = x ∨ less x y = true) :
    xs.findSome? f = some result := by
  induction xs with
  | nil => cases hx
  | cons y rest ih =>
    obtain ⟨hy, hrest⟩ := List.pairwise_cons.mp hxs
    rcases List.mem_cons.mp hx with rfl | hmem
    · rw [List.findSome?_cons, hfound]
    · cases hfy : f y with
      | some other =>
        rcases hfirst y List.mem_cons_self (by rw [hfy]; rfl) with rfl | hless
        · rw [List.findSome?_cons, hfound]
        · rw [hy x hmem] at hless
          cases hless
      | none =>
        rw [List.findSome?_cons, hfy]
        exact ih hrest hmem fun z hz => hfirst z (List.mem_cons_of_mem y hz)

/-- In sorted order, the first element with a result is one that comes before all others with
    a result. -/
theorem findSome?_sort (hless : OrdersByRank less) {f : α → Option β} {result : β} (hx : x ∈ xs)
    (hfound : f x = some result)
    (hfirst : ∀ y ∈ xs, (f y).isSome = true → y = x ∨ less x y = true) :
    (sort less xs).findSome? f = some result :=
  findSome?_of_pairwise (sort_pairwise hless xs) (mem_sort.mpr hx) hfound
    fun y hy => hfirst y (mem_sort.mp hy)

/-- In sorted order, no element with a result is less than the first one with a result. -/
theorem exists_of_findSome?_sort (hless : OrdersByRank less) {f : α → Option β} {result : β}
    (hfound : (sort less xs).findSome? f = some result) :
    ∃ x ∈ xs, f x = some result ∧ ∀ y ∈ xs, (f y).isSome = true → less y x = false := by
  obtain ⟨before, x, after, hsorted, hx, hbefore⟩ := List.findSome?_eq_some_iff.mp hfound
  have hinOrder := sort_pairwise hless xs
  rw [hsorted, List.pairwise_append, List.pairwise_cons] at hinOrder
  have hmem : x ∈ sort less xs := by
    rw [hsorted]
    exact List.mem_append_right before List.mem_cons_self
  refine ⟨x, mem_sort.mp hmem, hx, fun y hy hsome => ?_⟩
  have hother : y ∈ before ++ x :: after := hsorted ▸ mem_sort.mpr hy
  rcases List.mem_append.mp hother with hbefore' | hrest
  · rw [hbefore y hbefore'] at hsome
    cases hsome
  · rcases List.mem_cons.mp hrest with rfl | hafter
    · cases hself : less y y with
      | false => rfl
      | true => exact nomatch hself.symm.trans (hless.asymm hself)
    · exact hinOrder.2.1.1 y hafter

/-- Whether an element is less in one order, or ties in it and is less in another one. -/
def lessThen (less less' : α → α → Bool) (x y : α) : Bool := less x y || !less y x && less' x y

variable {less' : α → α → Bool}

theorem OrdersByRank.lessThen (hless : OrdersByRank less) (hless' : OrdersByRank less') :
    OrdersByRank (lessThen less less') where
  asymm {x y} h := by
    simp only [StableSort.lessThen, Bool.or_eq_true, Bool.and_eq_true, Bool.not_eq_true',
      Bool.or_eq_false_iff, Bool.and_eq_false_iff, Bool.not_eq_false'] at h ⊢
    rcases h with hxy | ⟨hyx, hxy'⟩
    · exact ⟨hless.asymm hxy, .inl hxy⟩
    · exact ⟨hyx, .inr (hless'.asymm hxy')⟩
  gap {x y} h z := by
    simp only [StableSort.lessThen, Bool.or_eq_true, Bool.and_eq_true, Bool.not_eq_true'] at h ⊢
    rcases h with hxy | ⟨hyx, hxy'⟩
    · exact (hless.gap hxy z).imp .inl .inl
    · -- An element between two that tie in the first order ties with both, or lies outside.
      cases hxz : less x z with
      | true => exact .inl (.inl rfl)
      | false =>
        cases hzy : less z y with
        | true => exact .inr (.inl rfl)
        | false =>
          have hzx : less z x = false := hless.not_less_trans hzy hyx
          have hyz : less y z = false := hless.not_less_trans hyx hxz
          exact (hless'.gap hxy' z).imp (fun h => .inr ⟨hzx, h⟩) fun h => .inr ⟨hyz, h⟩

private theorem sort_sort_of_numbered (hless : OrdersByRank less) (hless' : OrdersByRank less')
    {before : α → α → Prop} (hbefore : ∀ {x y}, before x y → ¬ before y x)
    (hxs : xs.Pairwise before) : sort less (sort less' xs) = sort (lessThen less less') xs := by
  have hpasses := sort_stable hless (sort_stable hless' hxs)
  have honce := sort_stable (hless.lessThen hless') hxs
  have hperm : (sort less (sort less' xs)).Perm (sort (lessThen less less') xs) :=
    ((sort_perm less _).trans (sort_perm less' xs)).trans (sort_perm _ xs).symm
  refine hperm.eq_of_pairwise (fun x y _ _ hxy hyx => ?_) (hpasses.imp fun {x y} hxy => ?_) honce
  · exact absurd (hyx.2 hxy.1) (hbefore (hxy.2 hyx.1))
  · obtain ⟨hback, hties⟩ := hxy
    cases hforth : less x y with
    | true => simp [lessThen, hback, hforth]
    | false =>
      obtain ⟨hback', hties'⟩ := hties hforth
      simpa [lessThen, hback, hforth, hback'] using hties'

/-- Sorting by one order and then by another one is sorting once, by the second order and within
    its ties by the first. -/
theorem sort_sort (hless : OrdersByRank less) (hless' : OrdersByRank less') (xs : List α) :
    sort less (sort less' xs) = sort (lessThen less less') xs := by
  -- Elements that tie in both orders are told apart by their numbers.
  have hnumbers : xs.zipIdx.Pairwise fun a b => a.2 < b.2 := by
    refine List.pairwise_map.mp ?_
    rw [List.zipIdx_map_snd]
    exact List.pairwise_lt_range'
  have hnumbered := sort_sort_of_numbered (hless.comap Prod.fst) (hless'.comap Prod.fst)
    (fun {_ _} => Nat.lt_asymm) hnumbers
  have hthen := (hless.lessThen hless').comap (Prod.fst : α × Nat → α)
  have hxs : xs.zipIdx.map Prod.fst = xs := List.zipIdx_map_fst 0 xs
  calc sort less (sort less' xs)
      = sort less (sort less' (xs.zipIdx.map Prod.fst)) := by rw [hxs]
    _ = (sort (fun a b => less a.1 b.1) (sort (fun a b => less' a.1 b.1) xs.zipIdx)).map
          Prod.fst := by rw [sort_map (hless'.comap Prod.fst), sort_map (hless.comap Prod.fst)]
    _ = (sort (fun a b => lessThen less less' a.1 b.1) xs.zipIdx).map Prod.fst := by
          rw [hnumbered]
          rfl
    _ = sort (lessThen less less') xs := by rw [← sort_map hthen, hxs]

theorem sort_sort_of_mem (hless : OrdersByRank fun x y : { x // x ∈ xs } => less x y)
    (hless' : OrdersByRank fun x y : { x // x ∈ xs } => less' x y) :
    sort less (sort less' xs) = sort (lessThen less less') xs := by
  have hthen : OrdersByRank fun x y : { x // x ∈ xs } => lessThen less less' x y :=
    hless.lessThen hless'
  rw [sort_eq_map_attach hless', sort_map hless, sort_sort hless hless', sort_eq_map_attach hthen]
  rfl

end EntityQuery.StableSort
