import EntityQuery.Proofs.Number.Binary64
import EntityQuery.Proofs.Sort.Order

namespace EntityQuery

namespace Value

variable {a b c : Value}

/-- A value as it is compared with values of another kind: integers as floating point numbers, and
    the textual form of other types as a text. -/
def sortForm : Value → Value
  | int value => float (.ofInt value.toInt)
  | other value => text value
  | value => value

@[simp] theorem rank_sortForm (a : Value) : a.sortForm.rank = a.rank := by
  cases a <;> rfl

/-- Values of different ranks are ordered by rank. -/
theorem sortCompare_of_rank_ne (h : a.rank ≠ b.rank) :
    sortCompare a b = compare a.rank b.rank := by
  cases a <;> cases b <;> first | rfl | exact absurd rfl h

theorem SameKind.of_rank_eq (h : a.rank = b.rank) : SameKind a.sortForm b.sortForm := by
  cases a <;> cases b <;> first | constructor | cases h

theorem isLE_rank (h : (sortCompare a b).isLE = true) : a.rank ≤ b.rank := by
  by_cases hrank : a.rank = b.rank
  · exact hrank.le
  · rw [sortCompare_of_rank_ne hrank] at h
    exact Nat.isLE_compare.mp h

/-- In the form that they have among other values, values are put into an order by what sort keys
    compare. -/
theorem isLE_sortForm_trans (hab : (sortCompare a.sortForm b.sortForm).isLE = true)
    (hbc : (sortCompare b.sortForm c.sortForm).isLE = true) :
    (sortCompare a.sortForm c.sortForm).isLE = true := by
  have hrank := isLE_rank hab
  have hrank' := isLE_rank hbc
  rw [rank_sortForm, rank_sortForm] at hrank hrank'
  by_cases hends : a.rank = c.rank
  · exact comparesOn_sortCompare.trans (.of_rank_eq (by omega)) (.of_rank_eq (by omega))
      (.of_rank_eq hends) hab hbc
  · rw [sortCompare_of_rank_ne (by simpa using hends), rank_sortForm, rank_sortForm]
    exact Nat.isLE_compare.mpr (hrank.trans hrank')

private theorem isLE_int {m n : Int64} :
    (sortCompare (int m) (int n)).isLE = true ↔ m ≤ n := Std.isLE_compare

private theorem isLE_float {x y : Binary64} :
    (sortCompare (float x) (float y)).isLE = true ↔ x.totalKey ≤ y.totalKey := Int.isLE_compare

/-- Only two integers are not compared in the form that they have among other values. -/
theorem sortCompare_sortForm (h : ∀ m n, a = int m → b = int n → False) :
    sortCompare a.sortForm b.sortForm = sortCompare a b := by
  cases a <;> cases b <;> first | rfl | exact (h _ _ rfl rfl).elim

/-- Rounding two integers does not change their order, though it may make them equal. -/
theorem isLE_sortForm (h : (sortCompare a b).isLE = true) :
    (sortCompare a.sortForm b.sortForm).isLE = true := by
  by_cases hint : ∃ m n, a = int m ∧ b = int n
  · obtain ⟨m, n, rfl, rfl⟩ := hint
    exact isLE_float.mpr (Binary64.totalKey_ofInt_mono (Int64.le_iff_toInt_le.mp (isLE_int.mp h)))
  · rw [sortCompare_sortForm fun m n ha hb => hint ⟨m, n, ha, hb⟩]
    exact h

/-- Sort keys compare two values the other way round with the opposite outcome. -/
theorem sortCompare_flip (a b : Value) : sortCompare b a = (sortCompare a b).swap := by
  by_cases hrank : a.rank = b.rank
  · by_cases hint : ∃ m n, a = int m ∧ b = int n
    · obtain ⟨m, n, rfl, rfl⟩ := hint
      exact comparesOn_sortCompare.swap (.int m n)
    · rw [← sortCompare_sortForm fun m n ha hb => hint ⟨m, n, ha, hb⟩,
        ← sortCompare_sortForm fun m n hb ha => hint ⟨n, m, ha, hb⟩]
      exact comparesOn_sortCompare.swap (.of_rank_eq hrank)
  · rw [sortCompare_of_rank_ne hrank, sortCompare_of_rank_ne (Ne.symm hrank)]
    exact Std.OrientedOrd.eq_swap

theorem sortCompare_self (a : Value) : sortCompare a a = .eq := by
  have hflip := sortCompare_flip a a
  cases hcompare : sortCompare a a with
  | eq => rfl
  | lt | gt =>
    rw [hcompare] at hflip
    cases hflip

/-- Two integers, of which the first one is the greater, and the floating point number that both of
    them are rounded to. -/
inductive Conflated : Value → Value → Value → Prop
  | intro {m n : Int64} (hlt : n < m) (hrounded : Binary64.ofInt m.toInt = Binary64.ofInt n.toInt) :
    Conflated (int m) (float (Binary64.ofInt m.toInt)) (int n)

theorem Conflated.of_isLE (hab : (sortCompare a b).isLE = true)
    (hbc : (sortCompare b c).isLE = true) (hac : sortCompare a c = .gt) : Conflated a b c := by
  have hforms := isLE_sortForm_trans (isLE_sortForm hab) (isLE_sortForm hbc)
  -- The outer values are not compared in the form in which they are in order.
  have hint : ∃ m n, a = int m ∧ c = int n := by
    by_contra hint
    rw [sortCompare_sortForm fun m n ha hc => hint ⟨m, n, ha, hc⟩, hac] at hforms
    cases hforms
  obtain ⟨m, n, rfl, rfl⟩ := hint
  have hlt : n < m := Std.compare_eq_gt.mp hac
  have hrank := isLE_rank hab
  have hrank' := isLE_rank hbc
  cases b with
  | int middle =>
    have hle := Int64.le_trans (isLE_int.mp hab) (isLE_int.mp hbc)
    exact absurd hlt (Int64.not_lt.mpr hle)
  | float x =>
    have hlow := isLE_float.mp (isLE_sortForm hab)
    have hhigh := isLE_float.mp (isLE_sortForm hbc)
    have hround := Binary64.totalKey_ofInt_mono (Int64.le_iff_toInt_le.mp (Int64.le_of_lt hlt))
    cases Binary64.eq_of_totalKey_eq (hlow.antisymm (hhigh.trans hround))
    exact .intro hlt (Binary64.eq_of_totalKey_eq (hhigh.antisymm hround))
  | null | bool | text | dateTime | guid | other | object | list =>
    simp only [rank] at hrank hrank'
    omega

/-- A value ties with itself, and sort keys compare two values the other way round with the opposite
    outcome. The comparison is transitive for all values but two different integers with the
    floating point number between them that both are taken for, and integers of at most fifty-three
    binary digits are not taken for others. -/
theorem sortCompare_transitive_iff (a b c : Value) :
    sortCompare a a = .eq ∧ sortCompare b a = (sortCompare a b).swap ∧
    (((sortCompare a b).isLE = true → (sortCompare b c).isLE = true →
      (sortCompare a c).isLE = true) ↔ ¬ Conflated a b c) ∧
    ∀ m n, a = int m → c = int n → m.toInt.natAbs ≤ 1 <<< 53 → n.toInt.natAbs ≤ 1 <<< 53 →
      ¬ Conflated a b c := by
  refine ⟨sortCompare_self a, sortCompare_flip a b, ⟨fun htrans h => ?_, fun h hab hbc => ?_⟩, ?_⟩
  · obtain ⟨hlt, hrounded⟩ := h
    have hkeys := congrArg Binary64.totalKey hrounded
    have hle := htrans (isLE_float.mpr le_rfl) (isLE_float.mpr hkeys.le)
    exact Int64.not_lt.mpr (isLE_int.mp hle) hlt
  · exact Ordering.isLE_iff_ne_gt.mpr fun hac => h (.of_isLE hab hbc hac)
  · rintro m n rfl rfl hm hn ⟨hlt, hrounded⟩
    have hapart := Binary64.totalKey_ofInt_lt (Int64.lt_iff_toInt_lt.mp hlt) hn hm
    rw [hrounded] at hapart
    exact absurd hapart (lt_irrefl _)

/-- Two integers of fifty-four binary digits tie with one floating point number, and not with each
    other. -/
theorem conflated_neighbours :
    sortCompare (int 9007199254740993) (float ⟨0x4340000000000000⟩) = .eq ∧
    sortCompare (float ⟨0x4340000000000000⟩) (int 9007199254740992) = .eq ∧
    sortCompare (int 9007199254740993) (int 9007199254740992) = .gt := by
  decide

end Value

end EntityQuery
