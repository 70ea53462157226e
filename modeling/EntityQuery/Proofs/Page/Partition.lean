import EntityQuery.Proofs.Page.Resolve
import Mathlib.Algebra.Order.Floor.Div

namespace EntityQuery

open PositiveReading (greatest)

/-- The text of a positive number denotes it. -/
theorem PositiveReading.denotes_toString {n : Nat} (hpos : 1 ≤ n) (hle : n ≤ greatest) :
    Denotes (toString (Int64.ofNat n)) n := by
  have hvalue : (Int64.ofNat n).toInt = n := Int64.toInt_ofNat_of_lt (Nat.lt_succ_of_le hle)
  have hinteger := Number.isInteger_toString (Int64.ofNat n).toInt
  refine ⟨?_, hpos, hle⟩
  change Number.IsInteger (Text.trim (toString (Int64.ofNat n).toInt).toList) n
  rw [Text.trim_eq_self hinteger.isBlank_eq_false]
  exact hvalue ▸ hinteger

namespace EntityPage

variable {α : Type} {items : List α} {size number : Nat} {own : Option PageSettings}
  {current settings : PageSettings}

/-- A page of a number and a size, with settings of its own or without. -/
def numbered (own : Option PageSettings) (size number : Nat) : EntityPage :=
  { ofNumbers (some (.ofNat number)) (some (.ofNat size)) with settings := own }

/-- All settings give a page of a size the same bounds. -/
theorem resolveWith_numbered (hsize : 1 ≤ size) (hsize' : size ≤ greatest) (hnumber : 1 ≤ number)
    (hnumber' : number ≤ greatest) : (numbered own size number).resolveWith settings =
      .ok ⟨some (min PageBounds.unbounded ((number - 1) * size)), some size⟩ := by
  have hreadSize : PositiveReading.read (numbered own size number).size = .value size :=
    PositiveReading.read_eq_value_iff.mpr (PositiveReading.denotes_toString hsize hsize')
  have hreadNumber : PositiveReading.read (numbered own size number).number = .value number :=
    PositiveReading.read_eq_value_iff.mpr (PositiveReading.denotes_toString hnumber hnumber')
  refine resolveWith_eq_ok_iff.mpr ⟨some size, some number, ?_, ?_, rfl⟩
  · rw [take, hreadSize]
  · rw [pageNumber, hreadNumber]

/-- No list is so long that the bound on the items to leave out makes a difference to it. -/
theorem drop_min_unbounded (hlength : items.length ≤ PageBounds.unbounded) (skip : Nat) :
    items.drop (min PageBounds.unbounded skip) = items.drop skip := by
  rcases Nat.le_total skip PageBounds.unbounded with hskip | hskip
  · rw [Nat.min_eq_right hskip]
  · rw [Nat.min_eq_left hskip, List.drop_eq_nil_of_le hlength,
      List.drop_eq_nil_of_le (hlength.trans hskip)]

theorem paginate_numbered (hlength : items.length ≤ PageBounds.unbounded) (hsize : 1 ≤ size)
    (hsize' : size ≤ greatest) (hnumber : 1 ≤ number) (hnumber' : number ≤ greatest) :
    (numbered own size number).paginate current items =
      .ok ((items.drop ((number - 1) * size)).take size) := by
  have happly : (PageBounds.mk (some (min PageBounds.unbounded ((number - 1) * size)))
      (some size)).apply items = (items.drop ((number - 1) * size)).take size := by
    rw [← drop_min_unbounded hlength]
    rfl
  rw [paginate, resolveWith_numbered hsize hsize' hnumber hnumber', ← happly]
  rfl

/-- Each page goes on where those before it end. -/
theorem flatten_pages (items : List α) (size last : Nat) :
    ((List.range' 1 last).map fun number => (items.drop ((number - 1) * size)).take size).flatten =
      items.take (last * size) := by
  induction last with
  | zero => simp
  | succ last ih =>
    have hnext : (last + 1) * size = last * size + size := Nat.succ_mul last size
    rw [List.range'_concat, List.map_append, List.flatten_append, ih, hnext, List.take_add]
    simp

/-- The pages of a size partition a list. Each has the items after those of the pages in front of
    it, as many as the size allows. The first pages one after the other are the list up to the end
    of the last of them, which is all of it once there are enough, and on later pages there is
    nothing. No settings make a difference to this. -/
theorem paginate_partitions (own : Option PageSettings) (current : PageSettings) (items : List α)
    (hlength : items.length ≤ PageBounds.unbounded) (hsize : 1 ≤ size) (hsize' : size ≤ greatest) :
    (∀ number, 1 ≤ number → number ≤ greatest →
      (numbered own size number).paginate current items =
        .ok ((items.drop ((number - 1) * size)).take size)) ∧
    (∀ last, last ≤ greatest → ∃ pages,
      (List.range' 1 last).mapM (fun number => (numbered own size number).paginate current items) =
        .ok pages ∧
      pages.flatten = items.take (last * size) ∧
      (items.length ⌈/⌉ size ≤ last → pages.flatten = items)) ∧
    (∀ number, items.length ⌈/⌉ size < number → number ≤ greatest →
      (numbered own size number).paginate current items = .ok []) := by
  refine ⟨fun number hnumber hnumber' => ?_, fun last hlast => ?_, fun number hlater hnumber' => ?_⟩
  · exact paginate_numbered hlength hsize hsize' hnumber hnumber'
  · refine ⟨_, ?_, flatten_pages items size last, fun henough => ?_⟩
    · refine mapM_eq_ok_iff.mpr (List.forall₂_map_right_iff.mpr (List.forall₂_same.mpr ?_))
      intro number hmem
      have hrange := List.mem_range'_1.mp hmem
      exact paginate_numbered hlength hsize hsize' hrange.1 (by omega)
    · have hend : items.length ≤ last * size :=
        Nat.mul_comm size last ▸ (ceilDiv_le_iff_le_mul hsize).mp henough
      rw [flatten_pages, List.take_of_length_le hend]
  · have hend : items.length ≤ (number - 1) * size :=
      Nat.mul_comm size _ ▸ (ceilDiv_le_iff_le_mul hsize).mp (by omega)
    rw [paginate_numbered hlength hsize hsize' (by omega) hnumber', List.drop_eq_nil_of_le hend,
      List.take_nil]

/-- Seven items fill two pages of three and begin a third one. -/
theorem paginate_partitions_threes :
    ∃ pages, [1, 2, 3].mapM (fun number =>
        (numbered none 3 number).paginate .builtin [10, 20, 30, 40, 50, 60, 70]) = .ok pages ∧
      pages.flatten = [10, 20, 30, 40, 50, 60, 70] := by
  obtain ⟨-, hpages, -⟩ := paginate_partitions none .builtin [10, 20, 30, 40, 50, 60, 70]
    (by decide) (by decide : 1 ≤ 3) (by decide)
  obtain ⟨pages, hrun, -, hall⟩ := hpages 3 (by decide)
  exact ⟨pages, hrun, hall (by decide)⟩

end EntityPage

end EntityQuery
