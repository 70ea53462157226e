import EntityQuery.Page.Basic
import EntityQuery.Proofs.Number.Integer
import EntityQuery.Proofs.Sequential

namespace EntityQuery

namespace PositiveReading

/-- The greatest number of 64 bits with a sign. -/
def greatest : Nat := 0x7FFFFFFFFFFFFFFF

/-- A text holds nothing but white space. -/
def Blank (raw : String) : Prop := Text.trim raw.toList = []

/-- A text denotes a positive number by decimal digits, which may carry a sign and have white space
    around them. -/
structure Denotes (raw : String) (n : Nat) : Prop where
  integer : Number.IsInteger (Text.trim raw.toList) n
  pos : 1 ≤ n
  le_greatest : n ≤ greatest

variable {raw : String} {n : Nat}

theorem Denotes.not_blank (h : Denotes raw n) : ¬ Blank raw := by
  intro hblank
  have hinteger := h.integer
  rw [hblank] at hinteger
  cases hinteger with
  | unsigned hnatural => exact hnatural.ne_nil rfl

/-- What a text denotes is what is read from it as an integer of 64 bits. -/
theorem denotes_iff : Denotes raw n ↔
    ∃ m : Int64, Number.readInt64 (Text.trim raw.toList) = some m ∧ 1 ≤ m.toInt ∧
      m.toInt.toNat = n := by
  simp only [Number.readInt64_eq_some_iff]
  constructor
  · intro ⟨hinteger, hpos, hle⟩
    have hvalue : (Int64.ofNat n).toInt = n := Int64.toInt_ofNat_of_lt (Nat.lt_succ_of_le hle)
    refine ⟨Int64.ofNat n, ?_, ?_, ?_⟩ <;> rw [hvalue]
    · exact hinteger
    · exact Int.ofNat_le.mpr hpos
    · exact Int.toNat_natCast n
  · rintro ⟨m, hinteger, hpos, rfl⟩
    have hvalue : (m.toInt.toNat : Int) = m.toInt := Int.toNat_of_nonneg (by omega)
    have hlt := m.toInt_lt
    refine ⟨hvalue.symm ▸ hinteger, by omega, ?_⟩
    rw [greatest]
    omega

/-- What a text says about a number is decided by its white space and by what it denotes. -/
inductive Says (raw : String) : PositiveReading → Prop
  | missing (hblank : Blank raw) : Says raw .missing
  | value {n : Nat} (hvalue : Denotes raw n) : Says raw (.value n)
  | invalid (hgiven : ¬ Blank raw) (hnone : ∀ n, ¬ Denotes raw n) : Says raw .invalid

theorem says_read (raw : String) : Says raw (read raw) := by
  unfold read
  simp only [List.isEmpty_iff]
  split
  case isTrue hblank => exact .missing hblank
  case isFalse hgiven =>
    cases hread : Number.readInt64 (Text.trim raw.toList) with
    | none =>
      refine .invalid hgiven fun n hvalue => ?_
      obtain ⟨m, hm, -⟩ := denotes_iff.mp hvalue
      cases hread.symm.trans hm
    | some m =>
      dsimp only
      split
      case isTrue hpos => exact .value (denotes_iff.mpr ⟨m, hread, hpos, rfl⟩)
      case isFalse hpos =>
        refine .invalid hgiven fun n hvalue => ?_
        obtain ⟨other, hother, hpos', -⟩ := denotes_iff.mp hvalue
        cases hread.symm.trans hother
        exact hpos hpos'

theorem read_eq_value_iff : read raw = .value n ↔ Denotes raw n := by
  have hsays := says_read raw
  constructor
  · intro hread
    rw [hread] at hsays
    cases hsays with
    | value hvalue => exact hvalue
  · intro hvalue
    generalize read raw = reading at hsays ⊢
    cases hsays with
    | missing hblank => exact absurd hblank hvalue.not_blank
    | invalid _ hnone => exact absurd hvalue (hnone n)
    | value hfound =>
      obtain ⟨m, hm, -, rfl⟩ := denotes_iff.mp hvalue
      obtain ⟨found, hread, -, rfl⟩ := denotes_iff.mp hfound
      cases hm.symm.trans hread
      rfl

end PositiveReading

namespace EntityPage

open PositiveReading (Blank Denotes says_read)

variable {page : EntityPage} {settings : PageSettings} {fault : Fault}

theorem exists_take_lenient (page : EntityPage) : ∃ take, page.take ⟨true⟩ = .ok take := by
  unfold take
  cases PositiveReading.read page.size <;> exact ⟨_, rfl⟩

theorem exists_pageNumber_lenient (page : EntityPage) :
    ∃ number, page.pageNumber ⟨true⟩ = .ok number := by
  unfold pageNumber
  cases PositiveReading.read page.number <;> exact ⟨_, rfl⟩

theorem take_of_strict {take : Option Nat} (h : page.take ⟨false⟩ = .ok take) :
    page.take settings = .ok take := by
  unfold EntityPage.take at h ⊢
  cases hread : PositiveReading.read page.size with
  | value size => simpa only [hread] using h
  | missing | invalid =>
    rw [hread] at h
    cases h

theorem pageNumber_of_strict {number : Option Nat} (h : page.pageNumber ⟨false⟩ = .ok number) :
    page.pageNumber settings = .ok number := by
  unfold pageNumber at h ⊢
  cases hread : PositiveReading.read page.number with
  | value n => simpa only [hread] using h
  | missing => simpa only [hread] using h
  | invalid =>
    rw [hread] at h
    cases h

/-- A page has room for one item at least. -/
theorem one_le_take {size : Nat} (h : page.take settings = .ok (some size)) : 1 ≤ size := by
  have hsays := says_read page.size
  unfold take at h
  generalize PositiveReading.read page.size = reading at h hsays
  cases hsays with
  | value hvalue =>
    cases h
    exact hvalue.pos
  | missing hblank =>
    dsimp only at h
    split at h <;> cases h
  | invalid hgiven hnone =>
    dsimp only at h
    split at h <;> cases h
    decide

/-- Only a number that is not given is none. -/
theorem isSome_pageNumber_iff {number : Option Nat} (h : page.pageNumber settings = .ok number) :
    number.isSome = true ↔ ¬ Blank page.number := by
  have hsays := says_read page.number
  unfold pageNumber at h
  generalize PositiveReading.read page.number = reading at h hsays
  cases hsays with
  | value hvalue =>
    cases h
    exact iff_of_true rfl hvalue.not_blank
  | missing hblank =>
    cases h
    exact iff_of_false Bool.false_ne_true (not_not_intro hblank)
  | invalid hgiven hnone =>
    dsimp only at h
    split at h <;> cases h
    exact iff_of_true rfl hgiven

theorem take_strict_eq_error_iff : page.take ⟨false⟩ = .error fault ↔
    Blank page.size ∧ fault = .pageSizeNotSet ∨
      ¬ Blank page.size ∧ (∀ n, ¬ Denotes page.size n) ∧ fault = .invalidPageSize page.size := by
  have hsays := says_read page.size
  unfold take
  generalize PositiveReading.read page.size = reading at hsays ⊢
  cases hsays with
  | missing hblank => simp [hblank, eq_comm]
  | value hvalue =>
    simp only [hvalue.not_blank, reduceCtorEq, false_and, not_false_eq_true, true_and, false_or,
      false_iff, not_and]
    exact fun hnone => absurd hvalue (hnone _)
  | invalid hgiven hnone => simp [hgiven, hnone, eq_comm]

theorem pageNumber_strict_eq_error_iff : page.pageNumber ⟨false⟩ = .error fault ↔
    ¬ Blank page.number ∧ (∀ n, ¬ Denotes page.number n) ∧
      fault = .invalidPageNumber page.number := by
  have hsays := says_read page.number
  unfold pageNumber
  generalize PositiveReading.read page.number = reading at hsays ⊢
  cases hsays with
  | missing hblank => simp [hblank]
  | value hvalue =>
    simp only [hvalue.not_blank, reduceCtorEq, not_false_eq_true, true_and, false_iff, not_and]
    exact fun hnone => absurd hvalue (hnone _)
  | invalid hgiven hnone => simp [hgiven, hnone, eq_comm]

theorem exists_take_strict_iff :
    (∃ take, page.take ⟨false⟩ = .ok take) ↔ ∃ n, Denotes page.size n := by
  have hsays := says_read page.size
  unfold take
  generalize PositiveReading.read page.size = reading at hsays ⊢
  cases hsays with
  | missing hblank =>
    refine iff_of_false (by simp) ?_
    rintro ⟨n, hvalue⟩
    exact hvalue.not_blank hblank
  | value hvalue => exact iff_of_true ⟨_, rfl⟩ ⟨_, hvalue⟩
  | invalid hgiven hnone => exact iff_of_false (by simp) (not_exists.mpr hnone)

theorem resolveWith_eq_ok_iff {bounds : PageBounds} : page.resolveWith settings = .ok bounds ↔
    ∃ take number, page.take settings = .ok take ∧ page.pageNumber settings = .ok number ∧
      bounds = ⟨number.map fun n => min PageBounds.unbounded ((n - 1) * take.getD 0), take⟩ := by
  simp only [resolveWith, bind_eq_ok_iff, pure, Except.pure, Except.ok.injEq, exists_and_left,
    eq_comm (a := bounds)]

/-- The faults of a page that strict settings refuse. The size is looked at before the number. A
    text that is no positive number is shown as it was given, and a missing one is not shown. -/
inductive Refuses (page : EntityPage) : Fault → Prop
  | sizeNotSet (hblank : Blank page.size) : Refuses page .pageSizeNotSet
  | size (hgiven : ¬ Blank page.size) (hnone : ∀ n, ¬ Denotes page.size n) :
    Refuses page (.invalidPageSize page.size)
  | number {size : Nat} (hsize : Denotes page.size size) (hgiven : ¬ Blank page.number)
    (hnone : ∀ n, ¬ Denotes page.number n) : Refuses page (.invalidPageNumber page.number)

theorem resolveWith_strict_eq_error_iff :
    page.resolveWith ⟨false⟩ = .error fault ↔ page.Refuses fault := by
  rw [resolveWith, bind_eq_error_iff, take_strict_eq_error_iff]
  constructor
  · rintro ((⟨hblank, rfl⟩ | ⟨hgiven, hnone, rfl⟩) | ⟨take, htake, hrest⟩)
    · exact .sizeNotSet hblank
    · exact .size hgiven hnone
    · obtain ⟨size, hsize⟩ := exists_take_strict_iff.mp ⟨take, htake⟩
      obtain ⟨hgiven, hnone, rfl⟩ := pageNumber_strict_eq_error_iff.mp (map_eq_error_iff.mp hrest)
      exact .number hsize hgiven hnone
  · intro hrefuses
    cases hrefuses with
    | sizeNotSet hblank => exact .inl (.inl ⟨hblank, rfl⟩)
    | size hgiven hnone => exact .inl (.inr ⟨hgiven, hnone, rfl⟩)
    | number hsize hgiven hnone =>
      obtain ⟨take, htake⟩ := exists_take_strict_iff.mpr ⟨_, hsize⟩
      refine .inr ⟨take, htake, map_eq_error_iff.mpr ?_⟩
      exact pageNumber_strict_eq_error_iff.mpr ⟨hgiven, hnone, rfl⟩

/-- Lenient settings extend strict ones. Under lenient settings every page has bounds, and they are
    those under strict settings where there are any. Strict settings refuse a page exactly if its
    size is missing or denotes no positive number of 64 bits, or if it has a number that denotes
    none, in this order. All bounds leave room for an item, and items are left out in front of a
    page exactly if it has a number. -/
theorem lenient_extends_strict (page : EntityPage) :
    (∃ bounds, page.resolveWith ⟨true⟩ = .ok bounds) ∧
    (∀ bounds, page.resolveWith ⟨false⟩ = .ok bounds → page.resolveWith ⟨true⟩ = .ok bounds) ∧
    (∀ fault, page.resolveWith ⟨false⟩ = .error fault ↔ page.Refuses fault) ∧
    ∀ settings bounds, page.resolveWith settings = .ok bounds →
      (∀ size, bounds.take = some size → 1 ≤ size) ∧
      (bounds.skip.isSome = true ↔ ¬ Blank page.number) := by
  refine ⟨?_, fun bounds hstrict => ?_, fun _ => resolveWith_strict_eq_error_iff,
    fun settings bounds hbounds => ?_⟩
  · obtain ⟨take, htake⟩ := page.exists_take_lenient
    obtain ⟨number, hnumber⟩ := page.exists_pageNumber_lenient
    exact ⟨_, resolveWith_eq_ok_iff.mpr ⟨take, number, htake, hnumber, rfl⟩⟩
  · obtain ⟨take, number, htake, hnumber, rfl⟩ := resolveWith_eq_ok_iff.mp hstrict
    exact resolveWith_eq_ok_iff.mpr
      ⟨take, number, take_of_strict htake, pageNumber_of_strict hnumber, rfl⟩
  · obtain ⟨take, number, htake, hnumber, rfl⟩ := resolveWith_eq_ok_iff.mp hbounds
    refine ⟨?_, ?_⟩
    · rintro size rfl
      exact one_le_take htake
    · rw [Option.isSome_map]
      exact isSome_pageNumber_iff hnumber

end EntityPage

end EntityQuery
