import EntityQuery.Proofs.StableSort
import EntityQuery.Sort.Json
import Mathlib.Data.UInt

namespace EntityQuery

open StableSort (OrdersByRank)

namespace SortKey

variable {key : SortKey} {next : UInt64}

theorem nextPosition?_eq_none_iff : key.nextPosition? = none ↔ key.position = lastPosition := by
  simp [nextPosition?]

/-- The next position is the next number. -/
theorem nextPosition?_eq_some_iff :
    key.nextPosition? = some next ↔ next.toNat = key.position.toNat + 1 := by
  have hbound := key.position.toNat_lt
  have hnext := next.toNat_lt
  have hsucc : (key.position + 1).toNat = (key.position.toNat + 1) % 2 ^ 64 := by
    rw [UInt64.toNat_add, UInt64.toNat_one]
  rw [nextPosition?, Option.ite_none_left_eq_some, Option.some.injEq, ← UInt64.toNat_inj,
    ← UInt64.toNat_inj, show lastPosition.toNat = 2 ^ 64 - 1 from rfl, hsucc]
  omega

end SortKey

namespace EntitySort

variable {model : Model} {sort added : EntitySort model} {keys : List SortKey} {key : SortKey}
  {position : UInt64} {path : String} {direction : SortDirection} {count : Nat}
  {tokens : List (String × SortDirection)}

/-- The paths and directions of keys. -/
def tokensOf (keys : List SortKey) : List (String × SortDirection) :=
  keys.map fun key => (key.path, key.direction)

theorem ordersByRank_position :
    OrdersByRank fun a b : SortKey => decide (a.position < b.position) :=
  (OrdersByRank.of_rank fun key : SortKey => key.position.toNat).flip

/-- The greatest among a first position and those behind keys is behind all keys, and right behind
    one of them unless it is the first one. -/
private theorem foldlM_nextPosition?_eq_some_iff {first : UInt64} :
    keys.foldlM (fun next key => key.nextPosition?.map (max next)) first = some position ↔
      first ≤ position ∧ (∀ key ∈ keys, key.position < position) ∧
        (position = first ∨ ∃ key ∈ keys, key.nextPosition? = some position) := by
  induction keys generalizing first with
  | nil =>
    constructor
    · rintro ⟨⟩
      exact ⟨UInt64.le_refl _, List.forall_mem_nil _, .inl rfl⟩
    · rintro ⟨-, -, rfl | ⟨_, hmem, -⟩⟩
      · rfl
      · cases hmem
  | cons key rest ih =>
    simp only [List.foldlM_cons, List.mem_cons, forall_eq_or_imp, exists_eq_or_imp]
    cases hafter : key.nextPosition? with
    | none =>
      rw [SortKey.nextPosition?_eq_none_iff] at hafter
      refine iff_of_false (fun h => nomatch h) fun ⟨_, ⟨hlt, _⟩, _⟩ => ?_
      rw [hafter, UInt64.lt_iff_toNat_lt,
        show SortKey.lastPosition.toNat = 2 ^ 64 - 1 from rfl] at hlt
      have hbound := position.toNat_lt
      omega
    | some after =>
      have hsucc := SortKey.nextPosition?_eq_some_iff.mp hafter
      rw [Option.map_some, Option.bind_eq_bind, Option.bind_some, ih]
      simp only [UInt64.le_iff_toNat_le, UInt64.lt_iff_toNat_lt, ← UInt64.toNat_inj,
        UInt64.toNat_max, Option.some.injEq]
      constructor
      · rintro ⟨hle, hrest, hattained⟩
        refine ⟨by omega, ⟨by omega, hrest⟩, ?_⟩
        rcases hattained with heq | hmem
        · omega
        · exact .inr (.inr hmem)
      · rintro ⟨hle, ⟨hlt, hrest⟩, hattained⟩
        refine ⟨by omega, hrest, ?_⟩
        rcases hattained with heq | heq | hmem
        · omega
        · omega
        · exact .inr hmem

/-- The next position is the lowest one behind all keys. -/
theorem nextPosition?_eq_some_iff : sort.nextPosition? = some position ↔
    (∀ key ∈ sort.stored, key.position < position) ∧
      (position = 0 ∨ ∃ key ∈ sort.stored, key.nextPosition? = some position) := by
  rw [nextPosition?, foldlM_nextPosition?_eq_some_iff]
  exact and_iff_right UInt64.zero_le

/-- There is a next position unless some key has the last one. -/
theorem nextPosition?_eq_none_iff : sort.nextPosition? = none ↔
    ∃ key ∈ sort.stored, key.position = SortKey.lastPosition := by
  suffices hfold : ∀ (keys : List SortKey) (first : UInt64),
      keys.foldlM (fun next key => key.nextPosition?.map (max next)) first = none ↔
        ∃ key ∈ keys, key.nextPosition? = none by
    simp only [nextPosition?, hfold, SortKey.nextPosition?_eq_none_iff]
  intro keys
  induction keys with
  | nil => simp
  | cons key rest ih =>
    intro first
    cases hafter : key.nextPosition? with
    | none => simp [hafter]
    | some after => simp [hafter, ih]

theorem add?_eq_some_iff : sort.add? path direction = some added ↔
    ∃ position, sort.nextPosition? = some position ∧
      added = { sort with stored := sort.stored ++ [⟨path, direction, position⟩] } := by
  simp only [add?, Option.bind_eq_bind, Option.bind_eq_some_iff, Option.pure_def,
    Option.some.injEq, eq_comm (a := added)]

/-- An added key is the last one, however the others are stored. -/
theorem keys_of_add? (h : sort.add? path direction = some added) :
    ∃ position, sort.nextPosition? = some position ∧
      added.keys = sort.keys ++ [⟨path, direction, position⟩] := by
  obtain ⟨position, hnext, rfl⟩ := add?_eq_some_iff.mp h
  refine ⟨position, hnext, StableSort.sort_append (List.pairwise_singleton _ _) ?_⟩
  refine List.forall_mem_singleton.mpr fun key hkey => decide_eq_false ?_
  exact UInt64.lt_asymm ((nextPosition?_eq_some_iff.mp hnext).1 key hkey)

theorem tokensOf_of_foldlM_add?
    (h : tokens.foldlM (fun sort token => sort.add? token.1 token.2) sort = some added) :
    tokensOf added.keys = tokensOf sort.keys ++ tokens := by
  induction tokens generalizing sort with
  | nil =>
    cases h
    exact (List.append_nil _).symm
  | cons token rest ih =>
    rw [List.foldlM_cons, Option.bind_eq_bind, Option.bind_eq_some_iff] at h
    obtain ⟨next, hfirst, hrest⟩ := h
    obtain ⟨position, -, hkeys⟩ := keys_of_add? hfirst
    rw [ih hrest, hkeys, tokensOf, tokensOf, List.map_append, List.append_assoc]
    rfl

/-- So many more keys can be added after all others before there are no more positions. -/
structure HasRoom (sort : EntitySort model) (count : Nat) : Prop where
  le : count ≤ UInt64.size
  position_lt : ∀ key ∈ sort.stored, key.position.toNat + count < UInt64.size

/-- There is room for one more key than there is once one key was added. -/
theorem hasRoom_succ_iff (path : String) (direction : SortDirection) :
    sort.HasRoom (count + 1) ↔
      ∃ added, sort.add? path direction = some added ∧ added.HasRoom count := by
  constructor
  · rintro ⟨hle, hlt⟩
    obtain ⟨position, hnext⟩ : ∃ position, sort.nextPosition? = some position := by
      refine Option.ne_none_iff_exists'.mp fun hnone => ?_
      obtain ⟨key, hkey, hlast⟩ := nextPosition?_eq_none_iff.mp hnone
      have hroom := hlt key hkey
      rw [hlast, show SortKey.lastPosition.toNat = UInt64.size - 1 from rfl] at hroom
      omega
    refine ⟨_, add?_eq_some_iff.mpr ⟨position, hnext, rfl⟩, by omega,
      List.forall_mem_append.mpr ⟨fun key hkey => ?_, List.forall_mem_singleton.mpr ?_⟩⟩
    · have hroom := hlt key hkey
      omega
    · change position.toNat + count < UInt64.size
      rcases (nextPosition?_eq_some_iff.mp hnext).2 with rfl | ⟨key, hkey, hafter⟩
      · rw [UInt64.toNat_zero]
        omega
      · rw [SortKey.nextPosition?_eq_some_iff.mp hafter]
        have hroom := hlt key hkey
        omega
  · rintro ⟨added, hadd, hroom⟩
    obtain ⟨position, hnext, rfl⟩ := add?_eq_some_iff.mp hadd
    obtain ⟨hstored, hadded⟩ := List.forall_mem_append.mp hroom.position_lt
    have hlast := hadded ⟨path, direction, position⟩ List.mem_cons_self
    dsimp only at hlast
    refine ⟨by omega, fun key hkey => ?_⟩
    have hlt := UInt64.lt_iff_toNat_lt.mp ((nextPosition?_eq_some_iff.mp hnext).1 key hkey)
    omega

/-- Keys can be added as long as there are positions for them. -/
theorem exists_foldlM_add?_iff :
    (∃ added, tokens.foldlM (fun sort token => sort.add? token.1 token.2) sort = some added) ↔
      sort.HasRoom tokens.length := by
  induction tokens generalizing sort with
  | nil => exact iff_of_true ⟨sort, rfl⟩ ⟨Nat.zero_le _, fun key _ => key.position.toNat_lt⟩
  | cons token rest ih =>
    rw [List.length_cons, hasRoom_succ_iff token.1 token.2]
    simp only [List.foldlM_cons, Option.bind_eq_bind, Option.bind_eq_some_iff, ← ih]
    constructor
    · rintro ⟨added, next, hfirst, hrest⟩
      exact ⟨next, hfirst, added, hrest⟩
    · rintro ⟨next, hfirst, added, hrest⟩
      exact ⟨added, next, hfirst, hrest⟩

/-- A key can be added unless some key has the last position. It then comes after all others, at
    the position right behind the highest one or at the first one of all. -/
theorem add?_appends_unless_last (sort : EntitySort model) (path : String)
    (direction : SortDirection) :
    (sort.add? path direction = none ↔
      ∃ key ∈ sort.stored, key.position = SortKey.lastPosition) ∧
    ∀ added, sort.add? path direction = some added → ∃ position,
      (∀ key ∈ sort.stored, key.position < position) ∧
      (position = 0 ∨ ∃ key ∈ sort.stored, position.toNat = key.position.toNat + 1) ∧
      added = { sort with stored := sort.stored ++ [⟨path, direction, position⟩] } ∧
      added.keys = sort.keys ++ [⟨path, direction, position⟩] := by
  refine ⟨?_, fun added hadd => ?_⟩
  · rw [← nextPosition?_eq_none_iff, add?, Option.bind_eq_bind, Option.bind_eq_none_iff]
    simp [Option.eq_none_iff_forall_ne_some]
  · obtain ⟨position, hnext, hadded⟩ := add?_eq_some_iff.mp hadd
    obtain ⟨hlt, hlowest⟩ := nextPosition?_eq_some_iff.mp hnext
    simp only [SortKey.nextPosition?_eq_some_iff] at hlowest
    obtain ⟨_, hnext', hkeys⟩ := keys_of_add? hadd
    cases hnext.symm.trans hnext'
    exact ⟨position, hlt, hlowest, hadded, hkeys⟩

end EntitySort

/-- Addresses with a street and a city. -/
def Addresses.address : Model :=
  ⟨"Address", [{ name := "Street", kind := .text }, { name := "City", kind := .text }]⟩

/-- A stored sort by city, whose key has the last position. -/
def Addresses.byCityLast : String :=
  Json.render (.ofMembers [("propertySorts", .array [.ofMembers [("propertyPath", .string "City"),
    ("direction", .string "ascending"), ("position", .number "18446744073709551615")]])])

/-- A key that is added behind the last position but one has the last one. -/
theorem EntitySort.add?_appends_unless_last_street :
    ∃ added : EntitySort Addresses.address,
      add? ⟨[⟨"City", .ascending, 18446744073709551614⟩], none⟩ "Street" .descending =
        some added ∧
      added.keys = [⟨"City", .ascending, 18446744073709551614⟩,
        ⟨"Street", .descending, SortKey.lastPosition⟩] := by
  let sort : EntitySort Addresses.address := ⟨[⟨"City", .ascending, 18446744073709551614⟩], none⟩
  let added : EntitySort Addresses.address :=
    ⟨sort.stored ++ [⟨"Street", .descending, SortKey.lastPosition⟩], none⟩
  have hadd : sort.add? "Street" .descending = some added := by decide
  obtain ⟨position, -, -, hadded, hkeys⟩ :=
    (add?_appends_unless_last sort "Street" .descending).2 added hadd
  obtain rfl : position = SortKey.lastPosition := by simpa [sort, added] using hadded.symm
  exact ⟨added, hadd, hkeys⟩

/-- Nothing can be added to a sort that was stored with the last position. -/
theorem EntitySort.add?_stored_last : ∃ sort : EntitySort Addresses.address,
    ofJsonText? Addresses.byCityLast = some sort ∧
      sort.keys = [⟨"City", .ascending, SortKey.lastPosition⟩] ∧
      sort.add? "Street" .ascending = none := by
  refine ⟨⟨[⟨"City", .ascending, SortKey.lastPosition⟩], none⟩, ?_, by decide, by decide⟩
  rw [ofJsonText?, Json.read?, Addresses.byCityLast, Json.render, String.toList_ofList]
  rfl

end EntityQuery
