import EntityQuery.Proofs.Sequential
import EntityQuery.Proofs.StableSort
import EntityQuery.Sort.Compiled

namespace EntityQuery

open StableSort (ComparesOn)

instance : Std.TransCmp Calendar.DateTime.compare :=
  inferInstanceAs (Std.TransCmp (compareLex (compareLex
    (compareOn fun instant : Calendar.DateTime => instant.date.day)
    (compareOn fun instant : Calendar.DateTime => instant.time.second))
    (compareOn fun instant : Calendar.DateTime => instant.time.nano)))

/-- Two values of the same kind, or of which one is null. -/
inductive Value.SameKind : Value → Value → Prop
  | nullLeft (value) : SameKind .null value
  | nullRight (value) : SameKind value .null
  | bool (a b) : SameKind (.bool a) (.bool b)
  | int (a b) : SameKind (.int a) (.int b)
  | float (a b) : SameKind (.float a) (.float b)
  | text (a b) : SameKind (.text a) (.text b)
  | dateTime (a b) : SameKind (.dateTime a) (.dateTime b)
  | guid (a b) : SameKind (.guid a) (.guid b)
  | other (a b) : SameKind (.other a) (.other b)
  | object (a b) : SameKind (.object a) (.object b)
  | list (a b) : SameKind (.list a) (.list b)

namespace Value

variable {a b c : Value}

theorem SameKind.symm (h : SameKind a b) : SameKind b a := by
  cases h <;> constructor

theorem sortCompare_null_lt (h : a ≠ .null) : sortCompare .null a = .lt := by
  cases a with
  | null => exact absurd rfl h
  | _ => rfl

theorem sortCompare_null_gt (h : a ≠ .null) : sortCompare a .null = .gt := by
  cases a with
  | null => exact absurd rfl h
  | _ => rfl

private theorem sortCompare_swap (h : SameKind a b) :
    sortCompare b a = (sortCompare a b).swap := by
  cases h with
  | nullLeft => cases b <;> rfl
  | nullRight => cases a <;> rfl
  | object => rfl
  | dateTime a b =>
    have hswap : b.compare a = (a.compare b).swap := Std.OrientedCmp.eq_swap
    exact hswap
  | _ => exact Std.OrientedOrd.eq_swap

private theorem sortCompare_trans (hab : SameKind a b) (hbc : SameKind b c)
    (hle : (sortCompare a b).isLE = true) (hle' : (sortCompare b c).isLE = true) :
    (sortCompare a c).isLE = true := by
  by_cases ha : a = .null
  · subst ha
    cases c <;> rfl
  by_cases hb : b = .null
  · subst hb
    rw [sortCompare_null_gt ha] at hle
    cases hle
  by_cases hc : c = .null
  · subst hc
    rw [sortCompare_null_gt hb] at hle'
    cases hle'
  cases hab with
  | nullLeft => exact absurd rfl ha
  | nullRight => exact absurd rfl hb
  | dateTime a b =>
    cases hbc with
    | nullRight => exact absurd rfl hc
    | dateTime b c =>
      have htrans : (a.compare c).isLE = true := Std.TransCmp.isLE_trans hle hle'
      exact htrans
  | object =>
    cases hbc with
    | nullRight => exact absurd rfl hc
    | object => rfl
  | _ =>
    cases hbc with
    | nullRight => exact absurd rfl hc
    | _ => exact Std.TransOrd.isLE_trans hle hle'

/-- Values of one kind and null are put into an order by what sort keys compare. -/
theorem comparesOn_sortCompare : ComparesOn SameKind sortCompare where
  swap := sortCompare_swap
  trans hab hbc _ := sortCompare_trans hab hbc

theorem comparesOn_orient (direction : SortDirection) :
    ComparesOn SameKind (direction.orient sortCompare) := by
  cases direction with
  | ascending => exact comparesOn_sortCompare
  | descending => exact comparesOn_sortCompare.flip SameKind.symm

end Value

namespace CompiledSort

/-- A key at which a row comes first, after keys at which two rows tie. -/
inductive Precedes : List (Access × SortDirection) → List Value → List Value → Prop
  | here {key keys a b as bs} (hfirst : key.2.orient Value.sortCompare a b = .lt) :
    Precedes (key :: keys) (a :: as) (b :: bs)
  | later {key keys a b as bs} (htie : key.2.orient Value.sortCompare a b = .eq)
    (hrest : Precedes keys as bs) : Precedes (key :: keys) (a :: as) (b :: bs)

/-- Two rows that no key tells apart. -/
inductive Ties : List (Access × SortDirection) → List Value → List Value → Prop
  | nil : Ties [] [] []
  | cons {key keys a b as bs} (htie : key.2.orient Value.sortCompare a b = .eq)
    (hrest : Ties keys as bs) : Ties (key :: keys) (a :: as) (b :: bs)

/-- Rows whose values are all of one kind in each column, but for nulls. -/
def Uniform (rows : List (List Value)) : Prop :=
  ∀ first ∈ rows, ∀ second ∈ rows, List.Forall₂ Value.SameKind first second

variable {keys : List (Access × SortDirection)} {first second : List Value}

private theorem compareRows_cons (key : Access × SortDirection) (a b : Value) (as bs : List Value) :
    compareRows (key :: keys) (a :: as) (b :: bs) =
      (key.2.orient Value.sortCompare a b).then (compareRows keys as bs) := rfl

theorem compareRows_eq_lt_iff (hfirst : first.length = keys.length)
    (hsecond : second.length = keys.length) :
    compareRows keys first second = .lt ↔ Precedes keys first second := by
  induction keys generalizing first second with
  | nil => exact ⟨fun h => (nomatch h), fun h => (nomatch h)⟩
  | cons key keys ih =>
    obtain ⟨a, as, rfl⟩ := List.exists_cons_of_length_eq_add_one hfirst
    obtain ⟨b, bs, rfl⟩ := List.exists_cons_of_length_eq_add_one hsecond
    have hrest := ih (Nat.succ.inj hfirst) (Nat.succ.inj hsecond)
    rw [compareRows_cons, Ordering.then_eq_lt, hrest]
    constructor
    · rintro (hlt | ⟨htie, hprecedes⟩)
      · exact .here hlt
      · exact .later htie hprecedes
    · intro h
      cases h with
      | here hlt => exact .inl hlt
      | later htie hprecedes => exact .inr ⟨htie, hprecedes⟩

theorem compareRows_eq_eq_iff (hfirst : first.length = keys.length)
    (hsecond : second.length = keys.length) :
    compareRows keys first second = .eq ↔ Ties keys first second := by
  induction keys generalizing first second with
  | nil =>
    rw [List.length_eq_zero_iff.mp hfirst, List.length_eq_zero_iff.mp hsecond]
    exact ⟨fun _ => .nil, fun _ => rfl⟩
  | cons key keys ih =>
    obtain ⟨a, as, rfl⟩ := List.exists_cons_of_length_eq_add_one hfirst
    obtain ⟨b, bs, rfl⟩ := List.exists_cons_of_length_eq_add_one hsecond
    have hrest := ih (Nat.succ.inj hfirst) (Nat.succ.inj hsecond)
    rw [compareRows_cons, Ordering.then_eq_eq, hrest]
    constructor
    · exact fun ⟨htie, hties⟩ => .cons htie hties
    · intro h
      cases h with
      | cons htie hties => exact ⟨htie, hties⟩

theorem Precedes.not_ties (h : Precedes keys first second) : ¬ Ties keys first second := by
  induction h with
  | here hlt =>
    intro hties
    cases hties with
    | cons htie _ =>
      rw [hlt] at htie
      cases htie
  | later _ _ ih =>
    intro hties
    cases hties with
    | cons _ hrest => exact ih hrest

/-- Rows of values of one kind in each column are put into an order by their keys. -/
theorem comparesOn_compareRows (keys : List (Access × SortDirection)) :
    ComparesOn (List.Forall₂ Value.SameKind) (compareRows keys) := by
  induction keys with
  | nil => exact ⟨fun _ => rfl, fun _ _ _ _ _ => rfl⟩
  | cons key keys ih =>
    have hkey := Value.comparesOn_orient key.2
    constructor
    · intro first second hrelated
      cases hrelated with
      | nil => rfl
      | cons hab hrest =>
        rw [compareRows_cons, compareRows_cons, Ordering.swap_then, hkey.swap hab, ih.swap hrest]
    · intro first second third hfirst hsecond hends hle hle'
      cases hfirst with
      | nil =>
        cases hsecond
        rfl
      | cons hab hfirst =>
        cases hsecond with
        | cons hbc hsecond =>
          cases hends with
          | cons hac hends =>
            rw [compareRows_cons, Ordering.isLE_then_iff_and] at hle hle' ⊢
            have htrans := hkey.trans hab hbc hac hle.1 hle'.1
            refine ⟨htrans, ?_⟩
            cases hcompare : key.2.orient Value.sortCompare _ _ with
            | lt => exact .inl rfl
            | gt => simp [hcompare] at htrans
            | eq =>
              -- If the outer values tie at this key, then so do all three, and the rest decides.
              obtain ⟨heq, heq'⟩ :=
                hkey.eq_of_eq Value.SameKind.symm hab hbc hac hle.1 hle'.1 hcompare
              have hrest := hle.2.resolve_left (by simp [heq])
              have hrest' := hle'.2.resolve_left (by simp [heq'])
              exact .inr (ih.trans hfirst hsecond hends hrest hrest')

variable {α : Type} [AsEntity α] {sort : CompiledSort} {items : List α}
  {rows : List (List Value)}

theorem length_row {entity : Entity} {row : List Value} (hrow : sort.row entity = .ok row) :
    row.length = sort.keys.length :=
  (mapM_eq_ok_iff.mp hrow).length_eq.symm

/-- Sorting numbered rows puts a row before the rows that it precedes, and before those that come
    after it and tie with it. -/
private theorem sort_zipIdx_pairwise (huniform : Uniform rows)
    (hlength : ∀ row ∈ rows, row.length = keys.length) :
    (StableSort.sort (fun a b : List Value × Nat => compareRows keys a.1 b.1 == .lt)
      rows.zipIdx).Pairwise fun a b => Precedes keys a.1 b.1 ∨ Ties keys a.1 b.1 ∧ a.2 < b.2 := by
  have hrow : ∀ numbered ∈ rows.zipIdx, numbered.1 ∈ rows := fun numbered hmem =>
    List.mem_of_getElem? (List.mem_zipIdx_iff_getElem?.mp hmem)
  have hnumbers : rows.zipIdx.Pairwise fun a b => a.2 < b.2 := by
    refine List.pairwise_map.mp ?_
    rw [List.zipIdx_map_snd]
    exact List.pairwise_lt_range'
  have hsorted := StableSort.sort_by_comparison (comparesOn_compareRows keys)
    (fun a ha b hb => huniform a.1 (hrow a ha) b.1 (hrow b hb)) hnumbers
  refine hsorted.imp_of_mem fun {a b} ha hb hab => ?_
  have hfirst := hlength a.1 (hrow a (StableSort.mem_sort.mp ha))
  have hsecond := hlength b.1 (hrow b (StableSort.mem_sort.mp hb))
  rwa [compareRows_eq_lt_iff hfirst hsecond, compareRows_eq_eq_iff hfirst hsecond] at hab

/-- A sort without keys leaves items as they are. -/
theorem order_of_keys_eq_nil (hkeys : sort.keys = []) (items : List α) :
    sort.order items = .ok (List.range items.length) := by
  rw [order, isEmpty, hkeys]
  rfl

theorem order_of_rows (hkeys : sort.keys ≠ [])
    (hrows : List.Forall₂ (fun item row => sort.row (entity item) = .ok row) items rows) :
    sort.order items = .ok ((StableSort.sort
      (fun a b : List Value × Nat => compareRows sort.keys a.1 b.1 == .lt) rows.zipIdx).map
        (·.2)) := by
  have hread : items.mapM (fun item => sort.row (entity item)) = .ok rows :=
    mapM_eq_ok_iff.mpr hrows
  rw [order, isEmpty, List.isEmpty_eq_false_iff.mpr hkeys, hread]
  rfl

/-- A sort that succeeds gives each position once. -/
theorem order_perm {order : List Nat} (horder : sort.order items = .ok order) :
    order.Perm (List.range items.length) := by
  by_cases hkeys : sort.keys = []
  · rw [order_of_keys_eq_nil hkeys, Except.ok.injEq] at horder
    rw [horder]
  · rw [CompiledSort.order, isEmpty, List.isEmpty_eq_false_iff.mpr hkeys] at horder
    obtain ⟨rows, hrows, hsorted⟩ := bind_eq_ok_iff.mp horder
    cases hsorted
    have hlength := (mapM_eq_ok_iff.mp hrows).length_eq
    have hperm := (StableSort.sort_perm
      (fun a b : List Value × Nat => compareRows sort.keys a.1 b.1 == .lt) rows.zipIdx).map (·.2)
    rwa [List.zipIdx_map_snd, ← List.range_eq_range', ← hlength] at hperm

/-- If all keys can be read, and in each column all values but nulls are of one kind, a sort puts
    the positions of items into the one stable order of their rows: of two rows, the one that
    comes first precedes the other or ties with it, and rows that tie keep their order. Null
    comes before all other values in ascending order and after them in descending order. Without
    keys the positions stay as they are. -/
theorem exists_stable_order
    (hrows : List.Forall₂ (fun item row => sort.row (entity item) = .ok row) items rows)
    (huniform : Uniform rows) :
    ∃ order, sort.order items = .ok order ∧ order.Perm (List.range items.length) ∧
      (order.Pairwise fun i j => ∃ first second, rows[i]? = some first ∧ rows[j]? = some second ∧
        (Precedes sort.keys first second ∨ Ties sort.keys first second) ∧
        (Ties sort.keys first second → i < j)) ∧
      (∀ value, value ≠ .null →
        SortDirection.ascending.orient Value.sortCompare .null value = .lt ∧
        SortDirection.descending.orient Value.sortCompare value .null = .lt) ∧
      (sort.keys = [] → order = List.range items.length) := by
  have hnull : ∀ value : Value, value ≠ .null →
      SortDirection.ascending.orient Value.sortCompare .null value = .lt ∧
      SortDirection.descending.orient Value.sortCompare value .null = .lt :=
    fun value hvalue => ⟨Value.sortCompare_null_lt hvalue, Value.sortCompare_null_lt hvalue⟩
  have hlength : ∀ row ∈ rows, row.length = sort.keys.length := by
    intro row hrow
    obtain ⟨item, -, hread⟩ := exists_of_forall₂_mem hrows hrow
    exact length_row hread
  by_cases hkeys : sort.keys = []
  · refine ⟨_, order_of_keys_eq_nil hkeys items, .rfl, ?_, hnull, fun _ => rfl⟩
    have hget : ∀ i ∈ List.range items.length, rows[i]? = some [] := by
      intro i hi
      rw [List.mem_range, hrows.length_eq] at hi
      have hempty := hlength rows[i] (List.getElem_mem hi)
      rw [hkeys, List.length_nil, List.length_eq_zero_iff] at hempty
      rw [List.getElem?_eq_getElem hi, hempty]
    refine List.pairwise_lt_range.imp_of_mem fun {i j} hi hj hij => ?_
    rw [hkeys]
    exact ⟨[], [], hget i hi, hget j hj, .inr .nil, fun _ => hij⟩
  · refine ⟨_, order_of_rows hkeys hrows, ?_, ?_, hnull, fun h => absurd h hkeys⟩
    · have hperm := (StableSort.sort_perm
        (fun a b : List Value × Nat => compareRows sort.keys a.1 b.1 == .lt)
        rows.zipIdx).map (·.2)
      rwa [List.zipIdx_map_snd, ← List.range_eq_range', ← hrows.length_eq] at hperm
    · refine List.pairwise_map.mpr ?_
      refine (sort_zipIdx_pairwise huniform hlength).imp_of_mem fun {a b} ha hb hab => ?_
      have hfirst := List.mem_zipIdx_iff_getElem?.mp (StableSort.mem_sort.mp ha)
      have hsecond := List.mem_zipIdx_iff_getElem?.mp (StableSort.mem_sort.mp hb)
      refine ⟨a.1, b.1, hfirst, hsecond, hab.imp_right And.left, fun hties => ?_⟩
      rcases hab with hprecedes | ⟨-, hlt⟩
      · exact absurd hties hprecedes.not_ties
      · exact hlt

end CompiledSort

namespace Scores

/-- A player, who may have no score yet. -/
def player (name : String) (score : Option Int64) : Entity :=
  .ofProperties [("Name", .text name), ("Score", (score.map Value.int).getD .null)]

/-- By score from high to low, and then by name. -/
def sort : CompiledSort where
  keys := [(Access.root.member "Score" false, .descending),
    (Access.root.member "Name" false, .ascending)]
  guarded := true

def row (entry : String × Option Int64) : List Value :=
  [(entry.2.map Value.int).getD .null, .text entry.1]

def entries : List (String × Option Int64) :=
  [("Dee", none), ("Cid", some 10), ("Ann", some 30), ("Bob", some 10), ("Cid", some 10)]

def players : List Entity := entries.map fun entry => player entry.1 entry.2

theorem uniform_map_row (entries : List (String × Option Int64)) :
    CompiledSort.Uniform (entries.map row) := by
  refine List.forall_mem_map.mpr fun first _ => List.forall_mem_map.mpr fun second _ => ?_
  refine .cons ?_ (.cons (.text _ _) .nil)
  cases first.2 with
  | none => exact .nullLeft _
  | some score =>
    cases second.2 with
    | none => exact .nullRight _
    | some other => exact .int _ _

end Scores

/-- The two of the same name and score keep their order, and the one without a score is last. -/
theorem CompiledSort.exists_stable_order_scores :
    Scores.sort.order Scores.players = .ok [2, 3, 1, 4, 0] ∧
    CompiledSort.Uniform (Scores.entries.map Scores.row) ∧
    [2, 3, 1, 4, 0].Pairwise fun i j => ∃ first second,
      (Scores.entries.map Scores.row)[i]? = some first ∧
      (Scores.entries.map Scores.row)[j]? = some second ∧
      (Precedes Scores.sort.keys first second ∨ Ties Scores.sort.keys first second) ∧
      (Ties Scores.sort.keys first second → i < j) := by
  have hrows : List.Forall₂ (fun item row => Scores.sort.row (entity item) = .ok row)
      Scores.players (Scores.entries.map Scores.row) :=
    List.forall₂_map_left_iff.mpr (List.forall₂_map_right_iff.mpr
      (List.forall₂_same.mpr fun _ _ => rfl))
  have huniform := Scores.uniform_map_row Scores.entries
  obtain ⟨order, horder, -, hpairwise, -⟩ := exists_stable_order hrows huniform
  have hcomputed : Scores.sort.order Scores.players = .ok [2, 3, 1, 4, 0] := rfl
  rw [hcomputed] at horder
  cases horder
  exact ⟨hcomputed, huniform, hpairwise⟩

end EntityQuery
