import EntityQuery.Proofs.Sort.Nested

namespace EntityQuery

namespace EntitySort

variable {schema : Schema} {count : Nat} {tokens : List (String × SortDirection)}

/-- A key that was added later has a higher position, and all positions are below the number of keys
    that were ever added. Keys that were taken out again leave gaps. -/
structure Numbered {model : Model} (sort : EntitySort model) (count : Nat) : Prop where
  pairwise : sort.stored.Pairwise fun a b => a.position < b.position
  position_lt : ∀ key ∈ sort.stored, key.position.toNat < count

theorem numbered_of_stored_eq_nil {model : Model} {sort : EntitySort model}
    (hsort : sort.stored = []) :
    sort.Numbered count := by
  constructor
  · rw [hsort]
    exact .nil
  · rw [hsort]
    exact fun _ hkey => absurd hkey List.not_mem_nil

namespace Numbered

variable {model : Model} {sort added : EntitySort model}

protected theorem keys_eq (h : sort.Numbered count) : sort.keys = sort.stored := by
  refine StableSort.sort_eq_self (h.pairwise.imp fun hlt => ?_)
  exact decide_eq_false (UInt64.lt_asymm hlt)

theorem hasRoom (h : sort.Numbered count) {more : Nat} (hcount : count + more ≤ UInt64.size) :
    sort.HasRoom more := by
  refine ⟨by omega, fun key hkey => ?_⟩
  have hlt := h.position_lt key hkey
  omega

theorem of_add? (h : sort.Numbered count) {path : String} {direction : SortDirection}
    (hadd : sort.add? path direction = some added) : added.Numbered (count + 1) := by
  obtain ⟨position, hnext, rfl⟩ := add?_eq_some_iff.mp hadd
  obtain ⟨hlt, hlowest⟩ := nextPosition?_eq_some_iff.mp hnext
  constructor
  · refine List.pairwise_append.mpr ⟨h.pairwise, List.pairwise_singleton _ _, ?_⟩
    intro key hkey
    exact List.forall_mem_singleton.mpr (hlt key hkey)
  · refine List.forall_mem_append.mpr ⟨fun key hkey => ?_, List.forall_mem_singleton.mpr ?_⟩
    · exact Nat.lt_succ_of_lt (h.position_lt key hkey)
    · rcases hlowest with rfl | ⟨key, hkey, hafter⟩
      · exact Nat.zero_lt_succ count
      · exact SortKey.nextPosition?_eq_some_iff.mp hafter ▸
          Nat.succ_lt_succ (h.position_lt key hkey)

theorem of_foldlM_add? (h : sort.Numbered count)
    (hadd : tokens.foldlM (fun sort token => sort.add? token.1 token.2) sort = some added) :
    added.Numbered (count + tokens.length) := by
  induction tokens generalizing sort count with
  | nil =>
    cases hadd
    exact h
  | cons token rest ih =>
    rw [List.foldlM_cons, Option.bind_eq_bind, Option.bind_eq_some_iff] at hadd
    obtain ⟨next, hfirst, hrest⟩ := hadd
    rw [List.length_cons, ← Nat.add_assoc, Nat.add_right_comm]
    exact ih (h.of_add? hfirst) hrest

/-- Keys stay in their places when some are renamed and others are left out. -/
theorem rename (h : sort.Numbered count) {target : Model} {renamed : EntitySort target}
    {rename : String → Option String}
    (hstored : renamed.stored = sort.stored.filterMap fun key =>
      (rename key.path).map fun path => { key with path }) : renamed.Numbered count := by
  constructor
  · rw [hstored]
    refine h.pairwise.filterMap _ fun key other hlt key' hkey' other' hother' => ?_
    obtain ⟨_, -, rfl⟩ := Option.map_eq_some_iff.mp hkey'
    obtain ⟨_, -, rfl⟩ := Option.map_eq_some_iff.mp hother'
    exact hlt
  · intro key' hkey'
    rw [hstored] at hkey'
    obtain ⟨key, hkey, hrenamed⟩ := List.mem_filterMap.mp hkey'
    obtain ⟨_, -, rfl⟩ := Option.map_eq_some_iff.mp hrenamed
    exact h.position_lt key hkey

end Numbered

/-- A call that turns a sort into another one, which may be one of other entities. -/
inductive Call (source : Model) : Model → Type where
  | withSettings (settings : SortSettings) : Call source source
  | add (path : String) (direction : SortDirection) : Call source source
  | addSyntax (current : SortSettings) (raw : String) : Call source source
  | addNested {inside : Model} (property : String) (inner : EntitySort inside) : Call source source
  | clear : Call source source
  | nested (property : String) (inside : Model) : Call source inside
  | cast (current : SortSettings) (target : Model) : Call source target

namespace Call

variable {source target : Model} {sort : EntitySort source} {next : EntitySort target}

/-- The sort that a call results in, if there are positions for all keys that it adds. -/
def run? (schema : Schema) (sort : EntitySort source) :
    {target : Model} → Call source target → Option (EntitySort target)
  | _, .withSettings settings => some (sort.withSettings settings)
  | _, .add path direction => sort.add? path direction
  | _, .addSyntax current raw => sort.addSyntax? schema current raw
  | _, .addNested property inner => sort.addNested? property inner
  | _, .clear => some sort.clear
  | _, .nested property inside => some (sort.nested property inside)
  | _, .cast current target => some (sort.cast schema current target)

/-- The keys that a call adds. -/
def addedTokens (schema : Schema) (sort : EntitySort source) :
    {target : Model} → Call source target → List (String × SortDirection)
  | _, .add path direction => [(path, direction)]
  | _, .addSyntax current raw => sort.tokensOfSyntax schema current raw
  | _, .addNested property inner =>
    (tokensOf inner.keys).map (Prod.map (pathThrough (source.canonicalName property)) id)
  | _, .withSettings _ | _, .clear | _, .nested _ _ | _, .cast _ _ => []

theorem numbered (call : Call source target) (h : sort.Numbered count)
    (hnext : call.run? schema sort = some next) :
    next.Numbered (count + (call.addedTokens schema sort).length) := by
  cases call with
  | withSettings =>
    cases hnext
    exact ⟨h.pairwise, h.position_lt⟩
  | add => exact h.of_add? hnext
  | addSyntax =>
    rw [run?, addSyntax?_eq_foldlM] at hnext
    exact h.of_foldlM_add? hnext
  | addNested =>
    rw [run?, addNested?_eq_foldlM] at hnext
    exact h.of_foldlM_add? hnext
  | clear =>
    cases hnext
    exact numbered_of_stored_eq_nil rfl
  | nested property =>
    cases hnext
    exact h.rename (show (sort.nested property target).stored = _ from rfl)
  | cast current target =>
    cases hnext
    exact h.rename (stored_cast schema sort current target)

/-- A call that adds keys puts them after all others. -/
theorem tokensOf_keys (call : Call source target) (hnext : call.run? schema sort = some next)
    (htokens : call.addedTokens schema sort ≠ []) :
    tokensOf next.keys = tokensOf sort.keys ++ call.addedTokens schema sort := by
  cases call with
  | withSettings | clear | nested | cast => exact absurd rfl htokens
  | add path direction =>
    obtain ⟨position, -, hkeys⟩ := keys_of_add? hnext
    rw [hkeys, tokensOf, List.map_append]
    rfl
  | addSyntax => exact tokensOf_addSyntax? hnext
  | addNested => exact tokensOf_addNested? hnext

/-- A call results in a sort if there is room for the keys that it adds. -/
theorem exists_run? (call : Call source target)
    (hroom : sort.HasRoom (call.addedTokens schema sort).length) :
    ∃ next, call.run? schema sort = some next := by
  cases call with
  | withSettings | clear | nested | cast => exact ⟨_, rfl⟩
  | add path direction =>
    obtain ⟨added, hadd, -⟩ := (hasRoom_succ_iff path direction).mp hroom
    exact ⟨added, hadd⟩
  | addSyntax =>
    simp only [run?, addSyntax?_eq_foldlM]
    exact exists_foldlM_add?_iff.mpr hroom
  | addNested =>
    simp only [run?, addNested?_eq_foldlM]
    exact exists_foldlM_add?_iff.mpr hroom

end Call

/-- A sort that a run of calls makes of an empty one, and the number of keys that were added. -/
inductive Reached (schema : Schema) : {model : Model} → EntitySort model → Nat → Prop
  | empty {model : Model} : Reached schema (empty : EntitySort model) 0
  | call {source target : Model} {sort : EntitySort source} {next : EntitySort target} {count : Nat}
    (h : Reached schema sort count) (call : Call source target)
    (hnext : call.run? schema sort = some next) :
    Reached schema next (count + (call.addedTokens schema sort).length)

namespace Reached

variable {model : Model} {sort : EntitySort model}

protected theorem numbered (h : Reached schema sort count) : sort.Numbered count := by
  induction h with
  | empty => exact numbered_of_stored_eq_nil rfl
  | call _ call hnext ih => exact call.numbered ih hnext

/-- As long as there were fewer keys than positions, the keys of a sort that calls have made are
    stored by ascending position, each at its own, so that they are taken as they are stored. There
    is a next position then, and a key that is added there comes after all others. Every call that
    adds no more keys than there are positions succeeds, with its keys after all others. -/
theorem positions_ascend (h : Reached schema sort count) (hcount : count < UInt64.size) :
    (sort.stored.Pairwise fun a b => a.position < b.position) ∧ sort.keys = sort.stored ∧
    (∀ path direction, ∃ added position, sort.add? path direction = some added ∧
      sort.nextPosition? = some position ∧
      added.keys = sort.keys ++ [⟨path, direction, position⟩]) ∧
    ∀ {target : Model} (call : Call model target),
      count + (call.addedTokens schema sort).length ≤ UInt64.size →
      ∃ next, call.run? schema sort = some next ∧ (call.addedTokens schema sort ≠ [] →
        tokensOf next.keys = tokensOf sort.keys ++ call.addedTokens schema sort) := by
  have hnumbered := h.numbered
  refine ⟨hnumbered.pairwise, hnumbered.keys_eq, fun path direction => ?_, fun call hadded => ?_⟩
  · have hroom : sort.HasRoom (0 + 1) := hnumbered.hasRoom hcount
    obtain ⟨added, hadd, -⟩ := (hasRoom_succ_iff path direction).mp hroom
    obtain ⟨position, hnext, hkeys⟩ := keys_of_add? hadd
    exact ⟨added, position, hadd, hnext, hkeys⟩
  · obtain ⟨next, hnext⟩ := call.exists_run? (hnumbered.hasRoom hadded)
    exact ⟨next, hnext, call.tokensOf_keys hnext⟩

end Reached

end EntitySort

namespace Staff

/-- Keys that were read from a text. -/
def fromText : EntitySort employee :=
  ⟨[⟨"Boss.Name", .ascending, 0⟩, ⟨"Name", .descending, 1⟩,
    ⟨"Boss.Boss.Name", .descending, 2⟩], none⟩

/-- The keys behind the boss, and others that were added after them. The key in the middle was
    taken out, so that its position is not used. -/
def ofBosses : EntitySort employee :=
  ⟨[⟨"Name", .ascending, 0⟩, ⟨"Boss.Name", .descending, 2⟩, ⟨"Boss.Boss.Name", .ascending, 3⟩,
    ⟨"Boss", .descending, 4⟩, ⟨"Boss.", .ascending, 5⟩], none⟩

end Staff

/-- After six keys, of which one was taken out, the next one is added at the seventh position. -/
theorem EntitySort.positions_ascend_staff :
    Reached Staff.schema Staff.ofBosses 6 ∧ 6 < UInt64.size ∧
    (Staff.ofBosses.keys.map fun key => (key.path, key.position)) =
      [("Name", 0), ("Boss.Name", 2), ("Boss.Boss.Name", 3), ("Boss", 4), ("Boss.", 5)] ∧
    ∃ added, Staff.ofBosses.add? "Pay" .descending = some added ∧
      added.keys = Staff.ofBosses.keys ++ [⟨"Pay", .descending, 6⟩] := by
  have htext : (Call.addSyntax .builtin "boss.name, name desc, boss.boss.name desc").run?
      Staff.schema EntitySort.empty = some Staff.fromText := by decide
  have hread : Reached Staff.schema Staff.fromText 3 := .call .empty _ htext
  have hreached : Reached Staff.schema Staff.ofBosses 6 :=
    .call (.call hread (.nested "boss" Staff.employee) rfl) (.addNested "boss" Staff.ofBoss) rfl
  have hcount : 6 < UInt64.size := by decide
  obtain ⟨-, hkeys, hadd, -⟩ := hreached.positions_ascend hcount
  obtain ⟨added, position, hadded, hnext, hlast⟩ := hadd "Pay" .descending
  have hposition : Staff.ofBosses.nextPosition? = some 6 := by decide
  cases hnext.symm.trans hposition
  refine ⟨hreached, hcount, ?_, added, hadded, hlast⟩
  rw [hkeys]
  rfl

end EntityQuery
