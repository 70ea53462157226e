import EntityQuery.Proofs.Sort.Accepted

namespace EntityQuery

namespace EntitySort

variable {model inside : Model} {sort merged : EntitySort model} {inner : EntitySort inside}
  {property : String}

/-- The path of a key of related values, for an entity with the property that leads to them. -/
def pathThrough (property path : String) : String :=
  if path == SortKey.pathToSelf then property else property ++ "." ++ path

theorem pathBehind?_pathThrough (property path : String) :
    pathBehind? property (pathThrough property path) = some path := by
  rw [pathThrough, pathBehind?]
  split
  case isTrue hself => rw [if_pos (BEq.refl property), eq_of_beq hself]
  case isFalse =>
    have hlonger : property ++ "." ++ path ≠ property := by
      intro heq
      have hlength := congrArg String.length heq
      rw [String.length_append, String.length_append, show ".".length = 1 from rfl] at hlength
      omega
    have hprefix : (property ++ ".").toList.isPrefixOf? (property ++ "." ++ path).toList =
        some path.toList :=
      List.isPrefixOf?_eq_some_iff_append_eq.mpr String.toList_append.symm
    rw [if_neg (by simpa using hlonger), hprefix, Option.map_some, String.ofList_toList]

theorem addNested?_eq_foldlM (sort : EntitySort model) (property : String)
    (inner : EntitySort inside) : sort.addNested? property inner =
      ((tokensOf inner.keys).map (Prod.map (pathThrough (model.canonicalName property)) id)).foldlM
        (fun sort token => sort.add? token.1 token.2) sort := by
  rw [tokensOf, List.map_map, List.foldlM_map]
  rfl

theorem tokensOf_addNested? (h : sort.addNested? property inner = some merged) :
    tokensOf merged.keys = tokensOf sort.keys ++
      (tokensOf inner.keys).map (Prod.map (pathThrough (model.canonicalName property)) id) :=
  tokensOf_of_foldlM_add? (addNested?_eq_foldlM sort property inner ▸ h)

theorem length_tokensOf_keys (sort : EntitySort model) :
    (tokensOf sort.keys).length = sort.stored.length := by
  rw [tokensOf, List.length_map, keys, (StableSort.sort_perm _ _).length_eq]

/-- The keys of another sort can be added just if there are positions for all of them. -/
theorem exists_addNested?_iff : (∃ merged, sort.addNested? property inner = some merged) ↔
    sort.HasRoom inner.stored.length := by
  simp only [addNested?_eq_foldlM]
  rw [exists_foldlM_add?_iff, List.length_map, length_tokensOf_keys]

theorem tokensOf_nested (sort : EntitySort model) (property : String) (target : Model) :
    tokensOf (sort.nested property target).keys = (tokensOf sort.keys).filterMap fun token =>
      (pathBehind? (model.canonicalName property) token.1).map fun path => (path, token.2) :=
  tokensOf_rename rfl

/-- The keys of a sort of related values come after all others when they are added under a
    property, and are taken out again behind those that were there. They can be added just if there
    are positions for all of them. A cast sort has the keys whose paths are found in their order. -/
theorem tokensOf_addNested_nested_cast (sort : EntitySort model) :
    (∀ {inside : Model} (inner : EntitySort inside) (property : String),
      (sort.HasRoom inner.stored.length ↔ ∃ merged, sort.addNested? property inner = some merged) ∧
      ∀ merged, sort.addNested? property inner = some merged →
        tokensOf merged.keys = tokensOf sort.keys ++
          (tokensOf inner.keys).map (Prod.map (pathThrough (model.canonicalName property)) id) ∧
        ∀ target, tokensOf (merged.nested property target).keys =
          tokensOf (sort.nested property target).keys ++ tokensOf inner.keys) ∧
    ∀ (schema : Schema) (current : SortSettings) (target : Model),
      tokensOf (sort.cast schema current target).keys = (tokensOf sort.keys).filterMap fun token =>
        (SortPath.stored? schema target (sort.effectiveSettings current).ignorePropertyNameCase
          token.1).map fun path => (path, token.2) := by
  refine ⟨fun inner property => ⟨exists_addNested?_iff.symm, fun merged hmerged =>
    ⟨tokensOf_addNested? hmerged, fun target => ?_⟩⟩,
    fun schema current target => tokensOf_rename (stored_cast schema sort current target)⟩
  rw [tokensOf_nested, tokensOf_addNested? hmerged, List.filterMap_append, ← tokensOf_nested,
    List.filterMap_map]
  congr 1
  refine (List.filterMap_congr fun token _ => ?_).trans List.filterMap_some
  rw [Function.comp_apply, Prod.map_fst, pathBehind?_pathThrough]
  rfl

end EntitySort

namespace Staff

/-- Two keys share a position, and the first one is the last by position. -/
def scattered : EntitySort employee :=
  ⟨[⟨"Name", .ascending, 7⟩, ⟨"Boss.Name", .descending, 3⟩, ⟨"Ghost", .ascending, 3⟩,
    ⟨"Boss", .ascending, 0⟩], none⟩

/-- Keys on a boss, of which one has no path. -/
def ofBoss : EntitySort employee :=
  ⟨[⟨SortKey.pathToSelf, .descending, 5⟩, ⟨"", .ascending, 5⟩, ⟨"Boss.Name", .ascending, 1⟩], none⟩

end Staff

/-- Keys on a boss come behind all others and are taken out again in their own order, the one of no
    path included. Of the others, those on the boss alone and on a ghost are dropped by a cast. -/
theorem EntitySort.tokensOf_addNested_nested_cast_staff :
    Staff.scattered.HasRoom Staff.ofBoss.stored.length ∧
    (∃ merged, Staff.scattered.addNested? "boss" Staff.ofBoss = some merged ∧
      tokensOf merged.keys =
        [("Boss", .ascending), ("Boss.Name", .descending), ("Ghost", .ascending),
          ("Name", .ascending), ("Boss.Boss.Name", .ascending), ("Boss", .descending),
          ("Boss.", .ascending)] ∧
      tokensOf (merged.nested "boss" Staff.employee).keys =
        [(SortKey.pathToSelf, .ascending), ("Name", .descending),
          ("Boss.Name", .ascending), (SortKey.pathToSelf, .descending), ("", .ascending)]) ∧
    tokensOf (Staff.scattered.cast Staff.schema .builtin Staff.employee).keys =
      [("Boss.Name", .descending), ("Name", .ascending)] := by
  obtain ⟨hmerged, hcast⟩ := tokensOf_addNested_nested_cast Staff.scattered
  obtain ⟨hfits, hkeys⟩ := hmerged Staff.ofBoss "boss"
  have hroom : Staff.scattered.HasRoom Staff.ofBoss.stored.length := ⟨by decide, by decide⟩
  obtain ⟨merged, hadded⟩ := hfits.mp hroom
  obtain ⟨htokens, hnested⟩ := hkeys merged hadded
  refine ⟨hroom, ⟨merged, hadded, htokens.trans ?_, (hnested Staff.employee).trans ?_⟩,
    (hcast Staff.schema .builtin Staff.employee).trans ?_⟩
  · decide
  · decide
  · decide

end EntityQuery
