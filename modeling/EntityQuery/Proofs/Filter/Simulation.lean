import EntityQuery.Proofs.Filter.Build

namespace EntityQuery.FilterTree

variable {settings others : FilterSettings} {R : Predicate → Predicate → Prop}

/-- A relation between predicates that the steps of a build keep, when it is carried out under
    two settings. -/
structure BuildSimulation (settings others : FilterSettings) (R : Predicate → Predicate → Prop) :
    Prop where
  property : ∀ model filter, Alike R (buildProperty model settings none filter)
    (buildProperty model others none filter)
  isEverything : ∀ {inner other}, R inner other → inner.isEverything = other.isEverything
  attach : ∀ field {inner other}, R inner other → inner.isEverything = false →
    R (attach field settings inner) (attach field others other)
  allOf : ∀ {parts rest}, List.Forall₂ R parts rest → R (.allOf parts) (.allOf rest)

namespace BuildSimulation

private theorem buildEntry (hR : BuildSimulation settings others R) {schema : Schema}
    {model : Model} {entry : String × FilterTree} (hown : entry.2.settings = none)
    (hinner : ∀ model, Alike R (build schema model settings none entry.2)
      (build schema model others none entry.2)) :
    Alike (List.Forall₂ R) (FilterTree.buildEntry schema model settings none entry)
      (FilterTree.buildEntry schema model others none entry) := by
  unfold FilterTree.buildEntry
  refine Alike.bind (R := Eq) (Alike.refl fun _ _ => rfl) fun entered _ hentered => ?_
  subst hentered
  rw [hown]
  refine (hinner (schema.model entered.2)).bind fun inner other hrelated => .ok ?_
  rw [← hR.isEverything hrelated]
  cases heverything : inner.isEverything with
  | true => exact .nil
  | false => exact .cons (hR.attach entered.1 hrelated heverything) .nil

/-- Builds under the two settings fail alike or have related results, provided that nothing
    within the filter replaces the settings. -/
theorem build (hR : BuildSimulation settings others R) (schema : Schema) {tree : FilterTree}
    (hplain : tree.WithoutInterceptors) (hshares : tree.SharesSettings) (model : Model) :
    Alike R (FilterTree.build schema model settings none tree)
      (FilterTree.build schema model others none tree) := by
  induction hplain generalizing model with
  | intro hrule _ ih =>
    rw [build_eq _ hrule, build_eq _ hrule]
    refine Alike.bind (Alike.mapM_of_mem fun filter _ => hR.property model filter)
      fun conditions _ hconditions => ?_
    refine Alike.bind (R := List.Forall₂ (List.Forall₂ R))
      (Alike.mapM_of_mem fun entry hentry => ?_) fun inner _ hinner => .ok ?_
    · have hentries := hshares entry hentry
      exact hR.buildEntry hentries.here (ih entry hentry hentries.inside)
    · exact hR.allOf (List.rel_append hconditions (List.rel_flatten hinner))

end BuildSimulation

/-- Whether and where missing entities are checked for plays no part in the condition of a
    property. -/
theorem buildProperty_conditionalAccess (model : Model) (settings : FilterSettings)
    (policy : ConditionalAccess) (filter : PropertyFilter) :
    buildProperty model { settings with conditionalAccess := policy } none filter =
      buildProperty model settings none filter := rfl

end EntityQuery.FilterTree
