import EntityQuery.Proofs.Condition.Groups
import EntityQuery.Proofs.Filter.Build
import EntityQuery.Proofs.Predicate.Rebase

namespace EntityQuery

/-- Faults of value filters are reported, and missing entities are checked for. -/
structure FilterSettings.Careful (settings : FilterSettings) : Prop where
  strict : settings.ignoreParseExceptions = false
  guards : settings.conditionalAccess.guardsEvaluation = true

variable {schema : Schema} {model : Model} {field : Field} {settings : FilterSettings}

/-- A predicate that is decided from the outset or reads first, and that does not accept
    everything from the outset. -/
def Predicate.Asks (predicate : Predicate) : Prop :=
  predicate.Settled ∧ predicate ≠ .everything

theorem Predicate.ReadsFirst.asks {predicate : Predicate} (hreads : predicate.ReadsFirst) :
    predicate.Asks := ⟨.inr (.inr hreads), hreads.ne_everything⟩

/-- The value filters of a field accept every entity, whatever its properties: there are none, or
    the field is never null and that is all that is asked. -/
def Field.MetInAdvance (field : Field) (filters : List ValueFilter) : Prop :=
  filters = [] ∨ field.nullable = false ∧ (∃ filter ∈ filters, filter.operator = .notNull) ∧
    ∀ filter ∈ filters, filter.operator ≠ .notEqual

namespace PropertyContext

theorem admits_settled (model : Model) (field : Field) (settings : FilterSettings) :
    (ofField model field settings).Admits Predicate.Settled where
  toSimplifiable := Predicate.simplifiable_settled
  comparison _ _ := .inr (.inr (.comparison rfl))
  textMatch _ _ _ _ := .inr (.inr (.textMatch rfl))
  isNull := .inr (.inr (.isNull rfl))
  notNull := .inr (.inr (.notNull rfl))

private theorem admitsValues_asks (model : Model) (field : Field) (settings : FilterSettings) :
    (ofField model field settings).AdmitsValues Predicate.Asks where
  comparison kind value := ⟨(admits_settled model field settings).comparison kind value, nofun⟩
  textMatch htextual kind value ignoreCase :=
    ⟨(admits_settled model field settings).textMatch htextual kind value ignoreCase, nofun⟩
  notTextMatch _ _ _ _ := ⟨.inr (.inr (.negation (.textMatch rfl))), nofun⟩
  allOf {parts} hnonempty h := by
    have hsettled : ∀ part ∈ parts, part.Settled := fun part hpart => (h part hpart).1
    refine ⟨Predicate.simplifiable_settled.allOf hsettled, fun hall => ?_⟩
    obtain ⟨part, hpart⟩ := List.exists_mem_of_ne_nil _ hnonempty
    exact (h part hpart).2 ((Predicate.allOf_eq_everything_iff hsettled).mp hall part hpart)
  someOf {parts} h := by
    have hsettled : ∀ part ∈ parts, part.Settled := fun part hpart => (h part hpart).1
    refine ⟨Predicate.simplifiable_settled.someOf hsettled, fun hsome => ?_⟩
    exact (h _ ((Predicate.someOf_eq_everything_iff hsettled).mp hsome)).2 rfl

/-- Of the conditions of value filters, only one that asks for what a field never lacks accepts
    everything from the outset. -/
theorem filterCondition_eq_everything_iff {filter : ValueFilter} {condition : Predicate}
    (hcondition : (ofField model field settings).filterCondition filter = .ok condition) :
    condition = .everything ↔ field.nullable = false ∧ filter.operator = .notNull := by
  cases hvalue : filter.operator.requiresValue with
  | true =>
    have hasks := hcondition ▸ (admitsValues_asks model field settings).filterCondition hvalue
    refine iff_of_false hasks.of_ok.2 fun ⟨_, hoperator⟩ => ?_
    rw [hoperator] at hvalue
    cases hvalue
  | false =>
    -- The rest are null checks, which a field that is never null decides in advance.
    unfold PropertyContext.filterCondition at hcondition
    simp only at hcondition
    split at hcondition
    · cases hcondition
    · split at hcondition
      case h_1 hoperator =>
        cases hcondition
        refine iff_of_false ?_ fun ⟨_, hother⟩ => nomatch hoperator.symm.trans hother
        split <;> nofun
      case h_2 hoperator =>
        cases hcondition
        cases hnullable : field.nullable <;> simp [ofField, hnullable, hoperator]
      case h_3 => cases hoperator : filter.operator <;> simp_all [Operator.requiresValue]

private theorem groupedCondition_eq_everything_iff {filter : ValueFilter}
    {entry : Bool × Predicate}
    (hentry : (ofField model field settings).groupedCondition filter = .ok entry) :
    entry.2 = .everything ↔ field.nullable = false ∧ filter.operator = .notNull := by
  obtain ⟨condition, hcondition, hentry⟩ := bind_eq_ok_iff.mp hentry
  cases hentry
  exact filterCondition_eq_everything_iff hcondition

theorem propertyCondition_eq_everything_iff {filters : List ValueFilter} {condition : Predicate}
    (hcondition : (ofField model field settings).propertyCondition filters = .ok condition) :
    condition = .everything ↔ field.MetInAdvance filters := by
  rw [propertyCondition_eq] at hcondition
  obtain ⟨conditions, hconditions, hcombined⟩ := bind_eq_ok_iff.mp hcondition
  cases hcombined
  replace hconditions := mapM_eq_ok_iff.mp hconditions
  have hsettled : ∀ entry ∈ conditions, entry.2.Settled := by
    intro entry hentry
    obtain ⟨filter, -, hfilter⟩ := exists_of_forall₂_mem hconditions hentry
    exact (admits_settled model field settings).of_groupedCondition hfilter
  rw [judged_combined_iff Predicate.judges_everything hsettled]
  have hall : (∀ entry ∈ conditions, entry.1 = true) ↔
      ∀ filter ∈ filters, filter.operator = .notEqual :=
    (forall_mem_iff_of_forall₂ hconditions fun filter _ entry hentry =>
      (isNegated_groupedCondition hentry).symm).symm
  have hsome : (∃ entry ∈ conditions, entry.1 = false ∧ entry.2 = .everything) ↔
      ∃ filter ∈ filters, field.nullable = false ∧ filter.operator = .notNull := by
    refine (exists_mem_iff_of_forall₂ hconditions fun filter _ entry hentry => ?_).symm
    rw [groupedCondition_eq_everything_iff hentry, ← Bool.not_eq_true entry.1,
      isNegated_groupedCondition hentry]
    exact ⟨fun h => ⟨by simp [h.2], h⟩, And.right⟩
  have hnone : (∀ entry ∈ conditions, entry.1 = true → entry.2 = .everything) ↔
      ∀ filter ∈ filters, filter.operator ≠ .notEqual := by
    refine (forall_mem_iff_of_forall₂ hconditions fun filter _ entry hentry => ?_).symm
    rw [groupedCondition_eq_everything_iff hentry, isNegated_groupedCondition hentry]
    refine ⟨fun h hnegated => absurd hnegated h, fun h hnegated => ?_⟩
    cases hnegated.symm.trans (h hnegated).2
  rw [hall, hsome, hnone, Field.MetInAdvance]
  constructor
  · rintro ⟨hnegated | ⟨filter, hfilter, hnullable, hoperator⟩, hasked⟩
    · exact .inl (List.eq_nil_iff_forall_not_mem.mpr fun filter hfilter =>
        hasked filter hfilter (hnegated filter hfilter))
    · exact .inr ⟨hnullable, ⟨filter, hfilter, hoperator⟩, hasked⟩
  · rintro (rfl | ⟨hnullable, ⟨filter, hfilter, hoperator⟩, hasked⟩)
    · simp
    · exact ⟨.inr ⟨filter, hfilter, hnullable, hoperator⟩, hasked⟩

end PropertyContext

namespace FilterTree

theorem buildProperty_settled {filter : PropertyFilter} {condition : Predicate}
    (hbuilt : buildProperty model settings none filter = .ok condition) : condition.Settled :=
  buildProperty_admits (fun field _ => PropertyContext.admits_settled model field settings) hbuilt

/-- With strict settings a property filter has the condition of its value filters, or none. -/
theorem buildProperty_eq_ok_iff (hstrict : settings.ignoreParseExceptions = false)
    {filter : PropertyFilter} {condition : Predicate} :
    buildProperty model settings none filter = .ok condition ↔
      ∃ field, filterableField model filter.property = .ok field ∧
        (PropertyContext.ofField model field settings).propertyCondition filter.values =
          .ok condition := by
  simp [buildProperty_eq_ok_iff_or_passedOver, hstrict]

/-- Attached to a field, a condition still asks for something. -/
theorem attach_asks (field : Field) (settings : FilterSettings) {inner : Predicate}
    (hinner : inner.Asks) : (attach field settings inner).Asks := by
  unfold attach
  generalize haccess :
    Access.root.member field.name settings.conditionalAccess.guardsTree = access
  have hroot : access.isRoot = false := haccess ▸ rfl
  obtain ⟨rfl | rfl | hreads, hne⟩ := hinner
  · exact absurd rfl hne
  · -- What accepts nothing does so wherever it is attached.
    have hnothing : Predicate.Asks .nothing := ⟨.inr (.inl rfl), nofun⟩
    split
    · exact hnothing
    · split <;> exact hnothing
  · have hrebased := hreads.rebase access
    dsimp only
    split
    · rw [Predicate.anyIn_eq_any hreads.ne_nothing]
      exact Predicate.ReadsFirst.asks (.any hroot)
    · split
      · have hnothing : .nothing ∉ [Predicate.notNull access, inner.rebase access] := by
          simpa using hrebased.ne_nothing.symm
        refine (Predicate.readsFirst_allOf (fun part hpart => ?_) hnothing
          ⟨_, List.mem_cons_self, by simp⟩).asks
        rcases List.mem_pair.mp hpart with rfl | rfl
        · exact .inr (.inr (.notNull hroot))
        · exact .inr (.inr hrebased)
      · exact hrebased.asks

theorem buildInvariant_settled (schema : Schema) :
    BuildInvariant schema fun _ predicate => predicate.Settled where
  simplifiable _ := Predicate.simplifiable_settled
  property := buildProperty_settled
  attach settings _ hinner hne := (attach_asks _ settings ⟨hinner, hne⟩).1

/-- A built filter is decided from the outset, or else reads before it decides. -/
theorem build_settled {tree : FilterTree} {predicate : Predicate}
    (hplain : tree.WithoutInterceptors)
    (hbuilt : build schema model settings none tree = .ok predicate) : predicate.Settled :=
  (buildInvariant_settled schema).build hplain hbuilt

/-- A filter on entities of a type that every entity meets, whatever its properties: its value
    filters are met in advance, and the filters within ask for nothing either. -/
inductive AsksNothing (schema : Schema) : Model → FilterTree → Prop
  | intro {model : Model} {tree : FilterTree}
    (properties : ∀ filter ∈ tree.properties, ∀ field,
      model.field? filter.property = some field → field.MetInAdvance filter.values)
    (nested : ∀ entry ∈ tree.nested, ∀ field, model.field? entry.1 = some field →
      ∀ target, field.kind.target? = some target →
        AsksNothing schema (schema.model target) entry.2) : AsksNothing schema model tree

theorem asksNothing_iff {tree : FilterTree} :
    AsksNothing schema model tree ↔
      (∀ filter ∈ tree.properties, ∀ field,
        model.field? filter.property = some field → field.MetInAdvance filter.values) ∧
      ∀ entry ∈ tree.nested, ∀ field, model.field? entry.1 = some field →
        ∀ target, field.kind.target? = some target →
          AsksNothing schema (schema.model target) entry.2 := by
  constructor
  · rintro ⟨properties, nested⟩
    exact ⟨properties, nested⟩
  · exact fun h => .intro h.1 h.2

/-- Built with care, a filter accepts everything from the outset exactly if it asks for nothing. -/
theorem build_eq_everything_iff {tree : FilterTree} {predicate : Predicate}
    (hplain : tree.WithoutInterceptors)
    (hcareful : SettingsEverywhere FilterSettings.Careful settings tree)
    (hbuilt : build schema model settings none tree = .ok predicate) :
    predicate = .everything ↔ AsksNothing schema model tree := by
  induction hplain generalizing model settings predicate with
  | @intro tree hrule hinside ih =>
    obtain ⟨conditions, inner, hconditions, hinner, rfl⟩ := (build_eq_ok_iff hrule).mp hbuilt
    have hsettled := (buildInvariant_settled schema).parts (.intro hrule hinside) hconditions hinner
    rw [Predicate.allOf_eq_everything_iff hsettled, asksNothing_iff, List.forall_mem_append,
      List.forall_mem_flatten]
    refine and_congr (forall_mem_iff_of_forall₂ hconditions ?_).symm
      (forall_mem_iff_of_forall₂ hinner ?_).symm
    · intro filter _ condition hcondition
      obtain ⟨field, hfield, hcondition⟩ :=
        (buildProperty_eq_ok_iff hcareful.1.strict).mp hcondition
      rw [PropertyContext.propertyCondition_eq_everything_iff hcondition,
        (filterableField_eq_ok_iff.mp hfield).1]
      simp
    · intro entry hentry parts hbuilt
      obtain ⟨field, target, inside, hfield, hinsideBuilt, hparts⟩ :=
        buildEntry_eq_ok_iff.mp hbuilt
      obtain ⟨hfield, htarget⟩ := navigableField_eq_ok_iff.mp hfield
      have hasks := ih entry hentry (hcareful.inside hentry) hinsideBuilt
      simp only [(filterableField_eq_ok_iff.mp hfield).1, Option.some.injEq, forall_eq', htarget]
      rw [← hasks]
      rcases hparts with ⟨heverything, rfl⟩ | ⟨hne, rfl⟩
      · simp [heverything]
      · have hattached := attach_asks field settings
          ⟨build_settled (hinside entry hentry) hinsideBuilt, hne⟩
        simp [hne, hattached.2]

end FilterTree

end EntityQuery
