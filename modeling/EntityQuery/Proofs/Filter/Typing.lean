import EntityQuery.Proofs.Filter.Reading
import EntityQuery.Proofs.Predicate.Typing

namespace EntityQuery

variable {schema : Schema} {allowed : Field → Bool} {model : Model} {field : Field}
  {target : String} {settings : FilterSettings} {entity : Entity}

theorem PropertyContext.admits_typed (schema : Schema) (hfield : field ∈ model.fields)
    (hallowed : allowed field = true) (settings : FilterSettings) :
    (ofField model field settings).Admits (Predicate.Typed schema allowed model) where
  toSimplifiable := (Predicate.compositional_typed schema allowed model).simplifiable
  comparison _ _ := .comparison (Access.reaches_member hfield hallowed false)
  textMatch htextual _ _ _ := .textMatch (Access.reaches_member hfield hallowed false) htextual
  isNull := .isNull (Access.reaches_member hfield hallowed false)
  notNull := .notNull (Access.reaches_member hfield hallowed false)

namespace FilterTree

theorem attach_typed {inner : Predicate} (hfield : field ∈ model.fields)
    (hallowed : allowed field = true) (htarget : field.kind.target? = some target)
    (settings : FilterSettings) (hinner : inner.Typed schema allowed (schema.model target)) :
    (attach field settings inner).Typed schema allowed model := by
  unfold attach
  generalize settings.conditionalAccess.guardsTree = conditional
  rcases FieldKind.target?_eq_some_iff.mp htarget with hkind | hkind
  · have hrebased := hinner.rebase hfield hallowed hkind conditional
    simp only [hkind, FieldKind.isCollection, Bool.false_eq_true, if_false]
    split
    · refine (Predicate.compositional_typed schema allowed model).simplifiable.allOf ?_
      rw [List.forall_mem_cons, List.forall_mem_singleton]
      exact ⟨.notNull (Access.reaches_member hfield hallowed conditional), hrebased⟩
    · exact hrebased
  · simp only [hkind, FieldKind.isCollection, if_true]
    exact hinner.anyIn hfield hallowed hkind conditional

theorem buildInvariant_typed (schema : Schema) :
    BuildInvariant schema fun model predicate => predicate.Typed schema (·.filterable) model where
  simplifiable model := (Predicate.compositional_typed schema _ model).simplifiable
  property := buildProperty_admits_of_filterable fun field hfield hopen =>
    PropertyContext.admits_typed _ hfield hopen _
  attach settings hfield hinner _ := by
    obtain ⟨hfield, htarget⟩ := navigableField_eq_ok_iff.mp hfield
    obtain ⟨hfound, hopen⟩ := filterableField_eq_ok_iff.mp hfield
    exact attach_typed (Model.mem_fields_of_field? hfound) hopen htarget settings hinner

/-- A filter is built to a predicate on entities of its type, which reads filterable fields
    alone. -/
theorem build_typed {tree : FilterTree} {predicate : Predicate}
    (hplain : tree.WithoutInterceptors)
    (hbuilt : build schema model settings none tree = .ok predicate) :
    predicate.Typed schema (·.filterable) model :=
  (buildInvariant_typed schema).build hplain hbuilt

/-- Built filters are sound for their type. On an entity that conforms to it, the predicate
    gives a verdict when every step is checked, and without these checks it fails at a missing
    entity at most. A value of an unexpected kind is never come upon. -/
theorem evaluate_build_of_conforms {tree : FilterTree} {predicate : Predicate}
    (hplain : tree.WithoutInterceptors)
    (hbuilt : build schema model settings none tree = .ok predicate)
    (hconforms : Conforms schema model entity) :
    (∃ verdict, predicate.evaluate true entity = .ok verdict) ∧
      ((∃ verdict, predicate.evaluate false entity = .ok verdict) ∨
        ∃ path, predicate.evaluate false entity = .error (.nullNavigation path)) := by
  have hevaluates : predicate.Evaluates true entity :=
    (build_typed hplain hbuilt).evaluates hconforms
  refine ⟨hevaluates, ?_⟩
  rcases (predicate.evaluate_dropsNull entity).eq_or_null with hsame | hnull
  · exact .inl (hsame ▸ hevaluates)
  · exact .inr hnull

private theorem leaderless_conforms : Conforms Teams.schema Teams.team Teams.leaderless := by
  refine .intro fun field hfield => ?_
  rcases List.mem_pair.mp hfield with rfl | rfl
  · exact .null rfl
  · refine .value (.collection fun item hitem => ?_)
    rcases List.mem_pair.mp hitem with rfl | rfl
    · exact person_conforms "Bob"
    · exact person_conforms "Ann"

/-- A missing lead is a fault unless it is checked for. -/
theorem evaluate_never_leaderless : ∃ predicate,
    build Teams.schema Teams.team (Teams.settings .never) none
      { Teams.tree with properties := [] } = .ok predicate ∧
    predicate.evaluate true Teams.leaderless = .ok false ∧
    predicate.evaluate false Teams.leaderless = .error (.nullNavigation "Lead") := by
  have hplain : FilterTree.WithoutInterceptors { Teams.tree with properties := [] } :=
    .intro rfl (Teams.nested_everywhere fun _ => rfl)
  have hbuilt : build Teams.schema Teams.team (Teams.settings .never) none
      { Teams.tree with properties := [] } = .ok _ := rfl
  obtain ⟨⟨verdict, hguarded⟩, hunguarded⟩ :=
    evaluate_build_of_conforms hplain hbuilt leaderless_conforms
  refine ⟨_, hbuilt, ?_, ?_⟩
  · cases hguarded
    rfl
  · rcases hunguarded with ⟨verdict, hverdict⟩ | ⟨path, hpath⟩
    · cases hverdict
    · cases hpath
      rfl

end FilterTree

end EntityQuery
