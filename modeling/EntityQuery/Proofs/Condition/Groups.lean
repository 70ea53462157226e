import EntityQuery.Proofs.Condition

namespace EntityQuery

theorem Operator.isNegation_iff {operator : Operator} :
    operator.isNegation = true ↔ operator = .notEqual := by
  cases operator <;> simp [isNegation]

namespace PropertyContext

variable {context : PropertyContext} {filter : ValueFilter} {guarded : Bool} {entity : Entity}
  {fault : Fault}

/-- The condition of one value filter, and whether it rules something out. -/
def groupedCondition (context : PropertyContext) (filter : ValueFilter) :
    Except Fault (Bool × Predicate) := do
  return (filter.operator.isNegation, ← context.filterCondition filter)

/-- Some of the conditions that do not rule anything out, if there are any, and all of those
    that do. -/
def combined (conditions : List (Bool × Predicate)) : Predicate :=
  let wanted := (conditions.filter fun entry => !entry.1).map (·.2)
  let ruledOut := (conditions.filter (·.1)).map (·.2)
  .allOf [if wanted.isEmpty then .everything else .someOf wanted, .allOf ruledOut]

theorem propertyCondition_eq (context : PropertyContext) (filters : List ValueFilter) :
    context.propertyCondition filters =
      (do return combined (← filters.mapM context.groupedCondition)) := rfl

/-- Value filters have a condition together exactly if each of them has one. -/
theorem exists_propertyCondition_iff {filters : List ValueFilter} :
    (∃ condition, context.propertyCondition filters = .ok condition) ↔
      ∀ filter ∈ filters, ∃ condition, context.filterCondition filter = .ok condition := by
  rw [propertyCondition_eq, exists_map_eq_ok_iff, exists_mapM_eq_ok_iff]
  simp only [groupedCondition, exists_map_eq_ok_iff]

variable {conditions : List (Bool × Predicate)}

theorem Admits.of_groupedCondition {P : Predicate → Prop} (hP : context.Admits P)
    {entry : Bool × Predicate} (hentry : context.groupedCondition filter = .ok entry) :
    P entry.2 := by
  obtain ⟨condition, hcondition, hentry⟩ := bind_eq_ok_iff.mp hentry
  cases hentry
  exact (hcondition ▸ hP.filterCondition filter).of_ok

private theorem forall_mem_group (keep : Bool × Predicate → Bool) {P : Predicate → Prop} :
    (∀ part ∈ (conditions.filter keep).map (·.2), P part) ↔
      ∀ entry ∈ conditions, keep entry = true → P entry.2 := by
  simp only [List.forall_mem_map, List.mem_filter, and_imp]

section

variable {known : Predicate → Prop} (hknown : Predicate.Simplifiable known)
  (h : ∀ entry ∈ conditions, known entry.2)

include h in
private theorem known_group (keep : Bool × Predicate → Bool) :
    ∀ part ∈ (conditions.filter keep).map (·.2), known part :=
  (forall_mem_group keep).mpr fun entry hentry _ => h entry hentry

include hknown h in
/-- Both groups of conditions are of a kind that simplification keeps, if all conditions are. -/
private theorem known_groups : ∀ part ∈ [
    if ((conditions.filter fun entry => !entry.1).map (·.2)).isEmpty then .everything
    else .someOf ((conditions.filter fun entry => !entry.1).map (·.2)),
    .allOf ((conditions.filter (·.1)).map (·.2))], known part := by
  rw [List.forall_mem_cons, List.forall_mem_singleton]
  refine ⟨?_, hknown.allOf (known_group h _)⟩
  split
  · exact hknown.everything
  · exact hknown.someOf (known_group h _)

end

theorem known_combined {known : Predicate → Prop} (hknown : Predicate.Simplifiable known)
    (h : ∀ entry ∈ conditions, known entry.2) : known (combined conditions) :=
  hknown.allOf (known_groups hknown h)

/-- The conditions together are judged as some of those that do not rule anything out, if there
    are any, and all of those that do. -/
theorem judged_combined_iff {known judged : Predicate → Prop}
    (hjudges : Predicate.Judges known judged) (h : ∀ entry ∈ conditions, known entry.2) :
    judged (combined conditions) ↔
      ((∀ entry ∈ conditions, entry.1 = true) ∨
        ∃ entry ∈ conditions, entry.1 = false ∧ judged entry.2) ∧
      ∀ entry ∈ conditions, entry.1 = true → judged entry.2 := by
  rw [combined, hjudges.allOf (known_groups hjudges.simplifiable h), List.forall_mem_cons,
    List.forall_mem_singleton, hjudges.allOf (known_group h _), forall_mem_group]
  refine and_congr_left fun _ => ?_
  split
  case isTrue hempty =>
    have hall : ∀ entry ∈ conditions, entry.1 = true := by simpa using hempty
    exact ⟨fun _ => .inl hall, fun _ => hjudges.everything⟩
  case isFalse hnonempty =>
    have hnot : ¬ ∀ entry ∈ conditions, entry.1 = true := by simpa using hnonempty
    rw [or_iff_right hnot, hjudges.someOf (known_group h _)]
    simp

theorem accepts_combined_iff (h : ∀ entry ∈ conditions, entry.2.Evaluates guarded entity) :
    (combined conditions).Accepts guarded entity ↔
      ((∀ entry ∈ conditions, entry.1 = true) ∨
        ∃ entry ∈ conditions, entry.1 = false ∧ entry.2.Accepts guarded entity) ∧
      ∀ entry ∈ conditions, entry.1 = true → entry.2.Accepts guarded entity :=
  judged_combined_iff (Predicate.judges_accepts guarded entity) h

theorem evaluate_combined_singleton (negated : Bool) (condition : Predicate) :
    (combined [(negated, condition)]).evaluate guarded entity =
      condition.evaluate guarded entity := by
  cases negated with
  | true =>
    have hcombined : combined [(true, condition)] = .allOf [.allOf [condition]] :=
      Predicate.allOf_congr (by simp [List.filter_cons, Predicate.isEverything_iff])
    rw [hcombined, Predicate.evaluate_allOf_singleton, Predicate.evaluate_allOf_singleton]
  | false =>
    have hcombined : combined [(false, condition)] = .allOf [.someOf [condition]] :=
      Predicate.allOf_congr (by
        simp [List.filter_cons, Predicate.allOf_eq_everything, Predicate.isEverything_iff])
    rw [hcombined, Predicate.evaluate_allOf_singleton, Predicate.evaluate_someOf_singleton]

theorem propertyCondition_singleton (context : PropertyContext) (filter : ValueFilter) :
    context.propertyCondition [filter] =
      (do return combined [(filter.operator.isNegation, ← context.filterCondition filter)]) := by
  rw [propertyCondition_eq, List.mapM_cons, List.mapM_nil, groupedCondition]
  simp only [bind_assoc, pure_bind]

/-- A single filter is tested as its condition is, and refused with the fault of its condition. -/
theorem propertyCondition_singleton_alike (context : PropertyContext) (filter : ValueFilter) :
    Alike Predicate.SameVerdicts (context.propertyCondition [filter])
      (context.filterCondition filter) := by
  rw [propertyCondition_singleton]
  cases context.filterCondition filter with
  | error fault => exact .error fault
  | ok condition => exact .ok fun _ _ => evaluate_combined_singleton _ _

/-- A condition has the verdict of a test on the value of the property. -/
def Tests (context : PropertyContext) (test : Value → Bool) (condition : Predicate) : Prop :=
  ∀ guarded entity actual, context.access.resolve entity guarded = .ok actual →
    condition.evaluate guarded entity = .ok (test actual)

theorem tests_comparison (context : PropertyContext) (comparison : Comparison) (value : Scalar) :
    context.Tests (comparison.holds · value) (.comparison context.access comparison value) := by
  intro guarded entity actual hresolve
  rw [Predicate.evaluate, hresolve]
  rfl

theorem Tests.propertyCondition {test : Value → Bool} {condition : Predicate}
    (htests : context.Tests test condition)
    (hcondition : context.filterCondition filter = .ok condition) :
    ∃ alone, context.propertyCondition [filter] = .ok alone ∧ context.Tests test alone := by
  obtain ⟨alone, halone, hverdicts⟩ :=
    (hcondition ▸ propertyCondition_singleton_alike context filter).exists_ok
  refine ⟨alone, halone, fun guarded entity actual hresolve => ?_⟩
  rw [hverdicts guarded entity, htests guarded entity actual hresolve]

/-- A filter with a value puts the condition on the property that its category makes of the
    value. -/
theorem filterCondition_create {operator : Operator}
    (hsupported : operator ∈ context.field.kind.supportedOperators)
    (hvalue : operator.requiresValue = true) (value : String) :
    context.filterCondition (.create operator value) =
      context.condition (Category.ofKind context.field.kind) operator value := by
  have hcontains : context.field.kind.supportedOperators.contains operator = true :=
    List.contains_iff_mem.mpr hsupported
  simp only [filterCondition, ValueFilter.create, hvalue, hcontains, Bool.not_true,
    Bool.false_eq_true, if_false, if_true]
  cases operator with
  | isNull | notNull => cases hvalue
  | _ => rfl

private theorem exists_groupedCondition_iff :
    (∃ entry, context.groupedCondition filter = .ok entry) ↔
      ∃ alone, context.propertyCondition [filter] = .ok alone := by
  rw [propertyCondition_singleton, groupedCondition, exists_map_eq_ok_iff, exists_map_eq_ok_iff]

private theorem groupedCondition_eq_error_iff :
    context.groupedCondition filter = .error fault ↔
      context.propertyCondition [filter] = .error fault := by
  rw [propertyCondition_singleton, groupedCondition, map_eq_error_iff, map_eq_error_iff]

/-- The condition of a value filter by itself accepts an entity. -/
def Meets (context : PropertyContext) (guarded : Bool) (entity : Entity) (filter : ValueFilter) :
    Prop :=
  ∃ alone, context.propertyCondition [filter] = .ok alone ∧ alone.Accepts guarded entity

/-- An entity meets one of the value filters other than inequalities, unless there are none. -/
def MeetsWanted (context : PropertyContext) (guarded : Bool) (entity : Entity)
    (filters : List ValueFilter) : Prop :=
  (∀ filter ∈ filters, filter.operator = .notEqual) ∨
    ∃ filter ∈ filters, filter.operator ≠ .notEqual ∧ context.Meets guarded entity filter

/-- An entity meets what is wanted, and all of the inequalities. -/
def MeetsTogether (context : PropertyContext) (guarded : Bool) (entity : Entity)
    (filters : List ValueFilter) : Prop :=
  context.MeetsWanted guarded entity filters ∧
    ∀ filter ∈ filters, filter.operator = .notEqual → context.Meets guarded entity filter

section

variable {entry : Bool × Predicate} (hentry : context.groupedCondition filter = .ok entry)

include hentry

theorem isNegated_groupedCondition : entry.1 = true ↔ filter.operator = .notEqual := by
  obtain ⟨condition, _, hentry⟩ := bind_eq_ok_iff.mp hentry
  cases hentry
  exact Operator.isNegation_iff

/-- By itself a value filter has the condition that it contributes. -/
private theorem exists_alone : ∃ alone, context.propertyCondition [filter] = .ok alone ∧
    ∀ guarded entity, alone.evaluate guarded entity = entry.2.evaluate guarded entity := by
  obtain ⟨condition, hcondition, hentry⟩ := bind_eq_ok_iff.mp hentry
  cases hentry
  refine ⟨combined [(filter.operator.isNegation, condition)], ?_,
    fun _ _ => evaluate_combined_singleton _ _⟩
  rw [propertyCondition_singleton, hcondition]
  rfl

private theorem accepts_groupedCondition :
    entry.2.Accepts guarded entity ↔ context.Meets guarded entity filter := by
  obtain ⟨alone, halone, heval⟩ := exists_alone hentry
  simp only [Meets, halone, Except.ok.injEq, exists_eq_left', Predicate.Accepts, heval]

private theorem evaluates_of_groupedCondition
    (halone : ∀ alone, context.propertyCondition [filter] = .ok alone →
      alone.Evaluates guarded entity) : entry.2.Evaluates guarded entity := by
  obtain ⟨alone, hbuilt, heval⟩ := exists_alone hentry
  obtain ⟨verdict, hverdict⟩ := halone alone hbuilt
  exact ⟨verdict, by rw [← heval, hverdict]⟩

end

section

variable {filters : List ValueFilter} {condition : Predicate}
  (hcondition : context.propertyCondition filters = .ok condition)
  (halone : ∀ filter ∈ filters, ∀ alone, context.propertyCondition [filter] = .ok alone →
    alone.Evaluates guarded entity)

include hcondition halone

private theorem exists_evaluates_combined : ∃ conditions,
    List.Forall₂ (fun filter entry => context.groupedCondition filter = .ok entry) filters
      conditions ∧ condition = combined conditions ∧
    ∀ entry ∈ conditions, entry.2.Evaluates guarded entity := by
  obtain ⟨conditions, hconditions, hcombined⟩ := bind_eq_ok_iff.mp hcondition
  cases hcombined
  replace hconditions := mapM_eq_ok_iff.mp hconditions
  refine ⟨conditions, hconditions, rfl, fun entry hentry => ?_⟩
  obtain ⟨filter, hfilter, hrelated⟩ := exists_of_forall₂_mem hconditions hentry
  exact evaluates_of_groupedCondition hrelated (halone filter hfilter)

theorem evaluates_propertyCondition : condition.Evaluates guarded entity := by
  obtain ⟨conditions, -, rfl, hevaluates⟩ := exists_evaluates_combined hcondition halone
  exact known_combined (Predicate.simplifiable_evaluates guarded entity) hevaluates

theorem accepts_propertyCondition_iff :
    condition.Accepts guarded entity ↔ context.MeetsTogether guarded entity filters := by
  obtain ⟨conditions, hconditions, rfl, hevaluates⟩ := exists_evaluates_combined hcondition halone
  rw [accepts_combined_iff hevaluates]
  refine and_congr (or_congr ?_ ?_) ?_
  · refine (forall_mem_iff_of_forall₂ hconditions fun filter _ entry hentry => ?_).symm
    exact (isNegated_groupedCondition hentry).symm
  · refine (exists_mem_iff_of_forall₂ hconditions fun filter _ entry hentry => ?_).symm
    rw [← accepts_groupedCondition hentry, ne_eq, ← isNegated_groupedCondition hentry,
      Bool.not_eq_true]
  · refine (forall_mem_iff_of_forall₂ hconditions fun filter _ entry hentry => ?_).symm
    rw [← accepts_groupedCondition hentry, ← isNegated_groupedCondition hentry]

end

/-- The value filters of a property fail together exactly if one of them fails by itself, with
    the fault of the first one that does. If all of them can be tested by themselves, so can
    they together: an entity is accepted if it meets one of the filters other than inequalities,
    unless there are none, and all of the inequalities. -/
theorem propertyCondition_combines (context : PropertyContext) (filters : List ValueFilter) :
    ((∃ condition, context.propertyCondition filters = .ok condition) ↔
      ∀ filter ∈ filters, ∃ alone, context.propertyCondition [filter] = .ok alone) ∧
    (∀ fault, context.propertyCondition filters = .error fault ↔
      ∃ before filter after, filters = before ++ filter :: after ∧
        (∀ earlier ∈ before, ∃ alone, context.propertyCondition [earlier] = .ok alone) ∧
        context.propertyCondition [filter] = .error fault) ∧
    ∀ condition, context.propertyCondition filters = .ok condition →
      ∀ guarded entity,
        (∀ filter ∈ filters, ∀ alone, context.propertyCondition [filter] = .ok alone →
          alone.Evaluates guarded entity) →
        ∃ verdict, condition.evaluate guarded entity = .ok verdict ∧
          (verdict = true ↔
            ((∀ filter ∈ filters, filter.operator = .notEqual) ∨
              ∃ filter ∈ filters, filter.operator ≠ .notEqual ∧
                context.Meets guarded entity filter) ∧
            ∀ filter ∈ filters, filter.operator = .notEqual →
              context.Meets guarded entity filter) := by
  refine ⟨?_, fun fault => ?_, fun condition hcondition guarded entity halone => ?_⟩
  · rw [propertyCondition_eq, exists_map_eq_ok_iff, exists_mapM_eq_ok_iff]
    simp only [exists_groupedCondition_iff]
  · rw [propertyCondition_eq, map_eq_error_iff, mapM_eq_error_iff]
    simp only [exists_groupedCondition_iff, groupedCondition_eq_error_iff]
  · obtain ⟨verdict, hverdict⟩ := evaluates_propertyCondition hcondition halone
    have haccepts : condition.Accepts guarded entity ↔ verdict = true := by
      rw [Predicate.Accepts, hverdict, Except.ok.injEq]
    exact ⟨verdict, hverdict, haccepts.symm.trans (accepts_propertyCondition_iff hcondition halone)⟩

private def release : PropertyContext :=
  let version : Field := { name := "Version", kind := .other "Version", nullable := true }
  .ofField ⟨"Release", [version]⟩ version (.builtin ⟨⟨1, by decide⟩, .midnight⟩)

private def versions : List ValueFilter :=
  [.create .default "1.0", .create .equalCaseSensitive "2.0", .create .notEqual "2.0",
    .create .notEqual "3.0"]

private def released (version : String) : Entity := .ofProperties [("Version", .other version)]

/-- Versions 1.0 and 2.0 are wanted and the versions 2.0 and 3.0 are not, which leaves 1.0. -/
theorem propertyCondition_combines_versions : ∃ condition,
    release.propertyCondition versions = .ok condition ∧
      condition.evaluate false (released "1.0") = .ok true ∧
      condition.evaluate false (released "2.0") = .ok false := by
  obtain ⟨hok, -, hcombines⟩ := propertyCondition_combines release versions
  have hbuilt : ∀ filter ∈ versions, ∃ alone, release.propertyCondition [filter] = .ok alone := by
    simp only [versions, List.forall_mem_cons]
    exact ⟨⟨_, rfl⟩, ⟨_, rfl⟩, ⟨_, rfl⟩, ⟨_, rfl⟩, by simp⟩
  have halone (version : String) : ∀ filter ∈ versions, ∀ alone,
      release.propertyCondition [filter] = .ok alone →
        alone.Evaluates false (released version) := by
    simp only [versions, List.forall_mem_cons]
    refine ⟨?_, ?_, ?_, ?_, by simp⟩ <;> intro alone h <;> cases h <;> exact ⟨_, rfl⟩
  obtain ⟨condition, hcondition⟩ := hok.mpr hbuilt
  refine ⟨condition, hcondition, ?_, ?_⟩
  · obtain ⟨verdict, hverdict, hiff⟩ := hcombines condition hcondition false _ (halone "1.0")
    rw [hverdict, hiff.mpr]
    refine ⟨.inr ⟨.create .default "1.0", List.mem_cons_self, by decide, _, rfl, rfl⟩, ?_⟩
    simp only [versions, List.forall_mem_cons]
    exact ⟨nofun, nofun, fun _ => ⟨_, rfl, rfl⟩, fun _ => ⟨_, rfl, rfl⟩, by simp⟩
  · obtain ⟨verdict, hverdict, hiff⟩ := hcombines condition hcondition false _ (halone "2.0")
    cases verdict with
    | false => exact hverdict
    | true =>
      obtain ⟨alone, hbuilt, haccepts⟩ :=
        (hiff.mp rfl).2 (.create .notEqual "2.0") (by decide) rfl
      cases hbuilt
      cases haccepts

end PropertyContext

end EntityQuery
