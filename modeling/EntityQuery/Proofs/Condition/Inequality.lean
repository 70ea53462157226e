import EntityQuery.Proofs.Condition.Groups
import EntityQuery.Proofs.Conformance

namespace EntityQuery

/-- Unequal is whatever is not equal, null and values that are not comparable included. -/
theorem Comparison.holds_notEqual (actual : Value) (value : Scalar) :
    notEqual.holds actual value = !equal.holds actual value := by
  unfold holds
  split <;> rfl

namespace Predicate

/-- A predicate accepts what another one rejects and the other way round, with the same faults. -/
def Complements (predicate other : Predicate) : Prop :=
  ∀ guarded entity, predicate.evaluate guarded entity =
    (do return !(← other.evaluate guarded entity))

theorem Complements.congr {predicate other equal unequal : Predicate}
    (h : unequal.Complements equal) (hother : other.SameVerdicts equal)
    (hpredicate : predicate.SameVerdicts unequal) : predicate.Complements other := by
  intro guarded entity
  rw [hpredicate guarded entity, hother guarded entity, h guarded entity]

theorem complements_not (predicate : Predicate) : predicate.not.Complements predicate :=
  fun _ _ => evaluate_not predicate

theorem complements_comparison (access : Access) (value : Scalar) :
    (comparison access .notEqual value).Complements (comparison access .equal value) := by
  intro guarded entity
  simp only [evaluate, Comparison.holds_notEqual, bind_assoc, pure_bind]

/-- All of some predicates hold unless one of their opposites does. -/
theorem complements_allOf {parts others : List Predicate}
    (h : List.Forall₂ Complements parts others) (hnothing : nothing ∉ parts)
    (heverything : everything ∉ others) : (allOf parts).Complements (someOf others) := by
  intro guarded entity
  rw [evaluate_allOf hnothing, evaluate_someOf heverything]
  clear hnothing heverything
  induction h with
  | nil => rfl
  | cons hpart _ ih =>
    simp only [List.allM_cons, List.anyM_cons, hpart guarded entity, ih, bind_assoc, pure_bind]
    congr 1
    funext verdict
    cases verdict <;> rfl

/-- A value is none of some constants unless it is one of them. -/
theorem complements_comparisons (access : Access) (values : List Scalar) :
    (allOf (values.map (comparison access .notEqual))).Complements
      (someOf (values.map (comparison access .equal))) := by
  refine complements_allOf ?_ (by simp) (by simp)
  rw [List.forall₂_map_left_iff, List.forall₂_map_right_iff]
  exact List.forall₂_same.mpr fun value _ => complements_comparison access value

end Predicate

/-- Two filters are opposites of each other, or both are refused for the text that they compare
    with. -/
inductive Opposites : Except Fault Predicate → Except Fault Predicate → Prop
  | ok {equal unequal : Predicate} (h : unequal.Complements equal) :
    Opposites (.ok equal) (.ok unequal)
  | error {fault other : Fault} (hfault : fault.code = .invalidFilterValue)
    (hother : other.code = .invalidFilterValue) : Opposites (.error fault) (.error other)

theorem Opposites.congr {equal unequal alone other : Except Fault Predicate}
    (h : Opposites equal unequal) (halone : Alike Predicate.SameVerdicts alone equal)
    (hother : Alike Predicate.SameVerdicts other unequal) : Opposites alone other := by
  cases h with
  | ok h =>
    cases halone with
    | ok hequal =>
      cases hother with
      | ok hunequal => exact .ok (h.congr hequal hunequal)
  | error hfault hcode =>
    cases halone
    cases hother
    exact .error hfault hcode

/-- The operator for values that equal a text. Letter case is told apart only in the textual form
    of values of other types. -/
def FieldKind.equality : FieldKind → Operator
  | other _ => .equalCaseSensitive
  | _ => .equalCaseInsensitive

namespace PropertyContext

variable {context : PropertyContext} {value : String}

private theorem opposites_compared (context : PropertyContext) (operator : Operator)
    (value : String) (constant : Option Scalar) :
    Opposites (context.compared operator value .equal constant)
      (context.compared .notEqual value .notEqual constant) := by
  cases constant with
  | none => exact .error rfl rfl
  | some constant => exact .ok (Predicate.complements_comparison _ _)

private theorem opposites_dateTimeCondition (context : PropertyContext) (value : String) :
    Opposites (context.dateTimeCondition .equalCaseInsensitive value)
      (context.dateTimeCondition .notEqual value) := by
  unfold dateTimeCondition
  cases context.readSpan? value with
  | none => exact .error rfl rfl
  | some span => exact opposites_compared context _ _ _

private theorem opposites_memberCondition (context : PropertyContext) (members : List EnumMember)
    (value : String) : Opposites (context.memberCondition members .equalCaseInsensitive value)
      (context.memberCondition members .notEqual value) := by
  have hmatched : memberMatches .equalCaseInsensitive value.toList =
      memberMatches .notEqual value.toList := rfl
  unfold memberCondition
  simp only [namesMember, Bool.true_or, if_true]
  cases Number.readInt64 (Text.trim value.toList) with
  | some number => exact .ok (Predicate.complements_comparison _ _)
  | none =>
    simp only [hmatched, Bool.and_true]
    split
    case isTrue => exact .error rfl rfl
    case isFalse =>
      have hopposites := Predicate.complements_comparisons context.access
        ((members.filter (memberMatches .notEqual value.toList)).map
          fun member => .int member.value)
      rw [List.map_map, List.map_map] at hopposites
      exact .ok hopposites

private theorem opposites_condition (context : PropertyContext)
    (hscalar : context.field.kind.isScalar = true) (value : String) :
    Opposites
      (context.condition (Category.ofKind context.field.kind) context.field.kind.equality value)
      (context.condition (Category.ofKind context.field.kind) .notEqual value) := by
  unfold condition
  generalize context.field.kind = kind at hscalar ⊢
  cases kind with
  | text =>
    exact .ok (Predicate.complements_not (.textMatch context.access .equals value true))
  | bool | int | float | guid => exact opposites_compared context _ _ _
  | dateTime => exact opposites_dateTimeCondition context value
  | enumeration members => exact opposites_memberCondition context members value
  | other typeName => exact .ok (Predicate.complements_comparison _ _)
  | navigation | collection => cases hscalar

/-- Whatever the kind of a field is, it takes the operators for equality and inequality. -/
theorem supportedOperators_equality {kind : FieldKind} (hscalar : kind.isScalar = true) :
    kind.equality ∈ kind.supportedOperators ∧ .notEqual ∈ kind.supportedOperators := by
  cases kind with
  | navigation | collection => cases hscalar
  | _ =>
    simp [FieldKind.supportedOperators, FieldKind.isScalar, FieldKind.target?, FieldKind.equality,
      Category.ofKind, Category.all, Category.handles, Category.supported]

end PropertyContext

/-- The operator that asks for a comparison. -/
def Comparison.operator : Comparison → Operator
  | equal => .equalCaseInsensitive
  | notEqual => .notEqual
  | less => .lessThan
  | lessOrEqual => .lessThanOrEqual
  | greater => .greaterThan
  | greaterOrEqual => .greaterThanOrEqual

/-- The verdicts on a value that is less than a constant, equal to it or greater. -/
structure Trichotomous (verdict : Comparison → Bool) : Prop where
  one : [verdict .less, verdict .equal, verdict .greater].count true = 1
  notEqual : verdict .notEqual = !verdict .equal
  lessOrEqual : verdict .lessOrEqual = (verdict .less || verdict .equal)
  greaterOrEqual : verdict .greaterOrEqual = (verdict .greater || verdict .equal)

theorem trichotomous_accepts (ordering : Ordering) :
    Trichotomous fun comparison => comparison.accepts (some ordering) := by
  cases ordering <;> exact ⟨rfl, rfl, rfl, rfl⟩

/-- Only inequality accepts null. -/
theorem Comparison.holds_null (comparison : Comparison) {value : Scalar}
    (hvalue : value.isNull = false) : comparison.holds .null value = (comparison == .notEqual) := by
  cases comparison <;> simp [holds, Value.isNull, hvalue]

theorem Comparison.holds_eq_accepts (comparison : Comparison) {actual : Value} {value : Scalar}
    (hactual : actual.isNull = false) (hvalue : value.isNull = false) :
    comparison.holds actual value = comparison.accepts (actual.compareScalar? value) := by
  simp [holds, hactual, hvalue]

namespace PropertyContext

variable {context : PropertyContext} {schema : Schema} {actual : Value} {value : String}
  {constant : Scalar}

/-- The constant that numbers or instants are compared with for a text. A span of time stands for
    its start. -/
def orderConstant? (context : PropertyContext) (value : String) : Option Scalar :=
  match context.field.kind with
  | .dateTime => (context.readSpan? value).map fun span => .dateTime span.start
  | _ => context.readNumber? value

private theorem dateTimeCondition_ordered (context : PropertyContext) (comparison : Comparison)
    (value : String) : context.dateTimeCondition comparison.operator value =
      context.compared comparison.operator value comparison
        ((context.readSpan? value).map fun span => .dateTime span.start) := by
  unfold dateTimeCondition
  cases context.readSpan? value with
  | none => rfl
  | some span => cases comparison <;> rfl

section

variable (hkind : context.field.kind = .int ∨ context.field.kind = .dateTime)

include hkind

theorem filterCondition_ordered (comparison : Comparison) (value : String) :
    context.filterCondition (.create comparison.operator value) =
      context.compared comparison.operator value comparison (context.orderConstant? value) := by
  have hsupported : comparison.operator ∈ context.field.kind.supportedOperators := by
    rcases hkind with hkind | hkind <;> rw [hkind] <;> cases comparison <;> decide
  have hvalue : comparison.operator.requiresValue = true := by cases comparison <;> rfl
  rw [filterCondition_create hsupported hvalue, orderConstant?]
  unfold condition
  rcases hkind with hkind | hkind <;> rw [hkind]
  · cases comparison <;> rfl
  · refine Eq.trans ?_ (dateTimeCondition_ordered context comparison value)
    cases comparison <;> rfl

theorem propertyCondition_ordered (hconstant : context.orderConstant? value = some constant)
    (comparison : Comparison) : ∃ condition,
      context.propertyCondition [.create comparison.operator value] = .ok condition ∧
        context.Tests (comparison.holds · constant) condition := by
  apply (context.tests_comparison comparison constant).propertyCondition
  rw [filterCondition_ordered hkind, hconstant, compared]

/-- A value of the kind of the field is ordered with the constant that a text stands for. -/
theorem exists_ordering (hconstant : context.orderConstant? value = some constant)
    (hactual : HasKind schema context.field.kind actual) :
    actual.isNull = false ∧ ∃ ordering, actual.compareScalar? constant = some ordering := by
  unfold orderConstant? readNumber? at hconstant
  generalize context.field.kind = kind at hkind hactual hconstant
  rcases hkind with rfl | rfl
  all_goals
    obtain ⟨read, -, rfl⟩ := Option.map_eq_some_iff.mp hconstant
    cases hactual
    exact ⟨rfl, _, rfl⟩

end

theorem isNull_orderConstant? (hconstant : context.orderConstant? value = some constant) :
    constant.isNull = false := by
  unfold orderConstant? readNumber? at hconstant
  split at hconstant
  case h_1 =>
    obtain ⟨read, -, rfl⟩ := Option.map_eq_some_iff.mp hconstant
    rfl
  case h_2 =>
    split at hconstant <;> obtain ⟨read, -, rfl⟩ := Option.map_eq_some_iff.mp hconstant <;> rfl

/-- Inequality is the opposite of equality for all kinds of fields that hold a value: both read a
    text or both refuse it, and a value that one accepts the other rejects. Numbers and instants
    are ordered besides: each of them is less than what a text stands for, equal to it or greater,
    and null is none of that but only unequal. -/
theorem inequality_complements_equality (context : PropertyContext)
    (hscalar : context.field.kind.isScalar = true) (value : String) :
    Opposites (context.propertyCondition [.create context.field.kind.equality value])
      (context.propertyCondition [.create .notEqual value]) ∧
    (context.field.kind = .int ∨ context.field.kind = .dateTime →
      (context.orderConstant? value).isSome = true →
      ∃ condition : Comparison → Predicate,
        (∀ comparison, context.propertyCondition [.create comparison.operator value] =
          .ok (condition comparison)) ∧
        ∀ guarded entity actual, context.access.resolve entity guarded = .ok actual →
          (actual = .null → ∀ comparison,
            (condition comparison).evaluate guarded entity = .ok (comparison == .notEqual)) ∧
          ∀ schema, HasKind schema context.field.kind actual →
            ∃ verdict, Trichotomous verdict ∧ ∀ comparison,
              (condition comparison).evaluate guarded entity = .ok (verdict comparison)) := by
  refine ⟨?_, fun hkind hread => ?_⟩
  · obtain ⟨hequality, hinequality⟩ := supportedOperators_equality hscalar
    have hvalue : context.field.kind.equality.requiresValue = true := by
      cases context.field.kind <;> rfl
    refine (opposites_condition context hscalar value).congr ?_ ?_
    · rw [← filterCondition_create hequality hvalue]
      exact propertyCondition_singleton_alike context _
    · rw [← filterCondition_create hinequality rfl]
      exact propertyCondition_singleton_alike context _
  · obtain ⟨constant, hconstant⟩ := Option.isSome_iff_exists.mp hread
    choose condition hcondition htests using propertyCondition_ordered hkind hconstant
    have hnull := isNull_orderConstant? hconstant
    refine ⟨condition, hcondition, fun guarded entity actual hresolve => ⟨?_, ?_⟩⟩
    · rintro rfl comparison
      rw [← comparison.holds_null hnull]
      exact htests comparison guarded entity _ hresolve
    · intro schema hactual
      obtain ⟨hactual, ordering, hordering⟩ := exists_ordering hkind hconstant hactual
      refine ⟨_, trichotomous_accepts ordering, fun comparison => ?_⟩
      have hholds : comparison.holds actual constant = comparison.accepts (some ordering) := by
        rw [comparison.holds_eq_accepts hactual hnull, hordering]
      exact (htests comparison guarded entity actual hresolve).trans (congrArg _ hholds)

private def stock : PropertyContext :=
  let copies : Field := { name := "Copies", kind := .int, nullable := true }
  .ofField ⟨"Book", [copies]⟩ copies (.builtin ⟨⟨739251, by decide⟩, .midnight⟩)

private def stocked (copies : Value) : Entity := .ofProperties [("Copies", copies)]

/-- Books of which two copies are in stock, or nobody knows how many, compared with `3`. -/
theorem inequality_complements_equality_stock :
    Opposites (stock.propertyCondition [.create .equalCaseInsensitive "3"])
      (stock.propertyCondition [.create .notEqual "3"]) ∧
    ∃ condition : Comparison → Predicate,
      (∀ comparison, stock.propertyCondition [.create comparison.operator "3"] =
        .ok (condition comparison)) ∧
      (∀ comparison, (condition comparison).evaluate false (stocked .null) =
        .ok (comparison == .notEqual)) ∧
      ∃ verdict, Trichotomous verdict ∧ ∀ comparison,
        (condition comparison).evaluate false (stocked (.int 2)) = .ok (verdict comparison) := by
  obtain ⟨hopposites, hordered⟩ := inequality_complements_equality stock rfl "3"
  obtain ⟨condition, hcondition, hverdicts⟩ := hordered (.inl rfl) (by decide)
  obtain ⟨hnull, -⟩ := hverdicts false (stocked .null) .null rfl
  obtain ⟨-, hint⟩ := hverdicts false (stocked (.int 2)) (.int 2) rfl
  exact ⟨hopposites, condition, hcondition, hnull rfl, hint ⟨[]⟩ (.int 2)⟩

end PropertyContext

end EntityQuery
