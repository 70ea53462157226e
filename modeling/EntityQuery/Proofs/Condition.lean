import EntityQuery.Condition.Property
import EntityQuery.Proofs.Predicate.Simplified

namespace EntityQuery

/-- Whether the values of a kind have a text that they are matched by. -/
def FieldKind.IsTextual : FieldKind → Prop
  | text | other _ => True
  | _ => False

namespace PropertyContext

/-- A property of predicates that the tests of one property have, as far as its kind allows
    them, and that simplification keeps. -/
structure Admits (context : PropertyContext) (P : Predicate → Prop) : Prop
    extends Predicate.Simplifiable P where
  comparison : ∀ kind value, P (.comparison context.access kind value)
  textMatch : context.field.kind.IsTextual → ∀ kind value ignoreCase,
    P (.textMatch context.access kind value ignoreCase)
  isNull : P (.isNull context.access)
  notNull : P (.notNull context.access)

/-- A property of predicates that the conditions of single values have: the tests of one property,
    as far as its kind allows them, and what some of them put together. -/
structure AdmitsValues (context : PropertyContext) (P : Predicate → Prop) : Prop where
  comparison : ∀ kind value, P (.comparison context.access kind value)
  textMatch : context.field.kind.IsTextual → ∀ kind value ignoreCase,
    P (.textMatch context.access kind value ignoreCase)
  notTextMatch : context.field.kind.IsTextual → ∀ kind value ignoreCase,
    P (.not (.textMatch context.access kind value ignoreCase))
  allOf : ∀ {parts}, parts ≠ [] → (∀ part ∈ parts, P part) → P (.allOf parts)
  someOf : ∀ {parts}, (∀ part ∈ parts, P part) → P (.someOf parts)

theorem Admits.admitsValues {context : PropertyContext} {P : Predicate → Prop}
    (hP : context.Admits P) : context.AdmitsValues P where
  comparison := hP.comparison
  textMatch := hP.textMatch
  notTextMatch hkind kind value ignoreCase := hP.not (hP.textMatch hkind kind value ignoreCase)
  allOf _ h := hP.allOf h
  someOf := hP.someOf

/-- The tests of a property depend on the way to it and on its kind alone. -/
theorem Admits.congr {context other : PropertyContext} {P : Predicate → Prop}
    (hP : context.Admits P) (haccess : context.access = other.access)
    (hkind : context.field.kind = other.field.kind) : other.Admits P where
  toSimplifiable := hP.toSimplifiable
  comparison := haccess ▸ hP.comparison
  textMatch htextual := haccess ▸ hP.textMatch (hkind ▸ htextual)
  isNull := haccess ▸ hP.isNull
  notNull := haccess ▸ hP.notNull

/-- The faults with which the value filters of a property are refused. They name the property,
    and either a text that is no value of its type or an operator that its type does not take. -/
inductive Refuses (context : PropertyContext) : Fault → Prop
  | value (operator : Operator) (text : String) (choices : Option (List String)) :
    Refuses context (.invalidFilterValue context.model.name context.field.name
      context.field.typeName operator (some text) choices)
  | operator (operator : Operator) (text : Option String) (supported : List Operator) :
    Refuses context (.unsupportedOperator context.model.name context.field.name
      context.field.typeName operator text supported)

/-- A predicate with a property, or a fault with which value filters are refused. -/
inductive Gives (context : PropertyContext) (P : Predicate → Prop) : Except Fault Predicate → Prop
  | ok {predicate : Predicate} (hP : P predicate) : Gives context P (.ok predicate)
  | error {fault : Fault} (hrefuses : context.Refuses fault) : Gives context P (.error fault)

namespace Gives

variable {context : PropertyContext} {P : Predicate → Prop} {built : Predicate} {fault : Fault}

theorem of_ok (h : context.Gives P (.ok built)) : P built := by
  cases h with
  | ok hP => exact hP

theorem of_error (h : context.Gives P (.error fault)) : context.Refuses fault := by
  cases h with
  | error hrefuses => exact hrefuses

end Gives

namespace AdmitsValues

variable {context : PropertyContext} {P : Predicate → Prop} {operator : Operator}
  {value : String}

private theorem textCondition (hP : context.AdmitsValues P)
    (hkind : context.field.kind.IsTextual) : P (context.textCondition operator value) := by
  unfold PropertyContext.textCondition
  cases operator with
  | notEqual => exact hP.notTextMatch hkind _ _ _
  | _ => exact hP.textMatch hkind _ _ _

private theorem fallbackCondition (hP : context.AdmitsValues P)
    (hkind : context.field.kind.IsTextual) : P (context.fallbackCondition operator value) := by
  unfold PropertyContext.fallbackCondition
  cases operator with
  | equalCaseInsensitive => exact hP.textMatch hkind _ _ _
  | _ => exact hP.comparison _ _

private theorem compared (hP : context.AdmitsValues P) (comparison : Comparison)
    (constant : Option Scalar) :
    context.Gives P (context.compared operator value comparison constant) := by
  cases constant with
  | none => exact .error (.value _ _ _)
  | some constant => exact .ok (hP.comparison comparison constant)

private theorem dateTimeCondition (hP : context.AdmitsValues P) :
    context.Gives P (context.dateTimeCondition operator value) := by
  unfold PropertyContext.dateTimeCondition
  cases context.readSpan? value with
  | none => exact .error (.value _ _ _)
  | some span =>
    have hwithin : P (context.within span) := by
      refine hP.allOf (List.cons_ne_nil _ _) fun part hpart => ?_
      rcases List.mem_pair.mp hpart with rfl | rfl
      · exact hP.comparison _ _
      · exact hP.comparison _ _
    dsimp only
    split
    · exact .ok hwithin
    · exact .ok hwithin
    · exact hP.compared _ _

private theorem memberCondition (hP : context.AdmitsValues P) (members : List EnumMember) :
    context.Gives P (context.memberCondition members operator value) := by
  have hparts (comparison : Comparison) (matched : List EnumMember) :
      ∀ part ∈ matched.map fun member =>
        Predicate.comparison context.access comparison (.int member.value), P part := by
    intro part hpart
    obtain ⟨member, -, rfl⟩ := List.mem_map.mp hpart
    exact hP.comparison _ _
  unfold PropertyContext.memberCondition
  dsimp only
  generalize (if (namesMember operator || operator == .default) = true then
    Number.readInt64 (Text.trim value.toList) else none) = number
  cases number with
  | some number => exact .ok (hP.comparison _ _)
  | none =>
    dsimp only
    split
    · exact .error (.value _ _ _)
    · rename_i hmatched
      refine .ok ?_
      split
      · rename_i hnegated
        -- An inequality names a member, so it has been refused if no member matches.
        rw [beq_iff_eq.mp hnegated] at hmatched ⊢
        refine hP.allOf (fun hnil => hmatched ?_) (hparts _ _)
        simp [List.map_eq_nil_iff.mp hnil, namesMember]
      · exact hP.someOf (hparts _ _)

private theorem condition (hP : context.AdmitsValues P) {category : Category}
    (htext : category = .text ∨ category = .fallback → context.field.kind.IsTextual) :
    context.Gives P (context.condition category operator value) := by
  have hrefused (supported : List Operator) :
      context.Gives P (.error (context.unsupported operator (some value) supported)) :=
    .error (.operator _ _ _)
  unfold PropertyContext.condition
  cases category with
  | text =>
    dsimp only
    split
    · exact .ok (hP.textCondition (htext (.inl rfl)))
    · exact hrefused _
  | fallback =>
    dsimp only
    split
    · exact .ok (hP.fallbackCondition (htext (.inr rfl)))
    · exact hrefused _
  | enumeration =>
    cases context.field.kind with
    | enumeration members => exact hP.memberCondition members
    | _ => exact hrefused _
  | dateTime =>
    dsimp only
    split
    · exact hP.dateTimeCondition
    · exact hrefused _
  | guid | boolean | numeric =>
    dsimp only
    split
    · exact hP.compared _ _
    · exact hrefused _

private theorem isTextual_of_category {kind : FieldKind} (hscalar : kind.isScalar = true)
    (hcategory : Category.ofKind kind = .text ∨ Category.ofKind kind = .fallback) :
    kind.IsTextual := by
  cases kind with
  | text | other => trivial
  | navigation | collection => cases hscalar
  | _ => rcases hcategory with h | h <;> cases h

/-- The condition of a filter that asks for a value has what the tests of its property have. -/
theorem filterCondition (hP : context.AdmitsValues P) {filter : ValueFilter}
    (hvalue : filter.operator.requiresValue = true) :
    context.Gives P (context.filterCondition filter) := by
  unfold PropertyContext.filterCondition
  simp only
  split
  · exact .error (.operator _ _ _)
  · rename_i hsupported
    split
    · rename_i hoperator
      simp [hoperator, Operator.requiresValue] at hvalue
    · rename_i hoperator
      simp [hoperator, Operator.requiresValue] at hvalue
    · have hscalar : context.field.kind.isScalar = true := by
        by_contra hscalar
        simp only [FieldKind.supportedOperators, if_neg hscalar] at hsupported
        cases hoperator : filter.operator <;> simp_all
      split
      · exact .error (.value _ _ _)
      · exact hP.condition (isTextual_of_category hscalar)

end AdmitsValues

namespace Admits

variable {context : PropertyContext} {P : Predicate → Prop}

theorem filterCondition (hP : context.Admits P) (filter : ValueFilter) :
    context.Gives P (context.filterCondition filter) := by
  cases hvalue : filter.operator.requiresValue with
  | true => exact hP.admitsValues.filterCondition hvalue
  | false =>
    unfold PropertyContext.filterCondition
    simp only
    split
    · exact .error (.operator _ _ _)
    · split
      · refine .ok ?_
        split
        · exact hP.isNull
        · exact hP.nothing
      · refine .ok ?_
        split
        · exact hP.notNull
        · exact hP.everything
      · cases hoperator : filter.operator <;> simp_all [Operator.requiresValue]

/-- The condition of a property has what its tests have and simplification keeps. If there is
    none, a value filter is refused. -/
theorem propertyCondition (hP : context.Admits P) (filters : List ValueFilter) :
    context.Gives P (context.propertyCondition filters) := by
  unfold PropertyContext.propertyCondition
  cases hconditions : filters.mapM fun filter => do
    return (filter.operator.isNegation, ← context.filterCondition filter) with
  | error fault =>
    obtain ⟨_, filter, _, _, _, hfilter⟩ := mapM_eq_error_iff.mp hconditions
    exact .error (map_eq_error_iff.mp hfilter ▸ hP.filterCondition filter).of_error
  | ok conditions =>
    have hall : ∀ entry ∈ conditions, P entry.2 := by
      intro entry hentry
      obtain ⟨filter, -, hfilter⟩ := exists_of_forall₂_mem (mapM_eq_ok_iff.mp hconditions) hentry
      obtain ⟨condition, hcondition, hentry⟩ := bind_eq_ok_iff.mp hfilter
      cases hentry
      exact (hcondition ▸ hP.filterCondition filter).of_ok
    have hpart (keep : Bool × Predicate → Bool) :
        ∀ part ∈ (conditions.filter keep).map (·.2), P part := by
      intro part hmem
      obtain ⟨entry, hentry, rfl⟩ := List.mem_map.mp hmem
      exact hall entry (List.mem_of_mem_filter hentry)
    refine .ok (hP.allOf fun part hmem => ?_)
    rcases List.mem_pair.mp hmem with rfl | rfl
    · split
      · exact hP.everything
      · exact hP.someOf (hpart _)
    · exact hP.allOf (hpart _)

end Admits

private theorem admits_true (context : PropertyContext) : context.Admits fun _ => True where
  everything := trivial
  nothing := trivial
  allOf _ := trivial
  someOf _ := trivial
  not _ := trivial
  comparison _ _ := trivial
  textMatch _ _ _ _ := trivial
  isNull := trivial
  notNull := trivial

/-- The faults of value filters name the property that they were given for. -/
theorem refuses_of_propertyCondition {context : PropertyContext} {filters : List ValueFilter}
    {fault : Fault} (h : context.propertyCondition filters = .error fault) :
    context.Refuses fault :=
  (h ▸ (admits_true context).propertyCondition filters).of_error

/-- Of the faults of value filters, those of texts that are no value are the ones in data. -/
theorem Refuses.isDataFault_iff {context : PropertyContext} {fault : Fault}
    (h : context.Refuses fault) :
    fault.isDataFault = true ↔ fault.code = .invalidFilterValue := by
  cases h <;> simp [Fault.isDataFault, Fault.code, FaultCode.isDataFault]

end PropertyContext

end EntityQuery
