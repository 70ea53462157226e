import EntityQuery.Proofs.Condition.Inequality
import EntityQuery.Proofs.Number.Integer
import EntityQuery.Proofs.Text

namespace EntityQuery

theorem Comparison.holds_equal_int {n d : Int64} :
    equal.holds (.int d) (.int n) = true ↔ d = n := by
  simp [holds, accepts, Value.isNull, Scalar.isNull, Value.compareScalar?]

namespace Operator

/-- A text matches a name in the way of an operator. Letter case matters for nothing but exact
    equality. -/
def Matches (operator : Operator) (text name : List Char) : Prop :=
  match operator with
  | .startsWith => Text.lowercase text <+: Text.lowercase name
  | .endsWith => Text.lowercase text <:+ Text.lowercase name
  | .equalCaseSensitive => name = text
  | .equalCaseInsensitive | .notEqual => Text.lowercase name = Text.lowercase text
  | _ => Text.lowercase text <:+: Text.lowercase name

/-- The operators that ask for one member by its full name. -/
def exact : List Operator := [.equalCaseSensitive, .equalCaseInsensitive, .notEqual]

/-- A test accepts the numbers that are wanted, or for inequality all others and null. -/
structure Selects (operator : Operator) (wanted : Int64 → Prop) (test : Value → Bool) : Prop where
  null : test .null = (operator == .notEqual)
  number : ∀ d, test (.int d) = true ↔ if operator = .notEqual then ¬wanted d else wanted d

end Operator

namespace PropertyContext

variable {context : PropertyContext} {members : List EnumMember} {operator : Operator}
  {value : String}

theorem memberMatches_iff {member : EnumMember} :
    memberMatches operator value.toList member = true ↔
      operator.Matches (Text.trim value.toList) member.name.toList := by
  unfold memberMatches Operator.Matches
  split <;> simp [Text.occursIn_iff]

theorem namesMember_iff : namesMember operator = true ↔ operator ∈ Operator.exact := by
  cases operator <;> decide

/-- Whether a value is one of some numbers. -/
def isOneOf (numbers : List Int64) (actual : Value) : Bool :=
  numbers.any fun n => Comparison.equal.holds actual (.int n)

/-- Whether a value is one of some numbers, or none of them for inequality. -/
def picks (operator : Operator) (numbers : List Int64) (actual : Value) : Bool :=
  if operator = .notEqual then !isOneOf numbers actual else isOneOf numbers actual

theorem isOneOf_int {numbers : List Int64} {d : Int64} :
    isOneOf numbers (.int d) = true ↔ d ∈ numbers := by
  simp only [isOneOf, List.any_eq_true, Comparison.holds_equal_int, exists_eq_right']

theorem selects_picks (operator : Operator) (numbers : List Int64) :
    operator.Selects (· ∈ numbers) (picks operator numbers) where
  null := by
    have hnull : isOneOf numbers .null = false := by
      simp [isOneOf, Comparison.holds, Value.isNull, Scalar.isNull]
    rw [picks, hnull]
    split
    case isTrue hoperator => simp [hoperator]
    case isFalse hoperator => simp [hoperator]
  number d := by
    unfold picks
    split
    · rw [Bool.not_eq_true', ← Bool.not_eq_true, isOneOf_int]
    · exact isOneOf_int

private theorem tests_someOf (context : PropertyContext) (numbers : List Int64) :
    context.Tests (isOneOf numbers)
      (.someOf ((numbers.map .int).map (.comparison context.access .equal))) := by
  intro guarded entity actual hresolve
  rw [Predicate.evaluate_someOf (by simp), isOneOf]
  induction numbers with
  | nil => rfl
  | cons n rest ih =>
    have hhead : (Predicate.comparison context.access .equal (.int n)).evaluate guarded entity =
        .ok (Comparison.equal.holds actual (.int n)) :=
      context.tests_comparison .equal (.int n) guarded entity actual hresolve
    rw [List.map_cons, List.map_cons, List.anyM_cons, ih, hhead, List.any_cons]
    cases Comparison.equal.holds actual (.int n) <;> rfl

private theorem Tests.complement {test : Value → Bool} {equal unequal : Predicate}
    (h : context.Tests test equal) (hcomplements : unequal.Complements equal) :
    context.Tests (fun actual => !test actual) unequal := by
  intro guarded entity actual hresolve
  rw [hcomplements guarded entity, h guarded entity actual hresolve]
  rfl

theorem tests_picks (context : PropertyContext) (operator : Operator) (numbers : List Int64) :
    context.Tests (picks operator numbers)
      (if operator = .notEqual then
        .allOf ((numbers.map .int).map (.comparison context.access .notEqual))
      else .someOf ((numbers.map .int).map (.comparison context.access .equal))) := by
  have hsome := tests_someOf context numbers
  unfold picks
  split
  · exact hsome.complement (Predicate.complements_comparisons context.access _)
  · exact hsome

theorem tests_picks_singleton (context : PropertyContext) (operator : Operator) (n : Int64) :
    context.Tests (picks operator [n])
      (.comparison context.access (if operator = .notEqual then .notEqual else .equal)
        (.int n)) := by
  intro guarded entity actual hresolve
  rw [← tests_picks context operator [n] guarded entity actual hresolve]
  split
  · exact (Predicate.evaluate_allOf_singleton _).symm
  · exact (Predicate.evaluate_someOf_singleton _).symm

/-- The condition of a filter accepts exactly the wanted members of an enumeration, or for
    inequality all others and null. -/
def SelectsMembers (context : PropertyContext) (operator : Operator) (value : String)
    (wanted : Int64 → Prop) : Prop :=
  ∃ condition test, context.propertyCondition [.create operator value] = .ok condition ∧
    context.Tests test condition ∧ operator.Selects wanted test

/-- A text stands for the member with a number. -/
def NamesNumber (operator : Operator) (value : String) (n : Int64) : Prop :=
  operator ∈ .default :: Operator.exact ∧ Number.IsInteger (Text.trim value.toList) n.toInt

theorem readNumber_eq_some_iff {n : Int64} :
    (if namesMember operator || operator == .default then
      Number.readInt64 (Text.trim value.toList)
    else none) = some n ↔ NamesNumber operator value n := by
  rw [Option.ite_none_right_eq_some, Bool.or_eq_true, namesMember_iff, beq_iff_eq,
    Number.readInt64_eq_some_iff, or_comm, ← List.mem_cons, NamesNumber]

theorem memberCondition_of_number {n : Int64} (hnumber : NamesNumber operator value n) :
    ∃ condition, context.memberCondition members operator value = .ok condition ∧
      context.Tests (picks operator [n]) condition := by
  refine ⟨_, ?_, tests_picks_singleton context operator n⟩
  simp only [memberCondition, readNumber_eq_some_iff.mpr hnumber, beq_iff_eq]

/-- The numbers of the members whose names a text matches. -/
def matchedNumbers (members : List EnumMember) (operator : Operator) (value : String) :
    List Int64 :=
  (members.filter (memberMatches operator value.toList)).map (·.value)

theorem mem_matchedNumbers {d : Int64} : d ∈ matchedNumbers members operator value ↔
    ∃ member ∈ members, operator.Matches (Text.trim value.toList) member.name.toList ∧
      member.value = d := by
  simp only [matchedNumbers, List.mem_map, List.mem_filter, memberMatches_iff, and_assoc]

/-- No name matches a text that has to match one. -/
def MatchesNone (members : List EnumMember) (operator : Operator) (value : String) : Prop :=
  operator ∈ Operator.exact ∧
    ∀ member ∈ members, ¬operator.Matches (Text.trim value.toList) member.name.toList

theorem matchesNone_iff : ((members.filter (memberMatches operator value.toList)).isEmpty &&
    namesMember operator) = true ↔ MatchesNone members operator value := by
  rw [Bool.and_eq_true, List.isEmpty_iff, List.filter_eq_nil_iff, namesMember_iff, and_comm]
  simp only [memberMatches_iff, MatchesNone]

section

variable (hnumber : ∀ n, ¬NamesNumber operator value n)

include hnumber

private theorem readNumber_eq_none : (if namesMember operator || operator == .default then
    Number.readInt64 (Text.trim value.toList) else none) = none :=
  Option.eq_none_iff_forall_ne_some.mpr fun n hn => hnumber n (readNumber_eq_some_iff.mp hn)

theorem memberCondition_of_matchesNone (hnone : MatchesNone members operator value) :
    context.memberCondition members operator value =
      .error (context.invalidChoice operator value (members.map (·.name))) := by
  simp only [memberCondition, readNumber_eq_none hnumber, matchesNone_iff.mpr hnone, if_true]

theorem memberCondition_of_name (hsome : ¬MatchesNone members operator value) :
    ∃ condition, context.memberCondition members operator value = .ok condition ∧
      context.Tests (picks operator (matchedNumbers members operator value)) condition := by
  have htests := tests_picks context operator (matchedNumbers members operator value)
  simp only [memberCondition, readNumber_eq_none hnumber]
  rw [if_neg (matchesNone_iff.not.mpr hsome)]
  refine ⟨_, rfl, ?_⟩
  by_cases hoperator : operator = .notEqual
  · simpa [hoperator, matchedNumbers, Function.comp_def] using htests
  · simpa [hoperator, matchedNumbers, Function.comp_def] using htests

end

section

variable (hkind : context.field.kind = .enumeration members)
  (hsupported : operator ∈ context.field.kind.supportedOperators)
  (hvalue : operator.requiresValue = true)

include hkind hsupported hvalue

theorem filterCondition_enumeration (value : String) :
    context.filterCondition (.create operator value) =
      context.memberCondition members operator value := by
  rw [filterCondition_create hsupported hvalue]
  unfold condition
  rw [hkind]
  rfl

theorem selectsMembers_of_memberCondition {numbers : List Int64} {wanted : Int64 → Prop}
    (hwanted : ∀ d, d ∈ numbers ↔ wanted d)
    (h : ∃ condition, context.memberCondition members operator value = .ok condition ∧
      context.Tests (picks operator numbers) condition) :
    context.SelectsMembers operator value wanted := by
  obtain ⟨condition, hcondition, htests⟩ := h
  rw [← filterCondition_enumeration hkind hsupported hvalue] at hcondition
  obtain ⟨alone, halone, htests⟩ := htests.propertyCondition hcondition
  obtain rfl : (· ∈ numbers) = wanted := funext fun d => propext (hwanted d)
  exact ⟨alone, picks operator numbers, halone, htests, selects_picks operator numbers⟩

/-- A number stands for the member with that number, where an operator asks for members by
    their full names or for any. Every other text stands for all members whose names it matches,
    and is refused if it has to match a full name and does not. -/
theorem enumeration_filter_selects_members (value : String) :
    (∀ n, NamesNumber operator value n → context.SelectsMembers operator value (· = n)) ∧
    ((∀ n, ¬NamesNumber operator value n) →
      ((∃ fault, context.propertyCondition [.create operator value] = .error fault ∧
        fault.code = .invalidFilterValue) ↔ MatchesNone members operator value) ∧
      (¬MatchesNone members operator value → context.SelectsMembers operator value fun d =>
        ∃ member ∈ members, operator.Matches (Text.trim value.toList) member.name.toList ∧
          member.value = d)) := by
  have hselects {numbers : List Int64} {wanted : Int64 → Prop} :=
    @selectsMembers_of_memberCondition context members operator value hkind hsupported hvalue
      numbers wanted
  refine ⟨fun n hnumber => ?_, fun hnumber => ⟨⟨?_, fun hnone => ?_⟩, fun hsome => ?_⟩⟩
  · exact hselects (fun d => List.mem_singleton) (memberCondition_of_number hnumber)
  · rintro ⟨fault, hfault, -⟩
    by_contra hsome
    obtain ⟨condition, -, hok, -⟩ :=
      hselects (fun d => mem_matchedNumbers) (memberCondition_of_name hnumber hsome)
    cases hok.symm.trans hfault
  · have halike := propertyCondition_singleton_alike context (.create operator value)
    rw [filterCondition_enumeration hkind hsupported hvalue,
      memberCondition_of_matchesNone hnumber hnone] at halike
    exact ⟨_, halike.eq_error, rfl⟩
  · exact hselects (fun d => mem_matchedNumbers) (memberCondition_of_name hnumber hsome)

end

private def genres : List EnumMember := [⟨"Poetry", 1⟩, ⟨"poetry", 2⟩, ⟨"Prose", 3⟩, ⟨"Verse", 1⟩]

private def catalog : PropertyContext :=
  let genre : Field := { name := "Genre", kind := .enumeration genres, nullable := true }
  .ofField ⟨"Book", [genre]⟩ genre (.builtin ⟨⟨739252, by decide⟩, .midnight⟩)

private theorem not_namesNumber (h : Number.readInt64 (Text.trim value.toList) = none) (n : Int64) :
    ¬NamesNumber operator value n := by
  rintro ⟨-, hnumber⟩
  rw [← Number.readInt64_eq_some_iff, h] at hnumber
  cases hnumber

/-- A filter for books of any genre but `3`, one for the genre of an exact name, and one for a
    genre that there is none of. -/
theorem enumeration_filter_selects_members_genres :
    catalog.SelectsMembers .notEqual " 3 " (· = 3) ∧
    (catalog.SelectsMembers .equalCaseSensitive "Poetry" fun d => ∃ member ∈ genres,
      Operator.equalCaseSensitive.Matches (Text.trim "Poetry".toList) member.name.toList ∧
        member.value = d) ∧
    ∃ fault, catalog.propertyCondition [.create .equalCaseSensitive "Drama"] = .error fault ∧
      fault.code = .invalidFilterValue := by
  obtain ⟨hnumber, -⟩ := enumeration_filter_selects_members rfl
    (by decide : Operator.notEqual ∈ catalog.field.kind.supportedOperators) rfl " 3 "
  have hexact := enumeration_filter_selects_members rfl
    (by decide : Operator.equalCaseSensitive ∈ catalog.field.kind.supportedOperators) rfl
  refine ⟨hnumber 3 ⟨by decide, Number.readInt64_eq_some_iff.mp (by decide)⟩, ?_, ?_⟩
  · refine ((hexact "Poetry").2 (not_namesNumber (by decide))).2 ?_
    rintro ⟨-, hnone⟩
    exact hnone ⟨"Poetry", 1⟩ List.mem_cons_self (by decide : "Poetry".toList = _)
  · refine ((hexact "Drama").2 (not_namesNumber (by decide))).1.mpr ⟨by decide, ?_⟩
    unfold Operator.Matches
    decide

end PropertyContext

end EntityQuery
