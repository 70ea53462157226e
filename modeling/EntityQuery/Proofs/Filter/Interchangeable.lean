import EntityQuery.Proofs.Filter.Folding
import EntityQuery.Proofs.Filter.Relaxed
import Mathlib.Data.List.Perm.Basic

namespace EntityQuery

namespace Predicate

variable {schema : Schema} {model : Model} {predicate other : Predicate}
  {parts others : List Predicate}

/-- A predicate on entities of a type that is decided from the outset, or else reads before it
    decides, and that can be tested on every entity of the type. -/
structure Sound (schema : Schema) (model : Model) (predicate : Predicate) : Prop where
  settled : predicate.Settled
  evaluates : ∀ {entity}, Conforms schema model entity → predicate.Evaluates true entity

theorem simplifiable_sound (schema : Schema) (model : Model) :
    Simplifiable (Sound schema model) where
  everything := ⟨simplifiable_settled.everything, fun _ => ⟨true, rfl⟩⟩
  nothing := ⟨simplifiable_settled.nothing, fun _ => ⟨false, rfl⟩⟩
  allOf h := ⟨simplifiable_settled.allOf fun part hpart => (h part hpart).settled,
    fun hconforms => (simplifiable_evaluates true _).allOf
      fun part hpart => (h part hpart).evaluates hconforms⟩
  someOf h := ⟨simplifiable_settled.someOf fun part hpart => (h part hpart).settled,
    fun hconforms => (simplifiable_evaluates true _).someOf
      fun part hpart => (h part hpart).evaluates hconforms⟩
  not h := ⟨simplifiable_settled.not h.settled,
    fun hconforms => (simplifiable_evaluates true _).not (h.evaluates hconforms)⟩

/-- Two predicates on entities of a type with the same verdicts. What is decided about one of
    them from the outset is decided about the other. -/
structure Interchangeable (schema : Schema) (model : Model) (predicate other : Predicate) :
    Prop where
  sound : predicate.Sound schema model
  sound' : other.Sound schema model
  everything_iff : predicate = .everything ↔ other = .everything
  accepts_iff : ∀ {entity}, Conforms schema model entity →
    (predicate.Accepts true entity ↔ other.Accepts true entity)

theorem Sound.interchangeable (h : predicate.Sound schema model) :
    predicate.Interchangeable schema model predicate := ⟨h, h, .rfl, fun _ => .rfl⟩

namespace Interchangeable

/-- What answers alike on entities whose values may be missing does so where they may not. -/
theorem of_relaxed (h : Interchangeable schema.relaxed model.relaxed predicate other) :
    Interchangeable schema model predicate other where
  sound := ⟨h.sound.settled, fun hconforms => h.sound.evaluates hconforms.relaxed⟩
  sound' := ⟨h.sound'.settled, fun hconforms => h.sound'.evaluates hconforms.relaxed⟩
  everything_iff := h.everything_iff
  accepts_iff hconforms := h.accepts_iff hconforms.relaxed

theorem evaluate_eq (h : Interchangeable schema model predicate other) {entity : Entity}
    (hconforms : Conforms schema model entity) :
    predicate.evaluate true entity = other.evaluate true entity := by
  obtain ⟨verdict, hverdict⟩ := h.sound.evaluates hconforms
  obtain ⟨verdict', hverdict'⟩ := h.sound'.evaluates hconforms
  have haccepts := h.accepts_iff hconforms
  rw [Accepts, Accepts, hverdict, hverdict', Except.ok.injEq, Except.ok.injEq] at haccepts
  rw [hverdict, hverdict', Bool.eq_iff_iff.mpr haccepts]

/-- Conjunctions are interchangeable if each part of one has its like among those of the other. -/
theorem allOf (h : Covers (Interchangeable schema model) parts others) :
    Interchangeable schema model (.allOf parts) (.allOf others) := by
  have hparts : ∀ part ∈ parts, part.Sound schema model := by
    intro part hpart
    obtain ⟨_, _, hlike⟩ := h.forth part hpart
    exact hlike.sound
  have hothers : ∀ other ∈ others, other.Sound schema model := by
    intro other hother
    obtain ⟨_, _, hlike⟩ := h.back other hother
    exact hlike.sound'
  have hforall {P : Predicate → Prop}
      (hP : ∀ {part other}, Interchangeable schema model part other → (P part ↔ P other)) :
      (∀ part ∈ parts, P part) ↔ ∀ other ∈ others, P other := by
    constructor
    · intro hall other hother
      obtain ⟨part, hpart, hlike⟩ := h.back other hother
      exact (hP hlike).mp (hall part hpart)
    · intro hall part hpart
      obtain ⟨other, hother, hlike⟩ := h.forth part hpart
      exact (hP hlike).mpr (hall other hother)
  refine ⟨(simplifiable_sound schema model).allOf hparts,
    (simplifiable_sound schema model).allOf hothers, ?_, fun hconforms => ?_⟩
  · rw [allOf_eq_everything_iff fun part hpart => (hparts part hpart).settled,
      allOf_eq_everything_iff fun other hother => (hothers other hother).settled]
    exact hforall everything_iff
  · rw [accepts_allOf_iff, accepts_allOf_iff]
    exact hforall fun hlike => hlike.accepts_iff hconforms

end Interchangeable

end Predicate

namespace PropertyContext

variable {schema : Schema} {model : Model} {field : Field}

theorem admits_sound (schema : Schema) (hfield : field ∈ model.fields)
    (settings : FilterSettings) :
    (ofField model field settings).Admits (Predicate.Sound schema model) where
  toSimplifiable := Predicate.simplifiable_sound schema model
  comparison kind value := ⟨(admits_settled model field settings).comparison kind value,
    fun hconforms => (admits_evaluates (hconforms.fits hfield) _ settings _).comparison kind value⟩
  textMatch htextual kind value ignoreCase :=
    ⟨(admits_settled model field settings).textMatch htextual kind value ignoreCase,
      fun hconforms =>
        (admits_evaluates (hconforms.fits hfield) _ settings _).textMatch htextual _ _ _⟩
  isNull := ⟨(admits_settled model field settings).isNull, fun hconforms =>
    (admits_evaluates (hconforms.fits hfield) _ settings _).isNull⟩
  notNull := ⟨(admits_settled model field settings).notNull, fun hconforms =>
    (admits_evaluates (hconforms.fits hfield) _ settings _).notNull⟩

private theorem interchangeable_combined {conditions others : List (Bool × Predicate)}
    (hperm : conditions.Perm others)
    (hsound : ∀ entry ∈ conditions, entry.2.Sound schema model) :
    (combined conditions).Interchangeable schema model (combined others) := by
  have hsound' : ∀ entry ∈ others, entry.2.Sound schema model :=
    fun entry hentry => hsound entry (hperm.mem_iff.mpr hentry)
  refine ⟨known_combined (Predicate.simplifiable_sound schema model) hsound,
    known_combined (Predicate.simplifiable_sound schema model) hsound', ?_, fun hconforms => ?_⟩
  · rw [judged_combined_iff Predicate.judges_everything fun entry hentry =>
      (hsound entry hentry).settled, judged_combined_iff Predicate.judges_everything
        fun entry hentry => (hsound' entry hentry).settled]
    simp only [hperm.mem_iff]
  · rw [accepts_combined_iff fun entry hentry => (hsound entry hentry).evaluates hconforms,
      accepts_combined_iff fun entry hentry => (hsound' entry hentry).evaluates hconforms]
    simp only [hperm.mem_iff]

variable {context : PropertyContext} {filters others : List ValueFilter} {condition : Predicate}

/-- The order of value filters makes no difference to the condition that they have together. -/
theorem propertyCondition_perm (hsound : context.Admits (Predicate.Sound schema model))
    (hperm : filters.Perm others) (hcondition : context.propertyCondition filters = .ok condition) :
    ∃ changed, context.propertyCondition others = .ok changed ∧
      condition.Interchangeable schema model changed := by
  rw [propertyCondition_eq] at hcondition
  obtain ⟨conditions, hconditions, hcombined⟩ := bind_eq_ok_iff.mp hcondition
  cases hcombined
  replace hconditions := mapM_eq_ok_iff.mp hconditions
  obtain ⟨moved, hmoved, hpermMoved⟩ := List.perm_comp_forall₂ hperm.symm hconditions
  refine ⟨combined moved, ?_, interchangeable_combined hpermMoved.symm fun entry hentry => ?_⟩
  · rw [propertyCondition_eq, mapM_eq_ok_iff.mpr hmoved]
    rfl
  · obtain ⟨value, -, hvalue⟩ := exists_of_forall₂_mem hconditions hentry
    exact hsound.of_groupedCondition hvalue

/-- One of the value filters is refused for its data, and another one for other reasons. -/
def Mixes (context : PropertyContext) (filters : List ValueFilter) : Prop :=
  (∃ filter ∈ filters, ∃ fault, context.filterCondition filter = .error fault ∧
    fault.isDataFault = true) ∧
  ∃ filter ∈ filters, ∃ fault, context.filterCondition filter = .error fault ∧
    fault.isDataFault = false

theorem Mixes.perm (h : context.Mixes filters) (hperm : filters.Perm others) :
    context.Mixes others := by
  simpa only [Mixes, hperm.mem_iff] using h

/-- The value filters are refused with the fault of one of them. -/
theorem exists_filterCondition_eq_error {fault : Fault}
    (hcondition : context.propertyCondition filters = .error fault) :
    ∃ filter ∈ filters, context.filterCondition filter = .error fault := by
  rw [propertyCondition_eq] at hcondition
  obtain ⟨before, filter, after, rfl, -, hfilter⟩ :=
    mapM_eq_error_iff.mp (map_eq_error_iff.mp hcondition)
  exact ⟨filter, List.mem_append_right _ List.mem_cons_self, map_eq_error_iff.mp hfilter⟩

/-- Unless reasons to refuse them are mixed, value filters in any order are refused for data if they
    are refused at all and one of them is refused for its data. -/
theorem isDataFault_of_not_mixes {fault fault' : Fault} (hmixes : ¬ context.Mixes filters)
    (hperm : filters.Perm others) (hcondition : context.propertyCondition filters = .error fault)
    (hdata : fault.isDataFault = true)
    (hother : context.propertyCondition others = .error fault') : fault'.isDataFault = true := by
  obtain ⟨filter, hfilter, hfault⟩ := exists_filterCondition_eq_error hcondition
  obtain ⟨other, hmem, hfault'⟩ := exists_filterCondition_eq_error hother
  by_contra hnot
  exact hmixes ⟨⟨filter, hfilter, fault, hfault, hdata⟩, other, hperm.mem_iff.mpr hmem, fault',
    hfault', Bool.not_eq_true _ ▸ hnot⟩

end PropertyContext

end EntityQuery
