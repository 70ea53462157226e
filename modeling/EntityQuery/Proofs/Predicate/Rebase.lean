import EntityQuery.Proofs.Access
import EntityQuery.Proofs.Predicate.Simplified

namespace EntityQuery.Predicate

variable {guarded : Bool} {entity related : Entity} {before : Access}

private theorem rebaseAll_eq_map (before : Access) (parts : List Predicate) :
    rebaseAll before parts = parts.map (rebase before) := by
  induction parts with
  | nil => rfl
  | cons part rest ih => rw [rebaseAll, ih, List.map_cons]

theorem rebase_conjunction (before : Access) (parts : List Predicate) :
    (conjunction parts).rebase before = conjunction (parts.map (rebase before)) := by
  rw [rebase, rebaseAll_eq_map]

theorem rebase_disjunction (before : Access) (parts : List Predicate) :
    (disjunction parts).rebase before = disjunction (parts.map (rebase before)) := by
  rw [rebase, rebaseAll_eq_map]

private theorem textHolds_sameOutcome (access other : Access) (kind : TextMatch) (value : String)
    (ignoreCase : Bool) (actual : Value) :
    SameOutcome (textHolds access kind value ignoreCase actual)
      (textHolds other kind value ignoreCase actual) := by
  unfold textHolds
  split
  · rfl
  · split <;> rfl

private theorem itemsOf_sameOutcome {collection : Access} (hroot : collection.isRoot = false)
    (before : Access) (value : Value) :
    SameOutcome (itemsOf (collection.rebased before) guarded value)
      (itemsOf collection guarded value) := by
  cases value with
  | null =>
    simp only [itemsOf, Access.endsConditional_rebased hroot]
    split <;> rfl
  | _ => rfl

/-- The entities of a collection are the same ones on the longer path, and so is a fault at
    reading them. -/
private theorem collectionItems_sameOutcome
    (hbefore : before.resolve entity guarded = .ok (.object related)) (collection : Access) :
    SameOutcome
      (do itemsOf (collection.rebased before) guarded
            (← (collection.rebased before).resolve entity guarded))
      (do itemsOf collection guarded (← collection.resolve related guarded)) := by
  have hresolve := Access.resolve_rebased_sameOutcome hbefore collection
  cases hroot : collection.isRoot with
  | false => exact sequential_sameOutcome.bind hresolve (itemsOf_sameOutcome hroot before)
  | true =>
    -- Both paths end at the entity itself, which is no collection.
    have hempty : collection = .root := by
      cases collection
      simpa [Access.isRoot, Access.root] using hroot
    subst hempty
    rw [(hresolve.ok_iff (.object related)).mpr rfl]
    rfl

/-- Rebasing is substitution: on the longer path a predicate has the outcome that it has on
    the entity that the path in front leads to. -/
theorem evaluate_rebase_sameOutcome
    (hbefore : before.resolve entity guarded = .ok (.object related)) (predicate : Predicate) :
    SameOutcome (evaluate guarded (predicate.rebase before) entity)
      (evaluate guarded predicate related) := by
  have hresolve := Access.resolve_rebased_sameOutcome hbefore
  induction predicate with
  | everything | nothing => rfl
  | comparison access kind value => exact sequential_sameOutcome.map _ (hresolve access)
  | textMatch access kind value ignoreCase =>
    exact sequential_sameOutcome.bind (hresolve access) (textHolds_sameOutcome _ _ _ _ _)
  | isNull access => exact sequential_sameOutcome.map _ (hresolve access)
  | notNull access => exact sequential_sameOutcome.map _ (hresolve access)
  | conjunction parts ih =>
    rw [rebase_conjunction, evaluate_conjunction, evaluate_conjunction]
    exact sequential_sameOutcome.allM (List.forall₂_map_left_iff.mpr (List.forall₂_same.mpr ih))
  | disjunction parts ih =>
    rw [rebase_disjunction, evaluate_disjunction, evaluate_disjunction]
    exact sequential_sameOutcome.anyM (List.forall₂_map_left_iff.mpr (List.forall₂_same.mpr ih))
  | negation part ih => exact sequential_sameOutcome.map _ ih
  | any collection part _ =>
    rw [rebase, evaluate_any, evaluate_any]
    have hitems := collectionItems_sameOutcome hbefore collection
    have h := sequential_sameOutcome.bind hitems (f := (List.anyM (evaluate guarded part) ·))
      (g := (List.anyM (evaluate guarded part) ·)) fun _ => rfl
    simpa only [bind_assoc] using h
  | custom access label test => exact sequential_sameOutcome.map _ (hresolve access)

theorem rebase_rebase (predicate : Predicate) (inner outer : Access) :
    (predicate.rebase inner).rebase outer = predicate.rebase (inner.rebased outer) := by
  induction predicate with
  | conjunction parts ih =>
    rw [rebase_conjunction, rebase_conjunction, rebase_conjunction, List.map_map]
    exact congrArg conjunction (List.map_congr_left ih)
  | disjunction parts ih =>
    rw [rebase_disjunction, rebase_disjunction, rebase_disjunction, List.map_map]
    exact congrArg disjunction (List.map_congr_left ih)
  | negation part ih => exact congrArg negation ih
  | everything | nothing => rfl
  | _ => simp only [rebase, Access.rebased_rebased]

/-- Rebasing is substitution. If a path leads to an entity, then a predicate on the longer path and
    the predicate on that entity have the same verdict or faults of the same code, and rebasing
    step by step is rebasing along the whole path. -/
theorem rebase_substitutes (predicate : Predicate) :
    (∀ (guarded : Bool) (before : Access) (entity related : Entity),
      before.resolve entity guarded = .ok (.object related) →
        SameOutcome (evaluate guarded (predicate.rebase before) entity)
          (evaluate guarded predicate related)) ∧
    ∀ inner outer : Access,
      (predicate.rebase inner).rebase outer = predicate.rebase (inner.rebased outer) :=
  ⟨fun _ _ _ _ hbefore => evaluate_rebase_sameOutcome hbefore predicate, rebase_rebase predicate⟩

/-- A lead with a name and without a list of reports, of whom one is asked to have a name. The fault
    at the missing list shows the path from the team. -/
theorem rebase_substitutes_lead :
    let lead : Entity := .ofProperties [("Name", .text "Ann")]
    let team : Entity := .ofProperties [("Lead", .object lead)]
    let toLead := Access.root.member "Lead" false
    let named := notNull (Access.root.member "Name" false)
    let reported := any (Access.root.member "Reports" false) named
    toLead.resolve team false = .ok (.object lead) ∧
    evaluate false ((conjunction [named, reported]).rebase toLead) team =
      .error (.nullNavigation "Lead.Reports") ∧
    evaluate false (conjunction [named, reported]) lead = .error (.nullNavigation "Reports") ∧
    SameOutcome (evaluate false ((conjunction [named, reported]).rebase toLead) team)
      (evaluate false (conjunction [named, reported]) lead) := by
  intro lead team toLead named reported
  refine ⟨rfl, rfl, rfl, ?_⟩
  exact (rebase_substitutes (conjunction [named, reported])).1 false toLead team lead rfl

/-- A predicate that reads a property of the entity before anything else. -/
inductive ReadsFirst : Predicate → Prop
  | comparison {access kind value} (hroot : access.isRoot = false) :
    ReadsFirst (.comparison access kind value)
  | textMatch {access kind value ignoreCase} (hroot : access.isRoot = false) :
    ReadsFirst (.textMatch access kind value ignoreCase)
  | isNull {access} (hroot : access.isRoot = false) : ReadsFirst (.isNull access)
  | notNull {access} (hroot : access.isRoot = false) : ReadsFirst (.notNull access)
  | conjunction {part rest} (hpart : ReadsFirst part) : ReadsFirst (.conjunction (part :: rest))
  | disjunction {part rest} (hpart : ReadsFirst part) : ReadsFirst (.disjunction (part :: rest))
  | negation {part} (hpart : ReadsFirst part) : ReadsFirst (.negation part)
  | any {collection part} (hroot : collection.isRoot = false) :
    ReadsFirst (.any collection part)
  | custom {access label test} (hroot : access.isRoot = false) :
    ReadsFirst (.custom access label test)

/-- Behind a property that holds no entity, such a predicate cannot be tested without checks. -/
theorem ReadsFirst.evaluate_rebase_fault {predicate : Predicate} (hreads : predicate.ReadsFirst)
    {name : String} (hvalue : ∀ related, entity.get name ≠ .object related) :
    ∃ fault, evaluate false (predicate.rebase (Access.root.member name false)) entity =
      .error fault := by
  have hfault {access : Access} (hroot : access.isRoot = false) :=
    Access.resolve_rebased_fault hroot hvalue
  induction hreads with
  | conjunction hpart ih =>
    obtain ⟨fault, h⟩ := ih
    refine ⟨fault, ?_⟩
    rw [rebase_conjunction, evaluate_conjunction, List.map_cons, List.allM_cons, h]
    rfl
  | disjunction hpart ih =>
    obtain ⟨fault, h⟩ := ih
    refine ⟨fault, ?_⟩
    rw [rebase_disjunction, evaluate_disjunction, List.map_cons, List.anyM_cons, h]
    rfl
  | negation hpart ih =>
    obtain ⟨fault, h⟩ := ih
    exact ⟨fault, by rw [rebase, evaluate, h]; rfl⟩
  | any hroot =>
    obtain ⟨fault, h⟩ := hfault hroot
    exact ⟨fault, by rw [rebase, evaluate_any, h]; rfl⟩
  | comparison hroot | textMatch hroot | isNull hroot | notNull hroot | custom hroot =>
    obtain ⟨fault, h⟩ := hfault hroot
    exact ⟨fault, by rw [rebase, evaluate, h]; rfl⟩

theorem ReadsFirst.rebase {predicate : Predicate} (hreads : predicate.ReadsFirst)
    (before : Access) : (predicate.rebase before).ReadsFirst := by
  induction hreads with
  | conjunction _ ih =>
    rw [rebase_conjunction, List.map_cons]
    exact .conjunction ih
  | disjunction _ ih =>
    rw [rebase_disjunction, List.map_cons]
    exact .disjunction ih
  | negation _ ih => exact .negation ih
  | comparison hroot => exact .comparison (Access.isRoot_rebased hroot)
  | textMatch hroot => exact .textMatch (Access.isRoot_rebased hroot)
  | isNull hroot => exact .isNull (Access.isRoot_rebased hroot)
  | notNull hroot => exact .notNull (Access.isRoot_rebased hroot)
  | any hroot => exact .any (Access.isRoot_rebased hroot)
  | custom hroot => exact .custom (Access.isRoot_rebased hroot)

/-- A predicate that is decided from the outset, or else reads before it decides. -/
def Settled (predicate : Predicate) : Prop :=
  predicate = everything ∨ predicate = nothing ∨ predicate.ReadsFirst

private theorem ReadsFirst.conjunctsOf {predicate : Predicate} (hreads : predicate.ReadsFirst) :
    ∃ part rest, predicate.conjunctsOf = part :: rest ∧ part.ReadsFirst := by
  cases hreads with
  | conjunction hpart => exact ⟨_, _, rfl, hpart⟩
  | _ => exact ⟨_, [], rfl, by constructor; assumption⟩

private theorem ReadsFirst.disjunctsOf {predicate : Predicate} (hreads : predicate.ReadsFirst) :
    ∃ part rest, predicate.disjunctsOf = part :: rest ∧ part.ReadsFirst := by
  cases hreads with
  | disjunction hpart => exact ⟨_, _, rfl, hpart⟩
  | _ => exact ⟨_, [], rfl, by constructor; assumption⟩

theorem ReadsFirst.ne_everything {predicate : Predicate} (hreads : predicate.ReadsFirst) :
    predicate ≠ everything := by
  rintro rfl
  cases hreads

theorem ReadsFirst.ne_nothing {predicate : Predicate} (hreads : predicate.ReadsFirst) :
    predicate ≠ nothing := by
  rintro rfl
  cases hreads

/-- Where parts are put together, those that change nothing are dropped, and the first one of the
    others reads first unless it decides the outcome. -/
private theorem exists_flatMap_eq_cons {neutral deciding : Predicate}
    {within : Predicate → List Predicate} {parts : List Predicate} (hneutral : within neutral = [])
    (hwithin : ∀ {part : Predicate}, part.ReadsFirst →
      ∃ first others, within part = first :: others ∧ first.ReadsFirst)
    (h : ∀ part ∈ parts, part = neutral ∨ part = deciding ∨ part.ReadsFirst)
    (hdeciding : deciding ∉ parts) (hsome : ∃ part ∈ parts, part ≠ neutral) :
    ∃ first others, parts.flatMap within = first :: others ∧ first.ReadsFirst := by
  induction parts with
  | nil => simp at hsome
  | cons part rest ih =>
    obtain ⟨hpart, hrest⟩ := List.ne_and_not_mem_of_not_mem_cons hdeciding
    rw [List.flatMap_cons]
    rcases h part List.mem_cons_self with rfl | rfl | hreads
    · rw [hneutral, List.nil_append]
      exact ih (fun other hmem => h other (List.mem_cons_of_mem _ hmem)) hrest
        (by simpa using hsome)
    · exact absurd rfl hpart
    · obtain ⟨first, others, hparts, hfirst⟩ := hwithin hreads
      exact ⟨first, others ++ rest.flatMap within, by rw [hparts, List.cons_append], hfirst⟩

/-- A conjunction of settled parts reads first unless the parts decide it. -/
theorem readsFirst_allOf {parts : List Predicate} (h : ∀ part ∈ parts, part.Settled)
    (hnothing : nothing ∉ parts) (hsome : ∃ part ∈ parts, part ≠ everything) :
    (allOf parts).ReadsFirst := by
  obtain ⟨first, others, hparts, hfirst⟩ :=
    exists_flatMap_eq_cons rfl ReadsFirst.conjunctsOf h hnothing hsome
  rw [allOf_eq_conjoined hnothing, hparts]
  cases others with
  | nil => exact hfirst
  | cons => exact .conjunction hfirst

private theorem readsFirst_someOf {parts : List Predicate} (h : ∀ part ∈ parts, part.Settled)
    (heverything : everything ∉ parts) (hsome : ∃ part ∈ parts, part ≠ nothing) :
    (someOf parts).ReadsFirst := by
  obtain ⟨first, others, hparts, hfirst⟩ := exists_flatMap_eq_cons rfl ReadsFirst.disjunctsOf
    (fun part hpart => or_left_comm.mp (h part hpart)) heverything hsome
  rw [someOf_eq_disjoined heverything, hparts]
  cases others with
  | nil => exact hfirst
  | cons => exact .disjunction hfirst

theorem simplifiable_settled : Simplifiable Settled where
  everything := .inl rfl
  nothing := .inr (.inl rfl)
  allOf {parts} h := by
    by_cases hnothing : .nothing ∈ parts
    · exact .inr (.inl (allOf_eq_nothing hnothing))
    · by_cases hall : ∀ part ∈ parts, part = .everything
      · exact .inl (allOf_eq_everything hall)
      · exact .inr (.inr (readsFirst_allOf h hnothing (by simpa using hall)))
  someOf {parts} h := by
    by_cases heverything : .everything ∈ parts
    · exact .inl (someOf_eq_everything heverything)
    · by_cases hall : ∀ part ∈ parts, part = .nothing
      · exact .inr (.inl (someOf_eq_nothing hall))
      · exact .inr (.inr (readsFirst_someOf h heverything (by simpa using hall)))
  not {part} h := by
    rcases h with rfl | rfl | hreads
    · exact .inr (.inl rfl)
    · exact .inl rfl
    · cases hreads with
      | negation hpart => exact .inr (.inr hpart)
      | _ => exact .inr (.inr (.negation (by constructor; assumption)))

/-- Settled parts accept everything together from the outset only if each of them does. -/
theorem allOf_eq_everything_iff {parts : List Predicate} (h : ∀ part ∈ parts, part.Settled) :
    allOf parts = everything ↔ ∀ part ∈ parts, part = everything := by
  refine ⟨fun hall => ?_, allOf_eq_everything⟩
  by_contra hsome
  by_cases hnothing : nothing ∈ parts
  · rw [allOf_eq_nothing hnothing] at hall
    cases hall
  · exact (readsFirst_allOf h hnothing (by simpa using hsome)).ne_everything hall

theorem someOf_eq_everything_iff {parts : List Predicate} (h : ∀ part ∈ parts, part.Settled) :
    someOf parts = everything ↔ everything ∈ parts := by
  refine ⟨fun hsome => ?_, someOf_eq_everything⟩
  by_contra heverything
  by_cases hall : ∀ part ∈ parts, part = nothing
  · rw [someOf_eq_nothing hall] at hsome
    cases hsome
  · exact (readsFirst_someOf h heverything (by simpa using hall)).ne_everything hsome

theorem judges_everything : Judges Settled (· = .everything) where
  simplifiable := simplifiable_settled
  everything := rfl
  allOf := allOf_eq_everything_iff
  someOf h := (someOf_eq_everything_iff h).trans (by simp)

end EntityQuery.Predicate
