import EntityQuery.Proofs.Predicate.Guards

namespace EntityQuery.Predicate

variable {entity : Entity}

/-- A predicate whose paths check every step that they go on from, and the collections that
    they end at. -/
inductive Checked : Predicate → Prop
  | everything : Checked .everything
  | nothing : Checked .nothing
  | comparison {access kind value} (hway : access.ChecksWay) :
    Checked (.comparison access kind value)
  | textMatch {access kind value ignoreCase} (hway : access.ChecksWay) :
    Checked (.textMatch access kind value ignoreCase)
  | isNull {access} (hway : access.ChecksWay) : Checked (.isNull access)
  | notNull {access} (hway : access.ChecksWay) : Checked (.notNull access)
  | conjunction {parts} (hparts : ∀ part ∈ parts, Checked part) : Checked (.conjunction parts)
  | disjunction {parts} (hparts : ∀ part ∈ parts, Checked part) : Checked (.disjunction parts)
  | negation {part} (hpart : Checked part) : Checked (.negation part)
  | any {collection part} (hway : collection.ChecksWay)
    (hend : collection.endsConditional = true) (hpart : Checked part) :
    Checked (.any collection part)
  | custom {access label test} (hway : access.ChecksWay) : Checked (.custom access label test)

theorem compositional_checked : Compositional Checked where
  everything := .everything
  nothing := .nothing
  conjunction := ⟨fun | .conjunction hparts => hparts, .conjunction⟩
  disjunction := ⟨fun | .disjunction hparts => hparts, .disjunction⟩
  negation := ⟨fun | .negation hpart => hpart, .negation⟩

theorem Checked.anyIn {part : Predicate} (hpart : part.Checked) (name : String) :
    (anyIn (Access.root.member name true) part).Checked := by
  by_cases hnothing : part = .nothing
  · subst hnothing
    exact .nothing
  · rw [anyIn_eq_any hnothing]
    exact .any (Access.checksWay_member name true) rfl hpart

theorem Checked.rebase {predicate : Predicate} (hchecked : predicate.Checked) {before : Access}
    (hbefore : before.ChecksAll) : (predicate.rebase before).Checked := by
  induction hchecked with
  | everything => exact .everything
  | nothing => exact .nothing
  | comparison hway => exact .comparison (hway.rebased hbefore)
  | textMatch hway => exact .textMatch (hway.rebased hbefore)
  | isNull hway => exact .isNull (hway.rebased hbefore)
  | notNull hway => exact .notNull (hway.rebased hbefore)
  | conjunction _ ih =>
    rw [rebase_conjunction]
    exact .conjunction (List.forall_mem_map.mpr ih)
  | disjunction _ ih =>
    rw [rebase_disjunction]
    exact .disjunction (List.forall_mem_map.mpr ih)
  | negation _ ih => exact .negation ih
  | any hway hend hpart _ =>
    refine .any (hway.rebased hbefore) ?_ hpart
    rwa [Access.endsConditional_rebased (Access.isRoot_of_endsConditional hend)]
  | custom hway => exact .custom (hway.rebased hbefore)

private theorem itemsOf_eq {collection : Access} (hend : collection.endsConditional = true)
    (value : Value) : itemsOf collection false value = itemsOf collection true value := by
  cases value <;> simp [itemsOf, hend]

/-- The checks that such a predicate carries are all that evaluation needs. -/
theorem Checked.evaluate_eq {predicate : Predicate} (hchecked : predicate.Checked)
    (entity : Entity) : evaluate false predicate entity = evaluate true predicate entity := by
  induction hchecked generalizing entity with
  | everything | nothing => rfl
  | comparison hway => rw [evaluate, evaluate, hway.resolve_eq]
  | textMatch hway => rw [evaluate, evaluate, hway.resolve_eq]
  | isNull hway => rw [evaluate, evaluate, hway.resolve_eq]
  | notNull hway => rw [evaluate, evaluate, hway.resolve_eq]
  | conjunction _ ih =>
    rw [evaluate_conjunction, evaluate_conjunction]
    exact sequential_eq.allM_of_mem fun part hpart => ih part hpart entity
  | disjunction _ ih =>
    rw [evaluate_disjunction, evaluate_disjunction]
    exact sequential_eq.anyM_of_mem fun part hpart => ih part hpart entity
  | negation _ ih => rw [evaluate, evaluate, ih entity]
  | any hway hend _ ih =>
    rw [evaluate_any, evaluate_any, hway.resolve_eq]
    simp only [itemsOf_eq hend, funext ih]
  | custom hway => rw [evaluate, evaluate, hway.resolve_eq]

mutual

/-- The predicate with no step of its paths checked. -/
def withoutChecks : Predicate → Predicate
  | everything => everything
  | nothing => nothing
  | comparison access kind value => comparison access.withoutChecks kind value
  | textMatch access kind value ignoreCase => textMatch access.withoutChecks kind value ignoreCase
  | isNull access => isNull access.withoutChecks
  | notNull access => notNull access.withoutChecks
  | conjunction parts => conjunction (withoutChecksAll parts)
  | disjunction parts => disjunction (withoutChecksAll parts)
  | negation part => negation (withoutChecks part)
  | any collection part => any collection.withoutChecks (withoutChecks part)
  | custom access label test => custom access.withoutChecks label test

def withoutChecksAll : List Predicate → List Predicate
  | [] => []
  | part :: rest => withoutChecks part :: withoutChecksAll rest

end

private theorem withoutChecksAll_eq_map (parts : List Predicate) :
    withoutChecksAll parts = parts.map withoutChecks := by
  induction parts with
  | nil => rfl
  | cons part rest ih => rw [withoutChecksAll, ih, List.map_cons]

theorem withoutChecks_conjunction (parts : List Predicate) :
    (conjunction parts).withoutChecks = conjunction (parts.map withoutChecks) := by
  rw [withoutChecks, withoutChecksAll_eq_map]

theorem withoutChecks_disjunction (parts : List Predicate) :
    (disjunction parts).withoutChecks = disjunction (parts.map withoutChecks) := by
  rw [withoutChecks, withoutChecksAll_eq_map]

theorem withoutChecks_eq_nothing_iff {predicate : Predicate} :
    predicate.withoutChecks = nothing ↔ predicate = nothing := by
  cases predicate <;> simp [withoutChecks]

private theorem conjunctsOf_withoutChecks (predicate : Predicate) :
    conjunctsOf predicate.withoutChecks = (conjunctsOf predicate).map withoutChecks := by
  cases predicate with
  | conjunction parts => rw [withoutChecks_conjunction]; rfl
  | _ => rfl

private theorem conjoined_withoutChecks (parts : List Predicate) :
    (conjoined parts).withoutChecks = conjoined (parts.map withoutChecks) := by
  rcases parts with _ | ⟨part, _ | ⟨next, rest⟩⟩
  · rfl
  · rfl
  · exact withoutChecks_conjunction _

theorem withoutChecks_allOf (parts : List Predicate) :
    (allOf parts).withoutChecks = allOf (parts.map withoutChecks) := by
  by_cases hnothing : nothing ∈ parts
  · rw [allOf_eq_nothing hnothing, allOf_eq_nothing (List.mem_map.mpr ⟨nothing, hnothing, rfl⟩)]
    rfl
  · have hmap : nothing ∉ parts.map withoutChecks := by
      simpa only [List.mem_map, withoutChecks_eq_nothing_iff, exists_eq_right] using hnothing
    rw [allOf_eq_conjoined hnothing, allOf_eq_conjoined hmap, conjoined_withoutChecks,
      List.map_flatMap, List.flatMap_map]
    simp only [conjunctsOf_withoutChecks]

theorem withoutChecks_anyIn (collection : Access) (part : Predicate) :
    (anyIn collection part).withoutChecks = anyIn collection.withoutChecks part.withoutChecks := by
  cases part <;> rfl

theorem withoutChecks_rebase (predicate : Predicate) (before : Access) :
    (predicate.rebase before).withoutChecks =
      predicate.withoutChecks.rebase before.withoutChecks := by
  induction predicate with
  | conjunction parts ih =>
    rw [rebase_conjunction, withoutChecks_conjunction, withoutChecks_conjunction,
      rebase_conjunction, List.map_map, List.map_map]
    exact congrArg conjunction (List.map_congr_left ih)
  | disjunction parts ih =>
    rw [rebase_disjunction, withoutChecks_disjunction, withoutChecks_disjunction,
      rebase_disjunction, List.map_map, List.map_map]
    exact congrArg disjunction (List.map_congr_left ih)
  | negation part ih => exact congrArg negation ih
  | everything | nothing => rfl
  | _ => simp only [rebase, withoutChecks, Access.withoutChecks_rebased]

private theorem map_withoutChecks_eq_iff (parts : List Predicate) :
    parts.map withoutChecks = parts ↔ ∀ part ∈ parts, part.withoutChecks = part := by
  simpa using List.map_inj_left (l := parts) (f := withoutChecks) (g := id)

/-- A predicate without checks of its own stays as it is when they are stripped. -/
theorem compositional_withoutChecks_eq :
    Compositional fun predicate => predicate.withoutChecks = predicate where
  everything := rfl
  nothing := rfl
  conjunction := by
    intro parts
    rw [withoutChecks_conjunction, conjunction.injEq, map_withoutChecks_eq_iff]
  disjunction := by
    intro parts
    rw [withoutChecks_disjunction, disjunction.injEq, map_withoutChecks_eq_iff]
  negation := by
    intro part
    rw [withoutChecks, negation.injEq]

/-- The checks of a predicate make no difference where every step is checked anyway. -/
theorem evaluate_withoutChecks (predicate : Predicate) (entity : Entity) :
    evaluate true predicate.withoutChecks entity = evaluate true predicate entity := by
  induction predicate generalizing entity with
  | everything | nothing => rfl
  | textMatch access kind value ignoreCase =>
    have htext : textHolds access.withoutChecks kind value ignoreCase =
        textHolds access kind value ignoreCase := by
      funext actual
      simp only [textHolds, Access.path_withoutChecks]
    rw [withoutChecks, evaluate, evaluate, Access.resolve_withoutChecks, htext]
  | conjunction parts ih =>
    rw [withoutChecks_conjunction, evaluate_conjunction, evaluate_conjunction]
    refine sequential_eq.allM (List.forall₂_map_left_iff.mpr (List.forall₂_same.mpr ?_))
    exact fun part hpart => ih part hpart entity
  | disjunction parts ih =>
    rw [withoutChecks_disjunction, evaluate_disjunction, evaluate_disjunction]
    refine sequential_eq.anyM (List.forall₂_map_left_iff.mpr (List.forall₂_same.mpr ?_))
    exact fun part hpart => ih part hpart entity
  | negation part ih => rw [withoutChecks, evaluate, evaluate, ih entity]
  | any collection part ih =>
    have hitems : itemsOf collection.withoutChecks true = itemsOf collection true := by
      funext value
      cases value <;> simp [itemsOf, Access.path_withoutChecks]
    rw [withoutChecks, evaluate_any, evaluate_any, Access.resolve_withoutChecks, hitems,
      funext ih]
  | _ => simp only [withoutChecks, evaluate, Access.resolve_withoutChecks]

end EntityQuery.Predicate
