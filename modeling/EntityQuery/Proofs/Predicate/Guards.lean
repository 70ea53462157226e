import EntityQuery.Proofs.Predicate.Rebase

namespace EntityQuery.Predicate

variable {entity : Entity}

private theorem textHolds_dropsNull (access : Access) (kind : TextMatch) (value : String)
    (ignoreCase : Bool) (actual : Value) :
    DropsNull (textHolds access kind value ignoreCase actual)
      (textHolds access kind value ignoreCase actual) := by
  refine DropsNull.of_eq fun path => ?_
  unfold textHolds
  split
  · simp
  · split
    · simp
    · split <;> simp

private theorem itemsOf_dropsNull (collection : Access) (value : Value) :
    DropsNull (itemsOf collection false value) (itemsOf collection true value) := by
  cases value with
  | null =>
    constructor
    · simp only [itemsOf, Bool.false_or, Bool.true_or]
      split
      · exact .inl rfl
      · exact .inr ⟨_, rfl⟩
    · intro path h
      cases h
  | list items => exact DropsNull.ok items
  | _ =>
    refine DropsNull.of_eq fun path h => ?_
    cases h

/-- Checks during evaluation remove faults at missing entities and change nothing else. -/
theorem evaluate_dropsNull (predicate : Predicate) (entity : Entity) :
    DropsNull (evaluate false predicate entity) (evaluate true predicate entity) := by
  have hresolve := Access.resolve_dropsNull
  induction predicate generalizing entity with
  | everything | nothing => exact DropsNull.ok _
  | comparison access kind value => exact sequential_dropsNull.map _ (hresolve access entity)
  | textMatch access kind value ignoreCase =>
    exact sequential_dropsNull.bind (hresolve access entity) (textHolds_dropsNull _ _ _ _)
  | isNull access => exact sequential_dropsNull.map _ (hresolve access entity)
  | notNull access => exact sequential_dropsNull.map _ (hresolve access entity)
  | conjunction parts ih =>
    rw [evaluate_conjunction, evaluate_conjunction]
    exact sequential_dropsNull.allM_of_mem fun part hpart => ih part hpart entity
  | disjunction parts ih =>
    rw [evaluate_disjunction, evaluate_disjunction]
    exact sequential_dropsNull.anyM_of_mem fun part hpart => ih part hpart entity
  | negation part ih => exact sequential_dropsNull.map _ (ih entity)
  | any collection part ih =>
    rw [evaluate_any, evaluate_any]
    refine sequential_dropsNull.bind (hresolve collection entity) fun value => ?_
    refine sequential_dropsNull.bind (itemsOf_dropsNull collection value) fun items => ?_
    exact sequential_dropsNull.anyM_of_mem fun item _ => ih item
  | custom access label test => exact sequential_dropsNull.map _ (hresolve access entity)

/-- Checks during evaluation only remove faults at missing entities. Every verdict stays as it is,
    so does a fault at a value that is of another kind than its field, with its path, and no fault
    at a missing entity is left. -/
theorem evaluate_guarded (predicate : Predicate) (entity : Entity) :
    (∀ verdict, evaluate false predicate entity = .ok verdict →
      evaluate true predicate entity = .ok verdict) ∧
    (∀ path expected, evaluate false predicate entity = .error (.valueMismatch path expected) →
      evaluate true predicate entity = .error (.valueMismatch path expected)) ∧
    ∀ path, evaluate true predicate entity ≠ .error (.nullNavigation path) := by
  have hdrops := evaluate_dropsNull predicate entity
  refine ⟨hdrops.refines, fun path expected hfault => ?_, hdrops.ne_null⟩
  rw [← hfault]
  refine (hdrops.eq_of_ne_null fun other hnull => ?_).symm
  rw [hfault] at hnull
  cases hnull

/-- On a team without a lead, a name decides before the lead is read, a name has no properties with
    checks or without them, and a property of the lead is a fault only without them. -/
theorem evaluate_guarded_leaderless :
    let team : Entity := .ofProperties [("Name", .text "Red"), ("Lead", .null)]
    let named := notNull (Access.root.member "Name" false)
    let within := fun name => isNull ((Access.root.member name false).member "Name" false)
    (evaluate false (.disjunction [named, within "Lead"]) team = .ok true ∧
      evaluate true (.disjunction [named, within "Lead"]) team = .ok true) ∧
    (evaluate false (.conjunction [named, within "Name"]) team =
        .error (.valueMismatch "Name" "entity") ∧
      evaluate true (.conjunction [named, within "Name"]) team =
        .error (.valueMismatch "Name" "entity")) ∧
    evaluate false (within "Lead") team = .error (.nullNavigation "Lead") ∧
    evaluate true (within "Lead") team ≠ .error (.nullNavigation "Lead") := by
  intro team named within
  refine ⟨⟨rfl, ?_⟩, ⟨rfl, ?_⟩, rfl, ?_⟩
  · exact (evaluate_guarded (.disjunction [named, within "Lead"]) team).1 true rfl
  · exact (evaluate_guarded (.conjunction [named, within "Name"]) team).2.1 "Name" "entity" rfl
  · exact (evaluate_guarded (within "Lead") team).2.2 "Lead"

/-- The entities of a collection can be tested for something that is refined. -/
theorem evaluate_any_refines {part other : Predicate}
    (h : ∀ item, Refines (evaluate false part item) (evaluate true other item))
    (collection : Access) (entity : Entity) :
    Refines (evaluate false (.any collection part) entity)
      (evaluate true (.any collection other) entity) := by
  rw [evaluate_any, evaluate_any]
  refine sequential_refines.bind (collection.resolve_dropsNull entity).refines fun value => ?_
  refine sequential_refines.bind (itemsOf_dropsNull collection value).refines fun items => ?_
  exact sequential_refines.anyM_of_mem fun item _ => h item

end EntityQuery.Predicate
