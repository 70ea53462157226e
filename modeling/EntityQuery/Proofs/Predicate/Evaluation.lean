import EntityQuery.Predicate.Evaluation
import EntityQuery.Proofs.Sequential

namespace EntityQuery.Predicate

/-- Induction over a predicate. Of a conjunction and a disjunction, the claim may be assumed
    for each part. -/
@[elab_as_elim, induction_eliminator]
theorem induct {motive : Predicate → Prop}
    (everything : motive .everything)
    (nothing : motive .nothing)
    (comparison : ∀ access kind value, motive (.comparison access kind value))
    (textMatch : ∀ access kind value ignoreCase,
      motive (.textMatch access kind value ignoreCase))
    (isNull : ∀ access, motive (.isNull access))
    (notNull : ∀ access, motive (.notNull access))
    (conjunction : ∀ parts, (∀ part ∈ parts, motive part) → motive (.conjunction parts))
    (disjunction : ∀ parts, (∀ part ∈ parts, motive part) → motive (.disjunction parts))
    (negation : ∀ part, motive part → motive (.negation part))
    (any : ∀ collection part, motive part → motive (.any collection part))
    (custom : ∀ access label test, motive (.custom access label test))
    (predicate : Predicate) : motive predicate :=
  @Predicate.rec motive (fun parts => ∀ part ∈ parts, motive part)
    everything nothing comparison textMatch isNull notNull conjunction disjunction negation any
    custom (fun _ h => nomatch h)
    (fun _ _ hpart hrest _ hmem => (List.mem_cons.mp hmem).elim (fun h => h ▸ hpart) (hrest _))
    predicate

variable {guarded : Bool} {entity : Entity}

private theorem evaluateAll_eq_allM (parts : List Predicate) :
    evaluateAll guarded parts entity = parts.allM fun part => evaluate guarded part entity := by
  induction parts with
  | nil => rfl
  | cons part rest ih => rw [evaluateAll, ih, List.allM_cons]

private theorem evaluateSome_eq_anyM (parts : List Predicate) :
    evaluateSome guarded parts entity = parts.anyM fun part => evaluate guarded part entity := by
  induction parts with
  | nil => rfl
  | cons part rest ih => rw [evaluateSome, ih, List.anyM_cons]

private theorem someItem_eq_anyM (test : Entity → Except Fault Bool) (items : List Entity) :
    someItem test items = items.anyM test := by
  induction items with
  | nil => rfl
  | cons item rest ih => rw [someItem, ih, List.anyM_cons]

theorem evaluate_conjunction (parts : List Predicate) :
    evaluate guarded (.conjunction parts) entity =
      parts.allM fun part => evaluate guarded part entity := by
  rw [evaluate, evaluateAll_eq_allM]

theorem evaluate_disjunction (parts : List Predicate) :
    evaluate guarded (.disjunction parts) entity =
      parts.anyM fun part => evaluate guarded part entity := by
  rw [evaluate, evaluateSome_eq_anyM]

theorem evaluate_any (collection : Access) (part : Predicate) :
    evaluate guarded (.any collection part) entity =
      (do
        let items ← itemsOf collection guarded (← collection.resolve entity guarded)
        items.anyM (evaluate guarded part)) := by
  simp only [evaluate, someItem_eq_anyM]

theorem textHolds_ok (access : Access) (kind : TextMatch) (value : String) (ignoreCase : Bool)
    {actual : Value} (htext : actual = .null ∨ ∃ text, actual.asText? = some text) :
    ∃ verdict, textHolds access kind value ignoreCase actual = .ok verdict := by
  rcases htext with rfl | ⟨text, htext⟩
  · exact ⟨false, rfl⟩
  · simp only [textHolds, htext]
    split
    · exact ⟨_, rfl⟩
    · split <;> exact ⟨_, rfl⟩

/-- Two predicates have the same verdicts and the same faults. -/
def SameVerdicts (predicate other : Predicate) : Prop :=
  ∀ guarded entity, predicate.evaluate guarded entity = other.evaluate guarded entity

/-- An entity can be tested without a fault. -/
def Evaluates (guarded : Bool) (predicate : Predicate) (entity : Entity) : Prop :=
  ∃ verdict, predicate.evaluate guarded entity = .ok verdict

/-- An entity can be tested and is accepted. -/
def Accepts (guarded : Bool) (predicate : Predicate) (entity : Entity) : Prop :=
  predicate.evaluate guarded entity = .ok true

end EntityQuery.Predicate
