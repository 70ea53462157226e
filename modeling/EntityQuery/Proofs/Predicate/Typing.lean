import EntityQuery.Proofs.Conformance
import EntityQuery.Proofs.Predicate.Guards

namespace EntityQuery

/-- A path leads from entities of a type to a field, by way of fields that lead to one entity
    each. All of these fields are allowed. -/
inductive Access.Reaches (schema : Schema) (allowed : Field → Bool) : Model → Access → Field → Prop
  | last {model field} (hfield : field ∈ model.fields) (hallowed : allowed field = true)
    (conditional : Bool) : Reaches schema allowed model ⟨[⟨field.name, conditional⟩]⟩ field
  | step {model hop target rest field} (hhop : hop ∈ model.fields) (hallowed : allowed hop = true)
    (hkind : hop.kind = .navigation target) (conditional : Bool)
    (hrest : Reaches schema allowed (schema.model target) ⟨rest⟩ field) :
    Reaches schema allowed model ⟨⟨hop.name, conditional⟩ :: rest⟩ field

/-- A predicate on entities of a type. Its paths lead to allowed fields, texts are looked for
    only in fields that have a text, and what is tested of the entities of a collection is a
    predicate on entities of their type. -/
inductive Predicate.Typed (schema : Schema) (allowed : Field → Bool) : Model → Predicate → Prop
  | everything {model} : Typed schema allowed model .everything
  | nothing {model} : Typed schema allowed model .nothing
  | comparison {model access field kind value}
    (hreaches : access.Reaches schema allowed model field) :
    Typed schema allowed model (.comparison access kind value)
  | textMatch {model access field kind value ignoreCase}
    (hreaches : access.Reaches schema allowed model field) (htextual : field.kind.IsTextual) :
    Typed schema allowed model (.textMatch access kind value ignoreCase)
  | isNull {model access field} (hreaches : access.Reaches schema allowed model field) :
    Typed schema allowed model (.isNull access)
  | notNull {model access field} (hreaches : access.Reaches schema allowed model field) :
    Typed schema allowed model (.notNull access)
  | conjunction {model parts} (hparts : ∀ part ∈ parts, Typed schema allowed model part) :
    Typed schema allowed model (.conjunction parts)
  | disjunction {model parts} (hparts : ∀ part ∈ parts, Typed schema allowed model part) :
    Typed schema allowed model (.disjunction parts)
  | negation {model part} (hpart : Typed schema allowed model part) :
    Typed schema allowed model (.negation part)
  | any {model collection field target part}
    (hreaches : collection.Reaches schema allowed model field)
    (hkind : field.kind = .collection target)
    (hpart : Typed schema allowed (schema.model target) part) :
    Typed schema allowed model (.any collection part)

variable {schema : Schema} {allowed : Field → Bool} {model : Model} {target : String}
  {hop field : Field} {entity : Entity}

namespace Access

variable {access : Access}

theorem reaches_member (hfield : field ∈ model.fields) (hallowed : allowed field = true)
    (conditional : Bool) :
    (root.member field.name conditional).Reaches schema allowed model field :=
  .last hfield hallowed conditional

theorem Reaches.rebased (hreaches : access.Reaches schema allowed (schema.model target) field)
    (hhop : hop ∈ model.fields) (hallowed : allowed hop = true)
    (hkind : hop.kind = .navigation target) (conditional : Bool) :
    (access.rebased (root.member hop.name conditional)).Reaches schema allowed model field :=
  .step hhop hallowed hkind conditional hreaches

/-- With every step checked, nothing is read behind a null. -/
private theorem follow_null (passed segments : List Segment) (guard : Bool) :
    follow true passed guard .null segments = .ok .null := by
  cases segments <;> simp [follow]

/-- A path that begins with a null property leads to a null. -/
private theorem resolve_of_null {segment : Segment} {rest : List Segment}
    (hnull : entity.get segment.name = .null) :
    resolve ⟨segment :: rest⟩ entity true = .ok .null := by
  rw [resolve, follow, hnull, follow_null]

/-- Behind a null property a path leads where it leads from an entity without properties. -/
theorem Reaches.resolve_behind_null (hreaches : access.Reaches schema allowed model field)
    {name : String} (hnull : entity.get name = .null) (conditional : Bool) :
    (access.rebased (root.member name conditional)).resolve entity true = .ok .null ∧
      access.resolve (.ofProperties []) true = .ok .null := by
  refine ⟨resolve_of_null hnull, ?_⟩
  cases hreaches <;> exact resolve_of_null rfl

/-- A path along the fields of a conforming entity ends at a null or at a value that fits the
    field that it leads to. -/
theorem Reaches.resolve_fits (hreaches : access.Reaches schema allowed model field)
    (hconforms : Conforms schema model entity) :
    ∃ value, access.resolve entity true = .ok value ∧
      (value = .null ∨ Fits schema field value) := by
  suffices hfollow : ∀ passed guard, ∃ value,
      follow true passed guard (.object entity) access.segments = .ok value ∧
        (value = .null ∨ Fits schema field value) from hfollow [] true
  induction hreaches generalizing entity with
  | last hfield _ _ => exact fun _ _ => ⟨_, rfl, .inr (hconforms.fits hfield)⟩
  | step hhop _ hkind _ _ ih =>
    intro passed guard
    rw [follow]
    rcases (hconforms.fits hhop).navigation hkind with ⟨hnull, _⟩ | ⟨related, hrelated, hinside⟩
    · exact ⟨.null, by rw [hnull, follow_null], .inl rfl⟩
    · rw [hrelated]
      exact ih hinside _ _

end Access

namespace Predicate

theorem compositional_typed (schema : Schema) (allowed : Field → Bool) (model : Model) :
    Compositional (Typed schema allowed model) where
  everything := .everything
  nothing := .nothing
  conjunction := ⟨fun | .conjunction hparts => hparts, .conjunction⟩
  disjunction := ⟨fun | .disjunction hparts => hparts, .disjunction⟩
  negation := ⟨fun | .negation hpart => hpart, .negation⟩

variable {predicate : Predicate}

theorem Typed.anyIn (htyped : predicate.Typed schema allowed (schema.model target))
    (hfield : field ∈ model.fields) (hallowed : allowed field = true)
    (hkind : field.kind = .collection target) (conditional : Bool) :
    (anyIn (Access.root.member field.name conditional) predicate).Typed schema allowed model := by
  by_cases hnothing : predicate = .nothing
  · subst hnothing
    exact .nothing
  · rw [anyIn_eq_any hnothing]
    exact .any (Access.reaches_member hfield hallowed conditional) hkind htyped

/-- On the longer path, a predicate on related entities is one on the entities that they are
    related to. -/
theorem Typed.rebase (htyped : predicate.Typed schema allowed (schema.model target))
    (hhop : hop ∈ model.fields) (hallowed : allowed hop = true)
    (hkind : hop.kind = .navigation target) (conditional : Bool) :
    (predicate.rebase (Access.root.member hop.name conditional)).Typed schema allowed model := by
  have hrebased {access : Access} {field : Field}
      (h : access.Reaches schema allowed (schema.model target) field) :=
    h.rebased hhop hallowed hkind conditional
  -- The type is an index of the typing, and it stays the same down to the tests of collections.
  generalize hinside : schema.model target = inside at htyped hrebased
  induction htyped with
  | everything => exact .everything
  | nothing => exact .nothing
  | comparison hreaches => exact .comparison (hrebased hreaches)
  | textMatch hreaches htextual => exact .textMatch (hrebased hreaches) htextual
  | isNull hreaches => exact .isNull (hrebased hreaches)
  | notNull hreaches => exact .notNull (hrebased hreaches)
  | conjunction _ ih =>
    rw [rebase_conjunction]
    exact .conjunction (List.forall_mem_map.mpr fun part hpart => ih part hpart hinside hrebased)
  | disjunction _ ih =>
    rw [rebase_disjunction]
    exact .disjunction (List.forall_mem_map.mpr fun part hpart => ih part hpart hinside hrebased)
  | negation _ ih => exact .negation (ih hinside hrebased)
  | any hreaches hkind hpart _ => exact .any (hrebased hreaches) hkind hpart

/-- With every step checked, a predicate on entities of a type gives a verdict on each entity
    that conforms to the type. -/
theorem Typed.evaluates (htyped : predicate.Typed schema allowed model)
    (hconforms : Conforms schema model entity) : predicate.Evaluates true entity := by
  induction htyped generalizing entity with
  | everything => exact ⟨true, rfl⟩
  | nothing => exact ⟨false, rfl⟩
  | comparison hreaches | isNull hreaches | notNull hreaches =>
    obtain ⟨value, hvalue, -⟩ := hreaches.resolve_fits hconforms
    exact ⟨_, by rw [evaluate, hvalue]; rfl⟩
  | textMatch hreaches htextual =>
    obtain ⟨value, hvalue, hfits⟩ := hreaches.resolve_fits hconforms
    have htext : value = .null ∨ ∃ text, value.asText? = some text :=
      hfits.elim .inl fun h => h.isNull_or_asText htextual
    rw [Evaluates, evaluate, hvalue]
    exact textHolds_ok _ _ _ _ htext
  | conjunction _ ih =>
    rw [Evaluates, evaluate_conjunction]
    exact allM_ok fun part hpart => ih part hpart hconforms
  | disjunction _ ih =>
    rw [Evaluates, evaluate_disjunction]
    exact anyM_ok fun part hpart => ih part hpart hconforms
  | negation _ ih =>
    obtain ⟨verdict, hverdict⟩ := ih hconforms
    exact ⟨!verdict, by rw [evaluate, hverdict]; rfl⟩
  | any hreaches hkind _ ih =>
    obtain ⟨value, hvalue, hfits⟩ := hreaches.resolve_fits hconforms
    rw [Evaluates, evaluate_any, hvalue]
    rcases hfits.elim .inl fun h => h.collection hkind with rfl | ⟨items, rfl, hitems⟩
    · exact ⟨false, rfl⟩
    · exact anyM_ok fun item hitem => ih (hitems item hitem)

/-- With every step checked, a predicate on the entities behind a null property is tested as on an
    entity without properties. -/
theorem Typed.evaluate_behind_null (htyped : predicate.Typed schema allowed model) {name : String}
    (hnull : entity.get name = .null) (conditional : Bool) :
    (predicate.rebase (Access.root.member name conditional)).evaluate true entity =
      predicate.evaluate true (.ofProperties []) := by
  induction htyped with
  | everything | nothing => rfl
  | comparison hreaches | isNull hreaches | notNull hreaches =>
    obtain ⟨hbehind, hblank⟩ := hreaches.resolve_behind_null hnull conditional
    rw [Predicate.rebase, evaluate, evaluate, hbehind, hblank]
  | textMatch hreaches =>
    obtain ⟨hbehind, hblank⟩ := hreaches.resolve_behind_null hnull conditional
    rw [Predicate.rebase, evaluate, evaluate, hbehind, hblank]
    rfl
  | conjunction _ ih =>
    rw [rebase_conjunction, evaluate_conjunction, evaluate_conjunction]
    exact sequential_eq.allM (List.forall₂_map_left_iff.mpr (List.forall₂_same.mpr ih))
  | disjunction _ ih =>
    rw [rebase_disjunction, evaluate_disjunction, evaluate_disjunction]
    exact sequential_eq.anyM (List.forall₂_map_left_iff.mpr (List.forall₂_same.mpr ih))
  | negation _ ih => rw [Predicate.rebase, evaluate, evaluate, ih]
  | any hreaches _ _ _ =>
    obtain ⟨hbehind, hblank⟩ := hreaches.resolve_behind_null hnull conditional
    rw [Predicate.rebase, evaluate_any, evaluate_any, hbehind, hblank]
    rfl

end Predicate

end EntityQuery
