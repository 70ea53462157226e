import EntityQuery.Proofs.Predicate.Typing

namespace EntityQuery

mutual

/-- Two entities of a type hold the same in all fields that are shown. -/
inductive Agree (schema : Schema) (shown : Field → Bool) : Model → Entity → Entity → Prop
  | intro {model entity other}
    (hfields : ∀ field ∈ model.fields, shown field = true →
      SameValue schema shown field.kind (entity.get field.name) (other.get field.name)) :
    Agree schema shown model entity other

/-- Two values of a kind are the same, but for what related entities do not show. -/
inductive SameValue (schema : Schema) (shown : Field → Bool) : FieldKind → Value → Value → Prop
  | same {kind} (value) : SameValue schema shown kind value value
  | object {kind target entity other} (htarget : kind.target? = some target)
    (hrelated : Agree schema shown (schema.model target) entity other) :
    SameValue schema shown kind (.object entity) (.object other)
  | list {kind target items others} (htarget : kind.target? = some target)
    (hitems : AgreeAll schema shown (schema.model target) items others) :
    SameValue schema shown kind (.list items) (.list others)

/-- The entities of two lists agree one by one. -/
inductive AgreeAll (schema : Schema) (shown : Field → Bool) :
    Model → List Entity → List Entity → Prop
  | nil {model} : AgreeAll schema shown model [] []
  | cons {model entity other items others} (hfirst : Agree schema shown model entity other)
    (hrest : AgreeAll schema shown model items others) :
    AgreeAll schema shown model (entity :: items) (other :: others)

end

variable {schema : Schema} {shown : Field → Bool} {model : Model} {target : String}
  {field : Field} {entity other : Entity} {guarded : Bool}

theorem Agree.fields (h : Agree schema shown model entity other) (hfield : field ∈ model.fields)
    (hshown : shown field = true) :
    SameValue schema shown field.kind (entity.get field.name) (other.get field.name) := by
  cases h with
  | intro hfields => exact hfields field hfield hshown

theorem Agree.refl (schema : Schema) (shown : Field → Bool) (model : Model) (entity : Entity) :
    Agree schema shown model entity entity := .intro fun _ _ _ => .same _

theorem AgreeAll.forall₂ {items others : List Entity}
    (h : AgreeAll schema shown model items others) :
    List.Forall₂ (Agree schema shown model) items others := by
  induction items generalizing others with
  | nil =>
    cases h
    exact .nil
  | cons entity rest ih =>
    cases h with
    | cons hfirst hrest => exact .cons hfirst (ih hrest)

namespace SameValue

variable {kind : FieldKind} {value actual : Value}

/-- Values of a kind without entities have nothing that is not shown. -/
theorem eq_of_isScalar (h : SameValue schema shown kind value actual)
    (hscalar : kind.isScalar = true) : value = actual := by
  cases h with
  | same => rfl
  | object htarget _ | list htarget _ => simp [FieldKind.isScalar, htarget] at hscalar

theorem isNull_eq (h : SameValue schema shown kind value actual) :
    value.isNull = actual.isNull := by
  cases h <;> rfl

/-- A comparison with a constant does not look into entities. -/
theorem holds_eq (h : SameValue schema shown kind value actual) (comparison : Comparison)
    (constant : Scalar) : comparison.holds value constant = comparison.holds actual constant := by
  cases h with
  | same => rfl
  | object | list => cases constant <;> rfl

theorem textHolds_eq (h : SameValue schema shown kind value actual) (access : Access)
    (wanted : TextMatch) (text : String) (ignoreCase : Bool) :
    Predicate.textHolds access wanted text ignoreCase value =
      Predicate.textHolds access wanted text ignoreCase actual := by
  cases h <;> rfl

/-- The entities of a collection agree one by one. -/
theorem itemsOf_alike (h : SameValue schema shown (.collection target) value actual)
    (collection : Access) :
    Alike (List.Forall₂ (Agree schema shown (schema.model target)))
      (Predicate.itemsOf collection guarded value)
      (Predicate.itemsOf collection guarded actual) := by
  cases h with
  | same =>
    exact Alike.refl fun items _ => List.forall₂_same.mpr fun item _ => Agree.refl _ _ _ item
  | object => exact .error _
  | list htarget hitems =>
    cases htarget
    exact .ok hitems.forall₂

end SameValue

/-- A path along fields that are shown ends in the same way for entities that agree. -/
theorem Access.Reaches.resolve_alike {access : Access}
    (hreaches : access.Reaches schema shown model field)
    (hagree : Agree schema shown model entity other) :
    Alike (SameValue schema shown field.kind) (access.resolve entity guarded)
      (access.resolve other guarded) := by
  suffices hfollow : ∀ passed guard, Alike (SameValue schema shown field.kind)
      (follow guarded passed guard (.object entity) access.segments)
      (follow guarded passed guard (.object other) access.segments) from hfollow [] true
  induction hreaches generalizing entity other with
  | last hfield hshown _ => exact fun _ _ => .ok (hagree.fields hfield hshown)
  | step hhop hshown hkind _ hrest ih =>
    -- The next step starts at equal values, at entities that agree, or at lists and fails.
    intro passed guard
    have hsame := hagree.fields hhop hshown
    rw [follow, follow]
    generalize entity.get _ = value, other.get _ = actual at hsame
    cases hsame with
    | same => exact Alike.refl fun value _ => .same value
    | object htarget hrelated =>
      rw [hkind] at htarget
      cases htarget
      exact ih hrelated _ _
    | list => cases hrest <;> exact .error _

/-- A predicate that reads only fields that are shown is evaluated alike on entities that agree
    in them, faults included. -/
theorem Predicate.Typed.evaluate_eq {predicate : Predicate}
    (htyped : predicate.Typed schema shown model) (hagree : Agree schema shown model entity other) :
    predicate.evaluate guarded entity = predicate.evaluate guarded other := by
  induction htyped generalizing entity other with
  | everything | nothing => rfl
  | comparison hreaches =>
    exact (hreaches.resolve_alike hagree).bind_eq fun _ _ hsame => by rw [hsame.holds_eq]
  | textMatch hreaches _ =>
    exact (hreaches.resolve_alike hagree).bind_eq fun _ _ hsame => hsame.textHolds_eq _ _ _ _
  | isNull hreaches | notNull hreaches =>
    exact (hreaches.resolve_alike hagree).bind_eq fun _ _ hsame => by rw [hsame.isNull_eq]
  | conjunction _ ih =>
    rw [evaluate_conjunction, evaluate_conjunction]
    exact sequential_eq.allM_of_mem fun part hpart => ih part hpart hagree
  | disjunction _ ih =>
    rw [evaluate_disjunction, evaluate_disjunction]
    exact sequential_eq.anyM_of_mem fun part hpart => ih part hpart hagree
  | negation _ ih => rw [evaluate, evaluate, ih hagree]
  | any hreaches hkind _ ih =>
    rw [evaluate_any, evaluate_any]
    refine (hreaches.resolve_alike hagree).bind_eq fun value actual hsame => ?_
    rw [hkind] at hsame
    refine (hsame.itemsOf_alike _).bind_eq fun items others hitems => ?_
    exact sequential_eq.anyM (hitems.imp fun _ _ hrelated => ih hrelated)

end EntityQuery
