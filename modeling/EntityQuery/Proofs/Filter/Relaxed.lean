import EntityQuery.Proofs.Filter.Typing

namespace EntityQuery

def Field.relaxed (field : Field) : Field := { field with nullable := true }

def Model.relaxed (model : Model) : Model := { model with fields := model.fields.map .relaxed }

/-- The same types, but with values that may all be null. An entity without properties conforms to
    each of them. -/
def Schema.relaxed (schema : Schema) : Schema := ⟨schema.models.map .relaxed⟩

variable {schema : Schema} {model : Model} {field : Field}

theorem Schema.model_relaxed (schema : Schema) (name : String) :
    schema.relaxed.model name = (schema.model name).relaxed := by
  have hname : ((fun model : Model => model.name == name) ∘ Model.relaxed) =
      fun model => model.name == name := rfl
  rw [Schema.model, Schema.model, Schema.relaxed, List.find?_map, hname]
  cases schema.models.find? fun model => model.name == name <;> rfl

theorem Model.mem_fields_relaxed (hfield : field ∈ model.fields) :
    field.relaxed ∈ model.relaxed.fields := List.mem_map_of_mem hfield

mutual

theorem Conforms.relaxed {model : Model} {entity : Entity} :
    Conforms schema model entity → Conforms schema.relaxed model.relaxed entity
  | .intro hfits => .intro fun relaxed hrelaxed => by
    obtain ⟨field, hfield, rfl⟩ := List.mem_map.mp hrelaxed
    exact (hfits field hfield).relaxed

theorem Fits.relaxed {field : Field} {value : Value} :
    Fits schema field value → Fits schema.relaxed field.relaxed value
  | .null _ => .null rfl
  | .value hkind => .value hkind.relaxed

theorem HasKind.relaxed {kind : FieldKind} {value : Value} :
    HasKind schema kind value → HasKind schema.relaxed kind value
  | .text value => .text value
  | .bool value => .bool value
  | .int value => .int value
  | .float value => .float value
  | .dateTime value => .dateTime value
  | .guid value => .guid value
  | .enumeration members value => .enumeration members value
  | .other typeName value => .other typeName value
  | .navigation hrelated => .navigation (schema.model_relaxed _ ▸ hrelated.relaxed)
  | .collection hitems => .collection fun item hitem =>
    schema.model_relaxed _ ▸ (hitems item hitem).relaxed

end

theorem conforms_blank (schema : Schema) (model : Model) :
    Conforms schema model.relaxed (.ofProperties []) := by
  refine .intro fun relaxed hrelaxed => ?_
  obtain ⟨field, -, rfl⟩ := List.mem_map.mp hrelaxed
  exact .null rfl

namespace FilterTree

variable {allowed : Field → Bool} {target : String} {settings : FilterSettings} {entity : Entity}

/-- What an attached condition tells of an entity comes from what the condition tells of entities
    that the field may lead to. Where a missing one is not checked for, that is an entity without
    properties. -/
theorem exists_attach_decides (htarget : field.kind.target? = some target)
    (hfits : Fits schema.relaxed field.relaxed (entity.get field.name)) (settings : FilterSettings)
    (asked : Entity → Prop) :
    ∃ askedHere : Entity → Prop, ∀ inner : Predicate,
      inner.Typed schema allowed (schema.model target) →
      (∀ related, Conforms schema.relaxed (schema.model target).relaxed related →
        inner.Decides asked related) →
      (attach field settings inner).Decides askedHere entity := by
  rw [← schema.model_relaxed]
  rcases FieldKind.target?_eq_some_iff.mp htarget with hkind | hkind
  · rcases hfits.navigation hkind with ⟨hmissing, -⟩ | ⟨related, hrelated, hconforms⟩
    · cases hchecked : field.nullable && settings.conditionalAccess.guardsEvaluation with
      | true => exact ⟨field.LeadsTo asked, fun inner _ _ =>
          attach_missing_decides hkind hmissing hchecked inner asked⟩
      | false =>
        refine ⟨fun _ => asked (.ofProperties []), fun inner htyped hinner => ?_⟩
        have hblank := hinner _ (schema.model_relaxed target ▸ conforms_blank _ _)
        simp only [attach, hkind, FieldKind.isCollection, hchecked, Bool.false_eq_true, if_false]
        rwa [Predicate.Decides, Predicate.Evaluates, Predicate.Accepts,
          htyped.evaluate_behind_null hmissing]
    · exact ⟨field.LeadsTo asked, fun inner _ hinner =>
        attach_navigation_decides hkind hrelated (hinner related hconforms)⟩
  · refine ⟨field.LeadsTo asked, fun inner _ hinner => attach_collection_decides hkind ?_⟩
    refine (hfits.collection hkind).imp_right ?_
    rintro ⟨items, hvalue, hconforms⟩
    exact ⟨items, hvalue, fun item hitem => hinner item (hconforms item hitem)⟩

end FilterTree

end EntityQuery
