import EntityQuery.Model
import EntityQuery.Proofs.Access
import EntityQuery.Proofs.Condition

namespace EntityQuery

mutual

/-- An entity has, for each field of its type, a value that fits the field. -/
inductive Conforms (schema : Schema) : Model → Entity → Prop
  | intro {model entity}
    (hfits : ∀ field ∈ model.fields, Fits schema field (entity.get field.name)) :
    Conforms schema model entity

/-- A value is of a field's kind, or is null and the field may be null. -/
inductive Fits (schema : Schema) : Field → Value → Prop
  | null {field} (hnullable : field.nullable = true) : Fits schema field .null
  | value {field value} (hkind : HasKind schema field.kind value) : Fits schema field value

/-- A value is of a kind. Members of an enumeration are given by their numbers, and related
    entities conform to their type. -/
inductive HasKind (schema : Schema) : FieldKind → Value → Prop
  | text (value) : HasKind schema .text (.text value)
  | bool (value) : HasKind schema .bool (.bool value)
  | int (value) : HasKind schema .int (.int value)
  | float (value) : HasKind schema .float (.float value)
  | dateTime (value) : HasKind schema .dateTime (.dateTime value)
  | guid (value) : HasKind schema .guid (.guid value)
  | enumeration (members value) : HasKind schema (.enumeration members) (.int value)
  | other (typeName value) : HasKind schema (.other typeName) (.other value)
  | navigation {target related} (hrelated : Conforms schema (schema.model target) related) :
    HasKind schema (.navigation target) (.object related)
  | collection {target items}
    (hitems : ∀ item ∈ items, Conforms schema (schema.model target) item) :
    HasKind schema (.collection target) (.list items)

end

variable {schema : Schema} {model : Model} {field : Field} {entity : Entity}

theorem Conforms.fits (h : Conforms schema model entity) (hfield : field ∈ model.fields) :
    Fits schema field (entity.get field.name) := by
  cases h with
  | intro hfits => exact hfits field hfield

/-- The value of a field with texts is null or has a text. -/
theorem Fits.isNull_or_asText {value : Value} (h : Fits schema field value)
    (htextual : field.kind.IsTextual) : value = .null ∨ ∃ text, value.asText? = some text := by
  cases h with
  | null _ => exact .inl rfl
  | value hkind =>
    generalize field.kind = kind at hkind htextual
    cases hkind with
    | text value | other _ value => exact .inr ⟨value, rfl⟩
    | _ => cases htextual

theorem Fits.navigation {value : Value} {target : String} (h : Fits schema field value)
    (hfield : field.kind = .navigation target) :
    (value = .null ∧ field.nullable = true) ∨
      ∃ related, value = .object related ∧ Conforms schema (schema.model target) related := by
  cases h with
  | null hnullable => exact .inl ⟨rfl, hnullable⟩
  | value hkind =>
    rw [hfield] at hkind
    cases hkind with
    | navigation hrelated => exact .inr ⟨_, rfl, hrelated⟩

theorem Fits.collection {value : Value} {target : String} (h : Fits schema field value)
    (hfield : field.kind = .collection target) :
    value = .null ∨
      ∃ items, value = .list items ∧
        ∀ item ∈ items, Conforms schema (schema.model target) item := by
  cases h with
  | null _ => exact .inl rfl
  | value hkind =>
    rw [hfield] at hkind
    cases hkind with
    | collection hitems => exact .inr ⟨_, rfl, hitems⟩

/-- A value that fits its field is tested without a fault. -/
theorem PropertyContext.admits_evaluates (hfits : Fits schema field (entity.get field.name))
    (model : Model) (settings : FilterSettings) (guarded : Bool) :
    (ofField model field settings).Admits fun predicate =>
      Predicate.Evaluates guarded predicate entity where
  toSimplifiable := Predicate.simplifiable_evaluates guarded entity
  comparison kind value := ⟨_, rfl⟩
  textMatch htextual kind value ignoreCase := by
    rw [Predicate.Evaluates, Predicate.evaluate, ofField, Access.resolve_member]
    exact Predicate.textHolds_ok _ _ _ _ (hfits.isNull_or_asText htextual)
  isNull := ⟨_, rfl⟩
  notNull := ⟨_, rfl⟩

end EntityQuery
