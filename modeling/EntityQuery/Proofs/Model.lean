import EntityQuery.Model
import EntityQuery.Proofs.Text
import Mathlib.Data.List.Basic
import Mathlib.Data.Option.Basic

namespace EntityQuery

theorem FieldKind.target?_eq_some_iff {kind : FieldKind} {target : String} :
    kind.target? = some target ↔ kind = .navigation target ∨ kind = .collection target := by
  cases kind <;> simp [FieldKind.target?]

namespace Model

variable {model : Model} {name : String} {field : Field}

private theorem mem_fields_of_exactField? (hfield : model.exactField? name = some field) :
    field ∈ model.fields := List.mem_of_find?_eq_some hfield

theorem field?_eq_some_iff :
    model.field? name = some field ↔ model.exactField? name = some field ∨
      model.exactField? name = none ∧ model.fields.find? (fun field =>
        Text.sameIgnoringCase field.name.toList name.toList) = some field :=
  Option.orElse_eq_some _ _ _

theorem mem_fields_of_field? (hfield : model.field? name = some field) :
    field ∈ model.fields := by
  rcases field?_eq_some_iff.mp hfield with hexact | ⟨-, hfound⟩
  · exact mem_fields_of_exactField? hexact
  · exact List.mem_of_find?_eq_some hfound

theorem mem_fields_of_fieldInCase? {ignoreCase : Bool}
    (hfield : model.fieldInCase? name ignoreCase = some field) : field ∈ model.fields := by
  cases ignoreCase with
  | true => exact mem_fields_of_field? hfield
  | false => exact mem_fields_of_exactField? hfield

private theorem name_of_exactField? (hfield : model.exactField? name = some field) :
    field.name = name := by
  simpa using List.find?_some hfield

private theorem sameIgnoringCase_of_field? (hfield : model.field? name = some field) :
    Text.sameIgnoringCase field.name.toList name.toList = true := by
  rcases field?_eq_some_iff.mp hfield with hexact | ⟨-, hfound⟩
  · rw [name_of_exactField? hexact]
    exact Text.sameIgnoringCase_refl name.toList
  · have hsame := List.find?_some hfound
    exact hsame

/-- The first element with a property is also the first one with a stronger property that it
    has. -/
private theorem find?_of_imp {α : Type} {p q : α → Bool} {xs : List α} {x : α}
    (hfind : xs.find? p = some x) (hq : q x = true) (himp : ∀ y ∈ xs, q y = true → p y = true) :
    xs.find? q = some x := by
  obtain ⟨-, before, after, rfl, hbefore⟩ := List.find?_eq_some_iff_append.mp hfind
  refine List.find?_eq_some_iff_append.mpr ⟨hq, before, after, rfl, fun y hy => ?_⟩
  cases hqy : q y with
  | false => rfl
  | true =>
    have hrefused := hbefore y hy
    rw [himp y (List.mem_append_left _ hy) hqy] at hrefused
    cases hrefused

/-- A field that a name refers to is the one that its own name refers to, in every letter
    case. -/
theorem exactField?_name (hfield : model.field? name = some field) :
    model.exactField? field.name = some field := by
  have hsame := sameIgnoringCase_of_field? hfield
  rcases field?_eq_some_iff.mp hfield with hexact | ⟨-, hfound⟩
  · rw [name_of_exactField? hexact, hexact]
  · refine find?_of_imp hfound (by simp) fun other _ hother => ?_
    have hname : other.name = field.name := by simpa using hother
    rw [hname]
    exact hsame

theorem field?_name (hfield : model.field? name = some field) :
    model.field? field.name = some field :=
  field?_eq_some_iff.mpr (.inl (exactField?_name hfield))

theorem canonicalName_of_field? (hfield : model.field? name = some field) :
    model.canonicalName name = field.name := by
  rw [canonicalName, hfield]
  rfl

theorem canonicalName_canonicalName (model : Model) (name : String) :
    model.canonicalName (model.canonicalName name) = model.canonicalName name := by
  cases hfield : model.field? name with
  | none => simp [canonicalName, hfield]
  | some field =>
    rw [canonicalName_of_field? hfield, canonicalName_of_field? (field?_name hfield)]

/-- A canonical name that refers to a field is its name. -/
theorem canonicalName_eq_name (hfield : model.field? (model.canonicalName name) = some field) :
    model.canonicalName name = field.name := by
  rw [← canonicalName_canonicalName, canonicalName_of_field? hfield]

/-- What is found with letter case told apart is found without as well. -/
theorem field?_of_fieldInCase? {ignoreCase : Bool}
    (hfield : model.fieldInCase? name ignoreCase = some field) :
    model.field? name = some field := by
  cases ignoreCase with
  | true => exact hfield
  | false => exact field?_eq_some_iff.mpr (.inl hfield)

theorem sameIgnoringCase_of_fieldInCase? {ignoreCase : Bool}
    (hfield : model.fieldInCase? name ignoreCase = some field) :
    Text.sameIgnoringCase field.name.toList name.toList = true :=
  sameIgnoringCase_of_field? (field?_of_fieldInCase? hfield)

/-- The name of a field that was found leads to the same field, whether or not letter case is
    told apart then. -/
theorem fieldInCase?_name {ignoreCase : Bool}
    (hfield : model.fieldInCase? name ignoreCase = some field) (other : Bool) :
    model.fieldInCase? field.name other = some field := by
  have hfound := field?_of_fieldInCase? hfield
  cases other with
  | true => exact field?_name hfound
  | false => exact exactField?_name hfound

end Model

end EntityQuery
