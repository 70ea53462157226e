import EntityQuery.Filter.Json
import EntityQuery.Proofs.Filter.Cast
import EntityQuery.Proofs.Filter.Store

namespace EntityQuery

namespace FilterTree

variable {model : Model} {field other : Field} {tree : FilterTree}

/-- The property filters that are on a field when the filter is built. -/
def propertiesOn (model : Model) (field : Field) (tree : FilterTree) : List PropertyFilter :=
  tree.properties.filter fun filter => model.field? filter.property == some field

/-- The filters on related entities that are on a field when the filter is built. -/
def nestedOn (model : Model) (field : Field) (tree : FilterTree) : List (String × FilterTree) :=
  tree.nested.filter fun entry => model.field? entry.1 == some field

theorem mem_propertiesOn {filter : PropertyFilter} : filter ∈ tree.propertiesOn model field ↔
    filter ∈ tree.properties ∧ model.field? filter.property = some field := by
  rw [propertiesOn, List.mem_filter, beq_iff_eq]

theorem mem_nestedOn {entry : String × FilterTree} : entry ∈ tree.nestedOn model field ↔
    entry ∈ tree.nested ∧ model.field? entry.1 = some field := by
  rw [nestedOn, List.mem_filter, beq_iff_eq]

theorem propertiesOn_clear (name : String) : (tree.clear name).propertiesOn model field =
    (tree.propertiesOn model field).filter fun filter => filter.property != name := by
  simp only [propertiesOn, clear, List.filter_filter, Bool.and_comm]

theorem nestedOn_clear (name : String) : (tree.clear name).nestedOn model field =
    (tree.nestedOn model field).filter fun entry => entry.1 != name := by
  simp only [nestedOn, clear, List.filter_filter, Bool.and_comm]

/-- Clearing what is stored under the name of one field leaves the filters on all others. -/
theorem propertiesOn_clear_other (hfield : model.field? field.name = some field)
    (hother : other ≠ field) :
    (tree.clear field.name).propertiesOn model other = tree.propertiesOn model other := by
  rw [propertiesOn_clear, List.filter_eq_self]
  intro filter hfilter
  refine bne_iff_ne.mpr fun hname => hother ?_
  exact Option.some.inj ((mem_propertiesOn.mp hfilter).2.symm.trans (hname ▸ hfield))

theorem nestedOn_clear_other (hfield : model.field? field.name = some field)
    (hother : other ≠ field) :
    (tree.clear field.name).nestedOn model other = tree.nestedOn model other := by
  rw [nestedOn_clear, List.filter_eq_self]
  intro entry hentry
  refine bne_iff_ne.mpr fun hname => hother ?_
  exact Option.some.inj ((mem_nestedOn.mp hentry).2.symm.trans (hname ▸ hfield))

theorem propertiesOn_add_name (hfield : model.field? field.name = some field)
    (values : List ValueFilter) : (tree.add field.name values).propertiesOn model field =
      tree.propertiesOn model field ++ if values = [] then [] else [⟨field.name, values⟩] := by
  unfold add propertiesOn
  cases values with
  | nil => simp
  | cons value rest => simp [hfield]

theorem nestedOn_add (name : String) (values : List ValueFilter) :
    (tree.add name values).nestedOn model field = tree.nestedOn model field := by
  unfold add
  split <;> rfl

/-- All that is on a field is stored under its name, in the same letter case. -/
structure Spells (model : Model) (field : Field) (tree : FilterTree) : Prop where
  properties : ∀ filter ∈ tree.propertiesOn model field, filter.property = field.name
  nested : ∀ entry ∈ tree.nestedOn model field, entry.1 = field.name

/-- Clearing what is stored under the name of a field leaves nothing on it if all that is on it
    is stored so, and only then. -/
theorem spells_iff : tree.Spells model field ↔
    (tree.clear field.name).propertiesOn model field = [] ∧
      (tree.clear field.name).nestedOn model field = [] := by
  rw [propertiesOn_clear, nestedOn_clear, List.filter_eq_nil_iff, List.filter_eq_nil_iff]
  simp only [bne_iff_ne, ne_eq, not_not]
  exact ⟨fun h => ⟨h.properties, h.nested⟩, fun h => ⟨h.1, h.2⟩⟩

theorem spells_empty : empty.Spells model field := ⟨nofun, nofun⟩

/-- A cast puts everything under the names of fields. -/
theorem spells_cast (schema : Schema) (model : Model) (field : Field) (tree : FilterTree) :
    (tree.cast schema model).Spells model field := by
  rw [cast_eq]
  constructor
  · intro kept hkept
    obtain ⟨hmem, hfound⟩ := mem_propertiesOn.mp hkept
    obtain ⟨filter, -, hcast⟩ := List.mem_filterMap.mp hmem
    obtain ⟨origin, horigin, rfl⟩ := castProperty?_eq_some_iff.mp hcast
    rw [Model.field?_name (filterableField_eq_ok_iff.mp horigin).1] at hfound
    cases hfound
    rfl
  · intro kept hkept
    obtain ⟨hmem, hfound⟩ := mem_nestedOn.mp hkept
    obtain ⟨entry, -, hcast⟩ := List.mem_filterMap.mp hmem
    obtain ⟨origin, inside, horigin, rfl⟩ := castMember?_eq_some_iff.mp hcast
    have horigin := (filterableField_eq_ok_iff.mp (navigableField_eq_ok_iff.mp horigin).1).1
    rw [Model.field?_name horigin] at hfound
    cases hfound
    rfl

namespace Spells

variable (h : tree.Spells model field)

include h

theorem clear (name : String) : (tree.clear name).Spells model field where
  properties filter hfilter := by
    rw [propertiesOn_clear] at hfilter
    exact h.properties filter (List.mem_of_mem_filter hfilter)
  nested entry hentry := by
    rw [nestedOn_clear] at hentry
    exact h.nested entry (List.mem_of_mem_filter hentry)

theorem add (property : String) (values : List ValueFilter) :
    (tree.add (model.canonicalName property) values).Spells model field where
  properties filter hfilter := by
    obtain ⟨hmem, hfound⟩ := mem_propertiesOn.mp hfilter
    rw [FilterTree.add] at hmem
    split at hmem
    case isTrue => exact h.properties filter (mem_propertiesOn.mpr ⟨hmem, hfound⟩)
    case isFalse =>
      rcases List.mem_append.mp hmem with hold | hnew
      · exact h.properties filter (mem_propertiesOn.mpr ⟨hold, hfound⟩)
      · cases List.mem_singleton.mp hnew
        exact Model.canonicalName_eq_name hfound
  nested entry hentry := by
    rw [nestedOn_add] at hentry
    exact h.nested entry hentry

theorem addNested (property : String) (inner : FilterTree) :
    (tree.addNested (model.canonicalName property) inner).Spells model field where
  properties := h.properties
  nested entry hentry := by
    obtain ⟨hmem, hfound⟩ := mem_nestedOn.mp hentry
    rcases List.mem_append.mp hmem with hold | hnew
    · exact h.nested entry (mem_nestedOn.mpr ⟨hold, hfound⟩)
    · cases List.mem_singleton.mp hnew
      exact Model.canonicalName_eq_name hfound

end Spells

end FilterTree

namespace EntityFilter

variable {model : Model} {field : Field}

theorem spells_edited {filter : EntityFilter model} (h : filter.tree.Spells model field)
    (edit : Edit) : (filter.edited edit).tree.Spells model field := by
  cases edit with
  | add property values => exact h.add property values
  | addSyntax current property raw => exact h.add property _
  | replace property values => exact (h.clear _).add property values
  | replaceSyntax current property raw => exact (h.clear _).add property _
  | clear property => exact h.clear _
  | clearAll => exact ⟨nofun, nofun⟩
  | addNested property inner => exact h.addNested property inner.tree
  | replaceNested property inner => exact (h.clear _).addNested property inner.tree

/-- A filter that began without anything or as a cast of another one, and that was changed by
    edits, settings and rules. -/
inductive Made (schema : Schema) : EntityFilter model → Prop
  | empty : Made schema empty
  | cast {source : Model} (origin : EntityFilter source) : Made schema (origin.cast schema model)
  | edited {filter} (h : Made schema filter) (edit : Edit) : Made schema (filter.edited edit)
  | withSettings {filter} (h : Made schema filter) (settings : FilterSettings) :
    Made schema (filter.withSettings settings)
  | withInterceptor {filter} (h : Made schema filter) (rule : Interceptor) :
    Made schema (filter.withInterceptor rule)

theorem Made.spells {schema : Schema} {filter : EntityFilter model} (h : Made schema filter) :
    filter.tree.Spells model field := by
  induction h with
  | empty => exact FilterTree.spells_empty
  | cast origin => exact FilterTree.spells_cast schema model field origin.tree
  | edited _ edit ih => exact spells_edited ih edit
  | withSettings _ _ ih => exact ⟨ih.properties, ih.nested⟩
  | withInterceptor _ _ ih => exact ⟨ih.properties, ih.nested⟩

/-- Clearing a property leaves nothing on its field exactly if all that is on the field is stored
    under the field's name, as it always is in a filter that began empty or as a cast. What is
    stored under the name in another letter case, as a filter that was read from a text may have
    it, stays there, and the values that replace a property come behind it. Filters on other fields
    stay in any case. -/
theorem clear_removes_iff (schema : Schema) (filter : EntityFilter model) {property : String}
    (hfield : model.field? property = some field) :
    ((filter.clear property).tree.propertiesOn model field = [] ∧
      (filter.clear property).tree.nestedOn model field = [] ↔ filter.tree.Spells model field) ∧
    (filter.Made schema → filter.tree.Spells model field) ∧
    (filter.clear property).tree.propertiesOn model field =
      (filter.tree.propertiesOn model field).filter (fun kept => kept.property != field.name) ∧
    (filter.clear property).tree.nestedOn model field =
      (filter.tree.nestedOn model field).filter (fun kept => kept.1 != field.name) ∧
    (∀ values, (filter.replace property values).tree.propertiesOn model field =
        (filter.clear property).tree.propertiesOn model field ++
          (if values = [] then [] else [⟨field.name, values⟩]) ∧
      (filter.replace property values).tree.nestedOn model field =
        (filter.clear property).tree.nestedOn model field) ∧
    ∀ other, other ≠ field →
      (filter.clear property).tree.propertiesOn model other =
        filter.tree.propertiesOn model other ∧
      (filter.clear property).tree.nestedOn model other = filter.tree.nestedOn model other := by
  have hname := Model.field?_name hfield
  have hclear : (filter.clear property).tree = filter.tree.clear field.name := by
    rw [clear, Model.canonicalName_of_field? hfield]
  have hreplace (values : List ValueFilter) : (filter.replace property values).tree =
      (filter.tree.clear field.name).add field.name values := by
    rw [replace, Model.canonicalName_of_field? hfield]
    rfl
  rw [hclear]
  refine ⟨FilterTree.spells_iff.symm, Made.spells, FilterTree.propertiesOn_clear _,
    FilterTree.nestedOn_clear _, fun values => ?_, fun other hother => ?_⟩
  · rw [hreplace]
    exact ⟨FilterTree.propertiesOn_add_name hname values, FilterTree.nestedOn_add _ values⟩
  · exact ⟨FilterTree.propertiesOn_clear_other hname hother,
      FilterTree.nestedOn_clear_other hname hother⟩

end EntityFilter

namespace Teams

def name : Field := { name := "Name", kind := .text }

def likeAnn : ValueFilter := .create .contains "Ann"

/-- A stored filter on `Name` that begins it with a small letter. -/
def respelled : String :=
  Json.render (.ofMembers [("propertyFilters", .array [.ofMembers [("propertyName", .string "name"),
    ("valueFilters", .array [.ofMembers [("operator", .string "Contains"),
      ("value", .string "Ann")]])]])])

end Teams

namespace EntityFilter

/-- What was added under one spelling is removed under another one. -/
theorem clear_removes_iff_made :
    let filter := (empty : EntityFilter Teams.person).add "NAME" [Teams.likeAnn]
    (filter.clear "name").tree.propertiesOn Teams.person Teams.name = [] ∧
      (filter.replace "name" [.notNull]).tree.propertiesOn Teams.person Teams.name =
        [⟨"Name", [.notNull]⟩] := by
  intro filter
  have hfield : Teams.person.field? "name" = some Teams.name := by decide
  obtain ⟨hiff, hmade, -, -, hreplace, -⟩ := clear_removes_iff Teams.schema filter hfield
  have hcleared := (hiff.mpr (hmade (.edited .empty (.add "NAME" [Teams.likeAnn])))).1
  refine ⟨hcleared, ?_⟩
  rw [(hreplace [.notNull]).1, hcleared]
  rfl

/-- A stored filter keeps the spelling that it has in its text. What is on a property under that
    is not removed with the property: it still refuses entities, and stays beside what the property
    is replaced by. -/
theorem clear_keeps_respelled :
    ∃ (filter : EntityFilter Teams.person) (compiled : CompiledFilter),
      ofJsonText? ⟨⟨0, by decide⟩, .midnight⟩ Teams.respelled = some filter ∧
      Teams.person.field? "Name" = some Teams.name ∧
      (filter.clear "Name").tree.propertiesOn Teams.person Teams.name =
        [⟨"name", [Teams.likeAnn]⟩] ∧
      (filter.clear "Name").compileWith Teams.schema (Teams.settings .always) = .ok compiled ∧
      compiled.evaluate Teams.bob = .ok false ∧
      (filter.replace "Name" [.notNull]).tree.propertiesOn Teams.person Teams.name =
        [⟨"name", [Teams.likeAnn]⟩, ⟨"Name", [.notNull]⟩] := by
  let filter : EntityFilter Teams.person := ⟨⟨[⟨"name", [Teams.likeAnn]⟩], [], none, none⟩⟩
  refine ⟨filter, _, ?_, by decide, by decide, rfl, rfl, by decide⟩
  rw [ofJsonText?, FilterTree.ofJsonText?, Json.read?, Teams.respelled, Json.render,
    String.toList_ofList]
  rfl

end EntityFilter

end EntityQuery
