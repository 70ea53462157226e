import EntityQuery.Filter.Entity
import EntityQuery.Proofs.Filter.Build

namespace EntityQuery

namespace FilterTree

variable (tree inner : FilterTree) (property name : String) (values : List ValueFilter)

/-- All value filters under a name, from every addition. -/
def valuesOf (tree : FilterTree) (name : String) : List ValueFilter :=
  (tree.properties.filter fun filter => filter.property == name).flatMap (·.values)

theorem values?_eq : tree.values? name =
    if (tree.valuesOf name).isEmpty then none else some (tree.valuesOf name) := rfl

@[simp]
theorem valuesOf_add : (tree.add property values).valuesOf name =
    tree.valuesOf name ++ if property = name then values else [] := by
  unfold add valuesOf
  cases values with
  | nil => simp
  | cons value rest => by_cases hname : property = name <;> simp [hname]

@[simp]
theorem valuesOf_clear : (tree.clear property).valuesOf name =
    if property = name then [] else tree.valuesOf name := by
  unfold clear valuesOf
  rw [List.filter_filter]
  split
  case isTrue hname =>
    subst hname
    simp
  case isFalse hname =>
    congr 1
    refine List.filter_congr fun filter _ => ?_
    by_cases hfilter : filter.property = name
    · simp [hfilter, Ne.symm hname]
    · simp [hfilter]

@[simp]
theorem valuesOf_addNested : (tree.addNested property inner).valuesOf name = tree.valuesOf name :=
  rfl

@[simp]
theorem settings_add : (tree.add property values).settings = tree.settings := by
  unfold add
  split <;> rfl

@[simp]
theorem settings_clear : (tree.clear property).settings = tree.settings := rfl

@[simp]
theorem settings_addNested : (tree.addNested property inner).settings = tree.settings := rfl

@[simp]
theorem nested?_add : (tree.add property values).nested? name = tree.nested? name := by
  unfold add
  split <;> rfl

@[simp]
theorem nested?_clear : (tree.clear property).nested? name =
    if property = name then none else tree.nested? name := by
  rw [clear, nested?, nested?]
  induction tree.nested with
  | nil => simp
  | cons entry rest ih =>
    by_cases hentry : entry.1 = property
    · have hother : property ≠ name → (name == entry.1) = false := by
        simpa [hentry] using Ne.symm
      rw [List.filter_cons_of_neg (by simp [hentry]), ih, List.lookup_cons]
      split
      case isTrue => rfl
      case isFalse hname => rw [hother hname]
    · rw [List.filter_cons_of_pos (by simp [hentry]), List.lookup_cons, List.lookup_cons, ih]
      by_cases hname : property = name
      · have hnot : (name == entry.1) = false := by simpa [← hname] using Ne.symm hentry
        rw [hnot, if_pos hname]
      · simp only [if_neg hname]

@[simp]
theorem nested?_addNested : (tree.addNested property inner).nested? name =
    (tree.nested? name).or (if property = name then some inner else none) := by
  unfold addNested nested?
  rw [List.lookup_append]
  by_cases hname : property = name
  · simp [hname]
  · have hnot : (name == property) = false := by simpa using Ne.symm hname
    simp [hname, List.lookup_cons, hnot]

/-- Everything is stored under canonical names, and there are values under each. -/
structure Stored (model : Model) (tree : FilterTree) : Prop where
  properties : ∀ filter ∈ tree.properties,
    model.canonicalName filter.property = filter.property ∧ filter.values ≠ []
  nested : ∀ entry ∈ tree.nested, model.canonicalName entry.1 = entry.1

namespace Stored

variable {model : Model} {tree : FilterTree} {property : String} (h : tree.Stored model)

include h

theorem add (hname : model.canonicalName property = property) (values : List ValueFilter) :
    (tree.add property values).Stored model := by
  unfold FilterTree.add
  split
  case isTrue => exact h
  case isFalse hvalues =>
    refine ⟨List.forall_mem_append.mpr ⟨h.properties, ?_⟩, h.nested⟩
    exact List.forall_mem_singleton.mpr ⟨hname, by simpa using hvalues⟩

theorem clear (property : String) : (tree.clear property).Stored model where
  properties filter hfilter := h.properties filter (List.mem_of_mem_filter hfilter)
  nested entry hentry := h.nested entry (List.mem_of_mem_filter hentry)

theorem addNested (hname : model.canonicalName property = property) (inner : FilterTree) :
    (tree.addNested property inner).Stored model where
  properties := h.properties
  nested := List.forall_mem_append.mpr ⟨h.nested, List.forall_mem_singleton.mpr hname⟩

end Stored

end FilterTree

/-- A call that changes a filter. A text is read under the settings that are current then. -/
inductive Edit where
  | add (property : String) (values : List ValueFilter)
  | addSyntax (current : FilterSettings) (property raw : String)
  | replace (property : String) (values : List ValueFilter)
  | replaceSyntax (current : FilterSettings) (property raw : String)
  | clear (property : String)
  | clearAll
  | addNested {inside : Model} (property : String) (inner : EntityFilter inside)
  | replaceNested {inside : Model} (property : String) (inner : EntityFilter inside)

namespace Edit

def property? : Edit → Option String
  | add property _ | addSyntax _ property _ | replace property _ | replaceSyntax _ property _
  | clear property | addNested property _ | replaceNested property _ => some property
  | clearAll => none

/-- The value filters that the edit puts under its property. -/
def values : Edit → List ValueFilter
  | add _ values | replace _ values => values
  | addSyntax current _ raw | replaceSyntax current _ raw => ValueFilter.ofSyntax current raw
  | clear _ | clearAll | addNested _ _ | replaceNested _ _ => []

/-- The filter on related entities that the edit puts under its property. -/
def inner? : Edit → Option FilterTree
  | addNested _ inner | replaceNested _ inner => some inner.tree
  | _ => none

/-- Whether the edit first removes what is there. -/
def resets : Edit → Bool
  | add _ _ | addSyntax _ _ _ | addNested _ _ => false
  | _ => true

/-- Whether the edit is one of what is under a canonical name. -/
def concerns (model : Model) (name : String) (edit : Edit) : Bool :=
  edit.property?.all fun property => model.canonicalName property == name

/-- The edits that no later one resets. -/
def sinceReset : List Edit → List Edit
  | [] => []
  | edit :: rest => if rest.any resets then sinceReset rest else edit :: rest

/-- The edits of what is under a canonical name, from the last one that resets it. -/
def effective (model : Model) (name : String) (edits : List Edit) : List Edit :=
  sinceReset (edits.filter (concerns model name))

private theorem sinceReset_append_singleton (edits : List Edit) (edit : Edit) :
    sinceReset (edits ++ [edit]) = if edit.resets then [edit] else sinceReset edits ++ [edit] := by
  induction edits with
  | nil => simp [sinceReset]
  | cons first rest ih =>
    rw [List.cons_append, sinceReset, List.any_append, List.any_cons, List.any_nil, Bool.or_false,
      ih, sinceReset]
    cases edit.resets with
    | true => simp
    | false => cases rest.any resets <;> simp

theorem effective_append_singleton (model : Model) (name : String) (edits : List Edit)
    (edit : Edit) :
    effective model name (edits ++ [edit]) =
      if edit.concerns model name then
        if edit.resets then [edit] else effective model name edits ++ [edit]
      else effective model name edits := by
  rw [effective, List.filter_append, List.filter_cons, List.filter_nil]
  split
  · rw [sinceReset_append_singleton, effective]
  · rw [List.append_nil, effective]

end Edit

namespace EntityFilter

variable {model : Model}

/-- The filter after an edit. -/
def edited (filter : EntityFilter model) : Edit → EntityFilter model
  | .add property values => filter.add property values
  | .addSyntax current property raw => filter.addSyntax current property raw
  | .replace property values => filter.replace property values
  | .replaceSyntax current property raw => filter.replaceSyntax current property raw
  | .clear property => filter.clear property
  | .clearAll => filter.clearAll
  | .addNested property inner => filter.addNested property inner
  | .replaceNested property inner => filter.replaceNested property inner

/-- The filter that edits of a new one lead to. -/
def ofEdits (model : Model) (edits : List Edit) : EntityFilter model := edits.foldl edited empty

theorem ofEdits_append_singleton (edits : List Edit) (edit : Edit) :
    ofEdits model (edits ++ [edit]) = (ofEdits model edits).edited edit := List.foldl_concat ..

variable {filter : EntityFilter model}

/-- An edit removes everything, or else it works under one canonical name: it removes what is there
    if it is one that resets, and adds its value filters and its filter on related entities. -/
theorem edited_cases (hown : filter.tree.settings = none) (edit : Edit) :
    (edit = .clearAll ∧ (filter.edited edit).tree = filter.tree.clearAll) ∨
    ∃ property added, edit.property? = some property ∧
      added = (if edit.resets then filter.tree.clear (model.canonicalName property)
        else filter.tree).add (model.canonicalName property) edit.values ∧
      (filter.edited edit).tree =
        edit.inner?.elim added (added.addNested (model.canonicalName property)) := by
  -- Texts are read under the current settings, as the filter has none of its own.
  have hsettings (current : FilterSettings) : filter.tree.effectiveSettings current = current := by
    rw [FilterTree.effectiveSettings, hown, Option.getD_none]
  cases edit with
  | clearAll => exact .inl ⟨rfl, rfl⟩
  | addSyntax current property raw =>
    refine .inr ⟨property, _, rfl, rfl, ?_⟩
    rw [edited, addSyntax, hsettings]
    rfl
  | replaceSyntax current property raw =>
    refine .inr ⟨property, _, rfl, rfl, ?_⟩
    rw [edited, replaceSyntax, hsettings]
    rfl
  | _ => exact .inr ⟨_, _, rfl, rfl, rfl⟩

theorem settings_edited (hown : filter.tree.settings = none) (edit : Edit) :
    (filter.edited edit).tree.settings = none := by
  rcases edited_cases hown edit with ⟨-, htree⟩ | ⟨property, added, -, rfl, htree⟩
  · rw [htree]
    exact hown
  · rw [htree]
    cases edit.inner? <;> cases edit.resets <;> simp [hown]

theorem valuesOf_edited (hown : filter.tree.settings = none) (edit : Edit) (name : String) :
    (filter.edited edit).tree.valuesOf name =
      if edit.concerns model name then
        (if edit.resets then [] else filter.tree.valuesOf name) ++ edit.values
      else filter.tree.valuesOf name := by
  rcases edited_cases hown edit with ⟨rfl, htree⟩ | ⟨property, added, hproperty, rfl, htree⟩
  · rw [htree]
    rfl
  · rw [htree, Edit.concerns, hproperty]
    cases edit.inner? <;> cases edit.resets <;>
      by_cases hname : model.canonicalName property = name <;> simp [hname]

theorem nested?_edited (hown : filter.tree.settings = none) (edit : Edit) (name : String) :
    (filter.edited edit).tree.nested? name =
      if edit.concerns model name then
        (if edit.resets then none else filter.tree.nested? name).or edit.inner?
      else filter.tree.nested? name := by
  rcases edited_cases hown edit with ⟨rfl, htree⟩ | ⟨property, added, hproperty, rfl, htree⟩
  · rw [htree]
    rfl
  · rw [htree, Edit.concerns, hproperty]
    cases edit.inner? <;> cases edit.resets <;>
      by_cases hname : model.canonicalName property = name <;> simp [hname]

theorem stored_edited (hown : filter.tree.settings = none) (h : filter.tree.Stored model)
    (edit : Edit) : (filter.edited edit).tree.Stored model := by
  rcases edited_cases hown edit with ⟨-, htree⟩ | ⟨property, added, -, rfl, htree⟩
  · rw [htree]
    exact ⟨nofun, nofun⟩
  · have hkept : (if edit.resets then filter.tree.clear (model.canonicalName property)
        else filter.tree).Stored model := by
      split
      · exact h.clear _
      · exact h
    have hadded := hkept.add (model.canonicalName_canonicalName property) edit.values
    rw [htree]
    cases edit.inner? with
    | none => exact hadded
    | some inner => exact hadded.addNested (model.canonicalName_canonicalName property) inner

theorem settings_ofEdits (edits : List Edit) : (ofEdits model edits).tree.settings = none := by
  induction edits using List.reverseRecOn with
  | nil => rfl
  | append_singleton edits edit ih =>
    rw [ofEdits_append_singleton]
    exact settings_edited ih edit

theorem stored_ofEdits (edits : List Edit) : (ofEdits model edits).tree.Stored model := by
  induction edits using List.reverseRecOn with
  | nil => exact ⟨nofun, nofun⟩
  | append_singleton edits edit ih =>
    rw [ofEdits_append_singleton]
    exact stored_edited (settings_ofEdits edits) ih edit

theorem valuesOf_ofEdits (edits : List Edit) (name : String) :
    (ofEdits model edits).tree.valuesOf name =
      (Edit.effective model name edits).flatMap Edit.values := by
  induction edits using List.reverseRecOn with
  | nil => rfl
  | append_singleton edits edit ih =>
    rw [ofEdits_append_singleton, valuesOf_edited (settings_ofEdits edits), ih,
      Edit.effective_append_singleton]
    cases edit.concerns model name <;> cases edit.resets <;> simp

theorem nested?_ofEdits (edits : List Edit) (name : String) :
    (ofEdits model edits).tree.nested? name =
      (Edit.effective model name edits).findSome? Edit.inner? := by
  induction edits using List.reverseRecOn with
  | nil => rfl
  | append_singleton edits edit ih =>
    rw [ofEdits_append_singleton, nested?_edited (settings_ofEdits edits), ih,
      Edit.effective_append_singleton]
    cases edit.concerns model name <;> cases edit.resets <;> simp [List.findSome?_append]

/-- A filter is a map by fields. After any edits of a new filter, the value filters of a property
    are those that were put under a name of the same canonical form since the last edit that
    removed what was there, in the order of the edits, and the filter on related entities is the
    first one that was put there since then. Edits under other names change neither. Everything is
    stored under a canonical name, and there are no property filters without values. -/
theorem lookups_ofEdits (edits : List Edit) (property : String) :
    let history := Edit.effective model (model.canonicalName property) edits
    (ofEdits model edits).values? property =
        (if history.flatMap Edit.values = [] then none else some (history.flatMap Edit.values)) ∧
      (∀ inside, (ofEdits model edits).nested? property inside =
        (history.findSome? Edit.inner?).map EntityFilter.mk) ∧
      (∀ (edit : Edit) (other : String), edit.property? = some other →
        model.canonicalName other ≠ model.canonicalName property →
        (ofEdits model (edits ++ [edit])).values? property =
            (ofEdits model edits).values? property ∧
          ∀ inside, (ofEdits model (edits ++ [edit])).nested? property inside =
            (ofEdits model edits).nested? property inside) ∧
      (ofEdits model edits).tree.Stored model := by
  intro history
  refine ⟨?_, fun inside => ?_, fun edit other hother hname => ?_, stored_ofEdits edits⟩
  · rw [values?, FilterTree.values?_eq, valuesOf_ofEdits]
    simp only [List.isEmpty_iff]
    rfl
  · rw [nested?, nested?_ofEdits]
  · have hconcerns : edit.concerns model (model.canonicalName property) = false := by
      rw [Edit.concerns, hother]
      simpa using hname
    simp only [values?, nested?, FilterTree.values?_eq, ofEdits_append_singleton,
      valuesOf_edited (settings_ofEdits edits), nested?_edited (settings_ofEdits edits), hconcerns]
    simp

/-- Names in any letter case stand for the same property. What is put under `Lead` first is gone
    after the filter within replaces it, and what is put under `Members` stays. -/
theorem lookups_ofEdits_teams :
    let named (name : String) : ValueFilter := ⟨.equalCaseSensitive, some name⟩
    let edits : List Edit := [.add "lead" [named "Ann"], .add "MEMBERS" [named "Bob"],
      .replaceNested "LEAD" (EntityFilter.empty : EntityFilter Teams.person),
      .add "Lead" [.notNull], .add "lead" []]
    (ofEdits Teams.team edits).values? "leaD" = some [.notNull] ∧
      (ofEdits Teams.team edits).nested? "leaD" Teams.person = some EntityFilter.empty ∧
      (ofEdits Teams.team (edits ++ [.clear "members"])).values? "leaD" = some [.notNull] := by
  intro named edits
  obtain ⟨hvalues, hnested, hothers, -⟩ := @lookups_ofEdits Teams.team edits "leaD"
  have hhistory : Edit.effective Teams.team (Teams.team.canonicalName "leaD") edits =
      [.replaceNested "LEAD" (EntityFilter.empty : EntityFilter Teams.person),
        .add "Lead" [.notNull], .add "lead" []] := rfl
  rw [hhistory] at hvalues hnested
  refine ⟨hvalues, hnested Teams.person, ?_⟩
  rw [(hothers (.clear "members") "members" rfl (by decide)).1]
  exact hvalues

end EntityFilter

end EntityQuery
