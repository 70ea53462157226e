import EntityQuery.Proofs.Filter.Clear
import EntityQuery.Proofs.Filter.Reordered
import EntityQuery.Proofs.ValueFilter.RoundTrip

namespace EntityQuery

namespace ValueFilter

variable {filter : ValueFilter}

/-- The value filter is made of an operator and a text, of which a check for null keeps no text. -/
def Created (filter : ValueFilter) : Prop := ∃ operator value, filter = create operator value

@[simp]
theorem created_create {operator : Operator} {value : String} : (create operator value).Created :=
  ⟨operator, value, rfl⟩

theorem created_of_mem_ofSyntax {settings : FilterSettings} {raw : String}
    (hfilter : filter ∈ ofSyntax settings raw) : filter.Created := by
  obtain ⟨value, -, rfl⟩ := List.mem_map.mp hfilter
  exact created_create

/-- When nothing else is set, there is a token for every operator but the usual comparison. -/
theorem Created.printable (now : Calendar.DateTime) (h : filter.Created) :
    Printable (.builtin now) filter := by
  obtain ⟨operator, value, rfl⟩ := h
  constructor
  · change operator = .default ∨ ((FilterSettings.builtinOperatorTokens.entries.find? fun entry =>
      entry.2 == operator).map (·.1)).isSome = true
    cases operator <;> decide
  · simp only [create]
    split <;> simp_all

/-- Some of the value filters is no inequality. -/
def Wants (filters : List ValueFilter) : Prop := ∃ filter ∈ filters, filter.operator ≠ .notEqual

instance : DecidablePred Wants := fun filters =>
  inferInstanceAs (Decidable (∃ filter ∈ filters, filter.operator ≠ .notEqual))

end ValueFilter

namespace PropertyContext

variable {context : PropertyContext} {guarded : Bool} {entity : Entity}
  {groups : List (List ValueFilter)}

/-- Groups of value filters are met one by one if they are met as one group, and if each of them is
    met by itself as far as something is wanted. -/
theorem forall_meetsTogether_iff :
    (∀ group ∈ groups, context.MeetsTogether guarded entity group) ↔
      context.MeetsTogether guarded entity groups.flatten ∧
        ∀ group ∈ groups, context.MeetsWanted guarded entity group := by
  constructor
  · intro hall
    refine ⟨⟨?_, ?_⟩, fun group hgroup => (hall group hgroup).1⟩
    · by_cases hnone : ∀ filter ∈ groups.flatten, filter.operator = .notEqual
      · exact .inl hnone
      · push Not at hnone
        obtain ⟨filter, hfilter, hwanted⟩ := hnone
        obtain ⟨group, hgroup, hmem⟩ := List.mem_flatten.mp hfilter
        rcases (hall group hgroup).1 with hruled | ⟨other, hother, hmeets⟩
        · exact absurd (hruled filter hmem) hwanted
        · exact .inr ⟨other, List.mem_flatten.mpr ⟨group, hgroup, hother⟩, hmeets⟩
    · intro filter hfilter
      obtain ⟨group, hgroup, hmem⟩ := List.mem_flatten.mp hfilter
      exact (hall group hgroup).2 filter hmem
  · rintro ⟨hflat, hwanted⟩ group hgroup
    exact ⟨hwanted group hgroup, fun filter hfilter =>
      hflat.2 filter (List.mem_flatten.mpr ⟨group, hgroup, hfilter⟩)⟩

/-- As one group, value filters of which only one group wants something ask for as much. -/
theorem MeetsWanted.of_flatten (h : context.MeetsWanted guarded entity groups.flatten)
    (hone : ∀ group ∈ groups, ∀ other ∈ groups, ValueFilter.Wants group →
      ValueFilter.Wants other → group = other) :
    ∀ group ∈ groups, context.MeetsWanted guarded entity group := by
  intro group hgroup
  by_cases hwants : ValueFilter.Wants group
  · rcases h with hruled | ⟨filter, hfilter, hwanted, hmeets⟩
    · obtain ⟨filter, hfilter, hwanted⟩ := hwants
      exact absurd (hruled filter (List.mem_flatten.mpr ⟨group, hgroup, hfilter⟩)) hwanted
    · obtain ⟨other, hother, hmem⟩ := List.mem_flatten.mp hfilter
      rw [hone group hgroup other hother hwants ⟨filter, hmem, hwanted⟩]
      exact .inr ⟨filter, hmem, hwanted, hmeets⟩
  · simp only [ValueFilter.Wants, not_exists, not_and, not_not] at hwants
    exact .inl hwants

end PropertyContext

namespace FilterTree

variable {schema : Schema} {model : Model} {settings : FilterSettings} {tree : FilterTree}
  {name : String}

/-- The value filters under a name, as one group for each addition. -/
def groupsOf (tree : FilterTree) (name : String) : List (List ValueFilter) :=
  (tree.properties.filter fun filter => filter.property == name).map (·.values)

theorem flatten_groupsOf (tree : FilterTree) (name : String) :
    (tree.groupsOf name).flatten = tree.valuesOf name := List.flatMap_def.symm

/-- All value filters under a name as one group, behind the filters under other names. -/
def regrouped (tree : FilterTree) (name : String) : FilterTree :=
  tree.replace name (tree.valuesOf name)

section

variable {P : PropertyFilter → Prop}

theorem forall_mem_properties_iff (name : String) :
    (∀ filter ∈ tree.properties, P filter) ↔
      (∀ filter ∈ tree.properties, filter.property ≠ name → P filter) ∧
        ∀ group ∈ tree.groupsOf name, P ⟨name, group⟩ := by
  simp only [groupsOf, List.forall_mem_map, List.mem_filter, beq_iff_eq, and_imp]
  constructor
  · refine fun hall => ⟨fun filter hfilter _ => hall filter hfilter, ?_⟩
    rintro ⟨_, values⟩ hfilter rfl
    exact hall _ hfilter
  · rintro ⟨hothers, hgroups⟩ filter hfilter
    by_cases hname : filter.property = name
    · have hgroup := hgroups filter hfilter hname
      rwa [← hname] at hgroup
    · exact hothers filter hfilter hname

theorem forall_mem_regrouped_iff (hvalues : tree.valuesOf name ≠ []) :
    (∀ filter ∈ (tree.regrouped name).properties, P filter) ↔
      (∀ filter ∈ tree.properties, filter.property ≠ name → P filter) ∧
        P ⟨name, (tree.groupsOf name).flatten⟩ := by
  have hproperties : (tree.regrouped name).properties =
      (tree.properties.filter fun filter => filter.property != name) ++
        [⟨name, tree.valuesOf name⟩] := by
    rw [regrouped, replace, add, if_neg (by simpa using hvalues)]
    rfl
  rw [hproperties, List.forall_mem_append, List.forall_mem_singleton, flatten_groupsOf]
  simp only [List.mem_filter, bne_iff_ne, ne_eq, and_imp]

end

/-- A filter on properties alone, whose value filters are made of operators and texts. -/
structure Flat (tree : FilterTree) : Prop where
  nested : tree.nested = []
  interceptor : tree.interceptor = none
  created : ∀ filter ∈ tree.properties, ∀ value ∈ filter.values, value.Created

namespace Flat

variable (h : tree.Flat)

include h

theorem withoutInterceptors : tree.WithoutInterceptors :=
  .intro h.interceptor fun _ hentry => absurd hentry (h.nested ▸ List.not_mem_nil)

theorem clear (property : String) : (tree.clear property).Flat where
  nested := by rw [FilterTree.clear, h.nested, List.filter_nil]
  interceptor := h.interceptor
  created filter hfilter := h.created filter (List.mem_of_mem_filter hfilter)

theorem add (property : String) {values : List ValueFilter}
    (hvalues : ∀ value ∈ values, value.Created) : (tree.add property values).Flat := by
  rw [FilterTree.add]
  split
  · exact h
  · refine ⟨h.nested, h.interceptor, List.forall_mem_append.mpr ⟨h.created, ?_⟩⟩
    exact List.forall_mem_singleton.mpr hvalues

theorem created_of_mem_valuesOf (name : String) :
    ∀ value ∈ tree.valuesOf name, value.Created := by
  intro value hvalue
  obtain ⟨filter, hfilter, hmem⟩ := List.mem_flatMap.mp hvalue
  exact h.created filter (List.mem_of_mem_filter hfilter) value hmem

theorem regrouped (name : String) : (tree.regrouped name).Flat :=
  (h.clear name).add name (h.created_of_mem_valuesOf name)

end Flat

/-- The conditions under other names than the given one accept an entity. -/
def AcceptsOthers (model : Model) (settings : FilterSettings) (tree : FilterTree) (name : String)
    (entity : Entity) : Prop :=
  ∀ filter ∈ tree.properties, filter.property ≠ name → ∀ condition,
    buildProperty model settings none filter = .ok condition → condition.Accepts true entity

section

variable (hstrict : settings.ignoreParseExceptions = false)

include hstrict

theorem exists_buildProperty_iff {filter : PropertyFilter} :
    (∃ condition, buildProperty model settings none filter = .ok condition) ↔
      ∃ field, filterableField model filter.property = .ok field ∧ ∀ value ∈ filter.values,
        ∃ condition, (PropertyContext.ofField model field settings).filterCondition value =
          .ok condition := by
  simp only [buildProperty_eq_ok_iff hstrict, ← PropertyContext.exists_propertyCondition_iff]
  constructor
  · rintro ⟨condition, field, hfield, hcondition⟩
    exact ⟨field, hfield, condition, hcondition⟩
  · rintro ⟨field, hfield, condition, hcondition⟩
    exact ⟨condition, field, hfield, hcondition⟩

/-- A property filter that can be built accepts what meets its value filters together. -/
theorem accepts_buildProperty_iff {filter : PropertyFilter} {field : Field} {entity : Entity}
    (hfound : model.field? filter.property = some field) (hconforms : Conforms schema model entity)
    (hbuilt : ∃ condition, buildProperty model settings none filter = .ok condition) :
    (∀ condition, buildProperty model settings none filter = .ok condition →
      condition.Accepts true entity) ↔
      (PropertyContext.ofField model field settings).MeetsTogether true entity filter.values := by
  obtain ⟨condition, hbuilt⟩ := hbuilt
  obtain ⟨other, hother, hcondition⟩ := (buildProperty_eq_ok_iff hstrict).mp hbuilt
  cases hfound.symm.trans (filterableField_eq_ok_iff.mp hother).1
  have hadmits := PropertyContext.admits_evaluates
    (hconforms.fits (Model.mem_fields_of_field? hfound)) model settings true
  rw [← PropertyContext.accepts_propertyCondition_iff hcondition fun value _ alone halone =>
    (halone ▸ hadmits.propertyCondition [value]).of_ok]
  simp [hbuilt]

variable (hflat : tree.Flat)

include hflat

theorem accepts_build_groups_iff {field : Field} (hfound : model.field? name = some field)
    {predicate : Predicate} (hbuilt : build schema model settings none tree = .ok predicate)
    {entity : Entity} (hconforms : Conforms schema model entity) :
    predicate.Accepts true entity ↔ tree.AcceptsOthers model settings name entity ∧
      ∀ group ∈ tree.groupsOf name,
        (PropertyContext.ofField model field settings).MeetsTogether true entity group := by
  obtain ⟨-, hbuilds⟩ := (forall_mem_properties_iff name).mp
    ((exists_build_iff hflat.interceptor).mp ⟨predicate, hbuilt⟩).1
  rw [accepts_build_iff hflat.interceptor hbuilt, hflat.nested, forall_mem_properties_iff name,
    and_iff_left fun _ hentry => absurd hentry List.not_mem_nil]
  refine and_congr_right fun _ => forall₂_congr fun group hgroup => ?_
  exact accepts_buildProperty_iff hstrict hfound hconforms (hbuilds group hgroup)

variable (hvalues : tree.valuesOf name ≠ [])

include hvalues

theorem accepts_build_regrouped_iff {field : Field} (hfound : model.field? name = some field)
    {changed : Predicate}
    (hchanged : build schema model settings none (tree.regrouped name) = .ok changed)
    {entity : Entity} (hconforms : Conforms schema model entity) :
    changed.Accepts true entity ↔ tree.AcceptsOthers model settings name entity ∧
      (PropertyContext.ofField model field settings).MeetsTogether true entity
        (tree.groupsOf name).flatten := by
  have hregrouped := hflat.regrouped name
  obtain ⟨-, hbuilds⟩ := (forall_mem_regrouped_iff hvalues).mp
    ((exists_build_iff hregrouped.interceptor).mp ⟨changed, hchanged⟩).1
  rw [accepts_build_iff hregrouped.interceptor hchanged, hregrouped.nested,
    forall_mem_regrouped_iff hvalues,
    and_iff_left fun _ hentry => absurd hentry List.not_mem_nil]
  exact and_congr_right fun _ => accepts_buildProperty_iff hstrict hfound hconforms hbuilds

/-- Value filters can be built as one group exactly if they can be built as they were added. -/
theorem exists_build_regrouped_iff :
    (∃ predicate, build schema model settings none tree = .ok predicate) ↔
      ∃ changed, build schema model settings none (tree.regrouped name) = .ok changed := by
  rw [exists_build_iff hflat.interceptor, exists_build_iff (hflat.regrouped name).interceptor,
    hflat.nested, (hflat.regrouped name).nested, forall_mem_regrouped_iff hvalues,
    forall_mem_properties_iff name]
  refine and_congr_left fun _ => and_congr_right fun _ => ?_
  simp only [exists_buildProperty_iff hstrict]
  constructor
  · intro hgroups
    obtain ⟨first, hfirst⟩ : ∃ first, first ∈ tree.groupsOf name := by
      refine List.exists_mem_of_ne_nil _ fun hnil => hvalues ?_
      rw [← flatten_groupsOf, hnil, List.flatten_nil]
    obtain ⟨field, hfield, -⟩ := hgroups first hfirst
    refine ⟨field, hfield, fun value hvalue => ?_⟩
    obtain ⟨group, hgroup, hmem⟩ := List.mem_flatten.mp hvalue
    obtain ⟨other, hother, hconditions⟩ := hgroups group hgroup
    cases hfield.symm.trans hother
    exact hconditions value hmem
  · rintro ⟨field, hfield, hconditions⟩ group hgroup
    exact ⟨field, hfield, fun value hvalue =>
      hconditions value (List.mem_flatten.mpr ⟨group, hgroup, hvalue⟩)⟩

end

end FilterTree

/-- An edit of property filters, by value filters that are made of operators and texts or by a text
    under any settings. -/
def Edit.OfValues : Edit → Prop
  | .add _ values | .replace _ values => ∀ value ∈ values, value.Created
  | .addSyntax _ _ _ | .replaceSyntax _ _ _ | .clear _ | .clearAll => True
  | .addNested _ _ | .replaceNested _ _ => False

namespace EntityFilter

variable {schema : Schema} {model : Model} {field : Field} {property text : String}
  {edits : List Edit}

theorem flat_edited {filter : EntityFilter model} (h : filter.tree.Flat) {edit : Edit}
    (hedit : edit.OfValues) : (filter.edited edit).tree.Flat := by
  have htext {settings : FilterSettings} {raw : String} :
      ∀ value ∈ ValueFilter.ofSyntax settings raw, value.Created :=
    fun _ => ValueFilter.created_of_mem_ofSyntax
  cases edit with
  | add property values => exact h.add _ hedit
  | addSyntax current property raw => exact h.add _ htext
  | replace property values => exact (h.clear _).add _ hedit
  | replaceSyntax current property raw => exact (h.clear _).add _ htext
  | clear property => exact h.clear _
  | clearAll => exact ⟨rfl, h.interceptor, nofun⟩
  | addNested | replaceNested => exact hedit.elim

theorem flat_ofEdits (hedits : ∀ edit ∈ edits, edit.OfValues) :
    (ofEdits model edits).tree.Flat := by
  induction edits using List.reverseRecOn with
  | nil => exact ⟨rfl, rfl, nofun⟩
  | append_singleton edits edit ih =>
    obtain ⟨hbefore, hedit⟩ := List.forall_mem_append.mp hedits
    rw [ofEdits_append_singleton]
    exact flat_edited (ih hbefore) (List.forall_mem_singleton.mp hedit)

/-- Replacing a property by its own text puts its value filters together into one group. -/
theorem tree_replaceSyntax {filter : EntityFilter model} (hflat : filter.tree.Flat)
    (hown : filter.tree.settings = none) (hfield : model.field? property = some field)
    (now : Calendar.DateTime) (htext : filter.syntaxOf? (.builtin now) property = some text) :
    filter.tree.valuesOf field.name ≠ [] ∧
      (filter.replaceSyntax (.builtin now) property text).tree =
        filter.tree.regrouped field.name := by
  have hsettings : filter.tree.effectiveSettings (.builtin now) = .builtin now := by
    rw [FilterTree.effectiveSettings, hown, Option.getD_none]
  rw [syntaxOf?, values?, Model.canonicalName_of_field? hfield, hsettings,
    FilterTree.values?_eq] at htext
  split at htext
  case isTrue => cases htext
  case isFalse hvalues =>
    cases htext
    rw [List.isEmpty_iff] at hvalues
    have hread := ValueFilter.ofSyntax_joinSyntax_of_printable
      (ValueFilter.unambiguous_builtin now) hvalues fun value hvalue =>
        (hflat.created_of_mem_valuesOf field.name value hvalue).printable now
    refine ⟨hvalues, ?_⟩
    rw [replaceSyntax, replace, Model.canonicalName_of_field? hfield, hsettings, hread]
    rfl

/-- After edits of property filters alone, a property is replaced by the text of its own value
    filters. The filter can be built exactly if it could be before. An entity that it accepted
    before is accepted, and one that is accepted now was accepted before exactly if it meets what
    each addition for the property wanted. If only one of them wanted something, all verdicts are
    the same as before. -/
theorem verdicts_of_replaceSyntax (schema : Schema) (hedits : ∀ edit ∈ edits, edit.OfValues)
    (now : Calendar.DateTime) (hfield : model.field? property = some field)
    (htext : (ofEdits model edits).syntaxOf? (.builtin now) property = some text) :
    let before := (ofEdits model edits).tree
    let after := ((ofEdits model edits).replaceSyntax (.builtin now) property text).tree
    ((∃ predicate, before.build schema model (.builtin now) none = .ok predicate) ↔
      ∃ changed, after.build schema model (.builtin now) none = .ok changed) ∧
    ∀ predicate changed, before.build schema model (.builtin now) none = .ok predicate →
      after.build schema model (.builtin now) none = .ok changed →
      ∀ entity, Conforms schema model entity → ∃ verdict verdict',
        predicate.evaluate true entity = .ok verdict ∧
        changed.evaluate true entity = .ok verdict' ∧
        (verdict = true ↔ verdict' = true ∧ ∀ group ∈ before.groupsOf field.name,
          (PropertyContext.ofField model field (.builtin now)).MeetsWanted true entity group) ∧
        ((∀ group ∈ before.groupsOf field.name, ∀ other ∈ before.groupsOf field.name,
          ValueFilter.Wants group → ValueFilter.Wants other → group = other) →
            verdict = verdict') := by
  intro before after
  have hflat : before.Flat := flat_ofEdits hedits
  obtain ⟨hvalues, hafter⟩ := tree_replaceSyntax hflat (settings_ofEdits edits) hfield now htext
  have hname := Model.field?_name hfield
  rw [show after = before.regrouped field.name from hafter]
  refine ⟨FilterTree.exists_build_regrouped_iff rfl hflat hvalues, ?_⟩
  intro predicate changed hbuilt hchanged entity hconforms
  obtain ⟨verdict, hverdict⟩ :=
    (FilterTree.build_typed hflat.withoutInterceptors hbuilt).evaluates hconforms
  obtain ⟨verdict', hverdict'⟩ := (FilterTree.build_typed
    (hflat.regrouped field.name).withoutInterceptors hchanged).evaluates hconforms
  have hbefore := FilterTree.accepts_build_groups_iff rfl hflat hname hbuilt hconforms
  have hone := FilterTree.accepts_build_regrouped_iff rfl hflat hvalues hname hchanged hconforms
  have hlaw := hbefore
  rw [PropertyContext.forall_meetsTogether_iff, ← and_assoc, ← hone] at hlaw
  simp only [Predicate.Accepts, hverdict, hverdict', Except.ok.injEq] at hlaw hone
  refine ⟨verdict, verdict', hverdict, hverdict', hlaw, fun hsingle => ?_⟩
  rw [Bool.eq_iff_iff, hlaw]
  exact and_iff_left_of_imp fun haccepts => (hone.mp haccepts).2.1.of_flatten hsingle

end EntityFilter

namespace Teams

def midnight : Calendar.DateTime := (settings .always).now

def likeBob : ValueFilter := .create .contains "Bob"

def notAnn : ValueFilter := .create .notEqual "Ann"

/-- People whose names are like one of two, of whom one is ruled out. -/
def bobOrLikeAnn : EntityFilter person :=
  .ofEdits person [.add "Name" [likeAnn, likeBob], .add "NAME" [notAnn]]

/-- People whose names are like both of two. -/
def annAndBob : EntityFilter person :=
  .ofEdits person [.add "Name" [likeAnn], .add "Name" [likeBob]]

end Teams

namespace EntityFilter

/-- One addition wants something and another one rules something out. -/
theorem verdicts_of_replaceSyntax_names :
    Teams.bobOrLikeAnn.syntaxOf? (.builtin Teams.midnight) "Name" = some "~Ann,~Bob,!Ann" ∧
    ∃ changed, FilterTree.build Teams.schema Teams.person (.builtin Teams.midnight) none
        (Teams.bobOrLikeAnn.replaceSyntax (.builtin Teams.midnight) "Name" "~Ann,~Bob,!Ann").tree =
          .ok changed ∧
      changed.evaluate true Teams.ann = .ok false ∧ changed.evaluate true Teams.bob = .ok true := by
  have hedits : ∀ edit ∈ [Edit.add "Name" [Teams.likeAnn, Teams.likeBob],
      .add "NAME" [Teams.notAnn]], edit.OfValues := by
    simp [Edit.OfValues, Teams.likeAnn, Teams.likeBob, Teams.notAnn]
  have hfield : Teams.person.field? "Name" = some Teams.name := rfl
  have htext : Teams.bobOrLikeAnn.syntaxOf? (.builtin Teams.midnight) "Name" =
      some "~Ann,~Bob,!Ann" := by decide +kernel
  have hone : ∀ group ∈ Teams.bobOrLikeAnn.tree.groupsOf "Name",
      ∀ other ∈ Teams.bobOrLikeAnn.tree.groupsOf "Name",
      ValueFilter.Wants group → ValueFilter.Wants other → group = other := by decide +kernel
  obtain ⟨hbuilds, hverdicts⟩ :=
    verdicts_of_replaceSyntax Teams.schema hedits Teams.midnight hfield htext
  obtain ⟨predicate, hbuilt, hann, hbob⟩ : ∃ predicate,
      FilterTree.build Teams.schema Teams.person (.builtin Teams.midnight) none
        Teams.bobOrLikeAnn.tree = .ok predicate ∧
      predicate.evaluate true Teams.ann = .ok false ∧
      predicate.evaluate true Teams.bob = .ok true := ⟨_, rfl, rfl, rfl⟩
  obtain ⟨changed, hchanged⟩ := hbuilds.mp ⟨predicate, hbuilt⟩
  have hkept {entity : Entity} (hconforms : Conforms Teams.schema Teams.person entity) :
      changed.evaluate true entity = predicate.evaluate true entity := by
    obtain ⟨verdict, verdict', hverdict, hverdict', -, hsame⟩ :=
      hverdicts predicate changed hbuilt hchanged entity hconforms
    rw [hverdict, hverdict', hsame hone]
  exact ⟨htext, changed, hchanged, (hkept (FilterTree.person_conforms "Ann")).trans hann,
    (hkept (FilterTree.person_conforms "Bob")).trans hbob⟩

/-- Two additions want something each. As one text they are alternatives, and an entity that met
    only one of them is accepted. -/
theorem replaceSyntax_widens_names :
    Teams.annAndBob.syntaxOf? (.builtin Teams.midnight) "Name" = some "~Ann,~Bob" ∧
    ∃ before after,
      Teams.annAndBob.tree.build Teams.schema Teams.person (.builtin Teams.midnight) none =
        .ok before ∧
      (Teams.annAndBob.replaceSyntax (.builtin Teams.midnight) "Name" "~Ann,~Bob").tree.build
        Teams.schema Teams.person (.builtin Teams.midnight) none = .ok after ∧
      Conforms Teams.schema Teams.person Teams.bob ∧
      before.evaluate true Teams.bob = .ok false ∧ after.evaluate true Teams.bob = .ok true := by
  have htext : Teams.annAndBob.syntaxOf? (.builtin Teams.midnight) "Name" = some "~Ann,~Bob" := by
    decide +kernel
  have hflat : Teams.annAndBob.tree.Flat :=
    flat_ofEdits (by simp [Edit.OfValues, Teams.likeAnn, Teams.likeBob])
  have hfield : Teams.person.field? "Name" = some Teams.name := rfl
  obtain ⟨-, hregrouped⟩ := tree_replaceSyntax hflat rfl hfield Teams.midnight htext
  have hafter : FilterTree.build Teams.schema Teams.person (.builtin Teams.midnight) none
      (Teams.annAndBob.tree.regrouped Teams.name.name) = .ok _ := rfl
  rw [← hregrouped] at hafter
  exact ⟨htext, _, _, rfl, hafter, FilterTree.person_conforms "Bob", rfl, rfl⟩

end EntityFilter

end EntityQuery
