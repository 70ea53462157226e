import EntityQuery.Proofs.Filter.Interchangeable

namespace EntityQuery

/-- The same value filters for the same property, in some order. -/
def PropertyFilter.Reordered (filter other : PropertyFilter) : Prop :=
  filter.property = other.property ∧ filter.values.Perm other.values

namespace FilterTree

/-- The same filter with its property filters, the filters within and the values of its property
    filters in some other order, at all depths. -/
inductive Reordered : FilterTree → FilterTree → Prop
  | refl (tree) : Reordered tree tree
  | trans {first second third} (h : Reordered first second) (h' : Reordered second third) :
    Reordered first third
  | properties {properties others nested own rule} (h : List.Perm properties others) :
    Reordered ⟨properties, nested, own, rule⟩ ⟨others, nested, own, rule⟩
  | nested {properties nested others own rule} (h : List.Perm nested others) :
    Reordered ⟨properties, nested, own, rule⟩ ⟨properties, others, own, rule⟩
  | values {before after property values others nested own rule} (h : List.Perm values others) :
    Reordered ⟨before ++ ⟨property, values⟩ :: after, nested, own, rule⟩
      ⟨before ++ ⟨property, others⟩ :: after, nested, own, rule⟩
  | inside {properties before after property inner other own rule} (h : Reordered inner other) :
    Reordered ⟨properties, before ++ (property, inner) :: after, own, rule⟩
      ⟨properties, before ++ (property, other) :: after, own, rule⟩

namespace Reordered

variable {tree other : FilterTree}

theorem symm (h : Reordered tree other) : Reordered other tree := by
  induction h with
  | refl tree => exact .refl tree
  | trans _ _ ih ih' => exact ih'.trans ih
  | properties h => exact .properties h.symm
  | nested h => exact .nested h.symm
  | values h => exact .values h.symm
  | inside _ ih => exact .inside ih

theorem settings_eq (h : Reordered tree other) : tree.settings = other.settings := by
  induction h with
  | trans _ _ ih ih' => exact ih.trans ih'
  | _ => rfl

theorem interceptor_eq (h : Reordered tree other) : tree.interceptor = other.interceptor := by
  induction h with
  | trans _ _ ih ih' => exact ih.trans ih'
  | _ => rfl

private theorem exists_of_mem_properties (h : Reordered tree other) :
    ∀ filter ∈ tree.properties, ∃ moved ∈ other.properties, filter.Reordered moved := by
  induction h with
  | refl | nested | inside => exact fun filter hfilter => ⟨filter, hfilter, rfl, .rfl⟩
  | trans _ _ ih ih' =>
    intro filter hfilter
    obtain ⟨moved, hmoved, hname, hvalues⟩ := ih filter hfilter
    obtain ⟨last, hlast, hname', hvalues'⟩ := ih' moved hmoved
    exact ⟨last, hlast, hname.trans hname', hvalues.trans hvalues'⟩
  | properties h => exact fun filter hfilter => ⟨filter, h.mem_iff.mp hfilter, rfl, .rfl⟩
  | values h =>
    intro filter hfilter
    rcases List.mem_append.mp hfilter with hbefore | hrest
    · exact ⟨filter, List.mem_append_left _ hbefore, rfl, .rfl⟩
    · rcases List.mem_cons.mp hrest with rfl | hafter
      · exact ⟨_, List.mem_append_right _ List.mem_cons_self, rfl, h⟩
      · exact ⟨filter, List.mem_append_right _ (List.mem_cons_of_mem _ hafter), rfl, .rfl⟩

private theorem exists_of_mem_nested (h : Reordered tree other) :
    ∀ entry ∈ tree.nested, ∃ moved ∈ other.nested, entry.1 = moved.1 ∧
      Reordered entry.2 moved.2 := by
  induction h with
  | refl | properties | values => exact fun entry hentry => ⟨entry, hentry, rfl, .refl _⟩
  | trans _ _ ih ih' =>
    intro entry hentry
    obtain ⟨moved, hmoved, hname, hinner⟩ := ih entry hentry
    obtain ⟨last, hlast, hname', hinner'⟩ := ih' moved hmoved
    exact ⟨last, hlast, hname.trans hname', hinner.trans hinner'⟩
  | nested h => exact fun entry hentry => ⟨entry, h.mem_iff.mp hentry, rfl, .refl _⟩
  | inside h _ =>
    intro entry hentry
    rcases List.mem_append.mp hentry with hbefore | hrest
    · exact ⟨entry, List.mem_append_left _ hbefore, rfl, .refl _⟩
    · rcases List.mem_cons.mp hrest with rfl | hafter
      · exact ⟨_, List.mem_append_right _ List.mem_cons_self, rfl, h⟩
      · exact ⟨entry, List.mem_append_right _ (List.mem_cons_of_mem _ hafter), rfl, .refl _⟩

theorem covers_properties (h : Reordered tree other) :
    Covers PropertyFilter.Reordered tree.properties other.properties where
  forth := h.exists_of_mem_properties
  back filter hfilter := by
    obtain ⟨source, hsource, hname, hvalues⟩ := h.symm.exists_of_mem_properties filter hfilter
    exact ⟨source, hsource, hname.symm, hvalues.symm⟩

theorem covers_nested (h : Reordered tree other) :
    Covers (fun entry moved => entry.1 = moved.1 ∧ Reordered entry.2 moved.2) tree.nested
      other.nested where
  forth := h.exists_of_mem_nested
  back entry hentry := by
    obtain ⟨source, hsource, hname, hinner⟩ := h.symm.exists_of_mem_nested entry hentry
    exact ⟨source, hsource, hname.symm, hinner.symm⟩

/-- What holds of the settings and the rules everywhere in a filter does so in another order. -/
theorem everywhere {P : FilterTree → Prop} (htree : tree.Everywhere P) (h : Reordered tree other)
    (hP : ∀ {tree other : FilterTree}, tree.settings = other.settings →
      tree.interceptor = other.interceptor → P tree → P other) : other.Everywhere P := by
  induction htree generalizing other with
  | intro here _ ih =>
    refine .intro (hP h.settings_eq h.interceptor_eq here) fun entry hentry => ?_
    obtain ⟨source, hsource, -, hinner⟩ := h.covers_nested.back entry hentry
    exact ih source hsource hinner

theorem withoutInterceptors (h : Reordered tree other) (hplain : tree.WithoutInterceptors) :
    other.WithoutInterceptors :=
  everywhere hplain h fun _ hrule htree => hrule ▸ htree

end Reordered

variable {schema : Schema} {model : Model} {settings : FilterSettings} {tree other : FilterTree}

theorem exists_build_iff (hplain : tree.interceptor = none) :
    (∃ predicate, build schema model settings none tree = .ok predicate) ↔
      (∀ filter ∈ tree.properties, ∃ condition,
        buildProperty model settings none filter = .ok condition) ∧
      ∀ entry ∈ tree.nested, ∃ parts,
        buildEntry schema model settings none entry = .ok parts := by
  rw [← exists_mapM_eq_ok_iff, ← exists_mapM_eq_ok_iff]
  simp only [build_eq_ok_iff hplain, mapM_eq_ok_iff]
  constructor
  · rintro ⟨_, conditions, inner, hconditions, hinner, -⟩
    exact ⟨⟨conditions, hconditions⟩, inner, hinner⟩
  · rintro ⟨⟨conditions, hconditions⟩, inner, hinner⟩
    exact ⟨_, conditions, inner, hconditions, hinner, rfl⟩

theorem exists_buildEntry_iff {entry : String × FilterTree} :
    (∃ parts, buildEntry schema model settings none entry = .ok parts) ↔
      ∃ field target, navigableField model entry.1 = .ok (field, target) ∧ ∃ inner,
        build schema (schema.model target) (entry.2.settings.getD settings) none entry.2 =
          .ok inner := by
  simp only [buildEntry_eq_ok_iff]
  constructor
  · rintro ⟨_, field, target, inner, hfield, hinner, -⟩
    exact ⟨field, target, hfield, inner, hinner⟩
  · rintro ⟨field, target, hfield, inner, hinner⟩
    rcases em (inner = .everything) with heverything | hne
    · exact ⟨_, field, target, inner, hfield, hinner, .inl ⟨heverything, rfl⟩⟩
    · exact ⟨_, field, target, inner, hfield, hinner, .inr ⟨hne, rfl⟩⟩

/-- Somewhere in a filter, lenient settings would pass over the value filters of a property for one
    of them and refuse them for another. -/
inductive Mixes (schema : Schema) : Model → FilterSettings → FilterTree → Prop
  | here {model : Model} {settings : FilterSettings} {tree : FilterTree} {filter : PropertyFilter}
    {field : Field} (hlenient : settings.ignoreParseExceptions = true)
    (hfilter : filter ∈ tree.properties)
    (hfield : filterableField model filter.property = .ok field)
    (hmixes : (PropertyContext.ofField model field settings).Mixes filter.values) :
    Mixes schema model settings tree
  | inside {model : Model} {settings : FilterSettings} {tree : FilterTree}
    {entry : String × FilterTree} {field : Field} {target : String} (hentry : entry ∈ tree.nested)
    (hfield : navigableField model entry.1 = .ok (field, target))
    (hinner : Mixes schema (schema.model target) (entry.2.settings.getD settings) entry.2) :
    Mixes schema model settings tree

theorem Mixes.reordered (hmixes : Mixes schema model settings tree) (h : Reordered tree other) :
    Mixes schema model settings other := by
  induction hmixes generalizing other with
  | here hlenient hfilter hfield hmixes =>
    obtain ⟨moved, hmoved, hname, hperm⟩ := h.covers_properties.forth _ hfilter
    exact .here hlenient hmoved (hname ▸ hfield) (hmixes.perm hperm)
  | inside hentry hfield _ ih =>
    obtain ⟨moved, hmoved, hname, hinner⟩ := h.covers_nested.forth _ hentry
    exact .inside hmoved (hname ▸ hfield) (hinner.settings_eq ▸ ih hinner)

/-- Where faults are reported, nothing is passed over. -/
theorem not_mixes_of_careful (hcareful : SettingsEverywhere FilterSettings.Careful settings tree) :
    ¬ Mixes schema model settings tree := by
  intro hmixes
  induction hmixes with
  | here hlenient => exact Bool.false_ne_true (hcareful.1.strict.symm.trans hlenient)
  | inside hentry _ _ ih => exact ih (hcareful.inside hentry)

/-- Unless the reasons to refuse its values are mixed, whether a property filter can be built does
    not depend on their order. -/
theorem exists_buildProperty_reordered {filter other : PropertyFilter} (h : filter.Reordered other)
    (hmixes : settings.ignoreParseExceptions = true → ∀ field,
      filterableField model filter.property = .ok field →
        ¬ (PropertyContext.ofField model field settings).Mixes filter.values)
    (hbuilt : ∃ condition, buildProperty model settings none filter = .ok condition) :
    ∃ changed, buildProperty model settings none other = .ok changed := by
  obtain ⟨condition, hbuilt⟩ := hbuilt
  simp only [buildProperty_eq_ok_iff_or_passedOver] at hbuilt ⊢
  obtain ⟨field, hfield, hcondition⟩ := hbuilt
  rw [← h.1]
  cases hother : (PropertyContext.ofField model field settings).propertyCondition other.values with
  | ok changed => exact ⟨changed, field, hfield, .inl hother⟩
  | error fault' =>
    rcases hcondition with hcondition | ⟨hlenient, -, fault, hfault, hdata⟩
    · have hvalues := PropertyContext.exists_propertyCondition_iff.mp ⟨condition, hcondition⟩
      obtain ⟨changed, hchanged⟩ := PropertyContext.exists_propertyCondition_iff.mpr
        fun value hvalue => hvalues value (h.2.mem_iff.mpr hvalue)
      cases hother.symm.trans hchanged
    · exact ⟨.everything, field, hfield, .inr ⟨hlenient, rfl, fault', hother,
        PropertyContext.isDataFault_of_not_mixes (hmixes hlenient field hfield) h.2 hfault hdata
          hother⟩⟩

/-- Unless the reasons to refuse values are mixed somewhere, whether a filter can be built does not
    depend on the order of its parts. -/
theorem exists_build_reordered (hplain : tree.WithoutInterceptors)
    (hmixes : ¬ Mixes schema model settings tree) (h : Reordered tree other)
    (hbuilt : ∃ predicate, build schema model settings none tree = .ok predicate) :
    ∃ changed, build schema model settings none other = .ok changed := by
  induction hplain generalizing other model settings with
  | @intro tree hrule hinside ih =>
    obtain ⟨hproperties, hnested⟩ := (exists_build_iff hrule).mp hbuilt
    refine (exists_build_iff (h.interceptor_eq ▸ hrule)).mpr ⟨fun moved hmoved => ?_,
      fun moved hmoved => ?_⟩
    · obtain ⟨filter, hfilter, hreordered⟩ := h.covers_properties.back moved hmoved
      refine exists_buildProperty_reordered hreordered
        (fun hlenient field hfield hmixed => ?_) (hproperties filter hfilter)
      exact hmixes (.here hlenient hfilter hfield hmixed)
    · obtain ⟨entry, hentry, hname, hreordered⟩ := h.covers_nested.back moved hmoved
      obtain ⟨field, target, hfield, hinner⟩ := exists_buildEntry_iff.mp (hnested entry hentry)
      refine exists_buildEntry_iff.mpr ⟨field, target, hname ▸ hfield, ?_⟩
      rw [← hreordered.settings_eq]
      exact ih entry hentry (fun hmixed => hmixes (.inside hentry hfield hmixed)) hreordered hinner

/-- Two property filters with the same value filters have conditions that answer alike, whatever the
    settings. Where values are passed over, both accept everything. -/
theorem interchangeable_buildProperty {filter other : PropertyFilter}
    {condition changed : Predicate} (h : filter.Reordered other)
    (hbuilt : buildProperty model settings none filter = .ok condition)
    (hother : buildProperty model settings none other = .ok changed) :
    condition.Interchangeable schema.relaxed model.relaxed changed := by
  rw [buildProperty_eq_ok_iff_or_passedOver] at hbuilt hother
  obtain ⟨field, hfield, hcondition⟩ := hbuilt
  obtain ⟨field', hfield', hchanged⟩ := hother
  cases hfield.symm.trans (h.1 ▸ hfield')
  have hmem := Model.mem_fields_of_field? (filterableField_eq_ok_iff.mp hfield).1
  have hsound : (PropertyContext.ofField model field settings).Admits
      (Predicate.Sound schema.relaxed model.relaxed) :=
    (PropertyContext.admits_sound schema.relaxed (Model.mem_fields_relaxed hmem) settings).congr
      rfl rfl
  rcases hcondition with hcondition | ⟨-, rfl, fault, hfault, -⟩
  · obtain ⟨moved, hmoved, hlike⟩ := PropertyContext.propertyCondition_perm hsound h.2 hcondition
    rcases hchanged with hchanged | ⟨-, -, fault, hfault, -⟩
    · cases hmoved.symm.trans hchanged
      exact hlike
    · cases hmoved.symm.trans hfault
  · rcases hchanged with hchanged | ⟨-, rfl, -⟩
    · obtain ⟨moved, hmoved, -⟩ := PropertyContext.propertyCondition_perm hsound h.2.symm hchanged
      cases hmoved.symm.trans hfault
    · exact hsound.everything.interchangeable

/-- Attached to a field, two conditions that answer alike do so on the entities around. -/
theorem interchangeable_attach {field : Field} {target : String} {inner changed : Predicate}
    {allowed : Field → Bool} (hfield : field ∈ model.fields)
    (htarget : field.kind.target? = some target)
    (htyped : inner.Typed schema allowed (schema.model target))
    (htyped' : changed.Typed schema allowed (schema.model target))
    (h : inner.Interchangeable schema.relaxed (schema.model target).relaxed changed)
    (hne : inner ≠ .everything) :
    (attach field settings inner).Interchangeable schema.relaxed model.relaxed
      (attach field settings changed) := by
  have hasks := attach_asks field settings ⟨h.sound.settled, hne⟩
  have hasks' := attach_asks field settings ⟨h.sound'.settled, h.everything_iff.not.mp hne⟩
  have hdecides {entity : Entity} (hconforms : Conforms schema.relaxed model.relaxed entity) :
      ∃ asked : Entity → Prop, (attach field settings inner).Decides asked entity ∧
        (attach field settings changed).Decides asked entity := by
    obtain ⟨asked, hasked⟩ := exists_attach_decides htarget
      (hconforms.fits (Model.mem_fields_relaxed hfield)) settings
      fun related => inner.Accepts true related
    exact ⟨asked, hasked inner htyped fun related hrelated => ⟨h.sound.evaluates hrelated, .rfl⟩,
      hasked changed htyped' fun related hrelated =>
        ⟨h.sound'.evaluates hrelated, (h.accepts_iff hrelated).symm⟩⟩
  refine ⟨⟨hasks.1, fun hconforms => ?_⟩, ⟨hasks'.1, fun hconforms => ?_⟩,
    iff_of_false hasks.2 hasks'.2, fun hconforms => ?_⟩
  · obtain ⟨asked, hinner, -⟩ := hdecides hconforms
    exact hinner.1
  · obtain ⟨asked, -, hchanged⟩ := hdecides hconforms
    exact hchanged.1
  · obtain ⟨asked, hinner, hchanged⟩ := hdecides hconforms
    exact hinner.2.trans hchanged.2.symm

/-- Filters within whose conditions answer alike add conditions that answer alike. -/
theorem covers_buildEntry {entry moved : String × FilterTree} {parts changed : List Predicate}
    (hplain : entry.2.WithoutInterceptors) (hplain' : moved.2.WithoutInterceptors)
    (hname : entry.1 = moved.1) (hown : entry.2.settings = moved.2.settings)
    (hinner : ∀ {target inner other},
      build schema (schema.model target) (entry.2.settings.getD settings) none entry.2 = .ok inner →
      build schema (schema.model target) (entry.2.settings.getD settings) none moved.2 = .ok other →
      inner.Interchangeable schema.relaxed (schema.model target).relaxed other)
    (hbuilt : buildEntry schema model settings none entry = .ok parts)
    (hother : buildEntry schema model settings none moved = .ok changed) :
    Covers (Predicate.Interchangeable schema.relaxed model.relaxed) parts changed := by
  obtain ⟨field, target, inner, hfield, hinnerBuilt, hparts⟩ := buildEntry_eq_ok_iff.mp hbuilt
  obtain ⟨field', target', other, hfield', hotherBuilt, hchanged⟩ := buildEntry_eq_ok_iff.mp hother
  cases hfield.symm.trans (hname ▸ hfield')
  rw [← hown] at hotherBuilt
  have hlike := hinner hinnerBuilt hotherBuilt
  obtain ⟨hfield, htarget⟩ := navigableField_eq_ok_iff.mp hfield
  rcases hparts with ⟨heverything, rfl⟩ | ⟨hne, rfl⟩
  · rcases hchanged with ⟨-, rfl⟩ | ⟨hne, rfl⟩
    · exact ⟨nofun, nofun⟩
    · exact absurd (hlike.everything_iff.mp heverything) hne
  · rcases hchanged with ⟨heverything, rfl⟩ | ⟨-, rfl⟩
    · exact absurd (hlike.everything_iff.mpr heverything) hne
    · have hattached : (attach field settings inner).Interchangeable schema.relaxed model.relaxed
          (attach field settings other) :=
        interchangeable_attach (Model.mem_fields_of_field? (filterableField_eq_ok_iff.mp hfield).1)
          htarget (build_typed hplain hinnerBuilt) (build_typed hplain' hotherBuilt) hlike hne
      constructor <;> simpa using hattached

/-- In whichever order its parts are, a filter that can be built says the same of entities. -/
theorem interchangeable_build {predicate changed : Predicate} (hplain : tree.WithoutInterceptors)
    (h : Reordered tree other)
    (hbuilt : build schema model settings none tree = .ok predicate)
    (hother : build schema model settings none other = .ok changed) :
    predicate.Interchangeable schema.relaxed model.relaxed changed := by
  have hplain' := h.withoutInterceptors hplain
  induction hplain generalizing other model settings predicate changed with
  | @intro tree hrule hinside ih =>
    obtain ⟨conditions, inner, hconditions, hinner, rfl⟩ := (build_eq_ok_iff hrule).mp hbuilt
    obtain ⟨conditions', inner', hconditions', hinner', rfl⟩ :=
      (build_eq_ok_iff hplain'.here).mp hother
    -- Each step has its like among those of the other build, in whichever order they are taken.
    have hcovers :
        Covers (Predicate.Interchangeable schema.relaxed model.relaxed) conditions conditions' :=
      h.covers_properties.of_forall₂ hconditions hconditions'
        fun _ _ _ hmoved _ _ => interchangeable_buildProperty hmoved
    have hcoversInner := h.covers_nested.of_forall₂ hinner hinner'
      fun entry hentry moved hmoved _ _ => covers_buildEntry (hinside entry hentry)
        (hmoved.2.withoutInterceptors (hinside entry hentry)) hmoved.1 hmoved.2.settings_eq
        fun hbuilt hother => ih entry hentry hmoved.2 hbuilt hother
          (hmoved.2.withoutInterceptors (hinside entry hentry))
    exact .allOf (hcovers.append hcoversInner.flatten)

/-- Whether a filter can be built and what it says of entities does not depend on the order of
    its parts. -/
theorem build_reordered {predicate : Predicate} (hplain : tree.WithoutInterceptors)
    (hcareful : SettingsEverywhere FilterSettings.Careful settings tree)
    (h : Reordered tree other) (hbuilt : build schema model settings none tree = .ok predicate) :
    ∃ changed, build schema model settings none other = .ok changed ∧
      predicate.Interchangeable schema model changed := by
  obtain ⟨changed, hchanged⟩ :=
    exists_build_reordered hplain (not_mixes_of_careful hcareful) h ⟨predicate, hbuilt⟩
  exact ⟨changed, hchanged, (interchangeable_build hplain h hbuilt hchanged).of_relaxed⟩

/-- The property filters of one filter and then those of another, and likewise the filters
    within. -/
def join (first second : FilterTree) : FilterTree :=
  { first with
    properties := first.properties ++ second.properties
    nested := first.nested ++ second.nested }

theorem accepts_build_iff {tree : FilterTree} (hplain : tree.interceptor = none)
    {predicate : Predicate} (hbuilt : build schema model settings none tree = .ok predicate)
    {guarded : Bool} {entity : Entity} :
    predicate.Accepts guarded entity ↔
      (∀ filter ∈ tree.properties, ∀ condition,
        buildProperty model settings none filter = .ok condition →
          condition.Accepts guarded entity) ∧
      ∀ entry ∈ tree.nested, ∀ parts, buildEntry schema model settings none entry = .ok parts →
        ∀ part ∈ parts, part.Accepts guarded entity := by
  obtain ⟨conditions, inner, hconditions, hinner, rfl⟩ := (build_eq_ok_iff hplain).mp hbuilt
  rw [Predicate.accepts_allOf_iff, List.forall_mem_append, List.forall_mem_flatten]
  refine and_congr (forall_mem_iff_of_forall₂ hconditions ?_).symm
    (forall_mem_iff_of_forall₂ hinner ?_).symm
  · intro filter _ condition hcondition
    simp [hcondition]
  · intro entry _ parts hparts
    simp [hparts]

theorem exists_build_join_iff {first second : FilterTree} (hfirst : first.interceptor = none)
    (hsecond : second.interceptor = none) :
    (∃ joined, build schema model settings none (first.join second) = .ok joined) ↔
      (∃ predicate, build schema model settings none first = .ok predicate) ∧
        ∃ predicate, build schema model settings none second = .ok predicate := by
  have hjoin : (first.join second).interceptor = none := hfirst
  rw [exists_build_iff hjoin, exists_build_iff hfirst, exists_build_iff hsecond]
  simp only [join, List.forall_mem_append]
  exact and_and_and_comm

theorem accepts_join_iff {first second : FilterTree} {joined predicate other : Predicate}
    (hfirst : first.interceptor = none) (hsecond : second.interceptor = none)
    (hjoined : build schema model settings none (first.join second) = .ok joined)
    (hbuilt : build schema model settings none first = .ok predicate)
    (hother : build schema model settings none second = .ok other) {guarded : Bool}
    {entity : Entity} :
    joined.Accepts guarded entity ↔
      predicate.Accepts guarded entity ∧ other.Accepts guarded entity := by
  have hjoin : (first.join second).interceptor = none := hfirst
  rw [accepts_build_iff hjoin hjoined, accepts_build_iff hfirst hbuilt,
    accepts_build_iff hsecond hother]
  simp only [join, List.forall_mem_append]
  exact and_and_and_comm

theorem join_withoutInterceptors {first second : FilterTree} (hfirst : first.WithoutInterceptors)
    (hsecond : second.WithoutInterceptors) : (first.join second).WithoutInterceptors :=
  .intro hfirst.here (List.forall_mem_append.mpr ⟨hfirst.inside, hsecond.inside⟩)

theorem SettingsEverywhere.reordered {required : FilterSettings → Prop} {tree other : FilterTree}
    (h : Reordered tree other) (htree : SettingsEverywhere required settings tree) :
    SettingsEverywhere required settings other := by
  refine ⟨htree.1, fun entry hentry => ?_⟩
  obtain ⟨source, hsource, -, hinner⟩ := h.covers_nested.back entry hentry
  exact Reordered.everywhere (htree.2 source hsource) hinner
    fun hown _ hrequired => hown ▸ hrequired

/-- Filters are conjunctive, and their order makes no difference. Two filters joined can be built
    exactly if each of them can, and they accept the entities that both accept. A filter in another
    order can be built exactly if the filter can, and it has the same verdicts. -/
theorem verdicts_of_join_and_reordered {first second : FilterTree}
    (hfirst : first.WithoutInterceptors) (hsecond : second.WithoutInterceptors)
    (hcareful : SettingsEverywhere FilterSettings.Careful settings first) :
    ((∃ joined, build schema model settings none (first.join second) = .ok joined) ↔
      (∃ predicate, build schema model settings none first = .ok predicate) ∧
        ∃ other, build schema model settings none second = .ok other) ∧
    (∀ joined predicate other,
      build schema model settings none (first.join second) = .ok joined →
      build schema model settings none first = .ok predicate →
      build schema model settings none second = .ok other →
      ∀ entity, Conforms schema model entity → ∃ verdict verdict',
        predicate.evaluate true entity = .ok verdict ∧
        other.evaluate true entity = .ok verdict' ∧
        joined.evaluate true entity = .ok (verdict && verdict')) ∧
    ∀ reordered, first.Reordered reordered →
      ((∃ predicate, build schema model settings none first = .ok predicate) ↔
        ∃ changed, build schema model settings none reordered = .ok changed) ∧
      ∀ predicate changed, build schema model settings none first = .ok predicate →
        build schema model settings none reordered = .ok changed →
        ∀ entity, Conforms schema model entity → ∃ verdict,
          predicate.evaluate true entity = .ok verdict ∧
          changed.evaluate true entity = .ok verdict := by
  refine ⟨exists_build_join_iff hfirst.here hsecond.here, ?_, fun reordered h => ⟨⟨?_, ?_⟩, ?_⟩⟩
  · intro joined predicate other hjoined hbuilt hother entity hconforms
    obtain ⟨verdict, hverdict⟩ := (build_typed hfirst hbuilt).evaluates hconforms
    obtain ⟨verdict', hverdict'⟩ := (build_typed hsecond hother).evaluates hconforms
    obtain ⟨both, hboth⟩ := (build_typed (join_withoutInterceptors hfirst hsecond)
      hjoined).evaluates hconforms
    refine ⟨verdict, verdict', hverdict, hverdict', ?_⟩
    have haccepts : joined.Accepts true entity ↔
        predicate.Accepts true entity ∧ other.Accepts true entity :=
      accepts_join_iff hfirst.here hsecond.here hjoined hbuilt hother
    simp only [Predicate.Accepts, hboth, hverdict, hverdict', Except.ok.injEq] at haccepts
    rw [hboth, Except.ok.injEq, Bool.eq_iff_iff, haccepts, Bool.and_eq_true]
  · rintro ⟨predicate, hbuilt⟩
    obtain ⟨changed, hchanged, -⟩ := build_reordered hfirst hcareful h hbuilt
    exact ⟨changed, hchanged⟩
  · rintro ⟨changed, hchanged⟩
    obtain ⟨predicate, hbuilt, -⟩ := build_reordered (h.withoutInterceptors hfirst)
      (hcareful.reordered h) h.symm hchanged
    exact ⟨predicate, hbuilt⟩
  · intro predicate changed hbuilt hchanged entity hconforms
    obtain ⟨other, hother, hlike⟩ := build_reordered hfirst hcareful h hbuilt
    cases hchanged.symm.trans hother
    obtain ⟨verdict, hverdict⟩ := hlike.sound.evaluates hconforms
    exact ⟨verdict, hverdict, hlike.evaluate_eq hconforms ▸ hverdict⟩

private def either (name other : String) : FilterTree :=
  ⟨[⟨"Name", [⟨.equalCaseSensitive, some name⟩, ⟨.equalCaseSensitive, some other⟩]⟩], [], none,
    none⟩

/-- Teams that Ann or Bob leads and that Bob is a member of. -/
private def ledByEither : FilterTree :=
  ⟨[], [("Lead", either "Ann" "Bob"), ("Members", Teams.named "Bob")], none, none⟩

/-- The same teams, with Bob as a member asked for first, and as the lead likewise. -/
private def bobFirst : FilterTree :=
  ⟨[], [("Members", Teams.named "Bob"), ("Lead", either "Bob" "Ann")], none, none⟩

private theorem reordered_bobFirst : Reordered ledByEither bobFirst :=
  .trans (.nested (.swap _ _ [])) (@Reordered.inside [] [("Members", Teams.named "Bob")] [] "Lead"
    _ _ none none (@Reordered.values [] [] "Name" _ _ [] none none (.swap _ _ [])))

/-- A team that two filters accept is accepted by both together and by either in another order. -/
theorem verdicts_of_join_and_reordered_led : ∃ joined changed,
    build Teams.schema Teams.team (Teams.settings .whenCompiled) none
      (ledByEither.join Teams.tree) = .ok joined ∧
    joined.evaluate true Teams.led = .ok true ∧
    build Teams.schema Teams.team (Teams.settings .whenCompiled) none bobFirst = .ok changed ∧
    changed.evaluate true Teams.led = .ok true := by
  have heverywhere {P : FilterTree → Prop} (heither : P (either "Ann" "Bob"))
      (hnamed : P (Teams.named "Bob")) : ∀ entry ∈ ledByEither.nested, entry.2.Everywhere P := by
    simp only [ledByEither, List.forall_mem_cons]
    exact ⟨.intro heither nofun, .intro hnamed nofun, nofun⟩
  have hcareful : SettingsEverywhere FilterSettings.Careful (Teams.settings .whenCompiled)
      ledByEither :=
    ⟨⟨rfl, rfl⟩, heverywhere (fun _ hown => nomatch hown) fun _ hown => nomatch hown⟩
  obtain ⟨hjoin, hverdicts, hreordered⟩ :=
    @verdicts_of_join_and_reordered Teams.schema Teams.team _ _ _
      (.intro rfl (heverywhere rfl rfl)) Teams.withoutInterceptors hcareful
  obtain ⟨hbuilds, hsame⟩ := hreordered bobFirst reordered_bobFirst
  obtain ⟨joined, hjoined⟩ := hjoin.mpr ⟨⟨_, rfl⟩, ⟨_, rfl⟩⟩
  obtain ⟨changed, hchanged⟩ := hbuilds.mp ⟨_, rfl⟩
  refine ⟨joined, changed, hjoined, ?_, hchanged, ?_⟩
  · obtain ⟨verdict, verdict', hverdict, hverdict', hboth⟩ :=
      hverdicts joined _ _ hjoined rfl rfl Teams.led led_conforms
    cases hverdict
    cases hverdict'
    exact hboth
  · obtain ⟨verdict, hverdict, hother⟩ := hsame _ changed rfl hchanged Teams.led led_conforms
    cases hverdict
    exact hother

end FilterTree

end EntityQuery
