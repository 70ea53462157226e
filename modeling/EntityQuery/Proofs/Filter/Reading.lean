import EntityQuery.Proofs.Conformance
import EntityQuery.Proofs.Filter.Build
import EntityQuery.Proofs.Predicate.Rebase

namespace EntityQuery

variable {schema : Schema} {model : Model} {settings : FilterSettings} {entity : Entity}

/-- Some entity that a field leads to is as asked. -/
def Field.LeadsTo (field : Field) (asked : Entity → Prop) (entity : Entity) : Prop :=
  match field.kind with
  | .navigation _ => ∃ related, entity.get field.name = .object related ∧ asked related
  | .collection _ => ∃ items, entity.get field.name = .list items ∧ ∃ item ∈ items, asked item
  | _ => False

namespace FilterTree

mutual

/-- What a filter asks of an entity. Each property filter on its own has a condition that
    accepts the entity, and each filter within is met by some entity that its field leads to,
    unless it asks for nothing. -/
def Satisfies (schema : Schema) (model : Model) (settings : FilterSettings) :
    FilterTree → Entity → Prop
  | ⟨properties, nested, _, _⟩, entity =>
    (∀ filter ∈ properties, ∃ condition,
      buildProperty model settings none filter = .ok condition ∧ condition.Accepts true entity) ∧
    SatisfiesNested schema model settings nested entity

/-- What the filters within ask of the entity around. -/
def SatisfiesNested (schema : Schema) (model : Model) (settings : FilterSettings) :
    List (String × FilterTree) → Entity → Prop
  | [], _ => True
  | (property, tree) :: rest, entity =>
    (∃ field target, model.field? property = some field ∧ field.kind.target? = some target ∧
      (build schema (schema.model target) (tree.settings.getD settings) none tree ≠
          .ok .everything →
        field.LeadsTo (Satisfies schema (schema.model target) (tree.settings.getD settings) tree)
          entity)) ∧
    SatisfiesNested schema model settings rest entity

end

/-- What one filter within asks of the entity around. -/
def SatisfiesEntry (schema : Schema) (model : Model) (settings : FilterSettings)
    (entry : String × FilterTree) (entity : Entity) : Prop :=
  ∃ field target, model.field? entry.1 = some field ∧ field.kind.target? = some target ∧
    (build schema (schema.model target) (entry.2.settings.getD settings) none entry.2 ≠
        .ok .everything →
      field.LeadsTo
        (Satisfies schema (schema.model target) (entry.2.settings.getD settings) entry.2) entity)

theorem satisfiesNested_iff {nested : List (String × FilterTree)} :
    SatisfiesNested schema model settings nested entity ↔
      ∀ entry ∈ nested, SatisfiesEntry schema model settings entry entity := by
  induction nested with
  | nil => simp [SatisfiesNested]
  | cons entry rest ih =>
    obtain ⟨property, tree⟩ := entry
    rw [SatisfiesNested, ih, List.forall_mem_cons]
    rfl

theorem satisfies_iff {tree : FilterTree} :
    tree.Satisfies schema model settings entity ↔
      (∀ filter ∈ tree.properties, ∃ condition,
        buildProperty model settings none filter = .ok condition ∧
          condition.Accepts true entity) ∧
      ∀ entry ∈ tree.nested, SatisfiesEntry schema model settings entry entity := by
  obtain ⟨properties, nested, own, rule⟩ := tree
  rw [Satisfies, satisfiesNested_iff]

end FilterTree

/-- The predicate tells without a fault whether an entity is as asked. -/
def Predicate.Decides (predicate : Predicate) (asked : Entity → Prop) (entity : Entity) : Prop :=
  predicate.Evaluates true entity ∧ (predicate.Accepts true entity ↔ asked entity)

namespace Predicate

variable {predicate : Predicate} {asked : Entity → Prop}

theorem decides_of_rejects (hrejects : predicate.evaluate true entity = .ok false)
    (hasked : ¬ asked entity) : predicate.Decides asked entity := by
  refine ⟨⟨false, hrejects⟩, fun haccepts => ?_, fun h => absurd h hasked⟩
  rw [Accepts, hrejects] at haccepts
  cases haccepts

/-- On the longer path a predicate tells of an entity what it tells of the related one. -/
theorem decides_rebase {related : Entity} {name : String} (conditional : Bool)
    (hvalue : entity.get name = .object related) (hdecides : predicate.Decides asked related) :
    (predicate.rebase (Access.root.member name conditional)).Decides (fun _ => asked related)
      entity := by
  have hresolve : (Access.root.member name conditional).resolve entity true =
      .ok (.object related) := by
    rw [Access.resolve_member, hvalue]
  have hsame := (evaluate_rebase_sameOutcome hresolve predicate).ok_iff
  obtain ⟨⟨verdict, hverdict⟩, haccepts⟩ := hdecides
  exact ⟨⟨verdict, (hsame verdict).mpr hverdict⟩, (hsame true).trans haccepts⟩

/-- A predicate on the entities of a collection tells whether one of them is as asked. -/
theorem decides_anyIn {items : List Entity} {name : String} {conditional : Bool}
    (hitems : itemsOf (Access.root.member name conditional) true (entity.get name) = .ok items)
    (hdecides : ∀ item ∈ items, predicate.Decides asked item) :
    (anyIn (Access.root.member name conditional) predicate).Decides
      (fun _ => ∃ item ∈ items, asked item) entity := by
  by_cases hnothing : predicate = .nothing
  · subst hnothing
    apply decides_of_rejects rfl
    rintro ⟨item, hitem, hasked⟩
    cases (hdecides item hitem).2.mpr hasked
  · have heval : (any (Access.root.member name conditional) predicate).evaluate true entity =
        items.anyM (predicate.evaluate true) := by
      rw [evaluate_any, Access.resolve_member]
      simp only [bind, Except.bind, hitems]
    have hverdicts : ∀ item ∈ items, predicate.Evaluates true item :=
      fun item hitem => (hdecides item hitem).1
    rw [anyIn_eq_any hnothing, Decides, Evaluates, Accepts, heval, anyM_eq_true_iff hverdicts]
    refine ⟨anyM_ok hverdicts, exists_congr fun item => and_congr_right fun hitem => ?_⟩
    exact (hdecides item hitem).2

end Predicate

namespace FilterTree

variable {field : Field} {target : String} {inner : Predicate} {asked : Entity → Prop}

/-- A checked field without a related entity leads to none. -/
theorem attach_missing_decides (hkind : field.kind = .navigation target)
    (hmissing : entity.get field.name = .null)
    (hchecked : (field.nullable && settings.conditionalAccess.guardsEvaluation) = true)
    (inner : Predicate) (asked : Entity → Prop) :
    (attach field settings inner).Decides (field.LeadsTo asked) entity := by
  simp only [attach, hkind, FieldKind.isCollection, hchecked, Bool.false_eq_true, if_false, if_true]
  refine Predicate.decides_of_rejects (Predicate.evaluate_allOf_cons_of_rejects ?_ _) ?_
  · rw [Predicate.evaluate, Access.resolve_member, hmissing]
    rfl
  · simp [Field.LeadsTo, hkind, hmissing]

theorem attach_navigation_decides {related : Entity} (hkind : field.kind = .navigation target)
    (hrelated : entity.get field.name = .object related) (hinner : inner.Decides asked related) :
    (attach field settings inner).Decides (field.LeadsTo asked) entity := by
  simp only [attach, hkind, FieldKind.isCollection, Bool.false_eq_true, if_false]
  generalize settings.conditionalAccess.guardsTree = conditional
  have hleads : field.LeadsTo asked entity ↔ asked related := by
    simp [Field.LeadsTo, hkind, hrelated]
  have hrebased := Predicate.decides_rebase conditional hrelated hinner
  rw [Predicate.Decides, hleads]
  split
  · have hnotNull : (Predicate.notNull (Access.root.member field.name conditional)).evaluate true
        entity = .ok true := by
      rw [Predicate.evaluate, Access.resolve_member, hrelated]
      rfl
    refine ⟨(Predicate.simplifiable_evaluates true entity).allOf ?_, ?_⟩
    · rw [List.forall_mem_cons, List.forall_mem_singleton]
      exact ⟨⟨true, hnotNull⟩, hrebased.1⟩
    · rw [Predicate.accepts_allOf_iff, List.forall_mem_cons, List.forall_mem_singleton]
      exact ⟨fun h => hrebased.2.mp h.2, fun h => ⟨hnotNull, hrebased.2.mpr h⟩⟩
  · exact hrebased

theorem attach_collection_decides (hkind : field.kind = .collection target)
    (hvalue : entity.get field.name = .null ∨ ∃ items, entity.get field.name = .list items ∧
      ∀ item ∈ items, inner.Decides asked item) :
    (attach field settings inner).Decides (field.LeadsTo asked) entity := by
  simp only [attach, hkind, FieldKind.isCollection, if_true]
  rcases hvalue with hnull | ⟨items, hvalue, hitems⟩
  · have hleads : field.LeadsTo asked entity ↔ ∃ item ∈ [], asked item := by
      simp [Field.LeadsTo, hkind, hnull]
    rw [Predicate.Decides, hleads]
    exact Predicate.decides_anyIn (by rw [hnull]; rfl) fun item hitem => nomatch hitem
  · have hleads : field.LeadsTo asked entity ↔ ∃ item ∈ items, asked item := by
      simp [Field.LeadsTo, hkind, hvalue]
    rw [Predicate.Decides, hleads]
    exact Predicate.decides_anyIn (by rw [hvalue]; rfl) hitems

/-- Attached to a field, a condition tells whether the field leads to an entity as asked. -/
theorem attach_decides (htarget : field.kind.target? = some target)
    (hfits : Fits schema field (entity.get field.name))
    (hguards : settings.conditionalAccess.guardsEvaluation = true)
    (hinner : ∀ related, Conforms schema (schema.model target) related →
      inner.Decides asked related) :
    (attach field settings inner).Decides (field.LeadsTo asked) entity := by
  rcases FieldKind.target?_eq_some_iff.mp htarget with hkind | hkind
  · rcases hfits.navigation hkind with ⟨hnull, hnullable⟩ | ⟨related, hrelated, hconforms⟩
    · exact attach_missing_decides hkind hnull (by simp [hnullable, hguards]) inner asked
    · exact attach_navigation_decides hkind hrelated (hinner related hconforms)
  · refine attach_collection_decides hkind ((hfits.collection hkind).imp_right ?_)
    rintro ⟨items, hvalue, hconforms⟩
    exact ⟨items, hvalue, fun item hitem => hinner item (hconforms item hitem)⟩

/-- A filter within asks of the entity around what its attached condition tells. -/
private theorem buildEntry_decides {entry : String × FilterTree} {parts : List Predicate}
    (hguards : settings.conditionalAccess.guardsEvaluation = true)
    (hconforms : Conforms schema model entity)
    (hinner : ∀ {target inner}, build schema (schema.model target)
      (entry.2.settings.getD settings) none entry.2 = .ok inner →
      ∀ related, Conforms schema (schema.model target) related → inner.Decides
        (entry.2.Satisfies schema (schema.model target) (entry.2.settings.getD settings)) related)
    (hbuilt : buildEntry schema model settings none entry = .ok parts) :
    (∀ part ∈ parts, part.Evaluates true entity) ∧
      (SatisfiesEntry schema model settings entry entity ↔
        ∀ part ∈ parts, part.Accepts true entity) := by
  obtain ⟨⟨field, target⟩, hfield, hbuilt⟩ := bind_eq_ok_iff.mp hbuilt
  obtain ⟨inner, hinnerBuilt, hparts⟩ := bind_eq_ok_iff.mp hbuilt
  obtain ⟨hfound, htarget⟩ := navigableField_eq_ok_iff.mp hfield
  replace hfound := (filterableField_eq_ok_iff.mp hfound).1
  have hsatisfies : SatisfiesEntry schema model settings entry entity ↔
      (inner ≠ .everything → field.LeadsTo (entry.2.Satisfies schema (schema.model target)
        (entry.2.settings.getD settings)) entity) := by
    simp [SatisfiesEntry, hfound, htarget, hinnerBuilt]
  rw [hsatisfies]
  cases heverything : inner.isEverything with
  | true =>
    obtain rfl := Predicate.isEverything_iff.mp heverything
    obtain rfl : parts = [] := by cases hparts; rfl
    simp
  | false =>
    have hne : inner ≠ .everything := by
      rintro rfl
      cases heverything
    rw [heverything] at hparts
    cases hparts
    have hattached := attach_decides htarget
      (hconforms.fits (Model.mem_fields_of_field? hfound)) hguards (hinner hinnerBuilt)
    refine ⟨by simpa using hattached.1, ?_⟩
    simpa [hne] using hattached.2.symm

/-- Missing entities are checked for under a filter's settings and under all settings within. -/
def ChecksMissing (settings : FilterSettings) (tree : FilterTree) : Prop :=
  settings.conditionalAccess.guardsEvaluation = true ∧
    ∀ entry ∈ tree.nested, entry.2.Everywhere fun part =>
      ∀ own, part.settings = some own → own.conditionalAccess.guardsEvaluation = true

private theorem ChecksMissing.inside {tree : FilterTree} (h : ChecksMissing settings tree)
    {entry : String × FilterTree} (hentry : entry ∈ tree.nested) :
    ChecksMissing (entry.2.settings.getD settings) entry.2 := by
  have hchecks : SettingsEverywhere (fun own => own.conditionalAccess.guardsEvaluation = true)
      settings tree := h
  exact hchecks.inside hentry

/-- A filter compiles to what it says. On an entity of the type, with missing entities checked
    for, its predicate gives a verdict without a fault, and it accepts the entities that the
    filter asks for when it is read directly. -/
theorem evaluate_build_iff {tree : FilterTree} {predicate : Predicate}
    (hplain : tree.WithoutInterceptors) (hchecks : ChecksMissing settings tree)
    (hconforms : Conforms schema model entity)
    (hbuilt : build schema model settings none tree = .ok predicate) :
    ∃ verdict, predicate.evaluate true entity = .ok verdict ∧
      (verdict = true ↔ tree.Satisfies schema model settings entity) := by
  suffices hdecides : predicate.Decides (tree.Satisfies schema model settings) entity by
    obtain ⟨⟨verdict, hverdict⟩, haccepts⟩ := hdecides
    refine ⟨verdict, hverdict, ?_⟩
    rw [← haccepts, Predicate.Accepts, hverdict, Except.ok.injEq]
  -- On the way into the filter the type, the settings and the entity all change.
  induction hplain generalizing model settings entity predicate with
  | @intro tree hrule _ ih =>
    obtain ⟨conditions, inner, hconditions, hinner, rfl⟩ := (build_eq_ok_iff hrule).mp hbuilt
    have hentries : ∀ entry ∈ tree.nested, ∀ parts,
        buildEntry schema model settings none entry = .ok parts →
        (∀ part ∈ parts, part.Evaluates true entity) ∧
          (SatisfiesEntry schema model settings entry entity ↔
            ∀ part ∈ parts, part.Accepts true entity) := by
      intro entry hentry parts hparts
      refine buildEntry_decides hchecks.1 hconforms (fun hbuilt related hrelated => ?_) hparts
      exact ih entry hentry (hchecks.inside hentry) hrelated hbuilt
    constructor
    · refine (Predicate.simplifiable_evaluates true entity).allOf fun part hpart => ?_
      rcases List.mem_append.mp hpart with hcondition | hflat
      · obtain ⟨filter, _, hfilter⟩ := exists_of_forall₂_mem hconditions hcondition
        exact buildProperty_admits (fun field hfield =>
          PropertyContext.admits_evaluates (hconforms.fits hfield) model settings true) hfilter
      · obtain ⟨parts, hparts, hpart⟩ := List.mem_flatten.mp hflat
        obtain ⟨entry, hentry, hbuilt⟩ := exists_of_forall₂_mem hinner hparts
        exact (hentries entry hentry parts hbuilt).1 part hpart
    · rw [Predicate.accepts_allOf_iff, satisfies_iff, List.forall_mem_append,
        List.forall_mem_flatten]
      refine and_congr (forall_mem_iff_of_forall₂ hconditions ?_).symm
        (forall_mem_iff_of_forall₂ hinner ?_).symm
      · intro filter _ condition hcondition
        simp [hcondition]
      · exact fun entry hentry parts hparts => (hentries entry hentry parts hparts).2

theorem person_conforms (name : String) :
    Conforms Teams.schema Teams.person (.ofProperties [("Name", .text name)]) := by
  refine .intro fun field hfield => ?_
  rcases List.mem_singleton.mp hfield with rfl
  exact .value (.text name)

theorem led_conforms : Conforms Teams.schema Teams.team Teams.led := by
  refine .intro fun field hfield => ?_
  rcases List.mem_pair.mp hfield with rfl | rfl
  · exact .value (.navigation (person_conforms "Ann"))
  · refine .value (.collection fun item hitem => ?_)
    rcases List.mem_pair.mp hitem with rfl | rfl
    · exact person_conforms "Bob"
    · exact person_conforms "Ann"

/-- The two filters on the members of a team are met by different people. -/
theorem satisfies_teams :
    Teams.tree.Satisfies Teams.schema Teams.team (Teams.settings .whenCompiled) Teams.led := by
  have hchecks : ChecksMissing (Teams.settings .whenCompiled) Teams.tree :=
    ⟨rfl, Teams.nested_everywhere fun _ _ hown => nomatch hown⟩
  obtain ⟨verdict, hverdict, hsatisfies⟩ :=
    evaluate_build_iff Teams.withoutInterceptors hchecks led_conforms rfl
  apply hsatisfies.mp
  cases hverdict
  rfl

end FilterTree

end EntityQuery
