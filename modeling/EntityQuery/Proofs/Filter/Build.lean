import EntityQuery.Filter.Build
import EntityQuery.Proofs.Condition
import EntityQuery.Proofs.Model

namespace EntityQuery

namespace FilterTree

/-- What holds of a filter and of all filters within it. -/
inductive Everywhere (P : FilterTree → Prop) : FilterTree → Prop
  | intro {tree : FilterTree} (here : P tree)
    (inside : ∀ entry ∈ tree.nested, Everywhere P entry.2) : Everywhere P tree

/-- No rule of its own replaces the conditions of the filter or of one within it. -/
def WithoutInterceptors (tree : FilterTree) : Prop :=
  tree.Everywhere fun part => part.interceptor = none

/-- The filters within have no settings of their own. -/
def SharesSettings (tree : FilterTree) : Prop :=
  ∀ entry ∈ tree.nested, entry.2.Everywhere fun part => part.settings = none

/-- The settings of a build are as required, and so are those that filters within have. -/
def SettingsEverywhere (required : FilterSettings → Prop) (settings : FilterSettings)
    (tree : FilterTree) : Prop :=
  required settings ∧ ∀ entry ∈ tree.nested, entry.2.Everywhere fun part =>
    ∀ own, part.settings = some own → required own

namespace Everywhere

variable {P : FilterTree → Prop} {tree : FilterTree}

theorem here (h : tree.Everywhere P) : P tree := by
  cases h with
  | intro here _ => exact here

theorem inside (h : tree.Everywhere P) : ∀ entry ∈ tree.nested, entry.2.Everywhere P := by
  cases h with
  | intro _ inside => exact inside

end Everywhere

/-- A filter within is built with its own settings, or else with those of the filter around it. -/
theorem SettingsEverywhere.inside {required : FilterSettings → Prop} {settings : FilterSettings}
    {tree : FilterTree} (h : SettingsEverywhere required settings tree)
    {entry : String × FilterTree} (hentry : entry ∈ tree.nested) :
    SettingsEverywhere required (entry.2.settings.getD settings) entry.2 := by
  refine ⟨?_, (h.2 entry hentry).inside⟩
  cases hown : entry.2.settings with
  | none => exact h.1
  | some own => exact (h.2 entry hentry).here own hown

theorem filterableField_eq_ok_iff {model : Model} {property : String} {field : Field} :
    filterableField model property = .ok field ↔
      model.field? property = some field ∧ field.filterable = true := by
  unfold filterableField
  cases model.field? property with
  | none => simp
  | some found =>
    by_cases hopen : found.filterable = true
    · simp only [hopen, if_true, Except.ok.injEq, Option.some.injEq]
      exact ⟨fun h => ⟨h, h ▸ hopen⟩, fun h => h.1⟩
    · simp only [if_neg hopen, Option.some.injEq]
      exact ⟨fun h => (nomatch h), fun h => absurd (h.1 ▸ h.2) hopen⟩

theorem navigableField_eq_ok_iff {model : Model} {property target : String} {field : Field} :
    navigableField model property = .ok (field, target) ↔
      filterableField model property = .ok field ∧ field.kind.target? = some target := by
  unfold navigableField
  cases filterableField model property with
  | error fault => simp [bind, Except.bind]
  | ok found =>
    cases htarget : found.kind.target? with
    | none =>
      simp only [bind, Except.bind, htarget, throw, throwThe, MonadExceptOf.throw]
      exact ⟨fun h => (nomatch h), fun ⟨hfound, h⟩ => by cases hfound; simp [htarget] at h⟩
    | some actual =>
      simp only [bind, Except.bind, htarget, pure, Except.pure, Except.ok.injEq, Prod.mk.injEq]
      exact ⟨fun ⟨hfound, h⟩ => ⟨hfound, hfound ▸ h ▸ htarget⟩,
        fun ⟨hfound, h⟩ => ⟨hfound, by simpa [hfound.symm, htarget] using h⟩⟩

variable {schema : Schema} {model : Model} {settings : FilterSettings}
  {interceptor : Option Interceptor}

/-- The conditions that a filter within adds, of which there are none if it accepts
    everything. -/
def buildEntry (schema : Schema) (model : Model) (settings : FilterSettings)
    (interceptor : Option Interceptor) (entry : String × FilterTree) :
    Except Fault (List Predicate) := do
  let (field, target) ← navigableField model entry.1
  let inner ← build schema (schema.model target) (entry.2.settings.getD settings) interceptor
    entry.2
  return if inner.isEverything then [] else [attach field settings inner]

theorem buildNested_eq (nested : List (String × FilterTree)) :
    buildNested schema model settings interceptor nested =
      (do return (← nested.mapM (buildEntry schema model settings interceptor)).flatten) := by
  induction nested with
  | nil => rfl
  | cons entry rest ih =>
    rw [buildNested, ih, List.mapM_cons, buildEntry]
    simp only [bind_assoc, pure_bind]
    congr 1
    funext ⟨field, target⟩
    congr 1
    funext inner
    congr 1
    funext others
    cases inner.isEverything <;> rfl

theorem build_eq (tree : FilterTree) (hplain : tree.interceptor = none) :
    build schema model settings none tree = (do
      let conditions ← tree.properties.mapM (buildProperty model settings none)
      let inner ← tree.nested.mapM (buildEntry schema model settings none)
      return .allOf (conditions ++ inner.flatten)) := by
  obtain ⟨properties, nested, own, rule⟩ := tree
  cases hplain
  rw [build, buildNested_eq]
  simp only [bind_assoc, pure_bind]
  rfl

/-- A build that succeeds has succeeded in all of its steps. -/
theorem build_eq_ok_iff {tree : FilterTree} (hplain : tree.interceptor = none)
    {predicate : Predicate} :
    build schema model settings none tree = .ok predicate ↔ ∃ conditions inner,
      List.Forall₂ (fun filter condition => buildProperty model settings none filter =
        .ok condition) tree.properties conditions ∧
      List.Forall₂ (fun entry parts => buildEntry schema model settings none entry = .ok parts)
        tree.nested inner ∧
      predicate = .allOf (conditions ++ inner.flatten) := by
  rw [build_eq tree hplain]
  simp only [bind_eq_ok_iff, mapM_eq_ok_iff, pure, Except.pure, Except.ok.injEq, exists_and_left,
    eq_comm (a := predicate)]

/-- A property filter has the condition of its value filters, or none if their values are passed
    over. -/
theorem buildProperty_eq_ok_iff_or_passedOver {filter : PropertyFilter} {condition : Predicate} :
    buildProperty model settings none filter = .ok condition ↔
      ∃ field, filterableField model filter.property = .ok field ∧
        ((PropertyContext.ofField model field settings).propertyCondition filter.values =
            .ok condition ∨
          settings.ignoreParseExceptions = true ∧ condition = .everything ∧ ∃ fault,
            (PropertyContext.ofField model field settings).propertyCondition filter.values =
              .error fault ∧ fault.isDataFault = true) := by
  unfold buildProperty
  rw [bind_eq_ok_iff]
  refine exists_congr fun field => and_congr_right fun _ => ?_
  cases (PropertyContext.ofField model field settings).propertyCondition filter.values with
  | ok built => simp [degrade]
  | error fault =>
    by_cases hdegraded : settings.ignoreParseExceptions = true ∧ fault.isDataFault = true
    · simp [degrade, hdegraded.1, hdegraded.2, @eq_comm _ condition]
    · have hkept : ¬ (settings.ignoreParseExceptions && fault.isDataFault) = true := by
        simpa using hdegraded
      simp only [Option.bind_none, degrade, if_neg hkept, reduceCtorEq, false_or, false_iff]
      rintro ⟨hlenient, -, other, hother, hdata⟩
      cases hother
      exact hdegraded ⟨hlenient, hdata⟩

/-- The condition of a property filter has what the tests of its property have, if it is open
    to filters, and simplification keeps. -/
theorem buildProperty_admits_of_filterable {P : Predicate → Prop} {filter : PropertyFilter}
    {condition : Predicate}
    (hP : ∀ field ∈ model.fields, field.filterable = true →
      (PropertyContext.ofField model field settings).Admits P)
    (hbuilt : buildProperty model settings none filter = .ok condition) : P condition := by
  obtain ⟨field, hfield, hcondition⟩ := buildProperty_eq_ok_iff_or_passedOver.mp hbuilt
  obtain ⟨hfound, hopen⟩ := filterableField_eq_ok_iff.mp hfield
  have hadmits := hP field (Model.mem_fields_of_field? hfound) hopen
  rcases hcondition with hcondition | ⟨-, rfl, -⟩
  · exact (hcondition ▸ hadmits.propertyCondition filter.values).of_ok
  · exact hadmits.everything

theorem buildProperty_admits {P : Predicate → Prop} {filter : PropertyFilter}
    {condition : Predicate}
    (hP : ∀ field ∈ model.fields, (PropertyContext.ofField model field settings).Admits P)
    (hbuilt : buildProperty model settings none filter = .ok condition) : P condition :=
  buildProperty_admits_of_filterable (fun field hfield _ => hP field hfield) hbuilt

/-- A filter within adds its condition, attached to the field that it is on, unless the condition
    accepts everything. -/
theorem buildEntry_eq_ok_iff {entry : String × FilterTree} {parts : List Predicate} :
    buildEntry schema model settings interceptor entry = .ok parts ↔ ∃ field target inner,
      navigableField model entry.1 = .ok (field, target) ∧
      build schema (schema.model target) (entry.2.settings.getD settings) interceptor entry.2 =
        .ok inner ∧
      (inner = .everything ∧ parts = [] ∨
        inner ≠ .everything ∧ parts = [attach field settings inner]) := by
  simp only [buildEntry, bind_eq_ok_iff, Prod.exists]
  refine exists_congr fun field => exists_congr fun target => ?_
  rw [← exists_and_left]
  refine exists_congr fun inner => and_congr_right fun _ => and_congr_right fun _ => ?_
  rw [ne_eq, ← Predicate.isEverything_iff]
  cases inner.isEverything <;> simp [pure, Except.pure, eq_comm]

/-- A property of predicates on entities of a type that all steps of a build keep. -/
structure BuildInvariant (schema : Schema) (P : Model → Predicate → Prop) : Prop where
  simplifiable : ∀ model, Predicate.Simplifiable (P model)
  property : ∀ {model settings filter condition},
    buildProperty model settings none filter = .ok condition → P model condition
  attach : ∀ {model name field target inner} settings,
    navigableField model name = .ok (field, target) → P (schema.model target) inner →
      inner ≠ .everything → P model (attach field settings inner)

namespace BuildInvariant

variable {P : Model → Predicate → Prop} {tree : FilterTree} {conditions : List Predicate}
  {inner : List (List Predicate)}

private theorem of_inside (hP : BuildInvariant schema P)
    (hinside : ∀ entry ∈ tree.nested, ∀ {model settings predicate},
      FilterTree.build schema model settings none entry.2 = .ok predicate → P model predicate)
    (hconditions : List.Forall₂ (fun filter condition =>
      buildProperty model settings none filter = .ok condition) tree.properties conditions)
    (hinner : List.Forall₂ (fun entry parts =>
      buildEntry schema model settings none entry = .ok parts) tree.nested inner) :
    ∀ part ∈ conditions ++ inner.flatten, P model part := by
  rw [List.forall_mem_append, List.forall_mem_flatten]
  constructor
  · intro condition hcondition
    obtain ⟨filter, -, hfilter⟩ := exists_of_forall₂_mem hconditions hcondition
    exact hP.property hfilter
  · intro parts hparts
    obtain ⟨entry, hentry, hbuilt⟩ := exists_of_forall₂_mem hinner hparts
    obtain ⟨field, target, inside, hfield, hinsideBuilt, ⟨-, rfl⟩ | ⟨hne, rfl⟩⟩ :=
      buildEntry_eq_ok_iff.mp hbuilt
    · exact fun part hpart => nomatch hpart
    · exact List.forall_mem_singleton.mpr
        (hP.attach settings hfield (hinside entry hentry hinsideBuilt) hne)

theorem build (hP : BuildInvariant schema P) {predicate : Predicate}
    (hplain : tree.WithoutInterceptors)
    (hbuilt : FilterTree.build schema model settings none tree = .ok predicate) :
    P model predicate := by
  induction hplain generalizing model settings predicate with
  | @intro tree hrule _ ih =>
    obtain ⟨conditions, inner, hconditions, hinner, rfl⟩ := (build_eq_ok_iff hrule).mp hbuilt
    exact (hP.simplifiable model).allOf
      (hP.of_inside (fun entry hentry _ _ _ => ih entry hentry) hconditions hinner)

/-- The conditions that a filter is put together from have what builds keep. -/
theorem parts (hP : BuildInvariant schema P) (hplain : tree.WithoutInterceptors)
    (hconditions : List.Forall₂ (fun filter condition =>
      buildProperty model settings none filter = .ok condition) tree.properties conditions)
    (hinner : List.Forall₂ (fun entry parts =>
      buildEntry schema model settings none entry = .ok parts) tree.nested inner) :
    ∀ part ∈ conditions ++ inner.flatten, P model part :=
  hP.of_inside (fun entry hentry _ _ _ => hP.build (hplain.inside entry hentry)) hconditions hinner

end BuildInvariant

end FilterTree

namespace Teams

def person : Model := ⟨"Person", [{ name := "Name", kind := .text }]⟩

/-- Teams with a lead, who may be missing, and members. -/
def team : Model where
  name := "Team"
  fields := [
    { name := "Lead", kind := .navigation "Person", nullable := true },
    { name := "Members", kind := .collection "Person" }]

def schema : Schema := ⟨[person, team]⟩

def settings (policy : ConditionalAccess) : FilterSettings :=
  { FilterSettings.builtin ⟨⟨0, by decide⟩, .midnight⟩ with conditionalAccess := policy }

def named (name : String) : FilterTree :=
  ⟨[⟨"Name", [⟨.equalCaseSensitive, some name⟩]⟩], [], none, none⟩

/-- Teams that Ann leads, and that she and Bob are members of. -/
def tree : FilterTree where
  properties := [⟨"Lead", [.notNull]⟩]
  nested := [("Lead", named "Ann"), ("Members", named "Ann"), ("Members", named "Bob")]
  settings := none
  interceptor := none

def ann : Entity := .ofProperties [("Name", .text "Ann")]

def bob : Entity := .ofProperties [("Name", .text "Bob")]

def led : Entity := .ofProperties [("Lead", .object ann), ("Members", .list [bob, ann])]

def leaderless : Entity := .ofProperties [("Lead", .null), ("Members", .list [bob, ann])]

private theorem named_everywhere {P : FilterTree → Prop} {name : String} (h : P (named name)) :
    (named name).Everywhere P := .intro h fun _ hentry => nomatch hentry

theorem nested_everywhere {P : FilterTree → Prop} (h : ∀ name, P (named name)) :
    ∀ entry ∈ tree.nested, entry.2.Everywhere P := by
  simp [tree, named_everywhere, h]

theorem withoutInterceptors : tree.WithoutInterceptors :=
  .intro rfl (nested_everywhere fun _ => rfl)

theorem sharesSettings : tree.SharesSettings := nested_everywhere fun _ => rfl

end Teams

end EntityQuery
