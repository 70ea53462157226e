import EntityQuery.Proofs.Filter.Build

namespace EntityQuery

namespace FilterTree

variable {schema : Schema} {model : Model} {settings : FilterSettings}

/-- Whether there is no condition because a text is no value of the property's type. -/
def failsToRead : Except Fault Predicate → Bool
  | .ok _ => false
  | .error fault => fault.code == .invalidFilterValue

/-- Whether the property of a filter is open to filters, and a value that was given for it
    cannot be read. -/
def isUnreadable (model : Model) (settings : FilterSettings) (filter : PropertyFilter) : Bool :=
  match filterableField model filter.property with
  | .error _ => false
  | .ok field => failsToRead
    ((PropertyContext.ofField model field settings).propertyCondition filter.values)

mutual

/-- The filter without its property filters that cannot be read, at all depths. -/
def prune (schema : Schema) (model : Model) (settings : FilterSettings) : FilterTree → FilterTree
  | ⟨properties, nested, own, interceptor⟩ =>
    ⟨properties.filter fun filter => !isUnreadable model settings filter,
      pruneNested schema model settings nested, own, interceptor⟩

/-- The pruned filters within. Below a property that leads to no entity there is nothing that
    values could be read for. -/
def pruneNested (schema : Schema) (model : Model) (settings : FilterSettings) :
    List (String × FilterTree) → List (String × FilterTree)
  | [] => []
  | (property, inner) :: rest =>
    match (model.field? property).bind (·.kind.target?) with
    | some target =>
      (property, prune schema (schema.model target) settings inner) ::
        pruneNested schema model settings rest
    | none => (property, inner) :: pruneNested schema model settings rest

end

/-- All names in the filter stand for properties that are open to filters, and filters within
    are on properties that lead to entities. -/
inductive Resolves (schema : Schema) : Model → FilterTree → Prop
  | intro {model : Model} {tree : FilterTree}
    (properties : ∀ filter ∈ tree.properties,
      ∃ field, filterableField model filter.property = .ok field)
    (nested : ∀ entry ∈ tree.nested,
      ∃ field target, navigableField model entry.1 = .ok (field, target))
    (inside : ∀ entry ∈ tree.nested, ∀ field target,
      navigableField model entry.1 = .ok (field, target) →
        Resolves schema (schema.model target) entry.2) : Resolves schema model tree

/-- A filter within, pruned for the entities that its property leads to. -/
def pruneEntry (schema : Schema) (model : Model) (settings : FilterSettings)
    (entry : String × FilterTree) : String × FilterTree :=
  match (model.field? entry.1).bind (·.kind.target?) with
  | some target => (entry.1, entry.2.prune schema (schema.model target) settings)
  | none => entry

theorem pruneNested_eq (nested : List (String × FilterTree)) :
    pruneNested schema model settings nested = nested.map (pruneEntry schema model settings) := by
  induction nested with
  | nil => rfl
  | cons entry rest ih =>
    rw [pruneNested, List.map_cons, pruneEntry, ih]
    split <;> rfl

theorem prune_eq (tree : FilterTree) :
    tree.prune schema model settings = { tree with
      properties := tree.properties.filter fun filter => !isUnreadable model settings filter
      nested := tree.nested.map (pruneEntry schema model settings) } := by
  obtain ⟨properties, nested, own, interceptor⟩ := tree
  rw [prune, pruneNested_eq]

theorem pruneEntry_of_navigableField {entry : String × FilterTree} {field : Field}
    {target : String} (hfield : navigableField model entry.1 = .ok (field, target)) :
    pruneEntry schema model settings entry =
      (entry.1, entry.2.prune schema (schema.model target) settings) := by
  obtain ⟨hfield, htarget⟩ := navigableField_eq_ok_iff.mp hfield
  rw [pruneEntry, (filterableField_eq_ok_iff.mp hfield).1, Option.bind_some, htarget]

theorem fst_pruneEntry (entry : String × FilterTree) :
    (pruneEntry schema model settings entry).1 = entry.1 := by
  unfold pruneEntry
  split <;> rfl

private theorem degrade_lenient (context : PropertyContext) (filters : List ValueFilter) :
    degrade { settings with ignoreParseExceptions := true } (context.propertyCondition filters) =
      if failsToRead (context.propertyCondition filters) then .ok .everything
      else degrade { settings with ignoreParseExceptions := false }
        (context.propertyCondition filters) := by
  cases hcondition : context.propertyCondition filters with
  | ok condition => rfl
  | error fault =>
    have hdata := (PropertyContext.refuses_of_propertyCondition hcondition).isDataFault_iff
    by_cases hcode : fault.code = .invalidFilterValue
    · simp [degrade, failsToRead, hcode, hdata.mpr hcode]
    · simp [degrade, failsToRead, hcode, mt hdata.mp hcode]

/-- Lenient settings make a difference to the property filters that cannot be read alone: these
    put no condition on an entity. -/
theorem buildProperty_lenient (filter : PropertyFilter) :
    buildProperty model { settings with ignoreParseExceptions := true } none filter =
      if isUnreadable model settings filter then .ok .everything
      else buildProperty model { settings with ignoreParseExceptions := false } none filter := by
  unfold isUnreadable buildProperty
  cases filterableField model filter.property with
  | error fault => rfl
  | ok field =>
    -- Leniency plays no part in how the values are read.
    exact degrade_lenient (PropertyContext.ofField model field settings) filter.values

/-- Whether dropped steps are left out or give no condition makes no difference to which parts
    of a conjunction ask for something. -/
private theorem mapM_filter_alike {α : Type} {f g : α → Except Fault Predicate}
    {drop : α → Bool} (hf : ∀ x, f x = if drop x then .ok .everything else g x) (xs : List α) :
    Alike
      (fun parts others => (parts.filter fun part => !part.isEverything) =
        others.filter fun part => !part.isEverything)
      (xs.mapM f) ((xs.filter fun x => !drop x).mapM g) := by
  induction xs with
  | nil => exact .ok rfl
  | cons x rest ih =>
    rw [List.mapM_cons, hf]
    cases hdrop : drop x with
    | true =>
      rw [List.filter_cons_of_neg (by simp [hdrop]), ← bind_pure (List.mapM g _)]
      exact ih.bind fun parts others hparts => .ok hparts
    | false =>
      rw [List.filter_cons_of_pos (by simp [hdrop]), List.mapM_cons]
      refine Alike.bind (R := Eq) (.refl fun _ _ => rfl) fun part _ hpart => ?_
      subst hpart
      exact ih.bind fun parts others hparts => .ok (by simp only [List.filter_cons, hparts])

private theorem buildEntry_lenient {entry : String × FilterTree} (hown : entry.2.settings = none)
    (hinner : ∀ model,
      build schema model { settings with ignoreParseExceptions := true } none entry.2 =
        build schema model { settings with ignoreParseExceptions := false } none
          (entry.2.prune schema model settings)) :
    buildEntry schema model { settings with ignoreParseExceptions := true } none entry =
      buildEntry schema model { settings with ignoreParseExceptions := false } none
        (pruneEntry schema model settings entry) := by
  unfold buildEntry
  rw [fst_pruneEntry]
  cases hfield : navigableField model entry.1 with
  | error fault => rfl
  | ok found =>
    have hpruned : (entry.2.prune schema (schema.model found.2) settings).settings = none := by
      rw [prune_eq, hown]
    rw [pruneEntry_of_navigableField hfield]
    simp only [bind, Except.bind, hown, hpruned, Option.getD_none, hinner]
    rfl

/-- Building leniently and pruning before a strict build come to the same. -/
theorem build_lenient {tree : FilterTree} (hplain : tree.WithoutInterceptors)
    (hshares : tree.SharesSettings) (model : Model) :
    build schema model { settings with ignoreParseExceptions := true } none tree =
      build schema model { settings with ignoreParseExceptions := false } none
        (tree.prune schema model settings) := by
  induction hplain generalizing model with
  | @intro tree hrule _ ih =>
    rw [build_eq tree hrule, build_eq _ (by rw [prune_eq, hrule]), prune_eq]
    refine Alike.bind_eq (mapM_filter_alike buildProperty_lenient tree.properties)
      fun conditions others hconditions => ?_
    -- The filters within give the same conditions one by one, those that became empty included.
    have hnested : List.Forall₂
        (fun entry pruned =>
          buildEntry schema model { settings with ignoreParseExceptions := true } none entry =
            buildEntry schema model { settings with ignoreParseExceptions := false } none pruned)
        tree.nested (tree.nested.map (pruneEntry schema model settings)) := by
      refine List.forall₂_map_right_iff.mpr (List.forall₂_same.mpr fun entry hentry => ?_)
      have hentries := hshares entry hentry
      exact buildEntry_lenient hentries.here (ih entry hentry hentries.inside)
    rw [mapM_eq_of_forall₂ hnested]
    refine congrArg _ (funext fun inner => congrArg Except.ok ?_)
    exact Predicate.allOf_congr (by simp only [List.filter_append, hconditions])

/-- A build that succeeds has resolved all names. -/
theorem resolves_of_build {tree : FilterTree} {predicate : Predicate}
    (hplain : tree.WithoutInterceptors)
    (hbuilt : build schema model settings none tree = .ok predicate) :
    tree.Resolves schema model := by
  induction hplain generalizing model settings predicate with
  | @intro tree hrule _ ih =>
    obtain ⟨conditions, inner, hconditions, hinner, -⟩ := (build_eq_ok_iff hrule).mp hbuilt
    have hentries : ∀ entry ∈ tree.nested, ∃ found inner,
        navigableField model entry.1 = .ok found ∧
          build schema (schema.model found.2) (entry.2.settings.getD settings) none entry.2 =
            .ok inner := by
      intro entry hentry
      obtain ⟨parts, -, hparts⟩ := exists_of_forall₂_mem hinner.flip hentry
      obtain ⟨found, hfound, hparts⟩ := bind_eq_ok_iff.mp hparts
      obtain ⟨inner, hinner, -⟩ := bind_eq_ok_iff.mp hparts
      exact ⟨found, inner, hfound, hinner⟩
    refine .intro (fun filter hfilter => ?_) (fun entry hentry => ?_)
      fun entry hentry field target hfield => ?_
    · obtain ⟨condition, -, hcondition⟩ := exists_of_forall₂_mem hconditions.flip hfilter
      obtain ⟨field, hfield, -⟩ := bind_eq_ok_iff.mp hcondition
      exact ⟨field, hfield⟩
    · obtain ⟨⟨field, target⟩, -, hfound, -⟩ := hentries entry hentry
      exact ⟨field, target, hfound⟩
    · obtain ⟨found, inner, hfound, hinner⟩ := hentries entry hentry
      rw [hfield] at hfound
      cases hfound
      exact ih entry hentry hinner

variable {property : String} {fault : Fault}

private theorem isDataFault_filterableField (h : filterableField model property = .error fault) :
    fault.isDataFault = false := by
  unfold filterableField at h
  split at h
  · cases h
    rfl
  · split at h <;> cases h
    rfl

private theorem isDataFault_navigableField (h : navigableField model property = .error fault) :
    fault.isDataFault = false := by
  rcases bind_eq_error_iff.mp h with h | ⟨field, -, h⟩
  · exact isDataFault_filterableField h
  · split at h <;> cases h
    rfl

private theorem isDataFault_degrade {built : Except Fault Predicate}
    (h : degrade { settings with ignoreParseExceptions := true } built = .error fault) :
    fault.isDataFault = false := by
  cases built with
  | ok predicate => cases h
  | error other =>
    cases hdata : other.isDataFault with
    | true => simp [degrade, hdata] at h
    | false =>
      simp only [degrade, hdata, Bool.and_false, Bool.false_eq_true, if_false] at h
      cases h
      exact hdata

private theorem isDataFault_buildProperty {filter : PropertyFilter}
    (h : buildProperty model { settings with ignoreParseExceptions := true } none filter =
      .error fault) : fault.isDataFault = false := by
  rcases bind_eq_error_iff.mp h with h | ⟨field, -, h⟩
  · exact isDataFault_filterableField h
  · exact isDataFault_degrade h

/-- What is wrong with the data that a user supplied is never a fault of a lenient build. -/
theorem isDataFault_build_lenient {tree : FilterTree} (hplain : tree.WithoutInterceptors)
    (hshares : tree.SharesSettings)
    (h : build schema model { settings with ignoreParseExceptions := true } none tree =
      .error fault) : fault.isDataFault = false := by
  induction hplain generalizing model with
  | @intro tree hrule _ ih =>
    rw [build_eq tree hrule] at h
    rcases bind_eq_error_iff.mp h with h | ⟨conditions, -, h⟩
    · obtain ⟨_, filter, _, -, -, hfilter⟩ := mapM_eq_error_iff.mp h
      exact isDataFault_buildProperty hfilter
    · rcases bind_eq_error_iff.mp h with h | ⟨inner, -, h⟩
      · obtain ⟨_, entry, _, hsplit, -, hfault⟩ := mapM_eq_error_iff.mp h
        have hentry : entry ∈ tree.nested := by simp [hsplit]
        have hentries := hshares entry hentry
        rcases bind_eq_error_iff.mp hfault with hfault | ⟨found, -, hfault⟩
        · exact isDataFault_navigableField hfault
        · rcases bind_eq_error_iff.mp hfault with hfault | ⟨_, -, hfault⟩
          · rw [hentries.here] at hfault
            exact ih entry hentry hentries.inside hfault
          · cases hfault
      · cases h

/-- A lenient build is the strict build of the filter without the property filters that cannot
    be read, with the same predicate or the same fault. It never fails because of a value that
    cannot be read, and it only succeeds if all names in the filter stand for properties that
    can be used in this way. -/
theorem build_lenient_eq_build_prune (schema : Schema) (model : Model)
    (settings : FilterSettings) {tree : FilterTree} (hplain : tree.WithoutInterceptors)
    (hshares : tree.SharesSettings) :
    build schema model { settings with ignoreParseExceptions := true } none tree =
      build schema model { settings with ignoreParseExceptions := false } none
        (tree.prune schema model settings) ∧
    (∀ fault, build schema model { settings with ignoreParseExceptions := true } none tree =
      .error fault → fault.code ≠ .invalidFilterValue) ∧
    ∀ predicate, build schema model { settings with ignoreParseExceptions := true } none tree =
      .ok predicate → tree.Resolves schema model := by
  refine ⟨build_lenient hplain hshares model, fun fault hfault hcode => ?_,
    fun predicate hbuilt => resolves_of_build hplain hbuilt⟩
  have hdata := isDataFault_build_lenient hplain hshares hfault
  rw [Fault.isDataFault, hcode] at hdata
  cases hdata

end FilterTree

namespace Ships

def sailor : Model where
  name := "Sailor"
  fields := [{ name := "Name", kind := .text }, { name := "Age", kind := .int }]

/-- Ships with a captain, who may be missing, and a crew. -/
def ship : Model where
  name := "Ship"
  fields := [
    { name := "Tons", kind := .int },
    { name := "Captain", kind := .navigation "Sailor", nullable := true },
    { name := "Crew", kind := .collection "Sailor" }]

def schema : Schema := ⟨[sailor, ship]⟩

def asking (properties : List PropertyFilter) (nested : List (String × FilterTree)) :
    FilterTree := ⟨properties, nested, none, none⟩

/-- Ships of some size with someone in the crew, whose sizes and ages are partly unreadable. -/
def tree : FilterTree :=
  asking [⟨"Tons", [.create .default "heavy"]⟩, ⟨"Tons", [.create .greaterThan "100"]⟩] [
    ("Captain", asking [⟨"Age", [.create .lessThan "old"]⟩] []),
    ("Crew", asking [⟨"Age", [.create .default "young"]⟩, ⟨"Name", [.create .default "Ann"]⟩] [])]

def readable : FilterTree :=
  asking [⟨"Tons", [.create .greaterThan "100"]⟩] [
    ("Captain", asking [] []), ("Crew", asking [⟨"Name", [.create .default "Ann"]⟩] [])]

def sailing (tons : Int64) : Entity :=
  .ofProperties [("Tons", .int tons), ("Captain", .null),
    ("Crew", .list [.ofProperties [("Name", .text "Ann"), ("Age", .int 30)]])]

theorem tree_everywhere {P : FilterTree → Prop}
    (h : ∀ properties nested, P (asking properties nested)) :
    tree.Everywhere P ∧ ∀ entry ∈ tree.nested, entry.2.Everywhere P := by
  have hflat (properties : List PropertyFilter) : (asking properties []).Everywhere P :=
    .intro (h properties []) fun _ hentry => nomatch hentry
  have hnested : ∀ entry ∈ tree.nested, entry.2.Everywhere P := by
    intro entry hentry
    rcases List.mem_pair.mp hentry with rfl | rfl
    · exact hflat _
    · exact hflat _
  exact ⟨.intro (h _ _) hnested, hnested⟩

end Ships

namespace FilterTree

/-- Of the filter on ships the readable part is left. A captain, of whom nothing readable is
    asked, may be missing. -/
theorem build_lenient_ships :
    Ships.tree.prune Ships.schema Ships.ship (Teams.settings .always) = Ships.readable ∧
    ∃ predicate,
      build Ships.schema Ships.ship { Teams.settings .always with ignoreParseExceptions := true }
        none Ships.tree = .ok predicate ∧
      build Ships.schema Ships.ship { Teams.settings .always with ignoreParseExceptions := false }
        none Ships.readable = .ok predicate ∧
      predicate.evaluate true (Ships.sailing 200) = .ok true ∧
      predicate.evaluate true (Ships.sailing 50) = .ok false := by
  have hplain : Ships.tree.WithoutInterceptors := (Ships.tree_everywhere fun _ _ => rfl).1
  have hshares : Ships.tree.SharesSettings := (Ships.tree_everywhere fun _ _ => rfl).2
  obtain ⟨heq, -⟩ := build_lenient_eq_build_prune Ships.schema Ships.ship
    (Teams.settings .always) hplain hshares
  have hpruned : Ships.tree.prune Ships.schema Ships.ship (Teams.settings .always) =
      Ships.readable := rfl
  have hbuilt : build Ships.schema Ships.ship
      { Teams.settings .always with ignoreParseExceptions := false } none Ships.readable =
        .ok _ := rfl
  exact ⟨hpruned, _, heq.trans (hpruned ▸ hbuilt), hbuilt, rfl, rfl⟩

end FilterTree

end EntityQuery
