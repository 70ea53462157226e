import EntityQuery.Proofs.Filter.Pruned

namespace EntityQuery

namespace FilterTree

variable {schema : Schema} {model : Model} {settings : FilterSettings} {field : Field}
  {property inside : String}

theorem filterableField_name (h : filterableField model property = .ok field) :
    filterableField model field.name = .ok field := by
  obtain ⟨hfound, hopen⟩ := filterableField_eq_ok_iff.mp h
  exact filterableField_eq_ok_iff.mpr ⟨Model.field?_name hfound, hopen⟩

theorem navigableField_name (h : navigableField model property = .ok (field, inside)) :
    navigableField model field.name = .ok (field, inside) := by
  obtain ⟨hfield, htarget⟩ := navigableField_eq_ok_iff.mp h
  exact navigableField_eq_ok_iff.mpr ⟨filterableField_name hfield, htarget⟩

theorem castProperty?_eq_some_iff {filter kept : PropertyFilter} :
    castProperty? model filter = some kept ↔
      ∃ field, filterableField model filter.property = .ok field ∧
        kept = ⟨field.name, filter.values⟩ := by
  unfold castProperty?
  simp only [filterableField_eq_ok_iff]
  cases model.field? filter.property with
  | none => simp
  | some found => cases hopen : found.filterable <;> simp [hopen, eq_comm (a := kept)]

theorem castTarget?_eq_some_iff {name : String} :
    castTarget? model property = some (name, inside) ↔
      ∃ field, navigableField model property = .ok (field, inside) ∧ name = field.name := by
  unfold castTarget?
  simp only [navigableField_eq_ok_iff, filterableField_eq_ok_iff]
  cases model.field? property with
  | none => simp
  | some found =>
    cases hopen : found.filterable <;> cases htarget : found.kind.target? <;>
      simp [hopen, htarget, eq_comm (a := name)]
    exact and_comm

/-- A filter within under the name of the field that it is on, cast for the entities that the
    field leads to. -/
def castMember? (schema : Schema) (model : Model) (entry : String × FilterTree) :
    Option (String × FilterTree) :=
  (castTarget? model entry.1).map fun (name, inside) =>
    (name, entry.2.cast schema (schema.model inside))

theorem castMember?_eq_some_iff {entry kept : String × FilterTree} :
    castMember? schema model entry = some kept ↔
      ∃ field inside, navigableField model entry.1 = .ok (field, inside) ∧
        kept = (field.name, entry.2.cast schema (schema.model inside)) := by
  rw [castMember?, Option.map_eq_some_iff]
  constructor
  · rintro ⟨⟨name, inside⟩, htarget, rfl⟩
    obtain ⟨field, hfield, rfl⟩ := castTarget?_eq_some_iff.mp htarget
    exact ⟨field, inside, hfield, rfl⟩
  · rintro ⟨field, inside, hfield, rfl⟩
    exact ⟨(field.name, inside), castTarget?_eq_some_iff.mpr ⟨field, hfield, rfl⟩, rfl⟩

theorem castNested_eq (nested : List (String × FilterTree)) :
    castNested schema model nested = nested.filterMap (castMember? schema model) := by
  induction nested with
  | nil => rfl
  | cons entry rest ih =>
    rw [castNested, List.filterMap_cons, castMember?, ih]
    cases castTarget? model entry.1 <;> rfl

theorem cast_eq (tree : FilterTree) :
    tree.cast schema model = { tree with
      properties := tree.properties.filterMap (castProperty? model)
      nested := tree.nested.filterMap (castMember? schema model) } := by
  obtain ⟨properties, nested, own, interceptor⟩ := tree
  rw [cast, castNested_eq]

/-- A cast filter has only names of fields that can be used in the way that they are. -/
theorem resolves_cast {tree : FilterTree} (hplain : tree.WithoutInterceptors) (model : Model) :
    (tree.cast schema model).Resolves schema model := by
  induction hplain generalizing model with
  | @intro tree _ _ ih =>
    rw [cast_eq]
    refine .intro (fun kept hkept => ?_) (fun kept hkept => ?_)
      fun kept hkept field target hfield => ?_
    · obtain ⟨filter, -, hcast⟩ := List.mem_filterMap.mp hkept
      obtain ⟨field, hfield, rfl⟩ := castProperty?_eq_some_iff.mp hcast
      exact ⟨field, filterableField_name hfield⟩
    · obtain ⟨entry, -, hcast⟩ := List.mem_filterMap.mp hkept
      obtain ⟨field, inside, hfield, rfl⟩ := castMember?_eq_some_iff.mp hcast
      exact ⟨field, inside, navigableField_name hfield⟩
    · obtain ⟨entry, hentry, hcast⟩ := List.mem_filterMap.mp hkept
      obtain ⟨origin, inside, horigin, rfl⟩ := castMember?_eq_some_iff.mp hcast
      have hname : navigableField model origin.name = .ok (field, target) := hfield
      rw [navigableField_name horigin] at hname
      cases hname
      exact ih entry hentry (schema.model target)

/-- Casting gives no filter a rule. -/
theorem withoutInterceptors_cast {tree : FilterTree} (hplain : tree.WithoutInterceptors)
    (model : Model) : (tree.cast schema model).WithoutInterceptors := by
  induction hplain generalizing model with
  | @intro tree hrule _ ih =>
    rw [cast_eq]
    refine .intro hrule fun kept hkept => ?_
    obtain ⟨entry, hentry, hcast⟩ := List.mem_filterMap.mp hkept
    obtain ⟨field, inside, hfield, rfl⟩ := castMember?_eq_some_iff.mp hcast
    exact ih entry hentry (schema.model inside)

private theorem filterMap_eq_self {α : Type} {f : α → Option α} {xs : List α}
    (h : ∀ x ∈ xs, f x = some x) : xs.filterMap f = xs := by
  rw [List.filterMap_congr h, List.filterMap_some]

/-- What has been cast stays as it is when it is cast again. -/
theorem cast_cast {tree : FilterTree} (hplain : tree.WithoutInterceptors) (model : Model) :
    (tree.cast schema model).cast schema model = tree.cast schema model := by
  induction hplain generalizing model with
  | @intro tree _ _ ih =>
    have hproperties : ∀ kept ∈ tree.properties.filterMap (castProperty? model),
        castProperty? model kept = some kept := by
      intro kept hkept
      obtain ⟨filter, -, hcast⟩ := List.mem_filterMap.mp hkept
      obtain ⟨field, hfield, rfl⟩ := castProperty?_eq_some_iff.mp hcast
      exact castProperty?_eq_some_iff.mpr ⟨field, filterableField_name hfield, rfl⟩
    have hnested : ∀ kept ∈ tree.nested.filterMap (castMember? schema model),
        castMember? schema model kept = some kept := by
      intro kept hkept
      obtain ⟨entry, hentry, hcast⟩ := List.mem_filterMap.mp hkept
      obtain ⟨field, inside, hfield, rfl⟩ := castMember?_eq_some_iff.mp hcast
      refine castMember?_eq_some_iff.mpr ⟨field, inside, navigableField_name hfield, ?_⟩
      rw [ih entry hentry]
    rw [cast_eq tree, cast_eq, filterMap_eq_self hproperties, filterMap_eq_self hnested]

/-- Steps on what is left of a list are those on the whole list, if nothing is left out and each
    step stays the same. -/
private theorem mapM_filterMap_eq {α β : Type} {kept? : α → Option α} {f : α → Except Fault β}
    {xs : List α} (h : ∀ x ∈ xs, ∃ y, kept? x = some y ∧ f y = f x) :
    (xs.filterMap kept?).mapM f = xs.mapM f := by
  induction xs with
  | nil => rfl
  | cons x rest ih =>
    obtain ⟨⟨y, hy, hstep⟩, hrest⟩ := List.forall_mem_cons.mp h
    rw [List.filterMap_cons_some hy, List.mapM_cons, List.mapM_cons, hstep, ih hrest]

private theorem buildProperty_name {filter : PropertyFilter}
    (hfield : filterableField model filter.property = .ok field) :
    buildProperty model settings none ⟨field.name, filter.values⟩ =
      buildProperty model settings none filter := by
  unfold buildProperty
  rw [filterableField_name hfield, hfield]
  rfl

private theorem settings_cast (tree : FilterTree) (model : Model) :
    (tree.cast schema model).settings = tree.settings := by
  rw [cast_eq]

private theorem buildEntry_name {entry : String × FilterTree}
    (hfield : navigableField model entry.1 = .ok (field, inside))
    (hinner : ∀ settings, build schema (schema.model inside) settings none
      (entry.2.cast schema (schema.model inside)) =
        build schema (schema.model inside) settings none entry.2) :
    buildEntry schema model settings none
        (field.name, entry.2.cast schema (schema.model inside)) =
      buildEntry schema model settings none entry := by
  unfold buildEntry
  rw [navigableField_name hfield, hfield]
  simp only [bind, Except.bind, settings_cast, hinner]

/-- Of a filter whose names all resolve, casting leaves everything, and it has the same
    predicate or the same fault. -/
theorem build_cast {tree : FilterTree} (hplain : tree.WithoutInterceptors)
    (hresolves : tree.Resolves schema model) :
    build schema model settings none (tree.cast schema model) =
      build schema model settings none tree := by
  induction hplain generalizing model settings with
  | @intro tree hrule _ ih =>
    cases hresolves with
    | intro hproperties hnested hinside =>
      have hproperty : ∀ filter ∈ tree.properties, ∃ kept, castProperty? model filter = some kept ∧
          buildProperty model settings none kept = buildProperty model settings none filter := by
        intro filter hfilter
        obtain ⟨field, hfield⟩ := hproperties filter hfilter
        exact ⟨_, castProperty?_eq_some_iff.mpr ⟨field, hfield, rfl⟩, buildProperty_name hfield⟩
      have hentry : ∀ entry ∈ tree.nested, ∃ kept, castMember? schema model entry = some kept ∧
          buildEntry schema model settings none kept =
            buildEntry schema model settings none entry := by
        intro entry hentry
        obtain ⟨field, inside, hfield⟩ := hnested entry hentry
        refine ⟨_, castMember?_eq_some_iff.mpr ⟨field, inside, hfield, rfl⟩, ?_⟩
        exact buildEntry_name hfield fun settings =>
          ih entry hentry (hinside entry hentry field inside hfield)
      rw [build_eq tree hrule, build_eq _ (by rw [cast_eq, hrule]), cast_eq,
        mapM_filterMap_eq hproperty, mapM_filterMap_eq hentry]

private theorem code_of_buildProperty {filter : PropertyFilter} {fault : Fault}
    (hfield : filterableField model filter.property = .ok field)
    (h : buildProperty model settings none filter = .error fault) :
    fault.code = .invalidFilterValue ∨ fault.code = .unsupportedOperator := by
  unfold buildProperty at h
  rw [hfield] at h
  have hdegraded : degrade settings
      ((PropertyContext.ofField model field settings).propertyCondition filter.values) =
        .error fault := h
  cases hcondition : (PropertyContext.ofField model field settings).propertyCondition
      filter.values with
  | ok condition =>
    rw [hcondition] at hdegraded
    cases hdegraded
  | error other =>
    have hrefuses := PropertyContext.refuses_of_propertyCondition hcondition
    rw [hcondition, degrade] at hdegraded
    split at hdegraded
    · cases hdegraded
    · cases hdegraded
      cases hrefuses with
      | value => exact .inl rfl
      | operator => exact .inr rfl

/-- If all names in a filter resolve, only a value or an operator can be at fault. -/
theorem code_of_build {tree : FilterTree} {fault : Fault} (hplain : tree.WithoutInterceptors)
    (hresolves : tree.Resolves schema model)
    (h : build schema model settings none tree = .error fault) :
    fault.code = .invalidFilterValue ∨ fault.code = .unsupportedOperator := by
  induction hplain generalizing model settings with
  | @intro tree hrule _ ih =>
    cases hresolves with
    | intro hproperties hnested hinside =>
      rw [build_eq tree hrule] at h
      rcases bind_eq_error_iff.mp h with h | ⟨conditions, -, h⟩
      · obtain ⟨_, filter, _, hsplit, -, hfault⟩ := mapM_eq_error_iff.mp h
        obtain ⟨field, hfield⟩ := hproperties filter (by simp [hsplit])
        exact code_of_buildProperty hfield hfault
      · rcases bind_eq_error_iff.mp h with h | ⟨inner, -, h⟩
        · obtain ⟨_, entry, _, hsplit, -, hfault⟩ := mapM_eq_error_iff.mp h
          have hentry : entry ∈ tree.nested := by simp [hsplit]
          obtain ⟨field, inside, hfield⟩ := hnested entry hentry
          have hresolves := hinside entry hentry field inside hfield
          rcases bind_eq_error_iff.mp hfault with hfault | ⟨found, hfound, hfault⟩
          · rw [hfield] at hfault
            cases hfault
          · rw [hfield] at hfound
            cases hfound
            rcases bind_eq_error_iff.mp hfault with hfault | ⟨_, -, hfault⟩
            · exact ih entry hentry hresolves hfault
            · cases hfault
        · cases h

/-- Casting keeps the part of a filter that a type of entities can be filtered by. Building the
    cast filter never fails because of a name, at any depth. A filter that can be built as it is
    has the same predicate after the cast. A second cast changes nothing. -/
theorem cast_keeps_builds (schema : Schema) (target : Model) {tree : FilterTree}
    (hplain : tree.WithoutInterceptors) :
    (∀ settings fault, build schema target settings none (tree.cast schema target) =
      .error fault → fault.code ∉
        [FaultCode.unknownProperty, .propertyNotFilterable, .notNavigable]) ∧
    (∀ settings predicate, build schema target settings none tree = .ok predicate →
      build schema target settings none (tree.cast schema target) = .ok predicate) ∧
    (tree.cast schema target).cast schema target = tree.cast schema target := by
  refine ⟨fun settings fault hfault => ?_, fun settings predicate hbuilt => ?_,
    cast_cast hplain target⟩
  · have hcast : (tree.cast schema target).WithoutInterceptors :=
      withoutInterceptors_cast hplain target
    rcases code_of_build hcast (resolves_cast hplain target) hfault with hcode | hcode
    · simp [hcode]
    · simp [hcode]
  · rw [build_cast hplain (resolves_of_build hplain hbuilt), hbuilt]

end FilterTree

namespace Fleets

/-- Fleets of ships, with two fields that differ in letter case alone. -/
def fleet : Model where
  name := "Fleet"
  fields := [
    { name := "code", kind := .text }, { name := "Code", kind := .text },
    { name := "Secret", kind := .text, filterable := false },
    { name := "Flagship", kind := .navigation "Ship" }]

def schema : Schema := ⟨[Ships.sailor, Ships.ship, fleet]⟩

def named (code flagship crew age : String) : FilterTree :=
  Ships.asking [⟨code, [.create .default "A"]⟩] [
    (flagship, Ships.asking [] [
      (crew, Ships.asking [⟨age, [.create .greaterThan "60"]⟩] [])])]

/-- Names that refer to fields in other letter cases. -/
def tree : FilterTree := named "CODE" "flagship" "CREW" "age"

/-- The same among names that refer to nothing that can be filtered. -/
def foreign : FilterTree :=
  Ships.asking [⟨"Admiral", [.isNull]⟩, ⟨"secret", [.isNull]⟩, ⟨"CODE", [.create .default "A"]⟩] [
    ("flagship", Ships.asking [⟨"Keel", [.isNull]⟩] [
      ("TONS", Ships.asking [] []),
      ("CREW", Ships.asking [⟨"age", [.create .greaterThan "60"]⟩] [])])]

theorem named_everywhere {P : FilterTree → Prop} {code flagship crew age : String}
    (h : ∀ properties nested, P (Ships.asking properties nested)) :
    (named code flagship crew age).Everywhere P := by
  refine .intro (h _ _) fun entry hentry => ?_
  cases List.mem_singleton.mp hentry
  refine .intro (h _ _) fun entry hentry => ?_
  cases List.mem_singleton.mp hentry
  exact .intro (h _ _) fun _ hinside => nomatch hinside

theorem foreign_everywhere {P : FilterTree → Prop}
    (h : ∀ properties nested, P (Ships.asking properties nested)) : foreign.Everywhere P := by
  refine .intro (h _ _) fun entry hentry => ?_
  cases List.mem_singleton.mp hentry
  refine .intro (h _ _) fun entry hentry => ?_
  rcases List.mem_pair.mp hentry with rfl | rfl
  · exact .intro (h _ _) fun _ hinside => nomatch hinside
  · exact .intro (h _ _) fun _ hinside => nomatch hinside

end Fleets

namespace FilterTree

/-- What fleets can be filtered by is left under the names of their fields, and can be built.
    Where that is everything, the predicate stays the same. -/
theorem cast_keeps_builds_fleets :
    Fleets.foreign.cast Fleets.schema Fleets.fleet =
      Fleets.named "code" "Flagship" "Crew" "Age" ∧
    (∀ settings fault, build Fleets.schema Fleets.fleet settings none
      (Fleets.foreign.cast Fleets.schema Fleets.fleet) = .error fault →
        fault.code ∉ [FaultCode.unknownProperty, .propertyNotFilterable, .notNavigable]) ∧
    (Fleets.foreign.cast Fleets.schema Fleets.fleet).cast Fleets.schema Fleets.fleet =
      Fleets.foreign.cast Fleets.schema Fleets.fleet ∧
    ∃ predicate,
      build Fleets.schema Fleets.fleet (Teams.settings .always) none Fleets.tree = .ok predicate ∧
      build Fleets.schema Fleets.fleet (Teams.settings .always) none
        (Fleets.tree.cast Fleets.schema Fleets.fleet) = .ok predicate := by
  have hforeign : Fleets.foreign.WithoutInterceptors := Fleets.foreign_everywhere fun _ _ => rfl
  have hplain : Fleets.tree.WithoutInterceptors := Fleets.named_everywhere fun _ _ => rfl
  obtain ⟨hnames, -, hcast⟩ := cast_keeps_builds Fleets.schema Fleets.fleet hforeign
  obtain ⟨-, hkeeps, -⟩ := cast_keeps_builds Fleets.schema Fleets.fleet hplain
  have hbuilt : build Fleets.schema Fleets.fleet (Teams.settings .always) none Fleets.tree =
      .ok _ := rfl
  exact ⟨rfl, hnames, hcast, _, hbuilt, hkeeps _ _ hbuilt⟩

end FilterTree

end EntityQuery
