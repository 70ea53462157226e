import EntityQuery.Filter.Json
import EntityQuery.Page.Json
import EntityQuery.Proofs.Filter.Build
import EntityQuery.Proofs.Json.Settings
import EntityQuery.Sort.Json

namespace EntityQuery

open Document
open Json.Part (Reads exists_fields? reads_text reads_chosen reads_word reads_list reads_list_map)

variable {now : Calendar.DateTime}

/-- The names of a record whose last field may be left out, and some or all of its fields. -/
private theorem sublist_of_optional {α : Type} (before : List (String × Json)) (name : String)
    (last : Option α) (toJson : α → Json) :
    List.Sublist ((before ++ last.toList.map fun a => (name, toJson a)).map (·.1))
      (before.map (·.1) ++ [name]) := by
  rw [List.map_append, List.append_sublist_append_left]
  cases last with
  | none => exact List.nil_sublist _
  | some a => exact .refl _

theorem ValueFilter.reads_toJson (filter : ValueFilter) : Reads ofPart? filter.toJson filter := by
  intro depth hdepth
  obtain ⟨operator, value⟩ := filter
  obtain ⟨fields, hfields, hgives⟩ := exists_fields? ["operator", "value"] hdepth false
    (by decide) (sublist_of_optional [("operator", _)] "value" value Json.string)
  have hoperator : required? fields "operator" (chosen? Operator.ofName?) = some operator :=
    hgives.required rfl (reads_chosen operator.ofName?_name)
  have hvalue : given? fields "value" none (Json.Part.option? text?) = some (value.map id) :=
    hgives.optional (by cases value <;> rfl) reads_text nofun
  have hrecord : Json.Part.fields? false ["operator", "value"]
      ⟨toJson ⟨operator, value⟩, depth⟩ = some fields := hfields
  rw [ofPart?, hrecord, Option.bind_eq_bind, Option.bind_some, hoperator, hvalue, Option.map_id]
  rfl

theorem ValueFilter.written_toJson (filter : ValueFilter) : filter.toJson.Written := by
  refine .ofMembers (List.forall_mem_cons.mpr ⟨.string _, List.forall_mem_map.mpr ?_⟩)
  exact fun value _ => .string value

theorem PropertyFilter.reads_toJson (filter : PropertyFilter) :
    Reads ofPart? filter.toJson filter := by
  intro depth hdepth
  obtain ⟨fields, hfields, hgives⟩ := exists_fields? ["propertyName", "valueFilters"] hdepth
    false (by decide) (.refl _)
  have hproperty : required? fields "propertyName" text? = some filter.property :=
    hgives.required rfl (reads_text _)
  have hvalues : required? fields "valueFilters" (list? ValueFilter.ofPart?) = some filter.values :=
    hgives.required rfl (reads_list ValueFilter.reads_toJson _)
  have hrecord : Json.Part.fields? false ["propertyName", "valueFilters"]
      ⟨filter.toJson, depth⟩ = some fields := hfields
  rw [ofPart?, hrecord, Option.bind_eq_bind, Option.bind_some, hproperty, hvalues]
  rfl

theorem PropertyFilter.written_toJson (filter : PropertyFilter) : filter.toJson.Written := by
  refine .ofMembers ?_
  simp only [List.forall_mem_cons]
  exact ⟨.string _, .array (List.forall_mem_map.mpr fun value _ => value.written_toJson),
    List.forall_mem_nil _⟩

namespace FilterTree

mutual

/-- A filter with another present in its settings and in those of the filters within. -/
def withPresent (now : Calendar.DateTime) : FilterTree → FilterTree
  | ⟨properties, nested, settings, interceptor⟩ =>
    ⟨properties, nestedWithPresent now nested, settings.map fun own => { own with now := now },
      interceptor⟩

def nestedWithPresent (now : Calendar.DateTime) :
    List (String × FilterTree) → List (String × FilterTree)
  | [] => []
  | (property, tree) :: rest => (property, withPresent now tree) :: nestedWithPresent now rest

end

theorem withPresent_eq (now : Calendar.DateTime) (tree : FilterTree) :
    tree.withPresent now = { tree with
      nested := tree.nested.map fun entry => (entry.1, entry.2.withPresent now)
      settings := tree.settings.map fun own => { own with now := now } } := by
  have hnested : ∀ nested, nestedWithPresent now nested =
      nested.map fun entry => (entry.1, entry.2.withPresent now) := by
    intro nested
    induction nested with
    | nil => rfl
    | cons entry rest ih => rw [nestedWithPresent, ih, List.map_cons]
  obtain ⟨properties, nested, settings, interceptor⟩ := tree
  rw [withPresent, hnested]

/-- A filter on related entities as an object with its name. -/
def entryToJson (entry : String × FilterTree) : Json :=
  .ofMembers [("propertyName", .string entry.1), ("entityFilter", entry.2.toJson)]

theorem toJson_eq (tree : FilterTree) :
    tree.toJson = .ofMembers ([
      ("propertyFilters", .array (tree.properties.map PropertyFilter.toJson)),
      ("nestedFilters", .array (tree.nested.map entryToJson))] ++
    tree.settings.toList.map fun own => ("configuration", own.toJson)) := by
  have hnested : ∀ nested, nestedToJson nested = nested.map entryToJson := by
    intro nested
    induction nested with
    | nil => rfl
    | cons entry rest ih => rw [nestedToJson, ih, List.map_cons, entryToJson]
  obtain ⟨properties, nested, settings, interceptor⟩ := tree
  rw [toJson, hnested]

theorem reads_entryToJson {within : Json → Option FilterTree} {entry : String × FilterTree}
    {inner : FilterTree} (hinner : within entry.2.toJson = some inner) :
    Reads (entryOf? within) (entryToJson entry) (entry.1, inner) := by
  intro depth hdepth
  obtain ⟨fields, hfields, hgives⟩ := exists_fields? ["propertyName", "entityFilter"] hdepth
    false (by decide) (.refl _)
  have hproperty : required? fields "propertyName" text? = some entry.1 :=
    hgives.required rfl (reads_text _)
  have hfilter : required? fields "entityFilter" (fun part => within part.json) = some inner :=
    hgives.required rfl fun _ => hinner
  have hrecord : Json.Part.fields? false ["propertyName", "entityFilter"]
      ⟨entryToJson entry, depth⟩ = some fields := hfields
  rw [entryOf?, hrecord, Option.bind_eq_bind, Option.bind_some, hproperty, hfilter]
  rfl

/-- A filter is read back if those within it are. -/
theorem reads_toJson {within : Json → Option FilterTree} {tree : FilterTree}
    (hplain : tree.interceptor = none)
    (hwithin : ∀ entry ∈ tree.nested, within entry.2.toJson = some (entry.2.withPresent now)) :
    Reads (ofPartWith? now within) tree.toJson (tree.withPresent now) := by
  rw [toJson_eq, withPresent_eq]
  obtain ⟨properties, nested, settings, interceptor⟩ := tree
  cases hplain
  intro depth hdepth
  obtain ⟨fields, hfields, hgives⟩ := exists_fields?
    ["propertyFilters", "nestedFilters", "configuration"] hdepth false (by decide)
    (sublist_of_optional [("propertyFilters", _), ("nestedFilters", _)] "configuration" settings
      FilterSettings.toJson)
  have hproperties : given? fields "propertyFilters" [] (list? PropertyFilter.ofPart?) =
      some properties := hgives.given? rfl _ (reads_list PropertyFilter.reads_toJson _)
  have hnested : given? fields "nestedFilters" [] (list? (entryOf? within)) =
      some (nested.map fun entry => (entry.1, entry.2.withPresent now)) :=
    hgives.given? rfl _ (reads_list_map fun entry hentry =>
      reads_entryToJson (hwithin entry hentry))
  have hsettings : given? fields "configuration" none
      (Json.Part.option? (FilterSettings.read? now)) =
        some (settings.map fun own => { own with now := now }) :=
    hgives.optional (by cases settings <;> rfl) (FilterSettings.reads_toJson now)
      fun _ => Json.ofMembers_ne_null _
  have hrecord : Json.Part.fields? false ["propertyFilters", "nestedFilters", "configuration"] _ =
      some fields := hfields
  rw [ofPartWith?, hrecord, Option.bind_eq_bind, Option.bind_some, hproperties, hnested, hsettings]
  rfl

theorem written_toJson {tree : FilterTree} (hplain : tree.WithoutInterceptors) :
    tree.toJson.Written := by
  induction hplain with
  | @intro tree _ _ ih =>
    have hsettings : ∀ member ∈ tree.settings.toList.map fun own => ("configuration", own.toJson),
        member.2.Written := List.forall_mem_map.mpr fun own _ => own.written_toJson
    rw [toJson_eq]
    refine .ofMembers (List.forall_mem_append.mpr ⟨?_, hsettings⟩)
    simp only [List.forall_mem_cons]
    refine ⟨.array (List.forall_mem_map.mpr fun filter _ => filter.written_toJson),
      .array (List.forall_mem_map.mpr fun entry hentry => ?_), List.forall_mem_nil _⟩
    refine .ofMembers ?_
    simp only [List.forall_mem_cons]
    exact ⟨.string _, ih entry hentry, List.forall_mem_nil _⟩

/-- A filter within lies three levels deeper than the filter that it is in. -/
theorem exists_depth_inside {tree : FilterTree} {depth : Nat} (hdepth : tree.toJson.depth ≤ depth)
    {entry : String × FilterTree} (hentry : entry ∈ tree.nested) :
    ∃ inside, depth = inside + 3 ∧ entry.2.toJson.depth ≤ inside := by
  rw [toJson_eq] at hdepth
  obtain ⟨below, rfl, hmembers⟩ := Json.exists_depth_ofMembers hdepth
  obtain ⟨list, rfl, hitems⟩ := Json.exists_depth_array
    (hmembers ("nestedFilters", .array (tree.nested.map entryToJson)) (by simp))
  obtain ⟨inside, rfl, hentry⟩ := Json.exists_depth_ofMembers
    (hitems (entryToJson entry) (List.mem_map_of_mem hentry))
  exact ⟨inside, rfl, hentry ("entityFilter", entry.2.toJson) (by simp)⟩

/-- A filter is read back from a document that is not too deep. -/
theorem ofDepth?_toJson {tree : FilterTree} (hplain : tree.WithoutInterceptors) {depth : Nat}
    (hdepth : tree.toJson.depth ≤ depth) :
    ofDepth? now depth tree.toJson = some (tree.withPresent now) := by
  induction hplain generalizing depth with
  | @intro tree hplain _ ih =>
    rcases depth with _ | _ | _ | depth
    case succ.succ.succ =>
      refine reads_toJson hplain (fun entry hentry => ?_) hdepth
      obtain ⟨inside, heq, hinside⟩ := exists_depth_inside hdepth hentry
      cases heq
      exact ih entry hentry hinside
    -- With less than three levels left, there are no filters within.
    all_goals
      refine reads_toJson hplain (fun entry hentry => ?_) hdepth
      obtain ⟨inside, heq, -⟩ := exists_depth_inside hdepth hentry
      cases heq

end FilterTree

theorem SortDirection.ofName?_name (direction : SortDirection) :
    ofName? direction.name = some direction := by
  cases direction <;> rfl

theorem SortKey.reads_toJson (key : SortKey) : Reads ofPart? key.toJson key := by
  intro depth hdepth
  obtain ⟨fields, hfields, hgives⟩ := exists_fields? ["propertyPath", "direction", "position"]
    hdepth false (by decide) (.refl _)
  have hpath : required? fields "propertyPath" text? = some key.path :=
    hgives.required rfl (reads_text _)
  have hdirection : required? fields "direction" (chosen? SortDirection.ofName?) =
      some key.direction := hgives.required rfl (reads_chosen key.direction.ofName?_name)
  have hposition : required? fields "position" Json.Part.word? = some key.position :=
    hgives.required rfl (reads_word _)
  have hrecord : Json.Part.fields? false ["propertyPath", "direction", "position"]
      ⟨key.toJson, depth⟩ = some fields := hfields
  rw [ofPart?, hrecord, Option.bind_eq_bind, Option.bind_some, hpath, hdirection, hposition]
  rfl

theorem SortKey.written_toJson (key : SortKey) : key.toJson.Written := by
  refine .ofMembers ?_
  simp only [List.forall_mem_cons]
  exact ⟨.string _, .string _, .number (Json.Reader.isNumber_toString _), List.forall_mem_nil _⟩

theorem SortKey.depth_toJson_le (key : SortKey) : key.toJson.depth ≤ 1 := by
  refine Json.depth_ofMembers_le_iff.mpr ?_
  simp only [List.forall_mem_cons]
  exact ⟨Nat.le_refl 0, Nat.le_refl 0, Nat.le_refl 0, List.forall_mem_nil _⟩

namespace EntitySort

variable {model : Model}

theorem reads_toJson (sort : EntitySort model) : Reads ofPart? sort.toJson sort := by
  intro depth hdepth
  obtain ⟨stored, settings⟩ := sort
  obtain ⟨fields, hfields, hgives⟩ := exists_fields? ["propertySorts", "configuration"] hdepth false
    (by decide) (sublist_of_optional [("propertySorts", _)] "configuration" settings
      SortSettings.toJson)
  have hstored : given? fields "propertySorts" [] (list? SortKey.ofPart?) = some stored :=
    hgives.given? rfl _ (reads_list SortKey.reads_toJson _)
  have hsettings : given? fields "configuration" none (Json.Part.option? SortSettings.read?) =
      some (settings.map id) :=
    hgives.optional (by cases settings <;> rfl) SortSettings.reads_toJson
      fun _ => Json.ofMembers_ne_null _
  have hrecord : Json.Part.fields? false ["propertySorts", "configuration"]
      ⟨toJson ⟨stored, settings⟩, depth⟩ = some fields := hfields
  rw [ofPart?, hrecord, Option.bind_eq_bind, Option.bind_some, hstored, hsettings, Option.map_id]
  rfl

theorem written_toJson (sort : EntitySort model) : sort.toJson.Written := by
  refine .ofMembers (List.forall_mem_cons.mpr ⟨?_, List.forall_mem_map.mpr ?_⟩)
  · exact .array (List.forall_mem_map.mpr fun key _ => key.written_toJson)
  · exact fun settings _ => settings.written_toJson

theorem depth_toJson_le (sort : EntitySort model) : sort.toJson.depth ≤ 3 := by
  refine Json.depth_ofMembers_le_iff.mpr
    (List.forall_mem_cons.mpr ⟨?_, List.forall_mem_map.mpr ?_⟩)
  · exact Json.depth_array_le_iff.mpr (List.forall_mem_map.mpr fun key _ => key.depth_toJson_le)
  · exact fun settings _ => settings.depth_toJson_le

end EntitySort

namespace EntityPage

theorem reads_toJson (page : EntityPage) : Reads ofPart? page.toJson page := by
  intro depth hdepth
  obtain ⟨number, size, settings⟩ := page
  obtain ⟨fields, hfields, hgives⟩ := exists_fields? ["pageNumber", "pageSize", "configuration"]
    hdepth false (by decide) (sublist_of_optional [("pageNumber", _), ("pageSize", _)]
      "configuration" settings PageSettings.toJson)
  have hnumber : given? fields "pageNumber" "" text? = some number :=
    hgives.given? rfl _ (reads_text _)
  have hsize : given? fields "pageSize" "" text? = some size := hgives.given? rfl _ (reads_text _)
  have hsettings : given? fields "configuration" none (Json.Part.option? PageSettings.read?) =
      some (settings.map id) :=
    hgives.optional (by cases settings <;> rfl) PageSettings.reads_toJson
      fun _ => Json.ofMembers_ne_null _
  have hrecord : Json.Part.fields? false ["pageNumber", "pageSize", "configuration"]
      ⟨toJson ⟨number, size, settings⟩, depth⟩ = some fields := hfields
  rw [ofPart?, hrecord, Option.bind_eq_bind, Option.bind_some, hnumber, hsize, hsettings,
    Option.map_id]
  rfl

theorem written_toJson (page : EntityPage) : page.toJson.Written := by
  have hsettings : ∀ member ∈ page.settings.toList.map fun own => ("configuration", own.toJson),
      member.2.Written := List.forall_mem_map.mpr fun own _ => own.written_toJson
  refine .ofMembers (List.forall_mem_append.mpr ⟨?_, hsettings⟩)
  simp only [List.forall_mem_cons]
  exact ⟨.string _, .string _, List.forall_mem_nil _⟩

theorem depth_toJson_le (page : EntityPage) : page.toJson.depth ≤ 2 := by
  have hsettings : ∀ member ∈ page.settings.toList.map fun own => ("configuration", own.toJson),
      member.2.depth ≤ 1 := List.forall_mem_map.mpr fun own _ => own.depth_toJson_le
  refine Json.depth_ofMembers_le_iff.mpr (List.forall_mem_append.mpr ⟨?_, hsettings⟩)
  simp only [List.forall_mem_cons]
  exact ⟨Nat.zero_le 1, Nat.zero_le 1, List.forall_mem_nil _⟩

end EntityPage

/-- A filter without rules of its own, a sort and a page are read back from the text that they are
    stored as. Of a filter the nesting of the text has to stay below the limit, and only the present
    that its settings refer to is given anew. -/
theorem ofJsonText?_toJsonText {model : Model} :
    (∀ (now : Calendar.DateTime) (filter : EntityFilter model), filter.tree.WithoutInterceptors →
      filter.tree.toJson.depth < 128 →
        EntityFilter.ofJsonText? now filter.toJsonText =
          some (⟨filter.tree.withPresent now⟩ : EntityFilter model)) ∧
    (∀ sort : EntitySort model, EntitySort.ofJsonText? sort.toJsonText = some sort) ∧
    ∀ page : EntityPage, EntityPage.ofJsonText? page.toJsonText = some page := by
  refine ⟨fun now filter hplain hdepth => ?_, fun sort => ?_, fun page => ?_⟩
  · have hread := Json.read?_render (FilterTree.written_toJson hplain)
    have htree : FilterTree.ofPart? now filter.tree.toJson.whole =
        some (filter.tree.withPresent now) :=
      FilterTree.ofDepth?_toJson hplain (Nat.le_of_lt_succ hdepth)
    rw [EntityFilter.ofJsonText?, FilterTree.ofJsonText?, EntityFilter.toJsonText,
      FilterTree.toJsonText, hread, Option.bind_eq_bind, Option.bind_some, htree, Option.map_some]
  · have hdepth : sort.toJson.depth ≤ 127 := sort.depth_toJson_le.trans (by decide)
    rw [EntitySort.ofJsonText?, EntitySort.toJsonText, Json.read?_render sort.written_toJson,
      Option.bind_eq_bind, Option.bind_some, Json.whole, sort.reads_toJson hdepth]
  · have hdepth : page.toJson.depth ≤ 127 := page.depth_toJson_le.trans (by decide)
    rw [EntityPage.ofJsonText?, EntityPage.toJsonText, Json.read?_render page.written_toJson,
      Option.bind_eq_bind, Option.bind_some, Json.whole, page.reads_toJson hdepth]

namespace Teams

/-- A filter on teams with settings of its own, a name that needs escapes, a value that a null
    check has no use for, and a missing value. -/
def stored : EntityFilter team := ⟨{ tree with
  properties := [⟨"\"Lead\"\n", [⟨.isNull, some "é"⟩, ⟨.contains, none⟩]⟩]
  settings := some (settings .always) }⟩

/-- By the name of the lead, at the last position of all, and then by name. -/
def storedSort : EntitySort team :=
  ⟨[⟨"Lead.Name", .descending, 18446744073709551615⟩, ⟨"Name", .ascending, 7⟩], some .builtin⟩

/-- Twelve hours after the present that the settings refer to. -/
def noon : Calendar.DateTime := { (settings .always).now with time := .ofSecond 43200 0 }

theorem stored_withoutInterceptors : stored.tree.WithoutInterceptors :=
  .intro rfl (nested_everywhere fun _ => rfl)

end Teams

/-- The settings that are read back refer to another time, and all else is as it was. -/
theorem ofJsonText?_toJsonText_teams :
    (∃ copy : EntityFilter Teams.team,
      EntityFilter.ofJsonText? Teams.noon Teams.stored.toJsonText = some copy ∧
      copy.tree.properties = Teams.stored.tree.properties ∧
      copy.tree.nested = Teams.stored.tree.nested ∧
      copy.tree.settings = some { Teams.settings .always with now := Teams.noon }) ∧
    EntitySort.ofJsonText? Teams.storedSort.toJsonText = some Teams.storedSort ∧
    EntityPage.ofJsonText? (EntityPage.ofTexts "2" "").toJsonText =
      some (EntityPage.ofTexts "2" "") := by
  obtain ⟨hfilter, hsort, hpage⟩ := ofJsonText?_toJsonText
  have hdepth : Teams.stored.tree.toJson.depth < 128 := by decide
  refine ⟨⟨_, hfilter Teams.noon Teams.stored Teams.stored_withoutInterceptors hdepth, rfl, rfl,
    rfl⟩, hsort Teams.storedSort, hpage (EntityPage.ofTexts "2" "")⟩

end EntityQuery
