import EntityQuery.Proofs.Json.Part
import EntityQuery.Proofs.Json.Reader
import EntityQuery.Settings.Reader

namespace EntityQuery

open Document
open Json.Part (Reads exists_fields? reads_text reads_bool reads_char reads_chosen reads_list
  reads_map)

theorem Operator.ofName?_name (operator : Operator) : ofName? operator.name = some operator := by
  cases operator <;> rfl

theorem TextComparison.ofName?_name (way : TextComparison) : ofName? way.name = some way := by
  cases way <;> rfl

theorem ConditionalAccess.ofName?_name (policy : ConditionalAccess) :
    ofName? policy.name = some policy := by
  cases policy <;> rfl

/-- The settings of a filter are read from the object that they are written as, but for the
    present. -/
theorem FilterSettings.reads_toJson (now : Calendar.DateTime) (settings : FilterSettings) :
    Reads (read? now) settings.toJson { settings with now := now } := by
  intro depth hdepth
  obtain ⟨fields, hfields, hgives⟩ := exists_fields? names hdepth true (by decide) (.refl names)
  have hculture : given? fields "culture" (builtin now).culture text? = some settings.culture :=
    hgives.given? rfl _ (reads_text _)
  have htokens : given? fields "filter_operator_map" (builtin now).operatorTokens
      (map? (chosen? Operator.ofName?)) = some settings.operatorTokens :=
    hgives.given? rfl _ (reads_map (fun operator => reads_chosen operator.ofName?_name) _)
  have hwords : given? fields "boolean_map" (builtin now).booleanWords (map? bool?) =
      some settings.booleanWords := hgives.given? rfl _ (reads_map reads_bool _)
  have hseparators : given? fields "value_separator_chars" (builtin now).separators text? =
      some settings.separators := hgives.given? rfl _ (reads_text _)
  have hescape : given? fields "escape_char" (builtin now).escapeChar char? =
      some settings.escapeChar := hgives.given? rfl _ (reads_char _)
  have hcomparison : given? fields "string_comparison" (builtin now).textComparison
      (chosen? TextComparison.ofName?) = some settings.textComparison :=
    hgives.given? rfl _ (reads_chosen settings.textComparison.ofName?_name)
  have haccess : given? fields "conditional_access" (builtin now).conditionalAccess
      (chosen? ConditionalAccess.ofName?) = some settings.conditionalAccess :=
    hgives.given? rfl _ (reads_chosen settings.conditionalAccess.ofName?_name)
  have hignore : given? fields "ignore_parse_exceptions" (builtin now).ignoreParseExceptions bool? =
      some settings.ignoreParseExceptions := hgives.given? rfl _ (reads_bool _)
  have hrecord : fields? names (⟨settings.toJson, depth⟩ : Json.Part) = some fields := hfields
  rw [read?, hrecord, Option.bind_eq_bind, Option.bind_some]
  dsimp only
  rw [hculture, htokens, hwords, hseparators,
    hescape, hcomparison, haccess, hignore]
  rfl

theorem SortSettings.reads_toJson (settings : SortSettings) :
    Reads read? settings.toJson settings := by
  intro depth hdepth
  obtain ⟨fields, hfields, hgives⟩ := exists_fields? names hdepth true (by decide) (.refl names)
  have htexts {name : String} {texts usual : List String}
      (hlookup : List.lookup name _ = some (Json.ofTexts texts)) :
      given? fields name usual (list? text?) = some texts :=
    hgives.given? hlookup usual (reads_list reads_text texts)
  have hcase : given? fields "ignore_property_name_case" builtin.ignorePropertyNameCase bool? =
      some settings.ignorePropertyNameCase := hgives.given? rfl _ (reads_bool _)
  have haccess : given? fields "conditional_access" builtin.conditionalAccess
      (chosen? ConditionalAccess.ofName?) = some settings.conditionalAccess :=
    hgives.given? rfl _ (reads_chosen settings.conditionalAccess.ofName?_name)
  have hrecord : fields? names (⟨settings.toJson, depth⟩ : Json.Part) = some fields := hfields
  rw [read?, hrecord, Option.bind_eq_bind, Option.bind_some, htexts rfl, htexts rfl, htexts rfl,
    htexts rfl, hcase, haccess]
  rfl

theorem PageSettings.reads_toJson (settings : PageSettings) :
    Reads read? settings.toJson settings := by
  intro depth hdepth
  obtain ⟨fields, hfields, hgives⟩ := exists_fields? names hdepth true (by decide) (.refl names)
  have hignore : given? fields "ignore_parse_exceptions" builtin.ignoreParseExceptions bool? =
      some settings.ignoreParseExceptions := hgives.given? rfl _ (reads_bool _)
  have hrecord : fields? names (⟨settings.toJson, depth⟩ : Json.Part) = some fields := hfields
  rw [read?, hrecord, Option.bind_eq_bind, Option.bind_some, hignore]
  rfl

namespace Json

theorem written_ofTexts (texts : List String) : (ofTexts texts).Written :=
  .array (List.forall_mem_map.mpr fun text _ => .string text)

theorem depth_ofTexts_le (texts : List String) : (ofTexts texts).depth ≤ 1 :=
  depth_array_le_iff.mpr (List.forall_mem_map.mpr fun _ _ => Nat.le_refl 0)

theorem written_toJson {α : Type} {value : α → Json} (h : ∀ a, (value a).Written)
    (map : OrderedMap α) : (map.toJson value).Written :=
  .ofMembers (List.forall_mem_map.mpr fun entry _ => h entry.2)

end Json

theorem FilterSettings.written_toJson (settings : FilterSettings) : settings.toJson.Written := by
  refine .ofMembers ?_
  simp only [List.forall_mem_cons]
  exact ⟨.string _,
    Json.written_toJson (fun operator : Operator => .string operator.name) _,
    Json.written_toJson .bool _, .string _, .string _, .string _, .string _, .bool _,
    List.forall_mem_nil _⟩

theorem SortSettings.written_toJson (settings : SortSettings) : settings.toJson.Written := by
  refine .ofMembers ?_
  simp only [List.forall_mem_cons]
  exact ⟨Json.written_ofTexts _, Json.written_ofTexts _, Json.written_ofTexts _,
    Json.written_ofTexts _, .bool _, .string _, List.forall_mem_nil _⟩

theorem SortSettings.depth_toJson_le (settings : SortSettings) : settings.toJson.depth ≤ 2 := by
  refine Json.depth_ofMembers_le_iff.mpr ?_
  simp only [List.forall_mem_cons]
  exact ⟨Json.depth_ofTexts_le _, Json.depth_ofTexts_le _, Json.depth_ofTexts_le _,
    Json.depth_ofTexts_le _, Nat.zero_le _, Nat.zero_le _, List.forall_mem_nil _⟩

theorem PageSettings.written_toJson (settings : PageSettings) : settings.toJson.Written :=
  .ofMembers (List.forall_mem_singleton.mpr (.bool _))

theorem PageSettings.depth_toJson_le (settings : PageSettings) : settings.toJson.depth ≤ 1 :=
  Json.depth_ofMembers_le_iff.mpr (List.forall_mem_singleton.mpr (Nat.le_refl 0))

end EntityQuery
