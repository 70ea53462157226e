import EntityQuery.Json.Basic
import EntityQuery.Settings.Defaults

namespace EntityQuery

def Json.ofTexts (texts : List String) : Json := .array (texts.map Json.string)

/-- A map as an object, in the order of its entries. -/
def OrderedMap.toJson {α : Type} (map : OrderedMap α) (value : α → Json) : Json :=
  .ofMembers (map.entries.map fun entry => (entry.1, value entry.2))

/-- The settings as an object. The present is not a part of it. -/
def FilterSettings.toJson (settings : FilterSettings) : Json := .ofMembers [
  ("culture", .string settings.culture),
  ("filter_operator_map", settings.operatorTokens.toJson fun operator => .string operator.name),
  ("boolean_map", settings.booleanWords.toJson .bool),
  ("value_separator_chars", .string settings.separators),
  ("escape_char", .string (String.singleton settings.escapeChar)),
  ("string_comparison", .string settings.textComparison.name),
  ("conditional_access", .string settings.conditionalAccess.name),
  ("ignore_parse_exceptions", .bool settings.ignoreParseExceptions)]

def SortSettings.toJson (settings : SortSettings) : Json := .ofMembers [
  ("ascending_prefixes", .ofTexts settings.ascendingPrefixes),
  ("ascending_postfixes", .ofTexts settings.ascendingPostfixes),
  ("descending_prefixes", .ofTexts settings.descendingPrefixes),
  ("descending_postfixes", .ofTexts settings.descendingPostfixes),
  ("ignore_property_name_case", .bool settings.ignorePropertyNameCase),
  ("conditional_access", .string settings.conditionalAccess.name)]

def PageSettings.toJson (settings : PageSettings) : Json := .ofMembers [
  ("ignore_parse_exceptions", .bool settings.ignoreParseExceptions)]

/-- The settings of all sections as one object. -/
def Settings.toJson (settings : Settings) : Json := .ofMembers [
  ("filter", settings.filter.toJson), ("sort", settings.sort.toJson),
  ("page", settings.page.toJson)]

end EntityQuery
