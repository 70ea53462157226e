import EntityQuery.Document
import EntityQuery.Settings.Defaults

namespace EntityQuery

open Document

variable {σ : Type} [Document σ]

/-- The names of the settings in their usual order. The present is not among them. -/
def FilterSettings.names : List String := [
  "culture", "filter_operator_map", "boolean_map", "value_separator_chars", "escape_char",
  "string_comparison", "conditional_access", "ignore_parse_exceptions"]

/-- Reads the settings of filters. Those that are not given are built in. -/
def FilterSettings.read? (now : Calendar.DateTime) (part : σ) : Option FilterSettings := do
  let fields ← fields? names part
  let usual := builtin now
  return {
    culture := ← given? fields "culture" usual.culture text?
    operatorTokens := ← given? fields "filter_operator_map" usual.operatorTokens
      (map? (chosen? Operator.ofName?))
    booleanWords := ← given? fields "boolean_map" usual.booleanWords (map? bool?)
    separators := ← given? fields "value_separator_chars" usual.separators text?
    escapeChar := ← given? fields "escape_char" usual.escapeChar char?
    textComparison := ← given? fields "string_comparison" usual.textComparison
      (chosen? TextComparison.ofName?)
    conditionalAccess := ← given? fields "conditional_access" usual.conditionalAccess
      (chosen? ConditionalAccess.ofName?)
    ignoreParseExceptions := ← given? fields "ignore_parse_exceptions"
      usual.ignoreParseExceptions bool?
    now := now }

def SortSettings.names : List String := [
  "ascending_prefixes", "ascending_postfixes", "descending_prefixes", "descending_postfixes",
  "ignore_property_name_case", "conditional_access"]

/-- Reads the settings of sorts. Those that are not given are built in. -/
def SortSettings.read? (part : σ) : Option SortSettings := do
  let fields ← fields? names part
  return {
    ascendingPrefixes := ← given? fields "ascending_prefixes" builtin.ascendingPrefixes
      (list? text?)
    ascendingPostfixes := ← given? fields "ascending_postfixes" builtin.ascendingPostfixes
      (list? text?)
    descendingPrefixes := ← given? fields "descending_prefixes" builtin.descendingPrefixes
      (list? text?)
    descendingPostfixes := ← given? fields "descending_postfixes" builtin.descendingPostfixes
      (list? text?)
    ignorePropertyNameCase := ← given? fields "ignore_property_name_case"
      builtin.ignorePropertyNameCase bool?
    conditionalAccess := ← given? fields "conditional_access" builtin.conditionalAccess
      (chosen? ConditionalAccess.ofName?) }

def PageSettings.names : List String := ["ignore_parse_exceptions"]

/-- Reads the settings of pages. Those that are not given are built in. -/
def PageSettings.read? (part : σ) : Option PageSettings := do
  let fields ← fields? names part
  return {
    ignoreParseExceptions := ← given? fields "ignore_parse_exceptions"
      builtin.ignoreParseExceptions bool? }

def Settings.names : List String := ["filter", "sort", "page"]

/-- Reads the settings of all sections. Sections that are not given are built in. -/
def Settings.read? (now : Calendar.DateTime) (part : σ) : Option Settings := do
  let fields ← fields? names part
  let usual := builtin now
  return {
    filter := ← given? fields "filter" usual.filter (FilterSettings.read? now)
    sort := ← given? fields "sort" usual.sort SortSettings.read?
    page := ← given? fields "page" usual.page PageSettings.read? }

end EntityQuery
