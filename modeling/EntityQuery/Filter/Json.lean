import EntityQuery.Filter.Entity
import EntityQuery.Json.Printer
import EntityQuery.Json.Reader
import EntityQuery.Settings.Json
import EntityQuery.Settings.Reader
import EntityQuery.ValueFilter.Json

namespace EntityQuery

open Document

def PropertyFilter.toJson (filter : PropertyFilter) : Json := .ofMembers [
  ("propertyName", .string filter.property),
  ("valueFilters", .array (filter.values.map ValueFilter.toJson))]

def PropertyFilter.ofPart? (part : Json.Part) : Option PropertyFilter := do
  let fields ← part.fields? false ["propertyName", "valueFilters"]
  return {
    property := ← required? fields "propertyName" text?
    values := ← required? fields "valueFilters" (list? ValueFilter.ofPart?) }

namespace FilterTree

mutual

/-- The filter as an object. A rule is not a part of it, and missing settings have no key. -/
def toJson : FilterTree → Json
  | ⟨properties, nested, settings, _⟩ => .ofMembers ([
      ("propertyFilters", .array (properties.map PropertyFilter.toJson)),
      ("nestedFilters", .array (nestedToJson nested))] ++
    settings.toList.map fun settings => ("configuration", settings.toJson))

def nestedToJson : List (String × FilterTree) → List Json
  | [] => []
  | (property, tree) :: rest =>
    .ofMembers [("propertyName", .string property), ("entityFilter", toJson tree)] ::
      nestedToJson rest

end

/-- Reads a filter on related entities under its name, given a way to read the filter. -/
def entryOf? (within : Json → Option FilterTree) (part : Json.Part) :
    Option (String × FilterTree) := do
  let fields ← part.fields? false ["propertyName", "entityFilter"]
  return (← required? fields "propertyName" text?,
    ← required? fields "entityFilter" fun part => within part.json)

/-- Reads a filter, given a way to read those within. -/
def ofPartWith? (now : Calendar.DateTime) (within : Json → Option FilterTree)
    (part : Json.Part) : Option FilterTree := do
  let fields ← part.fields? false ["propertyFilters", "nestedFilters", "configuration"]
  return {
    properties := ← given? fields "propertyFilters" [] (list? PropertyFilter.ofPart?)
    nested := ← given? fields "nestedFilters" [] (list? (entryOf? within))
    settings := ← given? fields "configuration" none
      (Json.Part.option? (FilterSettings.read? now))
    interceptor := none }

/-- Reads a filter at a depth of its document. A filter within lies three levels deeper:
    below the outer filter, its list and an entry. -/
def ofDepth? (now : Calendar.DateTime) : Nat → Json → Option FilterTree
  | depth + 3, json => ofPartWith? now (ofDepth? now depth) ⟨json, depth + 3⟩
  | depth, json => ofPartWith? now (fun _ => none) ⟨json, depth⟩

def ofPart? (now : Calendar.DateTime) (part : Json.Part) : Option FilterTree :=
  ofDepth? now part.depth part.json

def toJsonText (tree : FilterTree) : String := tree.toJson.render

/-- Reads a stored filter. Its settings refer to the given present. -/
def ofJsonText? (now : Calendar.DateTime) (text : String) : Option FilterTree := do
  ofPart? now (← Json.read? text).whole

end FilterTree

namespace EntityFilter

variable {model : Model}

def toJsonText (filter : EntityFilter model) : String := filter.tree.toJsonText

/-- Reads a stored filter. Its property names are taken as they are. -/
def ofJsonText? (now : Calendar.DateTime) (text : String) : Option (EntityFilter model) :=
  (FilterTree.ofJsonText? now text).map EntityFilter.mk

end EntityFilter

end EntityQuery
