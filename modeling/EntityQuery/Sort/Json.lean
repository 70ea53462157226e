import EntityQuery.Json.Part
import EntityQuery.Json.Printer
import EntityQuery.Json.Reader
import EntityQuery.Settings.Json
import EntityQuery.Settings.Reader
import EntityQuery.Sort.Entity

namespace EntityQuery

open Document

def SortKey.toJson (key : SortKey) : Json := .ofMembers [
  ("propertyPath", .string key.path),
  ("direction", .string key.direction.name),
  ("position", .number (toString key.position.toNat))]

def SortKey.ofPart? (part : Json.Part) : Option SortKey := do
  let fields ← part.fields? false ["propertyPath", "direction", "position"]
  return {
    path := ← required? fields "propertyPath" text?
    direction := ← required? fields "direction" (chosen? SortDirection.ofName?)
    position := ← required? fields "position" Json.Part.word? }

namespace EntitySort

variable {model : Model}

/-- The sort as an object, with its keys in the order of their addition. -/
def toJson (sort : EntitySort model) : Json :=
  .ofMembers (("propertySorts", .array (sort.stored.map SortKey.toJson)) ::
    sort.settings.toList.map fun settings => ("configuration", settings.toJson))

def ofPart? (part : Json.Part) : Option (EntitySort model) := do
  let fields ← part.fields? false ["propertySorts", "configuration"]
  return {
    stored := ← given? fields "propertySorts" [] (list? SortKey.ofPart?)
    settings := ← given? fields "configuration" none (Json.Part.option? SortSettings.read?) }

def toJsonText (sort : EntitySort model) : String := sort.toJson.render

/-- Reads a stored sort. Its paths are taken as they are. -/
def ofJsonText? (text : String) : Option (EntitySort model) := do
  ofPart? (← Json.read? text).whole

end EntitySort

end EntityQuery
