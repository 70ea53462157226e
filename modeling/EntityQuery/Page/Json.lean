import EntityQuery.Json.Part
import EntityQuery.Json.Printer
import EntityQuery.Json.Reader
import EntityQuery.Page.Basic
import EntityQuery.Settings.Json
import EntityQuery.Settings.Reader

namespace EntityQuery.EntityPage

open Document

def toJson (page : EntityPage) : Json :=
  .ofMembers ([("pageNumber", .string page.number), ("pageSize", .string page.size)] ++
    page.settings.toList.map fun settings => ("configuration", settings.toJson))

/-- Reads a page. Number and size are empty if they are not given. -/
def ofPart? (part : Json.Part) : Option EntityPage := do
  let fields ← part.fields? false ["pageNumber", "pageSize", "configuration"]
  return {
    number := ← given? fields "pageNumber" "" text?
    size := ← given? fields "pageSize" "" text?
    settings := ← given? fields "configuration" none (Json.Part.option? PageSettings.read?) }

/-- The text of a page as it is stored. -/
def toJsonText (page : EntityPage) : String := page.toJson.render

/-- Reads a stored page. -/
def ofJsonText? (text : String) : Option EntityPage := do
  ofPart? (← Json.read? text).whole

end EntityQuery.EntityPage
