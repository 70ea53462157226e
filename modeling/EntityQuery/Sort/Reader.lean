import EntityQuery.Settings.Sort
import EntityQuery.Sort.Key
import EntityQuery.StableSort
import EntityQuery.Text.Basic

namespace EntityQuery.SortKey

abbrev Marker := List Char × SortDirection

/-- Markers of one direction, longer ones first and without empty ones. -/
def markersOf (direction : SortDirection) (texts : List String) : List Marker :=
  let filled := texts.filter fun text => !text.isEmpty
  (StableSort.sort (fun a b => b.utf8ByteSize < a.utf8ByteSize) filled).map fun text =>
    (text.toList, direction)

/-- The markers before a path, those of ascending order first. -/
def markersBefore (settings : SortSettings) : List Marker :=
  markersOf .ascending settings.ascendingPrefixes ++
    markersOf .descending settings.descendingPrefixes

/-- The markers behind a path, those of ascending order first. -/
def markersBehind (settings : SortSettings) : List Marker :=
  markersOf .ascending settings.ascendingPostfixes ++
    markersOf .descending settings.descendingPostfixes

/-- What follows a marker at the start of a text, in any letter case. -/
def afterMarker? (marker text : List Char) : Option (List Char) :=
  if Text.sameIgnoringCase marker (text.take marker.length) then some (text.drop marker.length)
  else none

/-- The shortest path at the start of a text that one of the markers follows, with nothing
    behind it, or else the whole text. A path keeps to one line. -/
def cutBehind? (markers : List Marker) : List Char → Option (List Char × SortDirection)
  | [] => some ([], .ascending)
  | c :: rest =>
    match markers.find? fun marker => Text.sameIgnoringCase marker.1 (c :: rest) with
    | some marker => some ([], marker.2)
    | none =>
      if c == '\n' then none
      else (cutBehind? markers rest).map fun (path, direction) => (c :: path, direction)

/-- The ways to take a marker off the start of a text, and at last the text as it is. -/
def cutsBefore (markers : List Marker) (text : List Char) : List (List Char × SortDirection) :=
  (markers.filterMap fun (marker, direction) =>
    (afterMarker? marker text).map fun rest => (rest, direction)) ++ [(text, .ascending)]

/-- The path and the direction of one key. It descends if either of its markers says so. -/
def ofToken? (settings : SortSettings) (token : List Char) : Option (List Char × SortDirection) :=
  (cutsBefore (markersBefore settings) token).findSome? fun (rest, before) =>
    (cutBehind? (markersBehind settings) rest).map fun (path, behind) =>
      (path, if before == .descending || behind == .descending then .descending else .ascending)

/-- The paths and directions of a text of sort keys with commas between them. Keys without a
    path are passed over. -/
def ofSyntax (settings : SortSettings) (raw : String) : List (String × SortDirection) :=
  let tokens := (raw.toList.splitOn ',').map Text.trim
  (tokens.filter fun token => !token.isEmpty).filterMap fun token => do
    let (path, direction) ← ofToken? settings token
    let path := Text.trim path
    if path.isEmpty then none else some (String.ofList path, direction)

end EntityQuery.SortKey
