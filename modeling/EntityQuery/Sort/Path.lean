import EntityQuery.Access
import EntityQuery.Model
import EntityQuery.Sort.Key

namespace EntityQuery.SortPath

def names (path : String) : List String :=
  (path.toList.splitOn '.').map fun name => String.ofList (Text.trim name)

/-- Follows names from a type of entities to a value. All fields have to be open to sorting,
    all but the last lead to one entity each, and the last one holds a value. `unknown` and
    `notSortable` are the faults of the whole path. -/
def follow (schema : Schema) (ignoreCase guardsTree : Bool) (unknown notSortable : Fault)
    (model : Model) (access : Access) : List String → Except Fault Access
  | [] => .ok access
  | [name] =>
    match model.fieldInCase? name ignoreCase with
    | none => .error unknown
    | some field =>
      if field.sortable && field.kind.isScalar then .ok (access.member field.name false)
      else .error notSortable
  | name :: next :: rest =>
    match model.fieldInCase? name ignoreCase with
    | none => .error unknown
    | some field =>
      if !field.sortable || field.kind.isCollection then .error notSortable
      else
        match field.kind.target? with
        | none => .error unknown
        | some target =>
          follow schema ignoreCase guardsTree unknown notSortable (schema.model target)
            (access.member field.name guardsTree) (next :: rest)

/-- The way that a path of property names leads from a type of entities to a value. An
    entity itself has no order. -/
def resolve (schema : Schema) (model : Model) (path : String) (ignoreCase guardsTree : Bool) :
    Except Fault Access :=
  if path == SortKey.pathToSelf then .error (.notSortable model.name path)
  else
    follow schema ignoreCase guardsTree (.unknownSortProperty model.name path)
      (.notSortable model.name path) model Access.root (names path)

end EntityQuery.SortPath
