import EntityQuery.Sort.Compiled
import EntityQuery.Sort.Path
import EntityQuery.Sort.Reader

namespace EntityQuery

/-- A list of sort keys for entities of one type. -/
structure EntitySort (model : Model) where
  /-- The keys in the order of their addition. -/
  stored : List SortKey
  settings : Option SortSettings
deriving DecidableEq

namespace EntitySort

variable {model : Model}

def empty : EntitySort model := ⟨[], none⟩

instance : Inhabited (EntitySort model) := ⟨empty⟩

def withSettings (sort : EntitySort model) (settings : SortSettings) : EntitySort model :=
  { sort with settings := some settings }

/-- The sort's own settings, or else those that were published for all sorts. -/
def effectiveSettings (sort : EntitySort model) (current : SortSettings) : SortSettings :=
  sort.settings.getD current

/-- The keys by position. Keys of one position keep their order. -/
def keys (sort : EntitySort model) : List SortKey :=
  StableSort.sort (fun a b => a.position < b.position) sort.stored

/-- The position behind those of all keys. There is none as soon as there is none behind one of
    them. -/
def nextPosition? (sort : EntitySort model) : Option UInt64 :=
  sort.stored.foldlM (fun next key => key.nextPosition?.map (max next)) 0

/-- Adds a key at the position behind all others. Without such a position nothing can be added. -/
def add? (sort : EntitySort model) (path : String) (direction : SortDirection) :
    Option (EntitySort model) := do
  let position ← sort.nextPosition?
  return { sort with stored := sort.stored ++ [⟨path, direction, position⟩] }

/-- Adds keys that are given as a text. Those whose path leads to no sortable value are
    passed over. -/
def addSyntax? (schema : Schema) (sort : EntitySort model) (current : SortSettings)
    (raw : String) : Option (EntitySort model) :=
  let settings := sort.effectiveSettings current
  (SortKey.ofSyntax settings raw).foldlM (fun sort (path, direction) =>
    match SortPath.resolve schema model path settings.ignorePropertyNameCase false with
    | .ok access => sort.add? access.path direction
    | .error _ => some sort) sort

def clear (sort : EntitySort model) : EntitySort model := { sort with stored := [] }

def isEmpty (sort : EntitySort model) : Bool := sort.stored.isEmpty

/-- Adds the keys of a sort of related values after all others. A key of these values
    themselves becomes one of the property that leads to them. -/
def addNested? {inside : Model} (sort : EntitySort model) (property : String)
    (inner : EntitySort inside) : Option (EntitySort model) :=
  let property := model.canonicalName property
  inner.keys.foldlM (fun sort key =>
    sort.add? (if key.isSelf then property else property ++ "." ++ key.path) key.direction) sort

/-- The path behind a property, if a path goes through it or ends there. -/
def pathBehind? (property path : String) : Option String :=
  if path == property then some SortKey.pathToSelf
  else ((property ++ ".").toList.isPrefixOf? path.toList).map String.ofList

/-- The keys that go through a property, as a sort of the values that it leads to. -/
def nested (sort : EntitySort model) (property : String) (inside : Model) : EntitySort inside :=
  let property := model.canonicalName property
  { stored := sort.stored.filterMap fun key =>
      (pathBehind? property key.path).map fun path => { key with path }
    settings := sort.settings }

/-- The keys whose paths also lead to a sortable value from another type of entities. -/
def cast (schema : Schema) (sort : EntitySort model) (current : SortSettings) (target : Model) :
    EntitySort target :=
  let ignoreCase := (sort.effectiveSettings current).ignorePropertyNameCase
  { stored := sort.stored.filterMap fun key =>
      match SortPath.resolve schema target key.path ignoreCase false with
      | .ok access => some { key with path := access.path }
      | .error _ => none
    settings := sort.settings }

/-- The order of the keys under the settings of a call. Every path has to lead to a sortable
    value. -/
def compileWith (schema : Schema) (sort : EntitySort model) (settings : SortSettings) :
    Except Fault CompiledSort := do
  let keys ← sort.keys.mapM fun key => do
    let access ← SortPath.resolve schema model key.path settings.ignorePropertyNameCase
      settings.conditionalAccess.guardsTree
    return (access, key.direction)
  return ⟨keys, settings.conditionalAccess.guardsEvaluation⟩

/-- The order of the keys under the sort's own settings, or else the current ones. -/
def compile (schema : Schema) (sort : EntitySort model) (current : SortSettings) :
    Except Fault CompiledSort :=
  sort.compileWith schema (sort.effectiveSettings current)

end EntitySort

end EntityQuery
