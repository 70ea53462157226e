import EntityQuery.Model
import EntityQuery.Predicate.Basic
import EntityQuery.Settings.Filter
import EntityQuery.ValueFilter.Basic

namespace EntityQuery

/-- The value filters that were given for one property together. -/
structure PropertyFilter where
  property : String
  values : List ValueFilter
deriving DecidableEq

/-- A rule that may build the condition of a property filter on entities of a type in its
    own way. Where it gives nothing, the condition is built in the usual way. -/
abbrev Interceptor := Model → PropertyFilter → FilterSettings → Option (Except Fault Predicate)

/-- A filter on entities: filters on their properties, and filters on the entities that
    some of the properties lead to. Names are kept as they were given, and everything is in
    the order in which it was added. -/
structure FilterTree where
  properties : List PropertyFilter
  nested : List (String × FilterTree)
  settings : Option FilterSettings
  /-- The filter's own rule, which also applies to the filters within that have none. -/
  interceptor : Option Interceptor

namespace FilterTree

def empty : FilterTree := ⟨[], [], none, none⟩

instance : Inhabited FilterTree := ⟨empty⟩

/-- Adds value filters for a property. An empty list adds nothing. -/
def add (tree : FilterTree) (property : String) (values : List ValueFilter) : FilterTree :=
  if values.isEmpty then tree
  else { tree with properties := tree.properties ++ [⟨property, values⟩] }

/-- Removes everything under a name, filters on related entities included. -/
def clear (tree : FilterTree) (property : String) : FilterTree :=
  { tree with
    properties := tree.properties.filter fun filter => filter.property != property
    nested := tree.nested.filter fun entry => entry.1 != property }

/-- Replaces everything under a name by value filters. -/
def replace (tree : FilterTree) (property : String) (values : List ValueFilter) : FilterTree :=
  (tree.clear property).add property values

def clearAll (tree : FilterTree) : FilterTree := { tree with properties := [], nested := [] }

def addNested (tree : FilterTree) (property : String) (inner : FilterTree) : FilterTree :=
  { tree with nested := tree.nested ++ [(property, inner)] }

def nested? (tree : FilterTree) (property : String) : Option FilterTree :=
  tree.nested.lookup property

/-- All value filters for a property, from every addition, unless there are none. -/
def values? (tree : FilterTree) (property : String) : Option (List ValueFilter) :=
  let found := tree.properties.filter fun filter => filter.property == property
  let values := found.flatMap (·.values)
  if values.isEmpty then none else some values

def withSettings (tree : FilterTree) (settings : Option FilterSettings) : FilterTree :=
  { tree with settings := settings }

def withInterceptor (tree : FilterTree) (interceptor : Option Interceptor) : FilterTree :=
  { tree with interceptor := interceptor }

/-- The filter's own settings, or else those that were published for all filters. -/
def effectiveSettings (tree : FilterTree) (current : FilterSettings) : FilterSettings :=
  tree.settings.getD current

mutual

/-- Whether the filter asks for nothing, and neither do the filters within. -/
def isEmpty : FilterTree → Bool
  | ⟨properties, nested, _, _⟩ => properties.all (·.values.isEmpty) && allEmpty nested

def allEmpty : List (String × FilterTree) → Bool
  | [] => true
  | (_, inner) :: rest => isEmpty inner && allEmpty rest

end

/-- A property filter under the name of the field that it refers to, if it may be filtered. -/
def castProperty? (target : Model) (filter : PropertyFilter) : Option PropertyFilter :=
  match target.field? filter.property with
  | some field => if field.filterable then some ⟨field.name, filter.values⟩ else none
  | none => none

/-- The name of the field that a name refers to and the type of entities that it leads to,
    if it may be filtered. -/
def castTarget? (target : Model) (property : String) : Option (String × String) :=
  match target.field? property with
  | some field =>
    if field.filterable then field.kind.target?.map fun inside => (field.name, inside) else none
  | none => none

mutual

/-- The part of a filter that a type of entities can be filtered by. Names become those of
    its fields. -/
def cast (schema : Schema) (target : Model) : FilterTree → FilterTree
  | ⟨properties, nested, settings, interceptor⟩ =>
    ⟨properties.filterMap (castProperty? target), castNested schema target nested, settings,
      interceptor⟩

def castNested (schema : Schema) (target : Model) :
    List (String × FilterTree) → List (String × FilterTree)
  | [] => []
  | (property, inner) :: rest =>
    match castTarget? target property with
    | some (name, inside) =>
      (name, cast schema (schema.model inside) inner) :: castNested schema target rest
    | none => castNested schema target rest

end

end FilterTree

end EntityQuery
