import EntityQuery.Filter.Build
import EntityQuery.ValueFilter.Printer
import EntityQuery.ValueFilter.Reader

namespace EntityQuery

/-- A filter on entities of one type, whose property names are those of its fields where
    they refer to one. -/
structure EntityFilter (model : Model) where
  tree : FilterTree

namespace EntityFilter

variable {model : Model}

def empty : EntityFilter model := ⟨.empty⟩

instance : Inhabited (EntityFilter model) := ⟨empty⟩

/-- Adds value filters for a property. Those of one addition are alternatives, and further
    additions are further conditions. -/
def add (filter : EntityFilter model) (property : String) (values : List ValueFilter) :
    EntityFilter model :=
  ⟨filter.tree.add (model.canonicalName property) values⟩

/-- Adds value filters that are given as a text. -/
def addSyntax (filter : EntityFilter model) (current : FilterSettings) (property raw : String) :
    EntityFilter model :=
  filter.add property (ValueFilter.ofSyntax (filter.tree.effectiveSettings current) raw)

def replace (filter : EntityFilter model) (property : String) (values : List ValueFilter) :
    EntityFilter model :=
  ⟨filter.tree.replace (model.canonicalName property) values⟩

/-- Replaces everything for a property by value filters that are given as a text. -/
def replaceSyntax (filter : EntityFilter model) (current : FilterSettings)
    (property raw : String) : EntityFilter model :=
  filter.replace property (ValueFilter.ofSyntax (filter.tree.effectiveSettings current) raw)

def clear (filter : EntityFilter model) (property : String) : EntityFilter model :=
  ⟨filter.tree.clear (model.canonicalName property)⟩

def clearAll (filter : EntityFilter model) : EntityFilter model := ⟨filter.tree.clearAll⟩

def addNested {inside : Model} (filter : EntityFilter model) (property : String)
    (inner : EntityFilter inside) : EntityFilter model :=
  ⟨filter.tree.addNested (model.canonicalName property) inner.tree⟩

/-- Replaces everything for a property by a filter on the entities that it leads to. -/
def replaceNested {inside : Model} (filter : EntityFilter model) (property : String)
    (inner : EntityFilter inside) : EntityFilter model :=
  (filter.clear property).addNested property inner

def nested? (filter : EntityFilter model) (property : String) (inside : Model) :
    Option (EntityFilter inside) :=
  (filter.tree.nested? (model.canonicalName property)).map EntityFilter.mk

def values? (filter : EntityFilter model) (property : String) : Option (List ValueFilter) :=
  filter.tree.values? (model.canonicalName property)

/-- All value filters for a property as a text. -/
def syntaxOf? (filter : EntityFilter model) (current : FilterSettings) (property : String) :
    Option String :=
  (filter.values? property).map (ValueFilter.joinSyntax (filter.tree.effectiveSettings current))

def isEmpty (filter : EntityFilter model) : Bool := filter.tree.isEmpty

def withSettings (filter : EntityFilter model) (settings : FilterSettings) :
    EntityFilter model :=
  ⟨filter.tree.withSettings (some settings)⟩

def withInterceptor (filter : EntityFilter model) (interceptor : Interceptor) :
    EntityFilter model :=
  ⟨filter.tree.withInterceptor (some interceptor)⟩

/-- The part of the filter that another type of entities can be filtered by. -/
def cast (schema : Schema) (filter : EntityFilter model) (target : Model) : EntityFilter target :=
  ⟨filter.tree.cast schema target⟩

/-- The predicate of the filter under the settings of a call. -/
def compileWith (schema : Schema) (filter : EntityFilter model) (settings : FilterSettings) :
    Except Fault CompiledFilter := do
  let predicate ← filter.tree.build schema model settings none
  return ⟨predicate, settings.conditionalAccess.guardsEvaluation⟩

/-- The predicate of the filter under its own settings, or else the current ones. -/
def compile (schema : Schema) (filter : EntityFilter model) (current : FilterSettings) :
    Except Fault CompiledFilter :=
  filter.compileWith schema (filter.tree.effectiveSettings current)

end EntityFilter

end EntityQuery
