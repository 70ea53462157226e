import EntityQuery.Condition.Property
import EntityQuery.Filter.Tree
import EntityQuery.Predicate.Evaluation

namespace EntityQuery

namespace FilterTree

/-- The field that a filter names, which has to exist and to be open to filters. -/
def filterableField (model : Model) (property : String) : Except Fault Field :=
  match model.field? property with
  | none => .error (.unknownProperty model.name property)
  | some field =>
    if field.filterable then .ok field else .error (.notFilterable model.name field.name)

/-- The field that a filter on related entities names, and the type of those entities. -/
def navigableField (model : Model) (property : String) : Except Fault (Field × String) := do
  let field ← filterableField model property
  match field.kind.target? with
  | some target => return (field, target)
  | none => throw (.notNavigable model.name field.name)

/-- With lenient settings, a value that cannot be read puts no condition on an entity. -/
def degrade (settings : FilterSettings) : Except Fault Predicate → Except Fault Predicate
  | .ok predicate => .ok predicate
  | .error fault =>
    if settings.ignoreParseExceptions && fault.isDataFault then .ok .everything else .error fault

def buildProperty (model : Model) (settings : FilterSettings) (interceptor : Option Interceptor)
    (filter : PropertyFilter) : Except Fault Predicate := do
  let field ← filterableField model filter.property
  degrade settings <|
    match interceptor.bind fun rule => rule model filter settings with
    | some built => built
    | none => (PropertyContext.ofField model field settings).propertyCondition filter.values

/-- A condition on the entities that a field leads to, as one on the entity that has the
    field. Some entity of a collection has to meet it. A related entity that may be missing
    has to be there, unless the settings leave that unchecked. -/
def attach (field : Field) (settings : FilterSettings) (inner : Predicate) : Predicate :=
  let access := Access.root.member field.name settings.conditionalAccess.guardsTree
  if field.kind.isCollection then .anyIn access inner
  else if field.nullable && settings.conditionalAccess.guardsEvaluation then
    .allOf [.notNull access, inner.rebase access]
  else inner.rebase access

mutual

/-- The predicate of a filter on entities of a type. A filter within has its own settings
    and its own rule, or else those of the filter around it. A filter within that accepts
    everything puts no condition on the entity. -/
def build (schema : Schema) (model : Model) (settings : FilterSettings)
    (outer : Option Interceptor) : FilterTree → Except Fault Predicate
  | ⟨properties, nested, _, own⟩ => do
    let conditions ← properties.mapM (buildProperty model settings (own <|> outer))
    let inner ← buildNested schema model settings (own <|> outer) nested
    return .allOf (conditions ++ inner)

def buildNested (schema : Schema) (model : Model) (settings : FilterSettings)
    (interceptor : Option Interceptor) :
    List (String × FilterTree) → Except Fault (List Predicate)
  | [] => .ok []
  | (property, tree) :: rest => do
    let (field, target) ← navigableField model property
    let inner ← build schema (schema.model target) (tree.settings.getD settings) interceptor tree
    let others ← buildNested schema model settings interceptor rest
    return if inner.isEverything then others else attach field settings inner :: others

end

end FilterTree

/-- A predicate together with the way in which it is to be evaluated. -/
structure CompiledFilter where
  predicate : Predicate
  /-- Whether every step of a path is checked for a missing entity. -/
  guarded : Bool

namespace CompiledFilter

variable {α : Type} [AsEntity α]

def evaluate (filter : CompiledFilter) (item : α) : Except Fault Bool :=
  filter.predicate.evaluate filter.guarded (entity item)

/-- Whether an item is accepted. One that cannot be evaluated is not. -/
def accepts (filter : CompiledFilter) (item : α) : Bool :=
  match filter.evaluate item with
  | .ok verdict => verdict
  | .error _ => false

/-- The accepted items in their order, if all can be evaluated. -/
def select (filter : CompiledFilter) : List α → Except Fault (List α)
  | [] => .ok []
  | item :: rest => do
    let verdict ← filter.evaluate item
    let others ← filter.select rest
    return if verdict then item :: others else others

end CompiledFilter

end EntityQuery
