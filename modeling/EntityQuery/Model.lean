import EntityQuery.Text.Basic

namespace EntityQuery

/-- A member of an enumeration and the number that stands for it. -/
structure EnumMember where
  name : String
  value : Int64
deriving DecidableEq

/-- The kind of value that a field holds. Related entities are given by the name of their
    type. -/
inductive FieldKind where
  | text
  | bool
  | int
  | float
  | dateTime
  | guid
  /-- One of several named numbers. -/
  | enumeration (members : List EnumMember)
  /-- Values of another type, which are compared in their textual form. -/
  | other (typeName : String)
  | navigation (target : String)
  | collection (target : String)
deriving DecidableEq

namespace FieldKind

/-- The name of the kind as messages show it. -/
def typeName : FieldKind → String
  | text => "String"
  | bool => "Bool"
  | int => "Int"
  | float => "Float"
  | dateTime => "DateTime"
  | guid => "Guid"
  | enumeration _ => "Enum"
  | other typeName => typeName
  | navigation target | collection target => target

def target? : FieldKind → Option String
  | navigation target | collection target => some target
  | _ => none

/-- Whether the field holds a value and no entities. -/
def isScalar (kind : FieldKind) : Bool := kind.target?.isNone

def isCollection : FieldKind → Bool
  | collection _ => true
  | _ => false

end FieldKind

structure Field where
  name : String
  kind : FieldKind
  nullable : Bool := false
  filterable : Bool := true
  sortable : Bool := true
deriving DecidableEq

/-- The name of the field's type, with a question mark if the field may be null. -/
def Field.typeName (field : Field) : String :=
  if field.nullable then field.kind.typeName ++ "?" else field.kind.typeName

/-- An entity type with its fields in the order of their declaration. -/
structure Model where
  name : String
  fields : List Field
deriving DecidableEq

namespace Model

/-- The model with one more field, which is not nullable and may be filtered and sorted. -/
def addField (model : Model) (name : String) (kind : FieldKind) : Model :=
  { model with fields := model.fields ++ [{ name, kind }] }

/-- The model with a change to the field that was added last, if there is one. -/
def modifyLast (model : Model) (change : Field → Field) : Model :=
  match model.fields.getLast? with
  | some field => { model with fields := model.fields.dropLast ++ [change field] }
  | none => model

def exactField? (model : Model) (name : String) : Option Field :=
  model.fields.find? fun field => field.name == name

/-- The field with this name, or else the first one whose name differs only in the case of
    the letters `A` to `Z`. -/
def field? (model : Model) (name : String) : Option Field :=
  model.exactField? name <|>
    model.fields.find? fun field => Text.sameIgnoringCase field.name.toList name.toList

/-- The field with this name, in which letter case may be told apart or not. -/
def fieldInCase? (model : Model) (name : String) (ignoreCase : Bool) : Option Field :=
  if ignoreCase then model.field? name else model.exactField? name

/-- The name of the field that a name refers to, or the name itself if there is none. -/
def canonicalName (model : Model) (name : String) : String :=
  ((model.field? name).map (·.name)).getD name

end Model

/-- The entity types of an application. -/
structure Schema where
  models : List Model

/-- The type with a name. A name that no type has stands for a type without fields. -/
def Schema.model (schema : Schema) (name : String) : Model :=
  (schema.models.find? fun model => model.name == name).getD ⟨name, []⟩

end EntityQuery
