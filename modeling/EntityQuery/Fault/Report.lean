import EntityQuery.Fault.Code
import EntityQuery.Operator

namespace EntityQuery

/-- A fault as it is told to people: its message, what it is about and how to mend it. -/
structure Report where
  code : FaultCode
  message : String
  entity : Option String := none
  property : Option String := none
  propertyType : Option String := none
  operator : Option Operator := none
  value : Option String := none
  valueType : Option String := none
  supportedOperators : List Operator := []
  suggestions : List String := []
  help : Option String := none

namespace Report

def withEntity (report : Report) (entity : String) : Report :=
  { report with entity := some entity }

def withProperty (report : Report) (property : String) : Report :=
  { report with property := some property }

def withPropertyType (report : Report) (propertyType : String) : Report :=
  { report with propertyType := some propertyType }

def withOperator (report : Report) (operator : Operator) : Report :=
  { report with operator := some operator }

def withValue (report : Report) (value : Option String) (valueType : String) : Report :=
  { report with value := value, valueType := some valueType }

def withSupportedOperators (report : Report) (operators : List Operator) : Report :=
  { report with supportedOperators := operators }

def withSuggestion (report : Report) (suggestion : String) : Report :=
  { report with suggestions := report.suggestions ++ [suggestion] }

def withHelp (report : Report) (help : String) : Report :=
  { report with help := some help }

def line (report : Report) : String := s!"[{report.code.text}] {report.message}"

/-- One line of the full report on what the fault is about. -/
def detail (label : String) (value : Option String) : String :=
  match value with
  | some value => s!"  → {label}: {value}\n"
  | none => ""

/-- The offending value between quotation marks with its type. -/
def valueDetail (report : Report) : Option String :=
  let valueType := report.valueType.getD "string"
  report.value.map fun value => s!"'{value}' ({valueType})"

def operatorNames (operators : List Operator) : String :=
  String.intercalate ", " (operators.map Operator.name)

/-- The lines of the full report on how to mend the fault. -/
def suggestionLines (report : Report) : String :=
  if report.suggestions.isEmpty then ""
  else
    let lines := report.suggestions.zipIdx.map fun (suggestion, i) => s!"  {i + 1}. {suggestion}\n"
    "\nSuggestions:\n" ++ String.join lines

def full (report : Report) : String :=
  let supported :=
    if report.supportedOperators.isEmpty then none
    else some (operatorNames report.supportedOperators)
  let help := match report.help with
    | some help => s!"\nHelp: {help}\n"
    | none => ""
  s!"Error [{report.code.text}]: {report.message}\n" ++
    detail "Entity" report.entity ++
    detail "Property" report.property ++
    detail "Property type" report.propertyType ++
    detail "Operator" (report.operator.map Operator.name) ++
    detail "Value" report.valueDetail ++
    detail "Supported operators" supported ++
    report.suggestionLines ++
    help

end Report

end EntityQuery
