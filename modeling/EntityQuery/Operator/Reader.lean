import EntityQuery.Fault.Basic

namespace EntityQuery.Operator

/-- The operator of a name in any letter case. Other names are a fault of the settings. -/
def ofText (name : String) : Except Fault Operator :=
  match read? name with
  | some operator => .ok operator
  | none => .error (.invalidConfiguration s!"unknown filter operator '{name}'")

end EntityQuery.Operator
