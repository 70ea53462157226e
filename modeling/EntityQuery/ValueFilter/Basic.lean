import EntityQuery.Operator

namespace EntityQuery

/-- An operator and the text that it compares with. The text is read as a value of the
    property's type when the filter is built. -/
structure ValueFilter where
  operator : Operator
  value : Option String
deriving DecidableEq

namespace ValueFilter

/-- A filter with an operator and a value. Null checks have no use for the value. -/
def create (operator : Operator) (value : String) : ValueFilter :=
  ⟨operator, if operator.requiresValue then some value else none⟩

/-- A filter with the usual comparison of the property's type. -/
def usual (value : String) : ValueFilter := create .default value

def isNull : ValueFilter := ⟨.isNull, none⟩

def notNull : ValueFilter := ⟨.notNull, none⟩

end ValueFilter

end EntityQuery
