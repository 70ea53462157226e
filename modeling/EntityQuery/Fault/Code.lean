namespace EntityQuery

/-- The kinds of faults. Those in the 1000s come from filters, in the 2000s from sort keys,
    in the 3000s from pages, in the 4000s from evaluation and in the 7000s from settings. -/
inductive FaultCode where
  | invalidFilterValue
  | unsupportedOperator
  | unknownProperty
  | propertyNotFilterable
  | notNavigable
  | unknownSortProperty
  | propertyNotSortable
  | pageSizeNotSet
  | invalidPageNumber
  | invalidPageSize
  | nullNavigation
  | valueMismatch
  | invalidConfiguration
  | defaultAlreadySet
  | internal
deriving DecidableEq, Repr

namespace FaultCode

def number : FaultCode → Nat
  | invalidFilterValue => 1001
  | unsupportedOperator => 1002
  | unknownProperty => 1003
  | propertyNotFilterable => 1004
  | notNavigable => 1005
  | unknownSortProperty => 2001
  | propertyNotSortable => 2002
  | pageSizeNotSet => 3001
  | invalidPageNumber => 3002
  | invalidPageSize => 3003
  | nullNavigation => 4001
  | valueMismatch => 4002
  | invalidConfiguration => 7001
  | defaultAlreadySet => 7002
  | internal => 9001

def text (code : FaultCode) : String := s!"S{code.number}"

def description : FaultCode → String
  | invalidFilterValue => "Invalid filter value"
  | unsupportedOperator => "Unsupported filter operator"
  | unknownProperty => "Unknown property"
  | propertyNotFilterable => "Property is not filterable"
  | notNavigable => "Property is not a navigation"
  | unknownSortProperty => "Unknown sort property"
  | propertyNotSortable => "Property is not sortable"
  | pageSizeNotSet => "Page size not set"
  | invalidPageNumber => "Invalid page number"
  | invalidPageSize => "Invalid page size"
  | nullNavigation => "Null navigation"
  | valueMismatch => "Value does not match field kind"
  | invalidConfiguration => "Invalid configuration"
  | defaultAlreadySet => "Default configuration already set"
  | internal => "Internal error"

/-- Whether the fault lies in data that a user supplied. Lenient settings let such faults
    pass. -/
def isDataFault : FaultCode → Bool
  | invalidFilterValue | pageSizeNotSet | invalidPageNumber | invalidPageSize => true
  | _ => false

/-- Whether the fault is a name that stands for no property. -/
def isUnknownProperty : FaultCode → Bool
  | unknownProperty | unknownSortProperty => true
  | _ => false

end FaultCode

end EntityQuery
