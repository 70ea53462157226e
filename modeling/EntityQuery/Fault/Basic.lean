import EntityQuery.Fault.Report

namespace EntityQuery

/-- What can go wrong when filters, sort keys and pages are read, built and applied. -/
inductive Fault where
  /-- A text is no value of the property's type. If only certain names are values, they are
      listed. -/
  | invalidFilterValue (entity property propertyType : String) (operator : Operator)
      (value : Option String) (choices : Option (List String))
  | unsupportedOperator (entity property propertyType : String) (operator : Operator)
      (value : Option String) (supported : List Operator)
  | unknownProperty (entity property : String)
  | notFilterable (entity property : String)
  /-- A nested filter is attached to a property that leads to no entity. -/
  | notNavigable (entity property : String)
  | unknownSortProperty (entity path : String)
  | notSortable (entity path : String)
  | pageSizeNotSet
  | invalidPageNumber (value : String)
  | invalidPageSize (value : String)
  /-- A related entity on the way to a property is missing, and nothing guards against it. -/
  | nullNavigation (path : String)
  /-- A value is of another kind than its field. -/
  | valueMismatch (path expected : String)
  | invalidConfiguration (reason : String)
  /-- A text of settings does not have the form or the types of the sections. -/
  | malformedSettings
  | defaultAlreadySet (kind : String)
  | internal (reason : String)
deriving DecidableEq

namespace Fault

def code : Fault → FaultCode
  | invalidFilterValue .. => .invalidFilterValue
  | unsupportedOperator .. => .unsupportedOperator
  | unknownProperty .. => .unknownProperty
  | notFilterable .. => .propertyNotFilterable
  | notNavigable .. => .notNavigable
  | unknownSortProperty .. => .unknownSortProperty
  | notSortable .. => .propertyNotSortable
  | pageSizeNotSet => .pageSizeNotSet
  | invalidPageNumber .. => .invalidPageNumber
  | invalidPageSize .. => .invalidPageSize
  | nullNavigation .. => .nullNavigation
  | valueMismatch .. => .valueMismatch
  | invalidConfiguration .. => .invalidConfiguration
  | malformedSettings => .invalidConfiguration
  | defaultAlreadySet .. => .defaultAlreadySet
  | internal .. => .internal

def isDataFault (fault : Fault) : Bool := fault.code.isDataFault

def message : Fault → String
  | invalidFilterValue entity property propertyType _ value _ =>
    let given := value.getD ""
    s!"Cannot filter {entity}.{property} by '{given}': value is not a valid {propertyType}"
  | unsupportedOperator entity property propertyType operator _ _ =>
    s!"Filter operator {operator.name} is not supported for {entity}.{property} of type {propertyType}"
  | unknownProperty entity property => s!"Entity {entity} has no property named {property}"
  | notFilterable entity property => s!"Property {entity}.{property} is not filterable"
  | notNavigable entity property => s!"Property {entity}.{property} is not a navigation property"
  | unknownSortProperty entity path => s!"Cannot sort {entity} by unknown property path {path}"
  | notSortable entity path => s!"Property {entity}.{path} is not sortable"
  | pageSizeNotSet => "Page size not set"
  | invalidPageNumber value => s!"Page number '{value}' is not a positive integer"
  | invalidPageSize value => s!"Page size '{value}' is not a positive integer"
  | nullNavigation path => s!"Navigation {path} is null"
  | valueMismatch path expected => s!"Value of {path} is not a {expected}"
  | invalidConfiguration reason => s!"Invalid configuration: {reason}"
  | malformedSettings => "Invalid configuration: malformed settings"
  | defaultAlreadySet kind => s!"The default {kind} configuration was already set"
  | internal reason => s!"Internal error: {reason}"

def report (fault : Fault) : Report :=
  let plain : Report := { code := fault.code, message := fault.message }
  let about := fun (entity property : String) => (plain.withEntity entity).withProperty property
  match fault with
  | invalidFilterValue entity property propertyType operator value choices =>
    let report := (((about entity property).withPropertyType propertyType).withOperator operator)
      |>.withValue value "string"
      |>.withSuggestion s!"Supply a value that parses as {propertyType}"
    match choices with
    | some names => report.withSuggestion ("Valid values: " ++ String.intercalate ", " names)
    | none => report
  | unsupportedOperator entity property propertyType operator value supported =>
    (((about entity property).withPropertyType propertyType).withOperator operator)
      |>.withValue value "string"
      |>.withSupportedOperators supported
      |>.withSuggestion ("Use one of: " ++ Report.operatorNames supported)
  | unknownProperty entity property =>
    (about entity property).withHelp "Property names are checked when the filter is compiled"
  | notFilterable entity property => about entity property
  | notNavigable entity property =>
    (about entity property).withSuggestion
      "Attach nested filters only to entity or collection properties"
  | unknownSortProperty entity path => about entity path
  | notSortable entity path => about entity path
  | pageSizeNotSet =>
    (plain.withProperty "pageSize").withSuggestion
      "Supply a page size or enable ignore_parse_exceptions"
  | invalidPageNumber value => (plain.withProperty "pageNumber").withValue (some value) "string"
  | invalidPageSize value => (plain.withProperty "pageSize").withValue (some value) "string"
  | nullNavigation path =>
    (plain.withProperty path).withHelp
      "Set conditional access to Always or WhenCompiled to guard navigation chains"
  | valueMismatch path _ =>
    (plain.withProperty path).withHelp
      "Entity::get must return values matching the declared field kinds"
  | defaultAlreadySet _ =>
    plain.withHelp "Publish default configurations once at startup"
  | invalidConfiguration _ | malformedSettings | internal _ => plain

end Fault

end EntityQuery
