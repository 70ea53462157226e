import EntityQuery.Settings.Policy

namespace EntityQuery

structure SortSettings where
  ascendingPrefixes : List String
  ascendingPostfixes : List String
  descendingPrefixes : List String
  descendingPostfixes : List String
  /-- Whether property names may differ in letter case. -/
  ignorePropertyNameCase : Bool
  conditionalAccess : ConditionalAccess
deriving DecidableEq

def SortSettings.builtin : SortSettings where
  ascendingPrefixes := ["asc-", "asc ", "+"]
  ascendingPostfixes := ["-asc", " asc", "+"]
  descendingPrefixes := ["desc-", "desc ", "dsc-", "dsc ", "-", "~"]
  descendingPostfixes := ["-desc", " desc", "-dsc", " dsc", "-", "~"]
  ignorePropertyNameCase := true
  conditionalAccess := .whenCompiled

end EntityQuery
