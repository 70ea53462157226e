import EntityQuery.Settings.Filter
import EntityQuery.ValueFilter.Basic

namespace EntityQuery.ValueFilter

/-- Whether some token starts with a character in either letter case. -/
def startsToken (settings : FilterSettings) (c : Char) : Bool :=
  settings.operatorTokens.entries.any fun entry =>
    (entry.1.toList.head?.map fun first => first.toLower == c.toLower).getD false

/-- A character with an escape in front of it if it is an escape or a separator. -/
def escapedChar (settings : FilterSettings) (c : Char) : List Char :=
  if c == settings.escapeChar || settings.separators.toList.contains c then
    [settings.escapeChar, c]
  else [c]

/-- A value with escapes where its characters would be taken for something else. The first
    character that is not blank is escaped if a token starts with it. -/
def escaped (settings : FilterSettings) (value : List Char) : List Char :=
  let blank := value.takeWhile Text.isBlank
  blank.flatMap (escapedChar settings) ++
    match value.dropWhile Text.isBlank with
    | [] => []
    | c :: rest =>
      (if startsToken settings c then [settings.escapeChar, c] else escapedChar settings c) ++
        rest.flatMap (escapedChar settings)

/-- The token of an operator. The usual comparison and operators without a token have none. -/
def tokenOf (settings : FilterSettings) (operator : Operator) : String :=
  match operator with
  | .default => ""
  | operator => (settings.operatorToken? operator).getD ""

def toSyntax (settings : FilterSettings) (filter : ValueFilter) : String :=
  let value := (filter.value.map String.toList).getD []
  tokenOf settings filter.operator ++ String.ofList (escaped settings value)

/-- The character that is put between several values. -/
def joiner (settings : FilterSettings) : Char := (settings.separators.toList.head?).getD ','

def joinSyntax (settings : FilterSettings) (filters : List ValueFilter) : String :=
  String.intercalate (String.singleton (joiner settings)) (filters.map (toSyntax settings))

end EntityQuery.ValueFilter
