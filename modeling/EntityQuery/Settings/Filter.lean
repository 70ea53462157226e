import EntityQuery.Calendar.DateTime
import EntityQuery.Culture
import EntityQuery.Fault.Basic
import EntityQuery.OrderedMap
import EntityQuery.Settings.Policy

namespace EntityQuery

/-- How value filters are read and how filters are built and evaluated. -/
structure FilterSettings where
  /-- The name of the culture in which numbers and short dates are written. -/
  culture : String
  operatorTokens : OrderedMap Operator
  /-- The words for truth values besides `true` and `false`. -/
  booleanWords : OrderedMap Bool
  /-- The characters that separate values. The first one that occurs is taken. -/
  separators : String
  escapeChar : Char
  textComparison : TextComparison
  conditionalAccess : ConditionalAccess
  /-- Whether a property filter with a value that cannot be read is passed over. -/
  ignoreParseExceptions : Bool
  /-- The present, to which phrases like `yesterday` refer. -/
  now : Calendar.DateTime
deriving DecidableEq

namespace FilterSettings

def builtinOperatorTokens : OrderedMap Operator where
  entries := [
    ("~", .contains), ("^", .startsWith), ("$", .endsWith), ("=", .equalCaseInsensitive),
    ("==", .equalCaseSensitive), ("!", .notEqual), ("<", .lessThan), ("<=", .lessThanOrEqual),
    (">", .greaterThan), (">=", .greaterThanOrEqual), ("ISNULL", .isNull), ("NOTNULL", .notNull)]
  keys_nodup := by decide

def builtinBooleanWords : OrderedMap Bool where
  entries := [("NO", false), ("0", false), ("YES", true), ("1", true)]
  keys_nodup := by decide

/-- The settings that hold when nothing else is set. -/
def builtin (now : Calendar.DateTime) : FilterSettings where
  culture := "invariant"
  operatorTokens := builtinOperatorTokens
  booleanWords := builtinBooleanWords
  separators := ",;|"
  escapeChar := '\\'
  textComparison := .ignoreCase
  conditionalAccess := .whenCompiled
  ignoreParseExceptions := false
  now := now

def resolvedCulture (settings : FilterSettings) : Culture := Culture.named settings.culture

/-- The truth value of a word in any letter case. -/
def booleanWord? (settings : FilterSettings) (word : String) : Option Bool :=
  (settings.booleanWords.entries.find? fun entry =>
    Text.sameIgnoringCase entry.1.toList word.toList).map (·.2)

def operatorToken? (settings : FilterSettings) (operator : Operator) : Option String :=
  (settings.operatorTokens.entries.find? fun entry => entry.2 == operator).map (·.1)

/-- Whether value filters can be told apart under the settings, and the reason if not. -/
def validate (settings : FilterSettings) : Except Fault Unit :=
  if settings.separators.isEmpty then
    .error (.invalidConfiguration "value_separator_chars must contain at least one character")
  else if settings.separators.toList.contains settings.escapeChar then
    .error (.invalidConfiguration "escape_char must not be a value separator")
  else if settings.operatorTokens.entries.any fun entry => entry.1.isEmpty then
    .error (.invalidConfiguration "filter_operator_map must not contain an empty token")
  else .ok ()

end FilterSettings

end EntityQuery
