import EntityQuery.Settings.Filter
import EntityQuery.StableSort
import EntityQuery.ValueFilter.Basic
import EntityQuery.ValueFilter.Escape

namespace EntityQuery.ValueFilter

/-- The separator that cuts a text into values: the first one of the settings that occurs
    unescaped. -/
def separator? (settings : FilterSettings) (raw : List Char) : Option Char :=
  settings.separators.toList.find? (unescapedChars settings.escapeChar raw).contains

/-- The values of a text with their escapes. -/
def splitValues (settings : FilterSettings) (raw : List Char) : List (List Char) :=
  match separator? settings raw with
  | some separator => splitUnescaped settings.escapeChar separator raw
  | none => [raw]

/-- Whether a token is a word and has to make up a whole value. -/
def isWordToken (token : List Char) : Bool := token.all Text.isLetter

/-- What follows a token in a value. A word in any letter case is followed by nothing, and
    other tokens stand at the start. -/
def afterToken? (token value : List Char) : Option (List Char) :=
  if isWordToken token then
    if Text.sameIgnoringCase (Text.trim value) token then some [] else none
  else token.isPrefixOf? value

/-- The tokens of the settings, longer ones first. -/
def tokensByLength (settings : FilterSettings) : List (String × Operator) :=
  StableSort.sort (fun a b => b.1.utf8ByteSize < a.1.utf8ByteSize)
    settings.operatorTokens.entries

/-- The operator and the operand of one value. Without a token at its start the value is
    the operand of the usual comparison. -/
def operand (settings : FilterSettings) (value : List Char) : Operator × List Char :=
  let found := (tokensByLength settings).findSome? fun (token, operator) =>
    (afterToken? token.toList value).map fun rest => (operator, rest)
  found.getD (.default, value)

def ofValue (settings : FilterSettings) (value : List Char) : ValueFilter :=
  let (operator, rest) := operand settings value
  create operator (String.ofList (unescape settings.escapeChar rest))

/-- Reads a text of one or more values with operators. Every text can be read. -/
def ofSyntax (settings : FilterSettings) (raw : String) : List ValueFilter :=
  (splitValues settings raw.toList).map (ofValue settings)

end EntityQuery.ValueFilter
