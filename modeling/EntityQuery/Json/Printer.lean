import EntityQuery.Json.Basic

namespace EntityQuery.Json

/-- How a character is written inside of a string: quotation mark, backslash and controls
    are escaped, all others stand for themselves. -/
def escapedChar (c : Char) : List Char :=
  match c with
  | '"' => ['\\', '"']
  | '\\' => ['\\', '\\']
  | '\x08' => ['\\', 'b']
  | '\x0c' => ['\\', 'f']
  | '\n' => ['\\', 'n']
  | '\r' => ['\\', 'r']
  | '\t' => ['\\', 't']
  | c =>
    if c.toNat < 0x20 then
      ['\\', 'u', '0', '0', Nat.digitChar (c.toNat / 16), Nat.digitChar (c.toNat % 16)]
    else [c]

def stringText (text : String) : List Char := '"' :: (text.toList.flatMap escapedChar ++ ['"'])

/-- A string that holds half of a surrogate pair and nothing else. -/
def brokenText : List Char := "\"\\ud800\"".toList

def keyText (key : Option String) : List Char := (key.map stringText).getD brokenText

mutual

/-- The shortest text of a document. -/
def write : Json → List Char
  | null => "null".toList
  | bool true => "true".toList
  | bool false => "false".toList
  | number literal => literal.toList
  | string text => stringText text
  | brokenString => brokenText
  | array items => '[' :: (writeItems items ++ [']'])
  | object members => '\x7b' :: (writeMembers members ++ ['\x7d'])

def writeItems : List Json → List Char
  | [] => []
  | [item] => write item
  | item :: next :: rest => write item ++ ',' :: writeItems (next :: rest)

def writeMembers : List (Option String × Json) → List Char
  | [] => []
  | [(key, value)] => keyText key ++ ':' :: write value
  | (key, value) :: next :: rest =>
    keyText key ++ ':' :: write value ++ ',' :: writeMembers (next :: rest)

end

/-- The shortest text of a document, on one line. -/
def render (json : Json) : String := String.ofList json.write

end EntityQuery.Json
