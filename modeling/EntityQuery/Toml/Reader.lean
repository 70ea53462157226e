import EntityQuery.Toml.Moment
import EntityQuery.Toml.Number
import EntityQuery.Toml.Quoted
import EntityQuery.Toml.Table

namespace EntityQuery.Toml

/-- A way to read something at the start of a text, which returns what follows it. -/
abbrev Reader (α : Type) := List Char → Option (α × List Char)

def skipSpaces (chars : List Char) : List Char := chars.dropWhile fun c => c == ' ' || c == '\t'

/-- What follows blanks, line ends and comments. `inComment` says that a comment goes on. -/
def skipFiller (inComment : Bool) : List Char → List Char
  | [] => []
  | '\n' :: rest => skipFiller false rest
  | '\r' :: '\n' :: rest => skipFiller false rest
  | c :: rest =>
    if inComment && isPlain c then skipFiller true rest
    else if !inComment && (c == ' ' || c == '\t') then skipFiller false rest
    else if !inComment && c == '#' then skipFiller true rest
    else c :: rest

/-- What follows the rest of a line, in which only a comment may stand. The last line may
    lack its end. -/
def endLine (chars : List Char) : Option (List Char) :=
  let chars := match skipSpaces chars with
    | '#' :: comment => comment.dropWhile isPlain
    | chars => chars
  match chars with
  | [] => some []
  | '\n' :: rest => some rest
  | '\r' :: '\n' :: rest => some rest
  | _ => none

/-- Whether a character may stand in a name without quotation marks. -/
def isNameChar (c : Char) : Bool := c.isAlphanum || c == '_' || c == '-'

/-- Reads a name, which may be a text in one line. -/
def readName : Reader String
  | '"' :: rest => (readQuoted rest).map fun (name, rest) => (String.ofList name, rest)
  | '\'' :: rest => (readLiteral rest).map fun (name, rest) => (String.ofList name, rest)
  | chars =>
    let name := chars.takeWhile isNameChar
    if name.isEmpty then none else some (String.ofList name, chars.dropWhile isNameChar)

/-- Reads at most so many names with points between them. -/
def readNames : Nat → Reader (List String)
  | 0, _ => none
  | count + 1, chars => do
    let (name, rest) ← readName (skipSpaces chars)
    match skipSpaces rest with
    | '.' :: rest =>
      let (names, rest) ← readNames count rest
      return (name :: names, rest)
    | rest => return ([name], rest)

/-- How many names a key may have, and how deeply a value may be nested. -/
def maxDepth : Nat := 79

def readKey : Reader (List String) := readNames maxDepth

/-- Whether a character may stand in a value without quotation marks. -/
def isValueChar (c : Char) : Bool := isNameChar c || c == '+' || c == '.' || c == ':'

/-- Reads a value without quotation marks. Between a date and a time there may be a blank. -/
def readUnquoted (chars : List Char) : Option (Toml × List Char) :=
  let word := chars.takeWhile isValueChar
  let rest := chars.dropWhile isValueChar
  let time := (rest.drop 1).takeWhile isValueChar
  let written := String.ofList word
  if written == "true" then some (.bool true, rest)
  else if written == "false" then some (.bool false, rest)
  else if isDate word && rest.head? == some ' ' && isOffsetTime time then
    some (.unquoted (written ++ " " ++ String.ofList time), (rest.drop 1).dropWhile isValueChar)
  else if isInteger word || isFloat word || isDate word || isTime word || isDateTime word then
    some (.unquoted written, rest)
  else none

/-- Reads a value that has no parts. -/
def readScalar (chars : List Char) : Option (Toml × List Char) :=
  if chars.head? == some '"' || chars.head? == some '\'' then
    (readText chars).map fun (content, rest) => (.text (String.ofList content), rest)
  else readUnquoted chars

/-- Reads the rest of an array of at most so many items, over any number of lines. A comma
    may stand behind the last item. -/
def readItems (value : Reader Toml) : Nat → Reader (List Toml)
  | 0, _ => none
  | count + 1, chars =>
    match skipFiller false chars with
    | ']' :: rest => some ([], rest)
    | chars => do
      let (item, rest) ← value chars
      match skipFiller false rest with
      | ']' :: rest => return ([item], rest)
      | ',' :: rest =>
        let (items, rest) ← readItems value count rest
        return (item :: items, rest)
      | _ => none

def readEntry (value : Reader Toml) : Reader (List String × Toml) := fun chars => do
  let (key, rest) ← readKey chars
  let '=' :: rest := rest | none
  let (value, rest) ← value (skipSpaces rest)
  return ((key, value), rest)

/-- Reads the rest of a table in braces with at least one and at most so many more entries,
    in one line. -/
def readEntries (value : Reader Toml) : Nat → Entries → Reader Entries
  | 0, _, _ => none
  | count + 1, entries, chars => do
    let ((key, item), rest) ← readEntry value chars
    let entries ← assign item key entries
    match skipSpaces rest with
    | '\x7d' :: rest => return (entries, rest)
    | ',' :: rest => readEntries value count entries rest
    | _ => none

/-- Reads a value in which arrays and tables in braces are nested at most so deeply. -/
def readValue : Nat → Reader Toml
  | 0, chars => readScalar chars
  | depth + 1, chars =>
    match chars with
    | '[' :: rest => do
      let (items, rest) ← readItems (readValue depth) rest.length rest
      return (.array items, rest)
    | '\x7b' :: rest =>
      match skipSpaces rest with
      | '\x7d' :: rest => some (.table .braces [], rest)
      | rest => do
        let (entries, rest) ← readEntries (readValue depth) rest.length [] rest
        return (.table .braces entries, rest)
    | chars => readScalar chars

/-- A document that is being read, and the table that its next entry goes into. -/
structure Draft where
  entries : Entries
  header : List String

/-- Reads what a line holds: the header of a table, an entry, or nothing. -/
def Draft.readLine (draft : Draft) (chars : List Char) : Option (Draft × List Char) :=
  match chars with
  | '#' :: _ | '\n' :: _ | '\r' :: _ => some (draft, chars)
  | '[' :: rest => do
    let (header, rest) ← readKey rest
    let ']' :: rest := rest | none
    return (⟨← openTable header draft.entries, header⟩, rest)
  | chars => do
    let ((key, value), rest) ← readEntry (readValue maxDepth) chars
    return ({ draft with entries := ← within (assign value key) draft.header draft.entries }, rest)

/-- Reads at most so many lines. -/
def Draft.readLines : Nat → Draft → List Char → Option Draft
  | 0, draft, chars => if chars.isEmpty then some draft else none
  | count + 1, draft, chars =>
    match skipSpaces chars with
    | [] => some draft
    | chars => do
      let (draft, rest) ← draft.readLine chars
      draft.readLines count (← endLine rest)

/-- Reads a document. A mark of the byte order may stand at its start. Lists of tables are
    refused. -/
def read? (text : String) : Option Toml := do
  let chars := match text.toList with
    | '\ufeff' :: rest => rest
    | chars => chars
  let draft ← Draft.readLines chars.length ⟨[], []⟩ chars
  return .table .header draft.entries

end EntityQuery.Toml
