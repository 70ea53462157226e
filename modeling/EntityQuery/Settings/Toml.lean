import EntityQuery.Settings.Reader
import EntityQuery.Toml.Reader

namespace EntityQuery.Settings

/-- What stands for the name of a variable: its value, or the name between braces behind a
    dollar sign as it was given. -/
def valueOf (environment : List (String × String)) (name : List Char) : List Char :=
  ((environment.lookup (String.ofList name)).map String.toList).getD
    ('$' :: '\x7b' :: name ++ ['\x7d'])

/-- Expands a text. `name` holds the part of a name that has been read since its opening
    brace, the last character first. -/
def expandFrom (environment : List (String × String)) (name : Option (List Char)) :
    List Char → List Char
  | [] => (name.map fun name => '$' :: '\x7b' :: name.reverse).getD []
  | c :: rest =>
    match name with
    | some name =>
      if c == '\x7d' then valueOf environment name.reverse ++ expandFrom environment none rest
      else expandFrom environment (some (c :: name)) rest
    | none =>
      match c, rest with
      | '$', '\x7b' :: rest => expandFrom environment (some []) rest
      | c, rest => c :: expandFrom environment none rest

/-- A text with the values of variables in the places of their names, which stand between
    braces behind a dollar sign. Names of no variable stay, and so do names in the values. -/
def expand (environment : List (String × String)) (text : List Char) : List Char :=
  expandFrom environment none text

/-- Reads the settings of all sections from a TOML text with the variables of an environment.
    The settings of filters have to be valid. -/
def ofToml (now : Calendar.DateTime) (environment : List (String × String)) (text : String) :
    Except Fault Settings := do
  let expanded := String.ofList (expand environment text.toList)
  let some settings := (Toml.read? expanded).bind (Settings.read? now)
    | throw .malformedSettings
  settings.filter.validate
  return settings

/-- Reads the settings of all sections from the content of a file, unless there is no such
    file. -/
def ofFile (now : Calendar.DateTime) (environment : List (String × String)) (path : String)
    (content : Option String) : Except Fault Settings :=
  match content with
  | some text => ofToml now environment text
  | none => .error (.invalidConfiguration s!"cannot read {path}")

end EntityQuery.Settings
