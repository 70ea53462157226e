import EntityQuery.Document

namespace EntityQuery

/-- How a table of a TOML document came about, which decides what may be added to it. -/
inductive TableOrigin where
  /-- Under a header of its own. -/
  | header
  /-- As the surroundings of a table with a header. -/
  | surrounding
  /-- By a key with points in it. -/
  | dotted
  /-- Between braces, and complete from the start. -/
  | braces
deriving DecidableEq, Repr

inductive Toml where
  | text (value : String)
  | bool (value : Bool)
  /-- A number, a date or a time in its notation. -/
  | unquoted (written : String)
  | array (items : List Toml)
  | table (origin : TableOrigin) (entries : List (String × Toml))
deriving Inhabited

namespace Toml

/-- Whether nothing stands in an array or a table. -/
def isVacant : Toml → Bool
  | array items => items.isEmpty
  | table _ entries => entries.isEmpty
  | _ => false

def text? : Toml → Option String
  | text value => some value
  | _ => none

def bool? : Toml → Option Bool
  | bool value => some value
  | _ => none

/-- A name that is chosen from several: a text, or the only key of a table, for a vacant
    value. -/
def choice? : Toml → Option String
  | text value => some value
  | table _ [(name, value)] => if value.isVacant then some name else none
  | _ => none

def items? : Toml → Option (List Toml)
  | array items => some items
  | _ => none

def entries? : Toml → Option (List (String × Toml))
  | table _ entries => some entries
  | _ => none

/-- The fields that a record gives, which is a table, or an array with the values of the
    first of them. Items after those of all fields are passed over. -/
def fields? (names : List String) : Toml → Option (List (String × Toml))
  | array items => some (names.zip items)
  | table _ entries =>
    if entries.all fun entry => names.contains entry.1 then some entries else none
  | _ => none

instance : Document Toml where
  text? := text?
  bool? := bool?
  choice? := choice?
  items? := items?
  entries? := entries?
  fields? := fields?

end Toml

end EntityQuery
