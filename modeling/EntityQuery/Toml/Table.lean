import EntityQuery.Toml.Basic

namespace EntityQuery.Toml

/-- The entries of a table. A table gives no key twice. -/
abbrev Entries := List (String × Toml)

/-- Changes the value of a key, or adds one. -/
def alter (name : String) (change : Option Toml → Option Toml) : Entries → Option Entries
  | [] => (change none).map fun value => [(name, value)]
  | (key, value) :: rest =>
    if key == name then (change (some value)).map fun value => (key, value) :: rest
    else (alter name change rest).map ((key, value) :: ·)

/-- Opens a table under a header. A table that so far only surrounds others may still get a
    header of its own, and moves behind its neighbours with it. The tables around it come
    into being with it. -/
def openTable : List String → Entries → Option Entries
  | [] => fun _ => none
  | [name] => fun entries =>
    match entries.lookup name with
    | none => some (entries ++ [(name, .table .header [])])
    | some (.table .surrounding inner) =>
      some (entries.filter (·.1 != name) ++ [(name, .table .header inner)])
    | some _ => none
  | name :: next :: rest => alter name fun
    | none => (openTable (next :: rest) []).map (.table .surrounding)
    | some (.table .braces _) => none
    | some (.table origin entries) => (openTable (next :: rest) entries).map (.table origin)
    | some _ => none

/-- Gives a key a value, once. A key with points leads through tables that such keys have
    made, or that surround others if it goes on beyond the entries of those. -/
def assign (value : Toml) : List String → Entries → Option Entries
  | [] => fun _ => none
  | [name] => alter name fun
    | none => some value
    | some _ => none
  | name :: next :: rest => alter name fun
    | none => (assign value (next :: rest) []).map (.table .dotted)
    | some (.table .dotted entries) => (assign value (next :: rest) entries).map (.table .dotted)
    | some (.table .surrounding entries) =>
      if rest.isEmpty then none
      else (assign value (next :: rest) entries).map (.table .surrounding)
    | some _ => none

/-- Changes the entries of a table that is there. -/
def within (change : Entries → Option Entries) : List String → Entries → Option Entries
  | [] => change
  | name :: rest => alter name fun
    | some (.table origin entries) => (within change rest entries).map (.table origin)
    | _ => none

end EntityQuery.Toml
