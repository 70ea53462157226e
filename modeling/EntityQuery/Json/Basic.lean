namespace EntityQuery

/-- A JSON document. Numbers are kept as they are written, and the members of an object in
    their order and with repetitions. Half of a surrogate pair is no character, so a string
    or a key that holds one has no text. -/
inductive Json where
  | null
  | bool (value : Bool)
  | number (literal : String)
  | string (text : String)
  | brokenString
  | array (items : List Json)
  | object (members : List (Option String × Json))
deriving Inhabited

namespace Json

def ofMembers (members : List (String × Json)) : Json :=
  object (members.map fun member => (some member.1, member.2))

/-- The value of the last member with a key. -/
def get? (json : Json) (key : String) : Option Json :=
  match json with
  | object members => (members.reverse.find? fun member => member.1 == some key).map (·.2)
  | _ => none

end Json

end EntityQuery
