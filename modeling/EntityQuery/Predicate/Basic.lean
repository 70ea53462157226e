import EntityQuery.Access

namespace EntityQuery

/-- A comparison of a property with a constant. -/
inductive Comparison where
  | equal
  | notEqual
  | less
  | lessOrEqual
  | greater
  | greaterOrEqual
deriving DecidableEq, Repr

def Comparison.symbol : Comparison → String
  | equal => "=="
  | notEqual => "!="
  | less => "<"
  | lessOrEqual => "<="
  | greater => ">"
  | greaterOrEqual => ">="

/-- A way in which one text matches another. -/
inductive TextMatch where
  | contains
  | startsWith
  | endsWith
  | equals
deriving DecidableEq, Repr

def TextMatch.name : TextMatch → String
  | contains => "contains"
  | startsWith => "starts_with"
  | endsWith => "ends_with"
  | equals => "equals"

/-- A condition on an entity, in which properties are reached by paths from it. -/
inductive Predicate where
  | everything
  | nothing
  | comparison (access : Access) (kind : Comparison) (value : Scalar)
  | textMatch (access : Access) (kind : TextMatch) (value : String) (ignoreCase : Bool)
  | isNull (access : Access)
  | notNull (access : Access)
  | conjunction (parts : List Predicate)
  | disjunction (parts : List Predicate)
  | negation (part : Predicate)
  /-- Some entity of a collection meets a condition, whose paths start from that entity. -/
  | any (collection : Access) (part : Predicate)
  /-- A property passes a test that is shown by a label. -/
  | custom (access : Access) (label : String) (test : Value → Bool)

namespace Predicate

def isEverything : Predicate → Bool
  | everything => true
  | _ => false

def isNothing : Predicate → Bool
  | nothing => true
  | _ => false

end Predicate

end EntityQuery
