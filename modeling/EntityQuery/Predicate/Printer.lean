import EntityQuery.Predicate.Basic

namespace EntityQuery.Predicate

/-- The variable that stands for the entity at a depth of nested collections. -/
def variableAt (depth : Nat) : String := if depth == 0 then "x" else s!"x{depth}"

mutual

/-- The notation of a predicate on the entity at a depth of nested collections. -/
def write (depth : Nat) : Predicate → String
  | everything => "true"
  | nothing => "false"
  | comparison access kind value =>
    access.render (variableAt depth) ++ s!" {kind.symbol} {value.toText}"
  | textMatch access kind value ignoreCase =>
    let suffix := if ignoreCase then "_ci" else ""
    access.render (variableAt depth) ++ s!" {kind.name}{suffix} {Text.quoted value}"
  | isNull access => access.render (variableAt depth) ++ " == null"
  | notNull access => access.render (variableAt depth) ++ " != null"
  | conjunction parts => "(" ++ String.intercalate " && " (writeAll depth parts) ++ ")"
  | disjunction parts => "(" ++ String.intercalate " || " (writeAll depth parts) ++ ")"
  | negation part => "!" ++ write depth part
  | any collection part =>
    collection.render (variableAt depth) ++ s!".any({variableAt (depth + 1)} => " ++
      write (depth + 1) part ++ ")"
  | custom access label _ => s!"{label}({access.render (variableAt depth)})"

def writeAll (depth : Nat) : List Predicate → List String
  | [] => []
  | part :: rest => write depth part :: writeAll depth rest

end

/-- A predicate as a function of the entity. -/
def render (predicate : Predicate) : String := "x => " ++ write 0 predicate

end EntityQuery.Predicate
