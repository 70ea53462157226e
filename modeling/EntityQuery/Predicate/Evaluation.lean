import EntityQuery.Predicate.Basic
import EntityQuery.Text.Lowercase

namespace EntityQuery

def TextMatch.holds (kind : TextMatch) (text value : List Char) : Bool :=
  match kind with
  | contains => Text.occursIn value text
  | startsWith => value.isPrefixOf text
  | endsWith => value.isSuffixOf text
  | equals => text == value

/-- Whether the outcome of a comparison is one of those that are asked for. Values that are
    not comparable are unequal. -/
def Comparison.accepts : Comparison → Option Ordering → Bool
  | equal, outcome => outcome == some .eq
  | notEqual, outcome => outcome != some .eq
  | less, outcome => outcome == some .lt
  | lessOrEqual, outcome => outcome == some .lt || outcome == some .eq
  | greater, outcome => outcome == some .gt
  | greaterOrEqual, outcome => outcome == some .gt || outcome == some .eq

/-- Whether a value compares with a constant as asked. Null equals null alone, and is neither
    less nor greater than anything. -/
def Comparison.holds (kind : Comparison) (actual : Value) (value : Scalar) : Bool :=
  if actual.isNull || value.isNull then
    let same := actual.isNull && value.isNull
    match kind with
    | equal => same
    | notEqual => !same
    | _ => false
  else kind.accepts (actual.compareScalar? value)

namespace Predicate

/-- Whether a value matches a text. Null does not, and a value without text is a fault. -/
def textHolds (access : Access) (kind : TextMatch) (value : String) (ignoreCase : Bool)
    (actual : Value) : Except Fault Bool :=
  if actual.isNull then .ok false
  else
    match actual.asText? with
    | none => .error (.valueMismatch access.path "text")
    | some text =>
      if ignoreCase then
        .ok (kind.holds (Text.lowercase text.toList) (Text.lowercase value.toList))
      else .ok (kind.holds text.toList value.toList)

/-- Whether a test holds for some item, tried in order up to the first for which it does. -/
def someItem (test : Entity → Except Fault Bool) : List Entity → Except Fault Bool
  | [] => .ok false
  | item :: rest => do if ← test item then return true else someItem test rest

/-- The entities of a value read from a collection. A null that is checked for is a
    collection without entities. -/
def itemsOf (collection : Access) (guarded : Bool) : Value → Except Fault (List Entity)
  | .list items => .ok items
  | .null =>
    if guarded || collection.endsConditional then .ok []
    else .error (.nullNavigation collection.path)
  | _ => .error (.valueMismatch collection.path "collection")

mutual

/-- Whether an entity meets a predicate. With `guarded`, a null on the way to a property
    stands for a null property; otherwise it is a fault unless the path checks for it. -/
def evaluate (guarded : Bool) : Predicate → Entity → Except Fault Bool
  | everything, _ => .ok true
  | nothing, _ => .ok false
  | comparison access kind value, entity => do
    return kind.holds (← access.resolve entity guarded) value
  | textMatch access kind value ignoreCase, entity => do
    textHolds access kind value ignoreCase (← access.resolve entity guarded)
  | isNull access, entity => do return (← access.resolve entity guarded).isNull
  | notNull access, entity => do return !(← access.resolve entity guarded).isNull
  | conjunction parts, entity => evaluateAll guarded parts entity
  | disjunction parts, entity => evaluateSome guarded parts entity
  | negation part, entity => do return !(← evaluate guarded part entity)
  | any collection part, entity => do
    let items ← itemsOf collection guarded (← collection.resolve entity guarded)
    someItem (evaluate guarded part) items
  | custom access _ test, entity => do return test (← access.resolve entity guarded)

/-- Whether all of the parts hold, tried in order up to the first that does not. -/
def evaluateAll (guarded : Bool) : List Predicate → Entity → Except Fault Bool
  | [], _ => .ok true
  | part :: rest, entity => do
    if ← evaluate guarded part entity then evaluateAll guarded rest entity else return false

/-- Whether some of the parts holds, tried in order up to the first that does. -/
def evaluateSome (guarded : Bool) : List Predicate → Entity → Except Fault Bool
  | [], _ => .ok false
  | part :: rest, entity => do
    if ← evaluate guarded part entity then return true else evaluateSome guarded rest entity

end

end Predicate

end EntityQuery
