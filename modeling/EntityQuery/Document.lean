import EntityQuery.OrderedMap

namespace EntityQuery

/-- Parts of documents in some notation, seen as the values that settings are made of. -/
class Document (σ : Type) where
  text? : σ → Option String
  bool? : σ → Option Bool
  /-- The name that a choice between several names falls on. -/
  choice? : σ → Option String
  items? : σ → Option (List σ)
  /-- The entries of a map with any keys, of which some may be repeated. -/
  entries? : σ → Option (List (String × σ))
  /-- The fields that a record gives. It may not give others than the named ones, and none
      of them twice. -/
  fields? : List String → σ → Option (List (String × σ))

namespace Document

variable {σ α : Type} [Document σ]

def char? (part : σ) : Option Char := do
  let [c] := (← text? part).toList | none
  return c

/-- The meaning of the name that a choice falls on. -/
def chosen? (ofName? : String → Option α) (part : σ) : Option α := do ofName? (← choice? part)

def list? (read : σ → Option α) (part : σ) : Option (List α) := do (← items? part).mapM read

/-- A map with any keys. Of several values of one key the last one counts. -/
def map? (read : σ → Option α) (part : σ) : Option (OrderedMap α) := do
  let entries ← (← entries? part).mapM fun (key, part) => do return (key, ← read part)
  return .ofList entries

/-- The value of a field that a record has to give. -/
def required? (fields : List (String × σ)) (name : String) (read : σ → Option α) : Option α := do
  read (← fields.lookup name)

/-- The value of a field, with another one if the record does not give it. -/
def given? (fields : List (String × σ)) (name : String) (otherwise : α) (read : σ → Option α) :
    Option α :=
  match fields.lookup name with
  | some part => read part
  | none => some otherwise

end Document

end EntityQuery
