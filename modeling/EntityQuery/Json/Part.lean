import EntityQuery.Document
import EntityQuery.Json.Basic
import EntityQuery.Number.Integer

namespace EntityQuery.Json

/-- A part of a document, and how many arrays and objects may still be opened inside of each
    other. Parts that nothing is taken from are not opened. -/
structure Part where
  json : Json
  depth : Nat

/-- A whole document, in which 127 arrays and objects may be opened inside of each other. -/
def whole (json : Json) : Part := ⟨json, 127⟩

namespace Part

def text? (part : Part) : Option String :=
  match part.json with
  | .string text => some text
  | _ => none

def bool? (part : Part) : Option Bool :=
  match part.json with
  | .bool value => some value
  | _ => none

/-- A natural number of 64 bits. It is written in digits only. -/
def word? (part : Part) : Option UInt64 :=
  match part.json with
  | .number literal => do
    let n ← Number.readDigits literal.toList
    if n < UInt64.size then some (UInt64.ofNat n) else none
  | _ => none

/-- A name that is chosen from several: a text, or the only key of an object, for null. -/
def choice? (part : Part) : Option String :=
  match part.json, part.depth with
  | .string name, _ => some name
  | .object [(key, .null)], _ + 1 => key
  | _, _ => none

/-- A value that null stands for the absence of. -/
def option? {α : Type} (read : Part → Option α) (part : Part) : Option (Option α) :=
  match part.json with
  | .null => some none
  | _ => (read part).map some

def items? (part : Part) : Option (List Part) :=
  match part.json, part.depth with
  | .array items, depth + 1 => some (items.map fun item => ⟨item, depth⟩)
  | _, _ => none

/-- The members of an object, all of whose keys have to be texts. -/
def entries? (part : Part) : Option (List (String × Part)) :=
  match part.json, part.depth with
  | .object members, depth + 1 =>
    members.mapM fun (key, json) => key.map fun key => (key, ⟨json, depth⟩)
  | _, _ => none

/-- The fields that a record gives, which is an object that gives none of them twice, or an
    array with the values of the first of them. Other keys of an object are passed over,
    unless the record is `closed`. -/
def fields? (closed : Bool) (names : List String) (part : Part) : Option (List (String × Part)) :=
  match part.items? with
  | some items => if items.length ≤ names.length then some (names.zip items) else none
  | none => do
    let entries ← part.entries?
    let fields := entries.filter fun entry => names.contains entry.1
    if closed && fields.length < entries.length then none
    else if (fields.map (·.1)).Nodup then some fields
    else none

end Part

instance : Document Part where
  text? := Part.text?
  bool? := Part.bool?
  choice? := Part.choice?
  items? := Part.items?
  entries? := Part.entries?
  fields? := Part.fields? true

end EntityQuery.Json
