import EntityQuery.Fault.Basic
import EntityQuery.Value

namespace EntityQuery

/-- One step of a path from an entity to a property. -/
structure Segment where
  name : String
  /-- Whether a null read here is checked for before the path goes on. -/
  conditional : Bool
deriving DecidableEq, Repr

/-- A path of property names from an entity. The empty path is the entity itself. -/
structure Access where
  segments : List Segment
deriving DecidableEq, Repr

namespace Access

def root : Access := ⟨[]⟩

/-- The path that goes on to a property of what this one leads to. -/
def member (access : Access) (name : String) (conditional : Bool) : Access :=
  ⟨access.segments ++ [⟨name, conditional⟩]⟩

def isRoot (access : Access) : Bool := access.segments.isEmpty

/-- The names of some segments with points between them. -/
def dotted (segments : List Segment) : String :=
  String.intercalate "." (segments.map (·.name))

def path (access : Access) : String := dotted access.segments

/-- The path from the start of another path that leads to where this one starts. -/
def rebased (access before : Access) : Access := ⟨before.segments ++ access.segments⟩

/-- Whether a null at the end of the path is checked for. -/
def endsConditional (access : Access) : Bool :=
  (access.segments.getLast?.map (·.conditional)).getD false

/-- Follows a path from a value. `passed` holds the segments already followed and `guard`
    says whether a null read last is checked for. A null is the result if it is checked for
    or all of them are, and a fault otherwise. -/
def follow (guarded : Bool) (passed : List Segment) (guard : Bool) (value : Value) :
    List Segment → Except Fault Value
  | [] => .ok value
  | segment :: rest =>
    match value with
    | .object entity =>
      follow guarded (passed ++ [segment]) segment.conditional (entity.get segment.name) rest
    | .null =>
      if guard || guarded then .ok .null else .error (.nullNavigation (dotted passed))
    | _ => .error (.valueMismatch (dotted passed) "entity")

/-- The value that a path leads to from an entity. With `guarded`, a null on the way is the
    result wherever it occurs. -/
def resolve (access : Access) (entity : Entity) (guarded : Bool) : Except Fault Value :=
  follow guarded [] true (.object entity) access.segments

/-- The notation of the segments behind a variable. A segment after a null check is marked. -/
def renderSegments (marked : Bool) : List Segment → String
  | [] => ""
  | segment :: rest =>
    (if marked then "?." else ".") ++ segment.name ++ renderSegments segment.conditional rest

/-- The path in the notation of predicates, from a variable on. -/
def render (access : Access) (name : String) : String :=
  name ++ renderSegments false access.segments

end Access

end EntityQuery
