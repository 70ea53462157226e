import EntityQuery.Predicate.Basic

namespace EntityQuery.Predicate

/-- The parts of a conjunction with its inner conjunctions dissolved and without parts that
    accept everything, or nothing if one part accepts nothing. -/
def conjuncts : List Predicate → Option (List Predicate)
  | [] => some []
  | everything :: rest => conjuncts rest
  | nothing :: _ => none
  | conjunction inner :: rest => (conjuncts rest).map (inner ++ ·)
  | part :: rest => (conjuncts rest).map (part :: ·)

/-- The parts of a disjunction with its inner disjunctions dissolved and without parts that
    accept nothing, or nothing if one part accepts everything. -/
def disjuncts : List Predicate → Option (List Predicate)
  | [] => some []
  | nothing :: rest => disjuncts rest
  | everything :: _ => none
  | disjunction inner :: rest => (disjuncts rest).map (inner ++ ·)
  | part :: rest => (disjuncts rest).map (part :: ·)

/-- All of the parts hold. Without parts everything is accepted. -/
def allOf (parts : List Predicate) : Predicate :=
  match conjuncts parts with
  | none => nothing
  | some [] => everything
  | some [part] => part
  | some parts => conjunction parts

/-- Some of the parts holds. Without parts nothing is accepted. -/
def someOf (parts : List Predicate) : Predicate :=
  match disjuncts parts with
  | none => everything
  | some [] => nothing
  | some [part] => part
  | some parts => disjunction parts

def not : Predicate → Predicate
  | everything => nothing
  | nothing => everything
  | negation part => part
  | part => negation part

def anyIn (collection : Access) (part : Predicate) : Predicate :=
  if part.isNothing then nothing else any collection part

mutual

/-- The predicate on an entity that a path leads to, as a predicate on the entity that the
    path starts from. Conditions on the entities of a collection stay as they are, and only
    the way to the collection grows. -/
def rebase (before : Access) : Predicate → Predicate
  | everything => everything
  | nothing => nothing
  | comparison access kind value => comparison (access.rebased before) kind value
  | textMatch access kind value ignoreCase =>
    textMatch (access.rebased before) kind value ignoreCase
  | isNull access => isNull (access.rebased before)
  | notNull access => notNull (access.rebased before)
  | conjunction parts => conjunction (rebaseAll before parts)
  | disjunction parts => disjunction (rebaseAll before parts)
  | negation part => negation (rebase before part)
  | any collection part => any (collection.rebased before) part
  | custom access label test => custom (access.rebased before) label test

def rebaseAll (before : Access) : List Predicate → List Predicate
  | [] => []
  | part :: rest => rebase before part :: rebaseAll before rest

end

end EntityQuery.Predicate
