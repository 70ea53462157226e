namespace EntityQuery

/-- Where related entities that may be missing are checked for. -/
inductive ConditionalAccess where
  /-- Nowhere: a missing entity is a fault when the condition is evaluated. -/
  | never
  /-- When the condition is evaluated, but not in the predicate itself. -/
  | whenCompiled
  /-- In the predicate itself. -/
  | always
deriving DecidableEq, Repr

namespace ConditionalAccess

def all : List ConditionalAccess := [never, whenCompiled, always]

def name : ConditionalAccess → String
  | never => "never"
  | whenCompiled => "when_compiled"
  | always => "always"

def ofName? (name : String) : Option ConditionalAccess :=
  all.find? fun policy => policy.name == name

/-- Whether the paths of a predicate carry the checks. -/
def guardsTree : ConditionalAccess → Bool
  | always => true
  | _ => false

/-- Whether every step is checked during evaluation. -/
def guardsEvaluation : ConditionalAccess → Bool
  | never => false
  | _ => true

end ConditionalAccess

inductive TextComparison where
  | ordinal
  | ignoreCase
deriving DecidableEq, Repr

namespace TextComparison

def all : List TextComparison := [ordinal, ignoreCase]

def name : TextComparison → String
  | ordinal => "ordinal"
  | ignoreCase => "ignore_case"

def ofName? (name : String) : Option TextComparison := all.find? fun way => way.name == name

def ignoresCase : TextComparison → Bool
  | ordinal => false
  | ignoreCase => true

end TextComparison

end EntityQuery
