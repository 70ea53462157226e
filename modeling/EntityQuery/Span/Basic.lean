import EntityQuery.Calendar.TimeUnit

namespace EntityQuery

open Calendar

/-- A range of time with its first instant and without its last. -/
structure Span where
  start : DateTime
  stop : DateTime
deriving DecidableEq

namespace Span

def contains (span : Span) (instant : DateTime) : Bool :=
  (compare span.start instant).isLE && (compare instant span.stop).isLT

/-- The span of one unit from an instant on. -/
def ofUnit? (unit : TimeUnit) (start : DateTime) : Option Span :=
  (unit.shift? start 1).map fun stop => ⟨start, stop⟩

end Span

end EntityQuery
