import EntityQuery.Span.Amount
import EntityQuery.Span.Basic
import EntityQuery.Text.Lowercase

namespace EntityQuery.Span

open Calendar

/-- The words of a phrase, which hyphens, underscores and white space keep apart. -/
def phraseWords (text : List Char) : List String :=
  let pieces := text.splitOnP fun c => c == '-' || c == '_' || Text.isBlank c
  (pieces.filter fun piece => !piece.isEmpty).map String.ofList

/-- The calendar unit some units away from that of the present. -/
def calendar? (now : DateTime) (unit : TimeUnit) (offset : Int) : Option Span := do
  ofUnit? unit (← unit.shift? (← unit.truncate? now) offset)

/-- The calendar unit of a word some units away from that of the present. -/
def named? (now : DateTime) (word : String) (offset : Int) : Option Span := do
  calendar? now (← TimeUnit.ofWord? word) offset

/-- The second that is an amount of some unit away, in the direction of `sign`. The last
    word is the unit and the words before it are the amount. -/
def offset? (now : DateTime) (words : List String) (sign : Int) : Option Span := do
  let unit ← TimeUnit.ofWord? (← words.getLast?)
  let amount ← amount? words.dropLast
  ofUnit? .second (← unit.shift? now (sign * amount))

/-- The span that the words of a phrase name in relation to the present. -/
def ofWords? (now : DateTime) (words : List String) : Option Span :=
  match words with
  | ["now"] => do ofUnit? .second (← TimeUnit.second.truncate? now)
  | ["today"] => calendar? now .day 0
  | ["yesterday"] => calendar? now .day (-1)
  | ["tomorrow"] => calendar? now .day 1
  | ["this", unit] => named? now unit 0
  | ["last", unit] => named? now unit (-1)
  | ["next", unit] => named? now unit 1
  | "in" :: rest => offset? now rest 1
  | words =>
    match words.reverse with
    | "ago" :: before => offset? now before.reverse (-1)
    | "now" :: "from" :: before => offset? now before.reverse 1
    | _ => none

/-- The span that a phrase in any letter case names in relation to the present. -/
def relative? (now : DateTime) (text : List Char) : Option Span :=
  ofWords? now (phraseWords (Text.lowercase text))

end EntityQuery.Span
