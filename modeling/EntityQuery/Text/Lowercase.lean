import EntityQuery.Text.Character
import EntityQuery.Text.Unicode.LowercaseRuns

namespace EntityQuery.Text

/-- The small letter of a capital letter in this run. -/
def Unicode.LowercaseRun.smallLetter? (run : LowercaseRun) (c : Char) : Option Char :=
  if run.first ≤ c.toNat && c.toNat ≤ run.last && (c.toNat - run.first) % run.step == 0 then
    some (Char.ofNat ((c.toNat : Int) + run.shift).toNat)
  else none

/-- The small letters of one character, apart from its neighbours. The dotted capital I
    keeps its dot as a combining character. -/
def lowercaseChar (c : Char) : List Char :=
  if c.toNat == 0x130 then ['i', Char.ofNat 0x307]
  else [(Unicode.lowercaseRuns.findSome? (·.smallLetter? c)).getD c]

/-- Whether the first character that is not passed over has a case. -/
def casedNext (text : List Char) : Bool :=
  match text.dropWhile isCaseIgnorable with
  | [] => false
  | c :: _ => isCased c

/-- Lower-cases what follows, given the characters before it, the nearest first. -/
def lowercaseAfter (before : List Char) : List Char → List Char
  | [] => []
  | c :: rest =>
    let small :=
      if c == 'Σ' then (if casedNext before && !casedNext rest then ['ς'] else ['σ'])
      else lowercaseChar c
    small ++ lowercaseAfter (c :: before) rest

/-- A text in small letters. The Greek sigma takes its final form at the end of a word. -/
def lowercase (text : List Char) : List Char := lowercaseAfter [] text

end EntityQuery.Text
