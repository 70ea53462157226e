import EntityQuery.Text.Unicode.Alphabetic
import EntityQuery.Text.Unicode.CaseIgnorable
import EntityQuery.Text.Unicode.Cased
import EntityQuery.Text.Unicode.DefaultIgnorable
import EntityQuery.Text.Unicode.GraphemeExtend
import EntityQuery.Text.Unicode.Unprintable

namespace EntityQuery.Text

/-- Whether a character lies in one of the given runs of code points. -/
def inRuns (runs : List (Nat × Nat)) (c : Char) : Bool :=
  runs.any fun run => run.1 ≤ c.toNat && c.toNat ≤ run.2

/-- White space in the sense of Unicode, as the first and the last code point of each run. -/
def blankRuns : List (Nat × Nat) := [
  (0x9, 0xD), (0x20, 0x20), (0x85, 0x85), (0xA0, 0xA0), (0x1680, 0x1680), (0x2000, 0x200A),
  (0x2028, 0x2029), (0x202F, 0x202F), (0x205F, 0x205F), (0x3000, 0x3000)]

def isBlank (c : Char) : Bool := inRuns blankRuns c

/-- Whether a character may stand in a word, in any script. -/
def isLetter (c : Char) : Bool := inRuns Unicode.alphabeticRuns c

/-- Whether a character has a case, as letters of bicameral scripts do. -/
def isCased (c : Char) : Bool := inRuns Unicode.casedRuns c

/-- Whether a character is passed over when the neighbours of a letter are looked for. -/
def isCaseIgnorable (c : Char) : Bool := inRuns Unicode.caseIgnorableRuns c

/-- The halfwidth sound marks of Katakana, which extend the letter before them but have a
    place of their own. -/
def soundMarks : List (Nat × Nat) := [(0xFF9E, 0xFF9F)]

/-- Whether a character is drawn in the place of the one before it. -/
def isExtending (c : Char) : Bool := inRuns Unicode.graphemeExtendRuns c && !inRuns soundMarks c

/-- Whether a character stays invisible even in a font that does not know it. -/
def isInvisible (c : Char) : Bool := inRuns Unicode.defaultIgnorableRuns c

def isPrintable (c : Char) : Bool := !inRuns Unicode.unprintableRuns c

end EntityQuery.Text
