import EntityQuery.Text.Basic

namespace EntityQuery

/-- A globally unique identifier of 128 bits. -/
structure Guid where
  bits : BitVec 128
deriving DecidableEq

namespace Guid

def compare (a b : Guid) : Ordering := Ord.compare a.bits.toNat b.bits.toNat

def ofDigits? (digits : List Char) : Option Guid := do
  let values ← digits.mapM Text.hexValue?
  if values.length == 32 then some ⟨BitVec.ofNat 128 (values.foldl (16 * · + ·) 0)⟩ else none

def ofGroups? (text : List Char) : Option Guid :=
  let groups := text.splitOn '-'
  if groups.map List.length == [8, 4, 4, 4, 12] then ofDigits? groups.flatten else none

/-- Reads an identifier: its digits, hyphenated or not, the hyphenated digits in braces, or
    as a resource name. Letters may be of either case. -/
def read? (text : List Char) : Option Guid :=
  if text.length == 32 then ofDigits? text
  else if text.head? == some '\x7b' && text.getLast? == some '\x7d' then
    ofGroups? text.dropLast.tail
  else if Text.sameIgnoringCase (text.take 9) "urn:uuid:".toList then ofGroups? (text.drop 9)
  else ofGroups? text

/-- The hyphenated form in small letters. -/
def toText (guid : Guid) : String :=
  let digits := (List.range 32).map fun i =>
    Nat.digitChar ((guid.bits.toNat >>> (4 * (31 - i))) % 16)
  let group := fun first size => String.ofList ((digits.drop first).take size)
  String.intercalate "-" [group 0 8, group 8 4, group 12 4, group 16 4, group 20 12]

end Guid

end EntityQuery
