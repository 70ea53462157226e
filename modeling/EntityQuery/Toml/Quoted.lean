import EntityQuery.Text.Basic

namespace EntityQuery.Toml

/-- What has been read of a text, and what follows it. -/
abbrev Quotation := Option (List Char × List Char)

def Quotation.push (c : Char) (quotation : Quotation) : Quotation :=
  quotation.map fun (chars, rest) => (c :: chars, rest)

/-- Whether a character may stand for itself in a line. -/
def isPlain (c : Char) : Bool := c == '\t' || (0x20 ≤ c.toNat && c.toNat != 0x7F)

def ofHex? (digits : List Char) : Option Char := do
  let number := (← digits.mapM Text.hexValue?).foldl (16 * · + ·) 0
  if number.isValidChar then some (Char.ofNat number) else none

/-- The character that an escape of one letter stands for. -/
def escapeValue? (c : Char) : Option Char :=
  match c with
  | '"' => some '"'
  | '\\' => some '\\'
  | 'b' => some '\x08'
  | 'f' => some '\x0c'
  | 'n' => some '\n'
  | 'r' => some '\r'
  | 't' => some '\t'
  | _ => none

/-- Reads a text with escapes up to its quotation mark. -/
def readQuoted : List Char → Quotation
  | [] => none
  | '"' :: rest => some ([], rest)
  | '\\' :: 'u' :: a :: b :: c :: d :: rest => do
    (readQuoted rest).push (← ofHex? [a, b, c, d])
  | '\\' :: 'U' :: a :: b :: c :: d :: e :: f :: g :: h :: rest => do
    (readQuoted rest).push (← ofHex? [a, b, c, d, e, f, g, h])
  | '\\' :: c :: rest => do (readQuoted rest).push (← escapeValue? c)
  | c :: rest => if isPlain c then (readQuoted rest).push c else none

/-- Reads a text without escapes up to its quotation mark. -/
def readLiteral : List Char → Quotation
  | [] => none
  | '\'' :: rest => some ([], rest)
  | c :: rest => if isPlain c then (readLiteral rest).push c else none

/-- Whether only blanks stand before the end of the line. -/
def endsLine (text : List Char) : Bool :=
  match text.dropWhile fun c => c == ' ' || c == '\t' with
  | '\n' :: _ => true
  | '\r' :: '\n' :: _ => true
  | _ => false

/-- Reads a text with escapes up to three quotation marks, of which there may be two more.
    An escape at the end of a line joins it to the next text; `joining` says that blanks and
    line ends are being passed over for that. -/
def readQuotedBlock (joining : Bool) : List Char → Quotation
  | [] => none
  | '"' :: '"' :: '"' :: '"' :: '"' :: rest => some (['"', '"'], rest)
  | '"' :: '"' :: '"' :: '"' :: rest => some (['"'], rest)
  | '"' :: '"' :: '"' :: rest => some ([], rest)
  | '\\' :: 'u' :: a :: b :: c :: d :: rest => do
    (readQuotedBlock false rest).push (← ofHex? [a, b, c, d])
  | '\\' :: 'U' :: a :: b :: c :: d :: e :: f :: g :: h :: rest => do
    (readQuotedBlock false rest).push (← ofHex? [a, b, c, d, e, f, g, h])
  | '\\' :: c :: rest =>
    if endsLine (c :: rest) then readQuotedBlock true (c :: rest)
    else do (readQuotedBlock false rest).push (← escapeValue? c)
  | '\r' :: '\n' :: rest =>
    if joining then readQuotedBlock true rest else (readQuotedBlock false rest).push '\n'
  | c :: rest =>
    if joining && (c == ' ' || c == '\t' || c == '\n') then readQuotedBlock true rest
    else if isPlain c || c == '\n' then (readQuotedBlock false rest).push c
    else none

/-- Reads a text without escapes up to three quotation marks, of which there may be two
    more. -/
def readLiteralBlock : List Char → Quotation
  | [] => none
  | '\'' :: '\'' :: '\'' :: '\'' :: '\'' :: rest => some (['\'', '\''], rest)
  | '\'' :: '\'' :: '\'' :: '\'' :: rest => some (['\''], rest)
  | '\'' :: '\'' :: '\'' :: rest => some ([], rest)
  | '\r' :: '\n' :: rest => (readLiteralBlock rest).push '\n'
  | c :: rest => if isPlain c || c == '\n' then (readLiteralBlock rest).push c else none

/-- A text without a line end at its start. -/
def afterLineEnd : List Char → List Char
  | '\n' :: rest => rest
  | '\r' :: '\n' :: rest => rest
  | rest => rest

/-- Reads a text between quotation marks of either kind, one on each side or three of them.
    The first of several lines may be empty. -/
def readText : List Char → Quotation
  | '"' :: '"' :: '"' :: rest => readQuotedBlock false (afterLineEnd rest)
  | '"' :: rest => readQuoted rest
  | '\'' :: '\'' :: '\'' :: rest => readLiteralBlock (afterLineEnd rest)
  | '\'' :: rest => readLiteral rest
  | _ => none

end EntityQuery.Toml
