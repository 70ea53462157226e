import EntityQuery.Json.Basic
import EntityQuery.Text.Basic

namespace EntityQuery.Json

/-- The part of a string that has been read, the last character first. -/
structure Letters where
  read : List Char
  /-- The first half of a surrogate pair that waits for its second half. -/
  half : Option Nat
  broken : Bool

namespace Letters

def start : Letters := ⟨[], none, false⟩

/-- Adds a character that is written as itself. -/
def push (letters : Letters) (c : Char) : Letters :=
  ⟨c :: letters.read, none, letters.broken || letters.half.isSome⟩

/-- Adds a code unit that is written by its number. -/
def pushUnit (letters : Letters) (unit : Nat) : Letters :=
  if 0xD800 ≤ unit && unit < 0xDC00 then
    ⟨letters.read, some unit, letters.broken || letters.half.isSome⟩
  else if 0xDC00 ≤ unit && unit < 0xE000 then
    match letters.half with
    | some half =>
      let point := 0x10000 + 0x400 * (half - 0xD800) + (unit - 0xDC00)
      ⟨Char.ofNat point :: letters.read, none, letters.broken⟩
    | none => ⟨letters.read, none, true⟩
  else letters.push (Char.ofNat unit)

/-- The text of the string, unless half of a surrogate pair stands alone in it. -/
def text? (letters : Letters) : Option String :=
  if letters.broken || letters.half.isSome then none
  else some (String.ofList letters.read.reverse)

end Letters

/-- An array or an object that is being read, the last part first. -/
inductive Frame where
  | array (items : List Json)
  | object (members : List (Option String × Json)) (key : Option String)

inductive Expected where
  | value
  | firstItem
  | firstKey
  | key
  | colon
  | separator
deriving DecidableEq

inductive Mode where
  | between
  | word (read : List Char)
  | string (letters : Letters)
  | escape (letters : Letters)
  | codeUnit (letters : Letters) (digits : List Nat)

/-- A document that is being read: the open arrays and objects, the innermost first, and
    the complete value once they are all closed. -/
structure Reader where
  mode : Mode
  expected : Expected
  stack : List Frame
  result : Option Json

namespace Reader

def start : Reader := ⟨.between, .value, [], none⟩

def complete (reader : Reader) (value : Json) : Option Reader :=
  if reader.expected == .value || reader.expected == .firstItem then
    match reader.stack with
    | [] => some { reader with mode := .between, expected := .separator, result := some value }
    | .array items :: outer =>
      some { reader with
        mode := .between, expected := .separator, stack := .array (value :: items) :: outer }
    | .object members key :: outer =>
      some { reader with
        mode := .between, expected := .separator
        stack := .object ((key, value) :: members) none :: outer }
  else none

/-- Takes in a complete string, which is a key or a value. -/
def completeString (reader : Reader) (text : Option String) : Option Reader :=
  if reader.expected == .firstKey || reader.expected == .key then
    match reader.stack with
    | .object members _ :: outer =>
      some { reader with
        mode := .between, expected := .colon, stack := .object members text :: outer }
    | _ => none
  else
    match text with
    | some text => reader.complete (.string text)
    | none => reader.complete .brokenString

def opened (reader : Reader) (frame : Frame) (expected : Expected) : Option Reader :=
  if reader.expected == .value || reader.expected == .firstItem then
    some { reader with mode := .between, expected := expected, stack := frame :: reader.stack }
  else none

def closeArray (reader : Reader) : Option Reader :=
  match reader.stack with
  | .array items :: outer =>
    if reader.expected == .firstItem || reader.expected == .separator then
      complete { reader with expected := .value, stack := outer } (.array items.reverse)
    else none
  | _ => none

def closeObject (reader : Reader) : Option Reader :=
  match reader.stack with
  | .object members _ :: outer =>
    if reader.expected == .firstKey || reader.expected == .separator then
      complete { reader with expected := .value, stack := outer } (.object members.reverse)
    else none
  | _ => none

/-- Goes on to the next item or member. -/
def separate (reader : Reader) : Option Reader :=
  if reader.expected == .separator then
    match reader.stack with
    | [] => none
    | .array _ :: _ => some { reader with expected := .value }
    | .object _ _ :: _ => some { reader with expected := .key }
  else none

/-- Whether digits follow each other up to the end, or to an exponent where one is allowed. -/
def isFraction (text : List Char) : Bool :=
  let rest := text.dropWhile Char.isDigit
  (text.head?.map Char.isDigit).getD false &&
    match rest with
    | [] => true
    | mark :: exponent =>
      (mark == 'e' || mark == 'E') &&
        match exponent with
        | '+' :: digits => !digits.isEmpty && digits.all Char.isDigit
        | '-' :: digits => !digits.isEmpty && digits.all Char.isDigit
        | digits => !digits.isEmpty && digits.all Char.isDigit

/-- Whether a text is a number: no zeros in front, and digits on both sides of a point. -/
def isNumber (text : List Char) : Bool :=
  let unsigned := match text with
    | '-' :: rest => rest
    | rest => rest
  let whole := unsigned.takeWhile Char.isDigit
  let rest := unsigned.dropWhile Char.isDigit
  !whole.isEmpty && (whole.head? != some '0' || whole.length == 1) &&
    match rest with
    | [] => true
    | '.' :: fraction => isFraction fraction
    | rest => isFraction ('0' :: rest)

def wordValue? (word : List Char) : Option Json :=
  match String.ofList word with
  | "null" => some .null
  | "true" => some (.bool true)
  | "false" => some (.bool false)
  | literal => if isNumber word then some (.number literal) else none

def isWordChar (c : Char) : Bool := c.isAlphanum || c == '+' || c == '-' || c == '.'

def readBetween (reader : Reader) (c : Char) : Option Reader :=
  match c with
  | ' ' | '\n' | '\r' | '\t' => some reader
  | '[' => reader.opened (.array []) .firstItem
  | '\x7b' => reader.opened (.object [] none) .firstKey
  | ']' => reader.closeArray
  | '\x7d' => reader.closeObject
  | ',' => reader.separate
  | ':' => if reader.expected == .colon then some { reader with expected := .value } else none
  | '"' => some { reader with mode := .string .start }
  | c => if isWordChar c then some { reader with mode := .word [c] } else none

/-- Ends a word and takes in its value. -/
def endWord (reader : Reader) (word : List Char) : Option Reader := do
  complete { reader with mode := .between } (← wordValue? word.reverse)

/-- The character that an escape of one letter stands for. -/
def escapeValue? (c : Char) : Option Char :=
  match c with
  | '"' => some '"'
  | '\\' => some '\\'
  | '/' => some '/'
  | 'b' => some '\x08'
  | 'f' => some '\x0c'
  | 'n' => some '\n'
  | 'r' => some '\r'
  | 't' => some '\t'
  | _ => none

def step (reader : Reader) (c : Char) : Option Reader :=
  match reader.mode with
  | .between => reader.readBetween c
  | .word read =>
    if isWordChar c then some { reader with mode := .word (c :: read) }
    else do readBetween (← reader.endWord read) c
  | .string letters =>
    if c == '"' then reader.completeString letters.text?
    else if c == '\\' then some { reader with mode := .escape letters }
    else if c.toNat < 0x20 then none
    else some { reader with mode := .string (letters.push c) }
  | .escape letters =>
    if c == 'u' then some { reader with mode := .codeUnit letters [] }
    else (escapeValue? c).map fun c => { reader with mode := .string (letters.push c) }
  | .codeUnit letters digits => do
    let digits := digits ++ [← Text.hexValue? c]
    if digits.length == 4 then
      some { reader with mode := .string (letters.pushUnit (digits.foldl (16 * · + ·) 0)) }
    else some { reader with mode := .codeUnit letters digits }

def finish (reader : Reader) : Option Json := do
  let reader ← match reader.mode with
    | .between => some reader
    | .word read => reader.endWord read
    | _ => none
  reader.result

end Reader

/-- Reads a document. Nothing but white space may surround it. -/
def read? (text : String) : Option Json := do
  (← text.toList.foldlM Reader.step Reader.start).finish

end EntityQuery.Json
