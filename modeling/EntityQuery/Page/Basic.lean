import EntityQuery.Fault.Basic
import EntityQuery.Number.Integer
import EntityQuery.Page.Bounds
import EntityQuery.Settings.Page

namespace EntityQuery

/-- A request for one page of a list. Number and size are kept as texts, so that a missing
    one and one that cannot be read can be told apart. -/
structure EntityPage where
  number : String
  size : String
  /-- The page's own settings. -/
  settings : Option PageSettings
deriving DecidableEq

/-- What a text says about a positive number. -/
inductive PositiveReading where
  | missing
  | invalid
  | value (n : Nat)
deriving DecidableEq

/-- Reads a positive number of 64 bits with a sign. -/
def PositiveReading.read (raw : String) : PositiveReading :=
  let text := Text.trim raw.toList
  if text.isEmpty then .missing
  else
    match Number.readInt64 text with
    | some n => if 1 ≤ n.toInt then .value n.toInt.toNat else .invalid
    | none => .invalid

namespace EntityPage

def ofTexts (number size : String) : EntityPage := ⟨number, size, none⟩

/-- A page of a number and a size that may be missing. -/
def ofNumbers (number size : Option Int64) : EntityPage :=
  let text := fun (n : Option Int64) => (n.map toString).getD ""
  ofTexts (text number) (text size)

def withSettings (page : EntityPage) (settings : PageSettings) : EntityPage :=
  { page with settings := some settings }

/-- The page's own settings, or else those that were published for all pages. -/
def effectiveSettings (page : EntityPage) (current : PageSettings) : PageSettings :=
  page.settings.getD current

/-- The number of items on the page. With lenient settings a missing size is no bound, and
    neither is one that cannot be read. -/
def take (page : EntityPage) (settings : PageSettings) : Except Fault (Option Nat) :=
  match PositiveReading.read page.size with
  | .value size => .ok (some size)
  | .missing => if settings.ignoreParseExceptions then .ok none else .error .pageSizeNotSet
  | .invalid =>
    if settings.ignoreParseExceptions then .ok (some PageBounds.unbounded)
    else .error (.invalidPageSize page.size)

/-- The number of the page, starting at one. With lenient settings a number that cannot be
    read is that of the first page. -/
def pageNumber (page : EntityPage) (settings : PageSettings) : Except Fault (Option Nat) :=
  match PositiveReading.read page.number with
  | .value number => .ok (some number)
  | .missing => .ok none
  | .invalid =>
    if settings.ignoreParseExceptions then .ok (some 1)
    else .error (.invalidPageNumber page.number)

/-- The bounds of the page under the settings of a call. The count of items to leave out
    stays within 64 bits. -/
def resolveWith (page : EntityPage) (settings : PageSettings) : Except Fault PageBounds := do
  let take ← page.take settings
  let number ← page.pageNumber settings
  let skip := number.map fun n => min PageBounds.unbounded ((n - 1) * take.getD 0)
  return ⟨skip, take⟩

/-- The items of a list that are on the page. -/
def paginate {α : Type} (page : EntityPage) (current : PageSettings) (items : List α) :
    Except Fault (List α) := do
  return (← page.resolveWith (page.effectiveSettings current)).apply items

/-- The items of a list that are on the page, unless a rule picks them in its own way. -/
def paginateWith {α : Type} (page : EntityPage) (current : PageSettings)
    (rule : List α → EntityPage → PageSettings → Option (Except Fault (List α)))
    (items : List α) : Except Fault (List α) :=
  let settings := page.effectiveSettings current
  match rule items page settings with
  | some result => result
  | none => do return (← page.resolveWith settings).apply items

end EntityPage

end EntityQuery
