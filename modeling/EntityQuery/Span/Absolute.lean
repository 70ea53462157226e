import EntityQuery.Calendar.Timestamp
import EntityQuery.Culture
import EntityQuery.Span.Basic

namespace EntityQuery.Span

open Calendar

/-- Reads a date and says how much of the calendar it names: a year, a month or a day in
    hyphenated form with a year of four digits, or else a short date of the culture. -/
def readDate? (culture : Culture) (text : List Char) : Option (Date × TimeUnit) :=
  match text.splitOn '-' with
  | [year] =>
    if year.length == 4 && Text.isDigits year then do
      return (← Date.ofYearMonthDay? (← Number.readDigits year) 1 1, .year)
    else shortDate
  | [year, month] =>
    if year.length == 4 && Text.isDigits year && Text.isDigits month then do
      let date ← Date.ofYearMonthDay? (← Number.readDigits year) (← Number.readDigits month) 1
      return (date, .month)
    else shortDate
  | [year, month, day] =>
    if year.length == 4 && Text.isDigits year then do
      let date ← Date.ofYearMonthDay? (← Number.readDigits year) (← Number.readNatural month)
        (← Number.readNatural day)
      return (date, .day)
    else shortDate
  | _ => shortDate
where
  shortDate : Option (Date × TimeUnit) := (culture.readShortDate? text).map fun date => (date, .day)

/-- Reads a time of day and says how much of it is named: an hour, a minute or a second. -/
def readTime? (text : List Char) : Option (TimeOfDay × TimeUnit) :=
  match text.splitOn ':' with
  | [hour] => do
    return (← TimeOfDay.ofFields? (← Number.readDigits hour) 0 0 0, .hour)
  | [hour, minute] => do
    let time ← TimeOfDay.ofFields? (← Number.readDigits hour) (← Number.readDigits minute) 0 0
    return (time, .minute)
  | [_, _, _] => do
    return (← TimeOfDay.read? text, .second)
  | _ => none

/-- A text up to the first letter `T` or space, and what follows that mark. -/
def cutAtTime : List Char → List Char × Option (List Char)
  | [] => ([], none)
  | c :: rest =>
    if c == 'T' || c == ' ' then ([], some rest)
    else
      let (date, time) := cutAtTime rest
      (c :: date, time)

/-- The span that a date names, with or without a time of day. A full timestamp with its
    distance from universal time is tried first. -/
def absolute? (culture : Culture) (text : List Char) : Option Span :=
  match Timestamp.read? text with
  | some instant => ofUnit? .second instant
  | none => do
    let (datePart, timePart) := cutAtTime text
    let (date, unit) ← readDate? culture datePart
    let timeText := Text.trim (timePart.getD [])
    if timeText.isEmpty then ofUnit? unit ⟨date, TimeOfDay.midnight⟩
    else if unit == .day then
      let (time, unit) ← readTime? timeText
      ofUnit? unit ⟨date, time⟩
    else none

end EntityQuery.Span
