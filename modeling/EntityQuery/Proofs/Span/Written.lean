import EntityQuery.Proofs.Calendar.Written
import EntityQuery.Proofs.Span.Calendar

namespace EntityQuery.Span

open Calendar
open DateTime (padded yearText dateText)

variable {unit : TimeUnit} {mark : Char} {piece rest text : List Char}

private theorem splitOn_append_mark (h : mark ∉ piece) (rest : List Char) :
    (piece ++ mark :: rest).splitOn mark = piece :: rest.splitOn mark := by
  have hsplit := List.splitOnP_append_cons (p := (· == mark)) piece rest (beq_self_eq_true mark)
  simp only [← List.splitOn_eq_splitOnP, List.splitOn_eq_singleton h] at hsplit
  exact hsplit

private theorem notMem_padded (hmark : mark.isDigit = false) (width n : Nat) :
    mark ∉ padded width n := fun hmem => by
  rw [isDigit_of_mem_padded hmem] at hmark
  cases hmark

private theorem notMem_hyphen (width n : Nat) : '-' ∉ padded width n :=
  notMem_padded (by decide) width n

private theorem notMem_colon (width n : Nat) : ':' ∉ padded width n :=
  notMem_padded (by decide) width n

theorem readDate?_dateText {date : Date} (hlow : 0 ≤ date.year) (hhigh : date.year ≤ 9999)
    (culture : Culture) : readDate? culture (dateText date) = some (date, .day) := by
  have hlength := length_padded (show 0 < 4 by decide) (show date.year.natAbs < 10 ^ 4 by omega)
  have hnumber : ((date.year.natAbs : Nat) : Int) = date.year := Int.natAbs_of_nonneg hlow
  rw [dateText, yearText_of_range hlow hhigh, List.append_assoc, List.cons_append, readDate?,
    splitOn_append_mark (notMem_hyphen 4 _), splitOn_append_mark (notMem_hyphen 2 _),
    List.splitOn_eq_singleton (notMem_hyphen 2 _)]
  simp only [hlength, isDigits_padded, readDigits_padded, readNatural_padded, hnumber,
    Date.ofYearMonthDay?_fields, beq_self_eq_true, Bool.and_self, if_true, Option.bind_eq_bind,
    Option.bind_some]
  rfl

/-- The date that is read from a written one is that of the start of its unit. -/
theorem readDate?_written {date : Date} (h : date.writtenTo? unit = some text)
    (hlow : 0 ≤ date.year) (hhigh : date.year ≤ 9999) (culture : Culture) : ∃ day,
      readDate? culture text = (Date.ofDay? day).map (fun first => (first, unit)) ∧
      ∀ time, unit.truncate? ⟨date, time⟩ = DateTime.ofDay? day TimeOfDay.midnight := by
  have hyear : yearText date.year = padded 4 date.year.natAbs := yearText_of_range hlow hhigh
  have hlength := length_padded (show 0 < 4 by decide) (show date.year.natAbs < 10 ^ 4 by omega)
  have hnumber : ((date.year.natAbs : Nat) : Int) = date.year := Int.natAbs_of_nonneg hlow
  cases unit with
  | year =>
    cases h
    have hfirst : Date.ofYearMonthDay? date.year 1 1 = Date.ofDay? (daysBeforeYear date.year) := by
      rw [Date.ofYearMonthDay?_first _ (Nat.le_refl 1) (by decide), ← daysBeforeMonthIndex_year]
      congr 2
      exact Int.add_zero _
    refine ⟨daysBeforeYear date.year, ?_, fun _ => rfl⟩
    rw [hyear, readDate?, List.splitOn_eq_singleton (notMem_hyphen 4 _)]
    simp only [hlength, isDigits_padded, readDigits_padded, hnumber, hfirst, beq_self_eq_true,
      Bool.and_self, if_true, Option.bind_eq_bind, Option.bind_some]
    exact Option.map_eq_bind.symm
  | month =>
    cases h
    have hfirst : Date.ofYearMonthDay? date.year date.month 1 =
        Date.ofDay? (date.day - (date.dayOfMonth - 1 : Nat)) := by
      have hfields := date.dayOfMonth_spec.1
      rw [Date.ofYearMonthDay?_first _ date.one_le_month date.month_le,
        daysBeforeMonthIndex_of_month _ date.one_le_month date.month_le]
      congr 1
      omega
    refine ⟨date.day - (date.dayOfMonth - 1 : Nat), ?_, fun _ => rfl⟩
    rw [hyear, readDate?, splitOn_append_mark (notMem_hyphen 4 _),
      List.splitOn_eq_singleton (notMem_hyphen 2 _)]
    simp only [hlength, isDigits_padded, readDigits_padded, hnumber, hfirst, beq_self_eq_true,
      Bool.and_self, if_true, Option.bind_eq_bind, Option.bind_some]
    exact Option.map_eq_bind.symm
  | day =>
    cases h
    refine ⟨date.day, ?_, fun time => ?_⟩
    · rw [readDate?_dateText hlow hhigh culture, Date.ofDay?_day]
      rfl
    · rw [DateTime.ofDay?, Date.ofDay?_day]
      rfl
  | _ => cases h

/-- The time that is read from a written one is that of the start of its unit. -/
theorem readTime?_written {time : TimeOfDay} (h : time.writtenTo? unit = some text)
    (hleap : time.isLeap = false) : ∃ start, readTime? text = some (start, unit) ∧
      ∀ date, unit.truncate? ⟨date, time⟩ = some ⟨date, start⟩ := by
  have hsecond := time.second_lt
  have hhour : time.hour < 24 := Nat.div_lt_of_lt_mul hsecond
  have hminute : time.minute < 60 := Nat.mod_lt _ (by decide)
  have hwithin : time.second % 60 < 60 := Nat.mod_lt _ (by decide)
  cases unit with
  | hour =>
    cases h
    have hfirst : 3600 * time.hour = time.second - time.second % 3600 := by
      rw [TimeOfDay.hour]
      omega
    refine ⟨time.atHour, ?_, fun _ => rfl⟩
    rw [readTime?, List.splitOn_eq_singleton (notMem_colon 2 _)]
    simp [readDigits_padded, TimeOfDay.ofFields?_eq_ofSecond hhour, hfirst, TimeOfDay.atHour]
  | minute =>
    cases h
    have hfirst : 3600 * time.hour + 60 * time.minute = time.second - time.second % 60 := by
      rw [TimeOfDay.hour, TimeOfDay.minute]
      omega
    refine ⟨time.atMinute, ?_, fun _ => rfl⟩
    rw [readTime?, splitOn_append_mark (notMem_colon 2 _),
      List.splitOn_eq_singleton (notMem_colon 2 _)]
    simp [readDigits_padded, TimeOfDay.ofFields?_eq_ofSecond hhour hminute, hfirst,
      TimeOfDay.atMinute]
  | second =>
    cases h
    have hfirst : 3600 * time.hour + 60 * time.minute + time.second % 60 = time.second := by
      rw [TimeOfDay.hour, TimeOfDay.minute]
      omega
    have hread := TimeOfDay.read?_clock (show time.hour < 100 by omega)
      (show time.minute < 100 by omega) (show time.second % 60 < 100 by omega)
    rw [TimeOfDay.ofFields?_eq_ofSecond hhour hminute hwithin, hfirst] at hread
    refine ⟨time.atSecond, ?_, fun _ => rfl⟩
    rw [TimeOfDay.nano_div_eq_zero hleap, Nat.add_zero, readTime?, hread, List.append_assoc,
      List.cons_append, splitOn_append_mark (notMem_colon 2 _),
      splitOn_append_mark (notMem_colon 2 _), List.splitOn_eq_singleton (notMem_colon 2 _)]
    rfl
  | _ => cases h

private theorem cutAtTime_append (h : ∀ c ∈ piece, (c == 'T' || c == ' ') = false)
    (rest : List Char) :
    cutAtTime (piece ++ rest) = (piece ++ (cutAtTime rest).1, (cutAtTime rest).2) := by
  induction piece with
  | nil => rfl
  | cons c others ih =>
    obtain ⟨hc, hothers⟩ := List.forall_mem_cons.mp h
    rw [List.cons_append, cutAtTime, if_neg (by simp [hc]), ih hothers]
    rfl

/-- No separator stands within a date. -/
private theorem cutAtTime_date (h : Marked '-' piece) (rest : List Char) :
    cutAtTime (piece ++ rest) = (piece ++ (cutAtTime rest).1, (cutAtTime rest).2) := by
  refine cutAtTime_append (fun c hc => ?_) rest
  rcases h.isDigit_or_eq c hc with hdigit | rfl
  · have hmark : ∀ d : Char, d.isDigit = false → (c == d) = false := fun d hd =>
      beq_false_of_ne fun heq => by simp [heq, hd] at hdigit
    rw [hmark 'T' (by decide), hmark ' ' (by decide)]
    rfl
  · decide

variable {separator : Char} {instant : DateTime}

/-- A written instant is a date, or a date with a time behind it. -/
theorem date_or_dateTime (h : instant.writtenTo? separator unit = some text) :
    instant.date.writtenTo? unit = some text ∨ ∃ clock, instant.time.writtenTo? unit = some clock ∧
      text = dateText instant.date ++ separator :: clock := by
  rw [DateTime.writtenTo?] at h
  cases hdate : instant.date.writtenTo? unit with
  | some written =>
    rw [hdate] at h
    exact .inl h
  | none =>
    rw [hdate] at h
    obtain ⟨clock, hclock, rfl⟩ := Option.map_eq_some_iff.mp h
    exact .inr ⟨clock, hclock, rfl⟩

/-- A written instant is too short for a timestamp, and there is no white space on either side. -/
theorem written_spec (h : instant.writtenTo? separator unit = some text)
    (hlow : 0 ≤ instant.date.year) (hhigh : instant.date.year ≤ 9999) :
    Timestamp.read? text = none ∧ text ≠ [] ∧ Text.trim text = text := by
  have hnone : text.length < 20 → Timestamp.read? text = none := fun hshort =>
    Option.eq_none_iff_forall_ne_some.mpr fun _ hread =>
      absurd (Timestamp.read?_eq_some hread).1 (Nat.not_le.mpr hshort)
  rcases date_or_dateTime h with hdate | ⟨clock, hclock, rfl⟩
  · obtain ⟨hmarked, hlength⟩ := Date.marked_written hdate hlow hhigh
    exact ⟨hnone (by omega), hmarked.ne_nil, hmarked.trim_eq_self (by decide)⟩
  · have hday : instant.date.writtenTo? .day = some (dateText instant.date) := rfl
    obtain ⟨hmarked, hlength⟩ := Date.marked_written hday hlow hhigh
    obtain ⟨hmarked', hlength'⟩ := TimeOfDay.marked_written hclock
    refine ⟨hnone ?_, List.append_ne_nil_of_left_ne_nil hmarked.ne_nil _,
      hmarked.trim_append (by decide) hmarked' (by decide) separator⟩
    rw [List.length_append, List.length_cons]
    omega

theorem absolute?_written (h : instant.writtenTo? separator unit = some text)
    (hseparator : separator = 'T' ∨ separator = ' ') (hleap : instant.time.isLeap = false)
    (hlow : 0 ≤ instant.date.year) (hhigh : instant.date.year ≤ 9999) (culture : Culture) :
    absolute? culture text = (unit.truncate? instant).bind (ofUnit? unit) := by
  have htimestamp := (written_spec h hlow hhigh).1
  rcases date_or_dateTime h with hdate | ⟨clock, hclock, rfl⟩
  · obtain ⟨hmarked, -⟩ := Date.marked_written hdate hlow hhigh
    obtain ⟨day, hread, htruncate⟩ := readDate?_written hdate hlow hhigh culture
    have hcut := cutAtTime_date hmarked []
    rw [List.append_nil] at hcut
    simp only [absolute?, htimestamp, hcut, cutAtTime, List.append_nil, hread]
    rw [htruncate instant.time, DateTime.ofDay?]
    cases Date.ofDay? day <;> rfl
  · have hday : instant.date.writtenTo? .day = some (dateText instant.date) := rfl
    obtain ⟨hmarked, -⟩ := Date.marked_written hday hlow hhigh
    obtain ⟨hmarked', -⟩ := TimeOfDay.marked_written hclock
    obtain ⟨start, hread, htruncate⟩ := readTime?_written hclock hleap
    have hcut : cutAtTime (dateText instant.date ++ separator :: clock) =
        (dateText instant.date, some clock) := by
      rw [cutAtTime_date hmarked]
      rcases hseparator with rfl | rfl <;> exact congrArg (·, some clock) (List.append_nil _)
    simp only [absolute?, htimestamp, hcut, readDate?_dateText hlow hhigh, Option.getD_some,
      hmarked'.trim_eq_self (by decide), List.isEmpty_eq_false_iff.mpr hmarked'.ne_nil,
      Option.bind_eq_bind, Option.bind_some, hread]
    rw [htruncate instant.date]
    rfl

/-- The text of an instant down to a unit is read as the span of that unit. -/
theorem read?_covers (h : instant.writtenTo? separator unit = some text)
    (hseparator : separator = 'T' ∨ separator = ' ') (hleap : instant.time.isLeap = false)
    (hlow : 0 ≤ instant.date.year) (hhigh : instant.date.year ≤ 9999) (culture : Culture)
    (now : DateTime) : ∃ span, read? culture now (String.ofList text) = some span ∧
      span.Covers unit (unit.numberOf instant) := by
  obtain ⟨-, hne, htrim⟩ := written_spec h hlow hhigh
  have hfirst : -262142 ≤ instant.date.year := Int.le_trans (by decide) hlow
  have hlast : instant.date.year ≤ 262140 := Int.le_trans hhigh (by decide)
  obtain ⟨span, hcovers⟩ := exists_covers unit 0 (by decide) (by decide) hfirst hlast
  rw [Int.add_zero] at hcovers
  refine ⟨span, ?_, hcovers⟩
  rw [read?, String.toList_ofList, htrim]
  simp only [List.isEmpty_eq_false_iff.mpr hne, absolute?_written h hseparator hleap hlow hhigh,
    TimeUnit.truncate?_eq, hcovers.start, Option.bind_some, hcovers.ofUnit?_start]
  rfl

/-- For every culture and every clock, an instant of the years 0 to 9999 that is written down to a
    unit is read as the span of just those instants that are written so. -/
theorem written_instant_names_unit (hunit : unit ≠ .week)
    (hseparator : separator = 'T' ∨ separator = ' ') (hleap : instant.time.isLeap = false)
    (hlow : 0 ≤ instant.date.year) (hhigh : instant.date.year ≤ 9999) (culture : Culture)
    (now : DateTime) : ∃ text span, instant.writtenTo? separator unit = some text ∧
      read? culture now (String.ofList text) = some span ∧
      ∀ other : DateTime, other.time.isLeap = false →
        (span.contains other = true ↔ other.writtenTo? separator unit = some text) := by
  obtain ⟨text, hwritten⟩ := instant.exists_writtenTo? separator hunit
  obtain ⟨span, hread, hcovers⟩ := read?_covers hwritten hseparator hleap hlow hhigh culture now
  refine ⟨text, span, hwritten, hread, fun other hother => hcovers.contains_iff.trans ?_⟩
  constructor
  · intro hnumber
    rw [← hwritten]
    exact writtenTo?_eq_of_numberOf hother hleap hnumber
  · intro hsame
    have hdigit := (startsWithDigit_iff hwritten).mpr ⟨hlow, hhigh⟩
    obtain ⟨hlow', hhigh'⟩ := (startsWithDigit_iff hsame).mp hdigit
    obtain ⟨again, hread', hcovers'⟩ :=
      read?_covers hsame hseparator hother hlow' hhigh' culture now
    -- One text is read as one span, whichever of the two instants it was written for.
    obtain rfl : span = again := Option.some.inj (hread.symm.trans hread')
    exact (TimeUnit.numberOf_of_start? hcovers'.start).symm.trans
      (TimeUnit.numberOf_of_start? hcovers.start)

/-- In the last minute of the 29th of February 2024. -/
def endOfLeapDay : DateTime where
  date := ⟨daysBeforeYear 2024 + 59, by decide⟩
  time := ⟨86370, 0, by decide, by decide, by decide⟩

/-- A written minute of the leap day is the span of the instants with this minute. -/
theorem written_instant_names_unit_leapDay : TimeUnit.minute ≠ .week ∧ (' ' = 'T' ∨ ' ' = ' ') ∧
    endOfLeapDay.time.isLeap = false ∧ 0 ≤ endOfLeapDay.date.year ∧
    endOfLeapDay.date.year ≤ 9999 ∧
    ∃ span, read? Culture.invariant leapSecond "2024-02-29 23:59" = some span ∧
      ∀ other : DateTime, other.time.isLeap = false → (span.contains other = true ↔
        other.writtenTo? ' ' .minute = some "2024-02-29 23:59".toList) := by
  have hunit : TimeUnit.minute ≠ .week := by decide
  have hseparator : ' ' = 'T' ∨ ' ' = ' ' := .inr rfl
  have hleap : endOfLeapDay.time.isLeap = false := rfl
  have hlow : 0 ≤ endOfLeapDay.date.year := by decide
  have hhigh : endOfLeapDay.date.year ≤ 9999 := by decide
  have hsame : endOfLeapDay.writtenTo? ' ' .minute = some "2024-02-29 23:59".toList := by decide
  obtain ⟨text, span, hwritten, hspan⟩ := written_instant_names_unit hunit hseparator hleap hlow
    hhigh Culture.invariant leapSecond
  obtain rfl : text = "2024-02-29 23:59".toList := Option.some.inj (hwritten.symm.trans hsame)
  exact ⟨hunit, hseparator, hleap, hlow, hhigh, span, hspan⟩

end EntityQuery.Span
