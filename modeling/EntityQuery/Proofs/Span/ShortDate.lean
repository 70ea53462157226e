import EntityQuery.Proofs.Calendar.Written
import EntityQuery.Proofs.Span.Nonempty

namespace EntityQuery

open Calendar
open Number (IsNatural)

/-- The parts of a date in some order. -/
def DateOrder.arrange {α : Type} (order : DateOrder) (year month day : α) : List α :=
  match order with
  | .dayMonthYear => [day, month, year]
  | .monthDayYear => [month, day, year]
  | .yearMonthDay => [year, month, day]

theorem DateOrder.mem_arrange {α : Type} {order : DateOrder} {year month day part : α} :
    part ∈ order.arrange year month day ↔ part = year ∨ part = month ∨ part = day := by
  cases order <;> simp only [arrange, List.mem_cons, List.not_mem_nil, or_false] <;> tauto

namespace Culture

variable {culture : Culture} {date : Date} {text year month day : List Char}

/-- A date as a culture writes it, with the separator between its parts. -/
def shortDate (culture : Culture) (year month day : List Char) : List Char :=
  [culture.dateSeparator].intercalate (culture.dateOrder.arrange year month day)

/-- A year is written in full, or one of the years 2000 to 2099 as its last two digits. -/
inductive WritesYear (text : List Char) : Int → Prop
  | full {n : Nat} (h : IsNatural text n) (hn : 100 ≤ n) : WritesYear text n
  | lastDigits {n : Nat} (h : IsNatural text n) (hn : n < 100) : WritesYear text (2000 + n)

/-- The digits of the parts of a date, with any number of zeros in front. -/
structure WritesDate (date : Date) (year month day : List Char) : Prop where
  year : WritesYear year date.year
  month : IsNatural month date.month
  day : IsNatural day date.dayOfMonth

/-- The separator of dates is seen, and stands neither within dates and times of other forms nor
    between the two. -/
structure SeparatesDates (culture : Culture) : Prop where
  digit : culture.dateSeparator.isDigit = false
  blank : Text.isBlank culture.dateSeparator = false
  hyphen : culture.dateSeparator ≠ '-'
  mark : culture.dateSeparator ≠ 'T'

theorem separatesDates_of_mem (hculture : culture ∈ all) : culture.SeparatesDates := by
  have hseparator : culture.dateSeparator = '/' ∨ culture.dateSeparator = '.' := by
    revert culture
    decide
  rcases hseparator with heq | heq <;> constructor <;> rw [heq] <;> decide

theorem WritesYear.exists_fullYear {n : Int} (h : WritesYear text n) :
    ∃ read, IsNatural text read ∧ (fullYear read : Int) = n := by
  cases h with
  | @full read hread hn => exact ⟨read, hread, by rw [fullYear, if_neg (Nat.not_lt.mpr hn)]⟩
  | @lastDigits read hread hn =>
    refine ⟨read, hread, ?_⟩
    rw [fullYear, if_pos hn, Int.natCast_add]
    exact Int.add_comm _ _

theorem exists_parts (culture : Culture) (year month day : List Char) : ∃ first second third,
    culture.dateOrder.arrange year month day = [first, second, third] ∧
    culture.shortDate year month day =
      first ++ culture.dateSeparator :: (second ++ culture.dateSeparator :: third) := by
  rw [shortDate]
  cases culture.dateOrder
  all_goals
    refine ⟨_, _, _, rfl, ?_⟩
    simp only [DateOrder.arrange, List.intercalate_cons_cons, List.intercalate_singleton,
      List.append_assoc, List.singleton_append]

namespace WritesDate

theorem marked_of_mem (h : WritesDate date year month day) {order : DateOrder} {part : List Char}
    (hpart : part ∈ order.arrange year month day) (mark : Char) :
    Marked mark part ∧ ∀ c ∈ part, c.isDigit = true := by
  have hmarked : ∀ {n : Nat} {part : List Char}, IsNatural part n →
      Marked mark part ∧ ∀ c ∈ part, c.isDigit = true := fun hpart =>
    ⟨⟨hpart.ne_nil, fun c hc => .inl (hpart.digits c hc)⟩, hpart.digits⟩
  obtain ⟨read, hyear, -⟩ := h.year.exists_fullYear
  rcases DateOrder.mem_arrange.mp hpart with rfl | rfl | rfl
  · exact hmarked hyear
  · exact hmarked h.month
  · exact hmarked h.day

theorem marked (h : WritesDate date year month day) (culture : Culture) :
    Marked culture.dateSeparator (culture.shortDate year month day) := by
  obtain ⟨first, second, third, hparts, htext⟩ := exists_parts culture year month day
  have hmarked : ∀ part ∈ culture.dateOrder.arrange year month day,
      Marked culture.dateSeparator part :=
    fun part hpart => (h.marked_of_mem hpart culture.dateSeparator).1
  rw [hparts, List.forall_mem_cons, List.forall_mem_cons, List.forall_mem_singleton] at hmarked
  rw [htext]
  exact hmarked.1.append (hmarked.2.1.append hmarked.2.2)

/-- A short date has no other characters than digits and separators. -/
theorem notMem (h : WritesDate date year month day) {c : Char} (hdigit : c.isDigit = false)
    (hseparator : culture.dateSeparator ≠ c) : c ∉ culture.shortDate year month day := by
  intro hc
  rcases (h.marked culture).isDigit_or_eq c hc with htrue | rfl
  · rw [hdigit] at htrue
    cases htrue
  · exact hseparator rfl

/-- A date is read from its parts in the order of the culture. -/
theorem readShortDate?_eq (h : WritesDate date year month day)
    (hseparator : culture.SeparatesDates) :
    culture.readShortDate? (culture.shortDate year month day) = some date := by
  have hsplit : (culture.shortDate year month day).splitOn culture.dateSeparator =
      culture.dateOrder.arrange year month day := by
    refine List.splitOn_intercalate _ (fun part hpart hmem => ?_) ?_
    · have hfalse := hseparator.digit
      rw [(h.marked_of_mem hpart culture.dateSeparator).2 _ hmem] at hfalse
      cases hfalse
    · cases culture.dateOrder <;> exact List.cons_ne_nil _ _
  obtain ⟨read, hyear, hfull⟩ := h.year.exists_fullYear
  have hdate := date.ofYearMonthDay?_fields
  rw [← hfull] at hdate
  rw [readShortDate?, (h.marked culture).trim_eq_self hseparator.blank, hsplit]
  cases culture.dateOrder
  all_goals
    simp only [DateOrder.arrange, Number.readDigits_eq_some_iff.mpr hyear,
      Number.readDigits_eq_some_iff.mpr h.month, Number.readDigits_eq_some_iff.mpr h.day,
      Option.bind_eq_bind, Option.bind_some]
    exact hdate

end WritesDate

end Culture

namespace Span

open Culture (SeparatesDates WritesDate separatesDates_of_mem)

variable {culture : Culture} {date : Date} {year month day : List Char}

/-- A day lasts until the next one starts. -/
theorem exists_ofUnit?_day (hlow : -262142 ≤ date.year) (hhigh : date.year ≤ 262140) :
    ∃ next : Date, next.day = date.day + 1 ∧
      ofUnit? .day ⟨date, .midnight⟩ = some ⟨⟨date, .midnight⟩, ⟨next, .midnight⟩⟩ := by
  have hday : ∀ number, TimeUnit.day.start? number =
      (Date.ofDay? number).map fun first => ⟨first, .midnight⟩ := DateTime.ofSeconds?_day
  have hstart : TimeUnit.day.start? date.day = some ⟨date, .midnight⟩ := by
    rw [hday, date.ofDay?_day]
    rfl
  obtain ⟨stop, hstop⟩ := TimeUnit.day.exists_start? ⟨date, .midnight⟩ 1 (by decide) (by decide)
    hlow hhigh
  change TimeUnit.day.start? (date.day + 1) = some stop at hstop
  have hshift := TimeUnit.shift?_of_start? hstart 1
  rw [hstop] at hshift
  rw [hday] at hstop
  obtain ⟨next, hnext, rfl⟩ := Option.map_eq_some_iff.mp hstop
  exact ⟨next, Date.ofDay?_eq_some_iff.mp hnext, by rw [ofUnit?, hshift]; rfl⟩

/-- A short date is not taken for a year, a month or a day in hyphenated form. -/
theorem readDate?_shortDate (h : WritesDate date year month day)
    (hseparator : culture.SeparatesDates) :
    readDate? culture (culture.shortDate year month day) = some (date, .day) := by
  have hdigits : Text.isDigits (culture.shortDate year month day) = false := by
    obtain ⟨first, second, third, -, htext⟩ := culture.exists_parts year month day
    rw [htext, Text.isDigits, Bool.and_eq_false_iff, List.all_eq_false]
    exact .inr ⟨culture.dateSeparator, by simp, by simp [hseparator.digit]⟩
  rw [readDate?, List.splitOn_eq_singleton (h.notMem (by decide) hseparator.hyphen)]
  simp only [hdigits, Bool.and_false, Bool.false_eq_true, if_false, readDate?.shortDate,
    h.readShortDate?_eq hseparator, Option.map_some]

theorem absolute?_shortDate (h : WritesDate date year month day)
    (hseparator : culture.SeparatesDates) :
    absolute? culture (culture.shortDate year month day) = ofUnit? .day ⟨date, .midnight⟩ := by
  have htimestamp : Timestamp.read? (culture.shortDate year month day) = none := by
    refine Option.eq_none_iff_forall_ne_some.mpr fun instant hread => ?_
    obtain ⟨before, digit, rest, htext, -⟩ := Timestamp.exists_hyphen_of_read? hread
    have hmem : '-' ∈ culture.shortDate year month day := by simp [htext]
    exact h.notMem (by decide) hseparator.hyphen hmem
  have hcut : cutAtTime (culture.shortDate year month day) =
      (culture.shortDate year month day, none) := by
    refine (cutAtTime_cases _).resolve_right ?_
    rintro ⟨before, mark, rest, hmark, htext, -⟩
    have hmem : mark ∈ culture.shortDate year month day := by simp [htext]
    rcases hmark with rfl | rfl
    · exact h.notMem (by decide) hseparator.mark hmem
    · have hblank := (h.marked culture).isBlank_eq_false hseparator.blank _ hmem
      exact absurd hblank (by decide)
  simp only [absolute?, htimestamp, hcut, readDate?_shortDate h hseparator, Option.bind_eq_bind,
    Option.bind_some]
  rfl

/-- In every culture a date of the years 100 to 9999 is read back from its short form, whether or
    not its month and its day have a zero in front, and whether its year is in full or, as one of
    the years 2000 to 2099, in two digits. Under any clock the short form is read as the span of
    that day, from its midnight up to the next one. -/
theorem short_date_names_day (hculture : culture ∈ Culture.all) (hhigh : date.year ≤ 9999)
    (h : WritesDate date year month day) (now : DateTime) :
    culture.readShortDate? (culture.shortDate year month day) = some date ∧
    ∃ next : Date, next.day = date.day + 1 ∧
      read? culture now (String.ofList (culture.shortDate year month day)) =
        some ⟨⟨date, .midnight⟩, ⟨next, .midnight⟩⟩ := by
  have hseparator := separatesDates_of_mem hculture
  have hmarked := h.marked culture
  have hlow : -262142 ≤ date.year := by
    obtain ⟨read, -, hfull⟩ := h.year.exists_fullYear
    omega
  obtain ⟨next, hnext, hspan⟩ := exists_ofUnit?_day hlow (by omega)
  refine ⟨h.readShortDate?_eq hseparator, next, hnext, ?_⟩
  rw [read?, String.toList_ofList, hmarked.trim_eq_self hseparator.blank]
  simp only [List.isEmpty_eq_false_iff.mpr hmarked.ne_nil, absolute?_shortDate h hseparator, hspan]
  rfl

/-- The 29th of February 2000. -/
def leapDay : Date := ⟨daysBeforeYear 2000 + 59, by decide⟩

/-- The leap day in the German form, with no zero in front of the month and with two of them for
    the year. -/
theorem short_date_names_day_leapDay :
    Culture.named "de-DE" ∈ Culture.all ∧ leapDay.year ≤ 9999 ∧
    WritesDate leapDay "00".toList "2".toList "29".toList ∧
    (Culture.named "de-DE").readShortDate? "29.2.00".toList = some leapDay ∧
    read? (Culture.named "de-DE") leapSecond "29.2.00" =
      some (ofDayNumber leapDay.day (by decide)) := by
  have hculture : Culture.named "de-DE" ∈ Culture.all := by decide +kernel
  have hhigh : leapDay.year ≤ 9999 := by decide
  have hyear : Culture.WritesYear "00".toList leapDay.year :=
    .lastDigits (show IsNatural "00".toList 0 by decide) (by decide)
  have hwrites : WritesDate leapDay "00".toList "2".toList "29".toList :=
    ⟨hyear, by decide, by decide⟩
  obtain ⟨hdate, ⟨_, _⟩, rfl, hspan⟩ := short_date_names_day hculture hhigh hwrites leapSecond
  exact ⟨hculture, hhigh, hwrites, hdate, hspan⟩

end Span

end EntityQuery
