import EntityQuery.Proofs.Calendar.TimeUnit
import EntityQuery.Proofs.Span.Phrase

namespace EntityQuery.Span

open Calendar

variable {unit : TimeUnit} {number offset : Int} {span : Span} {now instant start : DateTime}
  {word : String}

/-- A span from the start of a unit to the start of the next one. -/
structure Covers (span : Span) (unit : TimeUnit) (number : Int) : Prop where
  start : unit.start? number = some span.start
  stop : unit.start? (number + 1) = some span.stop

/-- The instants of a unit's span are those that lie in the unit. -/
theorem Covers.contains_iff (h : span.Covers unit number) :
    span.contains instant = true ↔ unit.numberOf instant = number := by
  obtain ⟨hstart, hnano⟩ := TimeUnit.start?_eq_some_iff.mp h.start
  obtain ⟨hstop, hnano'⟩ := TimeUnit.start?_eq_some_iff.mp h.stop
  have hbegun : (compare span.start instant).isLE = true ↔ _ := DateTime.isLE_compare_iff hnano
  have hended : (compare instant span.stop).isLT = true ↔ _ := DateTime.isLT_compare_iff hnano'
  rw [contains, Bool.and_eq_true, hbegun, hended, hstart, hstop, TimeUnit.numberOf_eq_iff]

/-- A unit's span starts where truncation leaves off. -/
theorem Covers.truncate?_start (h : span.Covers unit number) :
    unit.truncate? span.start = some span.start := by
  rw [TimeUnit.truncate?_eq, TimeUnit.numberOf_of_start? h.start, h.start]

theorem Covers.ofUnit?_start (h : span.Covers unit number) :
    ofUnit? unit span.start = some span := by
  rw [ofUnit?, TimeUnit.shift?_of_start? h.start, h.stop]
  rfl

/-- One unit from the start of a unit on is that unit. -/
theorem covers_of_ofUnit? (hstart : unit.start? number = some start)
    (hspan : ofUnit? unit start = some span) : span.Covers unit number := by
  rw [ofUnit?, TimeUnit.shift?_of_start? hstart] at hspan
  obtain ⟨stop, hstop, rfl⟩ := Option.map_eq_some_iff.mp hspan
  exact ⟨hstart, hstop⟩

theorem covers_of_calendar? (h : calendar? now unit offset = some span) :
    span.Covers unit (unit.numberOf now + offset) := by
  simp only [calendar?, Option.bind_eq_bind, Option.bind_eq_some_iff] at h
  obtain ⟨first, hfirst, start, hstart, hspan⟩ := h
  rw [TimeUnit.truncate?_eq] at hfirst
  rw [TimeUnit.shift?_of_start? hfirst] at hstart
  exact covers_of_ofUnit? hstart hspan

/-- The unit of the present and those beside it have spans in all but the outermost years of the
    calendar. -/
theorem exists_covers (unit : TimeUnit) (offset : Int) (hlow : -1 ≤ offset) (hhigh : offset ≤ 1)
    (hfirst : -262142 ≤ now.date.year) (hlast : now.date.year ≤ 262140) :
    ∃ span : Span, span.Covers unit (unit.numberOf now + offset) := by
  obtain ⟨start, hstart⟩ := unit.exists_start? now offset hlow (by omega) hfirst hlast
  obtain ⟨stop, hstop⟩ := unit.exists_start? now (offset + 1) (by omega) (by omega) hfirst hlast
  rw [← Int.add_assoc] at hstop
  exact ⟨⟨start, stop⟩, hstart, hstop⟩

theorem exists_calendar? (unit : TimeUnit) (offset : Int) (hlow : -1 ≤ offset) (hhigh : offset ≤ 1)
    (hfirst : -262142 ≤ now.date.year) (hlast : now.date.year ≤ 262140) :
    ∃ span, calendar? now unit offset = some span := by
  obtain ⟨present, hpresent⟩ := exists_covers unit 0 (by decide) (by decide) hfirst hlast
  obtain ⟨span, hspan⟩ := exists_covers unit offset hlow hhigh hfirst hlast
  have hbegun := hpresent.start
  rw [Int.add_zero] at hbegun
  refine ⟨span, ?_⟩
  simp only [calendar?, Option.bind_eq_bind, TimeUnit.truncate?_eq, hbegun, Option.bind_some,
    TimeUnit.shift?_of_start? hbegun, hspan.start]
  exact hspan.ofUnit?_start

/-- Three spans of a unit that follow one another, with the present in the middle one. -/
structure Tiles (unit : TimeUnit) (now : DateTime) (last current next : Span) : Prop where
  present : current.contains now = true
  before : last.stop = current.start
  behind : current.stop = next.start
  starts : ∀ span ∈ [last, current, next], unit.truncate? span.start = some span.start
  apart : ∀ instant, [last, current, next].countP (fun span => span.contains instant) ≤ 1

theorem tiles_of_covers {last current next : Span}
    (hlast : last.Covers unit (unit.numberOf now - 1))
    (hcurrent : current.Covers unit (unit.numberOf now))
    (hnext : next.Covers unit (unit.numberOf now + 1)) : Tiles unit now last current next where
  present := hcurrent.contains_iff.mpr rfl
  before := by
    have hstop := hlast.stop
    rw [Int.sub_add_cancel, hcurrent.start] at hstop
    exact (Option.some.inj hstop).symm
  behind := Option.some.inj (hcurrent.stop.symm.trans hnext.start)
  starts := by
    simp only [List.forall_mem_cons, List.not_mem_nil, false_imp_iff, implies_true, and_true]
    exact ⟨hlast.truncate?_start, hcurrent.truncate?_start, hnext.truncate?_start⟩
  apart := by
    intro instant
    simp only [List.countP_cons, List.countP_nil, hlast.contains_iff, hcurrent.contains_iff,
      hnext.contains_iff]
    split <;> split <;> split <;> omega

/-- A word of which the letter `s` of the plural is taken away. -/
private theorem isWord_of_stem {stem : String} (hstem : IsWord stem)
    (h : String.ofList (if word.toList.getLast? == some 's' then word.toList.dropLast
      else word.toList) = stem) : IsWord word := by
  obtain ⟨hne, hletters⟩ := hstem
  rw [← h, String.toList_ofList] at hne hletters
  split at hne
  case isFalse hend =>
    rw [if_neg hend] at hletters
    exact ⟨hne, hletters⟩
  case isTrue hend =>
    rw [if_pos hend] at hletters
    obtain ⟨front, hfront⟩ := List.getLast?_eq_some_iff.mp (eq_of_beq hend)
    rw [hfront, List.dropLast_concat] at hletters
    refine ⟨hfront ▸ List.append_ne_nil_of_right_ne_nil _ (List.cons_ne_nil _ _), ?_⟩
    rw [hfront, List.all_append, hletters]
    rfl

/-- The words of units are written in small letters. -/
theorem isWord_of_ofWord? (h : TimeUnit.ofWord? word = some unit) : IsWord word := by
  simp only [TimeUnit.ofWord?] at h
  split at h
  case h_10 => cases h
  all_goals
    rename_i hstem
    exact isWord_of_stem ⟨by decide, by decide⟩ hstem

/-- The words before a unit, with the distance of the unit they lead to. -/
def leadWords : List (String × Int) := [("last", -1), ("this", 0), ("next", 1)]

/-- The words for days. -/
def dayWords : List (String × Int) := [("yesterday", -1), ("today", 0), ("tomorrow", 1)]

theorem read?_lead {lead : String} (hlead : (lead, offset) ∈ leadWords)
    (hword : TimeUnit.ofWord? word = some unit) {raw : String}
    (hraw : Phrase [lead, word] raw.toList) (culture : Culture) (now : DateTime) :
    read? culture now raw = calendar? now unit offset := by
  have hunit := List.forall_mem_singleton.mpr (isWord_of_ofWord? hword)
  simp only [leadWords, List.mem_cons, Prod.mk.injEq, List.not_mem_nil, or_false] at hlead
  rcases hlead with ⟨rfl, rfl⟩ | ⟨rfl, rfl⟩ | ⟨rfl, rfl⟩
  all_goals
    rw [hraw.read?_eq ⟨by decide, by decide⟩ (by decide) hunit]
    simp [ofWords?, named?, hword]

theorem read?_day {day : String} (hday : (day, offset) ∈ dayWords) {raw : String}
    (hraw : Phrase [day] raw.toList) (culture : Culture) (now : DateTime) :
    read? culture now raw = calendar? now .day offset := by
  simp only [dayWords, List.mem_cons, Prod.mk.injEq, List.not_mem_nil, or_false] at hday
  rcases hday with ⟨rfl, rfl⟩ | ⟨rfl, rfl⟩ | ⟨rfl, rfl⟩
  all_goals
    rw [hraw.read?_eq ⟨by decide, by decide⟩ (by decide) (List.forall_mem_nil _)]
    rfl

/-- For every present, a leap second included, the spans of a unit that the words `last`, `this` and
    `next` name lie end to end with the present in the middle one. Each of them starts at the start
    of a unit, no instant lies in two of them, and the words for days name the spans of days. They
    all exist in all but the outermost years of the calendar. -/
theorem calendar_words_tile (hword : TimeUnit.ofWord? word = some unit)
    {lastText thisText nextText : String} (hlast : Phrase ["last", word] lastText.toList)
    (hthis : Phrase ["this", word] thisText.toList) (hnext : Phrase ["next", word] nextText.toList)
    (culture : Culture) (now : DateTime) :
    (∀ last current next, read? culture now lastText = some last →
      read? culture now thisText = some current → read? culture now nextText = some next →
      Tiles unit now last current next) ∧
    (unit = .day → ∀ yesterday today tomorrow : String, Phrase ["yesterday"] yesterday.toList →
      Phrase ["today"] today.toList → Phrase ["tomorrow"] tomorrow.toList →
      read? culture now yesterday = read? culture now lastText ∧
      read? culture now today = read? culture now thisText ∧
      read? culture now tomorrow = read? culture now nextText) ∧
    (-262142 ≤ now.date.year → now.date.year ≤ 262140 → ∃ last current next,
      read? culture now lastText = some last ∧ read? culture now thisText = some current ∧
      read? culture now nextText = some next) := by
  have hlastRead := read?_lead (show ("last", -1) ∈ leadWords by decide) hword hlast culture now
  have hthisRead := read?_lead (show ("this", 0) ∈ leadWords by decide) hword hthis culture now
  have hnextRead := read?_lead (show ("next", 1) ∈ leadWords by decide) hword hnext culture now
  rw [hlastRead, hthisRead, hnextRead]
  refine ⟨fun last current next hlast hcurrent hnext => ?_, ?_, fun hlow hhigh => ?_⟩
  · have hcovers := covers_of_calendar? hcurrent
    rw [Int.add_zero] at hcovers
    exact tiles_of_covers (covers_of_calendar? hlast) hcovers (covers_of_calendar? hnext)
  · rintro rfl yesterday today tomorrow hyesterday htoday htomorrow
    exact ⟨read?_day (by decide) hyesterday culture now, read?_day (by decide) htoday culture now,
      read?_day (by decide) htomorrow culture now⟩
  · obtain ⟨last, hlast⟩ := exists_calendar? unit (-1) (by decide) (by decide) hlow hhigh
    obtain ⟨current, hcurrent⟩ := exists_calendar? unit 0 (by decide) (by decide) hlow hhigh
    obtain ⟨next, hnext⟩ := exists_calendar? unit 1 (by decide) (by decide) hlow hhigh
    exact ⟨last, current, next, hlast, hcurrent, hnext⟩

/-- Within the leap second at the end of the year 2016. -/
def leapSecond : DateTime where
  date := ⟨daysBeforeYear 2017 - 1, by decide⟩
  time := ⟨86399, 1500000000, by decide, by decide, by decide⟩

/-- The span of a day within the calendar. -/
def ofDayNumber (day : Int) (h : firstDay ≤ day ∧ day < lastDay) : Span where
  start := ⟨⟨day, h.1, Int.le_of_lt h.2⟩, TimeOfDay.midnight⟩
  stop := ⟨⟨day + 1, Int.le_add_one h.1, h.2⟩, TimeOfDay.midnight⟩

/-- A leap second belongs to the day that it ends, and the days around that one meet it. -/
theorem calendar_words_tile_leapSecond : TimeUnit.ofWord? "day" = some .day ∧
    Phrase ["last", "day"] "LAST day".toList ∧ Phrase ["this", "day"] "this-day".toList ∧
    Phrase ["next", "day"] "Next_-Day".toList ∧
    Tiles .day leapSecond (ofDayNumber (daysBeforeYear 2017 - 2) (by decide))
      (ofDayNumber (daysBeforeYear 2017 - 1) (by decide))
      (ofDayNumber (daysBeforeYear 2017) (by decide)) ∧
    read? Culture.invariant leapSecond "Today" =
      some (ofDayNumber (daysBeforeYear 2017 - 1) (by decide)) := by
  have hword : TimeUnit.ofWord? "day" = some .day := by decide
  have hlast : Phrase ["last", "day"] ("LAST".toList ++ (" ".toList ++ "day".toList)) :=
    .join (by decide) (by decide) (by decide) (.word (by decide))
  have hthis : Phrase ["this", "day"] ("this".toList ++ ("-".toList ++ "day".toList)) :=
    .join (by decide) (by decide) (by decide) (.word (by decide))
  have hnext : Phrase ["next", "day"] ("Next".toList ++ ("_-".toList ++ "Day".toList)) :=
    .join (by decide) (by decide) (by decide) (.word (by decide))
  obtain ⟨htiles, hdays, -⟩ := calendar_words_tile hword
    (show Phrase _ "LAST day".toList from hlast) (show Phrase _ "this-day".toList from hthis)
    (show Phrase _ "Next_-Day".toList from hnext) Culture.invariant leapSecond
  have hcurrent : read? Culture.invariant leapSecond "this-day" =
      some (ofDayNumber (daysBeforeYear 2017 - 1) (by decide)) := by decide +kernel
  have htoday := (hdays rfl "Yesterday" "Today" "Tomorrow" (.word (by decide)) (.word (by decide))
    (.word (by decide))).2.1
  exact ⟨hword, hlast, hthis, hnext,
    htiles _ _ _ (by decide +kernel) hcurrent (by decide +kernel), htoday.trans hcurrent⟩

end EntityQuery.Span
