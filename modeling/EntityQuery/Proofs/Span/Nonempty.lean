import EntityQuery.Proofs.Calendar.Shift
import EntityQuery.Proofs.Span.Calendar

namespace EntityQuery.Span

open Calendar

variable {culture : Culture} {now start : DateTime} {unit : TimeUnit} {span : Span}
  {text : List Char} {word : String} {words : List String} {offset sign : Int}

theorem ofUnit?_eq_some_iff :
    ofUnit? unit start = some span ↔ span.start = start ∧ unit.shift? start 1 = some span.stop := by
  rw [ofUnit?, Option.map_eq_some_iff]
  constructor
  · rintro ⟨stop, hstop, rfl⟩
    exact ⟨rfl, hstop⟩
  · rintro ⟨rfl, hstop⟩
    exact ⟨span.stop, hstop, rfl⟩

/-- A span that goes on for one unit of the calendar. -/
def LastsUnit (span : Span) : Prop :=
  ∃ unit : TimeUnit, unit.shift? span.start 1 = some span.stop

theorem lastsUnit_of_ofUnit? (h : ofUnit? unit start = some span) : span.LastsUnit := by
  obtain ⟨rfl, hstop⟩ := ofUnit?_eq_some_iff.mp h
  exact ⟨unit, hstop⟩

namespace LastsUnit

theorem compare_eq_lt (h : span.LastsUnit) : compare span.start span.stop = .lt := by
  obtain ⟨unit, hstop⟩ := h
  exact DateTime.compare_of_seconds_lt (TimeUnit.seconds_lt_of_shift? (by decide) hstop)

theorem contains_start (h : span.LastsUnit) : span.contains span.start = true := by
  have hself : compare span.start span.start = .eq := DateTime.compare_self span.start
  rw [contains, hself, h.compare_eq_lt]
  rfl

end LastsUnit

theorem lastsUnit_of_absolute? (h : absolute? culture text = some span) : span.LastsUnit := by
  unfold absolute? at h
  split at h
  case h_1 => exact lastsUnit_of_ofUnit? h
  case h_2 =>
    obtain ⟨⟨date, unit⟩, -, h⟩ := Option.bind_eq_some_iff.mp h
    dsimp only at h
    split at h
    case isTrue => exact lastsUnit_of_ofUnit? h
    case isFalse =>
      split at h
      case isTrue =>
        obtain ⟨⟨time, unit⟩, -, hspan⟩ := Option.bind_eq_some_iff.mp h
        exact lastsUnit_of_ofUnit? hspan
      case isFalse => cases h

theorem lastsUnit_of_calendar? (h : calendar? now unit offset = some span) : span.LastsUnit := by
  obtain ⟨first, -, h⟩ := Option.bind_eq_some_iff.mp h
  obtain ⟨start, -, hspan⟩ := Option.bind_eq_some_iff.mp h
  exact lastsUnit_of_ofUnit? hspan

theorem lastsUnit_of_named? (h : named? now word offset = some span) : span.LastsUnit := by
  obtain ⟨unit, -, hspan⟩ := Option.bind_eq_some_iff.mp h
  exact lastsUnit_of_calendar? hspan

theorem lastsUnit_of_offset? (h : offset? now words sign = some span) : span.LastsUnit := by
  obtain ⟨last, -, h⟩ := Option.bind_eq_some_iff.mp h
  obtain ⟨unit, -, h⟩ := Option.bind_eq_some_iff.mp h
  obtain ⟨amount, -, h⟩ := Option.bind_eq_some_iff.mp h
  obtain ⟨start, -, hspan⟩ := Option.bind_eq_some_iff.mp h
  exact lastsUnit_of_ofUnit? hspan

theorem lastsUnit_of_ofWords? (h : ofWords? now words = some span) : span.LastsUnit := by
  unfold ofWords? at h
  split at h
  case h_1 => exact lastsUnit_of_ofUnit? h
  case h_2 | h_3 | h_4 => exact lastsUnit_of_calendar? h
  case h_5 | h_6 | h_7 => exact lastsUnit_of_named? h
  case h_8 => exact lastsUnit_of_offset? h
  case h_9 =>
    split at h
    case h_1 | h_2 => exact lastsUnit_of_offset? h
    case h_3 => cases h

theorem lastsUnit_of_read? {raw : String} (h : read? culture now raw = some span) :
    span.LastsUnit := by
  simp only [read?, Option.ite_none_left_eq_some] at h
  cases habsolute : absolute? culture (Text.trim raw.toList) with
  | some named =>
    rw [habsolute] at h
    exact lastsUnit_of_absolute? (habsolute.trans h.2)
  | none =>
    rw [habsolute] at h
    exact lastsUnit_of_ofWords? h.2

/-- For every culture and every clock, leap seconds included, a literal that names a span names one
    that ends later than it starts, and so contains its start. -/
theorem literal_span_nonempty {raw : String} (h : read? culture now raw = some span) :
    compare span.start span.stop = .lt ∧ span.contains span.start = true :=
  ⟨(lastsUnit_of_read? h).compare_eq_lt, (lastsUnit_of_read? h).contains_start⟩

/-- From within a leap second, the second that starts now ends within the first one of the year. -/
theorem literal_span_nonempty_leapSecond : ∃ span,
    read? Culture.invariant leapSecond "0 seconds ago" = some span ∧ span.start = leapSecond ∧
      compare leapSecond span.stop = .lt ∧ span.contains leapSecond = true := by
  have hspan : read? Culture.invariant leapSecond "0 seconds ago" =
      some ⟨leapSecond, ⟨daysBeforeYear 2017, by decide⟩, .ofSecond 0 500000000⟩ := by
    decide +kernel
  obtain ⟨hlater, hstart⟩ := literal_span_nonempty hspan
  exact ⟨_, hspan, rfl, hlater, hstart⟩

end EntityQuery.Span
