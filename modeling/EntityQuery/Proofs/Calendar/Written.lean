import EntityQuery.Proofs.Calendar.TimeUnit
import EntityQuery.Proofs.Text
import Mathlib.Algebra.Order.Group.Nat

namespace EntityQuery.Calendar

open DateTime (padded yearText dateText timeText)

variable {width n : Nat} {mark : Char} {text other : List Char}

theorem length_padded (hwidth : 0 < width) (hn : n < 10 ^ width) :
    (padded width n).length = width := by
  have hdigits := (Nat.length_toDigits_le_iff (by decide) hwidth).mpr hn
  simp only [padded, List.length_append, List.length_replicate]
  omega

theorem isDigit_of_mem_padded {c : Char} (hc : c ∈ padded width n) : c.isDigit = true := by
  rcases List.mem_append.mp hc with hzero | hdigit
  · rw [List.eq_of_mem_replicate hzero]
    rfl
  · exact Nat.isDigit_of_mem_toDigits (by decide) (by decide) hdigit

theorem padded_ne_nil (width n : Nat) : padded width n ≠ [] :=
  List.append_ne_nil_of_right_ne_nil _ Nat.toDigits_ne_nil

theorem isDigits_padded (width n : Nat) : Text.isDigits (padded width n) = true := by
  rw [Text.isDigits, List.isEmpty_eq_false_iff.mpr (padded_ne_nil width n)]
  exact List.all_eq_true.mpr fun _ => isDigit_of_mem_padded

/-- The zeros in front of a number do not change it. -/
theorem ofDigitChars_padded (width n : Nat) : Nat.ofDigitChars 10 (padded width n) 0 = n := by
  rw [padded, Nat.ofDigitChars_append, Nat.ofDigitChars_replicate_zero, Nat.mul_zero,
    Nat.ofDigitChars_ten_toDigits]

theorem readDigits_padded (width n : Nat) : Number.readDigits (padded width n) = some n := by
  rw [Number.readDigits, if_pos (isDigits_padded width n), ofDigitChars_padded]

theorem readNatural_padded (width n : Nat) : Number.readNatural (padded width n) = some n := by
  have hdigits := readDigits_padded width n
  unfold Number.readNatural
  split
  case h_1 heq =>
    have hplus : '+' ∈ padded width n := heq ▸ List.mem_cons_self
    exact absurd (isDigit_of_mem_padded hplus) (by decide)
  case h_2 => exact hdigits

/-- A text of digits and of a mark that stands between them. -/
structure Marked (mark : Char) (text : List Char) : Prop where
  ne_nil : text ≠ []
  isDigit_or_eq : ∀ c ∈ text, c.isDigit = true ∨ c = mark

theorem marked_padded (mark : Char) (width n : Nat) : Marked mark (padded width n) :=
  ⟨padded_ne_nil width n, fun _ hc => .inl (isDigit_of_mem_padded hc)⟩

theorem Marked.append (h : Marked mark text) (hother : Marked mark other) :
    Marked mark (text ++ mark :: other) where
  ne_nil := List.append_ne_nil_of_left_ne_nil h.ne_nil _
  isDigit_or_eq := List.forall_mem_append.mpr ⟨h.isDigit_or_eq,
    List.forall_mem_cons.mpr ⟨.inr rfl, hother.isDigit_or_eq⟩⟩

theorem Marked.isBlank_eq_false (h : Marked mark text) (hmark : Text.isBlank mark = false) :
    ∀ c ∈ text, Text.isBlank c = false := by
  intro c hc
  rcases h.isDigit_or_eq c hc with hdigit | rfl
  · exact Text.isBlank_of_isDigit hdigit
  · exact hmark

theorem Marked.trim_eq_self (h : Marked mark text) (hmark : Text.isBlank mark = false) :
    Text.trim text = text :=
  Text.trim_eq_self_of_ends
    (fun c hc => h.isBlank_eq_false hmark c (List.mem_of_mem_head? hc))
    (fun c hc => h.isBlank_eq_false hmark c (List.mem_of_mem_getLast? hc))

/-- White space between two texts is not trimmed. -/
theorem Marked.trim_append (h : Marked mark text) (hmark : Text.isBlank mark = false)
    {mark' : Char} (hother : Marked mark' other) (hmark' : Text.isBlank mark' = false)
    (separator : Char) :
    Text.trim (text ++ separator :: other) = text ++ separator :: other := by
  refine Text.trim_eq_self_of_ends (fun c hc => ?_) (fun c hc => ?_)
  · rw [List.head?_append_of_ne_nil _ h.ne_nil] at hc
    exact h.isBlank_eq_false hmark c (List.mem_of_mem_head? hc)
  · rw [List.getLast?_append_of_ne_nil _ (List.cons_ne_nil _ _),
      List.getLast?_cons_of_ne_nil hother.ne_nil] at hc
    exact hother.isBlank_eq_false hmark' c (List.mem_of_mem_getLast? hc)

/-- A number of two digits is a field of a time. -/
theorem TimeOfDay.readField_padded (hn : n < 100) (rest : List Char) :
    TimeOfDay.readField (padded 2 n ++ rest) = some (n, rest) := by
  have hlength := length_padded (show 0 < 2 by decide) (show n < 10 ^ 2 from hn)
  obtain ⟨a, b, hdigits⟩ := List.length_eq_two.mp hlength
  have hvalue := ofDigitChars_padded 2 n
  have hdigit : ∀ c ∈ padded 2 n, c.isDigit = true := fun _ => isDigit_of_mem_padded
  rw [hdigits] at hvalue hdigit ⊢
  have ha := hdigit a List.mem_cons_self
  have hb := hdigit b (List.mem_cons_of_mem a List.mem_cons_self)
  have hstart : Text.trimStart (a :: b :: rest) = a :: b :: rest :=
    List.dropWhile_cons_of_neg (by simp [Text.isBlank_of_isDigit ha])
  rw [List.cons_append, List.cons_append, List.nil_append, TimeOfDay.readField, hstart]
  simp only [ha, hb, hvalue, Bool.not_true, Bool.false_eq_true, if_false, if_true]

theorem TimeOfDay.read?_clock {hour minute second : Nat} (hhour : hour < 100)
    (hminute : minute < 100) (hsecond : second < 100) :
    TimeOfDay.read? (padded 2 hour ++ ':' :: padded 2 minute ++ ':' :: padded 2 second) =
      TimeOfDay.ofFields? hour minute second 0 := by
  have hend := readField_padded hsecond []
  rw [List.append_nil] at hend
  rw [List.append_assoc, List.cons_append, TimeOfDay.read?, readField_padded hhour]
  simp only [Option.bind_eq_bind, Option.bind_some, readField_padded hminute, hend]
  rfl

theorem TimeOfDay.ofFields?_eq_ofSecond {hour minute second : Nat} (hhour : hour < 24)
    (hminute : minute < 60) (hsecond : second < 60) : TimeOfDay.ofFields? hour minute second 0 =
      some (TimeOfDay.ofSecond (3600 * hour + 60 * minute + second) 0) := by
  rw [TimeOfDay.ofFields?, dif_pos ⟨hhour, hminute, by decide⟩, dif_pos hsecond]
  refine congrArg some (TimeOfDay.eq_of_fields ?_ rfl)
  change 3600 * hour + 60 * minute + second = (3600 * hour + 60 * minute + second) % 86400
  omega

/-- A date in full years, months or days. -/
def Date.writtenTo? (date : Date) : TimeUnit → Option (List Char)
  | .year => some (yearText date.year)
  | .month => some (yearText date.year ++ '-' :: padded 2 date.month)
  | .day => some (dateText date)
  | _ => none

/-- A time of day in full hours, minutes or seconds. -/
def TimeOfDay.writtenTo? (time : TimeOfDay) : TimeUnit → Option (List Char)
  | .hour => some (padded 2 time.hour)
  | .minute => some (padded 2 time.hour ++ ':' :: padded 2 time.minute)
  | .second => some (padded 2 time.hour ++ ':' :: padded 2 time.minute ++
      ':' :: padded 2 (time.second % 60 + time.nano / 1000000000))
  | _ => none

/-- An instant written down to a unit. Weeks have no written form. -/
def DateTime.writtenTo? (separator : Char) (unit : TimeUnit) (instant : DateTime) :
    Option (List Char) :=
  instant.date.writtenTo? unit <|>
    (instant.time.writtenTo? unit).map fun clock => dateText instant.date ++ separator :: clock

theorem DateTime.exists_writtenTo? (separator : Char) {unit : TimeUnit} (hunit : unit ≠ .week)
    (instant : DateTime) : ∃ text, instant.writtenTo? separator unit = some text := by
  cases unit with
  | week => exact absurd rfl hunit
  | _ => exact ⟨_, rfl⟩

theorem yearText_of_range {year : Int} (hlow : 0 ≤ year) (hhigh : year ≤ 9999) :
    yearText year = padded 4 year.natAbs := by
  rw [yearText, if_neg (Int.not_lt.mpr hlow), if_neg (Int.not_lt.mpr hhigh)]

/-- The written form of a date has no more than ten digits and hyphens. -/
theorem Date.marked_written {date : Date} {unit : TimeUnit} (h : date.writtenTo? unit = some text)
    (hlow : 0 ≤ date.year) (hhigh : date.year ≤ 9999) : Marked '-' text ∧ text.length ≤ 10 := by
  have hyear := yearText_of_range hlow hhigh
  have hmonth := date.month_le
  have hday := date.dayOfMonth_le
  have hlength := length_padded (show 0 < 4 by decide) (show date.year.natAbs < 10 ^ 4 by omega)
  have hlength' := length_padded (show 0 < 2 by decide) (show date.month < 10 ^ 2 by omega)
  have hlength'' := length_padded (show 0 < 2 by decide) (show date.dayOfMonth < 10 ^ 2 by omega)
  have hfour := marked_padded '-' 4 date.year.natAbs
  have htwo := marked_padded '-' 2
  cases unit <;> cases h
  case year =>
    rw [hyear]
    exact ⟨hfour, by omega⟩
  case month =>
    rw [hyear]
    refine ⟨hfour.append (htwo _), ?_⟩
    simp only [List.length_append, List.length_cons]
    omega
  case day =>
    rw [dateText, hyear]
    refine ⟨(hfour.append (htwo _)).append (htwo _), ?_⟩
    simp only [List.length_append, List.length_cons]
    omega

/-- The written form of a time of day has no more than eight digits and colons. -/
theorem TimeOfDay.marked_written {time : TimeOfDay} {unit : TimeUnit}
    (h : time.writtenTo? unit = some text) : Marked ':' text ∧ text.length ≤ 8 := by
  have hsecond := time.second_lt
  have hnano := time.nano_lt
  have hlength := length_padded (show 0 < 2 by decide)
    (show time.hour < 10 ^ 2 by rw [TimeOfDay.hour]; omega)
  have hlength' := length_padded (show 0 < 2 by decide)
    (show time.minute < 10 ^ 2 by rw [TimeOfDay.minute]; omega)
  have hlength'' := length_padded (show 0 < 2 by decide)
    (show time.second % 60 + time.nano / 1000000000 < 10 ^ 2 by omega)
  have htwo := marked_padded ':' 2
  cases unit <;> cases h
  case hour => exact ⟨htwo _, by omega⟩
  case minute =>
    refine ⟨(htwo _).append (htwo _), ?_⟩
    simp only [List.length_append, List.length_cons]
    omega
  case second =>
    refine ⟨((htwo _).append (htwo _)).append (htwo _), ?_⟩
    simp only [List.length_append, List.length_cons]
    omega

/-- The written form of an instant starts with its year. -/
theorem yearText_isPrefix {separator : Char} {unit : TimeUnit} {instant : DateTime}
    (h : instant.writtenTo? separator unit = some text) : yearText instant.date.year <+: text := by
  cases unit <;> cases h <;>
    simp only [dateText, List.append_assoc, List.prefix_append, List.prefix_refl]

/-- The years of four digits are those that are written without a sign. -/
theorem startsWithDigit_iff {separator : Char} {unit : TimeUnit} {instant : DateTime}
    (h : instant.writtenTo? separator unit = some text) :
    (∀ c ∈ text.head?, c.isDigit = true) ↔ 0 ≤ instant.date.year ∧ instant.date.year ≤ 9999 := by
  obtain ⟨rest, rfl⟩ := yearText_isPrefix h
  constructor
  · intro hdigit
    rw [yearText] at hdigit
    split at hdigit
    case isTrue => exact absurd (hdigit '-' rfl) (by decide)
    case isFalse hlow =>
      split at hdigit
      case isTrue => exact absurd (hdigit '+' rfl) (by decide)
      case isFalse hhigh => exact ⟨Int.not_lt.mp hlow, Int.not_lt.mp hhigh⟩
  · rintro ⟨hlow, hhigh⟩ c hc
    rw [yearText_of_range hlow hhigh, List.head?_append_of_ne_nil _ (padded_ne_nil _ _)] at hc
    exact isDigit_of_mem_padded (List.mem_of_mem_head? hc)

/-- Outside a leap second no second is added to those of the minute. -/
theorem TimeOfDay.nano_div_eq_zero {time : TimeOfDay} (hleap : time.isLeap = false) :
    time.nano / 1000000000 = 0 := Nat.div_eq_of_lt (Nat.not_le.mp (of_decide_eq_false hleap))

/-- Instants of one unit have one written form, leap seconds apart. -/
theorem writtenTo?_eq_of_numberOf {separator : Char} {unit : TimeUnit} {a b : DateTime}
    (ha : a.time.isLeap = false) (hb : b.time.isLeap = false)
    (h : unit.numberOf a = unit.numberOf b) :
    a.writtenTo? separator unit = b.writtenTo? separator unit := by
  have hsecond := a.time.second_lt
  have hsecond' := b.time.second_lt
  have hdate : a.date.day = b.date.day → a.date = b.date := fun hday =>
    Option.some.inj (a.date.ofDay?_day.symm.trans (hday ▸ b.date.ofDay?_day))
  have hclock : a.date = b.date → a.time.writtenTo? unit = b.time.writtenTo? unit →
      a.writtenTo? separator unit = b.writtenTo? separator unit := by
    intro hsame hwritten
    rw [DateTime.writtenTo?, DateTime.writtenTo?, hsame, hwritten]
  cases unit with
  | year =>
    have hyear : a.date.year = b.date.year := h
    simp only [DateTime.writtenTo?, Date.writtenTo?, hyear]
    rfl
  | month =>
    have hindex : a.date.monthIndex = b.date.monthIndex := h
    have hmonth := And.intro a.date.one_le_month a.date.month_le
    have hmonth' := And.intro b.date.one_le_month b.date.month_le
    rw [Date.monthIndex, Date.monthIndex] at hindex
    have hyear : a.date.year = b.date.year := by omega
    have hsame : a.date.month = b.date.month := by omega
    simp only [DateTime.writtenTo?, Date.writtenTo?, hyear, hsame]
    rfl
  | week => rfl
  | day => exact hclock (hdate h) rfl
  | hour =>
    simp only [TimeUnit.numberOf, DateTime.seconds] at h
    have hhour : a.time.hour = b.time.hour := by
      simp only [TimeOfDay.hour]
      omega
    refine hclock (hdate (by omega)) ?_
    simp only [TimeOfDay.writtenTo?, hhour]
  | minute =>
    simp only [TimeUnit.numberOf, DateTime.seconds] at h
    have hhour : a.time.hour = b.time.hour := by
      simp only [TimeOfDay.hour]
      omega
    have hminute : a.time.minute = b.time.minute := by
      simp only [TimeOfDay.minute]
      omega
    refine hclock (hdate (by omega)) ?_
    simp only [TimeOfDay.writtenTo?, hhour, hminute]
  | second =>
    simp only [TimeUnit.numberOf, DateTime.seconds] at h
    have hsame : a.time.second = b.time.second := by omega
    refine hclock (hdate (by omega)) ?_
    simp only [TimeOfDay.writtenTo?, TimeOfDay.hour, TimeOfDay.minute,
      TimeOfDay.nano_div_eq_zero ha, TimeOfDay.nano_div_eq_zero hb, hsame]

end EntityQuery.Calendar
