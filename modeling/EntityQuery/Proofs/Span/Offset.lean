import EntityQuery.Proofs.Span.Amount
import EntityQuery.Proofs.Span.Nonempty

namespace EntityQuery.Span

open Calendar
open Number (IsNatural)
open Text (DigitsFirst Digitless)

variable {unit : TimeUnit} {number word : String} {words : List String} {text : List Char} {n : Nat}
  {sign : Int} {now : DateTime}

/-- The English words for the units of the calendar, in the singular. -/
def unitNames : List (String × TimeUnit) := [
  ("second", .second), ("sec", .second), ("minute", .minute), ("min", .minute), ("hour", .hour),
  ("day", .day), ("week", .week), ("month", .month), ("year", .year)]

/-- The name of a unit, in the singular or the plural. -/
def NamesUnit (word : String) (unit : TimeUnit) : Prop :=
  ∃ name, (name, unit) ∈ unitNames ∧ (word = name ∨ word = name ++ "s")

theorem NamesUnit.ofWord?_eq (h : NamesUnit word unit) : TimeUnit.ofWord? word = some unit := by
  have hnames : ∀ entry ∈ unitNames, TimeUnit.ofWord? entry.1 = some entry.2 ∧
      TimeUnit.ofWord? (entry.1 ++ "s") = some entry.2 := by decide +kernel
  obtain ⟨name, hname, rfl | rfl⟩ := h
  · exact (hnames _ hname).1
  · exact (hnames _ hname).2

/-- A word of small letters. -/
structure IsLetterWord (word : String) : Prop extends IsWord word where
  digitless : Digitless word.toList

theorem NamesUnit.isLetterWord (h : NamesUnit word unit) : IsLetterWord word := by
  refine ⟨isWord_of_ofWord? h.ofWord?_eq, ?_⟩
  have hnames : ∀ entry ∈ unitNames, Digitless entry.1.toList := by decide
  obtain ⟨name, hname, rfl | rfl⟩ := h
  · exact hnames _ hname
  · rw [String.toList_append]
    exact List.forall_mem_append.mpr ⟨hnames _ hname, (by decide : Digitless "s".toList)⟩

/-- A number in digits is a word of its own. -/
theorem isWord_of_isNatural (h : IsNatural number.toList n) : IsWord number where
  ne_nil := h.ne_nil
  letters := by
    rw [List.all_eq_true]
    intro c hc
    rw [h.digits c hc, Bool.or_true]

private theorem isDigit_of_isJoint {c : Char} (hc : isJoint c = true) : c.isDigit = false := by
  rcases isJoint_iff.mp hc with (rfl | rfl) | rfl <;> rfl

theorem Phrase.digitless (h : Phrase words text) (hwords : ∀ word ∈ words, IsLetterWord word) :
    Digitless text := by
  refine h.forall_mem (fun word hword => (hwords word hword).toIsWord) ?_ ?_
  · intro word hword c hc
    rw [← Text.isDigit_toLower]
    exact (hwords word hword).digitless _ hc
  · exact fun c hc => isDigit_of_isJoint hc

/-- A phrase ends as its last word does, apart from letter case. -/
theorem Phrase.getLast?_toLower (h : Phrase words text) (hwords : ∀ word ∈ words, IsWord word) :
    ∃ last, words.getLast? = some last ∧
      text.getLast?.map Char.toLower = last.toList.getLast? := by
  induction h with
  | @word word written hsame =>
    refine ⟨word, rfl, ?_⟩
    rw [← List.getLast?_map, (hwords word List.mem_cons_self).map_toLower hsame]
  | join _ _ _ hrest ih =>
    obtain ⟨-, hothers⟩ := List.forall_mem_cons.mp hwords
    obtain ⟨last, hlast, hend⟩ := ih hothers
    have hne : _ ≠ [] := hrest.ne_nil hothers
    refine ⟨last, ?_, ?_⟩
    · rw [List.getLast?_cons, hlast]
      rfl
    · rw [List.getLast?_append_of_ne_nil _ (List.append_ne_nil_of_right_ne_nil _ hne),
        List.getLast?_append_of_ne_nil _ hne, hend]

theorem Phrase.digitsFirst (h : Phrase (number :: words) text)
    (hnumber : IsNatural number.toList n)
    (hwords : ∀ word ∈ words, IsLetterWord word) : DigitsFirst text := by
  have hdigits : ∀ {written : List Char},
      Text.sameIgnoringCase written number.toList = true → ∀ c ∈ written, c.isDigit = true := by
    intro written hsame c hc
    have hword := isWord_of_isNatural hnumber
    rw [← Text.isDigit_toLower]
    exact hnumber.digits _ (hword.toLower_mem hsame hc)
  cases h with
  | word hsame =>
    rw [← List.append_nil text]
    exact Text.digitsFirst_append (hdigits hsame) (List.forall_mem_nil _)
  | join hsame _ hjoints hrest =>
    refine Text.digitsFirst_append (hdigits hsame)
      (List.forall_mem_append.mpr ⟨fun c hc => ?_, hrest.digitless hwords⟩)
    exact isDigit_of_isJoint (List.all_eq_true.mp hjoints c hc)

/-- A number in digits with words of letters behind it is no absolute literal, unless the last of
    them ends with the letter that a time of day stands behind. -/
theorem Phrase.absolute?_eq_none_of_number (h : Phrase (number :: words) text)
    (hnumber : IsNatural number.toList n)
    (hwords : ∀ word ∈ words, IsLetterWord word) {last : String}
    (hlast : words.getLast? = some last) (hend : last.toList.getLast? ≠ some 't')
    (culture : Culture) : absolute? culture text = none := by
  have hmem := List.mem_of_getLast? hlast
  have hword := hwords last hmem
  obtain ⟨other, hother, hcases⟩ := h.getLast?_toLower (List.forall_mem_cons.mpr
    ⟨isWord_of_isNatural hnumber, fun word hmem => (hwords word hmem).toIsWord⟩)
  rw [List.getLast?_cons_of_ne_nil (List.ne_nil_of_mem hmem), hlast] at hother
  obtain rfl : last = other := Option.some.inj hother
  -- The text ends with the last letter of the word, as a small letter or a capital one.
  have hletter := List.getLast?_eq_some_getLast hword.ne_nil
  rw [hletter] at hcases hend
  obtain ⟨c, hc, hcase⟩ := Option.map_eq_some_iff.mp hcases
  have hlower := List.getLast_mem hword.ne_nil
  have hdigit : c.isDigit = false := by
    rw [← Text.isDigit_toLower, hcase]
    exact hword.digitless _ hlower
  have hblank : Text.isBlank c = false := by
    rw [← Text.isBlank_toLower, hcase]
    exact hword.isBlank_written (Text.sameIgnoringCase_refl _) hlower
  apply absolute?_eq_none_of_digitsFirst (h.digitsFirst hnumber hwords) hc hdigit hblank
  rintro rfl
  exact hend (congrArg some hcase.symm)

/-- The words that say that something is a number of units away from the present, and whether it
    lies before or after it. -/
def offsetPhrases (number word : String) : List (List String × Int) := [
  ([number, word, "ago"], -1), (["in", number, word], 1), ([number, word, "from", "now"], 1)]

theorem offset?_eq (hnumber : IsNatural number.toList n)
    (hword : NamesUnit word unit) (sign : Int) : offset? now [number, word] sign =
      (checked n).bind fun n => (unit.shift? now (sign * n)).bind (ofUnit? .second) := by
  simp only [offset?, List.getLast?_cons_cons, List.getLast?_singleton, List.dropLast_cons_cons,
    List.dropLast_singleton, amount?_digits hnumber, hword.ofWord?_eq, Option.bind_eq_bind,
    Option.bind_some]

theorem ofWords?_offset (hwords : (words, sign) ∈ offsetPhrases number word)
    (hnumber : IsNatural number.toList n) :
    ofWords? now words = offset? now [number, word] sign := by
  have hin := ne_of_isNatural hnumber (show Text.isDigits "in".toList = false by decide)
  simp only [offsetPhrases, List.mem_cons, Prod.mk.injEq, List.not_mem_nil, or_false] at hwords
  rcases hwords with ⟨rfl, rfl⟩ | ⟨rfl, rfl⟩ | ⟨rfl, rfl⟩
  · simp [ofWords?, hin]
  · simp [ofWords?]
  · simp [ofWords?, hin]

/-- Such phrases consist of words of letters and digits, and are no absolute literals. -/
theorem absolute?_offset (hwords : (words, sign) ∈ offsetPhrases number word)
    (hnumber : IsNatural number.toList n) (hword : NamesUnit word unit)
    (h : Phrase words text) (culture : Culture) :
    (∀ word ∈ words, IsWord word) ∧ absolute? culture text = none := by
  have hfirst := isWord_of_isNatural hnumber
  have hunit := hword.isLetterWord
  have hbehind : ∀ {others : List String} {last : String}, Phrase (number :: others) text →
      (∀ other ∈ others, IsLetterWord other) → others.getLast? = some last →
      last.toList.getLast? ≠ some 't' →
      (∀ word ∈ number :: others, IsWord word) ∧ absolute? culture text = none := by
    intro others last h hothers hlast hend
    exact ⟨List.forall_mem_cons.mpr ⟨hfirst, fun word hmem => (hothers word hmem).toIsWord⟩,
      h.absolute?_eq_none_of_number hnumber hothers hlast hend culture⟩
  simp only [offsetPhrases, List.mem_cons, Prod.mk.injEq, List.not_mem_nil, or_false] at hwords
  rcases hwords with ⟨rfl, rfl⟩ | ⟨rfl, rfl⟩ | ⟨rfl, rfl⟩
  · refine hbehind h ?_ (show _ = some "ago" from rfl) (by decide)
    rw [List.forall_mem_cons, List.forall_mem_singleton]
    exact ⟨hunit, ⟨by decide, by decide⟩, by decide⟩
  · have hin : IsWord "in" := ⟨by decide, by decide⟩
    refine ⟨?_, h.absolute?_eq_none hin (by decide) culture⟩
    rw [List.forall_mem_cons, List.forall_mem_cons, List.forall_mem_singleton]
    exact ⟨hin, hfirst, hunit.toIsWord⟩
  · refine hbehind h ?_ (show _ = some "now" from rfl) (by decide)
    rw [List.forall_mem_cons, List.forall_mem_cons, List.forall_mem_singleton]
    exact ⟨hunit, ⟨⟨by decide, by decide⟩, by decide⟩, ⟨by decide, by decide⟩, by decide⟩

/-- For every culture and every clock, a number in digits, a unit in the singular or the plural and
    the words for a direction name the second that starts that many units before or after the
    present, however the words are joined and whatever their letter case. There is no such span just
    if the number does not fit in 64 bits with a sign or the calendar does not reach the start or
    the end of the second, and the phrase is never taken for an absolute literal. -/
theorem offset_phrase_names_second (hnumber : IsNatural number.toList n)
    (hword : NamesUnit word unit) (hwords : (words, sign) ∈ offsetPhrases number word)
    {raw : String} (hraw : Phrase words raw.toList) (culture : Culture) (now : DateTime) :
    absolute? culture raw.toList = none ∧
    (∀ span, read? culture now raw = some span ↔ n < 0x8000000000000000 ∧
      unit.shift? now (sign * n) = some span.start ∧
      TimeUnit.second.shift? span.start 1 = some span.stop) ∧
    (read? culture now raw = none ↔ 0x8000000000000000 ≤ n ∨ unit.shift? now (sign * n) = none ∨
      ∃ start, unit.shift? now (sign * n) = some start ∧
        TimeUnit.second.shift? start 1 = none) := by
  obtain ⟨hall, habsolute⟩ := absolute?_offset hwords hnumber hword hraw culture
  have hread : read? culture now raw =
      (checked n).bind fun n => (unit.shift? now (sign * n)).bind (ofUnit? .second) := by
    rw [hraw.read?_of_absolute? hall habsolute, ofWords?_offset hwords hnumber,
      offset?_eq hnumber hword]
  refine ⟨habsolute, fun span => ?_, ?_⟩
  · simp only [hread, Option.bind_eq_some_iff, checked_eq_some_iff, ofUnit?_eq_some_iff]
    constructor
    · rintro ⟨_, ⟨hn, rfl⟩, start, hstart, rfl, hstop⟩
      exact ⟨hn, hstart, hstop⟩
    · rintro ⟨hn, hstart, hstop⟩
      exact ⟨n, ⟨hn, rfl⟩, span.start, hstart, rfl, hstop⟩
  · rw [hread]
    by_cases hn : n < 0x8000000000000000
    · rw [checked_eq_some_iff.mpr ⟨hn, rfl⟩, Option.bind_some, or_iff_right (Nat.not_le.mpr hn)]
      cases unit.shift? now (sign * n) with
      | none => simp
      | some start => simp [ofUnit?]
    · have hchecked : checked n = none :=
        Option.eq_none_iff_forall_ne_some.mpr fun _ h => hn (checked_eq_some_iff.mp h).1
      rw [hchecked]
      exact iff_of_true rfl (.inl (Nat.not_lt.mp hn))

/-- The second at some time of the last day but one of the year 2016, in the middle of it. -/
def ofDayBefore (second : Nat) : DateTime where
  date := ⟨daysBeforeYear 2017 - 2, by decide⟩
  time := .ofSecond second 500000000

/-- A phrase that starts like a year and in which the letter stands that separates a time of day. -/
theorem offset_phrase_names_second_leapSecond :
    IsNatural "2017".toList 2017 ∧ NamesUnit "minutes" .minute ∧
    (["2017", "minutes", "ago"], -1) ∈ offsetPhrases "2017" "minutes" ∧
    Phrase ["2017", "minutes", "ago"] "2017-MINUTES_ ago".toList ∧
    absolute? Culture.invariant "2017-MINUTES_ ago".toList = none ∧
    read? Culture.invariant leapSecond "2017-MINUTES_ ago" =
      some ⟨ofDayBefore 51780, ofDayBefore 51781⟩ := by
  have hnumber : IsNatural "2017".toList 2017 := by decide
  have hword : NamesUnit "minutes" .minute := ⟨"minute", by decide, .inr rfl⟩
  have hwords : (["2017", "minutes", "ago"], (-1 : Int)) ∈ offsetPhrases "2017" "minutes" :=
    List.mem_cons_self
  have hraw : Phrase ["2017", "minutes", "ago"]
      ("2017".toList ++ ("-".toList ++ ("MINUTES".toList ++ ("_ ".toList ++ "ago".toList)))) :=
    .join (by decide) (by decide) (by decide)
      (.join (by decide) (by decide) (by decide) (.word (by decide)))
  obtain ⟨habsolute, hspan, -⟩ := offset_phrase_names_second hnumber hword hwords
    (show Phrase _ "2017-MINUTES_ ago".toList from hraw) Culture.invariant leapSecond
  exact ⟨hnumber, hword, hwords, hraw, habsolute,
    (hspan ⟨ofDayBefore 51780, ofDayBefore 51781⟩).mpr ⟨by decide, by decide, by decide⟩⟩

end EntityQuery.Span
