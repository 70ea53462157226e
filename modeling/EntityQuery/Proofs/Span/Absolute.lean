import EntityQuery.Proofs.Number.Integer
import EntityQuery.Proofs.Text
import EntityQuery.Span.Literal
import Mathlib.Data.List.Pairwise

namespace EntityQuery

open Calendar

namespace Calendar.Timestamp

private theorem length_readFixed {width : Nat} {text : List Char} {read : Nat × List Char}
    (h : readFixed width text = some read) : text.length = width + read.2.length := by
  simp only [readFixed, Option.ite_none_right_eq_some, Bool.and_eq_true, beq_iff_eq,
    List.length_take, Option.some.injEq] at h
  obtain ⟨⟨hwidth, -⟩, rfl⟩ := h
  rw [List.length_drop]
  omega

private theorem isDigit_of_readFixed {width : Nat} {c : Char} {rest : List Char}
    {read : Nat × List Char} (h : readFixed (width + 1) (c :: rest) = some read) :
    c.isDigit = true := by
  simp only [readFixed, Option.ite_none_right_eq_some, Bool.and_eq_true, List.take_succ_cons,
    List.all_cons] at h
  exact h.1.2.1

private theorem length_skip {allowed text rest : List Char} (h : skip allowed text = some rest) :
    text.length = 1 + rest.length := by
  cases text with
  | nil => cases h
  | cons c others =>
    simp only [skip, Option.ite_none_right_eq_some, Option.some.injEq] at h
    rw [h.2, List.length_cons, Nat.add_comm]

private theorem length_readFraction {text : List Char} {read : Nat × List Char}
    (h : TimeOfDay.readFraction text = some read) : read.2.length ≤ text.length := by
  unfold TimeOfDay.readFraction at h
  split at h
  case h_1 rest =>
    simp only [Option.ite_none_left_eq_some, Option.some.injEq] at h
    obtain ⟨-, rfl⟩ := h
    have hrest : (rest.dropWhile Char.isDigit).length ≤ rest.length :=
      (List.dropWhile_suffix Char.isDigit).length_le
    exact Nat.le_succ_of_le hrest
  case h_2 =>
    cases h
    exact Nat.le_refl _

private theorem ne_nil_of_readOffset {text : List Char} {read : Int × List Char}
    (h : readOffset text = some read) : text ≠ [] := by
  rintro rfl
  cases h

/-- A timestamp starts with a digit and has at least twenty characters. -/
theorem read?_eq_some {text : List Char} {instant : DateTime} (h : read? text = some instant) :
    20 ≤ text.length ∧ ∀ c ∈ text.head?, c.isDigit = true := by
  unfold read? at h
  obtain ⟨year, hyear, h⟩ := Option.bind_eq_some_iff.mp h
  obtain ⟨_, hskip₁, h⟩ := Option.bind_eq_some_iff.mp h
  obtain ⟨month, hmonth, h⟩ := Option.bind_eq_some_iff.mp h
  obtain ⟨_, hskip₂, h⟩ := Option.bind_eq_some_iff.mp h
  obtain ⟨day, hday, h⟩ := Option.bind_eq_some_iff.mp h
  obtain ⟨_, hskip₃, h⟩ := Option.bind_eq_some_iff.mp h
  obtain ⟨hour, hhour, h⟩ := Option.bind_eq_some_iff.mp h
  obtain ⟨_, hskip₄, h⟩ := Option.bind_eq_some_iff.mp h
  obtain ⟨minute, hminute, h⟩ := Option.bind_eq_some_iff.mp h
  obtain ⟨_, hskip₅, h⟩ := Option.bind_eq_some_iff.mp h
  obtain ⟨second, hsecond, h⟩ := Option.bind_eq_some_iff.mp h
  obtain ⟨fraction, hfraction, h⟩ := Option.bind_eq_some_iff.mp h
  obtain ⟨offset, hoffset, -⟩ := Option.bind_eq_some_iff.mp h
  constructor
  · have hdate := And.intro (length_readFixed hyear)
      (And.intro (length_readFixed hmonth) (length_readFixed hday))
    have htime := And.intro (length_readFixed hhour)
      (And.intro (length_readFixed hminute) (length_readFixed hsecond))
    have hmarks := And.intro (length_skip hskip₁) (And.intro (length_skip hskip₂)
      (And.intro (length_skip hskip₃) (And.intro (length_skip hskip₄) (length_skip hskip₅))))
    have hrest := List.length_pos_iff.mpr (ne_nil_of_readOffset hoffset)
    have hfraction := length_readFraction hfraction
    omega
  · rintro c hc
    obtain ⟨rest, rfl⟩ := List.head?_eq_some_iff.mp hc
    exact isDigit_of_readFixed hyear

/-- In a timestamp a digit stands behind a hyphen. -/
theorem exists_hyphen_of_read? {text : List Char} {instant : DateTime}
    (h : read? text = some instant) :
    ∃ year digit rest, text = year ++ '-' :: digit :: rest ∧ digit.isDigit = true := by
  unfold read? at h
  obtain ⟨⟨year, behind⟩, hyear, h⟩ := Option.bind_eq_some_iff.mp h
  obtain ⟨others, hskip, h⟩ := Option.bind_eq_some_iff.mp h
  obtain ⟨month, hmonth, -⟩ := Option.bind_eq_some_iff.mp h
  simp only [readFixed, Option.ite_none_right_eq_some, Option.some.injEq, Prod.mk.injEq] at hyear
  obtain ⟨-, -, rfl⟩ := hyear
  cases hbehind : text.drop 4 with
  | nil =>
    rw [hbehind] at hskip
    cases hskip
  | cons mark rest =>
    simp only [hbehind, skip, Option.ite_none_right_eq_some, Option.some.injEq,
      List.contains_cons, List.contains_nil, Bool.or_false, beq_iff_eq] at hskip
    obtain ⟨rfl, rfl⟩ := hskip
    cases rest with
    | nil => cases hmonth
    | cons digit others =>
      refine ⟨text.take 4, digit, others, ?_, isDigit_of_readFixed hmonth⟩
      rw [← hbehind, List.take_append_drop]

end Calendar.Timestamp

/-- Whether a text starts with another character than a digit, if with any. -/
def Text.StartsOtherwise (text : List Char) : Prop := ∀ c ∈ text.head?, c.isDigit = false

theorem Text.StartsOtherwise.isDigits_eq_false {text : List Char} (h : StartsOtherwise text) :
    isDigits text = false := by
  cases text with
  | nil => rfl
  | cons c rest => simp [isDigits, h c rfl]

/-- The first piece of a text starts as the text does, unless it is empty. -/
theorem Text.StartsOtherwise.piece {text piece : List Char} (h : StartsOtherwise text) {mark : Char}
    {pieces : List (List Char)} (hsplit : text.splitOn mark = piece :: pieces) :
    StartsOtherwise piece := by
  intro c hc
  cases text with
  | nil =>
    cases hsplit
    cases hc
  | cons d rest =>
    rw [List.splitOn_eq_splitOnP, List.splitOnP_cons_eq_if_modifyHead] at hsplit
    split at hsplit
    case isTrue =>
      cases hsplit
      cases hc
    case isFalse =>
      obtain ⟨first, others, hrest⟩ :=
        List.exists_cons_of_ne_nil (List.splitOnP_ne_nil (fun d => d == mark) rest)
      rw [hrest, List.modifyHead_cons] at hsplit
      cases hsplit
      exact h c hc

namespace Span

variable {culture : Culture} {text : List Char}

theorem readShortDate?_eq_none (h : Text.StartsOtherwise (Text.trim text)) :
    culture.readShortDate? text = none := by
  unfold Culture.readShortDate?
  split
  case h_1 a b c hsplit =>
    rw [Number.readDigits, (h.piece hsplit).isDigits_eq_false]
    rfl
  case h_2 => rfl

/-- A date starts with a digit. -/
theorem readDate?_eq_none (h : Text.StartsOtherwise text)
    (htrim : Text.StartsOtherwise (Text.trim text)) : readDate? culture text = none := by
  have hshort : readDate?.shortDate culture text = none := by
    rw [readDate?.shortDate, readShortDate?_eq_none htrim, Option.map_none]
  unfold readDate?
  split
  case h_4 => exact hshort
  all_goals
    rename_i hsplit
    simp [(h.piece hsplit).isDigits_eq_false, hshort]

/-- An absolute literal starts with a digit. -/
theorem absolute?_eq_none {c : Char} {rest : List Char} (hdigit : c.isDigit = false)
    (hblank : Text.isBlank c = false) : absolute? culture (c :: rest) = none := by
  have htimestamp : Timestamp.read? (c :: rest) = none := by
    refine Option.eq_none_iff_forall_ne_some.mpr fun instant h => ?_
    have htrue := (Timestamp.read?_eq_some h).2 c rfl
    rw [hdigit] at htrue
    cases htrue
  have hother : ∀ others : List Char, Text.StartsOtherwise (c :: others) := fun others d hd => by
    cases hd
    exact hdigit
  have hdate : readDate? culture (cutAtTime (c :: rest)).1 = none := by
    rw [cutAtTime]
    split
    case isTrue => exact readDate?_eq_none (fun _ h => nomatch h) (fun _ h => nomatch h)
    case isFalse =>
      obtain ⟨others, htrim⟩ : ∃ others, Text.trim (c :: (cutAtTime rest).1) = c :: others :=
        Text.trim_append_cons (List.forall_mem_nil _) hblank
      exact readDate?_eq_none (hother _) (htrim ▸ hother others)
  simp only [absolute?, htimestamp, hdate]
  rfl

end Span

/-- No digit of a text stands behind another character. -/
def Text.DigitsFirst (text : List Char) : Prop :=
  text.Pairwise fun c d => d.isDigit = true → c.isDigit = true

/-- Whether a text has no digits. -/
def Text.Digitless (text : List Char) : Prop := ∀ c ∈ text, c.isDigit = false

-- Tests the characters of the text; another instance would go through all characters there are.
instance (text : List Char) : Decidable (Text.Digitless text) :=
  List.decidableBAll (fun c : Char => c.isDigit = false) text

theorem Text.Digitless.startsOtherwise {text : List Char} (h : Digitless text) :
    StartsOtherwise text := fun c hc => h c (List.mem_of_mem_head? hc)

theorem Text.Digitless.trim {text : List Char} (h : Digitless text) : Digitless (trim text) :=
  fun c hc => h c (mem_of_mem_trim hc)

namespace Text.DigitsFirst

variable {text before behind : List Char} {c : Char}

theorem digitless_behind (h : DigitsFirst (before ++ c :: behind)) (hc : c.isDigit = false) :
    Digitless behind := by
  intro d hd
  have hpair := List.rel_of_pairwise_cons (List.pairwise_append.mp h).2.1 hd
  rwa [hc, Bool.false_eq_true, imp_false, Bool.not_eq_true] at hpair

theorem trim (h : DigitsFirst text) : DigitsFirst (trim text) := by
  have htrimmed : Text.trim text <+: trimStart text := List.rdropWhile_prefix isBlank _
  have hsuffix : trimStart text <:+ text := List.dropWhile_suffix isBlank
  exact h.sublist (htrimmed.sublist.trans hsuffix.sublist)

end Text.DigitsFirst

/-- Digits with other characters behind them. -/
theorem Text.digitsFirst_append {front behind : List Char} (hfront : ∀ c ∈ front, c.isDigit = true)
    (hbehind : Digitless behind) : DigitsFirst (front ++ behind) := by
  refine List.pairwise_append.mpr ⟨List.pairwise_of_forall_mem_list fun c hc _ _ _ => hfront c hc,
    List.pairwise_of_forall_mem_list fun c _ d hd hdigit => ?_, fun c hc _ _ _ => hfront c hc⟩
  rw [hbehind d hd] at hdigit
  cases hdigit

namespace Span

open Text (DigitsFirst Digitless StartsOtherwise)

variable {culture : Culture} {text : List Char} {c : Char}

/-- A text is cut into pieces with a mark between every two of them. -/
private theorem eq_append_of_splitOn {mark : Char} {piece : List Char}
    {pieces : List (List Char)} (h : text.splitOn mark = piece :: pieces) (hne : pieces ≠ []) :
    text = piece ++ mark :: [mark].intercalate pieces := by
  obtain ⟨next, others, rfl⟩ := List.exists_cons_of_ne_nil hne
  have hjoined : [mark].intercalate (text.splitOn mark) = text := List.intercalate_splitOn mark
  rw [h, List.intercalate_cons_cons, List.append_assoc, List.singleton_append] at hjoined
  exact hjoined.symm

private theorem readDigits_eq_none (h : Digitless text) : Number.readDigits text = none := by
  rw [Number.readDigits, h.startsOtherwise.isDigits_eq_false]
  rfl

private theorem readNatural_eq_none (h : Digitless text) : Number.readNatural text = none := by
  unfold Number.readNatural
  split
  case h_1 digits => exact readDigits_eq_none fun c hc => h c (List.mem_cons_of_mem _ hc)
  case h_2 => exact readDigits_eq_none h

/-- In a short date, digits stand behind the separator. -/
theorem readShortDate?_eq_none_of_digitsFirst (hfirst : DigitsFirst text) (hc : c ∈ text)
    (hother : c.isDigit = false) (hblank : Text.isBlank c = false) :
    culture.readShortDate? text = none := by
  have htrimmed := hfirst.trim
  have hkept := Text.mem_trim hc hblank
  unfold Culture.readShortDate?
  split
  case h_2 => rfl
  case h_1 x y z hsplit =>
    rw [eq_append_of_splitOn hsplit (List.cons_ne_nil _ _), List.intercalate_cons_cons,
      List.intercalate_singleton] at htrimmed hkept
    refine Option.eq_none_iff_forall_ne_some.mpr fun date hdate => ?_
    obtain ⟨a, ha, hdate⟩ := Option.bind_eq_some_iff.mp hdate
    obtain ⟨b, hb, hdate⟩ := Option.bind_eq_some_iff.mp hdate
    obtain ⟨n, hn, -⟩ := Option.bind_eq_some_iff.mp hdate
    have hx := (Number.readDigits_eq_some_iff.mp ha).digits
    have hy := (Number.readDigits_eq_some_iff.mp hb).digits
    have hz := (Number.readDigits_eq_some_iff.mp hn).digits
    cases hmark : culture.dateSeparator.isDigit with
    | true =>
      -- All of the text would be digits, and so would be the character that is none.
      have hall : c.isDigit = true := by
        simp only [List.mem_append, List.mem_cons, List.not_mem_nil, or_false] at hkept
        rcases hkept with h | rfl | (h | rfl) | h
        · exact hx c h
        · exact hmark
        · exact hy c h
        · exact hmark
        · exact hz c h
      rw [hother] at hall
      cases hall
    | false =>
      have hbehind := htrimmed.digitless_behind hmark
      rw [readDigits_eq_none fun d hd => hbehind d (by simp [hd])] at hb
      cases hb

/-- A text with all digits in front that ends otherwise is no date. -/
theorem readDate?_eq_none_of_digitsFirst (hfirst : DigitsFirst text) (hc : c ∈ text)
    (hother : c.isDigit = false) (hblank : Text.isBlank c = false) :
    readDate? culture text = none := by
  have hshort : readDate?.shortDate culture text = none := by
    rw [readDate?.shortDate, readShortDate?_eq_none_of_digitsFirst hfirst hc hother hblank,
      Option.map_none]
  unfold readDate?
  split
  case h_1 year hsplit =>
    have hdigits : Text.isDigits year = false := by
      have htext : ['-'].intercalate (text.splitOn '-') = text := List.intercalate_splitOn '-'
      rw [hsplit, List.intercalate_singleton] at htext
      rw [Text.isDigits, Bool.and_eq_false_iff, List.all_eq_false]
      exact .inr ⟨c, htext ▸ hc, by simp [hother]⟩
    simp [hdigits, hshort]
  case h_2 year month hsplit =>
    rw [eq_append_of_splitOn hsplit (List.cons_ne_nil _ _), List.intercalate_singleton] at hfirst
    have hmonth := hfirst.digitless_behind (by decide)
    simp [hmonth.startsOtherwise.isDigits_eq_false, hshort]
  case h_3 year month day hsplit =>
    rw [eq_append_of_splitOn hsplit (List.cons_ne_nil _ _), List.intercalate_cons_cons,
      List.append_assoc] at hfirst
    have hmonth : Digitless month := fun d hd =>
      hfirst.digitless_behind (by decide) d (List.mem_append_left _ hd)
    simp [readNatural_eq_none hmonth, hshort]
  case h_4 => exact hshort

/-- A time of day has digits. -/
theorem readTime?_eq_none_of_digitless (h : Digitless text) : readTime? text = none := by
  have hfield : TimeOfDay.readField text = none := by
    have hstart : Digitless (Text.trimStart text) := fun d hd =>
      h d ((List.dropWhile_suffix Text.isBlank).subset hd)
    unfold TimeOfDay.readField
    split
    case h_1 a b rest heq => simp [hstart a (heq ▸ List.mem_cons_self)]
    case h_2 a heq => simp [hstart a (heq ▸ List.mem_cons_self)]
    case h_3 => rfl
  unfold readTime?
  split
  case h_1 hour hsplit =>
    rw [Number.readDigits, (h.startsOtherwise.piece hsplit).isDigits_eq_false]
    rfl
  case h_2 hour minute hsplit =>
    rw [Number.readDigits, (h.startsOtherwise.piece hsplit).isDigits_eq_false]
    rfl
  case h_3 =>
    rw [TimeOfDay.read?, hfield]
    rfl
  case h_4 => rfl

/-- A text is cut at a mark that stands in it, or it is left as it is. -/
theorem cutAtTime_cases (text : List Char) : cutAtTime text = (text, none) ∨
    ∃ date mark time, (mark = 'T' ∨ mark = ' ') ∧ text = date ++ mark :: time ∧
      cutAtTime text = (date, some time) := by
  induction text with
  | nil => exact .inl rfl
  | cons c rest ih =>
    rw [cutAtTime]
    split
    case isTrue hmark =>
      rw [Bool.or_eq_true, beq_iff_eq, beq_iff_eq] at hmark
      exact .inr ⟨[], c, rest, hmark, rfl, rfl⟩
    case isFalse =>
      rcases ih with hcut | ⟨date, mark, time, hmark, rfl, hcut⟩
      · exact .inl (by rw [hcut])
      · exact .inr ⟨c :: date, mark, time, hmark, rfl, by rw [hcut]⟩

/-- A text with all digits in front is no absolute literal, unless it ends with a digit, with white
    space or with the letter `T`. -/
theorem absolute?_eq_none_of_digitsFirst (hfirst : DigitsFirst text)
    (hlast : text.getLast? = some c) (hother : c.isDigit = false)
    (hblank : Text.isBlank c = false) (hmark : c ≠ 'T') : absolute? culture text = none := by
  have hmem := List.mem_of_getLast? hlast
  have htimestamp : Timestamp.read? text = none := by
    refine Option.eq_none_iff_forall_ne_some.mpr fun instant h => ?_
    obtain ⟨year, digit, rest, rfl, hdigit⟩ := Timestamp.exists_hyphen_of_read? h
    rw [hfirst.digitless_behind (by decide) digit List.mem_cons_self] at hdigit
    cases hdigit
  rcases cutAtTime_cases text with hcut | ⟨date, mark, time, hmarks, rfl, hcut⟩
  · simp only [absolute?, htimestamp, hcut,
      readDate?_eq_none_of_digitsFirst hfirst hmem hother hblank]
    rfl
  · have hnone : mark.isDigit = false := by rcases hmarks with rfl | rfl <;> decide
    have htime := (hfirst.digitless_behind hnone).trim
    -- The last character stands behind the mark, so that a time would be named.
    have hend : time ≠ [] := by
      rintro rfl
      rw [List.getLast?_append_cons, List.getLast?_singleton, Option.some.injEq] at hlast
      rcases hmarks with rfl | rfl
      · exact hmark hlast.symm
      · rw [← hlast] at hblank
        cases hblank
    have hbehind : c ∈ time := by
      rw [List.getLast?_append_of_ne_nil _ (List.cons_ne_nil _ _),
        List.getLast?_cons_of_ne_nil hend] at hlast
      exact List.mem_of_getLast? hlast
    have hnonempty : (Text.trim time).isEmpty = false :=
      List.isEmpty_eq_false_iff.mpr (List.ne_nil_of_mem (Text.mem_trim hbehind hblank))
    simp only [absolute?, htimestamp, hcut, Option.getD_some, hnonempty,
      readTime?_eq_none_of_digitless htime]
    cases readDate? culture date with
    | none => rfl
    | some read =>
      obtain ⟨date, unit⟩ := read
      cases unit <;> rfl

end Span

end EntityQuery
