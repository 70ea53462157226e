import EntityQuery.Culture
import EntityQuery.Proofs.Number.Integer

namespace EntityQuery

namespace Number

/-- Digits with a mark before every three digits from the end. -/
def grouped (mark : Char) : List Char → List Char
  | [] => []
  | c :: rest =>
    if !rest.isEmpty && rest.length % 3 == 0 then c :: mark :: grouped mark rest
    else c :: grouped mark rest

/-- An integer as it is written with a mark between its groups of thousands. -/
def inThousands (mark : Char) : Int → List Char
  | .ofNat n => grouped mark (Nat.toDigits 10 n)
  | .negSucc n => '-' :: grouped mark (Nat.toDigits 10 (n + 1))

example : inThousands '.' (-1234567) = "-1.234.567".toList := by decide

variable {mark : Char} {digits : List Char}

theorem mem_grouped {c : Char} (hc : c ∈ grouped mark digits) : c = mark ∨ c ∈ digits := by
  induction digits with
  | nil => cases hc
  | cons d rest ih =>
    rw [grouped] at hc
    split at hc
    all_goals
      simp only [List.mem_cons] at hc ⊢
      grind

/-- The digits are what is left without the marks. -/
theorem filter_grouped {keep : Char → Bool} (hmark : keep mark = false)
    (hdigits : ∀ c ∈ digits, keep c = true) : (grouped mark digits).filter keep = digits := by
  induction digits with
  | nil => rfl
  | cons c rest ih =>
    obtain ⟨hfirst, hrest⟩ := List.forall_mem_cons.mp hdigits
    rw [grouped]
    split
    · rw [List.filter_cons_of_pos hfirst, List.filter_cons_of_neg (by simp [hmark]), ih hrest]
    · rw [List.filter_cons_of_pos hfirst, ih hrest]

theorem mem_inThousands {n : Int} {c : Char} (hc : c ∈ inThousands mark n) :
    c = mark ∨ c.isDigit = true ∨ c = '-' := by
  have hgrouped : ∀ m : Nat, c ∈ grouped mark (Nat.toDigits 10 m) →
      c = mark ∨ c.isDigit = true ∨ c = '-' := fun m hmem =>
    (mem_grouped hmem).imp_right fun hdigit => .inl ((isNatural_toDigits m).digits c hdigit)
  cases n with
  | ofNat m => exact hgrouped m hc
  | negSucc m =>
    rcases List.mem_cons.mp hc with rfl | hmem
    · exact .inr (.inr rfl)
    · exact hgrouped (m + 1) hmem

/-- Without its marks, an integer in groups is one that denotes it. -/
theorem isInteger_filter_inThousands {keep : Char → Bool} (hmark : keep mark = false)
    (hdigit : ∀ c : Char, c.isDigit = true → keep c = true) (hsign : keep '-' = true) (n : Int) :
    IsInteger ((inThousands mark n).filter keep) n := by
  have hdigits : ∀ m, (grouped mark (Nat.toDigits 10 m)).filter keep = Nat.toDigits 10 m :=
    fun m => filter_grouped hmark fun c hc => hdigit c ((isNatural_toDigits m).digits c hc)
  cases n with
  | ofNat m =>
    rw [inThousands, hdigits]
    exact .unsigned (isNatural_toDigits m)
  | negSucc m =>
    rw [inThousands, List.filter_cons_of_pos hsign, hdigits]
    exact .minus (isNatural_toDigits (m + 1))

end Number

namespace Culture

open Number (IsInteger inThousands)

variable {culture : Culture} {raw : List Char} {c : Char}

/-- Whether numbers of every culture may have a character: a digit, a sign or an exponent mark. -/
def isShared (c : Char) : Bool := c.isDigit || c == '+' || c == '-' || c == 'e' || c == 'E'

/-- The separators of a culture differ from each other and from the characters that all cultures
    share, and the decimal separator is seen. -/
structure Separates (culture : Culture) : Prop where
  group : isShared culture.groupSeparator = false
  decimal : isShared culture.decimalSeparator = false
  ne : culture.decimalSeparator ≠ culture.groupSeparator
  seen : Text.isBlank culture.decimalSeparator = false

theorem separates_of_mem (hculture : culture ∈ all) : culture.Separates := by
  simp only [all, invariant, List.mem_cons, List.not_mem_nil, or_false] at hculture
  rcases hculture with rfl | rfl | rfl | rfl | rfl | rfl <;> constructor <;> decide

theorem isShared_of_digit_or_sign (hc : c.isDigit = true ∨ c = '+' ∨ c = '-') :
    isShared c = true := by
  rcases hc with hdigit | rfl | rfl
  · simp [isShared, hdigit]
  · rfl
  · rfl

theorem isBlank_of_isShared (hc : isShared c = true) : Text.isBlank c = false := by
  simp only [isShared, Bool.or_eq_true, beq_iff_eq] at hc
  rcases hc with (((hdigit | rfl) | rfl) | rfl) | rfl
  · exact Text.isBlank_of_isDigit hdigit
  all_goals decide

/-- A text without the marks that only group digits. -/
def ungroup (culture : Culture) (text : List Char) : List Char :=
  text.filter fun c => !culture.isGroupMark c

namespace Separates

theorem isGroupMark_of_isShared (h : culture.Separates) (hc : isShared c = true) :
    culture.isGroupMark c = false := by
  have hgroup : c ≠ culture.groupSeparator := by
    rintro rfl
    exact Bool.false_ne_true (h.group.symm.trans hc)
  have hspace : c ≠ ' ' := by
    rintro rfl
    exact absurd hc (by decide)
  simp [isGroupMark, hgroup, hspace]

theorem isGroupMark_decimalSeparator (h : culture.Separates) :
    culture.isGroupMark culture.decimalSeparator = false := by
  have hspace : culture.decimalSeparator ≠ ' ' := by
    intro heq
    have hseen := h.seen
    rw [heq] at hseen
    exact absurd hseen (by decide)
  simp [isGroupMark, h.ne, hspace]

theorem plainChar?_of_isShared (h : culture.Separates) (hc : isShared c = true) :
    culture.plainChar? c = some c := by
  have hdecimal : c ≠ culture.decimalSeparator := by
    rintro rfl
    exact Bool.false_ne_true (h.decimal.symm.trans hc)
  simp only [isShared] at hc
  simp [plainChar?, hdecimal, hc]

end Separates

private theorem plainChar?_eq_some {d : Char} (hd : culture.plainChar? c = some d)
    (hpoint : d ≠ '.') : c = d := by
  unfold plainChar? at hd
  split at hd
  · cases hd
    exact absurd rfl hpoint
  · split at hd
    · exact Option.some.inj hd
    · cases hd

private theorem mapM_plainChar?_eq_some_iff (h : culture.Separates) {text plain : List Char}
    (hshared : ∀ c ∈ plain, isShared c = true) :
    text.mapM culture.plainChar? = some plain ↔ text = plain := by
  constructor
  · intro hread
    induction text generalizing plain with
    | nil => simpa using hread
    | cons c rest ih =>
      simp only [List.mapM_cons, Option.bind_eq_bind, Option.bind_eq_some_iff, Option.pure_def,
        Option.some.injEq] at hread
      obtain ⟨d, hd, others, hothers, rfl⟩ := hread
      obtain ⟨hfirst, hrest⟩ := List.forall_mem_cons.mp hshared
      have hpoint : d ≠ '.' := by
        rintro rfl
        exact absurd hfirst (by decide)
      rw [plainChar?_eq_some hd hpoint, ih hrest hothers]
  · rintro rfl
    induction text with
    | nil => rfl
    | cons c rest ih =>
      obtain ⟨hfirst, hrest⟩ := List.forall_mem_cons.mp hshared
      simp [List.mapM_cons, h.plainChar?_of_isShared hfirst, ih hrest]

private theorem isShared_of_isInteger {text : List Char} {n : Int} (h : IsInteger text n) :
    ∀ c ∈ text, isShared c = true :=
  fun c hc => isShared_of_digit_or_sign (h.isDigit_or_sign c hc)

private theorem readInt?_eq_bind (culture : Culture) (raw : List Char) :
    culture.readInt? raw =
      ((culture.ungroup (Text.trim raw)).mapM culture.plainChar?).bind Number.readInt64 := by
  rw [readInt?, plainNumber?]
  split
  case isTrue hempty =>
    rw [List.isEmpty_iff] at hempty
    rw [hempty]
    rfl
  case isFalse => rfl

namespace Separates

theorem readInt?_eq_some_iff (h : culture.Separates) {n : Int64} :
    culture.readInt? raw = some n ↔ IsInteger (culture.ungroup (Text.trim raw)) n.toInt := by
  rw [readInt?_eq_bind, Option.bind_eq_some_iff]
  constructor
  · rintro ⟨plain, hplain, hread⟩
    have hinteger := Number.readInt64_eq_some_iff.mp hread
    rwa [(mapM_plainChar?_eq_some_iff h (isShared_of_isInteger hinteger)).mp hplain]
  · intro hinteger
    exact ⟨_, (mapM_plainChar?_eq_some_iff h (isShared_of_isInteger hinteger)).mpr rfl,
      Number.readInt64_eq_some_iff.mpr hinteger⟩

theorem readInt?_congr (h : culture.Separates) {raw' : List Char}
    (heq : culture.ungroup (Text.trim raw) = culture.ungroup (Text.trim raw')) :
    culture.readInt? raw = culture.readInt? raw' :=
  Option.ext fun n => by rw [h.readInt?_eq_some_iff, h.readInt?_eq_some_iff, heq]

/-- What stands inside a number counts without its group marks. -/
theorem readInt?_append_append (h : culture.Separates) {front inner inner' back : List Char}
    (hfront : ∃ c ∈ front, Text.isBlank c = false) (hback : ∃ c ∈ back, Text.isBlank c = false)
    (hinner : culture.ungroup inner = culture.ungroup inner') :
    culture.readInt? (front ++ inner ++ back) = culture.readInt? (front ++ inner' ++ back) := by
  refine h.readInt?_congr ?_
  rw [ungroup] at hinner
  rw [Text.trim_append_append hfront hback, Text.trim_append_append hfront hback]
  simp only [ungroup, List.filter_append, hinner]

/-- A character that is neither seen as a group mark nor part of an integer makes a text none. -/
theorem readInt?_eq_none (h : culture.Separates) (hc : c ∈ raw) (hseen : Text.isBlank c = false)
    (hmark : culture.isGroupMark c = false) (hother : ¬ (c.isDigit = true ∨ c = '+' ∨ c = '-')) :
    culture.readInt? raw = none := by
  refine Option.eq_none_iff_forall_ne_some.mpr fun n hread => hother ?_
  refine (h.readInt?_eq_some_iff.mp hread).isDigit_or_sign c ?_
  exact List.mem_filter.mpr ⟨Text.mem_trim hc hseen, by simp [hmark]⟩

theorem readInt?_inThousands (h : culture.Separates) {mark : Char}
    (hmark : culture.isGroupMark mark = true) (n : Int64) :
    culture.readInt? (inThousands mark n.toInt) = some n := by
  have hblank : ∀ c ∈ inThousands mark n.toInt, Text.isBlank c = true →
      (!culture.isGroupMark c) = false := by
    intro c hc hblank
    rcases Number.mem_inThousands hc with rfl | hdigit | rfl
    · simp [hmark]
    · rw [Text.isBlank_of_isDigit hdigit] at hblank
      cases hblank
    · exact absurd hblank (by decide)
  rw [h.readInt?_eq_some_iff, ungroup, Text.filter_trim hblank]
  refine Number.isInteger_filter_inThousands (by simp [hmark]) (fun c hc => ?_) ?_ n.toInt
  · simp [h.isGroupMark_of_isShared (isShared_of_digit_or_sign (.inl hc))]
  · simp [h.isGroupMark_of_isShared (c := '-') rfl]

end Separates

/-- A text is read as an integer exactly if, trimmed and without its group marks, it denotes one of
    64 bits. So the group marks inside make no difference, nothing with a decimal separator or an
    exponent is an integer, and integers are read back from their groups of thousands. -/
theorem readInt?_exact (hculture : culture ∈ all) :
    (∀ (raw : List Char) (n : Int64),
      culture.readInt? raw = some n ↔ IsInteger (culture.ungroup (Text.trim raw)) n.toInt) ∧
    (∀ front inner inner' back : List Char, (∃ c ∈ front, Text.isBlank c = false) →
      (∃ c ∈ back, Text.isBlank c = false) → culture.ungroup inner = culture.ungroup inner' →
      culture.readInt? (front ++ inner ++ back) = culture.readInt? (front ++ inner' ++ back)) ∧
    (∀ (raw : List Char) (c : Char), c = culture.decimalSeparator ∨ c = 'e' ∨ c = 'E' → c ∈ raw →
      culture.readInt? raw = none) ∧
    ∀ (mark : Char) (n : Int64), culture.isGroupMark mark = true →
      culture.readInt? (inThousands mark n.toInt) = some n := by
  have h := separates_of_mem hculture
  refine ⟨fun raw n => h.readInt?_eq_some_iff, fun _ _ _ _ => h.readInt?_append_append, ?_,
    fun mark n hmark => h.readInt?_inThousands hmark n⟩
  rintro raw c hc hmem
  have hexponent : ∀ d : Char, isShared d = true → ¬ (d.isDigit = true ∨ d = '+' ∨ d = '-') →
      d ∈ raw → culture.readInt? raw = none := fun d hshared hother hd =>
    h.readInt?_eq_none hd (isBlank_of_isShared hshared) (h.isGroupMark_of_isShared hshared) hother
  rcases hc with rfl | rfl | rfl
  · refine h.readInt?_eq_none hmem h.seen h.isGroupMark_decimalSeparator fun hinteger => ?_
    exact Bool.false_ne_true (h.decimal.symm.trans (isShared_of_digit_or_sign hinteger))
  · exact hexponent 'e' rfl (by decide) hmem
  · exact hexponent 'E' rfl (by decide) hmem

/-- French numbers, whose groups have a narrow or a plain space between them. -/
def french : Culture := named "fr-FR"

/-- A group mark may stand anywhere among the digits, and the least integer is read back from its
    thousands. -/
theorem readInt?_exact_french :
    french ∈ all ∧
    IsInteger (french.ungroup (Text.trim " +1\u202f234 ".toList)) 1234 ∧
    french.readInt? "+1 2\u202f34".toList = french.readInt? "+1234".toList ∧
    french.readInt? "1,5".toList = none ∧
    inThousands ' ' Int64.minValue.toInt = "-9 223 372 036 854 775 808".toList ∧
    french.readInt? (inThousands ' ' Int64.minValue.toInt) = some Int64.minValue := by
  have hculture : french ∈ all := by decide
  obtain ⟨hread, hinside, hnone, hwritten⟩ := readInt?_exact hculture
  refine ⟨hculture, (hread _ 1234).mp (by decide), ?_, hnone _ ',' (.inl (by decide)) (by decide),
    by decide, hwritten ' ' _ (by decide)⟩
  exact hinside ['+', '1'] [' ', '2', '\u202f'] ['2'] ['3', '4'] ⟨'1', by decide, by decide⟩
    ⟨'3', by decide, by decide⟩ (by decide)

end Culture

end EntityQuery
