import EntityQuery.Text.Basic
import EntityQuery.Proofs.Sequential
import Mathlib.Data.List.DropRight
import Mathlib.Data.List.TakeWhile

namespace EntityQuery.Text

private theorem isLetter_of_run {c : Char} {first last : Nat}
    (hrun : (first, last) ∈ Unicode.alphabeticRuns) (hlow : first ≤ c.toNat)
    (hhigh : c.toNat ≤ last) : isLetter c = true :=
  List.any_eq_true.mpr ⟨(first, last), hrun, by simp [hlow, hhigh]⟩

/-- In lower case a character stays what it is, unless it is one of the letters `A` to `Z`. -/
private theorem toLower_eq_or (c : Char) : c.toLower = c ∨
    0x41 ≤ c.toNat ∧ c.toNat ≤ 0x5A ∧ c.toLower.toNat = c.toNat + 0x20 := by
  by_cases hupper : c.val ≥ 'A'.val ∧ c.val ≤ 'Z'.val
  · have hlow : 0x41 ≤ c.toNat := hupper.1
    have hhigh : c.toNat ≤ 0x5A := hupper.2
    have hval : c.toLower.val = c.val + ('a'.val - 'A'.val) := congrArg Char.val (dif_pos hupper)
    have hnat : c.toLower.toNat = (c.toNat + 0x20) % 2 ^ 32 := by
      rw [Char.toNat, hval, UInt32.toNat_add]
      rfl
    exact .inr ⟨hlow, hhigh, by omega⟩
  · exact .inl (dif_neg hupper)

theorem toLower_eq_self {c : Char} (hc : c.toNat < 0x41 ∨ 0x5A < c.toNat) : c.toLower = c :=
  (toLower_eq_or c).resolve_right (by omega)

/-- Letters stay letters in lower case, and other characters stay what they are. -/
theorem isLetter_toLower (c : Char) : isLetter c.toLower = isLetter c := by
  rcases toLower_eq_or c with hsame | ⟨hlow, hhigh, hlower⟩
  · rw [hsame]
  · have hupperRun : (0x41, 0x5A) ∈ Unicode.alphabeticRuns := by decide
    have hlowerRun : (0x61, 0x7A) ∈ Unicode.alphabeticRuns := by decide
    rw [isLetter_of_run hupperRun hlow hhigh, isLetter_of_run hlowerRun (by omega) (by omega)]

/-- Letters of ASCII stay letters of ASCII in lower case. -/
theorem isAlphanum_toLower (c : Char) : c.toLower.isAlphanum = c.isAlphanum := by
  rcases toLower_eq_or c with hsame | ⟨hlow, hhigh, hlower⟩
  · rw [hsame]
  · have hupper : c.isUpper = true := decide_eq_true ⟨hlow, hhigh⟩
    have hbelow : 0x61 ≤ c.toLower.toNat := by omega
    have habove : c.toLower.toNat ≤ 0x7A := by omega
    have hcase : c.toLower.isLower = true :=
      Bool.and_eq_true_iff.mpr ⟨decide_eq_true hbelow, decide_eq_true habove⟩
    have hbefore : c.isAlphanum = true :=
      Bool.or_eq_true_iff.mpr (.inl (Bool.or_eq_true_iff.mpr (.inl hupper)))
    have hafter : c.toLower.isAlphanum = true :=
      Bool.or_eq_true_iff.mpr (.inl (Bool.or_eq_true_iff.mpr (.inr hcase)))
    rw [hbefore, hafter]

/-- The characters of ASCII behind the space are no white space. -/
theorem isBlank_of_ascii {c : Char} (hlow : 0x21 ≤ c.toNat) (hhigh : c.toNat ≤ 0x7F) :
    isBlank c = false := by
  simp only [isBlank, inRuns, blankRuns, List.any_cons, List.any_nil, Bool.or_false,
    Bool.or_eq_false_iff, Bool.and_eq_false_iff, decide_eq_false_iff_not]
  omega

theorem isBlank_of_isDigit {c : Char} (hc : c.isDigit = true) : isBlank c = false := by
  simp only [Char.isDigit, Bool.and_eq_true, decide_eq_true_eq] at hc
  have hlow : 0x30 ≤ c.toNat := hc.1
  have hhigh : c.toNat ≤ 0x39 := hc.2
  exact isBlank_of_ascii (by omega) (by omega)

/-- White space has no letter case. -/
theorem isBlank_toLower (c : Char) : isBlank c.toLower = isBlank c := by
  rcases toLower_eq_or c with hsame | ⟨hlow, hhigh, hlower⟩
  · rw [hsame]
  · rw [isBlank_of_ascii (c := c) (by omega) (by omega), isBlank_of_ascii (by omega) (by omega)]

/-- Only a letter from `A` to `Z` has another character as its lower case. -/
theorem eq_of_toLower {c d : Char} (hd : d.toNat < 0x61 ∨ 0x7A < d.toNat) (h : c.toLower = d) :
    c = d := by
  rcases toLower_eq_or c with hsame | ⟨hlow, hhigh, hlower⟩
  · rw [← hsame, h]
  · rw [h] at hlower
    omega

/-- Only characters of ASCII have a character of ASCII as their lower case. -/
theorem ascii_of_toLower {c : Char} (h : c.toLower.toNat < 0x80) : c.toNat < 0x80 := by
  rcases toLower_eq_or c with hsame | ⟨-, hhigh, -⟩
  · rwa [hsame] at h
  · omega

/-- Digits have no letter case. -/
theorem isDigit_toLower (c : Char) : c.toLower.isDigit = c.isDigit := by
  rcases toLower_eq_or c with hsame | ⟨hlow, hhigh, hlower⟩
  · rw [hsame]
  · have hnone : ∀ d : Char, 0x3A ≤ d.toNat → d.isDigit = false := fun d hd =>
      Bool.and_eq_false_iff.mpr (.inr (decide_eq_false (Nat.not_le.mpr hd)))
    rw [hnone c (by omega), hnone c.toLower (by omega)]

/-- A point has no letter case. -/
theorem eq_point_of_toLower {c : Char} (h : c.toLower = '.') : c = '.' :=
  eq_of_toLower (.inl (by decide)) h

theorem sameIgnoringCase_iff {a b : List Char} :
    sameIgnoringCase a b = true ↔ List.Forall₂ (fun c d => c.toLower = d.toLower) a b := by
  unfold sameIgnoringCase
  induction a generalizing b with
  | nil => cases b <;> simp
  | cons c rest ih =>
    cases b with
    | nil => simp
    | cons d other => simp [List.isEqv, ih]

theorem sameIgnoringCase_refl (text : List Char) : sameIgnoringCase text text = true :=
  sameIgnoringCase_iff.mpr (List.forall₂_same.mpr fun _ _ => rfl)

/-- What is a word in one letter case is a word in every letter case. -/
theorem all_isLetter_of_sameIgnoringCase {a b : List Char} (hsame : sameIgnoringCase a b = true)
    (hletters : b.all isLetter = true) : a.all isLetter = true := by
  rw [List.all_eq_true] at hletters ⊢
  intro c hc
  obtain ⟨d, hd, heq⟩ := exists_of_forall₂_mem (sameIgnoringCase_iff.mp hsame).flip hc
  rw [← isLetter_toLower, heq, isLetter_toLower]
  exact hletters d hd

theorem length_eq_of_sameIgnoringCase {a b : List Char} (hsame : sameIgnoringCase a b = true) :
    a.length = b.length := (sameIgnoringCase_iff.mp hsame).length_eq

theorem occursIn_iff {part text : List Char} : occursIn part text = true ↔ part <:+: text := by
  induction text with
  | nil => rw [occursIn, List.isEmpty_iff, List.infix_nil]
  | cons c rest ih =>
    rw [occursIn, Bool.or_eq_true, List.isPrefixOf_iff_prefix, ih, List.infix_cons_iff]

private theorem utf8Size_toLower (c : Char) : c.toLower.utf8Size = c.utf8Size := by
  rcases toLower_eq_or c with hsame | ⟨hlow, hhigh, hlower⟩
  · rw [hsame]
  · have hascii : ∀ d : Char, d.toNat ≤ 0x7F → d.utf8Size = 1 := fun d hd =>
      Char.utf8Size_eq_one_iff.mpr hd
    rw [hascii c (by omega), hascii c.toLower (by omega)]

theorem length_le_utf8ByteSize (text : String) : text.toList.length ≤ text.utf8ByteSize := by
  rw [← String.ofList_toList (s := text), String.toList_ofList]
  induction text.toList with
  | nil => exact Nat.zero_le _
  | cons c rest ih =>
    have hpos := c.utf8Size_pos
    rw [String.ofList_cons, String.utf8ByteSize_append, String.utf8ByteSize_singleton,
      List.length_cons]
    omega

/-- Letter case makes no difference to the length of a text in bytes. -/
theorem utf8ByteSize_of_sameIgnoringCase {a b : List Char} (hsame : sameIgnoringCase a b = true) :
    (String.ofList a).utf8ByteSize = (String.ofList b).utf8ByteSize := by
  have hcases := sameIgnoringCase_iff.mp hsame
  clear hsame
  induction hcases with
  | nil => rfl
  | @cons c d _ _ hcase _ ih =>
    rw [String.ofList_cons, String.ofList_cons, String.utf8ByteSize_append,
      String.utf8ByteSize_append, ih, String.utf8ByteSize_singleton, String.utf8ByteSize_singleton,
      ← utf8Size_toLower, hcase, utf8Size_toLower]

/-- The start of a text has fewer bytes than the text, unless it is all of it. -/
theorem utf8ByteSize_lt {part text : List Char} (hstart : part <+: text) (hne : part ≠ text) :
    (String.ofList part).utf8ByteSize < (String.ofList text).utf8ByteSize := by
  obtain ⟨rest, rfl⟩ := hstart
  have hrest : rest ≠ [] := by
    rintro rfl
    exact hne (List.append_nil part).symm
  have hsize : (String.ofList rest).utf8ByteSize ≠ 0 := by
    rw [Ne, String.utf8ByteSize_eq_zero_iff, ← String.toList_inj, String.toList_ofList]
    exact hrest
  rw [String.ofList_append, String.utf8ByteSize_append]
  omega

private theorem mem_dropWhile {p : Char → Bool} {text : List Char} {c : Char} (hc : c ∈ text)
    (hkeep : p c = false) : c ∈ text.dropWhile p := by
  induction text with
  | nil => cases hc
  | cons d rest ih =>
    rw [List.dropWhile_cons]
    split
    case isTrue hdrop =>
      refine ih ((List.mem_cons.mp hc).resolve_left ?_)
      rintro rfl
      rw [hkeep] at hdrop
      cases hdrop
    case isFalse => exact hc

/-- Only white space is trimmed. -/
theorem mem_trim {text : List Char} {c : Char} (hc : c ∈ text) (hblank : isBlank c = false) :
    c ∈ trim text := by
  rw [trim, trimEnd, List.mem_reverse]
  exact mem_dropWhile (List.mem_reverse.mpr (mem_dropWhile hc hblank)) hblank

theorem trim_eq_nil {text : List Char} (hblank : ∀ c ∈ text, isBlank c = true) :
    trim text = [] := by
  rw [trim, trimStart, List.dropWhile_eq_nil_iff.mpr hblank]
  rfl

/-- A text without white space stays as it is. -/
theorem trim_eq_self {text : List Char} (hblank : ∀ c ∈ text, isBlank c = false) :
    trim text = text := by
  have hkeep : ∀ part : List Char, (∀ c ∈ part, isBlank c = false) →
      part.dropWhile isBlank = part := by
    intro part hpart
    refine List.dropWhile_eq_self_iff.mpr fun hlength => ?_
    simp [hpart _ (List.getElem_mem hlength)]
  rw [trim, trimStart, hkeep text hblank, trimEnd, hkeep text.reverse, List.reverse_reverse]
  exact fun c hc => hblank c (List.mem_reverse.mp hc)

private theorem trimStart_eq_self_iff {text : List Char} :
    trimStart text = text ↔ ∀ c ∈ text.head?, isBlank c = false := by
  cases text with
  | nil => simp [trimStart]
  | cons c rest =>
    rw [trimStart, List.dropWhile_eq_self_iff]
    simp

private theorem trimEnd_eq_self_iff {text : List Char} :
    trimEnd text = text ↔ trimStart text.reverse = text.reverse := by
  rw [trimEnd, ← List.reverse_inj, List.reverse_reverse]
  rfl

private theorem trimStart_trimStart (text : List Char) :
    trimStart (trimStart text) = trimStart text := List.dropWhile_idempotent isBlank text

private theorem trimEnd_trimEnd (text : List Char) : trimEnd (trimEnd text) = trimEnd text :=
  List.rdropWhile_idempotent isBlank text

/-- A text is left as it is if it has no white space on either side. -/
theorem trim_eq_self_iff {text : List Char} :
    trim text = text ↔ trimStart text = text ∧ trimEnd text = text := by
  constructor
  · intro htrim
    have hsuffix : trimStart text <:+ text := List.dropWhile_suffix isBlank
    have htrimmed : trim text <+: trimStart text := List.rdropWhile_prefix isBlank _
    rw [htrim] at htrimmed
    have hstart : trimStart text = text :=
      hsuffix.eq_of_length (Nat.le_antisymm hsuffix.length_le htrimmed.length_le)
    rw [trim, hstart] at htrim
    exact ⟨hstart, htrim⟩
  · rintro ⟨hstart, hend⟩
    rw [trim, hstart, hend]

theorem trim_eq_self_of_ends {text : List Char} (hfirst : ∀ c ∈ text.head?, isBlank c = false)
    (hlast : ∀ c ∈ text.getLast?, isBlank c = false) : trim text = text := by
  refine trim_eq_self_iff.mpr ⟨trimStart_eq_self_iff.mpr hfirst, trimEnd_eq_self_iff.mpr ?_⟩
  exact trimStart_eq_self_iff.mpr (by rwa [List.head?_reverse])

/-- Trimming leaves no white space on either side. -/
theorem trim_trim (text : List Char) : trim (trim text) = trim text := by
  refine trim_eq_self_iff.mpr ⟨trimStart_eq_self_iff.mpr fun c hc => ?_, trimEnd_trimEnd _⟩
  -- What is left begins as the text does after its blanks in front.
  have htrimmed : trim text <+: trimStart text := List.rdropWhile_prefix isBlank _
  obtain ⟨rest, hrest⟩ := htrimmed
  have hhead : c ∈ (trimStart text).head? := by
    rw [← hrest]
    exact List.mem_head?_append_of_mem_head? hc
  exact trimStart_eq_self_iff.mp (trimStart_trimStart text) c hhead

private theorem trimStart_eq_self_of_sameIgnoringCase {a b : List Char}
    (hsame : List.Forall₂ (fun c d => c.toLower = d.toLower) a b) (hb : trimStart b = b) :
    trimStart a = a := by
  rw [trimStart_eq_self_iff] at hb ⊢
  cases hsame with
  | nil => exact hb
  | @cons c d _ _ hcase _ =>
    intro other hother
    cases Option.mem_some_iff.mp hother
    rw [← isBlank_toLower, hcase, isBlank_toLower]
    exact hb d rfl

theorem mem_of_mem_trim {text : List Char} {c : Char} (hc : c ∈ trim text) : c ∈ text := by
  have htrimmed : trim text <+: trimStart text := List.rdropWhile_prefix isBlank _
  have hsuffix : trimStart text <:+ text := List.dropWhile_suffix isBlank
  exact hsuffix.subset (htrimmed.subset hc)

/-- Whether there is white space around a text does not depend on its letter case. -/
theorem trim_eq_self_of_sameIgnoringCase {a b : List Char} (hsame : sameIgnoringCase a b = true)
    (hb : trim b = b) : trim a = a := by
  have hcases := sameIgnoringCase_iff.mp hsame
  obtain ⟨hstart, hend⟩ := trim_eq_self_iff.mp hb
  refine trim_eq_self_iff.mpr ⟨trimStart_eq_self_of_sameIgnoringCase hcases hstart, ?_⟩
  rw [trimEnd_eq_self_iff] at hend ⊢
  exact trimStart_eq_self_of_sameIgnoringCase (List.rel_reverse hcases) hend

/-- Trimming stops at the first character that is no white space. -/
theorem trim_append_cons {blank rest : List Char} {c : Char}
    (hblank : ∀ d ∈ blank, isBlank d = true) (hc : isBlank c = false) :
    ∃ others, trim (blank ++ c :: rest) = c :: others := by
  have hkeep : ¬ isBlank c = true := by simp [hc]
  refine ⟨trimEnd rest, ?_⟩
  rw [trim, trimStart, List.dropWhile_append_of_pos hblank, List.dropWhile_cons_of_neg hkeep,
    trimEnd, List.reverse_cons, List.dropWhile_append]
  split
  case isTrue hempty =>
    rw [List.isEmpty_iff] at hempty
    rw [List.dropWhile_cons_of_neg hkeep, trimEnd, hempty]
    rfl
  case isFalse => simp [trimEnd]

private theorem filter_dropWhile {p keep : Char → Bool} {text : List Char}
    (hdropped : ∀ c ∈ text, p c = true → keep c = false) :
    (text.dropWhile p).filter keep = text.filter keep := by
  induction text with
  | nil => rfl
  | cons c rest ih =>
    obtain ⟨hfirst, hrest⟩ := List.forall_mem_cons.mp hdropped
    rw [List.dropWhile_cons]
    split
    case isTrue hp => rw [ih hrest, List.filter_cons_of_neg (by simp [hfirst hp])]
    case isFalse => rfl

/-- Trimming makes no difference if white space is left out anyway. -/
theorem filter_trim {keep : Char → Bool} {text : List Char}
    (hblank : ∀ c ∈ text, isBlank c = true → keep c = false) :
    (trim text).filter keep = text.filter keep := by
  have hstart : ∀ c ∈ (trimStart text).reverse, isBlank c = true → keep c = false := fun c hc =>
    hblank c ((List.dropWhile_suffix isBlank).subset (List.mem_reverse.mp hc))
  rw [trim, trimEnd, List.filter_reverse, filter_dropWhile hstart, List.filter_reverse,
    List.reverse_reverse, trimStart, filter_dropWhile hblank]

private theorem dropWhile_append_of_mem {p : Char → Bool} {front rest : List Char} {c : Char}
    (hc : c ∈ front) (hkeep : p c = false) :
    (front ++ rest).dropWhile p = front.dropWhile p ++ rest := by
  have hne : front.dropWhile p ≠ [] := List.ne_nil_of_mem (mem_dropWhile hc hkeep)
  rw [List.dropWhile_append, if_neg (by simpa using hne)]

/-- What stands between two characters that are no white space is not trimmed. -/
theorem trim_append_append {front inner back : List Char}
    (hfront : ∃ c ∈ front, isBlank c = false) (hback : ∃ c ∈ back, isBlank c = false) :
    trim (front ++ inner ++ back) = trimStart front ++ inner ++ trimEnd back := by
  obtain ⟨first, hfirst, hfirstBlank⟩ := hfront
  obtain ⟨last, hlast, hlastBlank⟩ := hback
  rw [trim, trimStart, List.append_assoc, dropWhile_append_of_mem hfirst hfirstBlank, trimEnd,
    ← List.append_assoc, List.reverse_append,
    dropWhile_append_of_mem (List.mem_reverse.mpr hlast) hlastBlank, List.reverse_append,
    List.reverse_reverse, trimStart, trimEnd]

end EntityQuery.Text
