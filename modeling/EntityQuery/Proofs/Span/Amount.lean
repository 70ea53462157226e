import EntityQuery.Proofs.Number.Integer
import EntityQuery.Span.Amount

namespace EntityQuery.Span

open Number (IsNatural)

variable {word : String} {words more : List String} {tally next last : Tally} {n : Nat}

/-- A number in digits is none of the words in which a letter stands. -/
theorem ne_of_isNatural (h : IsNatural word.toList n) {other : String}
    (hother : Text.isDigits other.toList = false) : word ≠ other := by
  rintro rfl
  rw [(Number.isNatural_iff.mp h).1] at hother
  cases hother

theorem lookup_numberWords (h : (word, n) ∈ numberWords) : numberWords.lookup word = some n := by
  have hlookup : ∀ entry ∈ numberWords, numberWords.lookup entry.1 = some entry.2 := by
    decide +kernel
  exact hlookup _ h

private theorem isDigits_numberWords :
    ∀ entry ∈ numberWords, Text.isDigits entry.1.toList = false := by decide +kernel

/-- A word stands for a number if it is an English word for it or consists of its digits. -/
theorem numberOfWord?_eq_some_iff :
    numberOfWord? word = some n ↔ (word, n) ∈ numberWords ∨ IsNatural word.toList n := by
  unfold numberOfWord?
  split
  case h_1 m hlookup =>
    obtain ⟨before, behind, hwords, -⟩ := List.lookup_eq_some_iff.mp hlookup
    have hmem : (word, m) ∈ numberWords := by simp [hwords]
    have hletters : Text.isDigits word.toList = false := isDigits_numberWords (word, m) hmem
    rw [Option.some.injEq]
    constructor
    · rintro rfl
      exact .inl hmem
    · rintro (hword | hdigits)
      · exact Option.some.inj (hlookup.symm.trans (lookup_numberWords hword))
      · exact absurd rfl (ne_of_isNatural hdigits hletters)
  case h_2 hlookup =>
    rw [Number.readDigits_eq_some_iff]
    refine (or_iff_right fun hword => ?_).symm
    rw [lookup_numberWords hword] at hlookup
    cases hlookup

/-- Whether a word may stand in an amount. -/
def IsAmountWord (word : String) : Prop :=
  word ∈ ["and", "hundred", "thousand"] ∨ (numberOfWord? word).isSome = true

instance (word : String) : Decidable (IsAmountWord word) := inferInstanceAs (Decidable (_ ∨ _))

theorem checked_eq_some_iff {amount : Nat} :
    checked n = some amount ↔ n < 0x8000000000000000 ∧ amount = n := by
  rw [checked, Option.ite_none_right_eq_some, Option.some.injEq, maxAmount, eq_comm (a := n)]
  exact and_congr_left fun _ => by omega

theorem checked_cases (n : Nat) :
    n ≤ maxAmount ∧ checked n = some n ∨ maxAmount < n ∧ checked n = none := by
  rcases Nat.lt_or_ge maxAmount n with hlarge | hfits
  · exact .inr ⟨hlarge, if_neg (Nat.not_le.mpr hlarge)⟩
  · exact .inl ⟨hfits, if_pos hfits⟩

namespace Tally

def sum (tally : Tally) : Nat := tally.total + tally.current

/-- What has been read of an amount after one more word, whatever its size. -/
def add (tally : Tally) (word : String) : Tally :=
  match word with
  | "and" => tally
  | "hundred" => ⟨tally.total, max tally.current 1 * 100⟩
  | "thousand" => ⟨tally.total + max tally.current 1 * 1000, 0⟩
  | word => ⟨tally.total, tally.current + (numberOfWord? word).getD 0⟩

theorem add_number (tally : Tally) (h : numberOfWord? word = some n) :
    tally.add word = ⟨tally.total, tally.current + n⟩ := by
  have hne : ∀ {other : String}, numberOfWord? other = none → word ≠ other := by
    rintro _ hnone rfl
    rw [hnone] at h
    cases h
  unfold add
  split
  case h_1 => exact absurd rfl (hne (by decide +kernel))
  case h_2 => exact absurd rfl (hne (by decide +kernel))
  case h_3 => exact absurd rfl (hne (by decide +kernel))
  case h_4 => rw [h, Option.getD_some]

/-- No word makes an amount smaller. -/
theorem sum_le_sum_add (tally : Tally) (word : String) : tally.sum ≤ (tally.add word).sum := by
  unfold add
  split <;> simp only [sum] <;> omega

theorem sum_le_sum_foldl (words : List String) (tally : Tally) :
    tally.sum ≤ (words.foldl add tally).sum := by
  induction words generalizing tally with
  | nil => exact Nat.le_refl _
  | cons word rest ih => exact Nat.le_trans (tally.sum_le_sum_add word) (ih (tally.add word))

/-- One more word is added to an amount, unless it is no word of an amount or makes the amount too
    large. -/
theorem read?_cases (tally : Tally) (word : String) :
    IsAmountWord word ∧ tally.read? word = some (tally.add word) ∨
      (IsAmountWord word → maxAmount < (tally.add word).sum) ∧ tally.read? word = none := by
  unfold read?
  split
  case h_1 => exact .inl ⟨by decide, rfl⟩
  case h_2 =>
    rcases checked_cases (max tally.current 1 * 100) with ⟨-, hchecked⟩ | ⟨hlarge, hchecked⟩
    · exact .inl ⟨by decide, by rw [hchecked]; rfl⟩
    · exact .inr ⟨fun _ => Nat.lt_add_left _ hlarge, by rw [hchecked]; rfl⟩
  case h_3 =>
    rcases checked_cases (max tally.current 1 * 1000) with ⟨-, hchecked⟩ | ⟨hlarge, hchecked⟩
    · rcases checked_cases (tally.total + max tally.current 1 * 1000) with
        ⟨-, htotal⟩ | ⟨hlarge, htotal⟩
      · refine .inl ⟨by decide, ?_⟩
        simp only [hchecked, htotal, Option.bind_eq_bind, Option.bind_some]
        rfl
      · refine .inr ⟨fun _ => Nat.lt_add_right _ hlarge, ?_⟩
        simp only [hchecked, htotal, Option.bind_eq_bind, Option.bind_some, Option.bind_none]
    · refine .inr ⟨fun _ => Nat.lt_add_right _ (Nat.lt_add_left _ hlarge), ?_⟩
      rw [hchecked]
      rfl
  case h_4 hand hhundred hthousand =>
    cases hnumber : numberOfWord? word with
    | none =>
      refine .inr ⟨fun hword => ?_, rfl⟩
      simp only [IsAmountWord, hnumber, List.mem_cons, List.not_mem_nil, or_false,
        Option.isSome_none, Bool.false_eq_true] at hword
      rcases hword with rfl | rfl | rfl
      · exact absurd rfl hand
      · exact absurd rfl hhundred
      · exact absurd rfl hthousand
    | some n =>
      have hword : IsAmountWord word := .inr (by rw [hnumber]; rfl)
      rw [add_number tally hnumber, Option.bind_eq_bind, Option.bind_some]
      rcases checked_cases n with ⟨-, hchecked⟩ | ⟨hlarge, hchecked⟩
      · rcases checked_cases (tally.current + n) with ⟨-, hcurrent⟩ | ⟨hlarge, hcurrent⟩
        · refine .inl ⟨hword, ?_⟩
          simp only [hchecked, hcurrent, Option.bind_some]
          rfl
        · refine .inr ⟨fun _ => Nat.lt_add_left _ hlarge, ?_⟩
          simp only [hchecked, hcurrent, Option.bind_some, Option.bind_none]
      · refine .inr ⟨fun _ => Nat.lt_add_left _ (Nat.lt_add_left _ hlarge), ?_⟩
        rw [hchecked]
        rfl

end Tally

/-- What a list of words comes to, whatever the size. -/
def tallied (words : List String) : Tally := words.foldl Tally.add ⟨0, 0⟩

/-- To check every step is to check the outcome, because no step makes the amount smaller. -/
theorem foldlM_read?_eq_some_iff : ((words.foldlM Tally.read? tally).bind fun last =>
      checked last.sum) = some n ↔
    (∀ word ∈ words, IsAmountWord word) ∧ checked (words.foldl Tally.add tally).sum = some n := by
  induction words generalizing tally with
  | nil => exact (and_iff_right (List.forall_mem_nil _)).symm
  | cons word rest ih =>
    rw [List.foldlM_cons, List.foldl_cons, List.forall_mem_cons]
    rcases tally.read?_cases word with ⟨hword, hread⟩ | ⟨hlarge, hread⟩
    · rw [hread, Option.bind_eq_bind, Option.bind_some, ih, and_iff_right hword]
    · rw [hread]
      refine iff_of_false (fun h => nomatch h) ?_
      rintro ⟨⟨hword, -⟩, hchecked⟩
      have hlater := Tally.sum_le_sum_foldl rest (tally.add word)
      rw [checked, if_neg (Nat.not_le.mpr (Nat.lt_of_lt_of_le (hlarge hword) hlater))] at hchecked
      cases hchecked

theorem readAmount?_eq_some_iff : readAmount? words = some n ↔
    (∀ word ∈ words, IsAmountWord word) ∧ checked (tallied words).sum = some n :=
  foldlM_read?_eq_some_iff

/-- A number in digits by itself is an amount, unless it is too large. -/
theorem readAmount?_digits (h : IsNatural word.toList n) : readAmount? [word] = checked n := by
  have hnumber := numberOfWord?_eq_some_iff.mpr (.inr h)
  have hword : IsAmountWord word := .inr (by rw [hnumber]; rfl)
  have hsum : (tallied [word]).sum = n := by
    rw [tallied, List.foldl_cons, List.foldl_nil, Tally.add_number _ hnumber]
    exact (Nat.zero_add _).trans (Nat.zero_add n)
  refine Option.ext fun amount => ?_
  rw [readAmount?_eq_some_iff, hsum, List.forall_mem_singleton, and_iff_right hword]

/-- To read a number in digits at once gives what it gives to read it word by word. -/
theorem amount?_eq_readAmount? (hne : words ≠ []) : amount? words = readAmount? words := by
  unfold amount?
  split
  case h_1 => exact absurd rfl hne
  case h_2 word =>
    split
    case h_1 n hdigits => exact (readAmount?_digits (Number.readDigits_eq_some_iff.mp hdigits)).symm
    case h_2 => rfl
  case h_3 => rfl

theorem amount?_digits (h : IsNatural word.toList n) : amount? [word] = checked n := by
  rw [amount?_eq_readAmount? (List.cons_ne_nil _ _), readAmount?_digits h]

theorem amount?_eq_some_iff : amount? words = some n ↔
    words ≠ [] ∧ (∀ word ∈ words, IsAmountWord word) ∧ checked (tallied words).sum = some n := by
  by_cases hne : words = []
  · subst hne
    exact iff_of_false (fun h => nomatch h) fun h => h.1 rfl
  · rw [amount?_eq_readAmount? hne, readAmount?_eq_some_iff, and_iff_right hne]

/-- Words that lead from what has been read of an amount to what has been read behind them. -/
structure Leads (words : List String) (tally next : Tally) : Prop where
  known : ∀ word ∈ words, IsAmountWord word
  foldl_eq : words.foldl Tally.add tally = next

namespace Leads

theorem append (h : Leads words tally next) (hmore : Leads more next last) :
    Leads (words ++ more) tally last where
  known := List.forall_mem_append.mpr ⟨h.known, hmore.known⟩
  foldl_eq := by rw [List.foldl_append, h.foldl_eq, hmore.foldl_eq]

theorem conjunctions (h : ∀ word ∈ words, word = "and") (tally : Tally) :
    Leads words tally tally where
  known word hword := .inl (h word hword ▸ List.mem_cons_self)
  foldl_eq := by
    induction words with
    | nil => rfl
    | cons word rest ih =>
      obtain ⟨rfl, hrest⟩ := List.forall_mem_cons.mp h
      exact ih hrest

theorem number (h : (word, n) ∈ numberWords) (total current : Nat) :
    Leads [word] ⟨total, current⟩ ⟨total, current + n⟩ where
  known := by
    rw [List.forall_mem_singleton, IsAmountWord, numberOfWord?_eq_some_iff.mpr (.inl h)]
    exact .inr rfl
  foldl_eq := Tally.add_number _ (numberOfWord?_eq_some_iff.mpr (.inl h))

theorem hundred (total : Nat) (hn : 1 ≤ n) : Leads ["hundred"] ⟨total, n⟩ ⟨total, 100 * n⟩ where
  known := by decide
  foldl_eq := by
    change (⟨total, max n 1 * 100⟩ : Tally) = _
    rw [Nat.max_eq_left hn, Nat.mul_comm]

theorem thousand (total : Nat) (hn : 1 ≤ n) :
    Leads ["thousand"] ⟨total, n⟩ ⟨total + 1000 * n, 0⟩ where
  known := by decide
  foldl_eq := by
    change (⟨total + max n 1 * 1000, 0⟩ : Tally) = _
    rw [Nat.max_eq_left hn, Nat.mul_comm]

end Leads

/-- The words for the numbers below twenty. -/
def smallWords : List String := ["zero", "one", "two", "three", "four", "five", "six", "seven",
  "eight", "nine", "ten", "eleven", "twelve", "thirteen", "fourteen", "fifteen", "sixteen",
  "seventeen", "eighteen", "nineteen"]

/-- The words for twenty, thirty and so on. -/
def tensWords : List String :=
  ["twenty", "thirty", "forty", "fifty", "sixty", "seventy", "eighty", "ninety"]

def smallWord (n : Nat) : String := smallWords.getD n ""

def tensWord (tens : Nat) : String := tensWords.getD (tens - 2) ""

/-- A number below one hundred in words. -/
def spelledTens (n : Nat) : List String :=
  if n < 20 then [smallWord n]
  else tensWord (n / 10) :: if n % 10 = 0 then [] else [smallWord (n % 10)]

/-- A number below one thousand in words, with a joint between the hundreds and what follows. -/
def spelledHundreds (joint : List String) (n : Nat) : List String :=
  if n < 100 then spelledTens n
  else smallWord (n / 100) :: "hundred" ::
    if n % 100 = 0 then [] else joint ++ spelledTens (n % 100)

/-- A number below one million in words. A joint stands in front of the tens where hundreds or
    thousands precede them. -/
def spelled (joint : List String) (n : Nat) : List String :=
  if n < 1000 then spelledHundreds joint n
  else spelledHundreds joint (n / 1000) ++ "thousand" ::
    if n % 1000 = 0 then []
    else if n % 1000 < 100 then joint ++ spelledTens (n % 1000)
    else spelledHundreds joint (n % 1000)

example : spelled ["and"] 120007 =
    ["one", "hundred", "and", "twenty", "thousand", "and", "seven"] := by decide

theorem smallWord_mem (hn : n < 20) : (smallWord n, n) ∈ numberWords := by
  revert n
  decide +kernel

theorem tensWord_mem {tens : Nat} (htwo : 2 ≤ tens) (hten : tens < 10) :
    (tensWord tens, 10 * tens) ∈ numberWords := by
  revert tens
  decide +kernel

theorem leads_spelledTens (hn : n < 100) (total current : Nat) :
    Leads (spelledTens n) ⟨total, current⟩ ⟨total, current + n⟩ := by
  unfold spelledTens
  split
  case isTrue hsmall => exact .number (smallWord_mem hsmall) total current
  case isFalse hlarge =>
    have hword := tensWord_mem (show 2 ≤ n / 10 by omega) (by omega)
    have htens := Leads.number hword total current
    split
    case isTrue hround =>
      rwa [show 10 * (n / 10) = n by omega] at htens
    case isFalse hunit =>
      have hones := Leads.number (smallWord_mem (show n % 10 < 20 by omega)) total
        (current + 10 * (n / 10))
      rw [show current + 10 * (n / 10) + n % 10 = current + n by omega] at hones
      exact htens.append hones

theorem leads_spelledHundreds {joint : List String} (hjoint : ∀ word ∈ joint, word = "and")
    (hn : n < 1000) (total : Nat) : Leads (spelledHundreds joint n) ⟨total, 0⟩ ⟨total, n⟩ := by
  unfold spelledHundreds
  split
  case isTrue hsmall =>
    have htens := leads_spelledTens hsmall total 0
    rwa [Nat.zero_add] at htens
  case isFalse hlarge =>
    have hcount := Leads.number (smallWord_mem (show n / 100 < 20 by omega)) total 0
    rw [Nat.zero_add] at hcount
    have hhundreds := hcount.append (.hundred total (show 1 ≤ n / 100 by omega))
    split
    case isTrue hround => rwa [show 100 * (n / 100) = n by omega] at hhundreds
    case isFalse htens =>
      have hrest := leads_spelledTens (show n % 100 < 100 by omega) total (100 * (n / 100))
      rw [show 100 * (n / 100) + n % 100 = n by omega] at hrest
      exact hhundreds.append ((Leads.conjunctions hjoint _).append hrest)

theorem leads_spelled {joint : List String} (hjoint : ∀ word ∈ joint, word = "and")
    (hn : n < 1000000) : ∃ tally, Leads (spelled joint n) ⟨0, 0⟩ tally ∧ tally.sum = n := by
  unfold spelled
  split
  case isTrue hsmall => exact ⟨_, leads_spelledHundreds hjoint hsmall 0, Nat.zero_add n⟩
  case isFalse hlarge =>
    have hcount := leads_spelledHundreds hjoint (show n / 1000 < 1000 by omega) 0
    have hthousands := hcount.append (.thousand 0 (show 1 ≤ n / 1000 by omega))
    rw [Nat.zero_add] at hthousands
    split
    case isTrue hround => exact ⟨_, hthousands, show 1000 * (n / 1000) + 0 = n by omega⟩
    case isFalse hrest =>
      refine ⟨⟨1000 * (n / 1000), n % 1000⟩, ?_, Nat.div_add_mod n 1000⟩
      rw [List.append_cons]
      refine hthousands.append ?_
      split
      case isTrue htens =>
        have hleads := leads_spelledTens htens (1000 * (n / 1000)) 0
        rw [Nat.zero_add] at hleads
        exact (Leads.conjunctions hjoint _).append hleads
      case isFalse hhundreds =>
        exact leads_spelledHundreds hjoint (Nat.mod_lt n (by decide)) _

theorem spelled_ne_nil (joint : List String) (n : Nat) : spelled joint n ≠ [] := by
  unfold spelled
  split
  · unfold spelledHundreds
    split
    · unfold spelledTens
      split <;> exact List.cons_ne_nil _ _
    · exact List.cons_ne_nil _ _
  · exact List.append_ne_nil_of_right_ne_nil _ (List.cons_ne_nil _ _)

/-- An amount is what its words come to, where `hundred` and `thousand` multiply what precedes them
    and `and` changes nothing, and there is none just if there are no words, some word is neither
    one of those nor a number, or the outcome does not fit in 64 bits with a sign. So numbers below
    one million are read back from how they are spelled out. -/
theorem amount?_exact :
    (∀ word n, numberOfWord? word = some n ↔
      (word, n) ∈ numberWords ∨ IsNatural word.toList n) ∧
    (∀ words, amount? words =
      if words ≠ [] ∧ (∀ word ∈ words, IsAmountWord word) ∧
        (tallied words).sum ≤ 0x7FFFFFFFFFFFFFFF then some (tallied words).sum else none) ∧
    ∀ joint n, (∀ word ∈ joint, word = "and") → n ≤ 999999 →
      amount? (spelled joint n) = some n := by
  refine ⟨fun _ _ => numberOfWord?_eq_some_iff, fun words => ?_, fun joint n hjoint hn => ?_⟩
  · refine Option.ext fun n => ?_
    rw [amount?_eq_some_iff, Option.ite_none_right_eq_some, checked, Option.ite_none_right_eq_some,
      and_assoc, and_assoc]
    rfl
  · obtain ⟨tally, hleads, rfl⟩ := leads_spelled hjoint (Nat.lt_succ_of_le hn)
    refine amount?_eq_some_iff.mpr ⟨spelled_ne_nil _ _, hleads.known, ?_⟩
    rw [tallied, hleads.foldl_eq]
    exact if_pos (Nat.le_trans hn (by decide))

/-- The largest amount, the one behind it, and the largest number that is spelled out. -/
theorem amount?_exact_largest :
    amount? ["9223372036854775", "thousand", "eight", "hundred", "and", "seven"] =
      some 0x7FFFFFFFFFFFFFFF ∧
    amount? ["9223372036854775", "thousand", "eight", "hundred", "and", "eight"] = none ∧
    (∀ word ∈ ["and"], word = "and") ∧ 999999 ≤ 999999 ∧
    amount? (spelled ["and"] 999999) = some 999999 := by
  obtain ⟨-, hamount, hspelled⟩ := amount?_exact
  refine ⟨(hamount _).trans ?_, (hamount _).trans ?_, by decide, by decide,
    hspelled _ _ (by decide) (by decide)⟩
  · decide +kernel
  · decide +kernel

end EntityQuery.Span
