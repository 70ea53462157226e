import EntityQuery.Number.Integer
import EntityQuery.Proofs.Text

namespace EntityQuery.Number

/-- A text denotes a natural number by one or more decimal digits. -/
structure IsNatural (text : List Char) (n : Nat) : Prop where
  ne_nil : text ≠ []
  digits : ∀ c ∈ text, c.isDigit = true
  value : Nat.ofDigitChars 10 text 0 = n

/-- A text denotes an integer by decimal digits, which may carry a sign. -/
inductive IsInteger : List Char → Int → Prop
  | unsigned {text : List Char} {n : Nat} (h : IsNatural text n) : IsInteger text n
  | plus {text : List Char} {n : Nat} (h : IsNatural text n) : IsInteger ('+' :: text) n
  | minus {text : List Char} {n : Nat} (h : IsNatural text n) : IsInteger ('-' :: text) (-n)

variable {text : List Char}

theorem IsNatural.ne_cons {n : Nat} {c : Char} {rest : List Char} (h : IsNatural text n)
    (hc : c.isDigit = false) : text ≠ c :: rest := by
  rintro rfl
  exact Bool.false_ne_true (hc.symm.trans (h.digits c List.mem_cons_self))

theorem isNatural_iff {n : Nat} :
    IsNatural text n ↔ Text.isDigits text = true ∧ Nat.ofDigitChars 10 text 0 = n := by
  rw [Text.isDigits, Bool.and_eq_true, Bool.not_eq_true', List.isEmpty_eq_false_iff,
    List.all_eq_true, and_assoc]
  exact ⟨fun h => ⟨h.ne_nil, h.digits, h.value⟩,
    fun ⟨hne, hdigits, hvalue⟩ => ⟨hne, hdigits, hvalue⟩⟩

instance (text : List Char) (n : Nat) : Decidable (IsNatural text n) :=
  decidable_of_iff _ isNatural_iff.symm

theorem readDigits_eq_some_iff {n : Nat} : readDigits text = some n ↔ IsNatural text n := by
  rw [readDigits, Option.ite_none_right_eq_some, Option.some.injEq, isNatural_iff]

theorem readInteger_eq_some_iff {n : Int} : readInteger text = some n ↔ IsInteger text n := by
  constructor
  · intro h
    unfold readInteger at h
    split at h
    all_goals
      obtain ⟨read, hread, rfl⟩ := Option.map_eq_some_iff.mp h
      obtain ⟨magnitude, hmagnitude, hlifted⟩ := Option.bind_eq_some_iff.mp hread
      cases hlifted
      rw [readDigits_eq_some_iff] at hmagnitude
    · exact .minus hmagnitude
    · exact .plus hmagnitude
    · exact .unsigned hmagnitude
  · intro h
    cases h with
    | plus h | minus h => simp [readInteger, readDigits_eq_some_iff.mpr h]
    | unsigned h =>
      unfold readInteger
      split
      · exact absurd rfl (h.ne_cons (by decide))
      · exact absurd rfl (h.ne_cons (by decide))
      · rw [readDigits_eq_some_iff.mpr h]
        rfl

theorem isNatural_toDigits (n : Nat) : IsNatural (Nat.toDigits 10 n) n where
  ne_nil := Nat.toDigits_ne_nil
  digits _ hc := Nat.isDigit_of_mem_toDigits (by decide) (by decide) hc
  value := Nat.ofDigitChars_ten_toDigits

/-- An integer is denoted by the text that it is shown as. -/
theorem isInteger_toString (n : Int) : IsInteger (toString n).toList n := by
  cases n with
  | ofNat n =>
    have htext : (toString (n : Int)).toList = Nat.toDigits 10 n := String.toList_ofList
    exact htext ▸ .unsigned (isNatural_toDigits n)
  | negSucc n =>
    have htext : (toString (Int.negSucc n)).toList = '-' :: Nat.toDigits 10 (n + 1) := by
      have hsign : toString (Int.negSucc n) = "-" ++ String.ofList (Nat.toDigits 10 (n + 1)) := rfl
      rw [hsign, String.toList_append]
      exact congrArg ('-' :: ·) String.toList_ofList
    exact htext ▸ .minus (isNatural_toDigits (n + 1))

/-- The text of an integer has only digits and signs. -/
theorem IsInteger.isDigit_or_sign {n : Int} (h : IsInteger text n) :
    ∀ c ∈ text, c.isDigit = true ∨ c = '+' ∨ c = '-' := by
  cases h with
  | unsigned h => exact fun c hc => .inl (h.digits c hc)
  | plus h => exact List.forall_mem_cons.mpr ⟨.inr (.inl rfl), fun c hc => .inl (h.digits c hc)⟩
  | minus h => exact List.forall_mem_cons.mpr ⟨.inr (.inr rfl), fun c hc => .inl (h.digits c hc)⟩

/-- There is no white space in the text of an integer. -/
theorem IsInteger.isBlank_eq_false {n : Int} (h : IsInteger text n) :
    ∀ c ∈ text, Text.isBlank c = false := by
  intro c hc
  rcases h.isDigit_or_sign c hc with hdigit | rfl | rfl
  · exact Text.isBlank_of_isDigit hdigit
  · decide
  · decide

/-- The integers of 64 bits are those that a text denotes within their range. -/
theorem readInt64_eq_some_iff {n : Int64} : readInt64 text = some n ↔ IsInteger text n.toInt := by
  rw [← readInteger_eq_some_iff, readInt64]
  cases readInteger text with
  | none => simp
  | some m =>
    change (if fitsInt64 m then some (Int64.ofInt m) else none) = some n ↔ some m = some n.toInt
    rw [Option.ite_none_right_eq_some, Option.some.injEq, Option.some.injEq, fitsInt64]
    simp only [Bool.and_eq_true, decide_eq_true_eq]
    constructor
    · rintro ⟨⟨hlow, hhigh⟩, rfl⟩
      exact (Int64.toInt_ofInt_of_le hlow hhigh).symm
    · rintro rfl
      exact ⟨⟨n.le_toInt, n.toInt_lt⟩, n.ofInt_toInt⟩

end EntityQuery.Number
