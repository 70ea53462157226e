import EntityQuery.Text.Lowercase

namespace EntityQuery.Text

/-- The run of the letters `A` to `Z`. All others are those of other alphabets. -/
private theorem lowercaseRuns_eq_cons : ∃ others,
    Unicode.lowercaseRuns = ⟨0x41, 0x5A, 1, 32⟩ :: others ∧
      (others.all fun run => 0x80 ≤ run.first) = true :=
  ⟨Unicode.lowercaseRuns.tail, rfl, by decide +kernel⟩

theorem lowercaseChar_of_ascii {c : Char} (hc : c.toNat < 0x80) :
    lowercaseChar c = [c.toLower] := by
  obtain ⟨others, hruns, hlater⟩ := lowercaseRuns_eq_cons
  have hnone : others.findSome? (·.smallLetter? c) = none := by
    refine List.findSome?_eq_none_iff.mpr fun run hrun => ?_
    have hfirst := of_decide_eq_true (List.all_eq_true.mp hlater run hrun)
    rw [Unicode.LowercaseRun.smallLetter?, decide_eq_false (by omega)]
    rfl
  have hletter : ∀ n < 0x80, (Unicode.LowercaseRun.smallLetter? ⟨0x41, 0x5A, 1, 32⟩
      (Char.ofNat n)).getD (Char.ofNat n) = (Char.ofNat n).toLower := by decide +kernel
  have hsmall := hletter c.toNat hc
  rw [Char.ofNat_toNat] at hsmall
  have hdot : ¬ (c.toNat == 0x130) = true := by
    rw [beq_iff_eq]
    omega
  rw [lowercaseChar, if_neg hdot, hruns, List.findSome?_cons, hnone, ← hsmall]
  cases Unicode.LowercaseRun.smallLetter? ⟨0x41, 0x5A, 1, 32⟩ c <;> rfl

private theorem lowercaseAfter_of_ascii (before : List Char) {text : List Char}
    (htext : ∀ c ∈ text, c.toNat < 0x80) : lowercaseAfter before text = text.map Char.toLower := by
  induction text generalizing before with
  | nil => rfl
  | cons c rest ih =>
    obtain ⟨hc, hrest⟩ := List.forall_mem_cons.mp htext
    -- The letter whose small form depends on its neighbours is no character of ASCII.
    have hsigma : ¬ (c == 'Σ') = true := by
      rw [beq_iff_eq]
      rintro rfl
      exact absurd hc (by decide)
    simp only [lowercaseAfter, if_neg hsigma, lowercaseChar_of_ascii hc, ih _ hrest]
    rfl

/-- Characters of ASCII are put in small letters one by one. -/
theorem lowercase_of_ascii {text : List Char} (htext : ∀ c ∈ text, c.toNat < 0x80) :
    lowercase text = text.map Char.toLower := lowercaseAfter_of_ascii [] htext

end EntityQuery.Text
