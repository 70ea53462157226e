import EntityQuery.Proofs.Span.Absolute
import EntityQuery.Proofs.Text.Lowercase

namespace EntityQuery.Span

open Calendar (TimeUnit)

variable {word : String} {words : List String} {text : List Char}

/-- The characters that keep the words of a phrase apart, as far as they are in ASCII. -/
def isJoint (c : Char) : Bool := c == '-' || c == '_' || c == ' '

/-- A word of small letters and digits. -/
structure IsWord (word : String) : Prop where
  ne_nil : word.toList ≠ []
  letters : word.toList.all (fun c => c.isLower || c.isDigit) = true

/-- A text in which words are written in any letter case, with one or more joints between every two
    of them. -/
inductive Phrase : List String → List Char → Prop
  | word {word : String} {written : List Char}
    (hwritten : Text.sameIgnoringCase written word.toList = true) : Phrase [word] written
  | join {word : String} {words : List String} {written joints rest : List Char}
    (hwritten : Text.sameIgnoringCase written word.toList = true) (hne : joints ≠ [])
    (hjoints : joints.all isJoint = true) (hrest : Phrase words rest) :
    Phrase (word :: words) (written ++ (joints ++ rest))

theorem toNat_of_isLower_or_isDigit {c : Char} (hc : (c.isLower || c.isDigit) = true) :
    0x30 ≤ c.toNat ∧ c.toNat ≤ 0x39 ∨ 0x61 ≤ c.toNat ∧ c.toNat ≤ 0x7A := by
  rcases Bool.or_eq_true_iff.mp hc with hletter | hdigit
  · obtain ⟨hlow, hhigh⟩ := Bool.and_eq_true_iff.mp hletter
    exact .inr ⟨of_decide_eq_true hlow, of_decide_eq_true hhigh⟩
  · obtain ⟨hlow, hhigh⟩ := Bool.and_eq_true_iff.mp hdigit
    exact .inl ⟨of_decide_eq_true hlow, of_decide_eq_true hhigh⟩

theorem isJoint_iff {c : Char} : isJoint c = true ↔ (c = '-' ∨ c = '_') ∨ c = ' ' := by
  simp only [isJoint, Bool.or_eq_true, beq_iff_eq]

/-- The pieces of a text on either side of a joint have the words of the text. -/
theorem phraseWords_append_joint {c : Char} (hc : isJoint c = true) (before behind : List Char) :
    phraseWords (before ++ c :: behind) = phraseWords before ++ phraseWords behind := by
  have hapart : (c == '-' || c == '_' || Text.isBlank c) = true := by
    rcases isJoint_iff.mp hc with (rfl | rfl) | rfl <;> decide
  simp only [phraseWords]
  rw [List.splitOnP_append_cons before behind hapart, List.filter_append, List.map_append]

theorem phraseWords_joints {joints : List Char} (hjoints : joints.all isJoint = true)
    (behind : List Char) : phraseWords (joints ++ behind) = phraseWords behind := by
  induction joints with
  | nil => rfl
  | cons c rest ih =>
    obtain ⟨hc, hrest⟩ := Bool.and_eq_true_iff.mp hjoints
    exact (phraseWords_append_joint hc [] (rest ++ behind)).trans (ih hrest)

namespace IsWord

theorem isLower_or_isDigit (h : IsWord word) {c : Char} (hc : c ∈ word.toList) :
    (c.isLower || c.isDigit) = true := List.all_eq_true.mp h.letters c hc

/-- A word has no character that keeps words apart. -/
theorem phraseWords_eq (h : IsWord word) : phraseWords word.toList = [word] := by
  have hapart : ∀ c ∈ word.toList, (c == '-' || c == '_' || Text.isBlank c) = false := by
    intro c hc
    have hrange := toNat_of_isLower_or_isDigit (h.isLower_or_isDigit hc)
    have hblank : Text.isBlank c = false := Text.isBlank_of_ascii (by omega) (by omega)
    have hmark : ∀ d : Char, d.toNat ≠ c.toNat → (c == d) = false := fun d hd =>
      beq_false_of_ne fun heq => hd (heq ▸ rfl)
    rw [hblank, hmark '-' (by change 45 ≠ _; omega), hmark '_' (by change 95 ≠ _; omega)]
    rfl
  simp only [phraseWords]
  rw [List.splitOnP_eq_singleton hapart]
  simp [h.ne_nil]

/-- A word is its own form in small letters, whatever letter case it is written in. -/
theorem map_toLower (h : IsWord word) {written : List Char}
    (hwritten : Text.sameIgnoringCase written word.toList = true) :
    written.map Char.toLower = word.toList := by
  have hsmall : ∀ d ∈ word.toList, d.toLower = d := fun d hd => by
    have hrange := toNat_of_isLower_or_isDigit (h.isLower_or_isDigit hd)
    exact Text.toLower_eq_self (by omega)
  have hcases := Text.sameIgnoringCase_iff.mp hwritten
  clear hwritten
  generalize word.toList = letters at hsmall hcases
  induction hcases with
  | nil => rfl
  | @cons c d _ _ hcase _ ih =>
    obtain ⟨hd, hrest⟩ := List.forall_mem_cons.mp hsmall
    rw [List.map_cons, hcase, hd, ih hrest]

theorem toLower_mem (h : IsWord word) {written : List Char}
    (hwritten : Text.sameIgnoringCase written word.toList = true) {c : Char} (hc : c ∈ written) :
    c.toLower ∈ word.toList := by
  rw [← h.map_toLower hwritten]
  exact List.mem_map_of_mem hc

theorem isBlank_written (h : IsWord word) {written : List Char}
    (hwritten : Text.sameIgnoringCase written word.toList = true) {c : Char} (hc : c ∈ written) :
    Text.isBlank c = false := by
  have hrange := toNat_of_isLower_or_isDigit (h.isLower_or_isDigit (h.toLower_mem hwritten hc))
  rw [← Text.isBlank_toLower]
  exact Text.isBlank_of_ascii (by omega) (by omega)

theorem written_ne_nil (h : IsWord word) {written : List Char}
    (hwritten : Text.sameIgnoringCase written word.toList = true) : written ≠ [] := by
  rintro rfl
  exact h.ne_nil (h.map_toLower hwritten).symm

end IsWord

namespace Phrase

/-- What holds for the joints and for the letters of all words, in whatever letter case, holds for
    all characters of a phrase. -/
theorem forall_mem (h : Phrase words text) (hwords : ∀ word ∈ words, IsWord word)
    {P : Char → Prop} (hword : ∀ word ∈ words, ∀ c : Char, c.toLower ∈ word.toList → P c)
    (hjoint : ∀ c, isJoint c = true → P c) : ∀ c ∈ text, P c := by
  induction h with
  | @word word written hwritten =>
    have hfirst := hwords word List.mem_cons_self
    exact fun c hc => hword word List.mem_cons_self c (hfirst.toLower_mem hwritten hc)
  | join hwritten _ hjoints _ ih =>
    obtain ⟨hfirst, hrest⟩ := List.forall_mem_cons.mp hwords
    obtain ⟨hletters, hothers⟩ := List.forall_mem_cons.mp hword
    refine List.forall_mem_append.mpr ⟨fun c hc => ?_, List.forall_mem_append.mpr ⟨?_, ?_⟩⟩
    · exact hletters c (hfirst.toLower_mem hwritten hc)
    · exact fun c hc => hjoint c (List.all_eq_true.mp hjoints c hc)
    · exact ih hrest hothers

/-- A phrase is a text of ASCII. -/
theorem ascii (h : Phrase words text) (hwords : ∀ word ∈ words, IsWord word) :
    ∀ c ∈ text, c.toNat < 0x80 := by
  refine h.forall_mem hwords ?_ ?_
  · intro word hword c hc
    have hrange := toNat_of_isLower_or_isDigit ((hwords word hword).isLower_or_isDigit hc)
    exact Text.ascii_of_toLower (by omega)
  · intro c hc
    rcases isJoint_iff.mp hc with (rfl | rfl) | rfl <;> decide

theorem phraseWords_lowercase (h : Phrase words text) (hwords : ∀ word ∈ words, IsWord word) :
    phraseWords (Text.lowercase text) = words := by
  rw [Text.lowercase_of_ascii (h.ascii hwords)]
  induction h with
  | word hwritten =>
    have hword := hwords _ (List.mem_singleton_self _)
    rw [hword.map_toLower hwritten, hword.phraseWords_eq]
  | @join word words written joints rest hwritten hne hjoints _ ih =>
    obtain ⟨hfirst, hrest⟩ := List.forall_mem_cons.mp hwords
    have hsame : joints.map Char.toLower = joints := by
      refine (List.map_congr_left fun c hc => ?_).trans (List.map_id joints)
      rcases isJoint_iff.mp (List.all_eq_true.mp hjoints c hc) with (rfl | rfl) | rfl <;> rfl
    rw [List.map_append, List.map_append, hfirst.map_toLower hwritten, hsame]
    obtain ⟨c, others, rfl⟩ := List.exists_cons_of_ne_nil hne
    obtain ⟨hc, hothers⟩ := Bool.and_eq_true_iff.mp hjoints
    rw [List.cons_append, phraseWords_append_joint hc, hfirst.phraseWords_eq,
      phraseWords_joints hothers, ih hrest]
    rfl

private theorem ends (h : Phrase words text) (hwords : ∀ word ∈ words, IsWord word) :
    text ≠ [] ∧ (∀ c ∈ text.head?, Text.isBlank c = false) ∧
      ∀ c ∈ text.getLast?, Text.isBlank c = false := by
  induction h with
  | word hwritten =>
    have hword := hwords _ (List.mem_singleton_self _)
    exact ⟨hword.written_ne_nil hwritten,
      fun c hc => hword.isBlank_written hwritten (List.mem_of_mem_head? hc),
      fun c hc => hword.isBlank_written hwritten (List.mem_of_mem_getLast? hc)⟩
  | join hwritten _ _ _ ih =>
    obtain ⟨hword, hrest⟩ := List.forall_mem_cons.mp hwords
    obtain ⟨hne, -, hlast⟩ := ih hrest
    have hfirst := hword.written_ne_nil hwritten
    refine ⟨List.append_ne_nil_of_left_ne_nil hfirst _, fun c hc => ?_, fun c hc => ?_⟩
    · rw [List.head?_append_of_ne_nil _ hfirst] at hc
      exact hword.isBlank_written hwritten (List.mem_of_mem_head? hc)
    · rw [← List.append_assoc, List.getLast?_append_of_ne_nil _ hne] at hc
      exact hlast c hc

theorem ne_nil (h : Phrase words text) (hwords : ∀ word ∈ words, IsWord word) : text ≠ [] :=
  (h.ends hwords).1

/-- A phrase has no white space on either side. -/
theorem trim_eq_self (h : Phrase words text) (hwords : ∀ word ∈ words, IsWord word) :
    Text.trim text = text :=
  Text.trim_eq_self_of_ends (h.ends hwords).2.1 (h.ends hwords).2.2

/-- A phrase starts with its first word as that is written. -/
theorem exists_written (h : Phrase (word :: words) text) : ∃ written rest,
    Text.sameIgnoringCase written word.toList = true ∧ text = written ++ rest := by
  cases h with
  | word hwritten => exact ⟨_, [], hwritten, (List.append_nil _).symm⟩
  | join hwritten => exact ⟨_, _, hwritten, rfl⟩

/-- A phrase that starts with a letter is no absolute literal. -/
theorem absolute?_eq_none (h : Phrase (word :: words) text) (hword : IsWord word)
    (hletter : word.toList.head?.any Char.isDigit = false) (culture : Culture) :
    absolute? culture text = none := by
  obtain ⟨written, rest, hwritten, rfl⟩ := h.exists_written
  obtain ⟨c, others, rfl⟩ := List.exists_cons_of_ne_nil (hword.written_ne_nil hwritten)
  have hdigit : c.isDigit = false := by
    rw [← hword.map_toLower hwritten] at hletter
    rw [← Text.isDigit_toLower]
    exact hletter
  exact Span.absolute?_eq_none hdigit (hword.isBlank_written hwritten List.mem_cons_self)

/-- A phrase that is no absolute literal is read by its words. -/
theorem read?_of_absolute? {raw : String} (h : Phrase words raw.toList)
    (hwords : ∀ word ∈ words, IsWord word) {culture : Culture}
    (habsolute : absolute? culture raw.toList = none) (now : Calendar.DateTime) :
    read? culture now raw = ofWords? now words := by
  have hnonempty : raw.toList.isEmpty = false :=
    List.isEmpty_eq_false_iff.mpr (h.ne_nil hwords)
  simp only [read?, h.trim_eq_self hwords, hnonempty, habsolute, relative?,
    h.phraseWords_lowercase hwords]
  rfl

theorem read?_eq {raw : String} (h : Phrase (word :: words) raw.toList) (hword : IsWord word)
    (hletter : word.toList.head?.any Char.isDigit = false) (hothers : ∀ other ∈ words, IsWord other)
    (culture : Culture) (now : Calendar.DateTime) :
    read? culture now raw = ofWords? now (word :: words) :=
  h.read?_of_absolute? (List.forall_mem_cons.mpr ⟨hword, hothers⟩)
    (h.absolute?_eq_none hword hletter culture) now

end Phrase

end EntityQuery.Span
