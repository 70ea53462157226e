import EntityQuery.Proofs.ValueFilter.RoundTrip

namespace EntityQuery.ValueFilter

variable {escape separator c d : Char} {text : List Char}

/-- How many escapes stand directly in front of an index. -/
def escapesBefore (escape : Char) (text : List Char) (i : Nat) : Nat :=
  ((text.take i).reverse.takeWhile (· == escape)).length

/-- Whether a character stands free at an index: it is no escape, and the escapes directly in front
    of it are even in number, so that they escape each other. -/
def standsFree (escape c : Char) (text : List Char) (i : Nat) : Bool :=
  text[i]? == some c && c != escape && escapesBefore escape text i % 2 == 0

/-- The indexes at which a character stands free in a text. -/
def freeIndexes (escape c : Char) (text : List Char) : List Nat :=
  (List.range text.length).filter (standsFree escape c text)

theorem escapesBefore_cons (hd : d ≠ escape) (text : List Char) (i : Nat) :
    escapesBefore escape (d :: text) (i + 1) = escapesBefore escape text i := by
  rw [escapesBefore, List.take_succ_cons, List.reverse_cons, List.takeWhile_append]
  split
  case isTrue hall => simp [escapesBefore, hd, hall]
  case isFalse => rfl

/-- An escape and the character behind it do not change whether escapes are even in number. -/
theorem escapesBefore_escape (text : List Char) (i : Nat) :
    escapesBefore escape (escape :: d :: text) (i + 2) % 2 = escapesBefore escape text i % 2 := by
  rw [escapesBefore, List.take_succ_cons, List.take_succ_cons, List.reverse_cons, List.reverse_cons,
    List.append_assoc, List.takeWhile_append]
  split
  case isTrue hall =>
    by_cases hd : d = escape
    · simp [escapesBefore, hd, hall]
    · simp [escapesBefore, hd, hall]
  case isFalse => rfl

theorem standsFree_cons (hd : d ≠ escape) (text : List Char) (i : Nat) :
    standsFree escape c (d :: text) (i + 1) = standsFree escape c text i := by
  rw [standsFree, standsFree, escapesBefore_cons hd, List.getElem?_cons_succ]

theorem standsFree_escape (text : List Char) (i : Nat) :
    standsFree escape c (escape :: d :: text) (i + 2) = standsFree escape c text i := by
  rw [standsFree, standsFree, escapesBefore_escape, List.getElem?_cons_succ,
    List.getElem?_cons_succ]

/-- A text is scanned by single characters, and by escapes with the character behind each. -/
@[elab_as_elim]
theorem scan_induction (escape : Char) {motive : List Char → Prop} (nil : motive [])
    (last : motive [escape])
    (escaped : ∀ d rest, motive rest → motive (escape :: d :: rest))
    (plain : ∀ d rest, d ≠ escape → motive rest → motive (d :: rest)) :
    ∀ text, motive text
  | [] => nil
  | [d] => by
    by_cases hd : d = escape
    · exact hd ▸ last
    · exact plain d [] hd nil
  | d :: next :: rest => by
    by_cases hd : d = escape
    · exact hd ▸ escaped next rest (scan_induction escape nil last escaped plain rest)
    · exact plain d (next :: rest) hd (scan_induction escape nil last escaped plain (next :: rest))

private theorem countP_range_succ (p : Nat → Bool) (n : Nat) : (List.range (n + 1)).countP p =
    (List.range n).countP (fun i => p (i + 1)) + if p 0 then 1 else 0 := by
  rw [List.range_succ_eq_map, List.countP_cons, List.countP_map]
  rfl

/-- No escape stands free, and neither does the character behind one. -/
theorem standsFree_escape_zero (rest : List Char) :
    standsFree escape c (escape :: rest) 0 = false := by
  by_cases hc : escape = c <;> simp [standsFree, hc]

theorem standsFree_escape_one (rest : List Char) :
    standsFree escape c (escape :: d :: rest) 1 = false := by
  simp [standsFree, escapesBefore]

/-- A character is scanned as an unescaped one at the indexes at which it stands free. -/
theorem length_freeIndexes (escape c : Char) (text : List Char) :
    (freeIndexes escape c text).length = (unescapedChars escape text).count c := by
  rw [freeIndexes, ← List.countP_eq_length_filter]
  induction text using scan_induction escape with
  | nil => rfl
  | last => simp [standsFree_escape_zero, unescapedChars]
  | escaped d rest ih =>
    rw [unescapedChars_escape, ← ih, List.length_cons, List.length_cons, countP_range_succ,
      countP_range_succ]
    simp [standsFree_escape_zero, standsFree_escape_one, standsFree_escape]
  | plain d rest hd ih =>
    have hfirst : standsFree escape c (d :: rest) 0 = (d == c) := by
      by_cases hc : d = c
      · simp [standsFree, escapesBefore, ← hc, hd]
      · simp [standsFree, beq_false_of_ne hc]
    rw [unescapedChars_cons hd, List.count_cons, ← ih, List.length_cons, countP_range_succ, hfirst]
    simp only [standsFree_cons hd]

theorem intercalate_prepend (separator : Char) (front : List Char) {pieces : List (List Char)}
    (hne : pieces ≠ []) : [separator].intercalate (prepend front pieces) =
      front ++ [separator].intercalate pieces := by
  obtain ⟨piece, rest, rfl⟩ := List.exists_cons_of_ne_nil hne
  cases rest with
  | nil => simp [prepend]
  | cons next others => simp [prepend, List.intercalate_cons_cons]

theorem length_prepend (front : List Char) {pieces : List (List Char)} (hne : pieces ≠ []) :
    (prepend front pieces).length = pieces.length := by
  obtain ⟨piece, rest, rfl⟩ := List.exists_cons_of_ne_nil hne
  rfl

theorem forall_mem_prepend {P : List Char → Prop} {front : List Char} {pieces : List (List Char)}
    (hne : pieces ≠ []) (hfront : ∀ piece, P piece → P (front ++ piece))
    (h : ∀ piece ∈ pieces, P piece) : ∀ piece ∈ prepend front pieces, P piece := by
  obtain ⟨piece, rest, rfl⟩ := List.exists_cons_of_ne_nil hne
  obtain ⟨hfirst, hrest⟩ := List.forall_mem_cons.mp h
  exact List.forall_mem_cons.mpr ⟨hfront piece hfirst, hrest⟩

/-- The pieces make up the text, with the separator between every two of them. -/
theorem intercalate_splitUnescaped (escape separator : Char) (text : List Char) :
    [separator].intercalate (splitUnescaped escape separator text) = text := by
  induction text using scan_induction escape with
  | nil => simp [splitUnescaped]
  | last => simp [splitUnescaped]
  | escaped d rest ih =>
    rw [splitUnescaped_escape, intercalate_prepend _ _ (splitUnescaped_ne_nil rest), ih]
    rfl
  | plain d rest hd ih =>
    by_cases hseparator : d = separator
    · subst hseparator
      have hne : splitUnescaped escape d rest ≠ [] := splitUnescaped_ne_nil rest
      obtain ⟨piece, others, hpieces⟩ := List.exists_cons_of_ne_nil hne
      rw [splitUnescaped_separator hd, hpieces, List.intercalate_cons_cons, ← hpieces, ih]
      rfl
    · rw [splitUnescaped_cons hd hseparator,
        intercalate_prepend _ _ (splitUnescaped_ne_nil rest), ih]
      rfl

/-- No separator stands unescaped within a piece. -/
theorem notMem_of_mem_splitUnescaped (escape separator : Char) (text : List Char) :
    ∀ piece ∈ splitUnescaped escape separator text, separator ∉ unescapedChars escape piece := by
  induction text using scan_induction escape with
  | nil => simp [splitUnescaped, unescapedChars]
  | last => simp [splitUnescaped, unescapedChars]
  | escaped d rest ih =>
    rw [splitUnescaped_escape]
    refine forall_mem_prepend (splitUnescaped_ne_nil rest) (fun piece hpiece => ?_) ih
    rw [List.cons_append, List.cons_append, unescapedChars_escape]
    exact hpiece
  | plain d rest hd ih =>
    by_cases hseparator : d = separator
    · subst hseparator
      rw [splitUnescaped_separator hd]
      exact List.forall_mem_cons.mpr ⟨List.not_mem_nil, ih⟩
    · rw [splitUnescaped_cons hd hseparator]
      refine forall_mem_prepend (splitUnescaped_ne_nil rest) (fun piece hpiece => ?_) ih
      rw [List.cons_append, unescapedChars_cons hd, List.mem_cons, not_or]
      exact ⟨Ne.symm hseparator, hpiece⟩

/-- There is one more piece than unescaped separators. -/
theorem length_splitUnescaped (escape separator : Char) (text : List Char) :
    (splitUnescaped escape separator text).length =
      (unescapedChars escape text).count separator + 1 := by
  induction text using scan_induction escape with
  | nil => rfl
  | last => simp [splitUnescaped, unescapedChars]
  | escaped d rest ih =>
    rw [splitUnescaped_escape, length_prepend _ (splitUnescaped_ne_nil rest), ih,
      unescapedChars_escape]
  | plain d rest hd ih =>
    rw [unescapedChars_cons hd, List.count_cons]
    by_cases hseparator : d = separator
    · subst hseparator
      rw [splitUnescaped_separator hd, List.length_cons, ih, beq_self_eq_true, if_pos rfl]
    · rw [splitUnescaped_cons hd hseparator, length_prepend _ (splitUnescaped_ne_nil rest), ih]
      simp [hseparator]

variable {settings : FilterSettings} {raw : List Char}

theorem mem_unescapedChars_iff :
    c ∈ unescapedChars escape text ↔ freeIndexes escape c text ≠ [] := by
  rw [← List.count_pos_iff, ← length_freeIndexes, List.length_pos_iff]

theorem separator?_eq_none (h : ∀ c ∈ settings.separators.toList,
    freeIndexes settings.escapeChar c raw = []) : separator? settings raw = none := by
  refine List.find?_eq_none.mpr fun c hc hcontains => ?_
  exact mem_unescapedChars_iff.mp (List.contains_iff_mem.mp hcontains) (h c hc)

/-- The first separator of the settings that stands free anywhere cuts the text. -/
theorem separator?_eq_some {before behind : List Char}
    (hseparators : settings.separators.toList = before ++ separator :: behind)
    (hbefore : ∀ c ∈ before, freeIndexes settings.escapeChar c raw = [])
    (hfree : freeIndexes settings.escapeChar separator raw ≠ []) :
    separator? settings raw = some separator := by
  refine List.find?_eq_some_iff_append.mpr ⟨?_, before, behind, hseparators, fun c hc => ?_⟩
  · exact List.contains_iff_mem.mpr (mem_unescapedChars_iff.mpr hfree)
  · rw [Bool.not_eq_true', ← Bool.not_eq_true, List.contains_iff_mem, mem_unescapedChars_iff]
    exact not_not.mpr (hbefore c hc)

/-- Cutting a text into values loses nothing. Where no separator stands free the text is one value,
    and otherwise the first separator of the settings that does cuts it: with that separator between
    them the values give back the text, it stands free in none of them, and there is one more of
    them than indexes at which it stands free. So a text is read as one filter for each of these
    values, and as one filter at least. -/
theorem splitValues_lossless (settings : FilterSettings) (raw : String) :
    ((∀ c ∈ settings.separators.toList, freeIndexes settings.escapeChar c raw.toList = []) →
      splitValues settings raw.toList = [raw.toList]) ∧
    (∀ before separator behind, settings.separators.toList = before ++ separator :: behind →
      (∀ c ∈ before, freeIndexes settings.escapeChar c raw.toList = []) →
      freeIndexes settings.escapeChar separator raw.toList ≠ [] →
      [separator].intercalate (splitValues settings raw.toList) = raw.toList ∧
      (∀ value ∈ splitValues settings raw.toList,
        freeIndexes settings.escapeChar separator value = []) ∧
      (splitValues settings raw.toList).length =
        (freeIndexes settings.escapeChar separator raw.toList).length + 1) ∧
    ofSyntax settings raw = (splitValues settings raw.toList).map (ofValue settings) ∧
    ofSyntax settings raw ≠ [] := by
  refine ⟨fun hnone => ?_, fun before separator behind hseparators hbefore hfree => ?_, rfl,
    ofSyntax_ne_nil settings raw⟩
  · rw [splitValues, separator?_eq_none hnone]
  · rw [splitValues, separator?_eq_some hseparators hbefore hfree]
    refine ⟨intercalate_splitUnescaped _ _ _, fun value hvalue => ?_, ?_⟩
    · have hnone := notMem_of_mem_splitUnescaped _ _ _ value hvalue
      rwa [mem_unescapedChars_iff, not_not] at hnone
    · rw [length_freeIndexes]
      exact length_splitUnescaped _ _ _

/-- Settings in which the escape is the first of the separators. -/
def escapeFirst : FilterSettings :=
  { FilterSettings.builtin ⟨⟨739253, by decide⟩, .midnight⟩ with separators := "\\,;|" }

example : splitValues escapeFirst "a\\,b;c\\\\;d\\".toList =
    ["a\\,b".toList, "c\\\\".toList, "d\\".toList] := by decide

/-- A comma behind an escape, a semicolon behind two of them, and an escape at the end. -/
theorem splitValues_lossless_escapeFirst :
    let raw := "a\\,b;c\\\\;d\\"
    escapeFirst.separators.toList = ['\\', ','] ++ ';' :: ['|'] ∧
    (∀ c ∈ ['\\', ','], freeIndexes '\\' c raw.toList = []) ∧
    freeIndexes '\\' ';' raw.toList = [4, 8] ∧
    [';'].intercalate (splitValues escapeFirst raw.toList) = raw.toList ∧
    (∀ value ∈ splitValues escapeFirst raw.toList, freeIndexes '\\' ';' value = []) ∧
    (splitValues escapeFirst raw.toList).length = 3 ∧
    (∀ c ∈ escapeFirst.separators.toList, freeIndexes '\\' c "a\\,b\\".toList = []) ∧
    splitValues escapeFirst "a\\,b\\".toList = ["a\\,b\\".toList] := by
  intro raw
  have hseparators : escapeFirst.separators.toList = ['\\', ','] ++ ';' :: ['|'] := by decide
  have hbefore : ∀ c ∈ ['\\', ','], freeIndexes '\\' c raw.toList = [] :=
    List.forall_mem_cons.mpr ⟨by decide, List.forall_mem_singleton.mpr (by decide)⟩
  have hfree : freeIndexes '\\' ';' raw.toList = [4, 8] := by decide
  have hnone : ∀ c ∈ escapeFirst.separators.toList,
      freeIndexes '\\' c "a\\,b\\".toList = [] := by
    simp only [hseparators, List.cons_append, List.nil_append, List.mem_cons, List.not_mem_nil,
      or_false, forall_eq_or_imp, forall_eq]
    decide
  obtain ⟨hjoined, hvalues, hlength⟩ := (splitValues_lossless escapeFirst raw).2.1 _ _ _
    hseparators hbefore (hfree ▸ List.cons_ne_nil _ _)
  exact ⟨hseparators, hbefore, hfree, hjoined, hvalues,
    hlength.trans (congrArg (List.length · + 1) hfree), hnone,
    (splitValues_lossless escapeFirst "a\\,b\\").1 hnone⟩

end EntityQuery.ValueFilter
