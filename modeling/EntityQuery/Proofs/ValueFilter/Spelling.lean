import EntityQuery.ValueFilter.Printer
import EntityQuery.ValueFilter.Reader

namespace EntityQuery.ValueFilter

section Escape

variable {escape separator c : Char}

private theorem unescape_cons (hc : c ≠ escape) (text : List Char) :
    unescape escape (c :: text) = c :: unescape escape text := by
  cases text <;> simp [unescape, hc]

private theorem unescape_escape (text : List Char) :
    unescape escape (escape :: c :: text) = c :: unescape escape text := by
  simp [unescape]

theorem unescapedChars_cons (hc : c ≠ escape) (text : List Char) :
    unescapedChars escape (c :: text) = c :: unescapedChars escape text := by
  cases text <;> simp [unescapedChars, hc]

theorem unescapedChars_escape (text : List Char) :
    unescapedChars escape (escape :: c :: text) = unescapedChars escape text := by
  simp [unescapedChars]

theorem splitUnescaped_cons (hescape : c ≠ escape) (hseparator : c ≠ separator)
    (text : List Char) :
    splitUnescaped escape separator (c :: text) =
      prepend [c] (splitUnescaped escape separator text) := by
  cases text <;> simp [splitUnescaped, hescape, hseparator, prepend]

theorem splitUnescaped_escape (text : List Char) :
    splitUnescaped escape separator (escape :: c :: text) =
      prepend [escape, c] (splitUnescaped escape separator text) := by
  simp [splitUnescaped]

theorem splitUnescaped_separator (hne : separator ≠ escape) (text : List Char) :
    splitUnescaped escape separator (separator :: text) =
      [] :: splitUnescaped escape separator text := by
  cases text <;> simp [splitUnescaped, hne]

private theorem prepend_prepend (front middle : List Char) (pieces : List (List Char)) :
    prepend front (prepend middle pieces) = prepend (front ++ middle) pieces := by
  cases pieces <;> simp [prepend]

private theorem prepend_nil {pieces : List (List Char)} (hne : pieces ≠ []) :
    prepend [] pieces = pieces := by
  cases pieces with
  | nil => exact absurd rfl hne
  | cons piece rest => rfl

private theorem prepend_ne_nil (front : List Char) (pieces : List (List Char)) :
    prepend front pieces ≠ [] := by
  cases pieces <;> exact List.cons_ne_nil _ _

theorem splitUnescaped_ne_nil (text : List Char) :
    splitUnescaped escape separator text ≠ [] := by
  cases text with
  | nil => exact List.cons_ne_nil _ _
  | cons c rest =>
    cases rest with
    | nil =>
      rw [splitUnescaped]
      split <;> exact List.cons_ne_nil _ _
    | cons d others =>
      rw [splitUnescaped]
      split
      · exact prepend_ne_nil _ _
      · split
        · exact List.cons_ne_nil _ _
        · exact prepend_ne_nil _ _

end Escape

theorem splitValues_ne_nil (settings : FilterSettings) (raw : List Char) :
    splitValues settings raw ≠ [] := by
  unfold splitValues
  split
  · exact splitUnescaped_ne_nil raw
  · exact List.cons_ne_nil _ _

/-- A text stands for a value. Escapes and separators of the value have an escape in front of
    them, and all other characters may have one. -/
inductive Spells (settings : FilterSettings) : List Char → List Char → Prop
  | nil : Spells settings [] []
  | plain {c text value} (hescape : c ≠ settings.escapeChar)
    (hseparator : c ∉ settings.separators.toList) (hrest : Spells settings text value) :
    Spells settings (c :: text) (c :: value)
  | escaped (c) {text value} (hrest : Spells settings text value) :
    Spells settings (settings.escapeChar :: c :: text) (c :: value)

variable {settings : FilterSettings} {text value more : List Char}

namespace Spells

theorem append {others : List Char} (h : Spells settings text value)
    (hmore : Spells settings more others) : Spells settings (text ++ more) (value ++ others) := by
  induction h with
  | nil => exact hmore
  | plain hescape hseparator _ ih => exact .plain hescape hseparator ih
  | escaped c _ ih => exact .escaped c ih

theorem unescape_eq (h : Spells settings text value) :
    unescape settings.escapeChar text = value := by
  induction h with
  | nil => rfl
  | plain hescape _ _ ih => rw [unescape_cons hescape, ih]
  | escaped c _ ih => rw [unescape_escape, ih]

theorem unescapedChars_append (h : Spells settings text value) (more : List Char) :
    unescapedChars settings.escapeChar (text ++ more) =
      unescapedChars settings.escapeChar text ++ unescapedChars settings.escapeChar more := by
  induction h with
  | nil => rfl
  | plain hescape _ _ ih =>
    rw [List.cons_append, unescapedChars_cons hescape, unescapedChars_cons hescape, ih,
      List.cons_append]
  | escaped c _ ih =>
    rw [List.cons_append, List.cons_append, unescapedChars_escape, unescapedChars_escape, ih]

/-- A text that stands for a value has no separators but escaped ones. -/
theorem notMem_separators (h : Spells settings text value) :
    ∀ c ∈ unescapedChars settings.escapeChar text, c ∉ settings.separators.toList := by
  induction h with
  | nil => exact fun c hc => nomatch hc
  | plain hescape hseparator _ ih =>
    rw [unescapedChars_cons hescape]
    exact List.forall_mem_cons.mpr ⟨hseparator, ih⟩
  | escaped c _ ih =>
    rw [unescapedChars_escape]
    exact ih

/-- A text that stands for a value stays in one piece. -/
theorem splitUnescaped_append {separator : Char} (h : Spells settings text value)
    (hseparator : separator ∈ settings.separators.toList) (more : List Char) :
    splitUnescaped settings.escapeChar separator (text ++ more) =
      prepend text (splitUnescaped settings.escapeChar separator more) := by
  induction h with
  | nil => exact (prepend_nil (splitUnescaped_ne_nil more)).symm
  | @plain c _ _ hescape hother _ ih =>
    have hne : c ≠ separator := by
      rintro rfl
      exact hother hseparator
    rw [List.cons_append, splitUnescaped_cons hescape hne, ih, prepend_prepend]
    rfl
  | escaped c _ ih =>
    rw [List.cons_append, List.cons_append, splitUnescaped_escape, ih, prepend_prepend]
    rfl

end Spells

private theorem splitUnescaped_intercalate {separator : Char}
    (hseparator : separator ∈ settings.separators.toList)
    (hne : separator ≠ settings.escapeChar) {texts : List (List Char)} (hnonempty : texts ≠ [])
    (hspells : ∀ text ∈ texts, ∃ value, Spells settings text value) :
    splitUnescaped settings.escapeChar separator (List.intercalate [separator] texts) = texts := by
  induction texts with
  | nil => exact absurd rfl hnonempty
  | cons text rest ih =>
    obtain ⟨⟨value, hvalue⟩, hrest⟩ := List.forall_mem_cons.mp hspells
    cases rest with
    | nil =>
      have hsplit := hvalue.splitUnescaped_append hseparator []
      rw [List.append_nil] at hsplit
      rw [List.intercalate_singleton, hsplit]
      simp [splitUnescaped, prepend]
    | cons next others =>
      rw [List.intercalate_cons_cons, List.append_assoc, List.singleton_append,
        hvalue.splitUnescaped_append hseparator, splitUnescaped_separator hne,
        ih (List.cons_ne_nil _ _) hrest]
      simp [prepend]

/-- Texts that stand for values are found again between the separators that join them. -/
theorem splitValues_intercalate (hescape : settings.escapeChar ∉ settings.separators.toList)
    (hseparators : settings.separators.toList ≠ []) {texts : List (List Char)}
    (hnonempty : texts ≠ []) (hspells : ∀ text ∈ texts, ∃ value, Spells settings text value) :
    splitValues settings (List.intercalate [joiner settings] texts) = texts := by
  obtain ⟨first, others, heq⟩ := List.exists_cons_of_ne_nil hseparators
  have hjoiner : joiner settings = first := by rw [joiner, heq]; rfl
  rcases texts with _ | ⟨text, _ | ⟨next, rest⟩⟩
  · exact absurd rfl hnonempty
  · obtain ⟨value, hvalue⟩ := hspells text List.mem_cons_self
    have hnone : separator? settings text = none := by
      refine List.find?_eq_none.mpr fun c hc hcontains => ?_
      exact hvalue.notMem_separators c (List.contains_iff_mem.mp hcontains) hc
    rw [List.intercalate_singleton, splitValues, hnone]
  · obtain ⟨value, hvalue⟩ := hspells text List.mem_cons_self
    have hmem : first ∈ settings.separators.toList := heq ▸ List.mem_cons_self
    have hne : first ≠ settings.escapeChar := fun h => hescape (h ▸ hmem)
    have hsome : separator? settings (List.intercalate [first] (text :: next :: rest)) =
        some first := by
      rw [separator?, heq]
      refine List.find?_cons_of_pos ?_
      rw [List.intercalate_cons_cons, List.append_assoc, List.singleton_append,
        hvalue.unescapedChars_append, unescapedChars_cons hne]
      simp
    rw [hjoiner, splitValues, hsome]
    exact splitUnescaped_intercalate hmem hne (List.cons_ne_nil _ _) hspells

theorem spells_escapedChar (c : Char) : Spells settings (escapedChar settings c) [c] := by
  unfold escapedChar
  split
  case isTrue => exact .escaped c .nil
  case isFalse hplain =>
    simp only [Bool.or_eq_true, beq_iff_eq, List.contains_iff_mem, not_or] at hplain
    exact .plain hplain.1 hplain.2 .nil

theorem spells_flatMap_escapedChar (value : List Char) :
    Spells settings (value.flatMap (escapedChar settings)) value := by
  induction value with
  | nil => exact .nil
  | cons c rest ih => exact (spells_escapedChar c).append ih

/-- An escaped value stands for the value. -/
theorem spells_escaped (value : List Char) : Spells settings (escaped settings value) value := by
  have hvalue : value.takeWhile Text.isBlank ++ value.dropWhile Text.isBlank = value :=
    List.takeWhile_append_dropWhile
  unfold escaped
  generalize value.takeWhile Text.isBlank = blank at hvalue
  generalize value.dropWhile Text.isBlank = rest at hvalue
  subst hvalue
  refine (spells_flatMap_escapedChar blank).append ?_
  cases rest with
  | nil => exact .nil
  | cons c others =>
    have hfirst : Spells settings (if startsToken settings c then [settings.escapeChar, c]
        else escapedChar settings c) [c] := by
      split
      · exact .escaped c .nil
      · exact spells_escapedChar c
    exact hfirst.append (spells_flatMap_escapedChar others)

theorem spells_self {token : List Char}
    (hplain : ∀ c ∈ token, c ∉ settings.separators.toList ∧ c ≠ settings.escapeChar) :
    Spells settings token token := by
  induction token with
  | nil => exact .nil
  | cons c rest ih =>
    obtain ⟨⟨hseparator, hescape⟩, hrest⟩ := List.forall_mem_cons.mp hplain
    exact .plain hescape hseparator (ih hrest)

end EntityQuery.ValueFilter
