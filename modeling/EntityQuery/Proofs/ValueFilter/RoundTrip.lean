import EntityQuery.Proofs.ValueFilter.Tokens

namespace EntityQuery.ValueFilter

variable {settings : FilterSettings} {filter : ValueFilter} {operator : Operator}

/-- A filter that a text can stand for: its operator has a token or needs none, and it has a
    value exactly if its operator takes one. -/
structure Printable (settings : FilterSettings) (filter : ValueFilter) : Prop where
  hasToken : filter.operator = .default ∨
    (settings.operatorToken? filter.operator).isSome = true
  value_iff : filter.value.isSome = filter.operator.requiresValue

instance (settings : FilterSettings) (filter : ValueFilter) :
    Decidable (Printable settings filter) :=
  decidable_of_iff ((filter.operator = .default ∨
      (settings.operatorToken? filter.operator).isSome = true) ∧
      filter.value.isSome = filter.operator.requiresValue)
    ⟨fun h => ⟨h.1, h.2⟩, fun h => ⟨h.hasToken, h.value_iff⟩⟩

private theorem toList_toSyntax (settings : FilterSettings) (filter : ValueFilter) :
    (toSyntax settings filter).toList = (tokenOf settings filter.operator).toList ++
      escaped settings ((filter.value.map String.toList).getD []) := by
  rw [toSyntax, String.toList_append, String.toList_ofList]

private theorem mem_of_operatorToken? {token : String}
    (htoken : settings.operatorToken? operator = some token) :
    (token, operator) ∈ settings.operatorTokens.entries := by
  obtain ⟨entry, hentry, rfl⟩ := Option.map_eq_some_iff.mp htoken
  have hoperator : entry.2 = operator := by simpa using List.find?_some hentry
  exact hoperator ▸ List.mem_of_find?_eq_some hentry

/-- An operator other than the usual comparison is printed as one of its tokens. -/
private theorem tokenOf_mem (hoperator : operator ≠ .default)
    (htoken : (settings.operatorToken? operator).isSome = true) :
    (tokenOf settings operator, operator) ∈ settings.operatorTokens.entries := by
  obtain ⟨token, htoken⟩ := Option.isSome_iff_exists.mp htoken
  have heq : tokenOf settings operator = token := by
    rw [tokenOf, htoken, Option.getD_some]
    exact hoperator
  exact heq ▸ mem_of_operatorToken? htoken

/-- The operator of the text of a filter is the filter's own, and its operand is the escaped
    value. -/
private theorem operand_toSyntax (hsettings : Unambiguous settings)
    (h : Printable settings filter) :
    operand settings (toSyntax settings filter).toList =
      (filter.operator, escaped settings ((filter.value.map String.toList).getD [])) := by
  rw [toList_toSyntax]
  by_cases hdefault : filter.operator = .default
  · rw [hdefault, tokenOf, String.toList_empty, List.nil_append]
    exact operand_inert hsettings (inert_escaped hsettings _)
  · have hentry := tokenOf_mem hdefault (h.hasToken.resolve_left hdefault)
    cases hrequires : filter.operator.requiresValue with
    | true =>
      have hsymbol := hsettings.symbol_of_requiresValue _ hentry hrequires
      exact operand_symbol hsettings hentry hsymbol (inert_escaped hsettings _)
    | false =>
      -- A null check has no value, so that even a word makes up the whole text.
      have hnone : filter.value = none := by simpa [hrequires] using h.value_iff
      have hnil : escaped settings ((filter.value.map String.toList).getD []) = [] := by
        rw [hnone]
        rfl
      rw [hnil]
      cases hword : isWordToken (tokenOf settings filter.operator).toList with
      | true =>
        rw [List.append_nil]
        exact operand_word hsettings hentry hword
      | false => exact operand_symbol hsettings hentry hword inert_nil

/-- The text of a filter is read as the filter. -/
theorem ofValue_toSyntax (hsettings : Unambiguous settings) (h : Printable settings filter) :
    ofValue settings (toSyntax settings filter).toList = filter := by
  rw [ofValue, operand_toSyntax hsettings h]
  simp only [(spells_escaped _).unescape_eq, create]
  obtain ⟨operator, value⟩ := filter
  have hvalue : value.isSome = operator.requiresValue := h.value_iff
  rw [← hvalue]
  cases value with
  | none => rfl
  | some text => simp

/-- The text of a filter stands for something, so that its separators are all escaped. -/
private theorem spells_toSyntax (hsettings : Unambiguous settings)
    (h : Printable settings filter) :
    ∃ value, Spells settings (toSyntax settings filter).toList value := by
  rw [toList_toSyntax]
  refine ⟨_, .append (spells_self fun c hc => ?_) (spells_escaped _)⟩
  by_cases hdefault : filter.operator = .default
  · rw [hdefault, tokenOf] at hc
    cases hc
  · have hentry := tokenOf_mem hdefault (h.hasToken.resolve_left hdefault)
    obtain ⟨hseparator, hescape, -⟩ := hsettings.token_plain _ hentry c hc
    exact ⟨hseparator, hescape⟩

/-- Filters that texts can stand for come back from their text. -/
theorem ofSyntax_joinSyntax_of_printable (hsettings : Unambiguous settings)
    {filters : List ValueFilter} (hne : filters ≠ [])
    (hprintable : ∀ filter ∈ filters, Printable settings filter) :
    ofSyntax settings (joinSyntax settings filters) = filters := by
  have hjoined : (joinSyntax settings filters).toList =
      List.intercalate [joiner settings]
        (filters.map fun filter => (toSyntax settings filter).toList) := by
    rw [joinSyntax, String.toList_intercalate, List.map_map]
    simp [Function.comp_def]
  rw [ofSyntax, hjoined, splitValues_intercalate hsettings.escape_notMem
    hsettings.separators_ne_nil (by simpa using hne), List.map_map]
  · refine (List.map_congr_left fun filter hfilter => ?_).trans (List.map_id _)
    exact ofValue_toSyntax hsettings (hprintable filter hfilter)
  · intro text htext
    obtain ⟨filter, hfilter, rfl⟩ := List.mem_map.mp htext
    exact spells_toSyntax hsettings (hprintable filter hfilter)

private theorem printable_ofValue (settings : FilterSettings) (value : List Char) :
    Printable settings (ofValue settings value) where
  hasToken := by
    refine (operand_operator settings value).imp_right fun ⟨entry, hentry, hoperator⟩ => ?_
    rw [FilterSettings.operatorToken?, Option.isSome_map, List.find?_isSome]
    exact ⟨entry, hentry, beq_iff_eq.mpr hoperator⟩
  value_iff := by
    simp only [ofValue, create]
    cases (operand settings value).1.requiresValue <;> rfl

/-- What is read from a text can be printed. -/
theorem printable_of_mem_ofSyntax {raw : String} (hfilter : filter ∈ ofSyntax settings raw) :
    Printable settings filter := by
  obtain ⟨value, -, rfl⟩ := List.mem_map.mp hfilter
  exact printable_ofValue settings value

theorem ofSyntax_ne_nil (settings : FilterSettings) (raw : String) :
    ofSyntax settings raw ≠ [] := by
  rw [ofSyntax, ne_eq, List.map_eq_nil_iff]
  exact splitValues_ne_nil settings raw.toList

/-- Reading undoes printing. Under settings that tell values from operators, such as those that
    hold when nothing else is set, every list of filters with values as their operators need
    them comes back from its text, and what is read from any text is stable from then on. -/
theorem ofSyntax_joinSyntax :
    (∀ now, Unambiguous (.builtin now)) ∧
    ∀ settings, Unambiguous settings →
      (∀ filters, filters ≠ [] → (∀ filter ∈ filters, Printable settings filter) →
        ofSyntax settings (joinSyntax settings filters) = filters) ∧
      ∀ raw, ofSyntax settings (joinSyntax settings (ofSyntax settings raw)) =
        ofSyntax settings raw := by
  refine ⟨unambiguous_builtin, fun settings hsettings => ⟨fun filters hne hprintable => ?_,
    fun raw => ?_⟩⟩
  · exact ofSyntax_joinSyntax_of_printable hsettings hne hprintable
  · exact ofSyntax_joinSyntax_of_printable hsettings (ofSyntax_ne_nil settings raw)
      fun filter hfilter => printable_of_mem_ofSyntax hfilter

/-- Values that look like operators or hold separators and escapes. -/
theorem ofSyntax_joinSyntax_builtin :
    let settings := FilterSettings.builtin ⟨⟨0, by decide⟩, .midnight⟩
    let filters : List ValueFilter :=
      [⟨.default, some "  !=a,b\\"⟩, ⟨.isNull, none⟩, ⟨.notEqual, some "="⟩,
        ⟨.default, some "isnull"⟩, ⟨.default, some ""⟩]
    ofSyntax settings (joinSyntax settings filters) = filters := by
  intro settings filters
  have hsettings : Unambiguous settings := ofSyntax_joinSyntax.1 _
  exact (ofSyntax_joinSyntax.2 settings hsettings).1 filters (by decide) (by decide)

end EntityQuery.ValueFilter
