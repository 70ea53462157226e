import EntityQuery.Proofs.StableSort
import EntityQuery.Proofs.Text
import EntityQuery.Proofs.ValueFilter.Spelling
import Mathlib.Data.List.Nodup

namespace EntityQuery

theorem FilterSettings.validate_eq_ok_iff {settings : FilterSettings} :
    settings.validate = .ok () ↔ settings.separators ≠ "" ∧
      settings.escapeChar ∉ settings.separators.toList ∧
      ∀ entry ∈ settings.operatorTokens.entries, entry.1 ≠ "" := by
  have htokens : (settings.operatorTokens.entries.any fun entry => entry.1.isEmpty) = false ↔
      ∀ entry ∈ settings.operatorTokens.entries, entry.1 ≠ "" := by
    simp only [List.any_eq_false, String.isEmpty_iff, ne_eq]
  rw [← htokens]
  unfold validate
  generalize (settings.operatorTokens.entries.any fun entry => entry.1.isEmpty) = hasEmpty
  by_cases hseparators : settings.separators = ""
  · simp [hseparators]
  · by_cases hescape : settings.escapeChar ∈ settings.separators.toList
    · simp [hseparators, hescape]
    · cases hasEmpty <;> simp [hseparators, hescape]

namespace ValueFilter

/-- Settings under which values can be told from operators. -/
structure Unambiguous (settings : FilterSettings) : Prop where
  valid : settings.validate = .ok ()
  escape_not_letter : Text.isLetter settings.escapeChar = false
  escape_not_blank : Text.isBlank settings.escapeChar = false
  token_plain : ∀ entry ∈ settings.operatorTokens.entries, ∀ c ∈ entry.1.toList,
    c ∉ settings.separators.toList ∧ c ≠ settings.escapeChar ∧ Text.isBlank c = false
  /-- Operators that take a value are not selected by words. -/
  symbol_of_requiresValue : ∀ entry ∈ settings.operatorTokens.entries,
    entry.2.requiresValue = true → isWordToken entry.1.toList = false
  word_unique : ∀ entry ∈ settings.operatorTokens.entries,
    ∀ other ∈ settings.operatorTokens.entries, isWordToken entry.1.toList = true →
    isWordToken other.1.toList = true →
    Text.sameIgnoringCase entry.1.toList other.1.toList = true → entry.1 = other.1
  /-- Where a token is longer than another one, a token starts where the other one ends. -/
  longer_starts : ∀ entry ∈ settings.operatorTokens.entries,
    ∀ longer ∈ settings.operatorTokens.entries, ∀ c rest,
    longer.1.toList = entry.1.toList ++ c :: rest → startsToken settings c = true

/-- The settings that hold when nothing else is set tell values from operators. -/
theorem unambiguous_builtin (now : Calendar.DateTime) : Unambiguous (.builtin now) where
  valid := by
    apply FilterSettings.validate_eq_ok_iff.mpr
    change ",;|" ≠ "" ∧ '\\' ∉ ",;|".toList ∧
      ∀ entry ∈ FilterSettings.builtinOperatorTokens.entries, entry.1 ≠ ""
    decide
  escape_not_letter := by
    change Text.isLetter '\\' = false
    decide +kernel
  escape_not_blank := by
    change Text.isBlank '\\' = false
    decide
  token_plain entry hentry c hc := by
    have hplain : ∀ entry ∈ FilterSettings.builtinOperatorTokens.entries,
        (entry.1.toList.all fun c =>
          !",;|".toList.contains c && c != '\\' && !Text.isBlank c) = true := by
      decide +kernel
    have hc := List.all_eq_true.mp (hplain entry hentry) c hc
    simp only [Bool.and_eq_true, Bool.not_eq_true', bne_iff_ne, List.contains_eq_mem,
      decide_eq_false_iff_not] at hc
    exact ⟨hc.1.1, hc.1.2, hc.2⟩
  symbol_of_requiresValue := by
    change ∀ entry ∈ FilterSettings.builtinOperatorTokens.entries,
      entry.2.requiresValue = true → isWordToken entry.1.toList = false
    decide +kernel
  word_unique := by
    change ∀ entry ∈ FilterSettings.builtinOperatorTokens.entries,
      ∀ other ∈ FilterSettings.builtinOperatorTokens.entries, isWordToken entry.1.toList = true →
      isWordToken other.1.toList = true →
      Text.sameIgnoringCase entry.1.toList other.1.toList = true → entry.1 = other.1
    decide +kernel
  longer_starts entry hentry longer hlonger c rest heq := by
    have hnext : ∀ entry ∈ FilterSettings.builtinOperatorTokens.entries,
        ∀ longer ∈ FilterSettings.builtinOperatorTokens.entries,
        entry.1.toList.isPrefixOf longer.1.toList = true →
        ((longer.1.toList.drop entry.1.toList.length).head?.all fun c =>
          FilterSettings.builtinOperatorTokens.entries.any fun entry =>
            (entry.1.toList.head?.map fun first => first.toLower == c.toLower).getD false) =
          true := by
      decide +kernel
    have hc := hnext entry hentry longer hlonger (List.isPrefixOf_iff_prefix.mpr ⟨_, heq.symm⟩)
    rw [heq, List.drop_left, List.head?_cons, Option.all_some] at hc
    exact hc

variable {settings : FilterSettings} {entry other : String × Operator} {text value rest : List Char}

namespace Unambiguous

theorem separators_ne_nil (h : Unambiguous settings) : settings.separators.toList ≠ [] := by
  simpa using (FilterSettings.validate_eq_ok_iff.mp h.valid).1

theorem escape_notMem (h : Unambiguous settings) :
    settings.escapeChar ∉ settings.separators.toList :=
  (FilterSettings.validate_eq_ok_iff.mp h.valid).2.1

theorem token_ne_nil (h : Unambiguous settings)
    (hentry : entry ∈ settings.operatorTokens.entries) : entry.1.toList ≠ [] := by
  simpa using (FilterSettings.validate_eq_ok_iff.mp h.valid).2.2 entry hentry

end Unambiguous

private theorem isPrefixOf?_eq_some_iff {token : List Char} :
    token.isPrefixOf? value = some rest ↔ value = token ++ rest := by
  induction token generalizing value with
  | nil => simp [List.isPrefixOf?]
  | cons c others ih =>
    cases value with
    | nil => simp [List.isPrefixOf?]
    | cons d more =>
      by_cases hcd : c = d
      · simp [List.isPrefixOf?, hcd, ih]
      · simp [List.isPrefixOf?, hcd, Ne.symm hcd]

theorem afterToken?_symbol {token : List Char} (hsymbol : isWordToken token = false) :
    afterToken? token value = some rest ↔ value = token ++ rest := by
  rw [afterToken?, hsymbol, if_neg Bool.false_ne_true, isPrefixOf?_eq_some_iff]

theorem afterToken?_word {token : List Char} (hword : isWordToken token = true) :
    afterToken? token value = some rest ↔
      Text.sameIgnoringCase (Text.trim value) token = true ∧ rest = [] := by
  rw [afterToken?, if_pos hword]
  split
  case isTrue hsame => simp [hsame, eq_comm]
  case isFalse hsame => simp [hsame]

/-- A word is not read from a value with something else than letters and white space. -/
theorem afterToken?_word_eq_none {token : List Char} {c : Char} (hword : isWordToken token = true)
    (hc : c ∈ value) (hletter : Text.isLetter c = false) (hblank : Text.isBlank c = false) :
    afterToken? token value = none := by
  rw [Option.eq_none_iff_forall_ne_some]
  intro rest hrest
  have hletters := Text.all_isLetter_of_sameIgnoringCase ((afterToken?_word hword).mp hrest).1 hword
  rw [List.all_eq_true.mp hletters c (Text.mem_trim hc hblank)] at hletter
  cases hletter

theorem startsToken_of_mem {c d : Char} (hentry : entry ∈ settings.operatorTokens.entries)
    (htoken : entry.1.toList = d :: rest) (hcase : c.toLower = d.toLower) :
    startsToken settings c = true :=
  List.any_eq_true.mpr ⟨entry, hentry, by simp [htoken, hcase]⟩

/-- After its white space, the text is at its end, or it goes on with an escape or with a
    character that starts no token. -/
def Inert (settings : FilterSettings) (text : List Char) : Prop :=
  ∃ blank rest, text = blank ++ rest ∧ (∀ c ∈ blank, Text.isBlank c = true) ∧
    ∀ c others, rest = c :: others → Text.isBlank c = false ∧
      (c = settings.escapeChar ∨ startsToken settings c = false)

theorem inert_nil : Inert settings [] := ⟨[], [], rfl, by simp, by simp⟩

theorem Inert.blank_cons {c : Char} (h : Inert settings text) (hc : Text.isBlank c = true) :
    Inert settings (c :: text) := by
  obtain ⟨blank, rest, rfl, hblank, hrest⟩ := h
  exact ⟨c :: blank, rest, rfl, List.forall_mem_cons.mpr ⟨hc, hblank⟩, hrest⟩

theorem inert_escape (hsettings : Unambiguous settings) (text : List Char) :
    Inert settings (settings.escapeChar :: text) := by
  refine ⟨[], _, rfl, by simp, fun c others heq => ?_⟩
  cases heq
  exact ⟨hsettings.escape_not_blank, .inl rfl⟩

/-- The first character of an inert text continues no token. -/
theorem Inert.head {c : Char} (h : Inert settings (c :: text)) :
    Text.isBlank c = true ∨ c = settings.escapeChar ∨ startsToken settings c = false := by
  obtain ⟨blank, rest, heq, hblank, hrest⟩ := h
  cases blank with
  | nil => exact .inr (hrest c text heq.symm).2
  | cons d others =>
    cases heq
    exact .inl (hblank c List.mem_cons_self)

private theorem inert_escapedChars (hsettings : Unambiguous settings) {blank : List Char}
    (hblank : ∀ c ∈ blank, Text.isBlank c = true) (hrest : Inert settings rest) :
    Inert settings (blank.flatMap (escapedChar settings) ++ rest) := by
  induction blank with
  | nil => exact hrest
  | cons c others ih =>
    obtain ⟨hc, hothers⟩ := List.forall_mem_cons.mp hblank
    rw [List.flatMap_cons, List.append_assoc, escapedChar]
    split
    · exact inert_escape hsettings _
    · exact (ih hothers).blank_cons hc

/-- Nothing of an escaped value can be taken for a token. -/
theorem inert_escaped (hsettings : Unambiguous settings) (value : List Char) :
    Inert settings (escaped settings value) := by
  apply inert_escapedChars hsettings fun c hc => List.mem_takeWhile_imp hc
  have hfirst := List.head?_dropWhile_not Text.isBlank value
  cases hvalue : value.dropWhile Text.isBlank with
  | nil => exact inert_nil
  | cons c others =>
    have hblank : Text.isBlank c = false := by simpa [hvalue] using hfirst
    cases hstarts : startsToken settings c with
    | true =>
      simp only [hstarts, if_true]
      exact inert_escape hsettings _
    | false =>
      simp only [hstarts, Bool.false_eq_true, if_false]
      refine ⟨[], _, rfl, by simp, fun d more heq => ?_⟩
      rw [escapedChar] at heq
      split at heq
      · cases heq
        exact ⟨hsettings.escape_not_blank, .inl rfl⟩
      · cases heq
        exact ⟨hblank, .inr hstarts⟩

/-- No token is read from an inert text. -/
theorem Inert.afterToken?_eq_none (hsettings : Unambiguous settings) (h : Inert settings text)
    (hentry : entry ∈ settings.operatorTokens.entries) :
    afterToken? entry.1.toList text = none := by
  rw [Option.eq_none_iff_forall_ne_some]
  intro after hafter
  obtain ⟨first, others, htoken⟩ := List.exists_cons_of_ne_nil (hsettings.token_ne_nil hentry)
  cases hword : isWordToken entry.1.toList with
  | false =>
    -- The text would start with the first character of the token.
    rw [afterToken?_symbol hword, htoken, List.cons_append] at hafter
    subst hafter
    obtain ⟨-, hescape, hblank⟩ :=
      hsettings.token_plain entry hentry first (htoken ▸ List.mem_cons_self)
    rcases h.head with h | h | h
    · exact nomatch hblank.symm.trans h
    · exact hescape h
    · exact nomatch h.symm.trans (startsToken_of_mem hentry htoken rfl)
  | true =>
    obtain ⟨hsame, -⟩ := (afterToken?_word hword).mp hafter
    obtain ⟨blank, rest, rfl, hblank, hrest⟩ := h
    cases rest with
    | nil =>
      rw [List.append_nil, Text.trim_eq_nil hblank, htoken] at hsame
      cases hsame
    | cons c more =>
      obtain ⟨hc, hfirst⟩ := hrest c more rfl
      obtain ⟨trimmed, htrim⟩ : ∃ trimmed, Text.trim (blank ++ c :: more) = c :: trimmed :=
        Text.trim_append_cons hblank hc
      rw [htrim, htoken, Text.sameIgnoringCase_iff, List.forall₂_cons] at hsame
      rcases hfirst with rfl | hfirst
      · have hletter : Text.isLetter first = true :=
          List.all_eq_true.mp hword first (htoken ▸ List.mem_cons_self)
        rw [← Text.isLetter_toLower, ← hsame.1, Text.isLetter_toLower,
          hsettings.escape_not_letter] at hletter
        cases hletter
      · exact nomatch hfirst.symm.trans (startsToken_of_mem hentry htoken hsame.1)

/-- The operator of a token and what follows the token in a value. -/
def readToken? (value : List Char) (entry : String × Operator) : Option (Operator × List Char) :=
  (afterToken? entry.1.toList value).map fun rest => (entry.2, rest)

theorem operand_eq (settings : FilterSettings) (value : List Char) :
    operand settings value =
      ((tokensByLength settings).findSome? (readToken? value)).getD (.default, value) := rfl

/-- An operator that is read is the usual comparison or has a token. -/
theorem operand_operator (settings : FilterSettings) (value : List Char) :
    (operand settings value).1 = .default ∨
      ∃ entry ∈ settings.operatorTokens.entries, entry.2 = (operand settings value).1 := by
  rw [operand_eq]
  cases hfound : (tokensByLength settings).findSome? (readToken? value) with
  | none => exact .inl rfl
  | some found =>
    obtain ⟨entry, hentry, hread⟩ := List.exists_of_findSome?_eq_some hfound
    obtain ⟨rest, -, rfl⟩ := Option.map_eq_some_iff.mp hread
    exact .inr ⟨entry, StableSort.mem_sort.mp hentry, rfl⟩

theorem operand_inert (hsettings : Unambiguous settings) (h : Inert settings text) :
    operand settings text = (.default, text) := by
  have hnone : (tokensByLength settings).findSome? (readToken? text) = none := by
    refine List.findSome?_eq_none_iff.mpr fun entry hentry => ?_
    rw [readToken?, h.afterToken?_eq_none hsettings (StableSort.mem_sort.mp hentry),
      Option.map_none]
  rw [operand_eq, hnone]
  rfl

/-- The token is read that all other tokens of the value are the start of. -/
theorem operand_eq_of_token (hentry : entry ∈ settings.operatorTokens.entries)
    (hafter : afterToken? entry.1.toList value = some rest)
    (hbegins : ∀ other ∈ settings.operatorTokens.entries,
      (afterToken? other.1.toList value).isSome = true → other.1.toList <+: entry.1.toList) :
    operand settings value = (entry.2, rest) := by
  have hread : readToken? value entry = some (entry.2, rest) := by
    rw [readToken?, hafter, Option.map_some]
  have hfound : (tokensByLength settings).findSome? (readToken? value) = some (entry.2, rest) := by
    refine StableSort.findSome?_sort (.of_rank fun entry => entry.1.utf8ByteSize) hentry hread
      fun other hother hsome => ?_
    rw [readToken?, Option.isSome_map] at hsome
    by_cases hkey : other.1 = entry.1
    · exact .inl (List.inj_on_of_nodup_map settings.operatorTokens.keys_nodup hother hentry hkey)
    · have hshorter := Text.utf8ByteSize_lt (hbegins other hother hsome)
        fun h => hkey (String.toList_inj.mp h)
      rw [String.ofList_toList, String.ofList_toList] at hshorter
      exact .inr (decide_eq_true hshorter)
  rw [operand_eq, hfound]
  rfl

variable {token : String} {operator : Operator}

/-- A symbol is read as the operator of the inert text behind it. -/
theorem operand_symbol (hsettings : Unambiguous settings)
    (hentry : (token, operator) ∈ settings.operatorTokens.entries)
    (hsymbol : isWordToken token.toList = false) (hinert : Inert settings text) :
    operand settings (token.toList ++ text) = (operator, text) := by
  refine operand_eq_of_token hentry ((afterToken?_symbol hsymbol).mpr rfl)
    fun other hother hsome => ?_
  obtain ⟨after, hafter⟩ := Option.isSome_iff_exists.mp hsome
  cases hword : isWordToken other.1.toList with
  | true =>
    obtain ⟨c, hc, hletter⟩ := List.all_eq_false.mp hsymbol
    have hnone := afterToken?_word_eq_none hword (List.mem_append_left text hc)
      (Bool.not_eq_true _ ▸ hletter) (hsettings.token_plain _ hentry c hc).2.2
    rw [hnone] at hafter
    cases hafter
  | false =>
    rw [afterToken?_symbol hword, List.append_eq_append_iff] at hafter
    rcases hafter with ⟨more, hlonger, htext⟩ | ⟨more, hshorter, -⟩
    · cases more with
      | nil =>
        rw [List.append_nil] at hlonger
        exact hlonger ▸ List.prefix_rfl
      | cons c others =>
        -- The longer token would go on with a character that no inert text starts with.
        have hstarts := hsettings.longer_starts _ hentry other hother c others hlonger
        obtain ⟨-, hescape, hblank⟩ :=
          hsettings.token_plain other hother c (hlonger ▸ by simp)
        rw [htext, List.cons_append] at hinert
        rcases hinert.head with h | h | h
        · exact nomatch hblank.symm.trans h
        · exact absurd h hescape
        · exact nomatch h.symm.trans hstarts
    · exact ⟨more, hshorter.symm⟩

/-- A word that makes up the whole value is read as its operator. -/
theorem operand_word (hsettings : Unambiguous settings)
    (hentry : (token, operator) ∈ settings.operatorTokens.entries)
    (hword : isWordToken token.toList = true) :
    operand settings token.toList = (operator, []) := by
  have htrim : Text.trim token.toList = token.toList :=
    Text.trim_eq_self fun c hc => (hsettings.token_plain _ hentry c hc).2.2
  refine operand_eq_of_token hentry ?_ fun other hother hsome => ?_
  · rw [afterToken?_word hword, htrim]
    exact ⟨Text.sameIgnoringCase_refl _, rfl⟩
  · obtain ⟨after, hafter⟩ := Option.isSome_iff_exists.mp hsome
    cases hother' : isWordToken other.1.toList with
    | true =>
      rw [afterToken?_word hother', htrim] at hafter
      have hkey := hsettings.word_unique _ hentry other hother hword hother' hafter.1
      exact hkey ▸ List.prefix_rfl
    | false => exact ⟨after, ((afterToken?_symbol hother').mp hafter).symm⟩

end ValueFilter

end EntityQuery
