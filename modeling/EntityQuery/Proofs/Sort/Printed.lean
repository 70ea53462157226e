import EntityQuery.Proofs.Sort.Markers

namespace EntityQuery.SortKey

variable {key : SortKey} {keys : List SortKey} {token part path : List Char} {c d : Char}

/-- Letters and digits of ASCII, underscores and points. -/
def isPlain (c : Char) : Bool := c.isAlphanum || c == '_' || c == '.'

/-- A path of plain characters that is no marker without its separator. -/
structure PlainPath (path : List Char) : Prop where
  ne_nil : path ≠ []
  plain : ∀ c ∈ path, isPlain c = true
  not_keyword : ∀ word ∈ ["asc", "desc", "dsc"], Text.sameIgnoringCase word.toList path = false

private theorem isPlain_toLower (c : Char) : isPlain c.toLower = isPlain c := by
  have hmark : ∀ d : Char, d.toNat < 0x61 → d.toLower = d → (c.toLower == d) = (c == d) := by
    intro d hd hlower
    rw [Bool.eq_iff_iff, beq_iff_eq, beq_iff_eq]
    exact ⟨Text.eq_of_toLower (.inl hd), fun h => h ▸ hlower⟩
  rw [isPlain, Text.isAlphanum_toLower, hmark '_' (by decide) (by decide),
    hmark '.' (by decide) (by decide), isPlain]

private theorem isPlain_congr (h : c.toLower = d.toLower) : isPlain c = isPlain d := by
  rw [← isPlain_toLower, h, isPlain_toLower]

/-- What stands in front of the first other character does not depend on letter case. -/
private theorem sameIgnoringCase_takeWhile {a b : List Char}
    (hsame : Text.sameIgnoringCase a b = true) :
    Text.sameIgnoringCase (a.takeWhile isPlain) (b.takeWhile isPlain) = true := by
  rw [Text.sameIgnoringCase_iff] at hsame ⊢
  induction hsame with
  | nil => exact .nil
  | @cons c d _ _ hcase _ ih =>
    rw [List.takeWhile_cons, List.takeWhile_cons, isPlain_congr hcase]
    split
    · exact .cons hcase ih
    · exact .nil

private theorem all_isPlain_congr {a b : List Char} (hsame : Text.sameIgnoringCase a b = true) :
    a.all isPlain = b.all isPlain := by
  rw [Text.sameIgnoringCase_iff] at hsame
  induction hsame with
  | nil => rfl
  | cons hcase _ ih => rw [List.all_cons, List.all_cons, isPlain_congr hcase, ih]

/-- A start of a text with another character in it goes on behind the plain characters. -/
private theorem takeWhile_eq_of_start (hstart : part <+: token)
    (hother : part.all isPlain = false) : part.takeWhile isPlain = token.takeWhile isPlain := by
  obtain ⟨rest, rfl⟩ := hstart
  rw [List.takeWhile_append, if_neg]
  intro hlength
  have hwhole := (List.takeWhile_prefix isPlain).eq_of_length hlength
  rw [List.takeWhile_eq_self_iff, ← List.all_eq_true, hother] at hwhole
  cases hwhole

private theorem toNat_of_isPlain (h : isPlain c = true) : 0x2E ≤ c.toNat ∧ c.toNat ≤ 0x7A := by
  have hkinds : (((c.isUpper || c.isLower) || c.isDigit) || c == '_' || c == '.') = true := h
  simp only [Bool.or_eq_true, beq_iff_eq] at hkinds
  rcases hkinds with (((hupper | hlower) | hdigit) | rfl) | rfl
  · have hrange : 0x41 ≤ c.toNat ∧ c.toNat ≤ 0x5A := of_decide_eq_true hupper
    omega
  · have hrange : decide (0x61 ≤ c.toNat) = true ∧ decide (c.toNat ≤ 0x7A) = true :=
      Bool.and_eq_true_iff.mp hlower
    simp only [decide_eq_true_eq] at hrange
    omega
  · have hrange : decide (0x30 ≤ c.toNat) = true ∧ decide (c.toNat ≤ 0x39) = true :=
      Bool.and_eq_true_iff.mp hdigit
    simp only [decide_eq_true_eq] at hrange
    omega
  · decide
  · decide

/-- A marker in front is one of three words or nothing, with another character behind it. -/
private theorem builtin_before : ∀ marker ∈
    SortSettings.builtin.ascendingPrefixes ++ SortSettings.builtin.descendingPrefixes,
    marker.toList.all isPlain = false ∧ (marker.toList.takeWhile isPlain = [] ∨
      ∃ word ∈ ["asc", "desc", "dsc"], marker.toList.takeWhile isPlain = word.toList) := by
  decide

private theorem builtin_behind : ∀ marker ∈
    SortSettings.builtin.ascendingPostfixes ++ SortSettings.builtin.descendingPostfixes,
    marker.toList.all isPlain = false ∧ marker.toList.length ≤ "-desc".toList.length := by
  decide

/-- The plain characters up to another one would have to be a word that is no path. -/
private theorem not_spells_of_start (hpath : PlainPath path)
    (htoken : token.takeWhile isPlain = path) {texts : List String} (htexts : texts ⊆
      SortSettings.builtin.ascendingPrefixes ++ SortSettings.builtin.descendingPrefixes)
    (hstart : part <+: token) : ¬ Spells texts part := by
  rintro ⟨-, marker, hmarker, hsame⟩
  obtain ⟨hother, hword⟩ := builtin_before marker (htexts hmarker)
  rw [all_isPlain_congr hsame] at hother
  have hcase := sameIgnoringCase_takeWhile hsame
  rw [takeWhile_eq_of_start hstart hother, htoken] at hcase
  rcases hword with hempty | ⟨word, hword, heq⟩
  · rw [hempty] at hcase
    exact hpath.ne_nil (List.length_eq_zero_iff.mp (Text.length_eq_of_sameIgnoringCase hcase).symm)
  · rw [heq, hpath.not_keyword word hword] at hcase
    cases hcase

private theorem takenBefore_nothing (hpath : PlainPath path)
    (htoken : token.takeWhile isPlain = path) : TakenBefore .builtin token [] .ascending :=
  .nothing fun _ hstart =>
    ⟨not_spells_of_start hpath htoken (List.subset_append_left _ _) hstart,
      not_spells_of_start hpath htoken (List.subset_append_right _ _) hstart⟩

/-- Every marker has a character that is not plain. -/
private theorem takenBehind_nothing (hpath : PlainPath path) :
    TakenBehind .builtin path [] .ascending := by
  have hnone : ∀ part, part <:+ path → ∀ {texts : List String}, texts ⊆
      SortSettings.builtin.ascendingPostfixes ++ SortSettings.builtin.descendingPostfixes →
      ¬ Spells texts part := by
    rintro part hend texts htexts ⟨-, marker, hmarker, hsame⟩
    have hother := (builtin_behind marker (htexts hmarker)).1
    have hplain : part.all isPlain = true :=
      List.all_eq_true.mpr fun c hc => hpath.plain c (hend.subset hc)
    rw [all_isPlain_congr hsame, hplain] at hother
    cases hother
  exact .nothing fun part hend =>
    ⟨hnone part hend (List.subset_append_left _ _), hnone part hend (List.subset_append_right _ _)⟩

/-- No marker is longer than the one that descending keys are written with. -/
private theorem takenBehind_desc (path : List Char) :
    TakenBehind .builtin (path ++ "-desc".toList) "-desc".toList .descending := by
  have hspells : Spells SortSettings.builtin.descendingPostfixes "-desc".toList :=
    ⟨by decide, "-desc", by decide, Text.sameIgnoringCase_refl _⟩
  refine .descending ⟨⟨List.suffix_append _ _, .inr hspells⟩, ?_⟩ ?_
  · have hlength : ∀ {texts : List String} {part : List Char}, texts ⊆
        SortSettings.builtin.ascendingPostfixes ++ SortSettings.builtin.descendingPostfixes →
        Spells texts part → part.length ≤ "-desc".toList.length := by
      rintro texts part htexts ⟨-, marker, hmarker, hsame⟩
      rw [← Text.length_eq_of_sameIgnoringCase hsame]
      exact (builtin_behind marker (htexts hmarker)).2
    rintro part ⟨-, hspells | hspells⟩
    · exact hlength (List.subset_append_left _ _) hspells
    · exact hlength (List.subset_append_right _ _) hspells
  · rintro ⟨-, hmarker⟩
    revert hmarker
    decide

/-- What is written behind a path. -/
private def suffixOf : SortDirection → List Char
  | .ascending => []
  | .descending => "-desc".toList

private theorem toList_toText (key : SortKey) :
    key.toText.toList = key.path.toList ++ suffixOf key.direction := by
  rw [toText]
  cases key.direction with
  | ascending => exact (List.append_nil _).symm
  | descending => exact String.toList_append

/-- A printed key is cut into its path and what was written behind it. -/
private theorem divides_toText (hpath : PlainPath key.path.toList) :
    Cut.Divides .builtin key.toText.toList
      ⟨[], key.path.toList, suffixOf key.direction, key.direction⟩ := by
  rw [toList_toText]
  have htoken : (key.path.toList ++ suffixOf key.direction).takeWhile isPlain =
      key.path.toList := by
    rw [List.takeWhile_append_of_pos hpath.plain]
    cases key.direction <;> exact List.append_nil _
  refine ⟨rfl, .ascending, key.direction, takenBefore_nothing hpath htoken, ?_, by simp⟩
  cases key.direction with
  | ascending =>
    rw [suffixOf, List.append_nil]
    exact takenBehind_nothing hpath
  | descending => exact takenBehind_desc _

/-- The characters of printed keys are not white space, and there are no commas among them. -/
private theorem of_mem_toText (hpath : PlainPath key.path.toList) (hc : c ∈ key.toText.toList) :
    Text.isBlank c = false ∧ c ≠ ',' := by
  have hplain : isPlain c = true ∨ c = '-' := by
    rw [toList_toText] at hc
    rcases List.mem_append.mp hc with hmem | hmem
    · exact .inl (hpath.plain c hmem)
    · have hsuffix : ∀ direction,
          (suffixOf direction).all (fun d => isPlain d || d == '-') = true := by
        intro direction
        cases direction <;> decide
      simpa using List.all_eq_true.mp (hsuffix key.direction) c hmem
  rcases hplain with hplain | rfl
  · obtain ⟨hlow, hhigh⟩ := toNat_of_isPlain hplain
    refine ⟨Text.isBlank_of_ascii (by omega) (by omega), ?_⟩
    rintro rfl
    cases hplain
  · decide

private theorem trim_toText (hpath : PlainPath key.path.toList) :
    Text.trim key.toText.toList = key.toText.toList :=
  Text.trim_eq_self fun _ hc => (of_mem_toText hpath hc).1

theorem keyOfToken?_toText (hpath : PlainPath key.path.toList) :
    keyOfToken? .builtin key.toText.toList = some (key.path, key.direction) := by
  have hline : '\n' ∉ key.toText.toList := fun hmem => nomatch (of_mem_toText hpath hmem).1
  have htrim : Text.trim key.path.toList = key.path.toList := by
    refine Text.trim_eq_self fun c hc => (of_mem_toText hpath ?_).1
    rw [toList_toText]
    exact List.mem_append_left _ hc
  rw [keyOfToken?_eq_key? (ofToken?_eq_of_divides (divides_toText hpath) hline), Cut.key?, htrim,
    if_neg hpath.ne_nil, String.ofList_toList]

/-- Printed sort keys are read back under the usual settings, if their paths consist of letters and
    digits of ASCII, underscores and points and are no marker without its separator. -/
theorem ofSyntax_intercalate_toText (hkeys : ∀ key ∈ keys, PlainPath key.path.toList) :
    ofSyntax .builtin (String.intercalate "," (keys.map toText)) =
      keys.map fun key => (key.path, key.direction) := by
  by_cases hempty : keys = []
  · subst hempty
    decide
  · have hcommas : ∀ token ∈ (keys.map toText).map String.toList, ',' ∉ token := by
      rw [List.map_map]
      exact List.forall_mem_map.mpr fun key hkey hmem =>
        (of_mem_toText (hkeys key hkey) hmem).2 rfl
    have hsplit : (String.intercalate "," (keys.map toText)).toList.splitOn ',' =
        (keys.map toText).map String.toList := by
      rw [String.toList_intercalate]
      exact List.splitOn_intercalate ',' hcommas (by simpa using hempty)
    have htokens : ((String.intercalate "," (keys.map toText)).toList.splitOn ',').map Text.trim =
        keys.map fun key => key.toText.toList := by
      rw [hsplit, List.map_map, List.map_map]
      exact List.map_congr_left fun key hkey => trim_toText (hkeys key hkey)
    have hkept : (keys.map fun key => key.toText.toList).filter (fun token => !token.isEmpty) =
        keys.map fun key => key.toText.toList := by
      refine List.filter_eq_self.mpr (List.forall_mem_map.mpr fun key hkey => ?_)
      rw [toList_toText, Bool.not_eq_true', List.isEmpty_eq_false_iff]
      exact List.append_ne_nil_of_left_ne_nil (hkeys key hkey).ne_nil _
    rw [ofSyntax_eq, htokens, hkept, List.filterMap_map]
    exact List.filterMap_eq_map_iff_forall_eq_some.mpr fun key hkey =>
      keyOfToken?_toText (hkeys key hkey)

/-- The paths begin or end like markers, or are the path to an entity itself. -/
theorem ofSyntax_intercalate_toText_lookalikes :
    let keys : List SortKey :=
      [⟨"ascent.desc", .ascending, 4⟩, ⟨"DESCRIPTION", .descending, 0⟩, ⟨pathToSelf, .ascending, 0⟩]
    (∀ key ∈ keys, PlainPath key.path.toList) ∧
      String.intercalate "," (keys.map toText) = "ascent.desc,DESCRIPTION-desc,_self_" ∧
      ofSyntax .builtin (String.intercalate "," (keys.map toText)) =
        [("ascent.desc", .ascending), ("DESCRIPTION", .descending), (pathToSelf, .ascending)] := by
  intro keys
  have hkeys : ∀ key ∈ keys, PlainPath key.path.toList := by
    simp only [keys, List.forall_mem_cons]
    exact ⟨⟨by decide, List.all_eq_true.mp (by decide), by decide⟩,
      ⟨by decide, List.all_eq_true.mp (by decide), by decide⟩,
      ⟨by decide, List.all_eq_true.mp (by decide), by decide⟩,
      fun _ hkey => absurd hkey List.not_mem_nil⟩
  exact ⟨hkeys, by decide, ofSyntax_intercalate_toText hkeys⟩

end EntityQuery.SortKey
