import EntityQuery.Proofs.Sort.Pattern

namespace EntityQuery.SortKey

variable {settings : SortSettings} {texts : List String} {token rest part : List Char}
  {direction : SortDirection}

/-- A text is one of some markers, in any letter case. Empty markers do not count. -/
def Spells (texts : List String) (part : List Char) : Prop :=
  part ≠ [] ∧ ∃ text ∈ texts, Text.sameIgnoringCase text.toList part = true

/-- A candidate that no other one is longer than. -/
def Longest (candidate : List Char → Prop) (part : List Char) : Prop :=
  candidate part ∧ ∀ other, candidate other → other.length ≤ part.length

/-- The marker in front of a token and its direction: the longest one of ascending order, or if
    there is none, the longest one of descending order, or else nothing. -/
inductive TakenBefore (settings : SortSettings) (token : List Char) :
    List Char → SortDirection → Prop
  | ascending {before}
    (hlongest : Longest (fun part => part <+: token ∧ Spells settings.ascendingPrefixes part)
      before) : TakenBefore settings token before .ascending
  | descending {before}
    (hnone : ∀ part, part <+: token → ¬ Spells settings.ascendingPrefixes part)
    (hlongest : Longest (fun part => part <+: token ∧ Spells settings.descendingPrefixes part)
      before) : TakenBefore settings token before .descending
  | nothing
    (hnone : ∀ part, part <+: token → ¬ Spells settings.ascendingPrefixes part ∧
      ¬ Spells settings.descendingPrefixes part) : TakenBefore settings token [] .ascending

/-- The marker at the end of what is left of a token and its direction: the longest one of either
    order, which is ascending if both orders have it, or else nothing. -/
inductive TakenBehind (settings : SortSettings) (rest : List Char) :
    List Char → SortDirection → Prop
  | ascending {behind}
    (hlongest : Longest (fun part => part <:+ rest ∧ (Spells settings.ascendingPostfixes part ∨
      Spells settings.descendingPostfixes part)) behind)
    (hspells : Spells settings.ascendingPostfixes behind) :
    TakenBehind settings rest behind .ascending
  | descending {behind}
    (hlongest : Longest (fun part => part <:+ rest ∧ (Spells settings.ascendingPostfixes part ∨
      Spells settings.descendingPostfixes part)) behind)
    (hspells : ¬ Spells settings.ascendingPostfixes behind) :
    TakenBehind settings rest behind .descending
  | nothing
    (hnone : ∀ part, part <:+ rest → ¬ Spells settings.ascendingPostfixes part ∧
      ¬ Spells settings.descendingPostfixes part) : TakenBehind settings rest [] .ascending

/-- A token in three parts, and the direction that its markers give it. -/
structure Cut where
  before : List Char
  path : List Char
  behind : List Char
  direction : SortDirection

/-- A cut takes the markers off a token, first the one in front. The token is one of descending
    order if either marker is. -/
def Cut.Divides (settings : SortSettings) (token : List Char) (cut : Cut) : Prop :=
  token = cut.before ++ (cut.path ++ cut.behind) ∧
  ∃ first last, TakenBefore settings token cut.before first ∧
    TakenBehind settings (cut.path ++ cut.behind) cut.behind last ∧
    (cut.direction = .descending ↔ first = .descending ∨ last = .descending)

/-- The path and the direction of a cut. There are none if the path is empty. -/
def Cut.key? (cut : Cut) : Option (String × SortDirection) :=
  if Text.trim cut.path = [] then none
  else some (String.ofList (Text.trim cut.path), cut.direction)

private theorem Longest.eq_of_start {before other : List Char} {spells : List Char → Prop}
    (h : Longest (fun part => part <+: token ∧ spells part) before)
    (h' : Longest (fun part => part <+: token ∧ spells part) other) : before = other := by
  have hlength := Nat.le_antisymm (h'.2 before h.1) (h.2 other h'.1)
  exact (List.prefix_of_prefix_length_le h.1.1 h'.1.1 hlength.le).eq_of_length hlength

private theorem Longest.eq_of_end {behind other : List Char} {spells : List Char → Prop}
    (h : Longest (fun part => part <:+ rest ∧ spells part) behind)
    (h' : Longest (fun part => part <:+ rest ∧ spells part) other) : behind = other := by
  have hlength := Nat.le_antisymm (h'.2 behind h.1) (h.2 other h'.1)
  exact (List.suffix_of_suffix_length_le h.1.1 h'.1.1 hlength.le).eq_of_length hlength

theorem TakenBefore.unique {before other : List Char} {first second : SortDirection}
    (h : TakenBefore settings token before first) (h' : TakenBefore settings token other second) :
    before = other ∧ first = second := by
  cases h with
  | ascending hlongest =>
    cases h' with
    | ascending hlongest' => exact ⟨hlongest.eq_of_start hlongest', rfl⟩
    | descending hnone _ => exact absurd hlongest.1.2 (hnone _ hlongest.1.1)
    | nothing hnone => exact absurd hlongest.1.2 (hnone _ hlongest.1.1).1
  | descending hnone hlongest =>
    cases h' with
    | ascending hlongest' => exact absurd hlongest'.1.2 (hnone _ hlongest'.1.1)
    | descending _ hlongest' => exact ⟨hlongest.eq_of_start hlongest', rfl⟩
    | nothing hnone' => exact absurd hlongest.1.2 (hnone' _ hlongest.1.1).2
  | nothing hnone =>
    cases h' with
    | ascending hlongest' => exact absurd hlongest'.1.2 (hnone _ hlongest'.1.1).1
    | descending _ hlongest' => exact absurd hlongest'.1.2 (hnone _ hlongest'.1.1).2
    | nothing _ => exact ⟨rfl, rfl⟩

theorem TakenBehind.unique {behind other : List Char} {first second : SortDirection}
    (h : TakenBehind settings rest behind first) (h' : TakenBehind settings rest other second) :
    behind = other ∧ first = second := by
  cases h with
  | ascending hlongest hspells =>
    cases h' with
    | ascending hlongest' _ => exact ⟨hlongest.eq_of_end hlongest', rfl⟩
    | descending hlongest' hspells' =>
      exact absurd (hlongest.eq_of_end hlongest' ▸ hspells) hspells'
    | nothing hnone => exact absurd hspells (hnone _ hlongest.1.1).1
  | descending hlongest hspells =>
    cases h' with
    | ascending hlongest' hspells' =>
      exact absurd (hlongest.eq_of_end hlongest' ▸ hspells') hspells
    | descending hlongest' _ => exact ⟨hlongest.eq_of_end hlongest', rfl⟩
    | nothing hnone =>
      exact absurd hlongest.1.2 (not_or.mpr (hnone _ hlongest.1.1))
  | nothing hnone =>
    cases h' with
    | ascending hlongest' hspells' => exact absurd hspells' (hnone _ hlongest'.1.1).1
    | descending hlongest' _ =>
      exact absurd hlongest'.1.2 (not_or.mpr (hnone _ hlongest'.1.1))
    | nothing _ => exact ⟨rfl, rfl⟩

theorem Cut.Divides.unique {cut other : Cut} (h : cut.Divides settings token)
    (h' : other.Divides settings token) : other = cut := by
  obtain ⟨before, path, behind, direction⟩ := cut
  obtain ⟨before', path', behind', direction'⟩ := other
  obtain ⟨htoken, first, last, hbefore, hbehind, hdirection⟩ := h
  obtain ⟨htoken', first', last', hbefore', hbehind', hdirection'⟩ := h'
  dsimp only at *
  obtain ⟨rfl, rfl⟩ := hbefore.unique hbefore'
  have hrest : path' ++ behind' = path ++ behind :=
    List.append_cancel_left (htoken'.symm.trans htoken)
  obtain ⟨rfl, rfl⟩ := hbehind.unique (hrest ▸ hbehind')
  cases List.append_cancel_right hrest
  have hsame : direction' = .descending ↔ direction = .descending :=
    hdirection'.trans hdirection.symm
  cases direction <;> cases direction' <;> simp_all

/-- A text is spelled by a marker that is not empty if it is not empty itself. -/
private theorem isFilled_iff {text : String}
    (hsame : Text.sameIgnoringCase text.toList part = true) :
    (!text.isEmpty) = true ↔ part ≠ [] := by
  have hlength := Text.length_eq_of_sameIgnoringCase hsame
  rw [Bool.not_eq_true', ← Bool.not_eq_true, String.isEmpty_iff, ← String.toList_eq_nil_iff, Ne,
    ← List.length_eq_zero_iff, hlength, List.length_eq_zero_iff]

theorem spells_iff (direction : SortDirection) : Spells texts part ↔
    ∃ marker ∈ markersOf direction texts, Text.sameIgnoringCase marker.1 part = true := by
  simp only [markersOf, List.mem_map, StableSort.mem_sort, List.mem_filter]
  constructor
  · rintro ⟨hne, text, htext, hsame⟩
    exact ⟨_, ⟨text, ⟨htext, (isFilled_iff hsame).mpr hne⟩, rfl⟩, hsame⟩
  · rintro ⟨_, ⟨text, ⟨htext, hfilled⟩, rfl⟩, hsame⟩
    exact ⟨(isFilled_iff hsame).mp hfilled, text, htext, hsame⟩

/-- What follows a marker at the start of a token, with the direction of the marker. -/
private def afterMarkerOf (token : List Char) (marker : Marker) :
    Option (List Char × SortDirection) :=
  (afterMarker? marker.1 token).map fun rest => (rest, marker.2)

private theorem isSome_afterMarkerOf {marker : Marker} (hstart : part <+: token)
    (hsame : Text.sameIgnoringCase marker.1 part = true) :
    (afterMarkerOf token marker).isSome = true := by
  obtain ⟨rest, hrest⟩ := hstart
  rw [afterMarkerOf, afterMarker?_eq_some_iff.mpr ⟨part, hrest.symm, hsame⟩]
  rfl

private theorem not_spells_of_findSome?
    (hnone : (markersOf direction texts).findSome? (afterMarkerOf token) = none) :
    ∀ part, part <+: token → ¬ Spells texts part := by
  intro part hstart hspells
  obtain ⟨marker, hmarker, hsame⟩ := (spells_iff direction).mp hspells
  have hsome := isSome_afterMarkerOf hstart hsame
  rw [List.findSome?_eq_none_iff.mp hnone marker hmarker] at hsome
  cases hsome

/-- Markers are tried from the one with the most bytes on. Those that a token starts with differ in
    letter case only from starts of the token, so the first one of them is the longest. -/
private theorem longest_of_findSome? {found : SortDirection}
    (hfound : (markersOf direction texts).findSome? (afterMarkerOf token) = some (rest, found)) :
    found = direction ∧ ∃ before, token = before ++ rest ∧
      Longest (fun part => part <+: token ∧ Spells texts part) before := by
  rw [markersOf, List.findSome?_map] at hfound
  obtain ⟨text, htext, hread, hfirst⟩ :=
    StableSort.exists_of_findSome?_sort (.of_rank fun text : String => text.utf8ByteSize) hfound
  obtain ⟨after, hafter, hpair⟩ := Option.map_eq_some_iff.mp hread
  cases hpair
  obtain ⟨before, htoken, hsame⟩ := afterMarker?_eq_some_iff.mp hafter
  obtain ⟨hmem, hfilled⟩ := List.mem_filter.mp htext
  have hstart : before <+: token := ⟨rest, htoken.symm⟩
  refine ⟨rfl, before, htoken, ⟨hstart, (isFilled_iff hsame).mp hfilled, text, hmem, hsame⟩, ?_⟩
  rintro other ⟨hother, hne, longer, hlonger, hsame'⟩
  by_contra hlength
  rw [Nat.not_le] at hlength
  have hbegins : before <+: other := List.prefix_of_prefix_length_le hstart hother hlength.le
  have hbytes := Text.utf8ByteSize_lt hbegins (ne_of_apply_ne List.length hlength.ne)
  rw [← Text.utf8ByteSize_of_sameIgnoringCase hsame, ← Text.utf8ByteSize_of_sameIgnoringCase hsame',
    String.ofList_toList, String.ofList_toList] at hbytes
  have hlater := hfirst longer (List.mem_filter.mpr ⟨hlonger, (isFilled_iff hsame').mpr hne⟩)
    (isSome_afterMarkerOf hother
      (show Text.sameIgnoringCase (longer.toList, direction).1 other = true from hsame'))
  exact of_decide_eq_false hlater hbytes

/-- The first way to take a marker off the start of a token takes the longest marker, ascending
    ones first. -/
theorem exists_takenBefore (settings : SortSettings) (token : List Char) :
    ∃ before rest first, token = before ++ rest ∧ TakenBefore settings token before first ∧
      (cutsBefore (markersBefore settings) token).head? = some (rest, first) := by
  have hhead : (cutsBefore (markersBefore settings) token).head? =
      (((markersOf .ascending settings.ascendingPrefixes).findSome? (afterMarkerOf token)).or
        ((markersOf .descending settings.descendingPrefixes).findSome? (afterMarkerOf token))).or
          (some (token, .ascending)) := by
    rw [← List.findSome?_append, ← List.head?_filterMap, ← List.head?_cons (l := []),
      ← List.head?_append]
    rfl
  rw [hhead]
  cases hascending : (markersOf .ascending settings.ascendingPrefixes).findSome?
      (afterMarkerOf token) with
  | some found =>
    obtain ⟨rest, direction⟩ := found
    obtain ⟨rfl, before, htoken, hlongest⟩ := longest_of_findSome? hascending
    exact ⟨before, rest, _, htoken, .ascending hlongest, rfl⟩
  | none =>
    have hnone := not_spells_of_findSome? hascending
    cases hdescending : (markersOf .descending settings.descendingPrefixes).findSome?
        (afterMarkerOf token) with
    | some found =>
      obtain ⟨rest, direction⟩ := found
      obtain ⟨rfl, before, htoken, hlongest⟩ := longest_of_findSome? hdescending
      exact ⟨before, rest, _, htoken, .descending hnone hlongest, rfl⟩
    | none =>
      have hnone' := not_spells_of_findSome? hdescending
      exact ⟨[], token, _, rfl, .nothing fun part hpart => ⟨hnone part hpart, hnone' part hpart⟩,
        rfl⟩

private theorem Longest.cons {behind : List Char} {c : Char} {spells : List Char → Prop}
    (h : Longest (fun part => part <:+ rest ∧ spells part) behind) (hnot : ¬ spells (c :: rest)) :
    Longest (fun part => part <:+ c :: rest ∧ spells part) behind := by
  refine ⟨⟨h.1.1.trans (List.suffix_cons c rest), h.1.2⟩, fun other ⟨hother, hspells⟩ => ?_⟩
  rcases List.suffix_cons_iff.mp hother with rfl | hend
  · exact absurd hspells hnot
  · exact h.2 other ⟨hend, hspells⟩

private theorem longest_self {spells : List Char → Prop} (h : spells rest) :
    Longest (fun part => part <:+ rest ∧ spells part) rest :=
  ⟨⟨List.suffix_rfl, h⟩, fun _ hother => hother.1.length_le⟩

/-- A character in front makes no difference to the marker behind, unless the whole text is a
    marker then. -/
theorem TakenBehind.cons {behind : List Char} {last : SortDirection} {c : Char}
    (h : TakenBehind settings rest behind last)
    (hascending : ¬ Spells settings.ascendingPostfixes (c :: rest))
    (hdescending : ¬ Spells settings.descendingPostfixes (c :: rest)) :
    TakenBehind settings (c :: rest) behind last := by
  have hnot := not_or.mpr ⟨hascending, hdescending⟩
  cases h with
  | ascending hlongest hspells => exact .ascending (hlongest.cons hnot) hspells
  | descending hlongest hspells => exact .descending (hlongest.cons hnot) hspells
  | nothing hnone =>
    refine .nothing fun part hend => ?_
    rcases List.suffix_cons_iff.mp hend with rfl | hend
    · exact ⟨hascending, hdescending⟩
    · exact hnone part hend

private theorem exists_find?_of_spells (direction : SortDirection) (h : Spells texts part) :
    ∃ text, ((markersOf direction texts).find? fun marker =>
      Text.sameIgnoringCase marker.1 part) = some (text, direction) := by
  obtain ⟨marker, hmem, hsame⟩ := (spells_iff direction).mp h
  have hsome := List.find?_isSome (p := fun marker : Marker =>
    Text.sameIgnoringCase marker.1 part).mpr ⟨marker, hmem, hsame⟩
  obtain ⟨⟨text, other⟩, hfound⟩ := Option.isSome_iff_exists.mp hsome
  cases direction_of_mem_markersOf (List.mem_of_find?_eq_some hfound)
  exact ⟨text, hfound⟩

private theorem find?_eq_none_of_not_spells (direction : SortDirection)
    (h : ¬ Spells texts part) :
    ((markersOf direction texts).find? fun marker => Text.sameIgnoringCase marker.1 part) = none :=
  List.find?_eq_none.mpr fun marker hmem hsame =>
    h ((spells_iff direction).mpr ⟨marker, hmem, hsame⟩)

/-- The shortest path with a marker behind it leaves the longest marker. -/
theorem exists_takenBehind (settings : SortSettings) (hline : '\n' ∉ rest) :
    ∃ path behind last, rest = path ++ behind ∧ TakenBehind settings rest behind last ∧
      cutBehind? (markersBehind settings) rest = some (path, last) := by
  induction rest with
  | nil =>
    refine ⟨[], [], .ascending, rfl, .nothing fun part hend => ?_, rfl⟩
    cases List.eq_nil_of_suffix_nil hend
    exact ⟨fun h => h.1 rfl, fun h => h.1 rfl⟩
  | cons c rest ih =>
    obtain ⟨hc, hrest⟩ := not_or.mp (List.mem_cons.not.mp hline)
    rw [cutBehind?, markersBehind, List.find?_append]
    by_cases hascending : Spells settings.ascendingPostfixes (c :: rest)
    · obtain ⟨text, hfound⟩ := exists_find?_of_spells .ascending hascending
      rw [hfound]
      exact ⟨[], c :: rest, .ascending, rfl, .ascending (longest_self (.inl hascending)) hascending,
        rfl⟩
    · rw [find?_eq_none_of_not_spells .ascending hascending, Option.none_or]
      by_cases hdescending : Spells settings.descendingPostfixes (c :: rest)
      · obtain ⟨text, hfound⟩ := exists_find?_of_spells .descending hdescending
        rw [hfound]
        exact ⟨[], c :: rest, .descending, rfl,
          .descending (longest_self (.inr hdescending)) hascending, rfl⟩
      · obtain ⟨path, behind, last, hsplit, htaken, hcut⟩ := ih hrest
        rw [find?_eq_none_of_not_spells .descending hdescending, if_neg (by simpa using Ne.symm hc),
          ← markersBehind, hcut]
        exact ⟨c :: path, behind, last, by rw [hsplit, List.cons_append],
          htaken.cons hascending hdescending, rfl⟩

theorem exists_divides (settings : SortSettings) (hline : '\n' ∉ token) :
    ∃ cut : Cut, cut.Divides settings token ∧
      ofToken? settings token = some (cut.path, cut.direction) := by
  obtain ⟨before, rest, first, htoken, hbefore, hhead⟩ := exists_takenBefore settings token
  have hrest : '\n' ∉ rest := fun hmem => hline (htoken ▸ List.mem_append_right before hmem)
  obtain ⟨path, behind, last, hsplit, hbehind, hcut⟩ := exists_takenBehind settings hrest
  obtain ⟨others, hcuts⟩ := List.head?_eq_some_iff.mp hhead
  subst hsplit
  refine ⟨⟨before, path, behind,
    if first == .descending || last == .descending then .descending else .ascending⟩,
    ⟨htoken, first, last, hbefore, hbehind, ?_⟩, ?_⟩
  · cases first <;> cases last <;> simp
  · rw [ofToken?, hcuts, List.findSome?_cons]
    simp only [hcut]
    rfl

/-- An empty token has an empty path. -/
private theorem Cut.Divides.key?_of_nil {cut : Cut} (h : cut.Divides settings []) :
    cut.key? = none := by
  obtain ⟨hempty, -⟩ := h
  obtain ⟨-, hrest⟩ := List.append_eq_nil_iff.mp hempty.symm
  rw [Cut.key?, (List.append_eq_nil_iff.mp hrest).1]
  rfl

/-- The key that a token is read as. There is none if its path is empty. -/
def keyOfToken? (settings : SortSettings) (token : List Char) : Option (String × SortDirection) :=
  (ofToken? settings token).bind fun found =>
    if (Text.trim found.1).isEmpty then none else some (String.ofList (Text.trim found.1), found.2)

theorem ofSyntax_eq (settings : SortSettings) (raw : String) : ofSyntax settings raw =
    (((raw.toList.splitOn ',').map Text.trim).filter fun token => !token.isEmpty).filterMap
      (keyOfToken? settings) := rfl

theorem keyOfToken?_eq_key? {cut : Cut}
    (hread : ofToken? settings token = some (cut.path, cut.direction)) :
    keyOfToken? settings token = cut.key? := by
  rw [keyOfToken?, hread, Option.bind_some, Cut.key?]
  simp only [List.isEmpty_iff]

theorem ofToken?_eq_of_divides {cut : Cut} (h : cut.Divides settings token)
    (hline : '\n' ∉ token) : ofToken? settings token = some (cut.path, cut.direction) := by
  obtain ⟨other, hother, hread⟩ := exists_divides settings hline
  rw [hread, h.unique hother]

private theorem mem_intercalate {sep : List Char} {parts : List (List Char)} {c : Char}
    (hpart : part ∈ parts) (hc : c ∈ part) : c ∈ sep.intercalate parts := by
  induction parts with
  | nil => cases hpart
  | cons first parts ih =>
    cases parts with
    | nil =>
      cases List.mem_singleton.mp hpart
      rwa [List.intercalate_singleton]
    | cons second parts =>
      rw [List.intercalate_cons_cons, List.append_assoc]
      rcases List.mem_cons.mp hpart with rfl | hmem
      · exact List.mem_append_left _ hc
      · exact List.mem_append_right _ (List.mem_append_right _ (ih hmem))

/-- The tokens of a text are within it. -/
private theorem notMem_token {text : List Char} {c : Char} (hc : c ∉ text) :
    ∀ token ∈ (text.splitOn ',').map Text.trim, c ∉ token := by
  refine List.forall_mem_map.mpr fun part hpart hmem => hc ?_
  have hwithin : c ∈ [','].intercalate (text.splitOn ',') :=
    mem_intercalate hpart (Text.mem_of_mem_trim hmem)
  rwa [List.intercalate_splitOn] at hwithin

/-- A cut is the only one of a token, and the first match of the pattern has its path and its
    direction. -/
def Cut.Reads (settings : SortSettings) (token : List Char) (cut : Cut) : Prop :=
  cut.Divides settings token ∧ (∀ other : Cut, other.Divides settings token → other = cut) ∧
  ((pattern settings).firstMatch? token).map Pattern.Match.key = some (cut.path, cut.direction)

/-- Sort tokens are decomposed maximally. Under any markers, each token of a text in one line has
    one cut, which takes the longest marker off its start and then the longest one off the end of
    what is left. The reader gives the paths and directions of these cuts, those that have a path
    when white space is trimmed, in the order of the tokens. -/
theorem ofSyntax_eq_cuts (settings : SortSettings) {raw : String} (hline : '\n' ∉ raw.toList) :
    ∃ cuts : List Cut,
      List.Forall₂ (fun token cut => cut.Reads settings token)
        ((raw.toList.splitOn ',').map Text.trim) cuts ∧
      ofSyntax settings raw = cuts.filterMap Cut.key? := by
  rw [ofSyntax_eq]
  have hlines := notMem_token hline
  generalize (raw.toList.splitOn ',').map Text.trim = tokens at hlines
  induction tokens with
  | nil => exact ⟨[], .nil, rfl⟩
  | cons token tokens ih =>
    obtain ⟨htoken, htokens⟩ := List.forall_mem_cons.mp hlines
    obtain ⟨cut, hcut, hread⟩ := exists_divides settings htoken
    obtain ⟨cuts, hcuts, hkeys⟩ := ih htokens
    have hreads : cut.Reads settings token :=
      ⟨hcut, fun other hother => hcut.unique hother, ofToken?_eq_firstMatch? settings token ▸ hread⟩
    refine ⟨cut :: cuts, .cons hreads hcuts, ?_⟩
    rw [List.filter_cons, List.filterMap_cons (f := Cut.key?), ← hkeys]
    cases token with
    | nil =>
      rw [hcut.key?_of_nil]
      rfl
    | cons c rest =>
      rw [← keyOfToken?_eq_key? hread]
      rfl

/-- Markers in any letter case, one that is left as a path, and one that has no path. -/
theorem ofSyntax_eq_cuts_builtin :
    '\n' ∉ "-desc, Name DESC ,asc-x-,-".toList ∧
    ∃ cuts : List Cut,
      List.Forall₂ (fun token cut => cut.Reads .builtin token)
        ["-desc".toList, "Name DESC".toList, "asc-x-".toList, "-".toList] cuts ∧
      cuts.filterMap Cut.key? =
        [("desc", .descending), ("Name", .descending), ("x", .descending)] := by
  have hline : '\n' ∉ "-desc, Name DESC ,asc-x-,-".toList := by decide
  obtain ⟨cuts, hcuts, hkeys⟩ := ofSyntax_eq_cuts .builtin hline
  have hread : ofSyntax .builtin "-desc, Name DESC ,asc-x-,-" =
      [("desc", .descending), ("Name", .descending), ("x", .descending)] := by decide +kernel
  exact ⟨hline, cuts, hcuts, hkeys.symm.trans hread⟩

end EntityQuery.SortKey
