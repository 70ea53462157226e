import EntityQuery.Proofs.StableSort
import EntityQuery.Proofs.Text
import EntityQuery.Sort.Reader

namespace EntityQuery

/-- A pattern for the start of a text. Letters from `A` to `Z` stand for both of their cases. -/
inductive Pattern (Group : Type) where
  /-- One of some texts, of which the earlier ones are tried first. -/
  | oneOf (texts : List (List Char))
  /-- The first pattern, or else the second. -/
  | either (first second : Pattern Group)
  /-- The inner pattern, or else nothing. -/
  | optional (inner : Pattern Group)
  | followedBy (first second : Pattern Group)
  /-- A run of characters within one line, of which the shorter ones are tried first. -/
  | shortestRun
  /-- The end of the text. -/
  | finish
  /-- A pattern whose text is remembered under a name. -/
  | captured (group : Group) (inner : Pattern Group)

namespace Pattern

variable {Group : Type}

/-- A text that a pattern stands for, with the parts of it that are remembered and what follows. -/
structure Match (Group : Type) where
  captures : List (Group × List Char)
  taken : List Char
  rest : List Char

def Match.append (first second : Match Group) : Match Group :=
  ⟨first.captures ++ second.captures, first.taken ++ second.taken, second.rest⟩

/-- The ways to take a run of characters within one line off a text, the shorter ones first. -/
def runs : List Char → List (List Char × List Char)
  | [] => [([], [])]
  | c :: rest => ([], c :: rest) ::
      if c == '\n' then [] else (runs rest).map fun run => (c :: run.1, run.2)

/-- The ways in which a text starts with what a pattern stands for, in the order in which they
    are tried. -/
def allMatches : Pattern Group → List Char → List (Match Group)
  | oneOf texts, text => texts.filterMap fun part =>
      (SortKey.afterMarker? part text).map fun rest => ⟨[], text.take part.length, rest⟩
  | either first second, text => first.allMatches text ++ second.allMatches text
  | optional inner, text => inner.allMatches text ++ [⟨[], [], text⟩]
  | followedBy first second, text =>
    (first.allMatches text).flatMap fun front => (second.allMatches front.rest).map front.append
  | shortestRun, text => (runs text).map fun run => ⟨[], run.1, run.2⟩
  | finish, text => if text.isEmpty then [⟨[], [], text⟩] else []
  | captured group inner, text => (inner.allMatches text).map fun found =>
      { found with captures := (group, found.taken) :: found.captures }

/-- The match that is tried before all others. -/
def firstMatch? (pattern : Pattern Group) (text : List Char) : Option (Match Group) :=
  (pattern.allMatches text).head?

theorem firstMatch?_followedBy (first second : Pattern Group) (text : List Char) :
    (first.followedBy second).firstMatch? text = (first.allMatches text).findSome? fun front =>
      (second.firstMatch? front.rest).map front.append := by
  simp only [firstMatch?, allMatches, List.head?_flatMap, List.head?_map]

end Pattern

namespace SortKey

open Pattern

/-- The parts of a token that are told apart. -/
inductive Group where
  | ascendingBefore
  | descendingBefore
  | path
  | ascendingBehind
  | descendingBehind
deriving DecidableEq

/-- Whether the part is a marker of descending order. -/
def Group.descends (group : Group) : Bool := group == descendingBefore || group == descendingBehind

/-- The markers of one direction as a part of a token. If there are none, no text matches. -/
def markerGroup (group : Group) (direction : SortDirection) (texts : List String) :
    Pattern Group :=
  .captured group (.oneOf ((markersOf direction texts).map (·.1)))

/-- A marker in front of a path, or nothing. -/
def patternBefore (settings : SortSettings) : Pattern Group :=
  .optional (.either (markerGroup .ascendingBefore .ascending settings.ascendingPrefixes)
    (markerGroup .descendingBefore .descending settings.descendingPrefixes))

/-- A marker behind a path, or nothing. -/
def patternBehind (settings : SortSettings) : Pattern Group :=
  .optional (.either (markerGroup .ascendingBehind .ascending settings.ascendingPostfixes)
    (markerGroup .descendingBehind .descending settings.descendingPostfixes))

/-- The pattern that the markers of some settings make up, for a token from its start to its
    end. -/
def pattern (settings : SortSettings) : Pattern Group :=
  .followedBy (patternBefore settings)
    (.followedBy (.captured .path .shortestRun) (.followedBy (patternBehind settings) .finish))

end SortKey

open SortKey

namespace Pattern.Match

def direction (found : Match Group) : SortDirection :=
  if found.captures.any fun capture => capture.1.descends then .descending else .ascending

/-- The path and the direction of a token that was found to match. -/
def key (found : Match Group) : List Char × SortDirection :=
  ((found.captures.lookup .path).getD [], found.direction)

theorem direction_append (front found : Match Group) : (front.append found).direction =
    if front.direction == .descending || found.direction == .descending then .descending
    else .ascending := by
  rw [direction, direction, direction, append, List.any_append]
  cases front.captures.any fun capture => capture.1.descends <;>
    cases found.captures.any fun capture => capture.1.descends <;> rfl

theorem key_append {front : Match Group} (hpath : front.captures.lookup .path = none)
    (found : Match Group) : (front.append found).key = (found.key.1,
      if front.direction == .descending || found.direction == .descending then .descending
      else .ascending) := by
  rw [key, direction_append, append, List.lookup_append, hpath, Option.none_or]
  rfl

end Pattern.Match

namespace SortKey

variable {settings : SortSettings} {text : List Char}

theorem direction_of_mem_markersOf {direction : SortDirection} {texts : List String}
    {marker : Marker} (h : marker ∈ markersOf direction texts) : marker.2 = direction := by
  obtain ⟨text, -, rfl⟩ := List.mem_map.mp h
  rfl

theorem ne_nil_of_mem_markersOf {direction : SortDirection} {texts : List String}
    {marker : Marker} (h : marker ∈ markersOf direction texts) : marker.1 ≠ [] := by
  obtain ⟨text, htext, rfl⟩ := List.mem_map.mp h
  have hfilled := (List.mem_filter.mp (StableSort.mem_sort.mp htext)).2
  simpa [String.toList_eq_nil_iff] using hfilled

theorem afterMarker?_eq_some_iff {marker token rest : List Char} :
    afterMarker? marker token = some rest ↔
      ∃ part, token = part ++ rest ∧ Text.sameIgnoringCase marker part = true := by
  rw [afterMarker?]
  constructor
  · intro hafter
    split at hafter
    case isTrue hsame =>
      cases hafter
      exact ⟨_, (List.take_append_drop _ _).symm, hsame⟩
    case isFalse => cases hafter
  · rintro ⟨part, rfl, hsame⟩
    rw [Text.length_eq_of_sameIgnoringCase hsame, List.take_left, List.drop_left, if_pos hsame]

private theorem allMatches_markerGroup (group : Group) (direction : SortDirection)
    (texts : List String) (text : List Char) :
    (markerGroup group direction texts).allMatches text =
      (markersOf direction texts).filterMap fun marker => (afterMarker? marker.1 text).map
        fun rest => ⟨[(group, text.take marker.1.length)], text.take marker.1.length, rest⟩ := by
  simp [markerGroup, Pattern.allMatches, List.filterMap_map, List.map_filterMap, Function.comp_def]

/-- The ways to match a marker or nothing are the ways to take a marker off the start of a text. -/
private theorem map_allMatches (group group' : Group) (hascending : group.descends = false)
    (hdescending : group'.descends = true) (texts texts' : List String) (text : List Char) :
    ((Pattern.optional (.either (markerGroup group .ascending texts)
      (markerGroup group' .descending texts'))).allMatches text).map
        (fun found => (found.rest, found.direction)) =
      cutsBefore (markersOf .ascending texts ++ markersOf .descending texts') text := by
  have hgroup : ∀ (group : Group) (direction : SortDirection) (texts : List String),
      (if group.descends then SortDirection.descending else .ascending) = direction →
      ((markerGroup group direction texts).allMatches text).map
          (fun found => (found.rest, found.direction)) =
        (markersOf direction texts).filterMap fun marker =>
          (afterMarker? marker.1 text).map fun rest => (rest, marker.2) := by
    intro group direction texts hdirection
    rw [allMatches_markerGroup, List.map_filterMap]
    refine List.filterMap_congr fun marker hmarker => ?_
    rw [direction_of_mem_markersOf hmarker, Option.map_map, ← hdirection]
    simp [Function.comp_def, Pattern.Match.direction]
  simp only [Pattern.allMatches, List.map_append]
  rw [hgroup group .ascending texts (by rw [hascending]; rfl),
    hgroup group' .descending texts' (by rw [hdescending]; rfl), ← List.filterMap_append]
  rfl

private theorem lookup_path_patternBefore :
    ∀ front ∈ (patternBefore settings).allMatches text, front.captures.lookup .path = none := by
  simp only [patternBefore, Pattern.allMatches, allMatches_markerGroup, List.mem_append,
    List.mem_filterMap, Option.map_eq_some_iff, List.mem_singleton]
  rintro front ((⟨marker, -, rest, -, rfl⟩ | ⟨marker, -, rest, -, rfl⟩) | rfl) <;> rfl

private theorem afterMarker?_bind {marker : List Char} (direction : SortDirection) :
    ((afterMarker? marker text).bind fun rest => if rest.isEmpty then some direction else none) =
      if Text.sameIgnoringCase marker text then some direction else none := by
  by_cases hsame : Text.sameIgnoringCase marker text = true
  · have hafter : afterMarker? marker text = some [] :=
      afterMarker?_eq_some_iff.mpr ⟨text, (List.append_nil text).symm, hsame⟩
    rw [if_pos hsame, hafter]
    rfl
  · rw [if_neg hsame]
    cases hafter : afterMarker? marker text with
    | none => rfl
    | some rest =>
      obtain ⟨part, htext, hpart⟩ := afterMarker?_eq_some_iff.mp hafter
      cases rest with
      | nil => exact absurd (htext ▸ (List.append_nil part).symm ▸ hpart) hsame
      | cons c rest => rfl

/-- The direction of the marker that makes up a text. Without a text there is nothing to match. -/
private theorem map_direction_firstMatch? (settings : SortSettings) (text : List Char) :
    ((Pattern.followedBy (patternBehind settings) .finish).firstMatch? text).map
        Pattern.Match.direction =
      (((markersBehind settings).find? fun marker =>
          Text.sameIgnoringCase marker.1 text).map (·.2)).or
        (if text.isEmpty then some .ascending else none) := by
  have hfinish : ∀ front : Pattern.Match Group,
      (((Pattern.finish.firstMatch? front.rest).map front.append).map Pattern.Match.direction) =
        if front.rest.isEmpty then some front.direction else none := by
    intro front
    rw [Pattern.firstMatch?, Pattern.allMatches]
    split
    · simp [Pattern.Match.direction, Pattern.Match.append]
    · rfl
  have hmarker : ∀ marker : Marker,
      (((afterMarker? marker.1 text).map fun rest => (rest, marker.2)).bind
        fun found => if found.1.isEmpty then some found.2 else none) =
      (Option.guard (fun marker : Marker => Text.sameIgnoringCase marker.1 text) marker).map
        (·.2) := by
    intro marker
    rw [Option.bind_map]
    simp only [Function.comp_def, afterMarker?_bind, Option.guard]
    split <;> rfl
  have hcuts := map_allMatches .ascendingBehind .descendingBehind rfl rfl
    settings.ascendingPostfixes settings.descendingPostfixes text
  rw [Pattern.firstMatch?_followedBy, List.map_findSome?]
  calc ((patternBehind settings).allMatches text).findSome? (Option.map Pattern.Match.direction ∘
        fun front => (Pattern.finish.firstMatch? front.rest).map front.append)
      = ((patternBehind settings).allMatches text).findSome?
          fun front => if front.rest.isEmpty then some front.direction else none :=
        congrArg (List.findSome? · _) (funext hfinish)
    _ = (cutsBefore (markersBehind settings) text).findSome?
          fun found => if found.1.isEmpty then some found.2 else none := by
        rw [markersBehind, ← hcuts, List.findSome?_map]
        rfl
    _ = _ := by
        rw [cutsBefore, List.findSome?_append, ← List.head?_filterMap, List.filterMap_filterMap,
          List.head?_filterMap, List.find?_eq_findSome?_guard, List.map_findSome?,
          List.findSome?_singleton]
        simp only [hmarker]
        rfl

/-- The shortest run up to a marker at the end is what the reader cuts off. -/
private theorem findSome?_runs (settings : SortSettings) (text : List Char) :
    ((Pattern.runs text).findSome? fun run =>
      (((Pattern.followedBy (patternBehind settings) .finish).firstMatch? run.2).map
        Pattern.Match.direction).map fun direction => (run.1, direction)) =
      cutBehind? (markersBehind settings) text := by
  simp only [map_direction_firstMatch?]
  induction text with
  | nil =>
    have hnone : (markersBehind settings).find? (fun marker =>
        Text.sameIgnoringCase marker.1 []) = none := by
      refine List.find?_eq_none.mpr fun marker hmarker hsame => ?_
      have hempty := List.length_eq_zero_iff.mp (Text.length_eq_of_sameIgnoringCase hsame)
      rcases List.mem_append.mp hmarker with h | h
      · exact ne_nil_of_mem_markersOf h hempty
      · exact ne_nil_of_mem_markersOf h hempty
    rw [Pattern.runs, List.findSome?_singleton, hnone]
    rfl
  | cons c rest ih =>
    rw [Pattern.runs, List.findSome?_cons, cutBehind?]
    cases (markersBehind settings).find? fun marker =>
        Text.sameIgnoringCase marker.1 (c :: rest) with
    | some marker => rfl
    | none =>
      by_cases hc : (c == '\n') = true
      · rw [if_pos hc, if_pos hc]
        rfl
      · rw [if_neg hc, if_neg hc, ← ih, List.findSome?_map, List.map_findSome?]
        simp only [Function.comp_def, Option.map_map]
        rfl

/-- The path and the marker behind it are what the reader cuts off. -/
private theorem map_key_firstMatch? (settings : SortSettings) (text : List Char) :
    (((Pattern.captured Group.path .shortestRun).followedBy
      (.followedBy (patternBehind settings) .finish)).firstMatch? text).map Pattern.Match.key =
      cutBehind? (markersBehind settings) text := by
  rw [Pattern.firstMatch?_followedBy, List.map_findSome?, ← findSome?_runs, Pattern.allMatches,
    Pattern.allMatches, List.map_map, List.findSome?_map]
  refine congrArg (List.findSome? · _) (funext fun run => ?_)
  simp only [Function.comp_def, Option.map_map]
  exact congrArg (Option.map · _) (funext fun found => rfl)

/-- The reader takes the first match of the pattern. -/
theorem ofToken?_eq_firstMatch? (settings : SortSettings) (token : List Char) :
    ofToken? settings token = ((pattern settings).firstMatch? token).map Pattern.Match.key := by
  have hcuts := map_allMatches .ascendingBefore .descendingBefore rfl rfl
    settings.ascendingPrefixes settings.descendingPrefixes token
  rw [pattern, Pattern.firstMatch?_followedBy, List.map_findSome?, ofToken?, markersBefore, ← hcuts,
    List.findSome?_map, ← List.head?_filterMap, ← List.head?_filterMap]
  refine congrArg List.head? (List.filterMap_congr fun front hfront => ?_)
  simp only [Function.comp_def, ← map_key_firstMatch?, Option.map_map]
  refine congrArg (Option.map · _) (funext fun found => ?_)
  rw [Pattern.Match.key_append (lookup_path_patternBefore front hfront)]
  rfl

end SortKey

end EntityQuery
