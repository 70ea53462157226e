import EntityQuery.Json.Part
import EntityQuery.Proofs.Number.Integer
import EntityQuery.Settings.Json
import Mathlib.Data.List.Nodup

namespace EntityQuery

open Document

namespace OrderedMap

variable {α : Type}

private theorem entries_foldl_insert (entries : List (String × α)) (map : OrderedMap α)
    (hkeys : ((map.entries ++ entries).map (·.1)).Nodup) :
    (entries.foldl (fun map entry => map.insert entry.1 entry.2) map).entries =
      map.entries ++ entries := by
  induction entries generalizing map with
  | nil => exact (List.append_nil _).symm
  | cons entry rest ih =>
    have hnew : entry.1 ∉ map.entries.map (·.1) := by
      rw [List.map_append, List.map_cons] at hkeys
      exact fun hmem => (List.nodup_append.mp hkeys).2.2 _ hmem _ List.mem_cons_self rfl
    have hinsert : (map.insert entry.1 entry.2).entries = map.entries ++ [entry] := by
      rw [insert, dif_neg hnew]
    have happend : (map.insert entry.1 entry.2).entries ++ rest = map.entries ++ entry :: rest := by
      rw [hinsert, List.append_assoc, List.singleton_append]
    rw [List.foldl_cons, ih _ (happend ▸ hkeys), happend]

/-- The entries of a map, put in one after the other, are the map. -/
theorem ofList_entries (map : OrderedMap α) : ofList map.entries = map := by
  have hentries : (ofList map.entries).entries = map.entries :=
    entries_foldl_insert map.entries empty map.keys_nodup
  generalize ofList map.entries = other at hentries
  cases other
  cases map
  cases hentries
  rfl

end OrderedMap

namespace Json

mutual

/-- How many arrays and objects of a document are inside of each other. -/
def depth : Json → Nat
  | array items => depthOfItems items + 1
  | object members => depthOfMembers members + 1
  | _ => 0

def depthOfItems : List Json → Nat
  | [] => 0
  | item :: rest => max (depth item) (depthOfItems rest)

def depthOfMembers : List (Option String × Json) → Nat
  | [] => 0
  | (_, value) :: rest => max (depth value) (depthOfMembers rest)

end

variable {n : Nat}

theorem depth_array_le_iff {items : List Json} :
    (array items).depth ≤ n + 1 ↔ ∀ item ∈ items, item.depth ≤ n := by
  rw [depth, Nat.add_le_add_iff_right]
  induction items with
  | nil => simp [depthOfItems]
  | cons item rest ih => rw [depthOfItems, Nat.max_le, ih, List.forall_mem_cons]

theorem depth_ofMembers_le_iff {members : List (String × Json)} :
    (ofMembers members).depth ≤ n + 1 ↔ ∀ member ∈ members, member.2.depth ≤ n := by
  rw [ofMembers, depth, Nat.add_le_add_iff_right]
  induction members with
  | nil => simp [depthOfMembers]
  | cons member rest ih =>
    rw [List.map_cons, depthOfMembers, Nat.max_le, ih, List.forall_mem_cons]

theorem ofMembers_ne_null (members : List (String × Json)) : ofMembers members ≠ .null := nofun

theorem exists_depth_array {items : List Json} (h : (array items).depth ≤ n) :
    ∃ inside, n = inside + 1 ∧ ∀ item ∈ items, item.depth ≤ inside := by
  cases n with
  | zero => exact absurd h (by simp [depth])
  | succ inside => exact ⟨inside, rfl, depth_array_le_iff.mp h⟩

theorem exists_depth_ofMembers {members : List (String × Json)}
    (h : (ofMembers members).depth ≤ n) :
    ∃ inside, n = inside + 1 ∧ ∀ member ∈ members, member.2.depth ≤ inside := by
  cases n with
  | zero => exact absurd h (by simp [ofMembers, depth])
  | succ inside => exact ⟨inside, rfl, depth_ofMembers_le_iff.mp h⟩

namespace Part

variable {α β : Type} {json : Json} {a : α} {read : Part → Option α} {toJson : α → Json}

/-- Whether a value is read from a document wherever the document may be opened. -/
def Reads (read : Part → Option α) (json : Json) (a : α) : Prop :=
  ∀ {depth : Nat}, json.depth ≤ depth → read ⟨json, depth⟩ = some a

theorem reads_text (text : String) : Reads Document.text? (.string text) text := fun _ => rfl

theorem reads_bool (value : Bool) : Reads Document.bool? (.bool value) value := fun _ => rfl

theorem reads_char (c : Char) : Reads Document.char? (.string (String.singleton c)) c := by
  intro depth _
  have htext : Document.text? (⟨.string (String.singleton c), depth⟩ : Part) =
      some (String.singleton c) := rfl
  rw [char?, htext, Option.bind_eq_bind, Option.bind_some, String.toList_singleton]
  rfl

theorem reads_chosen {ofName? : String → Option α} {name : String} (hname : ofName? name = some a) :
    Reads (chosen? ofName?) (.string name) a := fun _ => hname

theorem reads_word (word : UInt64) : Reads word? (.number (toString word.toNat)) word := by
  intro depth _
  have hdigits : Number.readDigits (toString word.toNat).toList = some word.toNat := by
    rw [Nat.toString_eq_ofList_toDigits, String.toList_ofList, Number.readDigits_eq_some_iff]
    exact Number.isNatural_toDigits word.toNat
  have hword : word? ⟨.number (toString word.toNat), depth⟩ = (do
      let n ← Number.readDigits (toString word.toNat).toList
      if n < UInt64.size then some (UInt64.ofNat n) else none) := rfl
  rw [hword, hdigits, Option.bind_eq_bind, Option.bind_some, if_pos word.toNat_lt_size,
    UInt64.ofNat_toNat]

theorem reads_option (hread : Reads read json a) (hnull : json ≠ .null) :
    Reads (option? read) json (some a) := by
  intro depth hdepth
  have hoption : option? read ⟨json, depth⟩ = (read ⟨json, depth⟩).map some := by
    cases json with
    | null => exact absurd rfl hnull
    | _ => rfl
  rw [hoption, hread hdepth]
  rfl

private theorem mapM_map_eq_some {γ : Type} {read : γ → Option α} {xs : List β} {f : β → γ}
    {result : β → α} (h : ∀ x ∈ xs, read (f x) = some (result x)) :
    (xs.map f).mapM read = some (xs.map result) := by
  induction xs with
  | nil => rfl
  | cons x rest ih =>
    obtain ⟨hx, hrest⟩ := List.forall_mem_cons.mp h
    rw [List.map_cons, List.mapM_cons, hx, ih hrest]
    rfl

theorem reads_list_map {xs : List β} {toJson : β → Json} {result : β → α}
    (hread : ∀ x ∈ xs, Reads read (toJson x) (result x)) :
    Reads (list? read) (.array (xs.map toJson)) (xs.map result) := by
  intro depth hdepth
  obtain ⟨inside, rfl, hitems⟩ := exists_depth_array hdepth
  have hlist : list? read (⟨.array (xs.map toJson), inside + 1⟩ : Part) =
      ((xs.map toJson).map fun item => ⟨item, inside⟩).mapM read := rfl
  rw [hlist, List.map_map]
  exact mapM_map_eq_some fun x hx => hread x hx (hitems _ (List.mem_map_of_mem hx))

theorem reads_list (hread : ∀ a, Reads read (toJson a) a) (values : List α) :
    Reads (list? read) (.array (values.map toJson)) values := by
  have hmap : Reads (list? read) (.array (values.map toJson)) (values.map id) :=
    reads_list_map fun a _ => hread a
  rwa [List.map_id] at hmap

/-- The members of an object as parts with some depth left. -/
def membersAt (depth : Nat) (members : List (String × Json)) : List (String × Part) :=
  members.map fun member => (member.1, ⟨member.2, depth⟩)

theorem entries?_ofMembers (members : List (String × Json)) (depth : Nat) :
    entries? ⟨.ofMembers members, depth + 1⟩ = some (membersAt depth members) :=
  mapM_map_eq_some fun _ _ => rfl

theorem reads_map (hread : ∀ a, Reads read (toJson a) a) (map : OrderedMap α) :
    Reads (map? read) (map.toJson toJson) map := by
  intro depth hdepth
  obtain ⟨inside, rfl, hmembers⟩ := exists_depth_ofMembers hdepth
  have hentries : Document.entries? (⟨map.toJson toJson, inside + 1⟩ : Part) = some
      (membersAt inside (map.entries.map fun entry => (entry.1, toJson entry.2))) :=
    entries?_ofMembers _ inside
  have hvalues : (map.entries.map fun entry => (entry.1, Part.mk (toJson entry.2) inside)).mapM
      (fun (key, part) => do return (key, ← read part)) = some (map.entries.map id) := by
    refine mapM_map_eq_some fun entry hentry => ?_
    have hvalue := hread entry.2 (hmembers _ (List.mem_map_of_mem hentry))
    dsimp only
    rw [hvalue]
    rfl
  rw [map?, hentries, Option.bind_eq_bind, Option.bind_some, membersAt, List.map_map]
  refine (congrArg (·.bind fun entries => some (OrderedMap.ofList entries)) hvalues).trans ?_
  rw [List.map_id, Option.bind_some, OrderedMap.ofList_entries]

/-- The fields of a record are the members of an object, and may be opened as deep as these go. -/
structure Gives (members : List (String × Json)) (fields : List (String × Part)) : Prop where
  given : ∀ {name json}, members.lookup name = some json →
    ∃ depth, fields.lookup name = some ⟨json, depth⟩ ∧ json.depth ≤ depth
  missing : ∀ {name}, members.lookup name = none → fields.lookup name = none

private theorem lookup_membersAt (depth : Nat) (members : List (String × Json)) (name : String) :
    (membersAt depth members).lookup name =
      (members.lookup name).map fun json => ⟨json, depth⟩ := by
  induction members with
  | nil => rfl
  | cons member rest ih =>
    rw [membersAt, List.map_cons, List.lookup_cons, List.lookup_cons]
    split
    · rfl
    · exact ih

theorem gives_membersAt {members : List (String × Json)} {depth : Nat}
    (h : ∀ member ∈ members, member.2.depth ≤ depth) : Gives members (membersAt depth members) := by
  constructor
  · intro name json hlookup
    obtain ⟨before, after, rfl, -⟩ := List.lookup_eq_some_iff.mp hlookup
    exact ⟨depth, by rw [lookup_membersAt, hlookup]; rfl, h (name, json) (by simp)⟩
  · intro name hlookup
    rw [lookup_membersAt, hlookup]
    rfl

/-- A record is read from an object that gives some of its fields in their order. -/
theorem exists_fields? (names : List String) {members : List (String × Json)} {depth : Nat}
    (hdepth : (Json.ofMembers members).depth ≤ depth) (closed : Bool) (hnames : names.Nodup)
    (hkeys : List.Sublist (members.map (·.1)) names) :
    ∃ fields, fields? closed names ⟨.ofMembers members, depth⟩ = some fields ∧
      Gives members fields := by
  obtain ⟨inside, rfl, hmembers⟩ := exists_depth_ofMembers hdepth
  refine ⟨membersAt inside members, ?_, gives_membersAt hmembers⟩
  have hfields : (membersAt inside members).map (·.1) = members.map (·.1) := List.map_map
  have hall : (membersAt inside members).filter (fun entry => names.contains entry.1) =
      membersAt inside members := by
    refine List.filter_eq_self.mpr fun entry hentry => List.contains_iff_mem.mpr (hkeys.subset ?_)
    exact hfields ▸ List.mem_map_of_mem hentry
  have hitems : items? ⟨.ofMembers members, inside + 1⟩ = none := rfl
  rw [fields?, hitems, entries?_ofMembers, Option.bind_eq_bind, Option.bind_some]
  dsimp only
  rw [hall, if_neg (by simp), if_pos (hfields ▸ hnames.sublist hkeys)]

namespace Gives

variable {members : List (String × Json)} {fields : List (String × Part)} {name : String}

theorem required (h : Gives members fields) (hlookup : members.lookup name = some json)
    (hread : Reads read json a) : required? fields name read = some a := by
  obtain ⟨depth, hfield, hdepth⟩ := h.given hlookup
  rw [required?, hfield, Option.bind_eq_bind, Option.bind_some, hread hdepth]

theorem given? (h : Gives members fields) (hlookup : members.lookup name = some json)
    (otherwise : α) (hread : Reads read json a) : given? fields name otherwise read = some a := by
  obtain ⟨depth, hfield, hdepth⟩ := h.given hlookup
  rw [Document.given?, hfield]
  exact hread hdepth

/-- A field that is left out where there is no value is read as the value or its absence. -/
theorem optional {value : Option β} {toJson : β → Json} {result : β → α}
    (h : Gives members fields) (hlookup : members.lookup name = value.map toJson)
    (hread : ∀ b, Reads read (toJson b) (result b)) (hnull : ∀ b, toJson b ≠ .null) :
    Document.given? fields name none (option? read) = some (value.map result) := by
  cases value with
  | none => rw [Document.given?, h.missing hlookup, Option.map_none]
  | some b => exact h.given? hlookup none (reads_option (hread b) (hnull b))

end Gives

end Part

end Json

end EntityQuery
