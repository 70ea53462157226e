namespace EntityQuery

/-- Values by key, in the order in which the keys came up first. -/
structure OrderedMap (α : Type) where
  entries : List (String × α)
  keys_nodup : (entries.map (·.1)).Nodup
deriving DecidableEq

namespace OrderedMap

variable {α : Type}

def empty : OrderedMap α := ⟨[], by simp⟩

instance : Inhabited (OrderedMap α) := ⟨empty⟩

/-- The value of a key is replaced in its place. -/
def putAt (key : String) (value : α) (entry : String × α) : String × α :=
  if entry.1 = key then (key, value) else entry

theorem map_putAt_keys (key : String) (value : α) (entries : List (String × α)) :
    (entries.map (putAt key value)).map (·.1) = entries.map (·.1) := by
  induction entries with
  | nil => rfl
  | cons entry rest ih =>
    by_cases h : entry.1 = key <;> simp [putAt, h, ih]

/-- Gives a key a value. A key that is there already keeps its place. -/
def insert (map : OrderedMap α) (key : String) (value : α) : OrderedMap α :=
  if h : key ∈ map.entries.map (·.1) then
    ⟨map.entries.map (putAt key value), by rw [map_putAt_keys]; exact map.keys_nodup⟩
  else
    ⟨map.entries ++ [(key, value)], by
      rw [List.map_append, List.nodup_append]
      refine ⟨map.keys_nodup, by simp, ?_⟩
      intro a ha b hb
      simp only [List.map_cons, List.map_nil, List.mem_singleton] at hb
      subst hb
      exact fun hab => h (hab ▸ ha)⟩

/-- The entries put in one after the other. -/
def ofList (entries : List (String × α)) : OrderedMap α :=
  entries.foldl (fun map entry => map.insert entry.1 entry.2) empty

end OrderedMap

end EntityQuery
