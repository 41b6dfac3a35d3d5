/-
Tables that keep the order of their keys.

A table lists its entries in the order in which their keys were first set; setting
a key again changes its value in place. That no key occurs twice is part of the
type, so a table is determined by its keys and their values and never needs a
separate argument that it is well formed.
-/

set_option autoImplicit false

namespace ServiceSchema

/-- The entries with `key` set to `value`: in place when the key occurs, at the end otherwise. -/
def setEntry {α : Type} (key : String) (value : α) : List (String × α) → List (String × α)
  | [] => [(key, value)]
  | (k, v) :: rest => if k = key then (key, value) :: rest else (k, v) :: setEntry key value rest

/-- Setting a key keeps the keys that are there and adds only itself. -/
theorem mem_keys_setEntry {α : Type} (key k : String) (value : α) (entries : List (String × α)) :
    k ∈ (setEntry key value entries).map Prod.fst ↔ k = key ∨ k ∈ entries.map Prod.fst := by
  induction entries with
  | nil => simp [setEntry]
  | cons entry rest ih =>
    obtain ⟨k', v⟩ := entry
    by_cases h : k' = key
    · subst h; simp [setEntry]
    · simp only [setEntry, h, if_false, List.map_cons, List.mem_cons, ih]
      exact ⟨fun h => by rcases h with h | h | h <;> simp [h],
        fun h => by rcases h with h | h | h <;> simp [h]⟩

/-- Setting a key never makes a key occur twice. -/
theorem nodup_setEntry {α : Type} (key : String) (value : α) {entries : List (String × α)}
    (h : (entries.map Prod.fst).Nodup) : ((setEntry key value entries).map Prod.fst).Nodup := by
  induction entries with
  | nil => simp [setEntry]
  | cons entry rest ih =>
    obtain ⟨k, v⟩ := entry
    simp only [List.map_cons, List.nodup_cons] at h
    by_cases hk : k = key
    · subst hk; simpa [setEntry] using h
    · simp only [setEntry, hk, if_false, List.map_cons, List.nodup_cons]
      refine ⟨fun hmem => ?_, ih h.2⟩
      rcases (mem_keys_setEntry key k value rest).1 hmem with h' | h'
      · exact hk h'
      · exact h.1 h'

/-- A finite map from names whose entries keep the order in which they were first set. -/
structure Table (α : Type) where
  /-- The entries, oldest key first. -/
  entries : List (String × α) := []
  /-- No key occurs twice. -/
  nodup : (entries.map Prod.fst).Nodup := by simp

namespace Table

variable {α : Type}

/-- The table without entries. -/
def empty : Table α := {}

instance : Inhabited (Table α) := ⟨empty⟩

/-- The keys, oldest first. -/
def keys (t : Table α) : List String := t.entries.map Prod.fst

/-- The values in the order of their keys. -/
def values (t : Table α) : List α := t.entries.map Prod.snd

/-- The number of entries. -/
def size (t : Table α) : Nat := t.entries.length

/-- Sets a key, in place when it occurs. -/
def set (t : Table α) (key : String) (value : α) : Table α :=
  ⟨setEntry key value t.entries, nodup_setEntry key value t.nodup⟩

/-- Sets a key that does not occur yet and leaves every other table as it is. -/
def setNew (t : Table α) (key : String) (value : α) : Table α :=
  if key ∈ t.keys then t else t.set key value

/-- The value of a key. -/
def get? (t : Table α) (key : String) : Option α := t.entries.lookup key

/-- The table in which the entries are set one after another. -/
def ofList (entries : List (String × α)) : Table α :=
  entries.foldl (fun t e => t.set e.1 e.2) empty

/-- The table with every value mapped. -/
def map {β : Type} (f : α → β) (t : Table α) : Table β :=
  ⟨t.entries.map fun e => (e.1, f e.2), by
    have h : (t.entries.map fun e => (e.1, f e.2)).map Prod.fst = t.entries.map Prod.fst := by
      simp [List.map_map, Function.comp_def]
    rw [h]; exact t.nodup⟩

end Table

end ServiceSchema
