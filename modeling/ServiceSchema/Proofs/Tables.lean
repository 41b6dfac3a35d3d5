/-
What the entries of a table are after it was built.

Two ways of building are used. `Table.ofList` sets keys one after another, so of
several entries with one key the value of the last one counts. `Table.setNew` leaves a
key that is there alone, so the first value counts. Either way a list without
repeated keys comes out as it went in.
-/
import Mathlib.Data.List.Induction
import Mathlib.Data.List.Nodup
import ServiceSchema.Json.Table

set_option autoImplicit false

namespace ServiceSchema

variable {α : Type}

/-! ## Setting one key -/

theorem setEntry_new {key : String} {entries : List (String × α)}
    (h : key ∉ entries.map Prod.fst) (value : α) :
    setEntry key value entries = entries ++ [(key, value)] := by
  induction entries with
  | nil => rfl
  | cons entry rest ih =>
    obtain ⟨k, v⟩ := entry
    simp only [List.map_cons, List.mem_cons, not_or] at h
    rw [setEntry, if_neg (Ne.symm h.1), ih h.2, List.cons_append]

/-- After a key was set, it holds the new value and every other key what it held. -/
theorem mem_setEntry {key : String} {value : α} {entries : List (String × α)}
    (h : (entries.map Prod.fst).Nodup) (e : String × α) :
    e ∈ setEntry key value entries ↔ e = (key, value) ∨ e.1 ≠ key ∧ e ∈ entries := by
  induction entries with
  | nil => simp [setEntry]
  | cons entry rest ih =>
    obtain ⟨k, v⟩ := entry
    simp only [List.map_cons, List.nodup_cons] at h
    by_cases hk : k = key
    · subst hk
      -- the rest does not have the key, so nothing of it is lost
      have hrest : ∀ e ∈ rest, e.1 ≠ k := by
        intro e he hek
        exact h.1 (hek ▸ List.mem_map_of_mem he)
      rw [setEntry, if_pos rfl, List.mem_cons, List.mem_cons]
      constructor
      · rintro (he | he)
        · exact .inl he
        · exact .inr ⟨hrest e he, .inr he⟩
      · rintro (he | ⟨hek, he | he⟩)
        · exact .inl he
        · exact absurd (congrArg Prod.fst he) hek
        · exact .inr he
    -- the entry in front has another key and stays
    · rw [setEntry, if_neg hk, List.mem_cons, List.mem_cons, ih h.2]
      constructor
      · rintro (rfl | he | ⟨hek, he⟩)
        · exact .inr ⟨hk, .inl rfl⟩
        · exact .inl he
        · exact .inr ⟨hek, .inr he⟩
      · rintro (he | ⟨hek, he | he⟩)
        · exact .inr (.inl he)
        · exact .inl he
        · exact .inr (.inr ⟨hek, he⟩)

/-- Values are mapped before or after one of them is set. -/
theorem setEntry_map {β : Type} (f : α → β) (key : String) (value : α)
    (entries : List (String × α)) :
    setEntry key (f value) (entries.map fun e => (e.1, f e.2)) =
      (setEntry key value entries).map fun e => (e.1, f e.2) := by
  induction entries with
  | nil => rfl
  | cons entry rest ih =>
    obtain ⟨k, v⟩ := entry
    by_cases hk : k = key
    · simp only [List.map_cons, setEntry, if_pos hk]
    · simp only [List.map_cons, setEntry, if_neg hk, ih]

/-- The last member that passes a test is the first one from the end. -/
theorem find?_reverse_eq_some_iff {xs : List α} {p : α → Bool} {x : α} :
    xs.reverse.find? p = some x ↔
      ∃ before after, xs = before ++ x :: after ∧ p x = true ∧ ∀ y ∈ after, p y = false := by
  rw [List.find?_eq_some_iff_append]
  constructor
  · rintro ⟨hx, after, before, hxs, hafter⟩
    rw [List.reverse_eq_iff] at hxs
    refine ⟨before.reverse, after.reverse, by simpa using hxs, hx, fun y hy => ?_⟩
    simpa using hafter y (List.mem_reverse.1 hy)
  · rintro ⟨before, after, rfl, hx, hafter⟩
    refine ⟨hx, after.reverse, before.reverse, by simp, fun y hy => ?_⟩
    simpa using hafter y (List.mem_reverse.1 hy)

/-- Values that are listed under keys of their own are looked up as the first of their key. -/
theorem lookup_map_keyed {β : Type} (key : β → String) (value : β → α) (xs : List β)
    (name : String) :
    (xs.map fun x => (key x, value x)).lookup name = (xs.find? (key · == name)).map value := by
  induction xs with
  | nil => rfl
  | cons x rest ih =>
    by_cases hname : key x = name
    · subst hname
      simp
    · have hne : (name == key x) = false := by simpa using Ne.symm hname
      rw [List.map_cons, List.lookup_cons, hne, List.find?_cons_of_neg (by simpa using hname)]
      exact ih

/-- What is looked up is listed. -/
theorem mem_of_lookup {entries : List (String × α)} {key : String} {value : α}
    (h : entries.lookup key = some value) : (key, value) ∈ entries := by
  obtain ⟨before, after, rfl, -⟩ := List.lookup_eq_some_iff.1 h
  exact List.mem_append_right before List.mem_cons_self

theorem lookup_cons_ite (k k' : String) (value : α) (rest : List (String × α)) :
    ((k', value) :: rest).lookup k = if k = k' then some value else rest.lookup k := by
  by_cases h : k = k'
  · simp [h]
  · rw [List.lookup_cons, beq_false_of_ne h, if_neg h]

/-- Setting a key changes what is looked up under it and under no other key. -/
theorem lookup_setEntry (key k : String) (value : α) (entries : List (String × α)) :
    (setEntry key value entries).lookup k = if k = key then some value else entries.lookup k := by
  induction entries with
  | nil => rw [setEntry, lookup_cons_ite]
  | cons entry rest ih =>
    obtain ⟨k', v⟩ := entry
    by_cases hkey : k' = key
    · subst hkey
      rw [setEntry, if_pos rfl, lookup_cons_ite, lookup_cons_ite]
      split <;> rfl
    · rw [setEntry, if_neg hkey, lookup_cons_ite, lookup_cons_ite, ih]
      by_cases hk : k = k'
      · subst hk
        rw [if_pos rfl, if_neg hkey, if_pos rfl]
      · rw [if_neg hk, if_neg hk]

namespace Table

theorem get?_set (t : Table α) (key k : String) (value : α) :
    (t.set key value).get? k = if k = key then some value else t.get? k :=
  lookup_setEntry key k value t.entries

/-- The entries are what is looked up: no key occurs twice. -/
theorem mem_entries_iff (t : Table α) (key : String) (value : α) :
    (key, value) ∈ t.entries ↔ t.get? key = some value := by
  refine ⟨fun hmem => ?_, mem_of_lookup⟩
  obtain ⟨before, after, hentries⟩ := List.append_of_mem hmem
  refine List.lookup_eq_some_iff.2 ⟨before, after, hentries, fun e he => ?_⟩
  have hnodup := t.nodup
  rw [hentries, List.map_append, List.nodup_append] at hnodup
  have hne : e.1 ≠ key :=
    hnodup.2.2 _ (List.mem_map_of_mem he) _ (List.mem_map_of_mem List.mem_cons_self)
  exact bne_iff_ne.2 hne.symm

theorem get?_setNew {t : Table α} {key : String} (h : t.get? key = none) (value : α) (k : String) :
    (t.setNew key value).get? k = if k = key then some value else t.get? k := by
  have hnew : key ∉ t.keys := by
    intro hmem
    obtain ⟨e, he, rfl⟩ := List.mem_map.1 hmem
    simpa using List.lookup_eq_none_iff.1 h e he
  rw [setNew, if_neg hnew, get?_set]

theorem entries_set (t : Table α) (key : String) (value : α) :
    (t.set key value).entries = setEntry key value t.entries := rfl

theorem entries_setNew {t : Table α} {key : String} (h : key ∉ t.keys) (value : α) :
    (t.setNew key value).entries = t.entries ++ [(key, value)] := by
  rw [setNew, if_neg h, entries_set, setEntry_new h]

/-- A table of values under their own names takes in one more, unless there is none. -/
theorem entries_setNew_named {t : Table α} {name : α → String} {all : List α}
    (h : t.entries = all.map fun x => (name x, x)) {more : Option α}
    (hnew : ∀ x, more = some x → name x ∉ t.keys) :
    (more.elim t fun x => t.setNew (name x) x).entries =
      (all ++ more.toList).map fun x => (name x, x) := by
  cases more with
  | none => simpa using h
  | some x =>
    rw [Option.elim_some, entries_setNew (hnew x rfl), h]
    simp

/-! ## Setting many keys -/

theorem ofList_concat (entries : List (String × α)) (e : String × α) :
    ofList (entries ++ [e]) = (ofList entries).set e.1 e.2 := by
  simp only [ofList, List.foldl_append, List.foldl_cons, List.foldl_nil]

/-- A table of mapped values is the table of the values, mapped. -/
theorem ofList_map {β : Type} (f : α → β) (entries : List (String × α)) :
    ofList (entries.map fun e => (e.1, f e.2)) = (ofList entries).map f := by
  induction entries using List.reverseRecOn with
  | nil => rfl
  | append_singleton entries e ih =>
    rw [List.map_append, List.map_singleton, ofList_concat, ofList_concat, ih]
    simp only [set, map, setEntry_map]

/-- Of several entries with one key the last one counts. The induction is on the list from the
right, so its step is exactly one key that is set. -/
theorem mem_entries_ofList (entries : List (String × α)) (key : String) (value : α) :
    (key, value) ∈ (ofList entries).entries ↔ entries.reverse.lookup key = some value := by
  induction entries using List.reverseRecOn with
  | nil => simp [ofList, empty]
  | append_singleton entries e ih =>
    obtain ⟨k, v⟩ := e
    rw [ofList_concat, entries_set, mem_setEntry (ofList entries).nodup, List.reverse_concat]
    by_cases hk : key = k
    · subst hk
      simp [eq_comm]
    · have hne : (key == k) = false := by simpa using hk
      simp [List.lookup_cons, hne, hk, ih]

/-- Entries without repeated keys stay as they are and keep their order. -/
theorem entries_ofList {entries : List (String × α)} (h : (entries.map Prod.fst).Nodup) :
    (ofList entries).entries = entries := by
  induction entries using List.reverseRecOn with
  | nil => rfl
  | append_singleton entries e ih =>
    rw [List.map_append, List.map_singleton, List.nodup_append] at h
    obtain ⟨hnodup, -, hdisjoint⟩ := h
    have hnew : e.1 ∉ entries.map Prod.fst := by
      intro hmem
      exact hdisjoint _ hmem _ (List.mem_singleton_self _) rfl
    have hentries := ih hnodup
    rw [ofList_concat, entries_set, hentries, setEntry_new hnew]

end Table

end ServiceSchema
