/-!
# Tables

Values under keys, as a list of entries. A table that is built by putting values keeps its entries
in ascending order of the keys, one for each key. Entries that stand in another order are read in
the same way: the first one of a key counts.

Main statements: putting a value changes what is found under its key only (`Table.get?_put`) and
keeps the keys ascending (`Table.ascending_put`), and the table of entries with different keys gives
what the entries themselves give (`Table.get?_ofList`).
-/

namespace ScriptTree

/-- Values under keys. -/
abbrev Table (κ α : Type) := List (κ × α)

namespace Table

variable {κ α : Type}

/-- The keys that have a value. -/
def keys (table : Table κ α) : List κ :=
  table.map Prod.fst

/-! ## Looking up -/

variable [DecidableEq κ]

/-- The value of the first entry of a key. -/
def get? (key : κ) (table : Table κ α) : Option α :=
  table.lookup key

theorem get?_cons (key other : κ) (value : α) (table : Table κ α) :
    get? key ((other, value) :: table) = if key = other then some value else table.get? key := by
  rw [get?, List.lookup_cons]
  by_cases h : key = other
  · rw [if_pos h, beq_iff_eq.2 h]
  · rw [if_neg h, beq_eq_false_iff_ne.2 h]
    rfl

variable {key other : κ} {value : α} {table : Table κ α}

theorem get?_eq_none_iff : table.get? key = none ↔ key ∉ table.keys := by
  induction table with
  | nil => simp [get?, keys]
  | cons entry table ih =>
    rw [get?_cons, keys, List.map_cons, List.mem_cons, not_or, ← keys, ← ih]
    by_cases h : key = entry.1 <;> simp [h]

/-- Among entries with different keys each is found under its key. -/
theorem get?_of_mem (hkeys : table.keys.Nodup) (h : (key, value) ∈ table) :
    table.get? key = some value := by
  induction table with
  | nil => cases h
  | cons entry table ih =>
    obtain ⟨hnew, hkeys⟩ := List.nodup_cons.1 hkeys
    rw [get?_cons]
    rcases List.mem_cons.1 h with rfl | h
    · rw [if_pos rfl]
    · rw [if_neg, ih hkeys h]
      rintro rfl
      exact hnew (List.mem_map.2 ⟨_, h, rfl⟩)

theorem get?_filter_ne (gone : κ) :
    get? key (table.filter fun entry => entry.1 ≠ gone) =
      if key = gone then none else table.get? key := by
  induction table with
  | nil => simp [get?]
  | cons entry table ih =>
    by_cases hentry : entry.1 = gone
    · rw [List.filter_cons_of_neg (by simp [hentry]), ih, get?_cons, hentry]
      by_cases h : key = gone <;> simp [h]
    · rw [List.filter_cons_of_pos (by simp [hentry]), get?_cons, get?_cons, ih]
      by_cases h : key = entry.1
      · rw [if_pos h, if_pos h, if_neg (h ▸ hentry)]
      · rw [if_neg h, if_neg h]

/-! ## Putting -/

variable [LT κ] [DecidableLT κ]

/-- Gives a key a value, in place of the one it has. -/
def put (key : κ) (value : α) : Table κ α → Table κ α
  | [] => [(key, value)]
  | (k, v) :: rest =>
    if key = k then (key, value) :: rest
    else if key < k then (key, value) :: (k, v) :: rest
    else (k, v) :: put key value rest

/-- The table of a list of entries; of those with one key the last counts. -/
def ofList (entries : List (κ × α)) : Table κ α :=
  entries.foldl (fun table entry => table.put entry.1 entry.2) []

/-- Giving a key a value changes what is found under that key only. -/
theorem get?_put (key other : κ) (value : α) (table : Table κ α) :
    (put key value table).get? other = if other = key then some value else table.get? other := by
  induction table with
  | nil => exact get?_cons other key value []
  | cons first rest ih =>
    obtain ⟨k, v⟩ := first
    rw [put]
    split
    · next hkey =>
      rw [get?_cons, get?_cons, ← hkey]
      split <;> rfl
    · next hkey =>
      split
      · exact get?_cons ..
      · rw [get?_cons, get?_cons, ih]
        by_cases hother : other = k
        · rw [if_pos hother, if_pos hother, if_neg fun h => hkey (h.symm.trans hother)]
        · rw [if_neg hother, if_neg hother]

theorem mem_keys_put :
    other ∈ (put key value table).keys ↔ other = key ∨ other ∈ table.keys := by
  induction table with
  | nil => simp [put, keys]
  | cons first rest ih =>
    obtain ⟨k, v⟩ := first
    simp only [keys, List.map_cons, List.mem_cons] at ih ⊢
    rw [put]
    split
    · next hkey => simp [hkey]
    · split
      · simp
      · simp [ih, or_left_comm]

/-- Giving a key a value keeps the keys in ascending order. -/
theorem ascending_put
    (trans : ∀ a b c : κ, a < b → b < c → a < c) (total : ∀ a b : κ, a ≠ b → ¬a < b → b < a)
    (h : table.keys.Pairwise (· < ·)) : (put key value table).keys.Pairwise (· < ·) := by
  induction table with
  | nil => exact List.pairwise_singleton ..
  | cons first rest ih =>
    obtain ⟨k, v⟩ := first
    obtain ⟨hfirst, hrest⟩ := List.pairwise_cons.1 h
    rw [put]
    split
    · next hkey =>
      subst hkey
      exact h
    · next hkey =>
      split
      · next hlt =>
        refine List.pairwise_cons.2 ⟨fun other hother => ?_, h⟩
        rcases List.mem_cons.1 hother with rfl | hother
        · exact hlt
        · exact trans _ _ _ hlt (hfirst other hother)
      · next hlt =>
        refine List.pairwise_cons.2 ⟨fun other hother => ?_, ih hrest⟩
        rcases mem_keys_put.1 hother with rfl | hother
        · exact total _ _ hkey hlt
        · exact hfirst other hother

/-- Entries with different keys hide what a table has under their keys, and nothing else. -/
theorem get?_foldl_put {entries : List (κ × α)} (hkeys : (keys entries).Nodup)
    (table : Table κ α) :
    get? key (entries.foldl (fun table entry => table.put entry.1 entry.2) table) =
      (get? key entries).or (table.get? key) := by
  induction entries generalizing table with
  | nil => rfl
  | cons entry entries ih =>
    obtain ⟨hnew, hkeys⟩ := List.nodup_cons.1 hkeys
    rw [List.foldl_cons, ih hkeys, get?_put, get?_cons]
    by_cases h : key = entry.1
    · rw [if_pos h, if_pos h, get?_eq_none_iff.2 (h ▸ hnew), Option.none_or, Option.some_or]
    · rw [if_neg h, if_neg h]

/-- Entries with different keys are found in their table as they were before. -/
theorem get?_ofList {entries : List (κ × α)} (hkeys : (keys entries).Nodup) :
    (ofList entries).get? key = get? key entries :=
  (get?_foldl_put hkeys []).trans Option.or_none

end Table

end ScriptTree
