import ScriptTree.Json.Basic
/-!
# Arrangements of fields

A value may be passed on with the fields of its objects in another order. An arrangement is a way
of doing so which leaves everything else as it is: every field is still found under its name, with
its value arranged in turn. Leaving a value as it is is an arrangement, and so is sorting the fields
by name.

Main statements: `Json.Arrangement.id` and `Json.Arrangement.sorted`; and a tag may be taken out of
arranged fields (`Json.Carries.withoutTag`).
-/

namespace ScriptTree.Json

/-! ## Arrangements -/

variable {name : String} {value : Json} {fields : List (String × Json)}

/-- The fields hold an arranged value under the name of every source field, and nothing under other
names. -/
structure Carries (arrange : Json → Json) (source fields : List (String × Json)) : Prop where
  present : ∀ field ∈ source, Table.get? field.1 fields = some (arrange field.2)
  absent : ∀ name, name ∉ source.map Prod.fst → Table.get? name fields = none

/-- A function on values that may put the fields of objects in another order, and nothing else. It
says nothing of objects in which a name is repeated. -/
structure Arrangement (arrange : Json → Json) : Prop where
  bool : ∀ b, arrange (.bool b) = .bool b
  string : ∀ text, arrange (.string text) = .string text
  number : ∀ number, arrange (.number number) = .number number
  array : ∀ items, arrange (.array items) = .array (items.map arrange)
  object : ∀ source, (source.map Prod.fst).Nodup →
    ∃ fields, arrange (.object source) = .object fields ∧ Carries arrange source fields

theorem Arrangement.id : Arrangement id where
  bool _ := rfl
  string _ := rfl
  number _ := rfl
  array items := by rw [List.map_id]; rfl
  object source hnames :=
    ⟨source, rfl, fun _ hfield => Table.get?_of_mem hnames hfield,
      fun _ => Table.get?_eq_none_iff.2⟩

theorem sortedItems_eq (items : List Json) : sortedItems items = items.map sorted := by
  induction items with
  | nil => rfl
  | cons item items ih => rw [sortedItems, ih, List.map_cons]

theorem sortedFields_eq (fields : List (String × Json)) :
    sortedFields fields = fields.map fun field => (field.1, sorted field.2) := by
  induction fields with
  | nil => rfl
  | cons field fields ih => rw [sortedFields, ih, List.map_cons]

theorem Arrangement.sorted : Arrangement sorted where
  bool _ := rfl
  string _ := rfl
  number _ := rfl
  array items := by rw [Json.sorted, sortedItems_eq]
  object source hnames := by
    have hkeys : Table.keys (sortedFields source) = Table.keys source := by
      rw [sortedFields_eq, Table.keys, List.map_map]
      rfl
    have hnew : (Table.keys (sortedFields source)).Nodup := hkeys ▸ hnames
    refine ⟨_, by rw [Json.sorted, ofFields], fun field hfield => ?_, fun name hname => ?_⟩
    · rw [Table.get?_ofList hnew]
      refine Table.get?_of_mem hnew ?_
      rw [sortedFields_eq]
      exact List.mem_map_of_mem hfield
    · rw [Table.get?_ofList hnew, Table.get?_eq_none_iff, hkeys]
      exact hname

/-- The fields beside a tag carry what they carried together with it. -/
theorem Carries.withoutTag {arrange : Json → Json} {tag : String} {source : List (String × Json)}
    (h : Carries arrange ((tag, value) :: source) fields) (htag : tag ∉ source.map Prod.fst) :
    Carries arrange source (fields.filter fun field => field.1 ≠ tag) where
  present := by
    intro field hfield
    have hne : field.1 ≠ tag := fun heq => htag (heq ▸ List.mem_map_of_mem hfield)
    rw [Table.get?_filter_ne, if_neg hne]
    exact h.present field (List.mem_cons_of_mem _ hfield)
  absent := by
    intro name hname
    rw [Table.get?_filter_ne]
    by_cases heq : name = tag
    · rw [if_pos heq]
    · rw [if_neg heq]
      exact h.absent name (by simp [heq, hname])

/-! ## Depth -/

theorem depth_le_of_get? (h : Table.get? name fields = some value) :
    value.depth ≤ depthFields fields := by
  induction fields with
  | nil => cases h
  | cons field fields ih =>
    rw [depthFields]
    rw [Table.get?_cons] at h
    by_cases hname : name = field.1
    · rw [if_pos hname] at h
      cases h
      exact Nat.le_max_left ..
    · rw [if_neg hname] at h
      exact Nat.le_trans (ih h) (Nat.le_max_right ..)

theorem depthFields_filter_le (p : String × Json → Bool) :
    depthFields (fields.filter p) ≤ depthFields fields := by
  induction fields with
  | nil => exact Nat.le_refl _
  | cons field fields ih =>
    rw [List.filter_cons]
    split
    · rw [depthFields, depthFields]
      omega
    · rw [depthFields]
      omega

end ScriptTree.Json
