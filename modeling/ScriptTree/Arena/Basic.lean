import ScriptTree.Fault
/-!
# Arenas

An arena keeps values under handles. Handles count up from the arena's origin in the order of
insertion, none is used twice, and a value never changes once it is in. The number space ends after
the largest 32-bit number: from then on insertion fails, so every value of an arena has a handle.

Main statements: what an insertion returns did not resolve before and resolves to the inserted value
after (`Arena.resolve?_insert?_self`), and every other handle resolves as before
(`Arena.resolve?_insert?_of_ne`).
-/

namespace ScriptTree

/-! ## Handle numbers -/

namespace Word

/-- A count as a 32-bit number, unless it is too large for one. -/
def ofNat? (n : Nat) : Option UInt32 :=
  if n < UInt32.size then some (.ofNat n) else none

/-- The sum of two numbers, unless it is past the largest number. -/
def add? (a b : UInt32) : Option UInt32 :=
  if a.toNat + b.toNat < UInt32.size then some (a + b) else none

/-- The difference of two numbers, unless it is below zero. -/
def sub? (a b : UInt32) : Option UInt32 :=
  if b ≤ a then some (a - b) else none

theorem ofNat?_of_lt {n : Nat} (h : n < UInt32.size) : ofNat? n = some (.ofNat n) :=
  if_pos h

theorem ofNat?_of_le {n : Nat} (h : UInt32.size ≤ n) : ofNat? n = none :=
  if_neg (Nat.not_lt.2 h)

theorem add?_ofNat_of_lt {a : UInt32} {n : Nat} (h : a.toNat + n < UInt32.size) :
    add? a (.ofNat n) = some (.ofNat (a.toNat + n)) := by
  have hn : (UInt32.ofNat n).toNat = n := UInt32.toNat_ofNat_of_lt' (by omega)
  rw [add?, hn, if_pos h, UInt32.ofNat_add, UInt32.ofNat_toNat]

theorem add?_ofNat_of_le {a : UInt32} {n : Nat} (hn : n < UInt32.size)
    (h : UInt32.size ≤ a.toNat + n) : add? a (.ofNat n) = none := by
  rw [add?, UInt32.toNat_ofNat_of_lt' hn, if_neg (Nat.not_lt.2 h)]

end Word

/-! ## Arenas -/

/-- Values under consecutive handles. -/
structure Arena (α : Type) where
  origin : UInt32
  nodes : Array α
  fits : origin.toNat + nodes.size ≤ UInt32.size

namespace Arena

variable {α : Type}

/-- The arena without values whose first handle will be `origin`. -/
def empty (origin : UInt32) : Arena α :=
  ⟨origin, #[], Nat.le_of_lt origin.toNat_lt_size⟩

/-- The number of values in an arena. -/
def size (arena : Arena α) : Nat :=
  arena.nodes.size

/-- The number of handles that are still free: those from the origin to the last number, less the
ones in use. -/
def remaining (arena : Arena α) : Nat :=
  (0xffffffff - arena.origin.toNat + 1) - arena.size

/-- The handle of the next insertion, unless the number space is used up. -/
def next? (arena : Arena α) : Option Handle := do
  let length ← Word.ofNat? arena.size
  let id ← Word.add? arena.origin length
  return ⟨id⟩

/-- The fault of an arena that cannot take `count` more values. -/
def full (arena : Arena α) (count : Nat) : Fault :=
  .outOfRange (.arenaFull arena.origin arena.remaining count)

/-- Fails unless `count` more values fit in. -/
def ensureRoom (arena : Arena α) (count : Nat) : Except Fault Unit :=
  if count ≤ arena.remaining then .ok () else .error (arena.full count)

theorem next?_eq (arena : Arena α) :
    arena.next? =
      if arena.origin.toNat + arena.size < UInt32.size then
        some ⟨UInt32.ofNat (arena.origin.toNat + arena.size)⟩
      else none := by
  unfold next?
  by_cases hsize : arena.size < UInt32.size
  · rw [Word.ofNat?_of_lt hsize, Option.bind_eq_bind, Option.bind_some]
    by_cases hsum : arena.origin.toNat + arena.size < UInt32.size
    · rw [if_pos hsum, Word.add?_ofNat_of_lt hsum]
      rfl
    · rw [if_neg hsum, Word.add?_ofNat_of_le hsize (Nat.le_of_not_lt hsum)]
      rfl
  · rw [if_neg (by omega), Word.ofNat?_of_le (Nat.le_of_not_lt hsize)]
    rfl

/-- Inserts a value under the next handle. -/
def insert? (arena : Arena α) (value : α) : Option (Handle × Arena α) :=
  match h : arena.next? with
  | some handle =>
    some (handle, ⟨arena.origin, arena.nodes.push value, by
      rw [next?_eq] at h
      have hlt := (Option.ite_none_right_eq_some.1 h).1
      rw [Array.size_push]
      exact hlt⟩)
  | none => none

/-- Inserts a value: its handle, or the fault that there is none left, and the arena behind it. -/
def insert (arena : Arena α) (value : α) : Except Fault Handle × Arena α :=
  match arena.insert? value with
  | some (handle, after) => (.ok handle, after)
  | none => (.error (arena.full 1), arena)

/-- The value under a handle. -/
def resolve? (arena : Arena α) (handle : Handle) : Option α := do
  let index ← Word.sub? handle.id arena.origin
  arena.nodes[index.toNat]?

/-- The value under a handle, or the fault that the arena has none there. -/
def resolve (arena : Arena α) (handle : Handle) : Except Fault α :=
  match arena.resolve? handle with
  | some value => .ok value
  | none => .error (.danglingHandle handle)

/-- Whether an arena has a value under a handle. -/
def contains (arena : Arena α) (handle : Handle) : Bool :=
  (arena.resolve? handle).isSome

/-- Every value with its handle, in the order of insertion. -/
def toList (arena : Arena α) : List (Handle × α) :=
  arena.nodes.toList.zipIdx.map fun (value, index) =>
    (⟨arena.origin + UInt32.ofNat index⟩, value)

/-! ## Counting without words -/

theorem remaining_eq (arena : Arena α) :
    arena.remaining = UInt32.size - arena.origin.toNat - arena.size := by
  have horigin : arena.origin.toNat < 2 ^ 32 := arena.origin.toNat_lt_size
  have hspan : 0xffffffff - arena.origin.toNat + 1 = UInt32.size - arena.origin.toNat := by
    show 0xffffffff - arena.origin.toNat + 1 = 2 ^ 32 - arena.origin.toNat
    omega
  rw [remaining, hspan]

theorem resolve?_eq (arena : Arena α) (handle : Handle) :
    arena.resolve? handle =
      if arena.origin.toNat ≤ handle.id.toNat then
        arena.nodes[handle.id.toNat - arena.origin.toNat]?
      else none := by
  unfold resolve? Word.sub?
  by_cases h : arena.origin ≤ handle.id
  · rw [if_pos h, if_pos (UInt32.le_iff_toNat_le.1 h), Option.bind_eq_bind, Option.bind_some,
      UInt32.toNat_sub_of_le _ _ h]
  · rw [if_neg h, if_neg fun hle => h (UInt32.le_iff_toNat_le.2 hle)]
    rfl

/-! ## Insertion -/

theorem next?_eq_some {arena : Arena α} {handle : Handle} (h : arena.next? = some handle) :
    handle.id.toNat = arena.origin.toNat + arena.size := by
  rw [next?_eq] at h
  obtain ⟨hlt, hhandle⟩ := Option.ite_none_right_eq_some.1 h
  obtain rfl := Option.some.inj hhandle
  exact UInt32.toNat_ofNat_of_lt hlt

theorem insert?_eq_some {arena after : Arena α} {value : α} {handle : Handle}
    (h : arena.insert? value = some (handle, after)) :
    arena.next? = some handle ∧ after.origin = arena.origin ∧
      after.nodes = arena.nodes.push value := by
  unfold insert? at h
  split at h
  · next hnext =>
    obtain ⟨rfl, rfl⟩ := Prod.mk.inj (Option.some.inj h)
    exact ⟨hnext, rfl, rfl⟩
  · exact absurd h nofun

theorem resolve?_insert?_self {arena after : Arena α} {value : α} {handle : Handle}
    (h : arena.insert? value = some (handle, after)) :
    arena.resolve? handle = none ∧ after.resolve? handle = some value := by
  obtain ⟨hn, horigin, hnodes⟩ := insert?_eq_some h
  have hid := next?_eq_some hn
  simp [resolve?_eq, hid, size, horigin, hnodes]

theorem resolve?_insert?_of_ne {arena after : Arena α} {value : α} {handle other : Handle}
    (h : arena.insert? value = some (handle, after)) (hne : other ≠ handle) :
    after.resolve? other = arena.resolve? other := by
  obtain ⟨hn, horigin, hnodes⟩ := insert?_eq_some h
  have hid := next?_eq_some hn
  have : other.id.toNat ≠ arena.origin.toNat + arena.size := by
    intro he
    exact hne (by
      cases other; cases handle
      simpa using UInt32.toNat_inj.1 (he.trans hid.symm))
  simp only [resolve?_eq, size, horigin, hnodes] at this ⊢
  split
  · rw [Array.getElem?_push, if_neg (by omega)]
  · rfl

end Arena

end ScriptTree
