import ScriptTree.Arena.Basic
/-!
# Growing arenas

What insertion does to a whole arena. `Arena.Extends` says that a later arena holds every value of
an earlier one under the same handle. `Arena.fill` puts a list of values behind those already
there, as far as the number space reaches, and `Arena.HasAt` finds them again under consecutive
handles.

Main statements: `fill` of two lists is `fill` of one after the other, also when the space ends in
between (`Arena.fill_append`); the filled arena extends the old one (`Arena.extends_fill`) and holds
the values at the old frontier (`Arena.hasAt_fill`).
-/

namespace ScriptTree

/-- The handle with a number; numbers past the number space start over. -/
def Handle.ofNat (n : Nat) : Handle := ⟨UInt32.ofNat n⟩

theorem Handle.toNat_ofNat {n : Nat} (h : n < UInt32.size) : (Handle.ofNat n).id.toNat = n :=
  UInt32.toNat_ofNat_of_lt h

namespace Arena

variable {α : Type}

attribute [ext] Arena

/-- The number of the next handle; it lies past the number space when that is used up. -/
def frontier (arena : Arena α) : Nat :=
  arena.origin.toNat + arena.size

theorem frontier_add_remaining (arena : Arena α) :
    arena.frontier + arena.remaining = UInt32.size := by
  have := arena.fits
  simp only [frontier, remaining_eq, size]
  omega

theorem origin_le_frontier (arena : Arena α) : arena.origin.toNat ≤ arena.frontier :=
  Nat.le_add_right ..

theorem resolve?_ofNat (arena : Arena α) {n : Nat} (h : n < UInt32.size) :
    arena.resolve? (.ofNat n) =
      if arena.origin.toNat ≤ n then arena.nodes[n - arena.origin.toNat]? else none := by
  simp only [resolve?_eq, Handle.toNat_ofNat h]

/-- Only handles below the frontier resolve. -/
theorem lt_frontier_of_resolve? {arena : Arena α} {handle : Handle} {value : α}
    (h : arena.resolve? handle = some value) : handle.id.toNat < arena.frontier := by
  simp only [resolve?_eq] at h
  split at h
  · obtain ⟨hlt, _⟩ := Array.getElem?_eq_some_iff.1 h
    simp only [frontier, size]
    omega
  · cases h

theorem resolve_eq_ok {arena : Arena α} {handle : Handle} {value : α} :
    arena.resolve handle = .ok value ↔ arena.resolve? handle = some value := by
  unfold resolve
  split <;> simp_all

theorem contains_eq_true {arena : Arena α} {handle : Handle} :
    arena.contains handle = true ↔ ∃ value, arena.resolve? handle = some value :=
  Option.isSome_iff_exists

/-- The handles from the origin up to the frontier are those that resolve. -/
theorem contains_ofNat {arena : Arena α} {n : Nat} (h : n < UInt32.size) :
    arena.contains (.ofNat n) = true ↔ arena.origin.toNat ≤ n ∧ n < arena.frontier := by
  rw [contains, resolve?_ofNat _ h]
  by_cases hle : arena.origin.toNat ≤ n
  · simp only [hle, if_true, isSome_getElem?, true_and, frontier, size]
    omega
  · simp [hle]

/-! ## Later arenas -/

/-- The later arena starts like the earlier one: same origin, and its values first. -/
structure Extends (arena later : Arena α) : Prop where
  origin : later.origin = arena.origin
  nodes : arena.nodes.toList <+: later.nodes.toList

theorem Extends.refl (arena : Arena α) : arena.Extends arena :=
  ⟨rfl, List.prefix_refl _⟩

theorem Extends.trans {a b c : Arena α} (hab : a.Extends b) (hbc : b.Extends c) : a.Extends c :=
  ⟨hbc.origin.trans hab.origin, hab.nodes.trans hbc.nodes⟩

/-- A handle that resolves keeps its value. -/
theorem Extends.resolve? {arena later : Arena α} (hx : arena.Extends later) {handle : Handle}
    {value : α} (h : arena.resolve? handle = some value) : later.resolve? handle = some value := by
  obtain ⟨rest, hrest⟩ := hx.nodes
  simp only [Arena.resolve?_eq, hx.origin, ← Array.getElem?_toList] at h ⊢
  split at h
  · next hle =>
    have hlt := (List.getElem?_eq_some_iff.1 h).1
    rw [if_pos hle, ← hrest, List.getElem?_append_left hlt, h]
  · cases h

/-- One insertion is a later arena. -/
theorem extends_of_insert? {arena after : Arena α} {value : α} {handle : Handle}
    (h : arena.insert? value = some (handle, after)) : arena.Extends after := by
  obtain ⟨-, horigin, hnodes⟩ := insert?_eq_some h
  refine ⟨horigin, ?_⟩
  rw [hnodes, Array.toList_push]
  exact List.prefix_append ..

/-! ## Filling -/

/-- The values behind those of the arena, as many of them as fit in. -/
def fill (arena : Arena α) (values : List α) : Arena α where
  origin := arena.origin
  nodes := arena.nodes ++ (values.take arena.remaining).toArray
  fits := by
    have := arena.frontier_add_remaining
    simp only [frontier, size] at this
    simp only [Array.size_append, List.size_toArray, List.length_take]
    omega

@[simp] theorem origin_fill (arena : Arena α) (values : List α) :
    (arena.fill values).origin = arena.origin := rfl

theorem toList_fill (arena : Arena α) (values : List α) :
    (arena.fill values).nodes.toList = arena.nodes.toList ++ values.take arena.remaining := by
  simp [fill]

theorem frontier_fill (arena : Arena α) (values : List α) :
    (arena.fill values).frontier = arena.frontier + min arena.remaining values.length := by
  simp only [frontier, size, fill, Array.size_append, List.size_toArray, List.length_take]
  omega

theorem remaining_fill (arena : Arena α) (values : List α) :
    (arena.fill values).remaining = arena.remaining - values.length := by
  have h := arena.frontier_add_remaining
  have h' := (arena.fill values).frontier_add_remaining
  rw [frontier_fill] at h'
  omega

theorem frontier_fill_of_fits {arena : Arena α} {values : List α}
    (h : values.length ≤ arena.remaining) :
    (arena.fill values).frontier = arena.frontier + values.length := by
  rw [frontier_fill, Nat.min_eq_right h]

@[simp] theorem fill_nil (arena : Arena α) : arena.fill [] = arena := by
  ext1 <;> simp [fill]

/-- An arena without room stays as it is. -/
theorem fill_of_remaining_eq_zero {arena : Arena α} (h : arena.remaining = 0) (values : List α) :
    arena.fill values = arena := by
  ext1 <;> simp [fill, h]

theorem fill_append (arena : Arena α) (xs ys : List α) :
    arena.fill (xs ++ ys) = (arena.fill xs).fill ys := by
  ext1
  · rfl
  · rw [← Array.toList_inj, toList_fill, toList_fill, toList_fill, remaining_fill, List.take_append,
      List.append_assoc]

theorem extends_fill (arena : Arena α) (values : List α) : arena.Extends (arena.fill values) :=
  ⟨rfl, by rw [toList_fill]; exact List.prefix_append ..⟩

/-- Insertion is filling with one value. -/
theorem insert?_eq (arena : Arena α) (value : α) :
    arena.insert? value =
      if 0 < arena.remaining then some (.ofNat arena.frontier, arena.fill [value]) else none := by
  have hspace := arena.frontier_add_remaining
  have hnext := arena.next?_eq
  simp only [frontier] at hspace
  unfold insert?
  by_cases hpos : 0 < arena.remaining
  · have hlt : arena.origin.toNat + arena.size < UInt32.size := by omega
    rw [if_pos hlt] at hnext
    rw [if_pos hpos]
    split
    · next handle hsome =>
      obtain rfl := Option.some.inj (hsome.symm.trans hnext)
      congr 2
      ext1
      · rfl
      · rw [← Array.toList_inj, toList_fill, Array.toList_push, List.take_of_length_le hpos]
    · next hnone => cases hnone.symm.trans hnext
  · have hfull : ¬arena.origin.toNat + arena.size < UInt32.size := by omega
    rw [if_neg hfull] at hnext
    rw [if_neg hpos]
    split
    · next handle hsome => cases hsome.symm.trans hnext
    · rfl

/-- A handle that resolves after an insertion did so before, unless it is the new one. -/
theorem resolve?_fill_singleton {arena : Arena α} {value found : α} {handle : Handle}
    (hroom : 0 < arena.remaining) (h : (arena.fill [value]).resolve? handle = some found) :
    arena.resolve? handle = some found ∨ handle = .ofNat arena.frontier ∧ found = value := by
  have hinsert : arena.insert? value = some (.ofNat arena.frontier, arena.fill [value]) := by
    rw [insert?_eq, if_pos hroom]
  by_cases hnew : handle = .ofNat arena.frontier
  · have hself := (resolve?_insert?_self hinsert).2
    rw [hnew, hself] at h
    exact .inr ⟨hnew, (Option.some.inj h).symm⟩
  · rw [resolve?_insert?_of_ne hinsert hnew] at h
    exact .inl h

/-! ## Values under consecutive handles -/

/-- The arena has the values under consecutive handles, the first of them under the number
`next`. -/
def HasAt (arena : Arena α) (next : Nat) : List α → Prop
  | [] => True
  | value :: values => arena.resolve? (.ofNat next) = some value ∧ arena.HasAt (next + 1) values

@[simp] theorem hasAt_nil (arena : Arena α) (next : Nat) : arena.HasAt next [] := trivial

@[simp] theorem hasAt_cons {arena : Arena α} {next : Nat} {value : α} {values : List α} :
    arena.HasAt next (value :: values) ↔
      arena.resolve? (.ofNat next) = some value ∧ arena.HasAt (next + 1) values := Iff.rfl

@[simp] theorem hasAt_append {arena : Arena α} {next : Nat} {xs ys : List α} :
    arena.HasAt next (xs ++ ys) ↔ arena.HasAt next xs ∧ arena.HasAt (next + xs.length) ys := by
  induction xs generalizing next with
  | nil => simp
  | cons x xs ih =>
    rw [List.cons_append, hasAt_cons, hasAt_cons, ih, and_assoc, List.length_cons,
      show next + 1 + xs.length = next + (xs.length + 1) from by omega]

/-- What was put in is found at the old frontier. -/
theorem hasAt_fill {arena : Arena α} {values : List α} (h : values.length ≤ arena.remaining) :
    (arena.fill values).HasAt arena.frontier values := by
  induction values generalizing arena with
  | nil => trivial
  | cons value values ih =>
    have hroom : values.length + 1 ≤ arena.remaining := h
    have hone : [value].length ≤ arena.remaining := Nat.le_trans (Nat.le_add_left ..) hroom
    have hsplit : arena.fill (value :: values) = (arena.fill [value]).fill values :=
      fill_append arena [value] values
    have hspace := arena.frontier_add_remaining
    have hfirst : (arena.fill [value]).resolve? (.ofNat arena.frontier) = some value := by
      rw [resolve?_ofNat _ (by omega), origin_fill, if_pos arena.origin_le_frontier,
        ← Array.getElem?_toList, toList_fill, List.take_of_length_le hone]
      simp [frontier, size]
    rw [hsplit]
    refine ⟨(extends_fill ..).resolve? hfirst, ?_⟩
    have hrest : ((arena.fill [value]).fill values).HasAt (arena.fill [value]).frontier values := by
      apply ih
      rw [remaining_fill, List.length_singleton]
      omega
    rwa [frontier_fill_of_fits hone] at hrest

end Arena

end ScriptTree
