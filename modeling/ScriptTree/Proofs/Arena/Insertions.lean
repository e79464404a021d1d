import ScriptTree.Proofs.Arena.Growth
/-!
# Sequences of insertions

What an arena is after any number of insertions, up to the end of the number space and past it. The
insertions are numbered from zero. Those that come before the end give consecutive handles, and all
later ones fail and leave the arena as it is.

Main statements: the answers to a list of insertions and the arena behind them
(`Arena.insertAll_eq`), and the laws that tie the operations of an arena to each other, from the
first insertion on (`Arena.insertions_lawful`).
-/

namespace ScriptTree

theorem Handle.ofNat_toNat (handle : Handle) : Handle.ofNat handle.id.toNat = handle := by
  simp [Handle.ofNat]

namespace Arena

variable {α : Type}

/-! ## One insertion -/

/-- The fault of an insertion for which no handle is left. -/
def exhausted (arena : Arena α) : Fault :=
  .outOfRange (.arenaFull arena.origin 0 1)

theorem insert_eq (arena : Arena α) (value : α) :
    arena.insert value =
      if 0 < arena.remaining then (.ok (.ofNat arena.frontier), arena.fill [value])
      else (.error arena.exhausted, arena) := by
  rw [insert, insert?_eq]
  by_cases h : 0 < arena.remaining
  · rw [if_pos h, if_pos h]
  · rw [if_neg h, if_neg h, full, Nat.eq_zero_of_not_pos h]
    rfl

theorem next?_eq_frontier (arena : Arena α) :
    arena.next? = if 0 < arena.remaining then some (.ofNat arena.frontier) else none := by
  have hspace := arena.frontier_add_remaining
  simp only [frontier] at hspace
  rw [next?_eq]
  by_cases h : 0 < arena.remaining
  · rw [if_pos h, if_pos (by omega)]
    rfl
  · rw [if_neg h, if_neg (by omega)]

theorem ensureRoom_eq_ok {arena : Arena α} {count : Nat} :
    arena.ensureRoom count = .ok () ↔ count ≤ arena.remaining := by
  rw [ensureRoom]
  split <;> simp_all

/-! ## Any number of insertions -/

/-- Inserts values one after the other: what each insertion gives, and the arena behind them. -/
def insertAll (arena : Arena α) : List α → List (Except Fault Handle) × Arena α
  | [] => ([], arena)
  | value :: values =>
    let first := arena.insert value
    let rest := first.2.insertAll values
    (first.1 :: rest.1, rest.2)

/-- What the insertion gives that has `count` others before it. -/
def answer (arena : Arena α) (count : Nat) : Except Fault Handle :=
  if count < arena.remaining then .ok (.ofNat (arena.frontier + count))
  else .error arena.exhausted

theorem answer_fill_singleton {arena : Arena α} (h : 0 < arena.remaining) (value : α)
    (count : Nat) : (arena.fill [value]).answer count = arena.answer (count + 1) := by
  have hone : [value].length ≤ arena.remaining := h
  rw [answer, answer, remaining_fill, frontier_fill_of_fits hone, List.length_singleton,
    Nat.add_assoc, Nat.add_comm 1 count]
  by_cases hlt : count + 1 < arena.remaining
  · rw [if_pos hlt, if_pos (by omega)]
  · rw [if_neg hlt, if_neg (by omega)]
    rfl

theorem answer_of_remaining_eq_zero {arena : Arena α} (h : arena.remaining = 0) (count : Nat) :
    arena.answer count = .error arena.exhausted :=
  if_neg (by omega)

/-- Insertions answer by their number, and put in what fits. -/
theorem insertAll_eq (arena : Arena α) (values : List α) :
    arena.insertAll values =
      ((List.range values.length).map arena.answer, arena.fill values) := by
  induction values generalizing arena with
  | nil => rw [fill_nil]; rfl
  | cons value values ih =>
    rw [insertAll, ih, insert_eq, List.length_cons, List.range_succ_eq_map, List.map_cons,
      List.map_map]
    by_cases h : 0 < arena.remaining
    · simp only [if_pos h]
      have hanswers : (arena.fill [value]).answer = arena.answer ∘ Nat.succ :=
        funext (answer_fill_singleton h value)
      rw [hanswers, ← fill_append, answer, if_pos h]
      rfl
    · -- nothing goes in any more, so every further insertion answers like this one
      have hzero : arena.remaining = 0 := Nat.eq_zero_of_not_pos h
      have hanswers : arena.answer = arena.answer ∘ Nat.succ := by
        funext count
        rw [Function.comp_apply, answer_of_remaining_eq_zero hzero,
          answer_of_remaining_eq_zero hzero]
      simp only [if_neg h, ← hanswers, answer_of_remaining_eq_zero hzero,
        fill_of_remaining_eq_zero hzero]

/-- The handles that insertions give are counted from the frontier on. -/
theorem handles_of_answers (arena : Arena α) (count : Nat) :
    ((List.range count).map arena.answer).filterMap Except.toOption =
      (List.range (min arena.remaining count)).map fun k => .ofNat (arena.frontier + k) := by
  induction count with
  | zero => simp
  | succ count ih =>
    rw [List.range_succ, List.map_append, List.filterMap_append, ih]
    by_cases h : count < arena.remaining
    · rw [Nat.min_eq_right (Nat.le_of_lt h), Nat.min_eq_right h, List.range_succ, List.map_append]
      simp [answer, h, Except.toOption]
    · have hle : arena.remaining ≤ count := Nat.le_of_not_lt h
      rw [Nat.min_eq_left hle, Nat.min_eq_left (Nat.le_succ_of_le hle)]
      simp [answer, h, Except.toOption]

/-! ## Listing -/

theorem toList_eq (arena : Arena α) :
    arena.toList =
      arena.nodes.toList.zipIdx.map fun pair => (.ofNat (arena.origin.toNat + pair.2), pair.1) := by
  refine List.map_congr_left fun pair _ => ?_
  simp only [Handle.ofNat, UInt32.ofNat_add, UInt32.ofNat_toNat]

/-- The numbers of the listed handles count up from the origin, without starting over. -/
theorem numbers_toList (arena : Arena α) :
    (arena.toList.map fun pair => pair.1.id.toNat) =
      (List.range arena.size).map fun k => arena.origin.toNat + k := by
  have hfits := arena.fits
  apply List.ext_getElem
  · simp [toList_eq, size]
  · intro k hk _
    have hlt : k < arena.nodes.size := by simpa [toList_eq] using hk
    simp only [toList_eq, List.getElem_map, List.getElem_zipIdx, List.getElem_range]
    rw [Nat.zero_add, Handle.toNat_ofNat (by omega)]

theorem mem_toList {arena : Arena α} {handle : Handle} {value : α} :
    (handle, value) ∈ arena.toList ↔ arena.resolve? handle = some value := by
  have hfits := arena.fits
  rw [toList_eq, List.mem_map]
  constructor
  · rintro ⟨⟨found, k⟩, hmem, hpair⟩
    obtain ⟨rfl, rfl⟩ := Prod.mk.inj hpair
    have hat := List.mem_zipIdx_iff_getElem?.1 hmem
    have hlt : k < arena.nodes.size := by simpa using (List.getElem?_eq_some_iff.1 hat).1
    rw [resolve?_ofNat _ (by omega), if_pos (Nat.le_add_right ..), Nat.add_sub_cancel_left,
      ← Array.getElem?_toList]
    exact hat
  · intro h
    rw [resolve?_eq] at h
    obtain ⟨hle, hat⟩ := Option.ite_none_right_eq_some.1 h
    rw [← Array.getElem?_toList] at hat
    refine ⟨(value, handle.id.toNat - arena.origin.toNat), List.mem_zipIdx_iff_getElem?.2 hat, ?_⟩
    simp only [Nat.add_sub_cancel' hle, Handle.ofNat_toNat]

/-! ## Laws -/

/-- The laws of an arena with an origin, behind insertions of values that gave the answers. -/
structure Lawful (origin : UInt32) (values : List α) (answers : List (Except Fault Handle))
    (arena : Arena α) : Prop where
  /-- There are as many values as insertions that succeeded. -/
  counted : (answers.filterMap Except.toOption).length = arena.size
  /-- Of the insertions that succeeded, the one with `k` others before it gave the number `k` past
  the origin. -/
  numbered : ∀ (k : Nat) (handle : Handle), (answers.filterMap Except.toOption)[k]? = some handle →
    handle.id.toNat = origin.toNat + k
  /-- The handles that resolve are those from the origin up to the number of values. -/
  resolves : ∀ handle, (∃ value, arena.resolve handle = .ok value) ↔
    origin.toNat ≤ handle.id.toNat ∧ handle.id.toNat < origin.toNat + arena.size
  /-- A handle resolves to the value for which it was given. -/
  inserted : ∀ handle value, arena.resolve handle = .ok value ↔
    ∃ k : Nat, answers[k]? = some (.ok handle) ∧ values[k]? = some value
  /-- Any other handle dangles. -/
  dangling : ∀ handle fault, arena.resolve handle = .error fault → fault = .danglingHandle handle
  contained : ∀ handle, arena.contains handle = true ↔ ∃ value, arena.resolve handle = .ok value
  listed : ∀ handle value, (handle, value) ∈ arena.toList ↔ arena.resolve handle = .ok value
  /-- The list goes up through the numbers and never starts over. -/
  ascending : (arena.toList.map fun pair => pair.1.id.toNat).Pairwise (· < ·)
  /-- A further insertion succeeds exactly when there is a next handle, and gives it. -/
  next : ∀ value handle, (arena.insert value).1 = .ok handle ↔ arena.next? = some handle
  /-- There is a next handle exactly when some are free. -/
  free : (∃ handle, arena.next? = some handle) ↔ 0 < arena.remaining
  /-- An insertion that fails changes nothing. -/
  refused : ∀ value fault, (arena.insert value).1 = .error fault →
    (arena.insert value).2 = arena
  /-- There is room for some values exactly when inserting all of them would succeed. -/
  roomy : ∀ further : List α, arena.ensureRoom further.length = .ok () ↔
    ∀ answer ∈ (arena.insertAll further).1, ∃ handle, answer = .ok handle

theorem insert_eq_ok {arena : Arena α} {value : α} {handle : Handle} :
    (arena.insert value).1 = .ok handle ↔ arena.next? = some handle := by
  rw [insert_eq, next?_eq_frontier]
  by_cases h : 0 < arena.remaining
  · rw [if_pos h, if_pos h]
    exact ⟨fun ho => congrArg some (Except.ok.inj ho), fun hs => congrArg _ (Option.some.inj hs)⟩
  · rw [if_neg h, if_neg h]
    exact ⟨nofun, nofun⟩

theorem insert_error {arena : Arena α} {value : α} {fault : Fault}
    (h : (arena.insert value).1 = .error fault) : (arena.insert value).2 = arena := by
  rw [insert_eq] at h ⊢
  split at h
  · cases h
  · next hroom => rw [if_neg hroom]

theorem exists_next?_iff {arena : Arena α} :
    (∃ handle, arena.next? = some handle) ↔ 0 < arena.remaining := by
  rw [next?_eq_frontier]
  split <;> simp_all

/-- Room for some values is room for each of their insertions. -/
theorem ensureRoom_length_eq_ok {arena : Arena α} {values : List α} :
    arena.ensureRoom values.length = .ok () ↔
      ∀ answer ∈ (arena.insertAll values).1, ∃ handle, answer = .ok handle := by
  rw [ensureRoom_eq_ok, insertAll_eq]
  simp only [List.forall_mem_map, List.mem_range]
  constructor
  · intro hroom k hk
    exact ⟨_, if_pos (Nat.lt_of_lt_of_le hk hroom)⟩
  · intro hall
    refine Nat.le_of_not_lt fun hroom => ?_
    obtain ⟨handle, hanswer⟩ := hall arena.remaining hroom
    rw [answer, if_neg (Nat.lt_irrefl _)] at hanswer
    cases hanswer

theorem exists_resolve_eq_ok {arena : Arena α} {handle : Handle} :
    (∃ value, arena.resolve handle = .ok value) ↔
      arena.origin.toNat ≤ handle.id.toNat ∧ handle.id.toNat < arena.frontier := by
  rw [← contains_ofNat handle.id.toNat_lt_size, Handle.ofNat_toNat, contains_eq_true]
  simp only [resolve_eq_ok]

theorem resolve?_fill_empty {origin : UInt32} {values : List α} {handle : Handle} {value : α} :
    ((empty origin).fill values).resolve? handle = some value ↔
      origin.toNat ≤ handle.id.toNat ∧
        handle.id.toNat - origin.toNat < (empty origin : Arena α).remaining ∧
        values[handle.id.toNat - origin.toNat]? = some value := by
  rw [resolve?_eq, Option.ite_none_right_eq_some, origin_fill, ← Array.getElem?_toList,
    toList_fill]
  show origin.toNat ≤ handle.id.toNat ∧ ([] ++ values.take _)[_]? = some value ↔ _
  rw [List.nil_append, List.getElem?_take, Option.ite_none_right_eq_some]
  rfl

/-- A handle resolves to a value in an arena that began empty when it was given for that value. -/
theorem resolve?_insertAll_empty {origin : UInt32} {values : List α} {handle : Handle} {value : α} :
    ((empty origin).insertAll values).2.resolve? handle = some value ↔
      ∃ k : Nat, ((empty origin).insertAll values).1[k]? = some (.ok handle) ∧
        values[k]? = some value := by
  have hspace := (empty origin : Arena α).frontier_add_remaining
  have hfrontier : (empty origin : Arena α).frontier = origin.toNat := rfl
  simp only [insertAll_eq, resolve?_fill_empty, List.getElem?_map]
  constructor
  · rintro ⟨hle, hroom, hvalue⟩
    refine ⟨handle.id.toNat - origin.toNat, ?_, hvalue⟩
    rw [List.getElem?_range (List.getElem?_eq_some_iff.1 hvalue).1, Option.map_some, answer,
      if_pos hroom, hfrontier, Nat.add_sub_cancel' hle, Handle.ofNat_toNat]
  · rintro ⟨k, hanswer, hvalue⟩
    rw [List.getElem?_range (List.getElem?_eq_some_iff.1 hvalue).1, Option.map_some, answer,
      Option.some.injEq] at hanswer
    split at hanswer
    · next hroom =>
      obtain rfl := Except.ok.inj hanswer
      have hnumber : (Handle.ofNat (origin.toNat + k)).id.toNat = origin.toNat + k :=
        Handle.toNat_ofNat (by omega)
      rw [hfrontier, hnumber, Nat.add_sub_cancel_left]
      exact ⟨Nat.le_add_right .., hroom, hvalue⟩
    · cases hanswer

section Empty

variable (origin : UInt32) (values : List α)

theorem origin_insertAll_empty : ((empty origin).insertAll values).2.origin = origin := by
  rw [insertAll_eq]
  rfl

theorem size_insertAll_empty :
    ((empty origin).insertAll values).2.size =
      min (empty origin : Arena α).remaining values.length := by
  have hfill := (empty origin).frontier_fill values
  rw [insertAll_eq]
  simp only [frontier, origin_fill] at hfill
  exact Nat.add_left_cancel hfill

theorem counted_insertAll_empty :
    (((empty origin).insertAll values).1.filterMap Except.toOption).length =
      ((empty origin).insertAll values).2.size := by
  rw [size_insertAll_empty, insertAll_eq, handles_of_answers, List.length_map, List.length_range]

/-- The handles that are given count up from the origin, and none is past the last number. -/
theorem numbered_insertAll_empty {k : Nat} {handle : Handle}
    (h : (((empty origin).insertAll values).1.filterMap Except.toOption)[k]? = some handle) :
    handle.id.toNat = origin.toNat + k := by
  have hspace := (empty origin : Arena α).frontier_add_remaining
  have hfrontier : (empty origin : Arena α).frontier = origin.toNat := rfl
  rw [insertAll_eq, handles_of_answers, List.getElem?_map, Option.map_eq_some_iff] at h
  obtain ⟨n, hn, rfl⟩ := h
  obtain ⟨hlt, rfl⟩ := List.getElem?_eq_some_iff.1 hn
  rw [List.length_range] at hlt
  rw [List.getElem_range, hfrontier, Handle.toNat_ofNat (by omega)]

end Empty

/-- Whatever is inserted into an empty arena, and however far past the end of the number space the
insertions go, its operations agree on which handles there are. -/
theorem insertions_lawful (origin : UInt32) (values : List α) :
    Lawful origin values ((empty origin).insertAll values).1
      ((empty origin).insertAll values).2 := by
  constructor
  case counted => exact counted_insertAll_empty origin values
  case numbered => exact fun _ _ => numbered_insertAll_empty origin values
  case resolves =>
    intro handle
    rw [exists_resolve_eq_ok, frontier, origin_insertAll_empty]
  case inserted =>
    intro handle value
    rw [resolve_eq_ok]
    exact resolve?_insertAll_empty
  case dangling =>
    intro handle fault h
    rw [resolve] at h
    split at h
    · cases h
    · exact (Except.error.inj h).symm
  case contained =>
    intro handle
    rw [contains_eq_true]
    simp only [resolve_eq_ok]
  case listed =>
    intro handle value
    rw [resolve_eq_ok]
    exact mem_toList
  case ascending =>
    rw [numbers_toList, List.pairwise_map]
    exact List.pairwise_lt_range.imp fun h => Nat.add_lt_add_left h _
  case next => exact fun _ _ => insert_eq_ok
  case free => exact exists_next?_iff
  case refused => exact fun _ _ h => insert_error h
  case roomy => exact fun _ => ensureRoom_length_eq_ok

-- the last two handles are given, and the third insertion finds none
example : ((empty 0xfffffffe).insertAll [true, false, true]).1.map Except.toOption =
    [some ⟨0xfffffffe⟩, some ⟨0xffffffff⟩, none] := by decide +kernel

end Arena

end ScriptTree
