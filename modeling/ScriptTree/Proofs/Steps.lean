import Mathlib.Data.List.Forall2
import ScriptTree.Fault
/-!
# Steps that may fail

Inserting nodes and editing a document are both steps on a state that may end in a fault, and
reading is the case without a state. This module says what a sequence of steps does in terms of its
parts, and which sequences are atomic: a fault of theirs leaves the state as it was.

Main statements: reading a list succeeds with a list exactly when every element is read
(`mapM_eq_ok_iff`), otherwise ends in the fault of the first element that is not
(`mapM_eq_error_iff`), and goes on succeeding when the reading of every element does
(`Persists.mapM`); steps that only look, followed by atomic ones, are atomic
(`Steps.Atomic.bind_of_looks`), and so are atomic ones followed by steps that cannot fail
(`Steps.Atomic.bind_of_succeeds`).
-/

namespace ScriptTree

/-! ## Reading -/

section Reading

variable {ε α β : Type}

theorem ok_bind (value : α) (next : α → Except ε β) : Except.ok value >>= next = next value :=
  rfl

/-- A sequence succeeds when its first part does and what follows does on its result. -/
theorem bind_eq_ok {first : Except ε α} {next : α → Except ε β} {result : β} :
    first >>= next = .ok result ↔ ∃ value, first = .ok value ∧ next value = .ok result := by
  cases first with
  | error fault => exact ⟨nofun, fun ⟨_, h, _⟩ => nomatch h⟩
  | ok value => exact ⟨fun h => ⟨value, rfl, h⟩, fun ⟨_, hv, h⟩ => by cases hv; exact h⟩

theorem map_eq_ok {first : Except ε α} {f : α → β} {result : β} :
    f <$> first = .ok result ↔ ∃ value, first = .ok value ∧ f value = result := by
  cases first with
  | error fault => exact ⟨nofun, fun ⟨_, h, _⟩ => nomatch h⟩
  | ok value =>
    constructor
    · intro h
      exact ⟨value, rfl, Except.ok.inj h⟩
    · rintro ⟨_, hv, rfl⟩
      cases hv
      rfl

theorem map_eq_error {first : Except ε α} {f : α → β} {fault : ε} :
    f <$> first = .error fault ↔ first = .error fault := by
  cases first with
  | error cause => exact ⟨fun h => congrArg _ (Except.error.inj h), fun h => by cases h; rfl⟩
  | ok value => exact ⟨nofun, nofun⟩

theorem mapError_eq_ok {ε' : Type} {f : ε → ε'} {result : Except ε α} {value : α} :
    result.mapError f = .ok value ↔ result = .ok value := by
  cases result with
  | error fault => exact ⟨nofun, nofun⟩
  | ok found => exact ⟨fun h => by cases h; rfl, fun h => by cases h; rfl⟩

theorem mapError_eq_error {ε' : Type} {f : ε → ε'} {result : Except ε α} {fault : ε'} :
    result.mapError f = .error fault ↔ ∃ cause, result = .error cause ∧ f cause = fault := by
  cases result with
  | error cause => simp [Except.mapError]
  | ok value => simp [Except.mapError]

theorem eq_ok_of_toOption {result : Except ε α} {value : α} (h : result.toOption = some value) :
    result = .ok value := by
  cases result with
  | error fault => cases h
  | ok found =>
    cases h
    rfl

theorem exists_of_isOk {result : Except ε α} (h : result.isOk = true) :
    ∃ value, result = .ok value := by
  cases result with
  | error fault => cases h
  | ok value => exact ⟨value, rfl⟩

theorem mapM_eq_ok_iff {f : α → Except ε β} {xs : List α} {ys : List β} :
    xs.mapM f = .ok ys ↔ List.Forall₂ (fun x y => f x = .ok y) xs ys := by
  induction xs generalizing ys with
  | nil =>
    rw [List.mapM_nil, List.forall₂_nil_left_iff]
    exact ⟨fun h => (Except.ok.inj h).symm, fun h => h ▸ rfl⟩
  | cons x xs ih =>
    rw [List.mapM_cons, bind_eq_ok, List.forall₂_cons_left_iff]
    constructor
    · rintro ⟨y, hy, h⟩
      obtain ⟨rest, hrest, h⟩ := bind_eq_ok.1 h
      exact ⟨y, rest, hy, ih.1 hrest, (Except.ok.inj h).symm⟩
    · rintro ⟨y, rest, hy, hrest, rfl⟩
      exact ⟨y, hy, bind_eq_ok.2 ⟨rest, ih.2 hrest, rfl⟩⟩

theorem exists_mapM_eq_ok {f : α → Except ε β} {xs : List α} (h : ∀ x ∈ xs, ∃ y, f x = .ok y) :
    ∃ ys, xs.mapM f = .ok ys := by
  induction xs with
  | nil => exact ⟨[], rfl⟩
  | cons x xs ih =>
    obtain ⟨y, hy⟩ := h x List.mem_cons_self
    obtain ⟨ys, hys⟩ := ih fun x hx => h x (List.mem_cons_of_mem _ hx)
    exact ⟨y :: ys, mapM_eq_ok_iff.2 (.cons hy (mapM_eq_ok_iff.1 hys))⟩

theorem bind_eq_error {first : Except ε α} {next : α → Except ε β} {fault : ε} :
    first >>= next = .error fault ↔
      first = .error fault ∨ ∃ value, first = .ok value ∧ next value = .error fault := by
  cases first with
  | error cause =>
    refine ⟨fun h => .inl (congrArg Except.error (Except.error.inj h)), ?_⟩
    rintro (h | ⟨_, h, _⟩)
    · cases h
      rfl
    · cases h
  | ok value =>
    refine ⟨fun h => .inr ⟨value, rfl, h⟩, ?_⟩
    rintro (h | ⟨_, hvalue, h⟩)
    · cases h
    · cases hvalue
      exact h

/-- Reading a list ends in a fault when the reading of an element does, and those of all elements
before it succeed. -/
theorem mapM_eq_error_iff {f : α → Except ε β} {xs : List α} {fault : ε} :
    xs.mapM f = .error fault ↔ ∃ before x after, xs = before ++ x :: after ∧
      (∀ y ∈ before, ∃ z, f y = .ok z) ∧ f x = .error fault := by
  induction xs with
  | nil =>
    refine ⟨nofun, ?_⟩
    rintro ⟨before, x, after, h, -⟩
    exact absurd h (by simp)
  | cons x xs ih =>
    rw [List.mapM_cons, bind_eq_error]
    constructor
    · rintro (h | ⟨y, hy, h⟩)
      · exact ⟨[], x, xs, rfl, nofun, h⟩
      · rcases bind_eq_error.1 h with hrest | ⟨_, _, h⟩
        · obtain ⟨before, x', after, rfl, hbefore, hx'⟩ := ih.1 hrest
          exact ⟨x :: before, x', after, rfl, List.forall_mem_cons.2 ⟨⟨y, hy⟩, hbefore⟩, hx'⟩
        · cases h
    · rintro ⟨before, x', after, h, hbefore, hx'⟩
      cases before with
      | nil =>
        cases h
        exact .inl hx'
      | cons b before =>
        cases h
        obtain ⟨⟨y, hy⟩, hbefore⟩ := List.forall_mem_cons.1 hbefore
        exact .inr ⟨y, hy, bind_eq_error.2 (.inl (ih.2 ⟨before, x', after, rfl, hbefore, hx'⟩))⟩

/-- Readings that agree on related elements agree on related lists. -/
theorem mapM_eq_of_forall₂ {γ : Type} {f : α → Except ε γ} {g : β → Except ε γ} {xs : List α}
    {ys : List β} (h : List.Forall₂ (fun x y => f x = g y) xs ys) : xs.mapM f = ys.mapM g := by
  induction h with
  | nil => rfl
  | cons hhead _ ih => rw [List.mapM_cons, List.mapM_cons, hhead, ih]

theorem mapError_bind {ε' : Type} (f : ε → ε') (first : Except ε α) (next : α → Except ε β) :
    (first >>= next).mapError f = first.mapError f >>= fun value => (next value).mapError f := by
  cases first <;> rfl

theorem mapError_mapM {ε' : Type} (f : ε → ε') (g : α → Except ε β) (xs : List α) :
    (xs.mapM g).mapError f = xs.mapM fun x => (g x).mapError f := by
  induction xs with
  | nil => rfl
  | cons x xs ih =>
    rw [List.mapM_cons, List.mapM_cons, mapError_bind]
    refine congrArg _ (funext fun y => ?_)
    rw [mapError_bind, ih]
    rfl

/-- Reading lists one after the other is reading all their elements in one list. -/
theorem flatten_mapM (f : α → Except ε β) (xss : List (List α)) :
    List.flatten <$> xss.mapM (List.mapM f) = xss.flatten.mapM f := by
  induction xss with
  | nil => rfl
  | cons xs xss ih =>
    rw [List.flatten_cons, List.mapM_append, ← ih, List.mapM_cons]
    simp only [map_bind, bind_map_left, map_pure, List.flatten_cons]

/-- Whatever the first reading gives, the second gives as well. -/
def Persists (first second : Except ε α) : Prop :=
  ∀ value, first = .ok value → second = .ok value

namespace Persists

theorem refl (reading : Except ε α) : Persists reading reading :=
  fun _ h => h

theorem bind {first second : Except ε α} {next after : α → Except ε β}
    (h : Persists first second) (hnext : ∀ value, Persists (next value) (after value)) :
    Persists (first >>= next) (second >>= after) := by
  intro result hresult
  obtain ⟨value, hvalue, hrest⟩ := bind_eq_ok.1 hresult
  exact bind_eq_ok.2 ⟨value, h value hvalue, hnext value result hrest⟩

theorem mapM {f g : α → Except ε β} (h : ∀ x, Persists (f x) (g x)) (xs : List α) :
    Persists (xs.mapM f) (xs.mapM g) := by
  intro ys hys
  exact mapM_eq_ok_iff.2 ((mapM_eq_ok_iff.1 hys).imp fun x y => h x y)

end Persists

end Reading

/-! ## Steps on a state -/

/-- Steps on a state of type `σ` that may end in a fault. -/
abbrev Steps (σ : Type) := ExceptT Fault (StateM σ)

namespace Steps

variable {σ α β : Type}

theorem run_pure (value : α) (state : σ) :
    (pure value : Steps σ α).run.run state = (.ok value, state) := rfl

theorem run_bind (steps : Steps σ α) (next : α → Steps σ β) (state : σ) :
    (steps >>= next).run.run state =
      match steps.run.run state with
      | (.ok value, after) => (next value).run.run after
      | (.error fault, after) => (.error fault, after) := by
  simp only [ExceptT.run_bind, StateT.run_bind]
  show (match steps.run.run state with | (result, after) => _) = _
  rcases steps.run.run state with ⟨result, after⟩
  cases result <;> rfl

/-- Steps one after the other succeed when the first do and what follows does behind them. -/
theorem bind_eq_ok {steps : Steps σ α} {next : α → Steps σ β} {state after : σ} {result : β} :
    (steps >>= next).run.run state = (.ok result, after) ↔
      ∃ value middle, steps.run.run state = (.ok value, middle) ∧
        (next value).run.run middle = (.ok result, after) := by
  rw [run_bind]
  rcases steps.run.run state with ⟨first, middle⟩
  cases first with
  | error fault =>
    constructor
    · intro h
      cases h
    · rintro ⟨_, _, h, _⟩
      cases h
  | ok value =>
    constructor
    · intro h
      exact ⟨value, middle, rfl, h⟩
    · rintro ⟨_, _, hvalue, h⟩
      cases hvalue
      exact h

theorem map_eq_ok {f : α → β} {steps : Steps σ α} {state after : σ} {result : β} :
    (f <$> steps).run.run state = (.ok result, after) ↔
      ∃ value, steps.run.run state = (.ok value, after) ∧ f value = result := by
  rw [map_eq_pure_bind, bind_eq_ok]
  constructor
  · rintro ⟨value, _, hvalue, h⟩
    cases h
    exact ⟨value, hvalue, rfl⟩
  · rintro ⟨value, hvalue, rfl⟩
    exact ⟨value, after, hvalue, rfl⟩

theorem exists_run {steps : Steps σ α} {state : σ} {value : α}
    (h : (steps.run.run state).1.toOption = some value) :
    ∃ after, steps.run.run state = (.ok value, after) :=
  ⟨(steps.run.run state).2, Prod.ext (eq_ok_of_toOption h) rfl⟩

/-- Steps that never change the state. -/
def Looks (steps : Steps σ α) : Prop :=
  ∀ state, (steps.run.run state).2 = state

/-- Steps that end in no fault, from any state. -/
def Succeeds (steps : Steps σ α) : Prop :=
  ∀ state, ∃ value, (steps.run.run state).1 = .ok value

/-- Steps whose faults leave the state as it was. -/
def Atomic (steps : Steps σ α) : Prop :=
  ∀ state fault, (steps.run.run state).1 = .error fault → (steps.run.run state).2 = state

theorem looks_get : Looks (get : Steps σ σ) :=
  fun _ => rfl

theorem succeeds_get : Succeeds (get : Steps σ σ) :=
  fun state => ⟨state, rfl⟩

theorem Succeeds.atomic {steps : Steps σ α} (h : Succeeds steps) : Atomic steps := by
  intro state fault herror
  obtain ⟨value, hok⟩ := h state
  exact nomatch hok.symm.trans herror

theorem Succeeds.pure (value : α) : Succeeds (pure value : Steps σ α) :=
  fun _ => ⟨value, rfl⟩

theorem Succeeds.bind {steps : Steps σ α} {next : α → Steps σ β} (h : Succeeds steps)
    (hnext : ∀ value, Succeeds (next value)) : Succeeds (steps >>= next) := by
  intro state
  obtain ⟨value, hok⟩ := h state
  rw [run_bind]
  rcases hrun : steps.run.run state with ⟨result, after⟩
  rw [hrun] at hok
  obtain rfl : result = .ok value := hok
  exact hnext value after

theorem Atomic.bind_of_looks {steps : Steps σ α} {next : α → Steps σ β} (h : Looks steps)
    (hnext : ∀ value, Atomic (next value)) : Atomic (steps >>= next) := by
  intro state fault
  have hstate := h state
  rw [run_bind]
  rcases hrun : steps.run.run state with ⟨result, after⟩
  rw [hrun] at hstate
  obtain rfl : after = state := hstate
  cases result with
  | error _ => exact fun _ => rfl
  | ok value => exact hnext value after fault

theorem Atomic.bind_of_succeeds {steps : Steps σ α} {next : α → Steps σ β} (h : Atomic steps)
    (hnext : ∀ value, Succeeds (next value)) : Atomic (steps >>= next) := by
  intro state fault
  have hstate := h state
  rw [run_bind]
  rcases hrun : steps.run.run state with ⟨result, after⟩
  rw [hrun] at hstate
  cases result with
  | error cause => exact fun _ => hstate cause rfl
  | ok value => exact fun herror => absurd herror (by
      obtain ⟨_, hok⟩ := hnext value after
      rw [hok]
      exact nofun)

theorem Atomic.map {steps : Steps σ α} (f : α → β) (h : Atomic steps) : Atomic (f <$> steps) := by
  rw [map_eq_pure_bind]
  exact h.bind_of_succeeds fun value => .pure (f value)

end Steps

end ScriptTree
