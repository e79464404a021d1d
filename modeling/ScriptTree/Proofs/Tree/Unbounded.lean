import Mathlib.Order.Monotone.Basic
import ScriptTree.Proofs.Tree.FirstFault
/-!
# Walks without a bound

Views give up below a depth. The walk behind them has no depth: it goes on as long as there are
handles to follow, and where they lead in a circle it never ends. A walk that ends does so after
finitely many levels, each of which asks only for walks that end; one that does not has no result.
Views within growing depths tell more and more of the walk, and from the size of the arena on a
larger depth tells nothing new.

Main statements: a walk calls itself (`Arena.walkOption_eq`), in any arena it ends exactly where the
view does not report a cycle, with what the view gives (`Arena.walk_eq`), and it does end from every
handle from which no walk comes back to where it has been (`Arena.AcyclicFrom.walk_eq`).
-/

namespace ScriptTree

/-- What a walk gives. One that goes on without end gives nothing, not even a fault. -/
abbrev Walk := ExceptT Fault Option

namespace Walk

variable {α β : Type}

/-- A step of a walk that ends, such as resolving a handle. -/
def look (result : Except Fault α) : Walk α :=
  ExceptT.mk (some result)

/-- What a bounded walk tells of the one without a bound: where it ran out of depth, nothing. -/
def ofBounded : Except Fault α → Walk α
  | .ok value => look (.ok value)
  | .error fault =>
    ExceptT.mk (if fault = .malformedTree .cyclic then none else some (.error fault))

theorem run_bind_eq_some {first : Walk α} {next : α → Walk β} {result : Except Fault β} :
    (first >>= next).run = some result ↔
      (∃ fault, first.run = some (.error fault) ∧ result = .error fault) ∨
        ∃ value, first.run = some (.ok value) ∧ (next value).run = some result := by
  rw [ExceptT.run_bind]
  rcases first.run with _ | (fault | value)
  · simp
  · simp [eq_comm]
  · simp

/-! ## Approximations -/

/-- Where the first walk ends, the second ends with the same result. -/
def Approximates (first second : Walk α) : Prop :=
  ∀ result, first.run = some result → second.run = some result

namespace Approximates

theorem refl (walk : Walk α) : Approximates walk walk :=
  fun _ h => h

theorem antisymm {first second : Walk α} (h : Approximates first second)
    (h' : Approximates second first) : first = second :=
  Option.ext fun result => ⟨h result, h' result⟩

theorem bind {first second : Walk α} {next after : α → Walk β} (h : Approximates first second)
    (hnext : ∀ value, Approximates (next value) (after value)) :
    Approximates (first >>= next) (second >>= after) := by
  intro result hresult
  rw [run_bind_eq_some] at hresult ⊢
  rcases hresult with ⟨fault, hfault, hresult⟩ | ⟨value, hvalue, hresult⟩
  · exact .inl ⟨fault, h _ hfault, hresult⟩
  · exact .inr ⟨value, h _ hvalue, hnext value result hresult⟩

/-- After a step that ends, only what follows its result matters. -/
theorem look_bind {result : Except Fault α} {next after : α → Walk β}
    (hnext : ∀ value, result = .ok value → Approximates (next value) (after value)) :
    Approximates (look result >>= next) (look result >>= after) := by
  cases result with
  | ok value => exact hnext value rfl
  | error fault => exact refl _

theorem mapM {f g : α → Walk β} (h : ∀ item, Approximates (f item) (g item)) (items : List α) :
    Approximates (items.mapM f) (items.mapM g) := by
  induction items with
  | nil => exact refl _
  | cons item items ih =>
    rw [List.mapM_cons, List.mapM_cons]
    exact (h item).bind fun value => ih.bind fun values => refl _

end Approximates

/-! ## Bounded walks -/

theorem ofBounded_of_ne {result : Except Fault α} (h : result ≠ .error (.malformedTree .cyclic)) :
    ofBounded result = look result := by
  cases result with
  | ok value => rfl
  | error fault =>
    rw [ofBounded, if_neg fun hfault => h (congrArg Except.error hfault)]
    rfl

theorem run_ofBounded_eq_none {result : Except Fault α} :
    (ofBounded result).run = none ↔ result = .error (.malformedTree .cyclic) := by
  constructor
  · intro h
    by_contra hne
    rw [ofBounded_of_ne hne] at h
    cases h
  · rintro rfl
    rfl

theorem ofBounded_bind (first : Except Fault α) (next : α → Except Fault β) :
    ofBounded (first >>= next) = ofBounded first >>= fun value => ofBounded (next value) := by
  cases first with
  | ok value => rfl
  | error fault =>
    show ofBounded (.error fault) = ofBounded (.error fault) >>= _
    simp only [ofBounded]
    split <;> rfl

theorem ofBounded_mapM (f : α → Except Fault β) (items : List α) :
    ofBounded (items.mapM f) = items.mapM fun item => ofBounded (f item) := by
  induction items with
  | nil => rfl
  | cons item items ih =>
    simp only [List.mapM_cons, ofBounded_bind, ih]
    rfl

end Walk

namespace Arena

variable {arena : Arena Node}

/-! ## Walking on -/

/-- One level of the walk below a chosen option: its view, where the walks below the options further
down give `below`. -/
def walkBelow (arena : Arena Node) (below : Chosen → Walk OptionView) (chosen : Chosen) :
    Walk OptionView := do
  let arguments ← chosen.arguments.mapM fun handle => do
    match ← Walk.look (arena.resolve handle) with
    | .select select =>
      let chosen ← Walk.look (arena.resolveOption select.selected)
      return .select (select.view (← below chosen))
    | .input input => return .input input
    | other => throw (unexpected handle [.select, .input] other)
  return chosen.view arguments

/-- The walk below a chosen option ends with a result: one level of it gives the result, and asks
for no walks further down but such as end. -/
inductive Ends (arena : Arena Node) : Chosen → Except Fault OptionView → Prop where
  | level {chosen : Chosen} {result : Except Fault OptionView} (below : Chosen → Walk OptionView)
      (ends : ∀ inside shown, (below inside).run = some shown → Ends arena inside shown)
      (gives : (arena.walkBelow below chosen).run = some result) : Ends arena chosen result

open Classical in
/-- The view of a chosen option, walking without a bound. -/
noncomputable def walkOption (arena : Arena Node) (chosen : Chosen) : Walk OptionView :=
  if h : ∃ result, arena.Ends chosen result then Walk.look h.choose else ExceptT.mk none

/-- Where more is told of the options of the arena, no less is told of what lies above them. -/
theorem walkBelow_approximates {below below' : Chosen → Walk OptionView}
    (h : ∀ handle chosen, arena.resolve? handle = some (.option chosen) →
      Walk.Approximates (below chosen) (below' chosen)) (chosen : Chosen) :
    Walk.Approximates (arena.walkBelow below chosen) (arena.walkBelow below' chosen) := by
  refine .bind (.mapM (fun handle => .look_bind fun node _ => ?_) _) fun arguments => .refl _
  cases node with
  | select select =>
    refine .look_bind fun inside hinside => ?_
    exact (h _ inside (resolveOption_eq_ok.1 hinside)).bind fun view => .refl _
  | input input => exact .refl _
  | option other => exact .refl _

theorem ofBounded_resolve (handle : Handle) :
    Walk.ofBounded (arena.resolve handle) = Walk.look (arena.resolve handle) := by
  refine Walk.ofBounded_of_ne ?_
  unfold resolve
  split <;> simp

theorem ofBounded_resolve_bind {α : Type} {next : Node → Except Fault α}
    (h : ∀ node, Walk.ofBounded (next node) = Walk.look (next node)) (handle : Handle) :
    Walk.ofBounded (arena.resolve handle >>= next) = Walk.look (arena.resolve handle >>= next) := by
  rw [Walk.ofBounded_bind, ofBounded_resolve]
  cases arena.resolve handle with
  | ok node => exact h node
  | error fault => rfl

theorem ofBounded_resolveOption (handle : Handle) :
    Walk.ofBounded (arena.resolveOption handle) = Walk.look (arena.resolveOption handle) :=
  ofBounded_resolve_bind (fun node => by cases node <;> rfl) handle

theorem ofBounded_resolveSelect (handle : Handle) :
    Walk.ofBounded (arena.resolveSelect handle) = Walk.look (arena.resolveSelect handle) :=
  ofBounded_resolve_bind (fun node => by cases node <;> rfl) handle

/-- One more level of a bounded walk tells what lies on it, and below it what the levels before
tell. -/
theorem ofBounded_viewOption_succ (depth : Nat) (chosen : Chosen) :
    Walk.ofBounded (arena.viewOption (depth + 1) chosen) =
      arena.walkBelow (fun below => Walk.ofBounded (arena.viewOption depth below)) chosen := by
  rw [viewOption, Walk.ofBounded_bind, Walk.ofBounded_mapM, walkBelow]
  refine congrArg₂ _ (congrArg (fun step => List.mapM step _) (funext fun handle => ?_)) rfl
  rw [Walk.ofBounded_bind, ofBounded_resolve]
  refine congrArg _ (funext fun node => ?_)
  cases node with
  | select select =>
    simp only [Walk.ofBounded_bind, ofBounded_resolveOption]
    rfl
  | input input => rfl
  | option other => rfl

/-! ## Depth enough -/

theorem viewOption_approximates_succ (depth : Nat) (chosen : Chosen) :
    Walk.Approximates (Walk.ofBounded (arena.viewOption depth chosen))
      (Walk.ofBounded (arena.viewOption (depth + 1) chosen)) := by
  induction depth generalizing chosen with
  | zero => exact nofun
  | succ depth ih =>
    rw [ofBounded_viewOption_succ, ofBounded_viewOption_succ]
    exact walkBelow_approximates (fun _ below _ => ih below) chosen

/-- Whether a node is an option whose view ends within a depth. -/
def endsWithin (arena : Arena Node) (depth : Nat) : Node → Bool
  | .option chosen => (Walk.ofBounded (arena.viewOption depth chosen)).run.isSome
  | .select _ | .input _ => false

/-- The options whose views end within a depth. -/
def ended (arena : Arena Node) (depth : Nat) : List Node :=
  arena.nodes.toList.filter (arena.endsWithin depth)

theorem ended_sublist_succ (depth : Nat) :
    (arena.ended depth).Sublist (arena.ended (depth + 1)) := by
  refine List.monotone_filter_right _ fun node hnode => ?_
  cases node with
  | option chosen =>
    obtain ⟨result, hresult⟩ := Option.isSome_iff_exists.1 hnode
    exact Option.isSome_iff_exists.2 ⟨result, viewOption_approximates_succ _ _ _ hresult⟩
  | select _ | input _ => exact hnode

theorem mem_ended {handle : Handle} {chosen : Chosen} {depth : Nat}
    {result : Except Fault OptionView} (hnode : arena.resolve? handle = some (.option chosen))
    (h : (Walk.ofBounded (arena.viewOption depth chosen)).run = some result) :
    .option chosen ∈ arena.ended depth := by
  refine List.mem_filter.2 ⟨?_, Option.isSome_iff_exists.2 ⟨result, h⟩⟩
  rw [resolve?_eq] at hnode
  split at hnode
  · exact Array.mem_toList_iff.2 (Array.mem_of_getElem? hnode)
  · cases hnode

/-- Where one more level lets no further option of the arena end, the level after it tells nothing
new. -/
theorem viewOption_add_two {depth : Nat} (h : arena.ended depth = arena.ended (depth + 1))
    (chosen : Chosen) :
    Walk.ofBounded (arena.viewOption (depth + 2) chosen) =
      Walk.ofBounded (arena.viewOption (depth + 1) chosen) := by
  refine Walk.Approximates.antisymm ?_ (viewOption_approximates_succ _ _)
  rw [ofBounded_viewOption_succ, ofBounded_viewOption_succ]
  refine walkBelow_approximates (fun handle below hbelow result hresult => ?_) chosen
  have hmem := mem_ended hbelow hresult
  rw [← h] at hmem
  obtain ⟨earlier, hearlier⟩ := Option.isSome_iff_exists.1 (List.mem_filter.1 hmem).2
  cases (viewOption_approximates_succ _ _ _ hearlier).symm.trans hresult
  exact hearlier

/-- From the size of the arena on, no further option ends with one more level. -/
theorem ended_size : arena.ended arena.size = arena.ended (arena.size + 1) := by
  have hmono : Monotone fun depth => (arena.ended depth).length :=
    monotone_nat_of_le_succ fun depth => (ended_sublist_succ depth).length_le
  have hbound : ∀ depth, (arena.ended depth).length ≤ arena.size :=
    fun depth => List.length_filter_le ..
  have hstable : ∀ depth, (arena.ended depth).length = (arena.ended (depth + 1)).length →
      (arena.ended (depth + 1)).length = (arena.ended (depth + 2)).length := by
    intro depth h
    have hsame := viewOption_add_two ((ended_sublist_succ depth).eq_of_length h)
    refine congrArg List.length (List.filter_congr fun node _ => ?_)
    cases node with
    | option chosen => rw [endsWithin, endsWithin, hsame]
    | select _ | input _ => rfl
  refine (ended_sublist_succ _).eq_of_length ?_
  exact (Nat.stabilises_of_monotone hmono hbound hstable (Nat.le_succ arena.size)).symm

theorem viewOption_depthLimit_succ (chosen : Chosen) :
    Walk.ofBounded (arena.viewOption (arena.depthLimit + 1) chosen) =
      Walk.ofBounded (arena.viewOption arena.depthLimit chosen) :=
  viewOption_add_two ended_size chosen

theorem Ends.viewOption {chosen : Chosen} {result : Except Fault OptionView}
    (h : arena.Ends chosen result) :
    (Walk.ofBounded (arena.viewOption arena.depthLimit chosen)).run = some result := by
  induction h with
  | level below _ gives ih =>
    -- the views within the limit are kept by one more level of the walk
    rw [← viewOption_depthLimit_succ, ofBounded_viewOption_succ]
    exact walkBelow_approximates (fun _ inside _ => ih inside) _ _ gives

theorem ends_of_viewOption {depth : Nat} {chosen : Chosen} {result : Except Fault OptionView}
    (h : (Walk.ofBounded (arena.viewOption depth chosen)).run = some result) :
    arena.Ends chosen result := by
  induction depth generalizing chosen result with
  | zero => cases h
  | succ depth ih =>
    rw [ofBounded_viewOption_succ] at h
    exact .level _ (fun _ _ hinside => ih hinside) h

/-! ## Views -/

theorem walkOption_eq_ofBounded (chosen : Chosen) :
    arena.walkOption chosen = Walk.ofBounded (arena.viewOption arena.depthLimit chosen) := by
  unfold walkOption
  split
  · next h => exact h.choose_spec.viewOption.symm
  · next h =>
    refine (Option.eq_none_iff_forall_ne_some.2 fun result hresult => ?_).symm
    exact h ⟨result, ends_of_viewOption hresult⟩

/-- The walk below an option is one level, with the same walk below the options further down. -/
theorem walkOption_eq (chosen : Chosen) :
    arena.walkOption chosen = arena.walkBelow arena.walkOption chosen := by
  have hbelow : arena.walkOption =
      fun below => Walk.ofBounded (arena.viewOption arena.depthLimit below) :=
    funext walkOption_eq_ofBounded
  rw [walkOption_eq_ofBounded, ← viewOption_depthLimit_succ, ofBounded_viewOption_succ, hbelow]

/-- The view of a select that refers into the arena, walking without a bound. -/
noncomputable def walkSelectNode (arena : Arena Node) (select : Select) : Walk SelectView := do
  let chosen ← Walk.look (arena.resolveOption select.selected)
  return select.view (← arena.walkOption chosen)

/-- The view of any node, walking without a bound. -/
noncomputable def walk (arena : Arena Node) (handle : Handle) : Walk NodeView := do
  match ← Walk.look (arena.resolve handle) with
  | .select select => return .select (← arena.walkSelectNode select)
  | .option chosen => return .option (← arena.walkOption chosen)
  | .input input => return .input input

/-- The view of a select, walking without a bound. -/
noncomputable def walkSelect (arena : Arena Node) (handle : Handle) : Walk SelectView := do
  arena.walkSelectNode (← Walk.look (arena.resolveSelect handle))

/-- The views of the selects of a script, walking without a bound. -/
noncomputable def walkScript (arena : Arena Node) (script : List Handle) : Walk (List SelectView) :=
  script.mapM arena.walkSelect

theorem walkSelectNode_eq (select : Select) :
    arena.walkSelectNode select = Walk.ofBounded (arena.viewSelectNode select) := by
  simp only [walkSelectNode, viewSelectNode, Walk.ofBounded_bind, ofBounded_resolveOption,
    walkOption_eq_ofBounded]
  rfl

/-- In any arena, the walk from a handle ends exactly where the view of the handle does not report
a cycle, and with what the view gives. -/
theorem walk_eq (handle : Handle) : arena.walk handle = Walk.ofBounded (arena.view handle) := by
  rw [walk, Arena.view, Walk.ofBounded_bind, ofBounded_resolve]
  refine congrArg _ (funext fun node => ?_)
  cases node with
  | select select =>
    simp only [Walk.ofBounded_bind, walkSelectNode_eq]
    rfl
  | option chosen =>
    simp only [Walk.ofBounded_bind, walkOption_eq_ofBounded]
    rfl
  | input input => rfl

/-- A view reports a cycle exactly where the walk goes on without end. -/
theorem view_reports_cycle_iff (handle : Handle) :
    arena.view handle = .error (.malformedTree .cyclic) ↔ (arena.walk handle).run = none := by
  rw [walk_eq, Walk.run_ofBounded_eq_none]

/-- A select whose option has the select as its argument. -/
example :
    let arena := (Arena.empty 1).fill [.option ⟨"sum", .one .bytes, [⟨2⟩]⟩,
      .select ⟨.reducer, none, .one .integer, ⟨1⟩, []⟩]
    (arena.walk ⟨2⟩).run = none := by
  intro arena
  rw [walk_eq]
  decide +kernel

theorem walkSelect_eq (handle : Handle) :
    arena.walkSelect handle = Walk.ofBounded (arena.viewSelect handle) := by
  rw [walkSelect, viewSelect, Walk.ofBounded_bind, ofBounded_resolveSelect]
  exact congrArg _ (funext walkSelectNode_eq)

theorem walkScript_eq (script : List Handle) :
    arena.walkScript script = Walk.ofBounded (arena.viewScript script) := by
  rw [walkScript, viewScript, Walk.ofBounded_mapM]
  exact congrArg (fun step => script.mapM step) (funext walkSelect_eq)

/-! ## Walks that end -/

variable {handle : Handle} {expected : List NodeKind}

/-- What is wrong with a handle on the way is never that the way is a cycle. -/
theorem faultOn_ne_cyclic (path : List Nat) :
    arena.faultOn expected handle path ≠ some (.malformedTree .cyclic) := by
  intro h
  obtain ⟨⟨kinds, found⟩, -, hfault⟩ := Option.bind_eq_some_iff.1 h
  unfold faultAt at hfault
  split at hfault
  · cases hfault
  · split at hfault <;> cases hfault

/-- A result that tells the first fault on the way reports no cycle. -/
theorem Tells.ne_cyclic {α : Type} {result : Except Fault α}
    (h : Tells result (arena.faultOn expected handle)) :
    result ≠ .error (.malformedTree .cyclic) := by
  rintro rfl
  obtain ⟨path, hpath, -⟩ := h
  exact faultOn_ne_cyclic path hpath

/-- Where no walk comes back to where it has been, walks end. -/
theorem AcyclicFrom.walk_eq (h : arena.AcyclicFrom handle) :
    arena.walk handle = Walk.look (arena.view handle) := by
  rw [Arena.walk_eq, Walk.ofBounded_of_ne h.tells_view.ne_cyclic]

theorem AcyclicFrom.walkSelect_eq (h : arena.AcyclicFrom handle) :
    arena.walkSelect handle = Walk.look (arena.viewSelect handle) := by
  rw [Arena.walkSelect_eq, Walk.ofBounded_of_ne h.tells_viewSelect.ne_cyclic]

theorem walkScript_eq_of_acyclicFrom {script : List Handle}
    (h : ∀ handle ∈ script, arena.AcyclicFrom handle) :
    arena.walkScript script = Walk.look (arena.viewScript script) := by
  rw [walkScript_eq]
  refine Walk.ofBounded_of_ne fun hfault => ?_
  obtain ⟨before, root, after, rfl, -, hroot⟩ := mapM_eq_error_iff.1 hfault
  exact (h root (by simp)).tells_viewSelect.ne_cyclic hroot

end Arena

end ScriptTree
