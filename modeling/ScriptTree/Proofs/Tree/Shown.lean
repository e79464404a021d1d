import ScriptTree.Proofs.Tree.Holds
import ScriptTree.Proofs.Tree.Rendering
/-!
# Views of held trees

A tree that is held in an arena shows as the view of its plan: its depth is two options, one for the
operator and one for a filter or a reducer below it, and an arena that holds it has a node and so
allows that depth. The view of a valid plan is the rendering of the operator that the plan stands
for.

Main statements: `Arena.Holds.viewSelect` and `OperatorPlan.Valid.renderOperator`.
-/

namespace ScriptTree

/-! ## Views of plans -/

/-- The view of a planned argument. -/
def ArgumentPlan.view : ArgumentPlan → ArgumentView
  | .input literal => .input literal
  | .filter label function operand => .select (function.view label operand)
  | .reducer label function => .select (function.view label)

/-- The view of a planned operator. -/
def OperatorPlan.view (catalog : Catalog) (plan : OperatorPlan) : SelectView :=
  catalog.rowView plan.row (plan.arguments.map ArgumentPlan.view)

theorem Filter.find?_code (function : Filter) :
    (Filter.all.find? fun other => Json.nat function.code.toNat = .nat other.code.toNat) =
      some function := by
  cases function <;> decide

theorem Reducer.find?_code (function : Reducer) :
    (Reducer.all.find? fun other => Json.nat function.code.toNat = .nat other.code.toNat) =
      some function := by
  cases function <;> decide

theorem ArgumentPlan.Fits.render {parameter : Parameter} {plan : ArgumentPlan}
    (h : plan.Fits parameter) : parameter.render plan.raw = some plan.view := by
  cases plan with
  | input literal =>
    obtain ⟨hfilter, hreducer, hlabel, hkind⟩ := h
    unfold Parameter.render
    split
    · contradiction
    · contradiction
    · rw [← hlabel, ← hkind]
      rfl
  | filter label function operand =>
    obtain ⟨hkind, rfl⟩ := h
    simp only [Parameter.render, hkind]
    exact congrArg (Option.bind · _) function.find?_code
  | reducer label function =>
    obtain ⟨hkind, rfl⟩ := h
    simp only [Parameter.render, hkind]
    exact congrArg (Option.bind · _) function.find?_code

theorem FitAll.renderArguments {parameters : List Parameter} {plans : List ArgumentPlan}
    (h : FitAll parameters plans) :
    renderArguments parameters (plans.map ArgumentPlan.raw) =
      some (plans.map ArgumentPlan.view) := by
  induction plans generalizing parameters with
  | nil => cases parameters <;> rfl
  | cons plan plans ih =>
    cases parameters with
    | nil => cases h
    | cons parameter parameters =>
      obtain ⟨hfits, hrest⟩ := List.forall₂_cons.1 h
      simp only [List.map_cons, ScriptTree.renderArguments, hfits.render, ih hrest]
      rfl

/-- The operator that a valid plan stands for renders as the view of the plan. -/
theorem OperatorPlan.Valid.renderOperator {catalog : Catalog} {plan : OperatorPlan}
    (h : plan.Valid catalog) :
    catalog.renderOperator plan.operator = some (plan.view catalog) := by
  have hrow : catalog.row plan.row.code = .ok plan.row := Catalog.row_eq_ok.2 ⟨h.row, rfl⟩
  rw [Catalog.renderOperator, OperatorPlan.operator, Operator.decoded_call]
  show ((catalog.row plan.row.code).toOption.bind fun row => _) = _
  rw [hrow]
  show (ScriptTree.renderArguments plan.row.parameters _).bind _ = _
  rw [h.arguments.renderArguments]
  rfl

namespace Arena

variable {arena : Arena Node} {catalog : Catalog}

/-! ## Walking down -/

/-- What shows under the handle of an argument, walking down through at most `depth` options. -/
inductive Shows (arena : Arena Node) (depth : Nat) (handle : Handle) : ArgumentView → Prop
  | input {input : Input} (node : arena.resolve? handle = some (.input input)) :
    Shows arena depth handle (.input input)
  | select {select : Select} {chosen : Chosen} {view : OptionView}
      (node : arena.resolve? handle = some (.select select))
      (option : arena.resolve? select.selected = some (.option chosen))
      (shown : arena.viewOption depth chosen = .ok view) :
    Shows arena depth handle (.select (select.view view))

/-- An option shows as the views of its arguments. -/
theorem viewOption_of_shows {depth : Nat} {chosen : Chosen} {arguments : List ArgumentView}
    (h : List.Forall₂ (arena.Shows depth) chosen.arguments arguments) :
    arena.viewOption (depth + 1) chosen = .ok (chosen.view arguments) := by
  rw [viewOption]
  refine bind_eq_ok.2 ⟨arguments, mapM_eq_ok_iff.2 (h.imp fun handle view hview => ?_), rfl⟩
  cases hview with
  | input node => exact bind_eq_ok.2 ⟨_, resolve_eq_ok.2 node, rfl⟩
  | select node option shown =>
    exact bind_eq_ok.2 ⟨_, resolve_eq_ok.2 node, bind_eq_ok.2 ⟨_, resolveOption_eq_ok.2 option,
      bind_eq_ok.2 ⟨_, shown, rfl⟩⟩⟩

theorem HoldsArgument.shows {plan : ArgumentPlan} {handle : Handle}
    (h : arena.HoldsArgument plan handle) (depth : Nat) :
    arena.Shows (depth + 1) handle plan.view := by
  cases h with
  | input node => exact .input node
  | filter select option input =>
    have hoperand : List.Forall₂ (arena.Shows depth) [_] [_] := .cons (.input input) .nil
    exact .select select option (viewOption_of_shows hoperand)
  | reducer select option => exact .select select option (viewOption_of_shows .nil)

/-- An arena that has a node allows the walk down from an operator to the operand of a filter. -/
theorem exists_depthLimit {handle : Handle} {node : Node} (h : arena.resolve? handle = some node) :
    ∃ depth, arena.depthLimit = depth + 2 := by
  have hlt := lt_frontier_of_resolve? h
  have hle : arena.origin.toNat ≤ handle.id.toNat := by
    by_contra hnot
    simp [resolve?_eq, hnot] at h
  simp only [frontier] at hlt
  exact ⟨arena.size - 1, by simp only [depthLimit]; omega⟩

/-- What is held under a handle shows as the view of its plan. -/
theorem Holds.viewSelect {plan : OperatorPlan} {handle : Handle} (hvalid : plan.Valid catalog)
    (h : Holds catalog arena plan handle) :
    arena.viewSelect handle = .ok (plan.view catalog) := by
  obtain ⟨select, @⟨arguments, option, below⟩⟩ := h
  obtain ⟨depth, hdepth⟩ := exists_depthLimit select
  have hshown : List.Forall₂ (arena.Shows (depth + 1)) arguments
      (plan.arguments.map ArgumentPlan.view) :=
    List.forall₂_map_right_iff.2 (below.imp fun _ _ hargument => hargument.shows depth).flip
  have hview : arena.viewOption arena.depthLimit ⟨plan.row.name, plan.output, arguments⟩ =
      .ok ⟨.selectedOperatorOption, plan.row.name, plan.output,
        plan.arguments.map ArgumentPlan.view⟩ := by
    rw [hdepth]
    exact viewOption_of_shows hshown
  refine bind_eq_ok.2 ⟨_, resolveSelect_eq_ok.2 select, bind_eq_ok.2 ⟨_,
    resolveOption_eq_ok.2 option, bind_eq_ok.2 ⟨_, hview, ?_⟩⟩⟩
  rw [hvalid.output]
  rfl

end Arena

end ScriptTree
