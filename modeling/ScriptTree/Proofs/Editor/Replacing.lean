import ScriptTree.Proofs.Editor.Refinement
import ScriptTree.Proofs.Tree.Admission
/-!
# Replacing an operator

Selecting, setting an argument and replacing are one thing once the call to make is known: the call
is planned, and its tree takes the place of the operator that stood there. A call of a row whose
arguments fit can only fail for want of room.

Main statements: `Editor.Rewrites.succeeds`, `Editor.Rewrites.full` and `Editor.Rewrites.misfit`.
-/

namespace ScriptTree

theorem Steps.result_map {σ α β : Type} (f : α → β) (steps : Steps σ α) (state : σ) :
    ((f <$> steps).run.run state).1 = f <$> (steps.run.run state).1 := by
  rw [map_eq_pure_bind, run_bind]
  rcases steps.run.run state with ⟨result, after⟩
  cases result <;> rfl

namespace Editor

open Editing

variable {editor after : Editor} {edit : Edit} {stage : Stage} {index : Nat}
  {operator : Operator} {old fresh : Handle} {plan : OperatorPlan}

/-! ## What stands at a position -/

/-- The tree of a valid plan lies under the handle at a position. -/
structure Stands (editor : Editor) (stage : Stage) (index : Nat) (handle : Handle)
    (plan : OperatorPlan) : Prop where
  position : editor.handle stage index = .ok handle
  valid : plan.Valid editor.catalog
  holds : Arena.Holds editor.catalog editor.arena plan handle

theorem Represents.stands {document : Document Script} (h : editor.Represents document)
    (hposition : editor.handle stage index = .ok old) :
    ∃ plan, editor.Stands stage index old plan := by
  obtain ⟨_, _, _, _, plan, hvalid, -, hholds⟩ := h.operatorAt hposition
  exact ⟨plan, hposition, hvalid, hholds⟩

/-- The select at a position, with its chosen option. -/
structure Shows (editor : Editor) (stage : Stage) (index : Nat) (select : Select)
    (chosen : Chosen) : Prop where
  position : ∃ handle, editor.handle stage index = .ok handle ∧
    editor.arena.resolve? handle = some (.select select)
  chosen : editor.arena.resolve? select.selected = some (.option chosen)

/-- The select and the option of a plan say what its row says. -/
theorem Stands.shows (h : editor.Stands stage index old plan) :
    ∃ selected arguments,
      editor.Shows stage index
        ⟨.operator plan.row.category, none, plan.row.resolved, selected,
          editor.catalog.options plan.row.category⟩
        ⟨plan.row.name, plan.row.resolved, arguments⟩ ∧
      List.Forall₂ editor.arena.HoldsArgument plan.arguments arguments := by
  obtain ⟨hposition, hvalid, ⟨hselect, ⟨hoption, hbelow⟩⟩⟩ := h
  rw [hvalid.output] at hselect hoption
  exact ⟨_, _, ⟨⟨old, hposition, hselect⟩, hoption⟩, hbelow⟩

/-! ## What an edit answers -/

theorem result_insertOperator (operator : Operator) (editor : Editor) :
    ((insertOperator operator).run.run editor).1 =
      (editor.arena.place (editor.lay <$> editor.catalog.planOperator operator)).1 :=
  congrArg Prod.fst (editor.catalog.run_insertPlanned operator editor.arena)

/-- A question whose answer goes on, or whose fault is the answer. -/
theorem result_ask_bind {α β : Type} (question : Editor → Except Fault α)
    (next : α → Editing β) (editor : Editor) :
    ((ask question >>= next).run.run editor).1 =
      question editor >>= fun answer => ((next answer).run.run editor).1 := by
  have hask : (ask question).run.run editor = (question editor, editor) := rfl
  rw [Steps.run_bind, hask]
  cases question editor <;> rfl

theorem result_replaceOperator (hposition : editor.handle stage index = .ok old) :
    ((replaceOperator stage index operator).run.run editor).1 =
      (editor.arena.place (editor.lay <$> editor.catalog.planOperator operator)).1 := by
  rw [← result_insertOperator, replaceOperator_eq, result_ask_bind, hposition, ok_bind,
    Steps.run_bind]
  rcases (insertOperator operator).run.run editor with ⟨result, later⟩
  cases result <;> rfl

theorem perform_select (editor : Editor) (stage : Stage) (index : Nat) (label : String) :
    (editor.perform (.select stage index label)).1 = (do
      let operator ← editor.selection stage index label
      Edit.Result.handle <$> ((replaceOperator stage index operator).run.run editor).1) := by
  refine (Steps.result_map ..).trans ?_
  rw [selectOperator, result_ask_bind, map_bind]

theorem perform_update (editor : Editor) (stage : Stage) (index argument : Nat) (value : Json) :
    (editor.perform (.update stage index argument value)).1 = (do
      let operator ← editor.updated stage index argument value
      Edit.Result.handle <$> ((replaceOperator stage index operator).run.run editor).1) := by
  refine (Steps.result_map ..).trans ?_
  rw [updateArgument, result_ask_bind, map_bind]

namespace Rewrites

theorem unique {stage' : Stage} {index' : Nat} {operator' : Operator}
    (h : editor.Rewrites edit stage index operator)
    (h' : editor.Rewrites edit stage' index' operator') :
    stage = stage' ∧ index = index' ∧ operator = operator' := by
  cases h with
  | select call =>
    cases h' with
    | select call' => exact ⟨rfl, rfl, Except.ok.inj (call.symm.trans call')⟩
  | update call =>
    cases h' with
    | update call' => exact ⟨rfl, rfl, Except.ok.inj (call.symm.trans call')⟩
  | replace =>
    cases h' with
    | replace => exact ⟨rfl, rfl, rfl⟩

/-- Once the call is known, all three kinds of edits answer alike. -/
theorem result (h : editor.Rewrites edit stage index operator)
    (hposition : editor.handle stage index = .ok old) :
    (editor.perform edit).1 = Edit.Result.handle <$>
      (editor.arena.place (editor.lay <$> editor.catalog.planOperator operator)).1 := by
  rw [← result_replaceOperator hposition]
  cases h with
  | select call => rw [perform_select, call, ok_bind]
  | update call => rw [perform_update, call, ok_bind]
  | replace => exact Steps.result_map ..

end Rewrites

/-! ## What an edit leaves behind -/

theorem handle_modify (hposition : editor.handle stage index = .ok old) (arena : Arena Node)
    (fresh : Handle) :
    ({ editor with
        arena := arena
        document := editor.document.modify stage fun script => script.set index fresh } :
      Editor).handle stage index = .ok fresh := by
  obtain ⟨handles, hhandles, hat⟩ := handle_eq_ok.1 hposition
  refine handle_eq_ok.2 ⟨handles.set index fresh, ?_, ?_⟩
  · rw [Document.script?_modify, if_pos rfl, hhandles]
    rfl
  · rw [List.getElem?_set, if_pos rfl, if_pos (List.getElem?_eq_some_iff.1 hat).1]

/-- Behind an edit that replaces an operator the tree of the new plan stands at the position, and
the arena has lost the room for its nodes. -/
theorem Effect.stands {result : Edit.Result} (h : editor.Effect edit result after)
    (hcall : editor.Rewrites edit stage index operator) :
    ∃ plan fresh, editor.Plans operator plan ∧ result = .handle fresh ∧
      after.Stands stage index fresh plan ∧
      after.arena.remaining = editor.arena.remaining - plan.nodeCount := by
  cases h with
  | @rewritten _ _ _ _ _ plan hcall' hposition hplans =>
    obtain ⟨rfl, rfl, rfl⟩ := hcall.unique hcall'
    refine ⟨plan, _, hplans, rfl, ⟨handle_modify hposition _ _, ?_, ?_⟩, ?_⟩
    · exact (Catalog.planOperator_eq_ok.1 hplans.planned).1
    · exact Arena.holds_of_hasAt _ plan (Arena.hasAt_fill hplans.room)
    · show (editor.arena.fill _).remaining = _
      rw [Arena.remaining_fill, lay, OperatorPlan.length_layout]
  | pushed | removed | sourceAdded | sourceRemoved | urlSet | nameSet | descriptionSet
  | converted | generated => cases hcall

/-! ## Calls of a row -/

section Calls

variable {row : Row} {args : List Json}

/-- A plan of a call of a row is a plan of that row with those arguments. -/
theorem Plans.of_call (hplans : editor.Plans (.call row.code args) plan)
    (hrow : row ∈ editor.catalog.rows) :
    plan.row = row ∧ plan.arguments.map ArgumentPlan.raw = args ∧
      plan.nodeCount = row.nodes args.length := by
  have hplanned := hplans.planned
  rw [Catalog.planOperator_call hrow] at hplanned
  obtain ⟨arguments, harguments, rfl⟩ := map_eq_ok.1 hplanned
  obtain ⟨hfits, rfl⟩ := planArguments_eq_ok.1 harguments
  refine ⟨rfl, rfl, ?_⟩
  rw [OperatorPlan.nodeCount_eq hfits, List.length_map]

variable (h : editor.Rewrites edit stage index (.call row.code args))
  (hposition : editor.handle stage index = .ok old) (hrow : row ∈ editor.catalog.rows)

include h hposition hrow

/-- Arguments that do not fit are the fault. -/
theorem Rewrites.misfit {fault : Fault} (hfault : planArguments row args = .error fault) :
    (editor.perform edit).1 = .error fault := by
  rw [h.result hposition, Catalog.planOperator_call hrow, hfault]
  rfl

/-- With arguments that fit, the room for the nodes decides. -/
theorem Rewrites.result_of_admits (hadmits : row.Admits args) :
    ∃ fresh, (editor.perform edit).1 =
      if row.nodes args.length ≤ editor.arena.remaining then .ok (.handle fresh)
      else .error (editor.arena.full (row.nodes args.length)) := by
  obtain ⟨arguments, harguments⟩ := planArguments_succeeds_iff.2 hadmits
  obtain ⟨hfits, rfl⟩ := planArguments_eq_ok.1 harguments
  have hcount := @OperatorPlan.nodeCount_eq ⟨row, row.resolved, arguments⟩ hfits
  refine ⟨(editor.lay ⟨row, row.resolved, arguments⟩).value, ?_⟩
  rw [h.result hposition, Catalog.planOperator_call hrow, harguments, List.length_map, ← hcount]
  show Edit.Result.handle <$> (if _ then _ else _ : Except Fault Handle × Arena Node).1 = _
  rw [lay, OperatorPlan.length_layout]
  split <;> rfl

theorem Rewrites.full (hadmits : row.Admits args)
    (hroom : editor.arena.remaining < row.nodes args.length) :
    (editor.perform edit).1 = .error (editor.arena.full (row.nodes args.length)) := by
  obtain ⟨fresh, hresult⟩ := h.result_of_admits hposition hrow hadmits
  rw [hresult, if_neg (Nat.not_le.2 hroom)]

/-- Where there is room, the tree of the call stands at the position afterwards. -/
theorem Rewrites.succeeds (hadmits : row.Admits args)
    (hroom : row.nodes args.length ≤ editor.arena.remaining) :
    ∃ fresh plan, (editor.perform edit).1 = .ok (.handle fresh) ∧
      (editor.after edit).Stands stage index fresh plan ∧ plan.row = row ∧
      plan.arguments.map ArgumentPlan.raw = args ∧
      (editor.after edit).arena.remaining = editor.arena.remaining - row.nodes args.length := by
  obtain ⟨fresh, hresult⟩ := h.result_of_admits hposition hrow hadmits
  rw [if_pos hroom] at hresult
  have heffect : editor.Effect edit (.handle fresh) (editor.after edit) :=
    effect_of_perform (Prod.ext hresult rfl)
  obtain ⟨plan, laid, hplans, hsame, hstands, hremaining⟩ := heffect.stands h
  cases hsame
  obtain ⟨rfl, hraw, hcount⟩ := hplans.of_call hrow
  exact ⟨fresh, plan, hresult, hstands, rfl, hraw, hcount ▸ hremaining⟩

end Calls

end Editor

end ScriptTree
