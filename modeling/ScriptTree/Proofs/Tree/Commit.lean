import ScriptTree.Proofs.Steps
import ScriptTree.Proofs.Tree.Layout
/-!
# Committing layouts

What the `commit` and `generate` functions do to an arena, said once through layouts. Committing a
plan puts its layout at the frontier; when the number space ends in the middle, the arena keeps what
fitted in. Generating puts a layout as a whole or does not touch the arena (`Arena.place`).

Main statements: every `commit` function lays its layout (`Catalog.commitScript_lays` and the
like), and every `generate` function places the layout of what was planned
(`Catalog.run_generateScript` and the like).
-/

namespace ScriptTree

/-! ## Laying -/

/-- From `arena` the steps put the nodes of the layout at the frontier and give its value. If the
number space ends before, they put in what fits and fail for want of room for one more. -/
def Building.Lays {α : Type} (steps : Building α) (arena : Arena Node) (layout : Layout α) : Prop :=
  steps.run.run arena =
    (if layout.nodes.length ≤ arena.remaining then .ok layout.value
      else .error ((arena.fill layout.nodes).full 1), arena.fill layout.nodes)

namespace Building.Lays

variable {α β : Type} {arena : Arena Node}

theorem pure (value : α) : Lays (Pure.pure value) arena ⟨[], value⟩ := by
  rw [Lays, Steps.run_pure, Arena.fill_nil]
  rfl

theorem insert {next : Nat} (hnext : arena.frontier = next) (node : Node) :
    Lays (insert node) arena ⟨[node], .ofNat next⟩ := by
  subst hnext
  rw [Lays]
  by_cases h : 0 < arena.remaining
  · have hinsert := arena.insert?_eq node
    rw [if_pos h] at hinsert
    rw [if_pos (show [node].length ≤ arena.remaining from h)]
    simp [Building.insert, Arena.insert, hinsert, ExceptT.run_mk, StateT.run]
  · have hinsert := arena.insert?_eq node
    rw [if_neg h] at hinsert
    rw [if_neg (show ¬[node].length ≤ arena.remaining from h),
      Arena.fill_of_remaining_eq_zero (by omega)]
    simp [Building.insert, Arena.insert, hinsert, ExceptT.run_mk, StateT.run]

/-- Of steps in sequence, the second lay behind the first. -/
theorem bind {steps : Building α} {next : α → Building β} {xs ys : List Node} {a : α} {b : β}
    (h : steps.Lays arena ⟨xs, a⟩)
    (hnext : ∀ later : Arena Node, later.frontier = arena.frontier + xs.length →
      (next a).Lays later ⟨ys, b⟩) :
    (steps >>= next).Lays arena ⟨xs ++ ys, b⟩ := by
  rw [Lays] at h ⊢
  rw [Steps.run_bind, h]
  by_cases hfits : xs.length ≤ arena.remaining
  · have hsecond := hnext _ (Arena.frontier_fill_of_fits hfits)
    rw [Lays, Arena.remaining_fill, ← Arena.fill_append] at hsecond
    have hsum : ys.length ≤ arena.remaining - xs.length ↔
        (xs ++ ys).length ≤ arena.remaining := by
      rw [List.length_append]
      omega
    simp only [if_pos hfits, hsecond, hsum]
  · -- the first part fills the arena up, so nothing of the second part would fit in
    have hzero : (arena.fill xs).remaining = 0 := by
      rw [Arena.remaining_fill]
      omega
    have hsum : ¬(xs ++ ys).length ≤ arena.remaining := by
      rw [List.length_append]
      omega
    simp only [if_neg hfits, if_neg hsum, Arena.fill_append,
      Arena.fill_of_remaining_eq_zero hzero]

/-- The value of steps that lay may still be wrapped. -/
theorem bind_pure {steps : Building α} {xs : List Node} {a : α} (h : steps.Lays arena ⟨xs, a⟩)
    (f : α → β) :
    (steps >>= fun value => Pure.pure (f value)).Lays arena ⟨xs, f a⟩ := by
  have hwrapped : (steps >>= fun value => Pure.pure (f value)).Lays arena ⟨xs ++ [], f a⟩ :=
    h.bind fun _ _ => pure (f a)
  rwa [List.append_nil] at hwrapped

/-- Steps for one item after the other lay the items one behind the other. -/
theorem mapM {steps : α → Building β} {lay : Nat → α → Layout β}
    (h : ∀ (arena : Arena Node) (item : α), (steps item).Lays arena (lay arena.frontier item))
    (arena : Arena Node) (items : List α) :
    (items.mapM steps).Lays arena (Layout.all lay arena.frontier items) := by
  induction items generalizing arena with
  | nil => exact pure []
  | cons item items ih =>
    rw [List.mapM_cons]
    refine bind (h arena item) fun later hlater => ?_
    rw [← hlater]
    exact (ih later).bind_pure _

end Building.Lays

/-! ## Committing -/

open Building (Lays)

theorem commitArgument_lays (arena : Arena Node) (plan : ArgumentPlan) :
    (commitArgument plan).Lays arena (plan.layout arena.frontier) := by
  cases plan with
  | input literal => exact .insert rfl _
  | filter label function operand =>
    exact Lays.bind (.insert rfl _) fun later hlater =>
      Lays.bind (.insert hlater _) fun last hlast =>
        .insert (hlast.trans (congrArg (· + 1) hlater)) _
  | reducer label function =>
    exact Lays.bind (.insert rfl _) fun later hlater => .insert hlater _

theorem commitOption_lays (arena : Arena Node) (plan : OperatorPlan) :
    (commitOption plan).Lays arena (plan.optionLayout arena.frontier) :=
  (Lays.mapM commitArgument_lays arena plan.arguments).bind_pure _

namespace Catalog

variable (catalog : Catalog)

theorem commitOperator_lays (arena : Arena Node) (plan : OperatorPlan) :
    (catalog.commitOperator plan).Lays arena (plan.selectLayout catalog arena.frontier) :=
  Lays.bind (commitOption_lays arena plan) fun _ hlater => (Lays.insert hlater _).bind_pure _

theorem commitSelect_lays (arena : Arena Node) (plan : OperatorPlan) :
    (catalog.commitSelect plan).Lays arena (plan.layout catalog arena.frontier) :=
  Lays.bind (catalog.commitOperator_lays arena plan) fun _ hlater => .insert hlater _

theorem commitScript_lays (arena : Arena Node) (plans : List OperatorPlan) :
    (catalog.commitScript plans).Lays arena (catalog.scriptLayout arena.frontier plans) :=
  Lays.mapM catalog.commitSelect_lays arena plans

theorem commitDocument_lays (arena : Arena Node) (document : Document (List OperatorPlan)) :
    (document.mapM catalog.commitScript).Lays arena
      (catalog.documentLayout arena.frontier document) := by
  have hsource : ∀ (arena : Arena Node) (source : Source (List OperatorPlan)),
      Lays (do return ⟨source.url, ← catalog.commitScript source.script⟩) arena
        (catalog.sourceLayout arena.frontier source) :=
    fun arena source => (catalog.commitScript_lays arena source.script).bind_pure _
  refine Lays.bind (Lays.mapM hsource arena document.retrieve) fun first hfirst => ?_
  rw [← hfirst]
  refine Lays.bind (catalog.commitScript_lays first document.aggregate) fun second hsecond => ?_
  rw [← hsecond]
  exact (catalog.commitScript_lays second document.tally).bind_pure _

end Catalog

/-! ## Generating -/

/-- What generating a planned layout does to an arena: a planning fault or missing room leaves the
arena alone, and otherwise the whole layout goes in. -/
def Arena.place {α : Type} (arena : Arena Node) :
    Except Fault (Layout α) → Except Fault α × Arena Node
  | .error fault => (.error fault, arena)
  | .ok layout =>
    if layout.nodes.length ≤ arena.remaining then (.ok layout.value, arena.fill layout.nodes)
    else (.error (arena.full layout.nodes.length), arena)

theorem Arena.place_eq_ok {α : Type} {arena after : Arena Node}
    {planned : Except Fault (Layout α)} {value : α} :
    arena.place planned = (.ok value, after) ↔
      ∃ layout, planned = .ok layout ∧ layout.nodes.length ≤ arena.remaining ∧
        layout.value = value ∧ arena.fill layout.nodes = after := by
  cases planned with
  | error fault => simp [place]
  | ok layout =>
    by_cases h : layout.nodes.length ≤ arena.remaining <;> simp [place, h]

/-- Placing only ever makes an arena longer. -/
theorem Arena.extends_place {α : Type} (arena : Arena Node) (planned : Except Fault (Layout α)) :
    arena.Extends (arena.place planned).2 := by
  cases planned with
  | error fault => exact .refl arena
  | ok layout =>
    by_cases h : layout.nodes.length ≤ arena.remaining
    · rw [place, if_pos h]
      exact arena.extends_fill layout.nodes
    · rw [place, if_neg h]
      exact .refl arena

/-- Placing gives the value of the layout, or a fault and the arena as it was. -/
theorem Arena.place_cases {α : Type} (arena : Arena Node) (planned : Except Fault (Layout α)) :
    (∃ value after, arena.place planned = (.ok value, after)) ∨
      ∃ fault, arena.place planned = (.error fault, arena) := by
  cases planned with
  | error fault => exact .inr ⟨fault, rfl⟩
  | ok layout =>
    by_cases hfits : layout.nodes.length ≤ arena.remaining
    · exact .inl ⟨layout.value, arena.fill layout.nodes, if_pos hfits⟩
    · exact .inr ⟨arena.full layout.nodes.length, if_neg hfits⟩

theorem Arena.place_error {α : Type} {arena : Arena Node} {planned : Except Fault (Layout α)}
    {fault : Fault} (h : (arena.place planned).1 = .error fault) :
    (arena.place planned).2 = arena := by
  obtain ⟨value, after, hplace⟩ | ⟨other, hplace⟩ := arena.place_cases planned
  · rw [hplace] at h
    cases h
  · rw [hplace]

namespace Building

/-- The run of any function that plans, checks the room for its plan and commits it. -/
theorem run_planned {π α : Type} {planned : Except Fault π} {count : π → Nat}
    {commit : π → Building α} {lay : Nat → π → Layout α}
    (hcount : ∀ next plan, (lay next plan).nodes.length = count plan)
    (hlays : ∀ (arena : Arena Node) (plan : π), (commit plan).Lays arena (lay arena.frontier plan))
    (arena : Arena Node) :
    (require planned >>= fun plan => ensureRoom (count plan) >>= fun _ => commit plan).run.run
      arena = arena.place (lay arena.frontier <$> planned) := by
  rw [Steps.run_bind]
  cases planned with
  | error fault => rfl
  | ok plan =>
    show (ensureRoom (count plan) >>= fun _ => commit plan).run.run arena = _
    have hroom : (ensureRoom (count plan)).run.run arena =
        (if count plan ≤ arena.remaining then .ok () else .error (arena.full (count plan)),
          arena) := rfl
    have hplace : arena.place (lay arena.frontier <$> .ok plan) =
        if count plan ≤ arena.remaining then
          (.ok (lay arena.frontier plan).value, arena.fill (lay arena.frontier plan).nodes)
        else (.error (arena.full (count plan)), arena) := by
      rw [← hcount arena.frontier plan]
      rfl
    rw [Steps.run_bind, hroom, hplace]
    by_cases hfits : count plan ≤ arena.remaining
    · rw [if_pos hfits, if_pos hfits]
      show (commit plan).run.run arena = _
      rw [hlays arena plan, if_pos (by rw [hcount]; exact hfits)]
    · rw [if_neg hfits, if_neg hfits]

end Building

namespace Catalog

open Building

variable (catalog : Catalog)

/-- Plans the chosen option of an operator whose row is `row`, with the output of `code`. -/
def planOption (row : Row) (code : OperatorCode) (args : List Json) :
    Except Fault OperatorPlan := do
  let output ← catalog.output code
  let arguments ← planArguments row args
  return ⟨row, output, arguments⟩

theorem run_generateScript (script : Script) (arena : Arena Node) :
    (catalog.generateScript script).run.run arena =
      arena.place (catalog.scriptLayout arena.frontier <$> catalog.planScript script) :=
  run_planned catalog.length_scriptLayout catalog.commitScript_lays arena

theorem run_generateOperator (operator : Operator) (arena : Arena Node) :
    (catalog.generateOperator operator).run.run arena =
      arena.place (OperatorPlan.selectLayout catalog arena.frontier <$>
        catalog.planOperator operator) :=
  run_planned (OperatorPlan.length_selectLayout catalog) catalog.commitOperator_lays arena

theorem run_generateOption (row : Row) (code : OperatorCode) (args : List Json)
    (arena : Arena Node) :
    (catalog.generateOption row code args).run.run arena =
      arena.place (OperatorPlan.optionLayout arena.frontier <$>
        catalog.planOption row code args) := by
  rw [← run_planned OperatorPlan.length_optionLayout commitOption_lays arena, generateOption,
    planOption]
  cases catalog.output code with
  | error fault => rfl
  | ok output => cases planArguments row args <;> rfl

/-- Inserting one operator with its select. -/
theorem run_insertPlanned (operator : Operator) (arena : Arena Node) :
    (do
      let plan ← require (catalog.planOperator operator)
      ensureRoom plan.nodeCount
      catalog.commitSelect plan : Building Handle).run.run arena =
      arena.place (OperatorPlan.layout catalog arena.frontier <$>
        catalog.planOperator operator) :=
  run_planned (OperatorPlan.length_layout catalog) catalog.commitSelect_lays arena

theorem run_generateDocument (document : Document Script) (arena : Arena Node) :
    (catalog.generateDocument document).run.run arena =
      arena.place (catalog.documentLayout arena.frontier <$> catalog.planDocument document) :=
  run_planned catalog.length_documentLayout catalog.commitDocument_lays arena

end Catalog

end ScriptTree
