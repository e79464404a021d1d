import ScriptTree.Proofs.Tree.Holds
import ScriptTree.Tree.View
/-!
# Reading in later arenas

Nodes never change once they are in an arena, so whatever could be read from an arena reads the same
in every later one: single nodes, views of trees, and the operators that trees lower to. A walk that
ends in a fault may succeed later, when a handle that led nowhere has got a node.

Main statement: `Arena.Extends.undisturbed`.
-/

namespace ScriptTree.Arena

variable {arena later : Arena Node}

namespace Extends

variable (hx : arena.Extends later)

include hx

/-! ## Nodes -/

theorem resolve (handle : Handle) : Persists (arena.resolve handle) (later.resolve handle) :=
  fun _ h => resolve_eq_ok.2 (hx.resolve? (resolve_eq_ok.1 h))

theorem resolveAs {α : Type} (kind : NodeKind) (part? : Node → Option α) (handle : Handle) :
    Persists (arena.resolveAs kind part? handle) (later.resolveAs kind part? handle) :=
  (hx.resolve handle).bind fun _ => .refl _

theorem resolveSelect (handle : Handle) :
    Persists (arena.resolveSelect handle) (later.resolveSelect handle) :=
  hx.resolveAs _ _ handle

theorem resolveOption (handle : Handle) :
    Persists (arena.resolveOption handle) (later.resolveOption handle) :=
  hx.resolveAs _ _ handle

theorem resolveInput (handle : Handle) :
    Persists (arena.resolveInput handle) (later.resolveInput handle) :=
  hx.resolveAs _ _ handle

/-! ## Views -/

/-- A walk that ends within a depth ends the same within any larger one. -/
theorem viewOption {depth larger : Nat} (hdepth : depth ≤ larger) (chosen : Chosen) :
    Persists (arena.viewOption depth chosen) (later.viewOption larger chosen) := by
  -- on the depth that sufficed; a walk without any depth left has not ended
  induction depth generalizing larger chosen with
  | zero => exact nofun
  | succ depth ih =>
    cases larger with
    | zero => omega
    | succ larger =>
      simp only [Arena.viewOption]
      refine .bind (.mapM (fun handle => (hx.resolve handle).bind fun node => ?_) _)
        fun arguments => .refl _
      cases node with
      | select select =>
        apply (hx.resolveOption select.selected).bind
        intro below
        exact (ih (by omega) below).bind fun view => .refl _
      | input input => exact .refl _
      | option chosen => exact .refl _

theorem depthLimit_le : arena.depthLimit ≤ later.depthLimit := by
  have hlength := hx.nodes.length_le
  simp only [Array.length_toList] at hlength
  simp only [depthLimit, size]
  omega

theorem viewSelectNode (select : Select) :
    Persists (arena.viewSelectNode select) (later.viewSelectNode select) := by
  apply (hx.resolveOption select.selected).bind
  intro chosen
  exact (hx.viewOption hx.depthLimit_le chosen).bind fun view => .refl _

theorem view (handle : Handle) : Persists (arena.view handle) (later.view handle) := by
  apply (hx.resolve handle).bind
  intro node
  cases node with
  | select select => exact (hx.viewSelectNode select).bind fun view => .refl _
  | option chosen => exact (hx.viewOption hx.depthLimit_le chosen).bind fun view => .refl _
  | input input => exact .refl _

theorem viewSelect (handle : Handle) :
    Persists (arena.viewSelect handle) (later.viewSelect handle) :=
  (hx.resolveSelect handle).bind fun select => hx.viewSelectNode select

theorem viewScript (script : List Handle) :
    Persists (arena.viewScript script) (later.viewScript script) :=
  .mapM hx.viewSelect script

/-! ## Lowering -/

theorem lowerArgumentSelect (handle : Handle) (select : Select) :
    Persists (arena.lowerArgumentSelect handle select)
      (later.lowerArgumentSelect handle select) := by
  apply (hx.resolveOption select.selected).bind
  intro chosen
  cases select.kind with
  | filter =>
    cases Filter.ofName? chosen.label with
    | none => exact .refl _
    | some function =>
      cases chosen.arguments with
      | nil => exact .refl _
      | cons operand _ => exact (hx.resolveInput operand).bind fun input => .refl _
  | reducer => exact .refl _
  | operator category => exact .refl _

theorem lowerArgument (handle : Handle) :
    Persists (arena.lowerArgument handle) (later.lowerArgument handle) := by
  apply (hx.resolve handle).bind
  intro node
  cases node with
  | select select => exact hx.lowerArgumentSelect handle select
  | input input => exact .refl _
  | option chosen => exact .refl _

theorem lowerOperator (catalog : Catalog) (handle : Handle) :
    Persists (arena.lowerOperator catalog handle) (later.lowerOperator catalog handle) := by
  apply (hx.resolveSelect handle).bind
  intro select
  cases select.kind with
  | operator category =>
    apply (hx.resolveOption select.selected).bind
    intro chosen
    cases catalog.codeFor? category chosen.label with
    | none => exact .refl _
    | some code => exact (Persists.mapM hx.lowerArgument _).bind fun args => .refl _
  | filter => exact .refl _
  | reducer => exact .refl _

theorem lowerScript (catalog : Catalog) (script : List Handle) :
    Persists (arena.lowerScript catalog script) (later.lowerScript catalog script) :=
  .mapM (hx.lowerOperator catalog) script

end Extends

/-- The later arena starts like the earlier one, and whatever could be read from the earlier one
reads the same from it. -/
structure Undisturbed (arena later : Arena Node) : Prop where
  starts : arena.Extends later
  resolve? : ∀ (handle : Handle) (node : Node),
    arena.resolve? handle = some node → later.resolve? handle = some node
  view : ∀ (handle : Handle) (view : NodeView),
    arena.view handle = .ok view → later.view handle = .ok view
  viewScript : ∀ (script : List Handle) (views : List SelectView),
    arena.viewScript script = .ok views → later.viewScript script = .ok views
  lowerOperator : ∀ (catalog : Catalog) (handle : Handle) (operator : Operator),
    arena.lowerOperator catalog handle = .ok operator →
      later.lowerOperator catalog handle = .ok operator
  lowerScript : ∀ (catalog : Catalog) (handles : List Handle) (script : Script),
    arena.lowerScript catalog handles = .ok script →
      later.lowerScript catalog handles = .ok script

theorem Extends.undisturbed (hx : arena.Extends later) : arena.Undisturbed later where
  starts := hx
  resolve? := fun _ _ h => hx.resolve? h
  view := hx.view
  viewScript := hx.viewScript
  lowerOperator := hx.lowerOperator
  lowerScript := hx.lowerScript

end ScriptTree.Arena
