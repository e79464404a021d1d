import ScriptTree.Proofs.Arena.Growth
import ScriptTree.Tree.Generate
/-!
# Layouts

Where the nodes of a plan go. The layout of a plan behind a position is the list of its nodes, in
the order in which they are inserted, and what the insertion gives: every handle in it is counted
from the position. Nothing here looks at an arena, and numbers do not end.

Main statement: a layout has as many nodes as its plan says (`OperatorPlan.length_layout` and the
like), so the room that is checked before a script is inserted is the room that it takes.
-/

namespace ScriptTree

attribute [local instance] zeroCount

/-- Nodes for consecutive handles, and the value that goes with them. -/
structure Layout (α : Type) where
  nodes : List Node
  value : α

/-- The layouts of items, one behind the other. -/
def Layout.all {α β : Type} (lay : Nat → α → Layout β) (next : Nat) : List α → Layout (List β)
  | [] => ⟨[], []⟩
  | item :: items =>
    let first := lay next item
    let rest := all lay (next + first.nodes.length) items
    ⟨first.nodes ++ rest.nodes, first.value :: rest.value⟩

theorem Layout.length_all {α β : Type} {lay : Nat → α → Layout β} {count : α → Nat}
    (h : ∀ next item, (lay next item).nodes.length = count item) (next : Nat) (items : List α) :
    (Layout.all lay next items).nodes.length = (items.map count).sum := by
  induction items generalizing next with
  | nil => rfl
  | cons item items ih =>
    simp only [all, List.length_append, List.map_cons, List.sum_cons]
    rw [h, ih]

theorem Layout.length_value_all {α β : Type} (lay : Nat → α → Layout β) (next : Nat)
    (items : List α) : (Layout.all lay next items).value.length = items.length := by
  induction items generalizing next with
  | nil => rfl
  | cons item items ih => exact congrArg (· + 1) (ih _)

/-- The layouts of more items lie behind those of the first ones. -/
theorem Layout.all_append {α β : Type} (lay : Nat → α → Layout β) (next : Nat) (xs ys : List α) :
    Layout.all lay next (xs ++ ys) =
      ⟨(Layout.all lay next xs).nodes ++
          (Layout.all lay (next + (Layout.all lay next xs).nodes.length) ys).nodes,
        (Layout.all lay next xs).value ++
          (Layout.all lay (next + (Layout.all lay next xs).nodes.length) ys).value⟩ := by
  induction xs generalizing next with
  | nil => rfl
  | cons x xs ih =>
    simp only [List.cons_append, all, ih, List.length_append, Nat.add_assoc, List.append_assoc]

/-! ## Arguments -/

/-- A filter lies as its operand, its option and its select, a reducer as its option and its
select. -/
def ArgumentPlan.layout (next : Nat) : ArgumentPlan → Layout Handle
  | .input literal => ⟨[.input literal], .ofNat next⟩
  | .filter label function operand =>
    ⟨[.input ⟨operandLabel, .ofLiteral operand, operand⟩,
      .option ⟨function.name, .one .bytes, [.ofNat next]⟩,
      .select ⟨.filter, some label, .one .bytes, .ofNat (next + 1), Filter.options⟩],
      .ofNat (next + 2)⟩
  | .reducer label function =>
    ⟨[.option ⟨function.name, .one .bytes, []⟩,
      .select ⟨.reducer, some label, .one .integer, .ofNat next, Reducer.options⟩],
      .ofNat (next + 1)⟩

theorem ArgumentPlan.length_layout (next : Nat) (plan : ArgumentPlan) :
    (plan.layout next).nodes.length = plan.nodeCount := by
  cases plan <;> rfl

/-! ## Operators -/

namespace OperatorPlan

/-- The arguments of an operator, with its chosen option. -/
def optionLayout (next : Nat) (plan : OperatorPlan) : Layout Chosen :=
  let arguments := Layout.all ArgumentPlan.layout next plan.arguments
  ⟨arguments.nodes, ⟨plan.row.name, plan.output, arguments.value⟩⟩

/-- The chosen option of an operator behind its arguments, with its select. -/
def selectLayout (catalog : Catalog) (next : Nat) (plan : OperatorPlan) : Layout Select :=
  let option := plan.optionLayout next
  ⟨option.nodes ++ [.option option.value],
    ⟨.operator plan.row.category, none, plan.output, .ofNat (next + option.nodes.length),
      catalog.options plan.row.category⟩⟩

/-- An operator with its select behind everything else. -/
def layout (catalog : Catalog) (next : Nat) (plan : OperatorPlan) : Layout Handle :=
  let select := plan.selectLayout catalog next
  ⟨select.nodes ++ [.select select.value], .ofNat (next + select.nodes.length)⟩

theorem length_optionLayout (next : Nat) (plan : OperatorPlan) :
    (plan.optionLayout next).nodes.length = plan.optionNodes - 1 := by
  rw [optionLayout, Layout.length_all ArgumentPlan.length_layout, optionNodes]
  omega

theorem length_selectLayout (catalog : Catalog) (next : Nat) (plan : OperatorPlan) :
    (plan.selectLayout catalog next).nodes.length = plan.optionNodes := by
  have hpos : 1 ≤ plan.optionNodes := Nat.le_add_right ..
  simp only [selectLayout, List.length_append, length_optionLayout, List.length_singleton]
  omega

theorem length_layout (catalog : Catalog) (next : Nat) (plan : OperatorPlan) :
    (plan.layout catalog next).nodes.length = plan.nodeCount := by
  simp only [layout, List.length_append, length_selectLayout, List.length_singleton, nodeCount]

end OperatorPlan

/-! ## Scripts and documents -/

namespace Catalog

/-- The operators of a script, one behind the other. -/
def scriptLayout (catalog : Catalog) (next : Nat) (plans : List OperatorPlan) :
    Layout (List Handle) :=
  Layout.all (OperatorPlan.layout catalog) next plans

/-- The script of a source, with its address. -/
def sourceLayout (catalog : Catalog) (next : Nat) (source : Source (List OperatorPlan)) :
    Layout (Source (List Handle)) :=
  let script := catalog.scriptLayout next source.script
  ⟨script.nodes, ⟨source.url, script.value⟩⟩

/-- The scripts of a document in the order of the stages. -/
def documentLayout (catalog : Catalog) (next : Nat) (document : Document (List OperatorPlan)) :
    Layout (Document (List Handle)) :=
  let retrieve := Layout.all catalog.sourceLayout next document.retrieve
  let aggregate := catalog.scriptLayout (next + retrieve.nodes.length) document.aggregate
  let tally :=
    catalog.scriptLayout (next + retrieve.nodes.length + aggregate.nodes.length) document.tally
  ⟨retrieve.nodes ++ (aggregate.nodes ++ tally.nodes),
    ⟨document.name, document.description, document.notBefore, retrieve.value, aggregate.value,
      tally.value⟩⟩

theorem length_scriptLayout (catalog : Catalog) (next : Nat) (plans : List OperatorPlan) :
    (catalog.scriptLayout next plans).nodes.length = scriptNodes plans :=
  Layout.length_all (OperatorPlan.length_layout catalog) next plans

theorem length_documentLayout (catalog : Catalog) (next : Nat)
    (document : Document (List OperatorPlan)) :
    (catalog.documentLayout next document).nodes.length =
      (Growth.ofPlans document.retrieve.length document.scripts).nodes := by
  have hsource : ∀ next source,
      (catalog.sourceLayout next source).nodes.length = scriptNodes source.script :=
    fun next source => catalog.length_scriptLayout next source.script
  simp only [documentLayout, List.length_append, Layout.length_all hsource, length_scriptLayout,
    Growth.ofPlans, Document.scripts, List.map_append, List.map_map, List.sum_append,
    List.map_cons, List.map_nil, List.sum_cons, List.sum_nil]
  rfl

end Catalog

end ScriptTree
