import ScriptTree.Tree.Node
/-!
# Views

A view is a tree with everything in place of its handle. It is made for looking at: edits go through
the arena.

A walk from a node of an arena meets each node of it at most once on the way down, unless nodes
refer to each other in a cycle. So the size of the arena bounds the depth of the walk, and a walk
that is still going on below that depth has found a cycle.
-/

namespace ScriptTree

mutual

/-- A select with its chosen option in place. -/
structure SelectView where
  role : Role
  kind : SelectKind
  label : Option String
  output : Output
  selected : OptionView
  options : List Choice

/-- A chosen option with its arguments in place. -/
structure OptionView where
  role : Role
  label : String
  output : Output
  arguments : List ArgumentView

/-- An argument of a chosen option. -/
inductive ArgumentView where
  | select (select : SelectView)
  | input (input : Input)

end

/-- A node with everything below it in place. -/
inductive NodeView where
  | select (select : SelectView)
  | option (chosen : OptionView)
  | input (input : Input)

/-- The view of a select around the view of its chosen option. -/
def Select.view (select : Select) (selected : OptionView) : SelectView :=
  ⟨select.kind.role, select.kind, select.label, select.output, selected, select.options⟩

/-- The view of a chosen option around the views of its arguments. -/
def Chosen.view (chosen : Chosen) (arguments : List ArgumentView) : OptionView :=
  ⟨.selectedOperatorOption, chosen.label, chosen.output, arguments⟩

namespace Arena

variable (arena : Arena Node)

/-- The view of a chosen option, walking down through at most `depth` options. -/
def viewOption : (depth : Nat) → Chosen → Except Fault OptionView
  | 0, _ => .error (.malformedTree .cyclic)
  | depth + 1, chosen => do
    let arguments ← chosen.arguments.mapM fun handle => do
      match ← arena.resolve handle with
      | .select select =>
        let below ← arena.resolveOption select.selected
        return .select (select.view (← viewOption depth below))
      | .input input => return .input input
      | other => throw (unexpected handle [.select, .input] other)
    return chosen.view arguments

/-- The depth below which a walk has met some node twice. -/
def depthLimit : Nat :=
  arena.size + 1

/-- The view of a select that refers into the arena. -/
def viewSelectNode (select : Select) : Except Fault SelectView := do
  let chosen ← arena.resolveOption select.selected
  return select.view (← arena.viewOption arena.depthLimit chosen)

/-- The view of any node. -/
def view (handle : Handle) : Except Fault NodeView := do
  match ← arena.resolve handle with
  | .select select => return .select (← arena.viewSelectNode select)
  | .option chosen => return .option (← arena.viewOption arena.depthLimit chosen)
  | .input input => return .input input

/-- The view of a select. -/
def viewSelect (handle : Handle) : Except Fault SelectView := do
  arena.viewSelectNode (← arena.resolveSelect handle)

/-- The views of the selects of a script. -/
def viewScript (script : List Handle) : Except Fault (List SelectView) :=
  script.mapM arena.viewSelect

end Arena

end ScriptTree
