import ScriptTree.Operator.Basic
import ScriptTree.Tree.Node
/-!
# Lowering

The way back from a tree to a script. The label of a chosen operator gives its code through the
category of its select, the label of a chosen function gives the function's code, and an input gives
its value.
-/

namespace ScriptTree.Arena

variable (arena : Arena Node)

/-- The raw value of an argument select. -/
def lowerArgumentSelect (handle : Handle) (select : Select) : Except Fault Json := do
  let chosen ← arena.resolveOption select.selected
  match select.kind with
  | .filter =>
    match Filter.ofName? chosen.label with
    | none => throw (.unknownOption .filters chosen.label)
    | some filter =>
      match chosen.arguments with
      | [] => throw (.malformedTree (.noOperand handle))
      | operand :: _ =>
        let input ← arena.resolveInput operand
        return .array [.nat filter.code.toNat, input.value]
  | .reducer =>
    match Reducer.ofName? chosen.label with
    | none => throw (.unknownOption .reducers chosen.label)
    | some reducer => return .nat reducer.code.toNat
  | .operator _ => throw (.malformedTree (.nestedOperator handle))

/-- The raw value of an argument. -/
def lowerArgument (handle : Handle) : Except Fault Json := do
  match ← arena.resolve handle with
  | .input input => return input.value
  | .select select => arena.lowerArgumentSelect handle select
  | other => throw (unexpected handle [.select, .input] other)

/-- The operator of an operator select. -/
def lowerOperator (catalog : Catalog) (handle : Handle) : Except Fault Operator := do
  let select ← arena.resolveSelect handle
  match select.kind with
  | .operator category =>
    let chosen ← arena.resolveOption select.selected
    match catalog.codeFor? category chosen.label with
    | none => throw (.unknownOption (.operators category) chosen.label)
    | some code =>
      let args ← chosen.arguments.mapM arena.lowerArgument
      return .call code args
  | .filter | .reducer => throw (.malformedTree (.argumentSelect handle))

/-- The operators of a script. -/
def lowerScript (catalog : Catalog) (script : List Handle) : Except Fault Script :=
  script.mapM (arena.lowerOperator catalog)

end ScriptTree.Arena
