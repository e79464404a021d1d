import ScriptTree.Proofs.Operator.Call
import ScriptTree.Tree.View
/-!
# Renderings

How a script is presented, said from the catalog and the script alone. An operator is a choice
among the operators of its category, and each of its raw arguments is presented under the
declaration in the same place: a filter and a reducer as a choice among the functions of their kind,
everything else as an input. No arena and no handle appears here.

Main statement: an operator and its normal form are presented alike
(`Catalog.renderOperator_normalized`).
-/

namespace ScriptTree

/-- The view of a filter with its operand, as the argument with a name. -/
def Filter.view (function : Filter) (name : String) (operand : Json) : SelectView where
  role := .argument
  kind := .filter
  label := some name
  output := .one .bytes
  selected := ⟨.selectedOperatorOption, function.name, .one .bytes,
    [.input ⟨"by", .ofLiteral operand, operand⟩]⟩
  options := Filter.all.map fun choice => ⟨choice.name, .one .bytes⟩

/-- The view of a reducer, as the argument with a name. -/
def Reducer.view (function : Reducer) (name : String) : SelectView where
  role := .argument
  kind := .reducer
  label := some name
  output := .one .integer
  selected := ⟨.selectedOperatorOption, function.name, .one .bytes, []⟩
  options := Reducer.all.map fun choice => ⟨choice.name, .one .bytes⟩

/-- The view of an operator, around the views of its arguments. -/
def Catalog.rowView (catalog : Catalog) (row : Row) (arguments : List ArgumentView) :
    SelectView where
  role := .operator
  kind := .operator row.category
  label := none
  output := row.resolved
  selected := ⟨.selectedOperatorOption, row.name, row.resolved, arguments⟩
  options := (catalog.entries row.category).map fun entry => ⟨entry.name, entry.output⟩

/-! ## From raw values -/

/-- How a raw value is presented under a declaration: for a filter a pair of a function's code and
an operand, for a reducer a function's code, and otherwise the value as it is. -/
def Parameter.render (parameter : Parameter) (raw : Json) : Option ArgumentView :=
  match parameter.kind with
  | .filter =>
    match raw with
    | .array [tag, operand] => do
      let function ← Filter.all.find? fun function => tag = .nat function.code.toNat
      return .select (function.view parameter.name operand)
    | _ => none
  | .reducer => do
    let function ← Reducer.all.find? fun function => raw = .nat function.code.toNat
    return .select (function.view parameter.name)
  | kind => some (.input ⟨parameter.name, kind, raw⟩)

/-- How raw arguments are presented under the first of the declarations, one by one. -/
def renderArguments : List Parameter → List Json → Option (List ArgumentView)
  | _, [] => some []
  | [], _ :: _ => none
  | parameter :: parameters, raw :: args => do
    let argument ← parameter.render raw
    let arguments ← renderArguments parameters args
    return argument :: arguments

namespace Catalog

/-- How an operator is presented. -/
def renderOperator (catalog : Catalog) (operator : Operator) : Option SelectView := do
  let (code, args) ← operator.decoded.toOption
  let row ← (catalog.row code).toOption
  let arguments ← renderArguments row.parameters args
  return catalog.rowView row arguments

/-- How a script is presented: its operators in order. -/
def renderScript (catalog : Catalog) (script : Script) : Option (List SelectView) :=
  script.mapM catalog.renderOperator

theorem renderOperator_normalized (catalog : Catalog) (operator : Operator) :
    catalog.renderOperator operator.normalized = catalog.renderOperator operator := by
  rw [renderOperator, renderOperator, Operator.decoded_normalized]

theorem renderScript_normalized (catalog : Catalog) (script : Script) :
    catalog.renderScript (script.map Operator.normalized) = catalog.renderScript script := by
  have hoperators : catalog.renderOperator ∘ Operator.normalized = catalog.renderOperator :=
    funext catalog.renderOperator_normalized
  rw [renderScript, List.mapM_map, hoperators, renderScript]

end Catalog

end ScriptTree
