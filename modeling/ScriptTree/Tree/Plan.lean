import ScriptTree.Document.Basic
import ScriptTree.Tree.Node
/-!
# Plans

Before anything is inserted for a script, every operator of it is planned: its code is looked up,
and its raw arguments are matched to the declared ones. Whatever is wrong with a script shows here.
A plan also knows how many nodes it will take.
-/

namespace ScriptTree

/-- Counts add up from the literal zero, whatever algebra of numbers is in scope. -/
local instance zeroCount : Zero Nat := ⟨0⟩

/-- A raw argument matched to its declaration. -/
inductive ArgumentPlan where
  | input (input : Input)
  | filter (label : String) (filter : Filter) (operand : Json)
  | reducer (label : String) (reducer : Reducer)
deriving DecidableEq

/-- The number of nodes of an argument: a filter takes its operand, its option and its select, a
reducer its option and its select. -/
def ArgumentPlan.nodeCount : ArgumentPlan → Nat
  | .input _ => 1
  | .filter .. => 3
  | .reducer .. => 2

/-- An operator with its row, its output and its arguments. -/
structure OperatorPlan where
  row : Row
  output : Output
  arguments : List ArgumentPlan

namespace OperatorPlan

/-- The number of nodes below the select of an operator: the arguments and the chosen option. -/
def optionNodes (plan : OperatorPlan) : Nat :=
  1 + (plan.arguments.map ArgumentPlan.nodeCount).sum

/-- The number of nodes of an operator, its select included. -/
def nodeCount (plan : OperatorPlan) : Nat :=
  plan.optionNodes + 1

end OperatorPlan

/-- The number of nodes of a script. -/
def scriptNodes (plans : List OperatorPlan) : Nat :=
  (plans.map OperatorPlan.nodeCount).sum

/-! ## Planning -/

/-- The filter and the operand of a raw pair. -/
def planFilter (name : String) : Json → Except ArgumentFault (Filter × Json)
  | .array [tag, operand] =>
    match tag.word?.bind Filter.ofCode? with
    | some filter => .ok (filter, operand)
    | none => .error (.unknownFilter tag)
  | raw => .error (.notPair name raw)

/-- The reducer of a raw code. -/
def planReducer (raw : Json) : Except ArgumentFault Reducer :=
  match raw.word?.bind Reducer.ofCode? with
  | some reducer => .ok reducer
  | none => .error (.unknownReducer raw)

/-- Matches one raw argument to its declaration. -/
def planArgument (parameter : Parameter) (raw : Json) : Except ArgumentFault ArgumentPlan :=
  match parameter.kind with
  | .filter =>
    (planFilter parameter.name raw).map fun (filter, operand) =>
      .filter parameter.name filter operand
  | .reducer => (planReducer raw).map fun reducer => .reducer parameter.name reducer
  | kind => .ok (.input ⟨parameter.name, kind, raw⟩)

/-- Matches raw arguments to declarations from the position `index` on. -/
def planArgumentsFrom (code : OperatorCode) (index : Nat) :
    List Parameter → List Json → Except Fault (List ArgumentPlan)
  | parameter :: parameters, raw :: args => do
    let argument ← (planArgument parameter raw).mapError (.malformedArgument code index)
    let arguments ← planArgumentsFrom code (index + 1) parameters args
    return argument :: arguments
  | _, _ => .ok []

/-- Matches the raw arguments of a call to the declarations of a row. Trailing arguments may be
left out, but none may be added. -/
def planArguments (row : Row) (args : List Json) : Except Fault (List ArgumentPlan) :=
  if row.parameters.length < args.length then
    .error (.malformedArgument row.code row.parameters.length
      (.tooMany row.name row.parameters.length args.length))
  else planArgumentsFrom row.code 0 row.parameters args

namespace Catalog

/-- Plans one operator. -/
def planOperator (catalog : Catalog) (operator : Operator) : Except Fault OperatorPlan := do
  let (code, args) ← operator.decode
  let output ← catalog.output code
  let row ← catalog.row code
  let arguments ← planArguments row (args.getD [])
  return ⟨row, output, arguments⟩

/-- Plans the operators of a script in order. -/
def planScript (catalog : Catalog) (script : Script) : Except Fault (List OperatorPlan) :=
  script.mapM catalog.planOperator

/-- Plans every script of a document, in the order of the stages. -/
def planDocument (catalog : Catalog) (document : Document Script) :
    Except Fault (Document (List OperatorPlan)) :=
  document.mapM catalog.planScript

end Catalog

/-! ## Counts -/

/-- What a conversion will add to an arena. -/
structure Growth where
  sources : Nat
  operators : Nat
  nodes : Nat
deriving DecidableEq, Repr

/-- The growth of converting `sources` sources with the planned scripts. -/
def Growth.ofPlans (sources : Nat) (scripts : List (List OperatorPlan)) : Growth where
  sources := sources
  operators := (scripts.map List.length).sum
  nodes := (scripts.map scriptNodes).sum

end ScriptTree
