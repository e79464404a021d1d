import ScriptTree.Tree.Plan
/-!
# Generating trees

A planned operator is inserted bottom up: its arguments, the chosen option, the select. So every
handle in a node is smaller than the node's own. Generating checks the room for all planned nodes
first, and then every insertion succeeds; a fault leaves the arena as it was. The `commit` functions
insert without that check, and leave behind what fitted in.
-/

namespace ScriptTree

/-- Steps on an arena that may end in a fault. The arena stays as the last step left it. -/
abbrev Building := ExceptT Fault (StateM (Arena Node))

namespace Building

/-- Inserts a node. -/
def insert (node : Node) : Building Handle :=
  ExceptT.mk fun arena => arena.insert node

/-- Fails unless `count` more nodes fit in. -/
def ensureRoom (count : Nat) : Building Unit :=
  ExceptT.mk fun arena => (arena.ensureRoom count, arena)

/-- A result that does not depend on the arena. -/
def require {α : Type} (result : Except Fault α) : Building α :=
  ExceptT.mk fun arena => (result, arena)

end Building

open Building

/-! ## Committing plans -/

/-- The label of the operand under a filter. -/
def operandLabel : String := "by"

/-- Inserts the nodes of an argument. -/
def commitArgument : ArgumentPlan → Building Handle
  | .input input => insert (.input input)
  | .filter label filter operand => do
    let operand ← insert (.input ⟨operandLabel, .ofLiteral operand, operand⟩)
    let selected ← insert (.option ⟨filter.name, .one .bytes, [operand]⟩)
    insert (.select ⟨.filter, some label, .one .bytes, selected, Filter.options⟩)
  | .reducer label reducer => do
    let selected ← insert (.option ⟨reducer.name, .one .bytes, []⟩)
    insert (.select ⟨.reducer, some label, .one .integer, selected, Reducer.options⟩)

/-- Inserts the arguments of an operator, and gives its chosen option. -/
def commitOption (plan : OperatorPlan) : Building Chosen := do
  let arguments ← plan.arguments.mapM commitArgument
  return ⟨plan.row.name, plan.output, arguments⟩

namespace Catalog

/-- Inserts the chosen option of an operator, and gives its select. -/
def commitOperator (catalog : Catalog) (plan : OperatorPlan) : Building Select := do
  let chosen ← commitOption plan
  let selected ← insert (.option chosen)
  return ⟨.operator plan.row.category, none, plan.output, selected,
    catalog.options plan.row.category⟩

/-- Inserts an operator with its select. -/
def commitSelect (catalog : Catalog) (plan : OperatorPlan) : Building Handle := do
  let select ← catalog.commitOperator plan
  insert (.select select)

/-- Inserts the operators of a script in order. -/
def commitScript (catalog : Catalog) (plans : List OperatorPlan) : Building (List Handle) :=
  plans.mapM catalog.commitSelect

/-! ## Generating -/

/-- Inserts the tree of a script. -/
def generateScript (catalog : Catalog) (script : Script) : Building (List Handle) := do
  let plans ← require (catalog.planScript script)
  ensureRoom (scriptNodes plans)
  catalog.commitScript plans

/-- Inserts everything below the select of an operator, and gives the select. -/
def generateOperator (catalog : Catalog) (operator : Operator) : Building Select := do
  let plan ← require (catalog.planOperator operator)
  ensureRoom plan.optionNodes
  catalog.commitOperator plan

/-- Inserts the arguments of an operator whose row is `row`, and gives its chosen option with the
output of `code`. -/
def generateOption (catalog : Catalog) (row : Row) (code : OperatorCode) (args : List Json) :
    Building Chosen := do
  let output ← require (catalog.output code)
  let arguments ← require (planArguments row args)
  let plan : OperatorPlan := ⟨row, output, arguments⟩
  ensureRoom (plan.optionNodes - 1)
  commitOption plan

/-- Inserts the trees of every script of a document. -/
def generateDocument (catalog : Catalog) (document : Document Script) :
    Building (Document (List Handle)) := do
  let plans ← require (catalog.planDocument document)
  ensureRoom (Growth.ofPlans plans.retrieve.length plans.scripts).nodes
  plans.mapM catalog.commitScript

end Catalog

end ScriptTree
