import ScriptTree.Arena.Basic
import ScriptTree.Catalog.Basic
/-!
# Nodes

The nodes of a tree of choices. A select offers options and holds the handle of the option that is
chosen; the chosen option holds the handles of its arguments, which are inputs or further selects.

An operator select offers every operator of its category. The arguments of kind `filter` and
`reducer` are selects too, which offer the functions of that kind.
-/

namespace ScriptTree

/-- What a select chooses between. -/
inductive SelectKind where
  | operator (category : ValueType)
  | filter
  | reducer
deriving DecidableEq, Repr

/-- The place of a part in the presented tree. -/
inductive Role where
  | operator
  | argument
  | operatorOption
  | selectedOperatorOption
deriving DecidableEq, Repr

namespace Role

/-- Every role. -/
def all : List Role :=
  [.operator, .argument, .operatorOption, .selectedOperatorOption]

/-- The name of a role. -/
def name : Role → String
  | .operator => "operator"
  | .argument => "argument"
  | .operatorOption => "operatorOption"
  | .selectedOperatorOption => "selectedOperatorOption"

end Role

/-- The role of a select. -/
def SelectKind.role : SelectKind → Role
  | .operator _ => .operator
  | .filter | .reducer => .argument

/-- One of the options that a select offers. -/
structure Choice where
  label : String
  output : Output
deriving DecidableEq

/-- A choice between options; an argument select is labelled with the name of its argument. -/
structure Select where
  kind : SelectKind
  label : Option String
  output : Output
  selected : Handle
  options : List Choice
deriving DecidableEq

/-- The chosen option of a select, with the handles of its arguments. -/
structure Chosen where
  label : String
  output : Output
  arguments : List Handle
deriving DecidableEq

/-- A literal. -/
structure Input where
  label : String
  kind : ArgumentKind
  value : Json
deriving DecidableEq

/-- A node of a tree. -/
inductive Node where
  | select (select : Select)
  | option (chosen : Chosen)
  | input (input : Input)
deriving DecidableEq

/-- The kind of a node. -/
def Node.kind : Node → NodeKind
  | .select _ => .select
  | .option _ => .option
  | .input _ => .input

/-! ## Options -/

/-- Every operator of a category, in the order of the rows. -/
def Catalog.options (catalog : Catalog) (category : ValueType) : List Choice :=
  (catalog.entries category).map fun entry => ⟨entry.name, entry.output⟩

/-- Every filter, in the order in which they are offered. -/
def Filter.options : List Choice :=
  Filter.all.map fun filter => ⟨filter.name, .one .bytes⟩

/-- Every reducer, in the order in which they are offered. -/
def Reducer.options : List Choice :=
  Reducer.all.map fun reducer => ⟨reducer.name, .one .bytes⟩

/-! ## Nodes of a known kind -/

/-- The select that a node is. -/
def Node.select? : Node → Option Select
  | .select found => some found
  | _ => none

/-- The chosen option that a node is. -/
def Node.option? : Node → Option Chosen
  | .option found => some found
  | _ => none

/-- The input that a node is. -/
def Node.input? : Node → Option Input
  | .input found => some found
  | _ => none

namespace Arena

/-- The fault of finding a node where others are expected. -/
def unexpected (handle : Handle) (expected : List NodeKind) (found : Node) : Fault :=
  .unexpectedNode handle expected found.kind

/-- What a node of the expected kind under a handle is, where `part?` takes nodes of that kind. -/
def resolveAs {α : Type} (arena : Arena Node) (expected : NodeKind) (part? : Node → Option α)
    (handle : Handle) : Except Fault α := do
  let node ← arena.resolve handle
  match part? node with
  | some part => return part
  | none => throw (unexpected handle [expected] node)

/-- The select under a handle. -/
def resolveSelect (arena : Arena Node) : Handle → Except Fault Select :=
  arena.resolveAs .select Node.select?

/-- The chosen option under a handle. -/
def resolveOption (arena : Arena Node) : Handle → Except Fault Chosen :=
  arena.resolveAs .option Node.option?

/-- The input under a handle. -/
def resolveInput (arena : Arena Node) : Handle → Except Fault Input :=
  arena.resolveAs .input Node.input?

end Arena

end ScriptTree
