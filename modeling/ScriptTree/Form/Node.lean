import ScriptTree.Form.Type
import ScriptTree.Tree.Node
/-!
# JSON forms of nodes

A node is a record under the tag `markupType`, and the kind of a select is a record under the tag
`type`. A select without a label leaves the label out.
-/

namespace ScriptTree

open Decode

/-! ## Kinds -/

/-- A role is written as its name. -/
def Role.toJson (role : Role) : Json :=
  .string role.name

/-- Reads a role. -/
def Role.decode : Decoder Role :=
  variant Role.all Role.name

/-- The kind of a select, under its tag. -/
def SelectKind.toJson : SelectKind → Json
  | .operator category =>
    .object [("type", .string "operator"), ("category", category.toJson)]
  | .filter => .object [("type", .string "filter")]
  | .reducer => .object [("type", .string "reducer")]

/-- Reads the kind of a select. -/
def SelectKind.decode : Decoder SelectKind := fun passage json => do
  match ← tagged "SelectKind" "type" ["operator", "filter", "reducer"] passage json with
  | (0, body) =>
    let expected := "struct variant SelectKind::Operator"
    let record ← record expected body
    let category := record.required .held 0 "category" ValueType.decode
    record.settle .held expected [category.fault?]
    return .operator (← category.value)
  | (1, body) =>
    nothing body
    return .filter
  | (_, body) =>
    nothing body
    return .reducer

/-! ## Parts of nodes -/

/-- An option that a select offers. -/
def Choice.toJson (choice : Choice) : Json :=
  .object [("label", .string choice.label), ("outputType", choice.output.toJson)]

/-- Reads an option that a select offers. -/
def Choice.decode : Decoder Choice := fun passage json => do
  let expected := "struct OperatorOption"
  let record ← record expected json
  let label := record.required passage 0 "label" string
  let output := record.required passage 1 "outputType" Output.decode
  record.settle passage expected [label.fault?, output.fault?]
  return ⟨← label.value, ← output.value⟩

/-- The field of a label, if there is a label. -/
def labelField : Option String → List (String × Json)
  | some label => [("label", .string label)]
  | none => []

/-- The fields of a select. -/
def Select.fields (select : Select) : List (String × Json) :=
  ("kind", select.kind.toJson) :: labelField select.label ++
    [("outputType", select.output.toJson), ("selected", select.selected.toJson),
      ("options", .array (select.options.map Choice.toJson))]

/-- Reads a select. -/
def Select.decode : Decoder Select := fun passage json => do
  let expected := "struct MarkupSelect"
  let record ← record expected json
  let kind := record.required passage 0 "kind" SelectKind.decode
  let label := record.optional passage 1 "label" none (option string)
  let output := record.required passage 2 "outputType" Output.decode
  let selected := record.required passage 3 "selected" Handle.decode
  let options := record.required passage 4 "options" (list Choice.decode)
  record.settle passage expected
    [kind.fault?, label.fault?, output.fault?, selected.fault?, options.fault?]
  return ⟨← kind.value, ← label.value, ← output.value, ← selected.value, ← options.value⟩

/-- The fields of a chosen option. -/
def Chosen.fields (chosen : Chosen) : List (String × Json) :=
  [("label", .string chosen.label), ("outputType", chosen.output.toJson),
    ("arguments", .array (chosen.arguments.map Handle.toJson))]

/-- Reads a chosen option. -/
def Chosen.decode : Decoder Chosen := fun passage json => do
  let expected := "struct SelectedOption"
  let record ← record expected json
  let label := record.required passage 0 "label" string
  let output := record.required passage 1 "outputType" Output.decode
  let arguments := record.required passage 2 "arguments" (list Handle.decode)
  record.settle passage expected [label.fault?, output.fault?, arguments.fault?]
  return ⟨← label.value, ← output.value, ← arguments.value⟩

/-- The fields of an input. -/
def Input.fields (input : Input) : List (String × Json) :=
  [("label", .string input.label), ("kind", input.kind.toJson), ("value", input.value)]

/-- Reads an input. -/
def Input.decode : Decoder Input := fun passage json => do
  let expected := "struct MarkupInput"
  let record ← record expected json
  let label := record.required passage 0 "label" string
  let kind := record.required passage 1 "kind" ArgumentKind.decode
  let value := record.required passage 2 "value" raw
  record.settle passage expected [label.fault?, kind.fault?, value.fault?]
  return ⟨← label.value, ← kind.value, ← value.value⟩

/-- A select without a tag. -/
def Select.toJson (select : Select) : Json :=
  .object select.fields

/-- A chosen option without a tag. -/
def Chosen.toJson (chosen : Chosen) : Json :=
  .object chosen.fields

/-- An input without a tag. -/
def Input.toJson (input : Input) : Json :=
  .object input.fields

/-! ## Nodes -/

/-- Fields under the tag of nodes. -/
def underTag (kind : NodeKind) (fields : List (String × Json)) : Json :=
  .object (("markupType", .string kind.name) :: fields)

/-- A node under its tag. -/
def Node.toJson : Node → Json
  | .select s => underTag .select s.fields
  | .option o => underTag .option o.fields
  | .input i => underTag .input i.fields

/-- Reads a node. -/
def Node.decode : Decoder Node := fun passage json => do
  match ← tagged "MarkupNode" "markupType" ["select", "option", "input"] passage json with
  | (0, body) => return .select (← Select.decode .held body)
  | (1, body) => return .option (← Chosen.decode .held body)
  | (_, body) => return .input (← Input.decode .held body)

end ScriptTree
