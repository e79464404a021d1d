import ScriptTree.Digest.Blake3
import ScriptTree.Editor.Basic
import ScriptTree.Form.Node
import ScriptTree.Form.Script
/-!
# JSON forms of views and editors

Views are written like nodes, with the parts in place of their handles and a role in front. Their
fields stand in one fixed order, because the text of a document's view is what its fingerprint is
taken of.

Views nest to any depth. Every level of reading goes down into the value, so the depth of the value
bounds the depth of reading.

An editor shows its document as a tree, whose fingerprint tells whether an edit changed anything to
be seen, or with handles beside the nodes of its arena.
-/

namespace ScriptTree

open Decode

/-! ## Writing -/

mutual

/-- The fields of the view of a select. -/
def SelectView.fields : SelectView → List (String × Json)
  | ⟨role, kind, label, output, selected, options⟩ =>
    ("hierarchicalType", role.toJson) :: ("kind", kind.toJson) :: labelField label ++
      [("outputType", output.toJson), ("selected", .object selected.fields),
        ("options", .array (options.map Choice.toJson))]

/-- The fields of the view of a chosen option. -/
def OptionView.fields : OptionView → List (String × Json)
  | ⟨role, label, output, arguments⟩ =>
    [("hierarchicalType", role.toJson), ("label", .string label), ("outputType", output.toJson),
      ("arguments", .array (argumentsToJson arguments))]

/-- An argument under the tag of nodes. -/
def ArgumentView.toJson : ArgumentView → Json
  | .select s => underTag .select s.fields
  | .input i => underTag .input i.fields

/-- Arguments under the tag of nodes. -/
def argumentsToJson : List ArgumentView → List Json
  | [] => []
  | argument :: arguments => argument.toJson :: argumentsToJson arguments

end

/-- The view of a select, without a tag. -/
def SelectView.toJson (select : SelectView) : Json :=
  .object select.fields

/-- The view of a chosen option, without a tag. -/
def OptionView.toJson (chosen : OptionView) : Json :=
  .object chosen.fields

/-- The view of a node under its tag. -/
def NodeView.toJson : NodeView → Json
  | .select s => underTag .select s.fields
  | .option o => underTag .option o.fields
  | .input i => underTag .input i.fields

/-! ## Reading -/

/-- Reads the view of a select, given how its chosen option is read. -/
def SelectView.decodeWith (option : Decoder OptionView) : Decoder SelectView :=
  fun passage json => do
    let expected := "struct ExpandedSelect"
    let record ← record expected json
    let role := record.required passage 0 "hierarchicalType" Role.decode
    let kind := record.required passage 1 "kind" SelectKind.decode
    let label := record.optional passage 2 "label" none (Decode.option string)
    let output := record.required passage 3 "outputType" Output.decode
    let selected := record.required passage 4 "selected" option
    let options := record.required passage 5 "options" (list Choice.decode)
    record.settle passage expected
      [role.fault?, kind.fault?, label.fault?, output.fault?, selected.fault?, options.fault?]
    return ⟨← role.value, ← kind.value, ← label.value, ← output.value, ← selected.value,
      ← options.value⟩

/-- Reads the view of a chosen option, given how its arguments are read. -/
def OptionView.decodeWith (argument : Decoder ArgumentView) : Decoder OptionView :=
  fun passage json => do
    let expected := "struct ExpandedOption"
    let record ← record expected json
    let role := record.required passage 0 "hierarchicalType" Role.decode
    let label := record.required passage 1 "label" string
    let output := record.required passage 2 "outputType" Output.decode
    let arguments := record.required passage 3 "arguments" (list argument)
    record.settle passage expected
      [role.fault?, label.fault?, output.fault?, arguments.fault?]
    return ⟨← role.value, ← label.value, ← output.value, ← arguments.value⟩

/-- Reads an argument, given how the chosen option of a select is read. -/
def ArgumentView.decodeWith (option : Decoder OptionView) : Decoder ArgumentView :=
  fun passage json => do
    match ← tagged "ExpandedArgument" "markupType" ["select", "input"] passage json with
    | (0, body) => return .select (← SelectView.decodeWith option .held body)
    | (_, body) => return .input (← Input.decode .held body)

/-- Reads the view of a chosen option that nests at most `depth` levels of options. -/
def OptionView.decodeTo : (depth : Nat) → Decoder OptionView
  | 0 => fun _ json => wrongType json "struct ExpandedOption"
  | depth + 1 =>
    OptionView.decodeWith (ArgumentView.decodeWith (OptionView.decodeTo depth))

/-- Reads the view of a chosen option. -/
def OptionView.decode : Decoder OptionView := fun passage json =>
  OptionView.decodeTo (json.depth) passage json

/-- Reads the view of a select. -/
def SelectView.decode : Decoder SelectView :=
  SelectView.decodeWith OptionView.decode

/-- Reads the view of a node. -/
def NodeView.decode : Decoder NodeView := fun passage json => do
  match ← tagged "ExpandedNode" "markupType" ["select", "option", "input"] passage json with
  | (0, body) => return .select (← SelectView.decode .held body)
  | (1, body) => return .option (← OptionView.decode .held body)
  | (_, body) => return .input (← Input.decode .held body)

/-- The form of documents with views. -/
def Document.views : Document.Layout (List SelectView) where
  encode := fun script => .array (script.map SelectView.toJson)
  decode := list SelectView.decode
  documentName := "struct Markup"
  requestName := "struct MarkupRequest"
  sourceName := "struct MarkupSource"
  missingText := none
  missingTime := none
  missingScript := none

/-! ## Editors -/

/-- The nodes of an arena with their handles. -/
def Arena.toJson (arena : Arena Node) : Json :=
  .array (arena.toList.map fun (handle, node) =>
    .object [("id", .nat handle.id.toNat), ("node", node.toJson)])

namespace Editor

/-- The view of the document as a record. -/
def viewToJson (editor : Editor) : Except Fault Json :=
  editor.view.map (Document.toJson Document.views)

/-- The fingerprint of the view of the document. -/
def fingerprint (editor : Editor) : Except Fault String :=
  editor.viewToJson.map Json.fingerprint

/-- The document with handles, and the nodes of the arena. -/
def cachedToJson (editor : Editor) : Json :=
  .object [("document", Document.toJson Document.handles editor.document),
    ("cache", editor.arena.toJson)]

end Editor

end ScriptTree
