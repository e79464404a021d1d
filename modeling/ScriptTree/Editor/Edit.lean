import ScriptTree.Editor.Basic
/-!
# Edits

Each edit addresses one position. An edit of an operator generates the operator anew and puts the
fresh handle in the place of the old one; the other positions keep theirs. An edit that ends in a
fault leaves the editor as it was.
-/

namespace ScriptTree.Editor

open Editing

/-- Inserts the tree of one operator. -/
def insertOperator (operator : Operator) : Editing Handle := do
  let editor ← get
  onArena do
    let plan ← Building.require (editor.catalog.planOperator operator)
    Building.ensureRoom plan.nodeCount
    editor.catalog.commitSelect plan

/-! ## Operators -/

/-- Changes the script of a stage. The stage is looked up once more for it, whatever was found out
about it before. -/
def amendScript (stage : Stage) (change : List Handle → List Handle) : Editing Unit := do
  let _ ← ask fun editor => editor.script stage
  amend fun document => document.modify stage change

/-- Generates the operator at a position from its compact form. -/
def replaceOperator (stage : Stage) (index : Nat) (operator : Operator) : Editing Handle := do
  let _ ← ask fun editor => editor.handle stage index
  let fresh ← insertOperator operator
  amendScript stage fun script => script.set index fresh
  return fresh

/-- Appends an operator to a stage. -/
def pushOperator (stage : Stage) (operator : Operator) : Editing Handle := do
  let _ ← ask fun editor => editor.script stage
  let fresh ← insertOperator operator
  amendScript stage fun script => script ++ [fresh]
  return fresh

/-- Takes an operator out of a stage, and gives its handle. -/
def removeOperator (stage : Stage) (index : Nat) : Editing Handle := do
  let handle ← ask fun editor => editor.handle stage index
  amendScript stage fun script => script.eraseIdx index
  return handle

/-- The arguments that a freshly selected operator starts with: the defaults of the declared ones up
to the first optional one. -/
def seeds (row : Row) : List Json :=
  (row.parameters.takeWhile fun parameter => !parameter.optional).map fun parameter =>
    parameter.kind.defaultValue

/-- The call that selecting an option makes at a position. -/
def selection (editor : Editor) (stage : Stage) (index : Nat) (label : String) :
    Except Fault Operator := do
  let handle ← editor.handle stage index
  let select ← editor.arena.resolveSelect handle
  match select.kind with
  | .operator category =>
    match editor.catalog.codeFor? category label with
    | none => throw (.unknownOption (.operators category) label)
    | some code =>
      let row ← editor.catalog.row code
      return .call code (seeds row)
  | .filter | .reducer => throw (.malformedTree (.notOperatorSelect stage index))

/-- Chooses another option of the select at a position. -/
def selectOperator (stage : Stage) (index : Nat) (label : String) : Editing Handle := do
  let operator ← ask fun editor => editor.selection stage index label
  replaceOperator stage index operator

/-- The arguments of a call, filled up with defaults so that there is one at `index`. -/
def padded (row : Row) (args : List Json) (index : Nat) : List Json :=
  args ++ ((row.parameters.drop args.length).take (index + 1 - args.length)).map fun parameter =>
    parameter.kind.defaultValue

/-- The call that setting an argument makes at a position. -/
def updated (editor : Editor) (stage : Stage) (index argument : Nat) (value : Json) :
    Except Fault Operator := do
  let handle ← editor.handle stage index
  let current ← editor.arena.lowerOperator editor.catalog handle
  let (code, args) ← current.decode
  let row ← editor.catalog.row code
  if row.parameters.length ≤ argument then
    throw (.outOfRange (.noArgument row.name row.parameters.length argument))
  return .call code ((padded row (args.getD []) argument).set argument value)

/-- Sets one argument of the operator at a position. -/
def updateArgument (stage : Stage) (index argument : Nat) (value : Json) : Editing Handle := do
  let operator ← ask fun editor => editor.updated stage index argument value
  replaceOperator stage index operator

/-! ## Sources -/

/-- Appends a source with an empty script, and gives its index. -/
def addSource (url : String) : Editing Nat := do
  amend fun document => { document with retrieve := document.retrieve ++ [⟨url, []⟩] }
  let editor ← get
  return editor.document.retrieve.length - 1

/-- The source at an index. -/
def source (editor : Editor) (index : Nat) : Except Fault (Source (List Handle)) :=
  match editor.document.retrieve[index]? with
  | some source => .ok source
  | none => .error (.outOfRange (.noSource index))

/-- Takes a source out of the document. -/
def removeSource (index : Nat) : Editing (Source (List Handle)) := do
  let source ← ask fun editor => editor.source index
  amend fun document => { document with retrieve := document.retrieve.eraseIdx index }
  return source

/-- Sets the place that a source retrieves from. -/
def setUrl (index : Nat) (url : String) : Editing Unit := do
  let _ ← ask fun editor => editor.source index
  amend fun document =>
    { document with
      retrieve := document.retrieve.modify index fun source => { source with url := url } }

/-! ## Texts -/

/-- Sets the name of the document. -/
def setName (name : String) : Editing Unit :=
  amend fun document => { document with name := name }

/-- Sets the description of the document. -/
def setDescription (description : String) : Editing Unit :=
  amend fun document => { document with description := description }

end ScriptTree.Editor
