import ScriptTree.Tree.Generate
import ScriptTree.Tree.Lower
import ScriptTree.Tree.View
/-!
# Editors

An editor holds one document, with handles for scripts, and the arena that its handles belong to.
It is opened on a compact document, shows that document as a tree, and gives it back in compact
form.

The arena only grows. Nodes that no script refers to any more stay where they are.
-/

namespace ScriptTree

/-- A document in an arena, under a catalog. -/
structure Editor where
  catalog : Catalog
  arena : Arena Node
  document : Document (List Handle)

/-- Steps on an editor that may end in a fault. The editor stays as the last step left it. -/
abbrev Editing := ExceptT Fault (StateM Editor)

namespace Editing

/-- Steps on the arena of an editor. -/
def onArena {α : Type} (steps : Building α) : Editing α :=
  ExceptT.mk fun editor =>
    let (result, arena) := steps.run.run editor.arena
    (result, { editor with arena := arena })

/-- A result that reads the editor only. -/
def ask {α : Type} (question : Editor → Except Fault α) : Editing α :=
  ExceptT.mk fun editor => (question editor, editor)

/-- A change of the document. -/
def amend (change : Document (List Handle) → Document (List Handle)) : Editing Unit :=
  ExceptT.mk fun editor => (.ok (), { editor with document := change editor.document })

end Editing

namespace Editor

/-! ## Opening -/

/-- The editor on a compact document, with an arena whose first handle is `origin`. -/
def ofDocument (catalog : Catalog) (origin : UInt32) (document : Document Script) :
    Except Fault Editor :=
  match (catalog.generateDocument document).run.run (.empty origin) with
  | (.ok document, arena) => .ok ⟨catalog, arena, document⟩
  | (.error fault, _) => .error fault

/-! ## Reading -/

/-- The handles of a stage. -/
def script (editor : Editor) (stage : Stage) : Except Fault (List Handle) :=
  match stage with
  | .retrieve index =>
    match editor.document.retrieve[index]? with
    | some source => .ok source.script
    | none => .error (.outOfRange (.noSource index))
  | .aggregate => .ok editor.document.aggregate
  | .tally => .ok editor.document.tally

/-- The handle of an operator of a stage. -/
def handle (editor : Editor) (stage : Stage) (index : Nat) : Except Fault Handle := do
  let script ← editor.script stage
  match script[index]? with
  | some handle => return handle
  | none => throw (.outOfRange (.noOperator stage index))

/-- The document as a tree. -/
def view (editor : Editor) : Except Fault (Document (List SelectView)) :=
  editor.document.mapM editor.arena.viewScript

/-- The compact form of a script. -/
def lowerScript (editor : Editor) (script : List Handle) : Except Fault Script :=
  editor.arena.lowerScript editor.catalog script

/-- The document in compact form. -/
def lower (editor : Editor) : Except Fault (Document Script) :=
  editor.document.mapM editor.lowerScript

/-! ## Converting -/

/-- Inserts the trees of another document; the document of the editor stays. -/
def convert (document : Document Script) : Editing (Document (List Handle)) := do
  let editor ← get
  Editing.onArena (editor.catalog.generateDocument document)

/-- Inserts the tree of a script; the document of the editor stays. -/
def generate (script : Script) : Editing (List Handle) := do
  let editor ← get
  Editing.onArena (editor.catalog.generateScript script)

end Editor

end ScriptTree
