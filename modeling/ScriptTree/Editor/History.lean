import ScriptTree.Editor.Edit
/-!
# Histories

Edits as data, so that what happens to an editor can be told as a list: every edit with its
arguments, what it gives back when it succeeds, and the editor that a list of edits leads to. An
edit that ends in a fault is part of a history, too.
-/

namespace ScriptTree

/-- An edit of a document, or a conversion next to it, with its arguments. -/
inductive Edit where
  | select (stage : Stage) (index : Nat) (label : String)
  | update (stage : Stage) (index argument : Nat) (value : Json)
  | replace (stage : Stage) (index : Nat) (operator : Operator)
  | push (stage : Stage) (operator : Operator)
  | remove (stage : Stage) (index : Nat)
  | addSource (url : String)
  | removeSource (index : Nat)
  | setUrl (index : Nat) (url : String)
  | setName (name : String)
  | setDescription (description : String)
  | convert (document : Document Script)
  | generate (script : Script)

/-- What an edit gives back. -/
inductive Edit.Result where
  | nothing
  | handle (handle : Handle)
  | handles (handles : List Handle)
  | index (index : Nat)
  | source (source : Source (List Handle))
  | document (document : Document (List Handle))
deriving DecidableEq

namespace Edit

/-- Carries out an edit. -/
def perform : Edit → Editing Result
  | .select stage index label => Result.handle <$> Editor.selectOperator stage index label
  | .update stage index argument value =>
    Result.handle <$> Editor.updateArgument stage index argument value
  | .replace stage index operator => Result.handle <$> Editor.replaceOperator stage index operator
  | .push stage operator => Result.handle <$> Editor.pushOperator stage operator
  | .remove stage index => Result.handle <$> Editor.removeOperator stage index
  | .addSource url => Result.index <$> Editor.addSource url
  | .removeSource index => Result.source <$> Editor.removeSource index
  | .setUrl index url => (fun _ => .nothing) <$> Editor.setUrl index url
  | .setName name => (fun _ => .nothing) <$> Editor.setName name
  | .setDescription description => (fun _ => .nothing) <$> Editor.setDescription description
  | .convert document => Result.document <$> Editor.convert document
  | .generate script => Result.handles <$> Editor.generate script

end Edit

namespace Editor

/-- Carries out an edit: what it gives back, or its fault, and the editor behind it. -/
def perform (editor : Editor) (edit : Edit) : Except Fault Edit.Result × Editor :=
  edit.perform.run.run editor

/-- The editor behind an edit. -/
def after (editor : Editor) (edit : Edit) : Editor :=
  (editor.perform edit).2

/-- The editor behind a list of edits. -/
def replay (editor : Editor) (edits : List Edit) : Editor :=
  edits.foldl after editor

end Editor

end ScriptTree
