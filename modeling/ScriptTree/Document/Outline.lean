import ScriptTree.Document.Basic
import ScriptTree.Json.Writer
import ScriptTree.Tree.View
/-!
# Outlines

The view of a document as an indented text: its name, description and earliest time, and a numbered
line for every operator with its arguments and its output.
-/

namespace ScriptTree

mutual

/-- An argument in one line: an input with its value, and a choice with what is below it. -/
def ArgumentView.outline : ArgumentView → String
  | .input input => input.label ++ "=" ++ input.value.compact
  | .select ⟨_, _, label, _, ⟨_, chosen, _, arguments⟩, _⟩ =>
    label.getD "?" ++ "=" ++ chosen ++
      (match argumentOutlines arguments with
      | [] => ""
      | inner => "(" ++ ", ".intercalate inner ++ ")")

/-- Arguments in one line each. -/
def argumentOutlines : List ArgumentView → List String
  | [] => []
  | argument :: arguments => argument.outline :: argumentOutlines arguments

end

/-- The line of an operator at a place in its script, counted from zero. -/
def SelectView.outline (place : Nat) (select : SelectView) : String :=
  "  " ++ Digits.text (place + 1) ++ ". " ++ select.selected.label ++ "(" ++
    ", ".intercalate (argumentOutlines select.selected.arguments) ++ ") -> " ++
    select.output.display ++ "\n"

/-- The lines of a script. -/
def scriptOutline (script : List SelectView) : String :=
  if script.isEmpty then "  (empty)\n" else String.join (script.mapIdx SelectView.outline)

/-- The lines of a source at a place in its document, counted from zero. -/
def Source.outline (place : Nat) (source : Source (List SelectView)) : String :=
  "\nRetrieve #" ++ Digits.text place ++ " " ++ source.url ++ "\n" ++ scriptOutline source.script

/-- The outline of a document. -/
def Document.outline (document : Document (List SelectView)) : String :=
  "Document: " ++ document.name ++ "\n" ++
    (if document.description = "" then "" else "  " ++ document.description ++ "\n") ++
    "Not before: " ++ Digits.text document.notBefore.toNat ++ "\n" ++
    String.join (document.retrieve.mapIdx Source.outline) ++
    "\nAggregate\n" ++ scriptOutline document.aggregate ++
    "\nTally\n" ++ scriptOutline document.tally

end ScriptTree
