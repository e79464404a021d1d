import ScriptTree.Document.Outline
import ScriptTree.Form.Catalog
import ScriptTree.Form.View
import ScriptTree.Form.Yaml
import ScriptTree.Yaml.Writer
/-!
# Commands

What the command line does, as a function of the settings and of the texts of files: it prints a
document as a tree, checks it, outlines it, or prints the catalog. A command either succeeds and
prints to its output, or fails and prints one line of complaint.
-/

namespace ScriptTree

/-- A command with its own settings. -/
inductive Command where
  | markup (cached : Bool)
  | validate
  | roundtrip
  | explain
  | catalog (category : Option String)
deriving DecidableEq, Repr

/-- What a command complains about: a file that is not there, a fault, or a document that comes back
changed. -/
inductive Complaint where
  | noFile
  | fault (cause : Fault)
  | changed
deriving DecidableEq

namespace Complaint

/-- The wording of a complaint. -/
def message : Complaint → String
  | .noFile => "No such file or directory (os error 2)"
  | .fault cause => cause.message
  | .changed => "Round trip changed the document"

end Complaint

namespace Command

/-- The document in a file. -/
def document (source : Option String) : Except Complaint (Document Script) :=
  match source with
  | none => .error .noFile
  | some text => (Document.ofText text).mapError .fault

/-- The editor on the document in a file. -/
def editor (settings : Settings) (catalog : Catalog) (source : Option String) :
    Except Complaint Editor := do
  let document ← document source
  (Editor.ofDocument catalog settings.cacheOrigin document).mapError .fault

/-- The rows of a catalog as text, all or those of one category. -/
def catalogText (catalog : Catalog) : Option String → Except Fault String
  | none => .ok (Yaml.render catalog.toJson)
  | some name =>
    match ValueType.ofName? name with
    | none => .error (.parse (.unknownType name))
    | some category =>
      let rows := catalog.rows.filter fun row => row.category = category
      .ok (Yaml.render (.array (rows.map Row.toJson)))

/-- What a command prints, given the catalog and the text of the document's file if it is there. -/
def output (settings : Settings) (catalog : Catalog) (source : Option String) :
    Command → Except Complaint String
  | .markup cached => do
    let editor ← editor settings catalog source
    if cached then return editor.cachedToJson.sorted.pretty
    else return (← editor.viewToJson.mapError .fault).pretty
  | .validate => do
    let editor ← editor settings catalog source
    let _ ← editor.view.mapError .fault
    return "✓ Document converts cleanly\n"
  | .roundtrip => do
    let document ← document source
    let editor ←
      (Editor.ofDocument catalog settings.cacheOrigin document).mapError Complaint.fault
    let back ← editor.lower.mapError .fault
    if back.sameData document.normalized then return "✓ Round trip is lossless\n"
    else throw .changed
  | .explain => do
    let editor ← editor settings catalog source
    let view ← editor.view.mapError .fault
    let fingerprint ← editor.fingerprint.mapError .fault
    return view.outline ++ "\nArena nodes: " ++ Digits.text editor.arena.size ++
      "\nSnapshot hash: " ++ fingerprint ++ "\n"
  | .catalog category => (catalogText catalog category).mapError .fault

/-- The line that a command prints when it fails. -/
def complain (command : Command) (complaint : Complaint) : String :=
  let lead := match complaint, command with
    | .changed, _ => ""
    | _, .validate => "Validation failed: "
    | _, _ => "Error: "
  lead ++ complaint.message ++ "\n"

/-- What a run of the program leaves: whether it succeeded, what it printed to its two outputs, and
the text for a file. -/
structure Outcome where
  succeeded : Bool
  output : String := ""
  errors : String := ""
  file : Option String := none

/-- Runs a command, given the text of the catalog's file and of the document's file if they are
there. A tree goes to a file of its own without a line break behind it if `toFile` holds. -/
def run (command : Command) (settings : Settings) (catalogFile source : Option String)
    (toFile : Bool) : Outcome :=
  match settings.catalog catalogFile with
  | .error fault => { succeeded := false, errors := "Error: " ++ fault.message ++ "\n" }
  | .ok known =>
    match command.output settings known source, command with
    | .error complaint, _ => { succeeded := false, errors := command.complain complaint }
    | .ok text, .markup _ =>
      if toFile then { succeeded := true, file := some text }
      else { succeeded := true, output := text ++ "\n" }
    | .ok text, _ => { succeeded := true, output := text }

end Command

end ScriptTree
