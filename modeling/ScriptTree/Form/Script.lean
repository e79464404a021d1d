import ScriptTree.Document.Basic
import ScriptTree.Form.Type
/-!
# JSON forms of scripts and documents

An operator is a number or a list. The record of a document holds its stages in a record of their
own; each of the three forms of documents has its own names for its records, and only the compact
form has defaults for missing fields.
-/

namespace ScriptTree

open Decode

/-! ## Operators -/

/-- An operator is written as its code or as its items. -/
def Operator.toJson : Operator → Json
  | .bare code => code.toJson
  | .sequence items => .array items

/-- Reads an operator: a code or any list. -/
def Operator.fromJson : Decoder Operator := fun _ json =>
  match json, json.word? with
  | .array items, _ => .ok (.sequence items)
  | _, some code => .ok (.bare ⟨code⟩)
  | _, none => .error (.noVariant "MirOperator")

/-- A script is written as the list of its operators. -/
def scriptToJson (script : Script) : Json :=
  .array (script.map Operator.toJson)

/-- Reads a script. -/
def scriptFromJson : Decoder Script :=
  list Operator.fromJson

/-! ## Documents -/

namespace Document

/-- How one form of documents is written: the script of a stage, the names of its records, and
what stands for missing fields. -/
structure Layout (σ : Type) where
  encode : σ → Json
  decode : Decoder σ
  documentName : String
  requestName : String
  sourceName : String
  missingText : Option String
  missingTime : Option UInt64
  missingScript : Option σ

variable {σ : Type} (layout : Layout σ)

/-- A field that takes a default when there is one. -/
def field {α : Type} (record : Record) (passage : Passage) (position : Nat) (name : String)
    (missing : Option α) (decoder : Decoder α) : FieldValue α :=
  match missing with
  | some default => record.optional passage position name default decoder
  | none => record.required passage position name decoder

/-- A source as a record. -/
def sourceToJson (source : Source σ) : Json :=
  .object [("url", .string source.url), ("script", layout.encode source.script)]

/-- Reads a source. -/
def sourceFromJson : Decoder (Source σ) := fun passage json => do
  let record ← record layout.sourceName json
  let url := record.required passage 0 "url" string
  let script := field record passage 1 "script" layout.missingScript layout.decode
  record.settle passage layout.sourceName [url.fault?, script.fault?]
  return ⟨← url.value, ← script.value⟩

/-- The stages of a document, as a record. -/
def requestToJson (document : Document σ) : Json :=
  .object [("notBefore", .nat document.notBefore.toNat),
    ("retrieve", .array (document.retrieve.map (sourceToJson layout))),
    ("aggregate", layout.encode document.aggregate), ("tally", layout.encode document.tally)]

/-- Reads the stages of a document without its name and description. -/
def requestFromJson : Decoder (Document σ) := fun passage json => do
  let record ← record layout.requestName json
  let notBefore := field record passage 0 "notBefore" layout.missingTime word64
  let retrieve := record.required passage 1 "retrieve" (list (sourceFromJson layout))
  let aggregate := field record passage 2 "aggregate" layout.missingScript layout.decode
  let tally := field record passage 3 "tally" layout.missingScript layout.decode
  record.settle passage layout.requestName
    [notBefore.fault?, retrieve.fault?, aggregate.fault?, tally.fault?]
  return ⟨"", "", ← notBefore.value, ← retrieve.value, ← aggregate.value, ← tally.value⟩

/-- A document as a record. -/
def toJson (document : Document σ) : Json :=
  .object [("name", .string document.name), ("description", .string document.description),
    ("radRequest", requestToJson layout document)]

/-- Reads a document. -/
def fromJson : Decoder (Document σ) := fun passage json => do
  let record ← record layout.documentName json
  let name := field record passage 0 "name" layout.missingText string
  let description := field record passage 1 "description" layout.missingText string
  let request := record.required passage 2 "radRequest" (requestFromJson layout)
  record.settle passage layout.documentName
    [name.fault?, description.fault?, request.fault?]
  return { ← request.value with name := ← name.value, description := ← description.value }

/-- The compact form: everything but the sources may be missing. -/
def compact : Layout Script where
  encode := scriptToJson
  decode := scriptFromJson
  documentName := "struct Mir"
  requestName := "struct MirRequest"
  sourceName := "struct MirSource"
  missingText := some ""
  missingTime := some 0
  missingScript := some []

/-- The form with handles. -/
def handles : Layout (List Handle) where
  encode := fun script => .array (script.map Handle.toJson)
  decode := list Handle.decode
  documentName := "struct CachedMarkup"
  requestName := "struct CachedRequest"
  sourceName := "struct CachedSource"
  missingText := none
  missingTime := none
  missingScript := none

end Document

end ScriptTree
