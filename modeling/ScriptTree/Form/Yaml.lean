import ScriptTree.Form.Script
import ScriptTree.Settings
import ScriptTree.Yaml.Decode
/-!
# YAML forms of documents, catalogs and settings

The records of these three as YAML text. Their fields have the same names and defaults as in their
JSON forms; an operator is read as a raw value first, and then as an operator.
-/

namespace ScriptTree

open Yaml.Decode

/-! ## Documents -/

/-- Reads an operator. -/
def Operator.ofNode : Yaml.Decoder Operator := fun depth node => do
  let json ← raw depth node
  demand (Operator.fromJson .direct json).toOption

/-- Reads a source. -/
def Source.ofNode : Yaml.Decoder (Source Script) :=
  record ["url", "script"] fun depth field => do
    let url ← needed (field "url") text depth
    let script ← defaulted (field "script") [] (list Operator.ofNode) depth
    return ⟨url, script⟩

namespace Document

/-- Reads the stages of a document. -/
def requestOfNode : Yaml.Decoder (Document Script) :=
  record ["notBefore", "retrieve", "aggregate", "tally"] fun depth field => do
    let notBefore ← defaulted (field "notBefore") 0 word64 depth
    let retrieve ← needed (field "retrieve") (list Source.ofNode) depth
    let aggregate ← defaulted (field "aggregate") [] (list Operator.ofNode) depth
    let tally ← defaulted (field "tally") [] (list Operator.ofNode) depth
    return ⟨"", "", notBefore, retrieve, aggregate, tally⟩

/-- Reads a document. -/
def ofNode : Yaml.Decoder (Document Script) :=
  record ["name", "description", "radRequest"] fun depth field => do
    let name ← defaulted (field "name") "" text depth
    let description ← defaulted (field "description") "" text depth
    let request ← needed (field "radRequest") requestOfNode depth
    return { request with name := name, description := description }

/-- The compact document that a text holds. -/
def ofText (source : String) : Except Fault (Document Script) :=
  (run ofNode source).mapError .parse

end Document

/-! ## Catalogs -/

/-- Reads a declared argument. -/
def Parameter.ofNode : Yaml.Decoder Parameter :=
  record ["name", "kind", "optional"] fun depth field => do
    let name ← needed (field "name") text depth
    let kind ← needed (field "kind") (member ArgumentKind.all ArgumentKind.name) depth
    let isOptional ← defaulted (field "optional") false bool depth
    return ⟨name, kind, isOptional⟩

/-- Reads a row. -/
def Row.ofNode : Yaml.Decoder Row :=
  record ["code", "name", "category", "output", "arguments"] fun depth field => do
    let code ← needed (field "code") word64 depth
    let name ← needed (field "name") text depth
    let category ← needed (field "category") (member ValueType.all ValueType.name) depth
    let output ← needed (field "output") (list (member ValueType.all ValueType.name)) depth
    let parameters ← defaulted (field "arguments") [] (list Parameter.ofNode) depth
    return ⟨⟨code⟩, name, category, output, parameters⟩

namespace Catalog

/-- Reads a catalog, and checks that its rows are unambiguous. -/
def ofNode : Yaml.Decoder Catalog := fun depth node => do
  let rows ← record ["operators"] (fun depth field =>
    needed (field "operators") (list Row.ofNode) depth) depth node
  match Catalog.ofRows rows with
  | .ok catalog => return catalog
  | .error fault => throw (.catalog fault)

/-- The catalog that a text holds. -/
def ofText (source : String) : Except Fault Catalog :=
  (run ofNode source).mapError .parse

end Catalog

/-! ## Settings -/

namespace Settings

/-- Reads settings. -/
def ofNode : Yaml.Decoder Settings :=
  record ["cache_origin", "catalog_path"] fun depth field => do
    let origin ← defaulted (field "cache_origin") 1 word32 depth
    let path ← defaulted (field "catalog_path") none (Yaml.Decode.option text) depth
    return ⟨origin, path⟩

/-- The settings that a text holds. -/
def ofText (source : String) : Except Fault Settings :=
  (run ofNode source).mapError .parse

/-- The catalog of the settings, where `file` is the text of the file they name, if it is there. -/
def catalog (settings : Settings) (file : Option String) : Except Fault Catalog :=
  match settings.catalogPath, file with
  | none, _ => .ok Catalog.standard
  | some _, some source => Catalog.ofText source
  | some path, none => .error (.settings path "No such file or directory (os error 2)")

end Settings

end ScriptTree
