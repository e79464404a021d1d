import ScriptTree.Json.Decode
import ScriptTree.Operator.Basic
import ScriptTree.Type.Argument
/-!
# JSON forms of types and identifiers

Members of closed sets are written as their names, codes as numbers, and handles as records of one
field. An output is a name or a list of names.
-/

namespace ScriptTree

open Decode

/-! ## Closed sets -/

/-- A value type is written as its name. -/
def ValueType.toJson (type : ValueType) : Json :=
  .string type.name

/-- Reads a value type; the case of letters matters. -/
def ValueType.decode : Decoder ValueType :=
  variant ValueType.all ValueType.name

/-- An argument kind is written as its name. -/
def ArgumentKind.toJson (kind : ArgumentKind) : Json :=
  .string kind.name

/-- Reads an argument kind. -/
def ArgumentKind.decode : Decoder ArgumentKind :=
  variant ArgumentKind.all ArgumentKind.name

/-- A filter is written as its name. -/
def Filter.toJson (filter : Filter) : Json :=
  .string filter.name

/-- Reads a filter. -/
def Filter.decode : Decoder Filter :=
  variant Filter.all Filter.name

/-- A reducer is written as its name. -/
def Reducer.toJson (reducer : Reducer) : Json :=
  .string reducer.name

/-- Reads a reducer. -/
def Reducer.decode : Decoder Reducer :=
  variant Reducer.all Reducer.name

/-! ## Outputs -/

/-- An output is written as a name or as a list of names. -/
def Output.toJson : Output → Json
  | .one type => type.toJson
  | .oneOf types => .array (types.map ValueType.toJson)

/-- Reads an output; what is wrong inside it is not told. -/
def Output.decode : Decoder Output := fun _ json =>
  let output := match json with
    | .array items => (items.mapM (ValueType.decode .direct)).map Output.oneOf
    | json => (ValueType.decode .direct json).map Output.one
  output.mapError fun _ => .noVariant "ResolvedType"

/-! ## Identifiers -/

/-- Reads a code. -/
def OperatorCode.decode : Decoder OperatorCode := fun passage json =>
  (word64 passage json).map OperatorCode.mk

/-- A handle is written as a record of its number. -/
def Handle.toJson (handle : Handle) : Json :=
  .object [("id", .nat handle.id.toNat)]

/-- Reads a handle. -/
def Handle.decode : Decoder Handle := fun passage json => do
  let record ← record "struct CacheRef" json
  let id := record.required passage 0 "id" word32
  record.settle passage "struct CacheRef" [id.fault?]
  return ⟨← id.value⟩

end ScriptTree
