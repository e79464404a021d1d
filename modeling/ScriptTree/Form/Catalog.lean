import ScriptTree.Catalog.Basic
import ScriptTree.Form.Type
/-!
# JSON forms of catalogs

A catalog is written as a record of its rows. A row leaves out an empty list of arguments, and an
argument leaves out that it is not optional. Reading a catalog checks the rows again.
-/

namespace ScriptTree

open Decode

/-- An argument says that it is optional only when it is. -/
def Parameter.toJson (parameter : Parameter) : Json :=
  .object ([("name", .string parameter.name), ("kind", parameter.kind.toJson)] ++
    if parameter.optional then [("optional", .bool true)] else [])

/-- Reads a declared argument. -/
def Parameter.decode : Decoder Parameter := fun passage json => do
  let expected := "struct ArgumentInfo"
  let record ← record expected json
  let name := record.required passage 0 "name" string
  let kind := record.required passage 1 "kind" ArgumentKind.decode
  let optional := record.optional passage 2 "optional" false bool
  record.settle passage expected [name.fault?, kind.fault?, optional.fault?]
  return ⟨← name.value, ← kind.value, ← optional.value⟩

/-- A row lists its arguments only when it has some. -/
def Row.toJson (row : Row) : Json :=
  .object ([("code", row.code.toJson), ("name", .string row.name),
      ("category", row.category.toJson), ("output", .array (row.output.map ValueType.toJson))] ++
    if row.parameters = [] then []
    else [("arguments", .array (row.parameters.map Parameter.toJson))])

/-- Reads a row. -/
def Row.decode : Decoder Row := fun passage json => do
  let expected := "struct OperatorDef"
  let record ← record expected json
  let code := record.required passage 0 "code" OperatorCode.decode
  let name := record.required passage 1 "name" string
  let category := record.required passage 2 "category" ValueType.decode
  let output := record.required passage 3 "output" (list ValueType.decode)
  let parameters := record.optional passage 4 "arguments" [] (list Parameter.decode)
  record.settle passage expected
    [code.fault?, name.fault?, category.fault?, output.fault?, parameters.fault?]
  return ⟨← code.value, ← name.value, ← category.value, ← output.value, ← parameters.value⟩

/-- A catalog is written as a record of its rows. -/
def Catalog.toJson (catalog : Catalog) : Json :=
  .object [("operators", .array (catalog.rows.map Row.toJson))]

/-- Reads a catalog, and checks that its rows are unambiguous. -/
def Catalog.decode : Decoder Catalog := fun passage json => do
  let expected := "struct CatalogDoc"
  let record ← record expected json
  let rows := record.required passage 0 "operators" (list Row.decode)
  record.settle passage expected [rows.fault?]
  (Catalog.ofRows (← rows.value)).mapError .catalog

end ScriptTree
