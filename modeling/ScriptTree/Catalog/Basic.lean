import ScriptTree.Fault
import ScriptTree.Table
import ScriptTree.Type.Argument
/-!
# Catalogs

A catalog says what the codes of a script mean. It is made of a list of rows, one for each operator,
in which every row declares an output, no code stands twice, and no name stands twice in a category.
So a code determines its row, and so do a category and a name.

A catalog is asked far more often than it is made. So it keeps three tables beside its rows: the row
of each code, the output of each code, and the entries of each category. They are built row by row,
and a row that they cannot take is what is wrong with the list.
-/

namespace ScriptTree

/-- A declared argument of an operator. -/
structure Parameter where
  name : String
  kind : ArgumentKind
  optional : Bool
deriving DecidableEq

/-- The description of one operator: its code, its name, the category of values it accepts, the
types it may produce, and its arguments in order. -/
structure Row where
  code : OperatorCode
  name : String
  category : ValueType
  output : List ValueType
  parameters : List Parameter
deriving DecidableEq

/-- What a category lists about one of its operators. -/
structure Entry where
  name : String
  code : OperatorCode
  output : Output
deriving DecidableEq

namespace Row

/-- The output of a row: its single type, or the whole list. -/
def resolved (row : Row) : Output :=
  match row.output with
  | [type] => .one type
  | types => .oneOf types

/-- The entry of a row in its category. -/
def entry (row : Row) : Entry :=
  ⟨row.name, row.code, row.resolved⟩

end Row

/-! ## Tables -/

/-- The tables of a catalog. -/
structure Index where
  rows : Table OperatorCode Row
  outputs : Table OperatorCode Output
  entries : Table ValueType (List Entry)

namespace Index

/-- The tables of no rows. -/
def empty : Index := ⟨[], [], []⟩

/-- The entries of a category, in the order in which they were added. -/
def entriesOf (index : Index) (category : ValueType) : List Entry :=
  (index.entries.get? category).getD []

/-- Adds a row to every table. It has to declare an output, its code must be new, and its name must
be new in its category. -/
def add (index : Index) (row : Row) : Except CatalogFault Index :=
  match Output.ofDeclared? row.output with
  | none => .error (.noOutput row.code row.name)
  | some output =>
    match index.rows.get? row.code with
    | some earlier => .error (.repeatedCode row.code earlier.category row.category)
    | none =>
      let entries := index.entriesOf row.category
      if entries.any fun entry => entry.name = row.name then
        .error (.repeatedName row.name row.category)
      else
        .ok {
          rows := index.rows.put row.code row
          outputs := index.outputs.put row.code output
          entries := index.entries.put row.category (entries ++ [⟨row.name, row.code, output⟩]) }

/-- The tables of a list of rows, or what is wrong with the first faulty row. -/
def ofRows (rows : List Row) : Except CatalogFault Index :=
  rows.foldlM add empty

end Index

/-! ## Catalogs and their look-ups -/

/-- Rows with the tables built of them. -/
structure Catalog where
  rows : List Row
  index : Index
  indexed : Index.ofRows rows = .ok index

namespace Catalog

/-- The catalog with the given rows, or what is wrong with the first faulty one. -/
def ofRows (rows : List Row) : Except CatalogFault Catalog :=
  match h : Index.ofRows rows with
  | .ok index => .ok ⟨rows, index, h⟩
  | .error fault => .error fault

/-- The row of a code. -/
def row (catalog : Catalog) (code : OperatorCode) : Except Fault Row :=
  match catalog.index.rows.get? code with
  | some row => .ok row
  | none => .error (.unknownOperator code)

/-- The output of the operator with a code. -/
def output (catalog : Catalog) (code : OperatorCode) : Except Fault Output :=
  match catalog.index.outputs.get? code with
  | some output => .ok output
  | none => .error (.unknownOperator code)

/-- The operators of a category, in the order of the rows. -/
def entries (catalog : Catalog) (category : ValueType) : List Entry :=
  catalog.index.entriesOf category

/-- The code of the operator with a name in a category. -/
def codeFor? (catalog : Catalog) (category : ValueType) (name : String) : Option OperatorCode :=
  ((catalog.entries category).find? fun entry => entry.name = name).map Entry.code

/-- The categories that have an operator, in ascending order. -/
def categories (catalog : Catalog) : List ValueType :=
  catalog.index.entries.keys

end Catalog

end ScriptTree
