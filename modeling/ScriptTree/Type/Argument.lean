import ScriptTree.Json.Basic
import ScriptTree.Type.Function
/-!
# Argument kinds

The kind of an argument says how its raw value is presented: filters and reducers become choices,
every other kind is a literal input. Each kind has a raw value that a fresh argument starts from,
and each literal has a kind that fits its shape.
-/

namespace ScriptTree

/-- The declared kind of an operator's argument. -/
inductive ArgumentKind where
  | array
  | boolean
  | bytes
  | filter
  | float
  | inner
  | integer
  | map
  | mapper
  | passthrough
  | reducer
  | result
  | string
deriving DecidableEq, Repr

namespace ArgumentKind

/-- Every argument kind, in ascending order of names. -/
def all : List ArgumentKind :=
  [.array, .boolean, .bytes, .filter, .float, .inner, .integer, .map, .mapper, .passthrough,
    .reducer, .result, .string]

/-- The name of an argument kind. -/
def name : ArgumentKind → String
  | .array => "array"
  | .boolean => "boolean"
  | .bytes => "bytes"
  | .filter => "filter"
  | .float => "float"
  | .inner => "inner"
  | .integer => "integer"
  | .map => "map"
  | .mapper => "mapper"
  | .passthrough => "passthrough"
  | .reducer => "reducer"
  | .result => "result"
  | .string => "string"

/-- The kind that fits the shape of a literal. -/
def ofLiteral : Json → ArgumentKind
  | .null => .passthrough
  | .bool _ => .boolean
  | .number (.float _) => .float
  | .number (.int _) => .integer
  | .string _ => .string
  | .array _ => .array
  | .object _ => .map

/-- The raw value that a fresh argument of a kind starts from. -/
def defaultValue : ArgumentKind → Json
  | .boolean => .bool false
  | .float => .number (.float .zero)
  | .integer => .int 0
  | .string => .string ""
  | .array | .bytes | .mapper => .array []
  | .map => .object []
  | .filter => .array [.nat Filter.greaterThan.code.toNat, .int 0]
  | .reducer => .nat Reducer.min.code.toNat
  | .inner | .passthrough | .result => .null

end ArgumentKind

end ScriptTree
