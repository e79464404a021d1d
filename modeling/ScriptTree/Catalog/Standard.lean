import ScriptTree.Catalog.Basic
/-!
# The standard catalog

The operators that are known when no other catalog is given. The high digit of a code names the
category of its operator.
-/

namespace ScriptTree.Catalog

/-- An argument that a call has to give. -/
def required (name : String) (kind : ArgumentKind) : Parameter :=
  ⟨name, kind, false⟩

/-- An argument that a call may leave out. -/
def optional (name : String) (kind : ArgumentKind) : Parameter :=
  ⟨name, kind, true⟩

/-- One row of the standard catalog. -/
def standardRow (code : UInt64) (category : ValueType) (name : String) (output : List ValueType)
    (parameters : List Parameter) : Row :=
  ⟨⟨code⟩, name, category, output, parameters⟩

/-- The rows of the standard catalog. -/
def standardRows : List Row :=
  let row := standardRow
  [
    row 0x10 .array "count" [.integer] [],
    row 0x11 .array "filter" [.array] [required "function" .filter],
    row 0x12 .array "flatten" [.array] [optional "depth" .integer],
    row 0x13 .array "getArray" [.array] [required "index" .integer],
    row 0x14 .array "getBoolean" [.boolean] [required "index" .integer],
    row 0x15 .array "getBytes" [.bytes] [required "index" .integer],
    row 0x16 .array "getFloat" [.float] [required "index" .integer],
    row 0x17 .array "getInteger" [.integer] [required "index" .integer],
    row 0x18 .array "getMap" [.map] [required "index" .integer],
    row 0x19 .array "getString" [.string] [required "index" .integer],
    row 0x1a .array "map" [.array] [required "script" .mapper],
    row 0x1b .array "reduce" [.generic] [required "function" .reducer],
    row 0x1c .array "some" [.boolean] [required "function" .filter],
    row 0x1d .array "sort" [.array]
      [required "mapFunction" .mapper, required "ascending" .boolean],
    row 0x1e .array "take" [.array] [required "min" .integer, optional "max" .integer],
    row 0x20 .boolean "asString" [.string] [],
    row 0x21 .boolean "match" [.generic] [required "categories" .map, required "default" .inner],
    row 0x22 .boolean "negate" [.boolean] [],
    row 0x30 .bytes "asString" [.string] [],
    row 0x31 .bytes "hash" [.bytes] [required "function" .integer],
    row 0x40 .integer "absolute" [.integer] [],
    row 0x41 .integer "asBytes" [.bytes] [],
    row 0x42 .integer "asFloat" [.float] [],
    row 0x43 .integer "asString" [.string] [optional "base" .integer],
    row 0x44 .integer "greaterThan" [.boolean] [required "value" .integer],
    row 0x45 .integer "lessThan" [.boolean] [required "value" .integer],
    row 0x46 .integer "match" [.generic] [required "categories" .map, required "default" .inner],
    row 0x47 .integer "modulo" [.integer] [required "modulus" .integer],
    row 0x48 .integer "multiply" [.integer] [required "factor" .integer],
    row 0x49 .integer "negate" [.integer] [],
    row 0x4a .integer "power" [.integer] [required "exponent" .integer],
    row 0x4b .integer "reciprocal" [.float] [],
    row 0x4c .integer "sum" [.integer] [required "addend" .integer],
    row 0x50 .float "absolute" [.float] [],
    row 0x51 .float "asBytes" [.bytes] [],
    row 0x52 .float "asString" [.string] [optional "decimals" .integer],
    row 0x53 .float "ceiling" [.integer] [],
    row 0x54 .float "greaterThan" [.boolean] [required "value" .float],
    row 0x55 .float "floor" [.integer] [],
    row 0x56 .float "lessThan" [.boolean] [required "value" .float],
    row 0x57 .float "modulo" [.float] [required "modulus" .float],
    row 0x58 .float "multiply" [.float] [required "factor" .float],
    row 0x59 .float "negate" [.float] [],
    row 0x5a .float "power" [.float] [required "exponent" .float],
    row 0x5b .float "reciprocal" [.float] [],
    row 0x5c .float "round" [.integer] [],
    row 0x5d .float "sum" [.float] [required "addend" .float],
    row 0x5e .float "truncate" [.integer] [],
    row 0x60 .map "entries" [.array] [],
    row 0x61 .map "get" [.array, .boolean, .bytes, .float, .integer, .map, .string]
      [required "key" .string],
    row 0x62 .map "keys" [.array] [],
    row 0x63 .map "values" [.array] [],
    row 0x70 .string "asBoolean" [.boolean] [],
    row 0x71 .string "asBytes" [.bytes] [],
    row 0x72 .string "asFloat" [.float] [],
    row 0x73 .string "asInteger" [.integer] [],
    row 0x74 .string "length" [.integer] [],
    row 0x75 .string "match" [.generic] [required "categories" .map, required "default" .inner],
    row 0x76 .string "parseJson" [.map, .array] [],
    row 0x77 .string "parseXml" [.map] [],
    row 0x78 .string "toLowerCase" [.string] [],
    row 0x79 .string "toUpperCase" [.string] [],
    row 0x80 .result "get" [.generic] [],
    row 0x81 .result "getOr" [.generic] [required "default" .passthrough],
    row 0x82 .result "isOk" [.boolean] [],
    row 0x83 .result "isErr" [.boolean] [],
    row 0x84 .result "map" [.result] [required "script" .result]
  ]

theorem isOk_ofRows_standardRows : (Index.ofRows standardRows).isOk = true := by
  decide +kernel

/-- The standard catalog. -/
def standard : Catalog :=
  match h : Index.ofRows standardRows with
  | .ok index => ⟨standardRows, index, h⟩
  | .error _ => absurd isOk_ofRows_standardRows (by rw [h]; exact nofun)

end ScriptTree.Catalog
