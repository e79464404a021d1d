/-!
# Value types

The types that flow between operators. A value type names the category of operators that accept it,
and the output of an operator is one value type or a list of those it may produce.
-/

namespace ScriptTree

/-- The type of a value between two operators. `generic` stands for a type that only a run can
settle. -/
inductive ValueType where
  | array
  | boolean
  | bytes
  | float
  | generic
  | integer
  | map
  | result
  | string
deriving DecidableEq, Repr, Inhabited

namespace ValueType

/-- Every value type, in ascending order of names. -/
def all : List ValueType :=
  [.array, .boolean, .bytes, .float, .generic, .integer, .map, .result, .string]

/-- The name of a value type. -/
def name : ValueType → String
  | .array => "array"
  | .boolean => "boolean"
  | .bytes => "bytes"
  | .float => "float"
  | .generic => "generic"
  | .integer => "integer"
  | .map => "map"
  | .result => "result"
  | .string => "string"

/-- The value type with a name, where the case of ASCII letters does not matter. -/
def ofName? (text : String) : Option ValueType :=
  all.find? fun t => t.name.toList = text.toList.map Char.toLower

theorem mem_all (t : ValueType) : t ∈ all := by cases t <;> decide

/-- Value types are ordered as they are listed. -/
instance : LT ValueType := ⟨fun a b => all.idxOf a < all.idxOf b⟩

instance : DecidableLT ValueType := fun a b =>
  inferInstanceAs (Decidable (all.idxOf a < all.idxOf b))

end ValueType

/-- The output of an operator: one type, or the list of types it may produce. A list is kept as
written, also when it has no member or a single one. -/
inductive Output where
  | one (type : ValueType)
  | oneOf (types : List ValueType)
deriving DecidableEq, Repr

namespace Output

/-- The output for a declared list of types: a single type stands for itself, and no type is no
output. -/
def ofDeclared? : List ValueType → Option Output
  | [] => none
  | [type] => some (.one type)
  | types => some (.oneOf types)

/-- The types an output may have, in the order in which they are written. -/
def members : Output → List ValueType
  | .one type => [type]
  | .oneOf types => types

/-- Whether an output may have a type. -/
def contains (output : Output) (type : ValueType) : Bool :=
  output.members.contains type

/-- Whether an output is written as a list. -/
def isPolymorphic : Output → Bool
  | .one _ => false
  | .oneOf _ => true

/-- The names of the types, separated by bars. -/
def display (output : Output) : String :=
  "|".intercalate (output.members.map ValueType.name)

end Output

end ScriptTree
