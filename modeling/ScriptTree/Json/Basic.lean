import ScriptTree.Decimal.Basic
import ScriptTree.Table
/-!
# JSON values

The dynamic values of the library: raw arguments of operators, literals in a tree, and the form in
which every record is written. Whole numbers and fractions are different values even when they are
numerically equal, and an object keeps its fields in the order in which they stand.

Two equalities are in use: `=`, which is decidable and tells `0.0` from `-0.0`, and
`Json.sameData`, which compares fractions as numbers.
-/

namespace ScriptTree

/-- A JSON number: a whole number kept exactly, or a fraction. -/
inductive Json.Number where
  | int (n : Int)
  | float (d : Decimal)
deriving DecidableEq

/-- A JSON value. -/
inductive Json where
  | null
  | bool (b : Bool)
  | number (n : Json.Number)
  | string (s : String)
  | array (items : List Json)
  | object (fields : List (String × Json))

namespace Json

instance : Inhabited Json := ⟨.null⟩

/-! ## Decidable equality -/

mutual

/-- Decides whether two values are the same. -/
def decEq : (a b : Json) → Decidable (a = b)
  | .null, .null => isTrue rfl
  | .bool a, .bool b =>
    if h : a = b then isTrue (h ▸ rfl) else isFalse fun e => h (Json.bool.inj e)
  | .number a, .number b =>
    if h : a = b then isTrue (h ▸ rfl) else isFalse fun e => h (Json.number.inj e)
  | .string a, .string b =>
    if h : a = b then isTrue (h ▸ rfl) else isFalse fun e => h (Json.string.inj e)
  | .array a, .array b =>
    match decEqItems a b with
    | isTrue h => isTrue (h ▸ rfl)
    | isFalse h => isFalse fun e => h (Json.array.inj e)
  | .object a, .object b =>
    match decEqFields a b with
    | isTrue h => isTrue (h ▸ rfl)
    | isFalse h => isFalse fun e => h (Json.object.inj e)
  | .null, .bool _ | .null, .number _ | .null, .string _ | .null, .array _ | .null, .object _
  | .bool _, .null | .bool _, .number _ | .bool _, .string _ | .bool _, .array _
  | .bool _, .object _ | .number _, .null | .number _, .bool _ | .number _, .string _
  | .number _, .array _ | .number _, .object _ | .string _, .null | .string _, .bool _
  | .string _, .number _ | .string _, .array _ | .string _, .object _ | .array _, .null
  | .array _, .bool _ | .array _, .number _ | .array _, .string _ | .array _, .object _
  | .object _, .null | .object _, .bool _ | .object _, .number _ | .object _, .string _
  | .object _, .array _ => isFalse nofun

/-- Decides whether two lists of values are the same. -/
def decEqItems : (a b : List Json) → Decidable (a = b)
  | [], [] => isTrue rfl
  | [], _ :: _ => isFalse nofun
  | _ :: _, [] => isFalse nofun
  | a :: as, b :: bs =>
    match decEq a b, decEqItems as bs with
    | isTrue h, isTrue t => isTrue (h ▸ t ▸ rfl)
    | isFalse h, _ => isFalse fun e => h (List.cons.inj e).1
    | _, isFalse t => isFalse fun e => t (List.cons.inj e).2

/-- Decides whether two lists of fields are the same. -/
def decEqFields : (a b : List (String × Json)) → Decidable (a = b)
  | [], [] => isTrue rfl
  | [], _ :: _ => isFalse nofun
  | _ :: _, [] => isFalse nofun
  | (k, a) :: as, (l, b) :: bs =>
    if hk : k = l then
      match decEq a b, decEqFields as bs with
      | isTrue h, isTrue t => isTrue (hk ▸ h ▸ t ▸ rfl)
      | isFalse h, _ => isFalse fun e => h (Prod.mk.inj (List.cons.inj e).1).2
      | _, isFalse t => isFalse fun e => t (List.cons.inj e).2
    else isFalse fun e => hk (Prod.mk.inj (List.cons.inj e).1).1

end

instance : DecidableEq Json := decEq

/-! ## Equality of data -/

/-- Equality of numbers as data: fractions are compared as numbers, so the two zeros are equal. -/
def Number.sameData : Number → Number → Bool
  | .int a, .int b => a = b
  | .float a, .float b => a.sameValue b
  | _, _ => false

mutual

/-- Equality of values as data: fractions are compared as numbers. -/
def sameData : Json → Json → Bool
  | .null, .null => true
  | .bool a, .bool b => a = b
  | .number a, .number b => a.sameData b
  | .string a, .string b => a = b
  | .array a, .array b => sameItems a b
  | .object a, .object b => sameFields a b
  | _, _ => false

/-- Equality of lists of values as data. -/
def sameItems : List Json → List Json → Bool
  | [], [] => true
  | a :: as, b :: bs => sameData a b && sameItems as bs
  | _, _ => false

/-- Equality of lists of fields as data. -/
def sameFields : List (String × Json) → List (String × Json) → Bool
  | [], [] => true
  | (k, a) :: as, (l, b) :: bs => k = l && sameData a b && sameFields as bs
  | _, _ => false

end

/-! ## Numbers -/

/-- A whole number as a value. -/
def int (n : Int) : Json := .number (.int n)

/-- A natural number as a value. -/
def nat (n : Nat) : Json := int n

/-- Whether a whole number lies in the 64-bit range, signed or unsigned. -/
def fitsWord : Int → Bool
  | .ofNat n => n < UInt64.size
  | .negSucc n => n < UInt64.size / 2

/-- The value as a 64-bit unsigned number: only a whole number in range is one, so `5.0` is not. -/
def word? : Json → Option UInt64
  | .number (.int (.ofNat n)) => if n < UInt64.size then some (UInt64.ofNat n) else none
  | _ => none

theorem word?_nat (w : UInt64) : word? (nat w.toNat) = some w := by
  have h := w.toNat_lt_size
  simp only [nat, int, word?]
  simp [h]

/-! ## Depth -/

mutual

/-- The number of nested values, the value itself included. -/
def depth : Json → Nat
  | .array items => depthItems items + 1
  | .object fields => depthFields fields + 1
  | _ => 1

/-- The depth of the deepest value of a list. -/
def depthItems : List Json → Nat
  | [] => 0
  | item :: items => max (depth item) (depthItems items)

/-- The depth of the deepest value of the fields of an object. -/
def depthFields : List (String × Json) → Nat
  | [] => 0
  | (_, value) :: fields => max (depth value) (depthFields fields)

end

/-! ## Fields -/

/-- The object with the given fields in ascending order of names; of fields with one name the last
counts. -/
def ofFields (fields : List (String × Json)) : Json :=
  .object (Table.ofList fields)

/-- The value of the first field with a name. -/
abbrev field? (name : String) (fields : List (String × Json)) : Option Json :=
  Table.get? name fields

mutual

/-- The value with the fields of every object in ascending order of names. -/
def sorted : Json → Json
  | .array items => .array (sortedItems items)
  | .object fields => ofFields (sortedFields fields)
  | other => other

/-- The values of a list with the fields of every object sorted. -/
def sortedItems : List Json → List Json
  | [] => []
  | item :: items => sorted item :: sortedItems items

/-- The fields of an object with the fields of every object in them sorted. -/
def sortedFields : List (String × Json) → List (String × Json)
  | [] => []
  | (name, value) :: fields => (name, sorted value) :: sortedFields fields

end

end Json

end ScriptTree
