import ScriptTree.Fault
import ScriptTree.Text.Quoted
/-!
# Decoding JSON values

Decoders for the shapes that records are written in: words, texts, lists, names of a closed set,
records, and records under a tag.

A record is an object, whose unknown fields are passed over, or an array of the fields in order. Of
several faults in an object the one whose field comes first by name counts, and a missing field only
when no field is faulty; in an array the first position counts.

The record under a tag is held back until the tag is known. A held value is decoded by slightly
wider rules: a tag may be the position of its name, and a bare name may be followed by an empty
object.
-/

namespace ScriptTree

/-- How a value comes to its decoder: at once, or held back until a tag around it is known. -/
inductive Passage where
  | direct
  | held
deriving DecidableEq, Repr

/-- Reads a value as an `α`. -/
abbrev Decoder (α : Type) := Passage → Json → Except ParseFault α

namespace Decode

/-! ## Faults -/

/-- A value as messages about its type show it. -/
def describe : Json → String
  | .null => "null"
  | .bool true => "boolean `true`"
  | .bool false => "boolean `false`"
  | .number (.int n) => "integer `" ++ String.ofList (Digits.integer n) ++ "`"
  | .number (.float d) => "floating point `" ++ String.ofList d.spell ++ "`"
  | .string s => "string " ++ quoted s
  | .array _ => "sequence"
  | .object _ => "map"

/-- The fault of a value of the wrong type. -/
def wrongType {α : Type} (found : Json) (expected : String) : Except ParseFault α :=
  .error (.wrongType (describe found) expected)

/-- A count of elements in words. -/
def elements (count : Nat) : String :=
  Digits.text count ++ if count = 1 then " element" else " elements"

/-! ## Simple values -/

/-- Any value, as it is. -/
def raw : Decoder Json := fun _ json => .ok json

/-- A string. -/
def string : Decoder String
  | _, .string s => .ok s
  | _, json => wrongType json "a string"

/-- A truth value. -/
def bool : Decoder Bool
  | _, .bool b => .ok b
  | _, json => wrongType json "a boolean"

/-- A whole number below `2 ^ 64`. -/
def word64 : Decoder UInt64
  | _, .number (.int (.ofNat n)) =>
    if n < UInt64.size then .ok (.ofNat n) else .error (.wrongValue (describe (.nat n)) "u64")
  | _, .number (.int n) => .error (.wrongValue (describe (.int n)) "u64")
  | _, json => wrongType json "u64"

/-- A whole number below `2 ^ 32`. -/
def word32 : Decoder UInt32
  | _, .number (.int (.ofNat n)) =>
    if n < UInt32.size then .ok (.ofNat n) else .error (.wrongValue (describe (.nat n)) "u32")
  | _, .number (.int n) => .error (.wrongValue (describe (.int n)) "u32")
  | _, json => wrongType json "u32"

/-- A list. -/
def list {α : Type} (item : Decoder α) : Decoder (List α)
  | passage, .array items => items.mapM (item passage)
  | _, json => wrongType json "a sequence"

/-- A value or nothing, which is written as null. -/
def option {α : Type} (some : Decoder α) : Decoder (Option α)
  | _, .null => .ok none
  | passage, json => (some passage json).map Option.some

/-- What follows a bare name: nothing, or under a tag an empty object. -/
def unit : Decoder Unit
  | _, .null => .ok ()
  | .held, .object [] => .ok ()
  | _, json => wrongType json "unit"

/-- The member of a closed set with a name. -/
def member {α : Type} (all : List α) (name : α → String) (found : String) :
    Except ParseFault α :=
  match all.find? fun a => name a = found with
  | some a => .ok a
  | none => .error (.unknownVariant found (all.map name))

/-- A member of a closed set: its bare name, or an object with the name as its only field. -/
def variant {α : Type} (all : List α) (name : α → String) : Decoder α
  | _, .string found => member all name found
  | passage, .object [(found, value)] => do
    let a ← member all name found
    unit passage value
    return a
  | _, .object _ => .error (.wrongValue "map" "map with a single key")
  | _, json => wrongType json "string or map"

/-! ## Records -/

/-- A record before its fields are read. -/
inductive Record where
  | named (fields : List (String × Json))
  | positional (items : List Json)

/-- Why a field of a record has no value: it is missing, or it does not decode. -/
structure FieldFault where
  name : String
  cause : Option ParseFault

/-- The fault that a field fault amounts to. -/
def FieldFault.fault (fault : FieldFault) : ParseFault :=
  fault.cause.getD (.missingField fault.name)

/-- A field of a record, or why it has no value. -/
abbrev FieldValue (α : Type) := Except FieldFault α

/-- Why a field has no value, if it has none. -/
def FieldValue.fault? {α : Type} : FieldValue α → Option FieldFault
  | .ok _ => none
  | .error fault => some fault

/-- The value of a field. -/
def FieldValue.value {α : Type} (field : FieldValue α) : Except ParseFault α :=
  field.mapError FieldFault.fault

/-- The record that a value is. -/
def record (expected : String) : Json → Except ParseFault Record
  | .object fields => .ok (.named fields)
  | .array items => .ok (.positional items)
  | json => wrongType json expected

namespace Record

/-- The value of a field, found by its name or its position. -/
def find? (record : Record) (position : Nat) (name : String) : Option Json :=
  match record with
  | .named fields => Json.field? name fields
  | .positional items => items[position]?

/-- A field that has to be there. -/
def required {α : Type} (record : Record) (passage : Passage) (position : Nat) (name : String)
    (decoder : Decoder α) : FieldValue α :=
  match record.find? position name with
  | some json => (decoder passage json).mapError fun fault => ⟨name, some fault⟩
  | none => .error ⟨name, none⟩

/-- A field that has a value of its own when it is missing. -/
def optional {α : Type} (record : Record) (passage : Passage) (position : Nat) (name : String)
    (default : α) (decoder : Decoder α) : FieldValue α :=
  match record.find? position name with
  | some json => (decoder passage json).mapError fun fault => ⟨name, some fault⟩
  | none => .ok default

/-- The one of two faults whose field comes first by name. -/
def earlier (a b : String × ParseFault) : String × ParseFault :=
  if b.1 < a.1 then b else a

/-- The fault that counts among those of the fields of an object, given in the declared order. -/
def namedFault? (faults : List FieldFault) : Option ParseFault :=
  match faults.filterMap fun fault => fault.cause.map (fault.name, ·) with
  | [] => (faults.head?).map FieldFault.fault
  | bad :: others => some (others.foldl earlier bad).2

/-- The fault that counts among those of the positions of an array. -/
def positionalFault? (expected : String) (size : Nat) (position : Nat) :
    List (Option FieldFault) → Option ParseFault
  | [] => none
  | none :: rest => positionalFault? expected size (position + 1) rest
  | some ⟨_, some fault⟩ :: _ => some fault
  | some ⟨_, none⟩ :: _ =>
    some (.wrongLength position (expected ++ " with " ++ elements size))

/-- The fault of an array with more items than the record has fields. -/
def surplus? (passage : Passage) (size : Nat) (items : List Json) : Option ParseFault :=
  if size < items.length then
    some (.wrongLength items.length (match passage with
      | .direct => "fewer elements in array"
      | .held => elements size ++ " in sequence"))
  else none

/-- Fails with the fault that counts, if any field has one. The fields are given in the declared
order. -/
def settle (record : Record) (passage : Passage) (expected : String)
    (fields : List (Option FieldFault)) : Except ParseFault Unit :=
  let fault? := match record with
    | .named _ => namedFault? (fields.filterMap id)
    | .positional items =>
      (positionalFault? expected fields.length 0 fields).or
        (surplus? passage fields.length items)
  match fault? with
  | some fault => .error fault
  | none => .ok ()

end Record

/-! ## Tags -/

/-- The position of a tag among the names it may have. -/
def tagPosition (names : List String) : Passage → Json → Except ParseFault Nat
  | _, .string found =>
    match names.idxOf? found with
    | some position => .ok position
    | none => .error (.unknownVariant found names)
  | .held, .number (.int (.ofNat position)) =>
    if position < names.length then .ok position
    else .error (.wrongValue (describe (.nat position))
      ("variant index 0 <= i < " ++ Digits.text names.length))
  | _, json => wrongType json "variant identifier"

/-- The tag of a tagged value, as the position of its name, and the record under it. The tag is a
field of an object or the first item of an array. -/
def tagged (type tag : String) (names : List String) (passage : Passage) :
    Json → Except ParseFault (Nat × Json)
  | .object fields =>
    match Json.field? tag fields with
    | some json => do
      let position ← tagPosition names passage json
      return (position, .object (fields.filter fun field => field.1 ≠ tag))
    | none => .error (.missingField tag)
  | .array (head :: tail) => do
    let position ← tagPosition names passage head
    return (position, .array tail)
  | .array [] => .error (.missingField tag)
  | json => wrongType json ("internally tagged enum " ++ type)

/-- The record under a tag that stands alone: its fields are passed over. -/
def nothing : Json → Except ParseFault Unit
  | .array (item :: items) =>
    .error (.wrongLength (item :: items).length (elements 0 ++ " in sequence"))
  | _ => .ok ()

end Decode

end ScriptTree
