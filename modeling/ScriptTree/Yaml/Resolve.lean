import ScriptTree.Decimal.Shortest
/-!
# What plain scalars say

A plain scalar without a tag says null, a truth value or a number when it is spelled like one, and
is text otherwise. Whole numbers are decimal, or hexadecimal, octal or binary behind `0x`, `0o` and
`0b`; digits behind a leading zero are text. Fractions are rounded to the nearest binary number, and
one that is too large for that is text.
-/

namespace ScriptTree.Yaml

/-- What a scalar says. -/
inductive Data where
  | null
  | bool (b : Bool)
  | int (n : Int)
  | float (d : Decimal)
  | notFinite
  | text (s : String)
deriving DecidableEq

/-- Whether a text is a spelling of null. -/
def isNull (text : String) : Bool :=
  ["null", "Null", "NULL", "~"].contains text

/-- The truth value that a text spells. -/
def bool? (text : String) : Option Bool :=
  if ["true", "True", "TRUE"].contains text then some true
  else if ["false", "False", "FALSE"].contains text then some false
  else none

/-! ## Whole numbers -/

/-- Whether all characters are digits and a zero leads others. -/
def isZeroLed : List Char → Bool
  | '0' :: c :: cs => (c :: cs).all Digits.isDecimal
  | _ => false

/-- The text behind a sign, if there is one. -/
def unsigned (text : List Char) : List Char :=
  match text with
  | '+' :: rest | '-' :: rest => rest
  | _ => text

/-- The number without a sign that a text spells. -/
def magnitude? (text : List Char) : Option Nat :=
  match text with
  | '0' :: 'x' :: digits => Digits.value? 16 digits
  | '0' :: 'o' :: digits => Digits.value? 8 digits
  | '0' :: 'b' :: digits => Digits.value? 2 digits
  | digits => if isZeroLed digits then none else Digits.value? 10 digits

/-- The natural number that a text spells; a plus sign may lead it. -/
def natural? (text : List Char) : Option Nat :=
  match text with
  | '+' :: rest | rest => magnitude? rest

/-- The number of values of 128 bits. -/
def doubleWordSize : Nat :=
  UInt64.size * UInt64.size

/-- The whole number of at most 128 bits that a text spells; a sign may lead it. -/
def integer? (text : List Char) : Option Int :=
  match text with
  | '-' :: rest =>
    (magnitude? rest).bind fun n => if n ≤ doubleWordSize / 2 then some (-n : Int) else none
  | rest => (natural? rest).bind fun n => if n < doubleWordSize then some (n : Int) else none

/-! ## Fractions -/

/-- The exponent that a text spells behind its digits; where there is none, it is zero. -/
def exponent? : List Char → Option Int
  | [] => some 0
  | e :: rest =>
    if e = 'e' || e = 'E' then
      match rest with
      | '-' :: digits => (Digits.value? 10 digits).map fun n => -(n : Int)
      | '+' :: digits => (Digits.value? 10 digits).map fun n => (n : Int)
      | digits => (Digits.value? 10 digits).map fun n => (n : Int)
    else none

/-- The digits and the exponent of a fraction without a sign. At least one digit stands before or
behind the point. -/
def scaled? (text : List Char) : Option (Nat × Int) :=
  let (whole, rest) := Digits.span text
  let (places, rest) := match rest with
    | '.' :: rest => Digits.span rest
    | rest => ([], rest)
  (exponent? rest).bind fun exponent =>
    (Digits.value? 10 (whole ++ places)).map fun digits => (digits, exponent - places.length)

/-- The fraction that a text spells. -/
def fraction? (text : List Char) : Option Data :=
  let spelled := String.ofList (unsigned text)
  if [".inf", ".Inf", ".INF"].contains spelled then some .notFinite
  else if [".nan", ".NaN", ".NAN"].contains (String.ofList text) then some .notFinite
  else
    (scaled? (unsigned text)).bind fun (digits, exponent) =>
      (Decimal.nearest? (text.head? = some '-') digits exponent).map Data.float

/-! ## Scalars -/

/-- The number that a text spells. -/
def number? (text : String) : Option Data :=
  match integer? text.toList with
  | some n => some (.int n)
  | none => if isZeroLed (unsigned text.toList) then none else fraction? text.toList

/-- What a plain scalar without a tag says. -/
def resolve (text : String) : Data :=
  if text.isEmpty || isNull text then .null
  else
    match bool? text with
    | some b => .bool b
    | none => (number? text).getD (.text text)

/-- Whether a text cannot be written plain, because that would say something else or could be taken
for a number by others. -/
def needsQuotes (text : String) : Bool :=
  resolve text ≠ .text text || isZeroLed (unsigned text.toList)

end ScriptTree.Yaml
