import ScriptTree.Json.Basic
import ScriptTree.Decimal.Shortest
/-!
# Reading JSON text

The whole text is one value, with blanks allowed around every token. The fields of an object are
put into ascending order of their names, and of several fields with one name the last counts.

A number without point and exponent is a whole number when it lies in the 64-bit range, signed or
unsigned; minus zero and every other number is a fraction. A fraction is read by scaling: its
leading digits, as many as fit into 64 bits, are rounded to binary, and the result is multiplied
or divided by one power of ten.
-/

namespace ScriptTree.Json

/-! ## Numbers -/

/-- The digits of a number, gathered while they fit into 64 bits: the value so far, and the number
of digits that were left out. -/
def significant (acc : Nat) : List Char → Nat × Nat
  | [] => (acc, 0)
  | c :: cs =>
    let next := acc * 10 + ((Digits.digit? c).getD 0)
    if next < UInt64.size then significant next cs else (acc, cs.length + 1)

/-- The magnitude `digits * 10 ^ exponent`: the digits rounded to binary, then scaled by a power of
ten rounded to binary. Below the smallest power the scaling goes in two steps, and above the
largest one it fails. -/
def scaled? (digits : Nat) (exponent : Int) : Option Binary64 := do
  let significand ← Binary64.ofNat? digits
  if digits = 0 then return significand
  if 308 < exponent then none
  else if 0 ≤ exponent then significand.mul? (← Binary64.ofDecimal? 1 exponent)
  else if -308 ≤ exponent then significand.div? (← Binary64.ofDecimal? 1 (-exponent))
  else
    let lowest ← Binary64.ofDecimal? 1 308
    let lifted ← significand.div? lowest
    if exponent < -616 then Binary64.ofNat? 0
    else lifted.div? (← Binary64.ofDecimal? 1 (-exponent - 308))

/-- A fraction from its sign, its digits before and after the point, and its exponent. -/
def fraction? (negative : Bool) (whole places : List Char) (exponent : Int) : Option Number := do
  let (digits, dropped) := significant 0 whole
  -- after the first digit that does not fit, the digits behind the point are ignored
  let (digits, kept) :=
    if dropped = 0 then
      let (more, ignored) := significant digits places
      (more, places.length - ignored)
    else (digits, 0)
  let magnitude ← scaled? digits (exponent + dropped - kept)
  return .float (.ofBinary64 negative magnitude)

/-- A number without point and exponent. -/
def whole? (negative : Bool) (digits : List Char) : Option Number := do
  let magnitude ← Digits.value? 10 digits
  let value : Int := if negative then -magnitude else magnitude
  if fitsWord value ∧ ¬(negative ∧ magnitude = 0) then return .int value
  else fraction? negative digits [] 0

/-- The exponent of a number, if there is one, and the rest of the text. -/
def exponent? : List Char → Option (Option Int × List Char)
  | 'e' :: rest | 'E' :: rest => do
    let (negative, rest) := match rest with
      | '-' :: rest => (true, rest)
      | '+' :: rest => (false, rest)
      | rest => (false, rest)
    let (digits, rest) := Digits.span rest
    let magnitude ← Digits.value? 10 digits
    return (some (if negative then -magnitude else magnitude), rest)
  | rest => some (none, rest)

/-- The number at the front of a text. -/
def number? (text : List Char) : Option (Number × List Char) := do
  let (negative, rest) := match text with
    | '-' :: rest => (true, rest)
    | rest => (false, rest)
  let (whole, rest) := Digits.span rest
  if whole.isEmpty ∨ (whole.head? = some '0' ∧ 1 < whole.length) then none
  let (places?, rest) ← match rest with
    | '.' :: rest =>
      let (places, rest) := Digits.span rest
      if places.isEmpty then none else some (some places, rest)
    | rest => some (none, rest)
  let (exponent?, rest) ← exponent? rest
  let number ← match places?, exponent? with
    | none, none => whole? negative whole
    | places?, exponent? => fraction? negative whole (places?.getD []) (exponent?.getD 0)
  return (number, rest)

/-! ## Strings -/

/-- Four hexadecimal digits and the rest of the text. -/
def unit? : List Char → Option (Nat × List Char)
  | a :: b :: c :: d :: rest => (Digits.value? 16 [a, b, c, d]).map (·, rest)
  | _ => none

/-- The character that an escape stands for, read after its backslash. Characters beyond the basic
plane are written as two units, and a unit of a pair does not stand alone. -/
def escaped? : List Char → Option (Char × List Char)
  | 'b' :: rest => some ('\x08', rest)
  | 'f' :: rest => some ('\x0c', rest)
  | 'n' :: rest => some ('\n', rest)
  | 'r' :: rest => some ('\r', rest)
  | 't' :: rest => some ('\t', rest)
  | 'u' :: rest => do
    let (high, rest) ← unit? rest
    if high < 0xD800 ∨ 0xDFFF < high then return (Char.ofNat high, rest)
    else if 0xDC00 ≤ high then none
    else match rest with
      | '\\' :: 'u' :: rest =>
        let (low, rest) ← unit? rest
        if 0xDC00 ≤ low ∧ low ≤ 0xDFFF then
          return (Char.ofNat (0x10000 + (high - 0xD800) * 0x400 + (low - 0xDC00)), rest)
        else none
      | _ => none
  | c :: rest => if c = '\x22' ∨ c = '\\' ∨ c = '/' then some (c, rest) else none
  | [] => none

/-- The characters of a string up to its closing quote, gathered in reverse, and the rest of the
text. -/
def string? (fuel : Nat) (acc : List Char) (text : List Char) : Option (String × List Char) :=
  match fuel, text with
  | 0, _ | _, [] => none
  | fuel + 1, c :: rest =>
    if c = '\x22' then some (String.ofList acc.reverse, rest)
    else if c = '\\' then (escaped? rest).bind fun (e, rest) => string? fuel (e :: acc) rest
    else if c.toNat < 32 then none
    else string? fuel (c :: acc) rest

/-! ## Values -/

/-- The text without blanks in front. -/
def skipBlanks (text : List Char) : List Char :=
  text.dropWhile fun c => c = ' ' || c = '\n' || c = '\r' || c = '\t'

mutual

/-- The value at the front of a text without blanks in front, and the rest of the text. -/
def value? (fuel : Nat) (text : List Char) : Option (Json × List Char) :=
  match fuel, text with
  | 0, _ => none
  | _, 'n' :: 'u' :: 'l' :: 'l' :: rest => some (.null, rest)
  | _, 't' :: 'r' :: 'u' :: 'e' :: rest => some (.bool true, rest)
  | _, 'f' :: 'a' :: 'l' :: 's' :: 'e' :: rest => some (.bool false, rest)
  | fuel + 1, '\x22' :: rest =>
    (string? (fuel + 1) [] rest).map fun (s, rest) => (.string s, rest)
  | fuel + 1, '[' :: rest =>
    match skipBlanks rest with
    | ']' :: rest => some (.array [], rest)
    | rest => items? fuel [] rest
  | fuel + 1, '{' :: rest =>
    match skipBlanks rest with
    | '}' :: rest => some (.object [], rest)
    | rest => fields? fuel [] rest
  | _, text => (number? text).map fun (n, rest) => (.number n, rest)

/-- The items of an array from the next one on, gathered in reverse. -/
def items? (fuel : Nat) (acc : List Json) (text : List Char) : Option (Json × List Char) :=
  match fuel with
  | 0 => none
  | fuel + 1 => do
    let (item, rest) ← value? fuel (skipBlanks text)
    match skipBlanks rest with
    | ',' :: rest => items? fuel (item :: acc) rest
    | ']' :: rest => return (.array (item :: acc).reverse, rest)
    | _ => none

/-- The fields of an object from the next one on, gathered in reverse. -/
def fields? (fuel : Nat) (acc : List (String × Json)) (text : List Char) :
    Option (Json × List Char) :=
  match fuel with
  | 0 => none
  | fuel + 1 =>
    match skipBlanks text with
    | '\x22' :: rest => do
      let (name, rest) ← string? (fuel + 1) [] rest
      match skipBlanks rest with
      | ':' :: rest =>
        let (value, rest) ← value? fuel (skipBlanks rest)
        match skipBlanks rest with
        | ',' :: rest => fields? fuel ((name, value) :: acc) rest
        | '}' :: rest => return (ofFields ((name, value) :: acc).reverse, rest)
        | _ => none
      | _ => none
    | _ => none

end

/-- The value that a text spells. -/
def parse? (text : String) : Option Json := do
  let cs := text.toList
  let (value, rest) ← value? (2 * cs.length + 2) (skipBlanks cs)
  if (skipBlanks rest).isEmpty then return value else none

end ScriptTree.Json
