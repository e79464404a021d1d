import ScriptTree.Text.Digits
/-!
# Decimal fractions

A decimal fraction is kept in lowest terms, so two of them are equal exactly when they have the
same sign, digits and exponent. Fractions written in a document stand for binary floating-point
numbers; each is kept as the shortest decimal fraction that names its number
(see `Decimal/Shortest`).
-/

namespace ScriptTree

/-- The decimal fraction `± digits * 10 ^ exponent`, without trailing zeros among its digits.
Zero keeps its sign. -/
structure Decimal where
  negative : Bool
  digits : Nat
  exponent : Int
  lowest : digits % 10 ≠ 0 ∨ digits = 0 ∧ exponent = 0
deriving DecidableEq

namespace Decimal

/-! ## Lowest terms -/

/-- Moves trailing zeros of the digits into the exponent. -/
def trim (digits : Nat) (exponent : Int) : Nat × Int :=
  if digits = 0 then (0, 0)
  else if digits % 10 = 0 then trim (digits / 10) (exponent + 1)
  else (digits, exponent)
termination_by digits

theorem trim_lowest (digits : Nat) (exponent : Int) :
    (trim digits exponent).1 % 10 ≠ 0 ∨
      (trim digits exponent).1 = 0 ∧ (trim digits exponent).2 = 0 := by
  fun_induction trim digits exponent with
  | case1 => exact .inr ⟨rfl, rfl⟩
  | case2 _ _ _ _ ih => exact ih
  | case3 _ _ _ h => exact .inl h

/-- The fraction `± digits * 10 ^ exponent`, brought to lowest terms. -/
def ofScaled (negative : Bool) (digits : Nat) (exponent : Int) : Decimal :=
  ⟨negative, (trim digits exponent).1, (trim digits exponent).2, trim_lowest digits exponent⟩

/-- Zero, written `0.0`. -/
def zero : Decimal := ⟨false, 0, 0, .inr ⟨rfl, rfl⟩⟩

/-- Equality as numbers: the two zeros are equal. -/
def sameValue (a b : Decimal) : Bool :=
  a = b || (a.digits = 0 && b.digits = 0)

/-! ## Spelling -/

/-- The exponent of the leading digit in scientific notation. -/
def leading (d : Decimal) : Int :=
  d.exponent + (Digits.decimal d.digits).length - 1

/-- Digits with the point put where `exponent` says, and at least one digit on either side. -/
def positional (digits : List Char) (exponent : Int) : List Char :=
  if 0 ≤ exponent then
    digits ++ List.replicate exponent.toNat '0' ++ ['.', '0']
  else
    let places := (-exponent).toNat
    if places < digits.length then
      digits.take (digits.length - places) ++ '.' :: digits.drop (digits.length - places)
    else
      '0' :: '.' :: (List.replicate (places - digits.length) '0' ++ digits)

/-- Digits with the point after the first one, then the exponent with its sign. -/
def scientific (digits : List Char) (leading : Int) : List Char :=
  let fraction := digits.drop 1
  digits.take 1 ++ (if fraction.isEmpty then [] else '.' :: fraction) ++
    'e' :: (if leading < 0 then '-' else '+') :: Digits.decimal leading.natAbs

/-- A fraction is written with a point when its leading digit stands between the fifth place after
the point and the sixteenth before it, and in scientific notation otherwise. -/
def spell (d : Decimal) : List Char :=
  let digits := Digits.decimal d.digits
  let magnitude :=
    if -5 ≤ d.leading ∧ d.leading ≤ 15 then positional digits d.exponent
    else scientific digits d.leading
  if d.negative then '-' :: magnitude else magnitude

end Decimal

end ScriptTree
