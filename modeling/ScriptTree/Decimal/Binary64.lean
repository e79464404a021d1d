/-!
# Binary floating-point magnitudes

The non-negative finite numbers of the 64-bit binary format, as whole significands times powers
of two, and correct rounding of an exact quotient to the nearest of them (ties go to the even
significand). Multiplication and division round the exact result once.
-/

namespace ScriptTree

/-- The magnitude `significand * 2 ^ exponent` of a 64-bit binary floating-point number. -/
structure Binary64 where
  significand : Nat
  exponent : Int
deriving DecidableEq, Repr

namespace Binary64

/-! ## Rounding -/

/-- The whole number nearest to `num / den`; a tie goes to the even one. -/
def roundHalfEven (num den : Nat) : Nat :=
  let quotient := num / den
  let remainder := num % den
  if 2 * remainder > den ∨ (2 * remainder = den ∧ quotient % 2 = 1) then quotient + 1
  else quotient

/-- The quotient `num / den * base ^ exponent` as one numerator and one denominator. -/
def scaledRatio (base num den : Nat) (exponent : Int) : Nat × Nat :=
  if 0 ≤ exponent then (num * Nat.pow base exponent.toNat, den)
  else (num, den * Nat.pow base (-exponent).toNat)

/-- The exponent `e` with `2 ^ e ≤ num / den < 2 ^ (e + 1)`, for a positive quotient. -/
def log2Ratio (num den : Nat) : Int :=
  let estimate : Int := (num.log2 : Int) - den.log2
  let (n, d) := scaledRatio 2 num den (-estimate)
  if d ≤ n then estimate else estimate - 1

/-- The magnitude nearest to `num / den`, or `none` when that is beyond the largest finite one. -/
def ofRatio? (num den : Nat) : Option Binary64 :=
  if num = 0 then some ⟨0, -1074⟩
  else
    let exponent := max (log2Ratio num den - 52) (-1074)
    let (n, d) := scaledRatio 2 num den (-exponent)
    let significand := roundHalfEven n d
    let rounded : Binary64 :=
      if significand = Nat.pow 2 53 then ⟨Nat.pow 2 52, exponent + 1⟩ else ⟨significand, exponent⟩
    if rounded.exponent > 971 then none else some rounded

/-- The magnitude nearest to a whole number. -/
def ofNat? (n : Nat) : Option Binary64 :=
  ofRatio? n 1

/-- The magnitude nearest to `digits * 10 ^ exponent`. Exponents far outside the format are
settled from the number of digits alone. -/
def ofDecimal? (digits : Nat) (exponent : Int) : Option Binary64 :=
  if digits = 0 then some ⟨0, -1074⟩
  else if 400 < exponent + digits.log2 / 4 then none
  else if exponent + digits.log2 < -400 then some ⟨0, -1074⟩
  else
    let (n, d) := scaledRatio 10 digits 1 exponent
    ofRatio? n d

/-! ## Arithmetic -/

/-- The product of two magnitudes, rounded once. -/
def mul? (a b : Binary64) : Option Binary64 :=
  let (n, d) := scaledRatio 2 (a.significand * b.significand) 1 (a.exponent + b.exponent)
  ofRatio? n d

/-- The quotient of two magnitudes, rounded once; the divisor is not zero. -/
def div? (a b : Binary64) : Option Binary64 :=
  let (n, d) := scaledRatio 2 a.significand b.significand (a.exponent - b.exponent)
  ofRatio? n d

end Binary64

end ScriptTree
