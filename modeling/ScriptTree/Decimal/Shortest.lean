import ScriptTree.Decimal.Basic
import ScriptTree.Decimal.Binary64
/-!
# The shortest decimal fraction of a binary floating-point number

A finite binary number is named by the decimal fraction with the fewest digits that rounds to it;
of several with equally few digits, by the one nearest to it, and in a tie by the even one.

The numbers that round to a given one form an interval around it, whose ends belong to it exactly
when its significand is even. For one digit, two digits and so on up to seventeen, the two
neighbours of the number on the grid of decimal fractions with that many digits are tried: if any
point of the grid lies in the interval, so does one of them.
-/

namespace ScriptTree.Binary64

/-- The interval of reals that round to a magnitude, in quarters of its last binary place: the
lower end, the magnitude itself and the upper end. Below a power of two the gap is half as wide. -/
def interval (b : Binary64) : Nat × Nat × Nat :=
  let narrow := b.significand = Nat.pow 2 52 ∧ -1074 < b.exponent
  (4 * b.significand - (if narrow then 1 else 2), 4 * b.significand, 4 * b.significand + 2)

/-- The exponent `e` with `10 ^ e ≤ num / den < 10 ^ (e + 1)`, for a positive quotient. -/
def log10Ratio (num den : Nat) : Int :=
  let estimate : Int := ((Digits.decimal num).length : Int) - (Digits.decimal den).length
  let (n, d) := scaledRatio 10 num den (-estimate)
  if d ≤ n then estimate else estimate - 1

/-- The decimal fraction with the last place `place` that is nearest to the magnitude among those
that round to it, if there is one. -/
def onGrid? (b : Binary64) (place : Int) : Option Nat :=
  let (low, value, high) := b.interval
  -- `count * unit` compares with a whole number `c` of the place as `count * n` with `c * d`
  let (n, d) := scaledRatio 2 1 1 (b.exponent - 2)
  let (n, d) := scaledRatio 10 n d (-place)
  let inside (c : Nat) : Bool :=
    if b.significand % 2 = 0 then low * n ≤ c * d ∧ c * d ≤ high * n
    else low * n < c * d ∧ c * d < high * n
  let below := value * n / d
  match inside below, inside (below + 1) with
  | true, false => some below
  | false, true => some (below + 1)
  | false, false => none
  | true, true =>
    let twice := 2 * (value * n)
    let middle := (2 * below + 1) * d
    if twice < middle ∨ (twice = middle ∧ below % 2 = 0) then some below else some (below + 1)

/-- The digits and the exponent of the shortest decimal fraction that rounds to a magnitude. -/
def shortest (b : Binary64) : Nat × Int :=
  if b.significand = 0 then (0, 0)
  else
    let (n, d) := scaledRatio 2 b.significand 1 b.exponent
    let lead := log10Ratio n d
    let found := (List.range 17).findSome? fun (k : Nat) =>
      (b.onGrid? (lead - k)).map fun digits => (digits, lead - k)
    found.getD (0, 0)

end ScriptTree.Binary64

namespace ScriptTree.Decimal

/-- The decimal fraction that names a binary magnitude with a sign. -/
def ofBinary64 (negative : Bool) (b : Binary64) : Decimal :=
  ofScaled negative b.shortest.1 b.shortest.2

/-- The fraction that names the binary number nearest to `± digits * 10 ^ exponent`, unless that
is infinite. -/
def nearest? (negative : Bool) (digits : Nat) (exponent : Int) : Option Decimal :=
  (Binary64.ofDecimal? digits exponent).map (ofBinary64 negative)

end ScriptTree.Decimal
