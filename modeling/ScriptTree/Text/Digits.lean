/-!
# Digits

Numbers as digit characters: the decimal and hexadecimal spellings the library writes, and the
reading of a run of digits in any base up to sixteen.

Main statement: reading the decimal digits of a number gives the number back
(`Digits.value?_decimal`).
-/

namespace ScriptTree.Digits

/-! ## Writing -/

/-- The decimal digits of a number, most significant first; zero has one digit. -/
def decimal (n : Nat) : List Char :=
  if n < 10 then [n.digitChar] else decimal (n / 10) ++ [(n % 10).digitChar]

/-- The decimal spelling of an integer, with a minus sign in front of a negative one. -/
def integer (n : Int) : List Char :=
  if n < 0 then '-' :: decimal n.natAbs else decimal n.natAbs

/-- The decimal spelling of a number as a string. -/
def text (n : Nat) : String :=
  String.ofList (decimal n)

/-- The lower-case hexadecimal digits of a number, most significant first. -/
def hex (n : Nat) : List Char :=
  if n < 16 then [n.digitChar] else hex (n / 16) ++ [(n % 16).digitChar]

/-- Digits filled up with zeros on the left to at least `width` characters. -/
def padded (width : Nat) (digits : List Char) : List Char :=
  List.replicate (width - digits.length) '0' ++ digits

/-! ## Reading -/

/-- The value of a character as a digit, where letters of either case follow the nine. -/
def digit? (c : Char) : Option Nat :=
  if '0' ≤ c ∧ c ≤ '9' then some (c.toNat - '0'.toNat)
  else if 'a' ≤ c ∧ c ≤ 'f' then some (c.toNat - 'a'.toNat + 10)
  else if 'A' ≤ c ∧ c ≤ 'F' then some (c.toNat - 'A'.toNat + 10)
  else none

/-- The value of a character as a digit below `base`. -/
def digitBelow? (base : Nat) (c : Char) : Option Nat :=
  (digit? c).filter (· < base)

/-- A number whose leading digits are worth `acc`, continued by the digits of `cs`. -/
def continued? (base acc : Nat) : List Char → Option Nat
  | [] => some acc
  | c :: cs => (digitBelow? base c).bind fun d => continued? base (acc * base + d) cs

/-- The number that a non-empty run of digits spells. -/
def value? (base : Nat) : List Char → Option Nat
  | [] => none
  | cs => continued? base 0 cs

/-- Whether a character is one of the ten decimal digits. -/
def isDecimal (c : Char) : Bool :=
  '0' ≤ c ∧ c ≤ '9'

/-- The decimal digits at the front of a text, and what follows them. -/
def span (cs : List Char) : List Char × List Char :=
  (cs.takeWhile isDecimal, cs.dropWhile isDecimal)

/-! ## Reading back what was written -/

theorem continued?_append {base acc mid : Nat} {front back : List Char}
    (h : continued? base acc front = some mid) :
    continued? base acc (front ++ back) = continued? base mid back := by
  induction front generalizing acc with
  | nil => simp [continued?] at h; simp [h]
  | cons c cs ih =>
    simp only [continued?, List.cons_append] at h ⊢
    cases hd : digitBelow? base c with
    | none => simp [hd] at h
    | some d => simp [hd] at h ⊢; exact ih h

theorem digitBelow?_digitChar : ∀ d < 10, digitBelow? 10 d.digitChar = some d := by decide

theorem decimal_ne_nil (n : Nat) : decimal n ≠ [] := by
  rw [decimal]; split <;> simp

theorem continued?_decimal (n : Nat) : continued? 10 0 (decimal n) = some n := by
  rw [decimal]
  split
  · next h => simp [continued?, digitBelow?_digitChar n h]
  · rw [continued?_append (continued?_decimal (n / 10))]
    simp [continued?, digitBelow?_digitChar (n % 10) (by omega)]
    omega

/-- The decimal digits of a number spell that number. -/
theorem value?_decimal (n : Nat) : value? 10 (decimal n) = some n := by
  have h := continued?_decimal n
  unfold value?
  split
  · next hn => exact absurd hn (decimal_ne_nil n)
  · exact h

end ScriptTree.Digits
