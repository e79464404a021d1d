import Mathlib.Algebra.Group.Nat.Defs
import ScriptTree.Json.Reader
import ScriptTree.Json.Writer
/-!
# Numbers as they are written

A number is written in one of several layouts. None of them loses anything: read digit by digit,
without the rounding to binary that the reader of documents does, the text of a number gives the
number back, together with whatever text follows. So a text starts with one number at most.

Main statements: `Json.literal?_spell` and, from it, `Json.Number.spell_inj`.
-/

namespace ScriptTree

/-! ## Runs of digits -/

namespace Digits

theorem isDecimal_digitChar : ∀ d < 10, isDecimal d.digitChar = true := by decide

theorem isDecimal_of_mem_decimal {n : Nat} {c : Char} (h : c ∈ decimal n) :
    isDecimal c = true := by
  rw [decimal] at h
  split at h
  · next hn =>
    rw [List.mem_singleton] at h
    rw [h]
    exact isDecimal_digitChar n hn
  · rcases List.mem_append.1 h with h | h
    · exact isDecimal_of_mem_decimal h
    · rw [List.mem_singleton] at h
      rw [h]
      exact isDecimal_digitChar (n % 10) (Nat.mod_lt n (by decide))
termination_by n
decreasing_by omega

theorem isDecimal_of_mem_zeros {count : Nat} {c : Char} (h : c ∈ List.replicate count '0') :
    isDecimal c = true := by
  rw [List.eq_of_mem_replicate h]
  rfl

/-- A run of digits ends where something else comes. -/
theorem span_of_digits {digits rest : List Char} (hdigits : ∀ c ∈ digits, isDecimal c = true)
    (hrest : ∀ c ∈ rest.head?, isDecimal c = false) : span (digits ++ rest) = (digits, rest) := by
  rw [span, List.takeWhile_append_of_pos hdigits, List.dropWhile_append_of_pos hdigits]
  cases rest with
  | nil => rw [List.takeWhile_nil, List.append_nil, List.dropWhile_nil]
  | cons c cs =>
    have hc := Bool.eq_false_iff.1 (hrest c rfl)
    rw [List.takeWhile_cons_of_neg hc, List.dropWhile_cons_of_neg hc, List.append_nil]

/-- Zeros behind a number multiply it. -/
theorem continued?_zeros (acc count : Nat) :
    continued? 10 acc (List.replicate count '0') = some (acc * 10 ^ count) := by
  induction count generalizing acc with
  | zero => rw [Nat.pow_zero, Nat.mul_one]; rfl
  | succ count ih =>
    have hzero : digitBelow? 10 '0' = some 0 := digitBelow?_digitChar 0 (by decide)
    rw [List.replicate_succ, continued?, hzero]
    show continued? 10 (acc * 10 + 0) _ = _
    rw [ih, Nat.add_zero, Nat.pow_succ', Nat.mul_assoc]

end Digits

/-! ## Lowest terms -/

namespace Decimal

theorem trim_scaled {digits : Nat} {exponent : Int}
    (h : digits % 10 ≠ 0 ∨ digits = 0 ∧ exponent = 0) (count : Nat) :
    trim (digits * 10 ^ count) (exponent - count) = (digits, exponent) := by
  rcases h with h | ⟨rfl, rfl⟩
  · have hdigits : digits ≠ 0 := fun hzero => h (by rw [hzero])
    induction count with
    | zero =>
      rw [trim, Nat.pow_zero, Nat.mul_one, if_neg hdigits, if_neg h]
      exact congrArg (Prod.mk digits) (Int.sub_zero exponent)
    | succ count ih =>
      have hpos : digits * 10 ^ (count + 1) ≠ 0 :=
        Nat.mul_ne_zero hdigits (Nat.ne_of_gt (Nat.pow_pos (by decide)))
      have hmod : digits * 10 ^ (count + 1) % 10 = 0 := by
        rw [Nat.pow_succ, ← Nat.mul_assoc, Nat.mul_mod_left]
      have hdiv : digits * 10 ^ (count + 1) / 10 = digits * 10 ^ count := by
        rw [Nat.pow_succ, ← Nat.mul_assoc, Nat.mul_div_cancel _ (by decide)]
      have hexponent : exponent - ((count + 1 : Nat) : Int) + 1 = exponent - count := by omega
      rw [trim, if_neg hpos, if_pos hmod, hdiv, hexponent, ih]
  · rw [Nat.zero_mul, trim, if_pos rfl]

/-- A fraction with zeros behind its digits is the same fraction. -/
theorem ofScaled_scaled (d : Decimal) (count : Nat) :
    ofScaled d.negative (d.digits * 10 ^ count) (d.exponent - count) = d := by
  have h := trim_scaled d.lowest count
  cases d
  simp only [ofScaled, h]

theorem spell_eq (d : Decimal) :
    d.spell = (if d.negative then ['-'] else []) ++
      if -5 ≤ d.leading ∧ d.leading ≤ 15 then positional (Digits.decimal d.digits) d.exponent
      else scientific (Digits.decimal d.digits) d.leading := by
  unfold spell
  cases d.negative <;> rfl

end Decimal

/-! ## Reading exactly -/

namespace Json

/-- Whether a character may stand in a number behind its first one, apart from signs. -/
def isNumeric (c : Char) : Bool :=
  Digits.isDecimal c || c = '.' || c = 'e' || c = 'E'

/-- A text that cannot be taken for the rest of a number. -/
def Stops (rest : List Char) : Prop :=
  ∀ c ∈ rest.head?, isNumeric c = false

/-- A text without a minus sign in front, and whether there was one. -/
def signed : List Char → Bool × List Char
  | '-' :: rest => (true, rest)
  | rest => (false, rest)

/-- The digits behind a point, if there is one, and the rest of the text. -/
def places : List Char → Option (List Char) × List Char
  | '.' :: rest => let (digits, rest) := Digits.span rest; (some digits, rest)
  | rest => (none, rest)

/-- The number of a sign, its digits before and behind a point in one run, the digits behind the
point alone, and an exponent. Without point and exponent it is a whole number. -/
def Number.ofParts (negative : Bool) (digits : Nat) :
    (behind? : Option (List Char)) → (exponent? : Option Int) → Number
  | none, none => .int (if negative then -digits else digits)
  | behind?, exponent? =>
    .float (.ofScaled negative digits (exponent?.getD 0 - (behind?.getD []).length))

/-- The number at the front of a text, exactly as it is written, and the rest of the text. -/
def literal? (text : List Char) : Option (Number × List Char) := do
  let (negative, text) := signed text
  let (whole, text) := Digits.span text
  if whole.isEmpty then none
  let (behind?, text) := places text
  let (exponent?, rest) ← exponent? text
  let digits ← Digits.continued? 10 0 (whole ++ behind?.getD [])
  return (.ofParts negative digits behind? exponent?, rest)

/-! ## Parts of numbers -/

variable {rest digits behind : List Char}

theorem stops_nil : Stops [] := by
  rintro _ ⟨⟩

theorem Stops.not_decimal (h : Stops rest) : ∀ c ∈ rest.head?, Digits.isDecimal c = false := by
  intro c hc
  have hnumeric := h c hc
  simp only [isNumeric, Bool.or_eq_false_iff] at hnumeric
  exact hnumeric.1.1.1

theorem signed_of_digits (negative : Bool) (h : ∀ c ∈ digits, Digits.isDecimal c = true)
    (hne : digits ≠ []) :
    signed ((if negative then ['-'] else []) ++ (digits ++ rest)) = (negative, digits ++ rest) := by
  cases negative with
  | true => rfl
  | false =>
    cases digits with
    | nil => exact absurd rfl hne
    | cons c cs =>
      refine signed.eq_2 _ fun rest hminus => ?_
      obtain rfl : c = '-' := (List.cons.inj hminus).1
      exact absurd (h '-' List.mem_cons_self) (by decide)

/-- A point with the digits behind it, if there is one. -/
def point : Option (List Char) → List Char
  | none => []
  | some behind => '.' :: behind

/-- An exponent with its sign, if there is one. -/
def power : Option Int → List Char
  | none => []
  | some exponent =>
    'e' :: (if exponent < 0 then '-' else '+') :: Digits.decimal exponent.natAbs

theorem places_point {behind? : Option (List Char)}
    (hbehind : ∀ c ∈ behind?.getD [], Digits.isDecimal c = true)
    (hrest : ∀ c ∈ rest.head?, Digits.isDecimal c = false ∧ c ≠ '.') :
    places (point behind? ++ rest) = (behind?, rest) := by
  cases behind? with
  | none =>
    refine places.eq_2 _ fun after hpoint => ?_
    obtain rfl : rest = '.' :: after := hpoint
    exact absurd rfl (hrest '.' rfl).2
  | some behind =>
    show places ('.' :: (behind ++ rest)) = _
    have hspan : Digits.span (behind ++ rest) = (behind, rest) :=
      Digits.span_of_digits hbehind fun c hc => (hrest c hc).1
    rw [places, hspan]

theorem exponent?_power (exp? : Option Int) (h : Stops rest) :
    exponent? (power exp? ++ rest) = some (exp?, rest) := by
  cases exp? with
  | none =>
    show exponent? rest = _
    unfold exponent?
    split
    · exact absurd (h 'e' rfl) (by decide)
    · exact absurd (h 'E' rfl) (by decide)
    · rfl
  | some exponent =>
    have hspan : Digits.span (Digits.decimal exponent.natAbs ++ rest) =
        (Digits.decimal exponent.natAbs, rest) :=
      Digits.span_of_digits (fun _ => Digits.isDecimal_of_mem_decimal) h.not_decimal
    by_cases hneg : exponent < 0
    · have hread : exponent? (power (some exponent) ++ rest) =
          some (some (-(exponent.natAbs : Int)), rest) := by
        simp [power, exponent?, hneg, hspan, Digits.value?_decimal]
      have hsame : -(exponent.natAbs : Int) = exponent := by omega
      rw [hread, hsame]
    · have hread : exponent? (power (some exponent) ++ rest) =
          some (some (exponent.natAbs : Int), rest) := by
        simp [power, exponent?, hneg, hspan, Digits.value?_decimal]
      have hsame : (exponent.natAbs : Int) = exponent := by omega
      rw [hread, hsame]

/-- Behind a point or in its place comes an exponent or something else than a number. -/
theorem Stops.power (h : Stops rest) (exp? : Option Int) :
    ∀ c ∈ (power exp? ++ rest).head?, Digits.isDecimal c = false ∧ c ≠ '.' := by
  cases exp? with
  | none =>
    intro c hc
    refine ⟨h.not_decimal c hc, ?_⟩
    rintro rfl
    exact absurd (h '.' hc) (by decide)
  | some exponent =>
    rintro _ ⟨⟩
    decide

theorem point_not_decimal {behind? : Option (List Char)}
    (hrest : ∀ c ∈ rest.head?, Digits.isDecimal c = false ∧ c ≠ '.') :
    ∀ c ∈ (point behind? ++ rest).head?, Digits.isDecimal c = false := by
  cases behind? with
  | none => exact fun c hc => (hrest c hc).1
  | some behind =>
    rintro _ ⟨⟩
    decide

/-- A number is read part by part. -/
theorem literal?_parts (negative : Bool) {whole : List Char} (behind? : Option (List Char))
    (exp? : Option Int) {value : Nat} (hwhole : ∀ c ∈ whole, Digits.isDecimal c = true)
    (hne : whole ≠ []) (hbehind : ∀ c ∈ behind?.getD [], Digits.isDecimal c = true)
    (hvalue : Digits.continued? 10 0 (whole ++ behind?.getD []) = some value) (h : Stops rest) :
    literal? ((if negative then ['-'] else []) ++
        (whole ++ (point behind? ++ (power exp? ++ rest)))) =
      some (.ofParts negative value behind? exp?, rest) := by
  have htail := h.power exp?
  simp only [literal?, signed_of_digits negative hwhole hne,
    Digits.span_of_digits hwhole (point_not_decimal htail), places_point hbehind htail,
    exponent?_power exp? h, hvalue, List.isEmpty_eq_false_iff.2 hne]
  rfl

/-! ## Fractions -/

/-- A text lays out a fraction without its sign: as digits with a point or an exponent. Zeros may
stand behind the digits of the fraction, and the exponent makes up for them. -/
structure LaysOut (text : List Char) (d : Decimal) (whole : List Char)
    (behind? : Option (List Char)) (exp? : Option Int) (zeros : Nat) : Prop where
  text_eq : text = whole ++ (point behind? ++ power exp?)
  whole_ne : whole ≠ []
  decimals : ∀ c ∈ whole ++ behind?.getD [], Digits.isDecimal c = true
  value : Digits.continued? 10 0 (whole ++ behind?.getD []) = some (d.digits * 10 ^ zeros)
  marked : behind?.isSome ∨ exp?.isSome
  scale : exp?.getD 0 - (behind?.getD []).length = d.exponent - zeros

theorem decimals_digits (d : Decimal) :
    ∀ c ∈ Digits.decimal d.digits, Digits.isDecimal c = true :=
  fun _ => Digits.isDecimal_of_mem_decimal

theorem decimals_zeros (count : Nat) :
    ∀ c ∈ List.replicate count '0', Digits.isDecimal c = true :=
  fun _ => Digits.isDecimal_of_mem_zeros

/-- A whole number is filled up with zeros, and one more stands behind the point. -/
theorem laysOut_filled (d : Decimal) (h : 0 ≤ d.exponent) :
    LaysOut (Digits.decimal d.digits ++ List.replicate d.exponent.toNat '0' ++ ['.', '0']) d
      (Digits.decimal d.digits ++ List.replicate d.exponent.toNat '0') (some ['0']) none
      (d.exponent.toNat + 1) where
  text_eq := by simp [point, power]
  whole_ne := by simp [Digits.decimal_ne_nil]
  decimals := by
    simp only [List.append_assoc, Option.getD_some, List.forall_mem_append]
    exact ⟨decimals_digits d, decimals_zeros _, decimals_zeros 1⟩
  value := by
    rw [Option.getD_some, List.append_assoc, ← List.replicate_succ',
      Digits.continued?_append (Digits.continued?_decimal d.digits), Digits.continued?_zeros]
  marked := .inl rfl
  scale := by simp; omega

/-- The point stands between the digits. -/
theorem laysOut_split (d : Decimal) {places : Nat} (h : d.exponent = -places)
    (hplaces : places < (Digits.decimal d.digits).length) :
    let split := (Digits.decimal d.digits).length - places
    LaysOut ((Digits.decimal d.digits).take split ++ '.' :: (Digits.decimal d.digits).drop split) d
      ((Digits.decimal d.digits).take split) (some ((Digits.decimal d.digits).drop split)) none
      0 where
  text_eq := by rw [point, power, List.append_nil]
  whole_ne := by
    simp [Digits.decimal_ne_nil]
    omega
  decimals := by
    rw [Option.getD_some, List.take_append_drop]
    exact decimals_digits d
  value := by
    rw [Option.getD_some, List.take_append_drop, Nat.pow_zero, Nat.mul_one]
    exact Digits.continued?_decimal d.digits
  marked := .inl rfl
  scale := by simp; omega

/-- Zeros stand in front of all the digits, one of them before the point. -/
theorem laysOut_padded (d : Decimal) {places : Nat} (h : d.exponent = -places)
    (hplaces : (Digits.decimal d.digits).length ≤ places) :
    let count := places - (Digits.decimal d.digits).length
    LaysOut ('0' :: '.' :: (List.replicate count '0' ++ Digits.decimal d.digits)) d
      ['0'] (some (List.replicate count '0' ++ Digits.decimal d.digits)) none 0 where
  text_eq := by
    rw [point, power, List.append_nil]
    rfl
  whole_ne := List.cons_ne_nil _ _
  decimals := by
    simp only [Option.getD_some, List.forall_mem_append]
    exact ⟨decimals_zeros 1, decimals_zeros _, decimals_digits d⟩
  value := by
    have hfront := Digits.continued?_zeros 0 (places - (Digits.decimal d.digits).length + 1)
    rw [Nat.zero_mul, List.replicate_succ] at hfront
    rw [Option.getD_some, ← List.append_assoc, Nat.pow_zero, Nat.mul_one]
    exact (Digits.continued?_append hfront).trans (Digits.continued?_decimal d.digits)
  marked := .inl rfl
  scale := by simp; omega

theorem exists_laysOut_positional (d : Decimal) :
    ∃ whole behind? exp? zeros,
      LaysOut (Decimal.positional (Digits.decimal d.digits) d.exponent) d whole behind? exp?
        zeros := by
  unfold Decimal.positional
  split
  · next hexponent => exact ⟨_, _, _, _, laysOut_filled d hexponent⟩
  · next hexponent =>
    have hsame : d.exponent = -((-d.exponent).toNat : Int) := by omega
    dsimp only
    split
    · next hplaces => exact ⟨_, _, _, _, laysOut_split d hsame hplaces⟩
    · next hplaces => exact ⟨_, _, _, _, laysOut_padded d hsame (Nat.le_of_not_lt hplaces)⟩

/-- One digit stands before the point, which is left out where it would be the last, and the
exponent is that of this digit. -/
theorem exists_laysOut_scientific (d : Decimal) :
    ∃ whole behind? exp? zeros,
      LaysOut (Decimal.scientific (Digits.decimal d.digits) d.leading) d whole behind? exp?
        zeros := by
  have hpos : 0 < (Digits.decimal d.digits).length :=
    List.length_pos_iff.2 (Digits.decimal_ne_nil d.digits)
  obtain ⟨behind?, hbehind, hpoint⟩ : ∃ behind? : Option (List Char),
      behind?.getD [] = (Digits.decimal d.digits).drop 1 ∧
      (if ((Digits.decimal d.digits).drop 1).isEmpty then []
        else '.' :: (Digits.decimal d.digits).drop 1) = point behind? := by
    cases hdrop : (Digits.decimal d.digits).drop 1 with
    | nil => exact ⟨none, rfl, rfl⟩
    | cons c cs => exact ⟨some (c :: cs), rfl, rfl⟩
  exact ⟨(Digits.decimal d.digits).take 1, behind?, some d.leading, 0, {
    text_eq := by
      rw [← List.append_assoc, ← hpoint]
      rfl
    whole_ne := by simp [Digits.decimal_ne_nil]
    decimals := by
      rw [hbehind, List.take_append_drop]
      exact decimals_digits d
    value := by
      rw [hbehind, List.take_append_drop, Nat.pow_zero, Nat.mul_one]
      exact Digits.continued?_decimal d.digits
    marked := .inr rfl
    scale := by
      rw [hbehind, Option.getD_some, List.length_drop, Decimal.leading]
      omega }⟩

/-- The parts of a layout, with the sign of the fraction, are the fraction. -/
theorem Number.ofParts_eq_float {d : Decimal} {count : Nat} {behind? : Option (List Char)}
    {exp? : Option Int} (hmarked : behind?.isSome ∨ exp?.isSome)
    (hexponent : exp?.getD 0 - (behind?.getD []).length = d.exponent - count) :
    Number.ofParts d.negative (d.digits * 10 ^ count) behind? exp? = .float d := by
  have hfloat : Number.float (.ofScaled d.negative (d.digits * 10 ^ count)
      (exp?.getD 0 - (behind?.getD []).length)) = .float d := by
    rw [hexponent, d.ofScaled_scaled]
  cases behind? with
  | some behind => exact hfloat
  | none =>
    cases exp? with
    | some exponent => exact hfloat
    | none => simp at hmarked

theorem LaysOut.literal? {text whole : List Char} {d : Decimal} {behind? : Option (List Char)}
    {exp? : Option Int} {zeros : Nat} (hlays : LaysOut text d whole behind? exp? zeros)
    (h : Stops rest) :
    literal? ((if d.negative then ['-'] else []) ++ (text ++ rest)) = some (.float d, rest) := by
  obtain ⟨hwhole, hbehind⟩ := List.forall_mem_append.1 hlays.decimals
  have hparts :=
    literal?_parts d.negative behind? exp? hwhole hlays.whole_ne hbehind hlays.value h
  rw [Number.ofParts_eq_float hlays.marked hlays.scale] at hparts
  simpa only [hlays.text_eq, List.append_assoc] using hparts

/-! ## Numbers -/

/-- The sign and the digits of a whole number are the number. -/
theorem Number.ofParts_int (n : Int) :
    Number.ofParts (decide (n < 0)) n.natAbs none none = .int n := by
  by_cases hneg : n < 0
  · have hsame : -(n.natAbs : Int) = n := by omega
    simp only [Number.ofParts, hneg, decide_true, if_true, hsame]
  · have hsame : (n.natAbs : Int) = n := by omega
    simp only [Number.ofParts, hneg, decide_false, Bool.false_eq_true, if_false, hsame]

/-- The text of a number is read back as that number, and what follows is left. -/
theorem literal?_spell (n : Number) (h : Stops rest) :
    literal? (n.spell ++ rest) = some (n, rest) := by
  cases n with
  | int n =>
    have hvalue : Digits.continued? 10 0 (Digits.decimal n.natAbs ++ []) = some n.natAbs := by
      rw [List.append_nil, Digits.continued?_decimal]
    have hparts := literal?_parts (decide (n < 0)) none none
      (fun _ => Digits.isDecimal_of_mem_decimal) (Digits.decimal_ne_nil n.natAbs) (by simp) hvalue h
    rw [Number.ofParts_int] at hparts
    by_cases hneg : n < 0 <;>
      simpa [Number.spell, Digits.integer, hneg, point, power] using hparts
  | float d =>
    rw [Number.spell, d.spell_eq, List.append_assoc]
    by_cases hrange : -5 ≤ d.leading ∧ d.leading ≤ 15
    · obtain ⟨_, _, _, _, hlays⟩ := exists_laysOut_positional d
      rw [if_pos hrange]
      exact hlays.literal? h
    · obtain ⟨_, _, _, _, hlays⟩ := exists_laysOut_scientific d
      rw [if_neg hrange]
      exact hlays.literal? h

/-- A number starts with a minus sign or a digit. -/
theorem Number.head_spell (n : Number) :
    ∃ c cs, n.spell = c :: cs ∧ (c = '-' ∨ Digits.isDecimal c = true) := by
  have hread : literal? n.spell = some (n, []) := by
    simpa only [List.append_nil] using literal?_spell n stops_nil
  cases hspell : n.spell with
  | nil =>
    rw [hspell] at hread
    cases hread
  | cons c cs =>
    refine ⟨c, cs, rfl, Classical.byContradiction fun hnot => ?_⟩
    obtain ⟨hminus, hdecimal⟩ := not_or.1 hnot
    have hsigned : signed (c :: cs) = (false, c :: cs) :=
      signed.eq_2 _ fun rest h => hminus (List.cons.inj h).1
    rw [hspell] at hread
    simp [literal?, hsigned, Digits.span, hdecimal] at hread

/-- A text starts with one number at most. -/
theorem Number.spell_inj {n m : Number} {after : List Char} (h : Stops rest) (h' : Stops after)
    (hsame : n.spell ++ rest = m.spell ++ after) : n = m ∧ rest = after := by
  have hread := literal?_spell n h
  rw [hsame, literal?_spell m h'] at hread
  have hpair := Option.some.inj hread
  exact ⟨(congrArg Prod.fst hpair).symm, (congrArg Prod.snd hpair).symm⟩

end Json

end ScriptTree
