import ScriptTree.Proofs.Json.Number
/-!
# The compact text of a value is readable in one way

No value is lost in its compact text: the first character tells which kind of value it starts, a
string ends at its closing quote because quotes in it are escaped, a number ends where a comma or a
bracket comes, and lists end at their brackets. So different values have different texts, and no
text in front of another one can be read in two ways, whatever stands in strings and however deep
values are nested.

Main statements: `Json.write_inj` and, from it, `Json.compact_inj`.
-/

namespace ScriptTree.Json

variable {rest after : List Char}

/-! ## Strings -/

theorem escaped?_letter {c letter : Char} (h : escapes.lookup c = some letter)
    (rest : List Char) : escaped? (letter :: rest) = some (c, rest) := by
  obtain ⟨before, behind, hsplit, -⟩ := List.lookup_eq_some_iff.1 h
  have hmem : (c, letter) ∈ escapes := hsplit ▸ List.mem_append_right _ List.mem_cons_self
  simp only [escapes, List.mem_cons, Prod.mk.injEq, List.not_mem_nil, or_false] at hmem
  rcases hmem with ⟨rfl, rfl⟩ | ⟨rfl, rfl⟩ | ⟨rfl, rfl⟩ | ⟨rfl, rfl⟩ | ⟨rfl, rfl⟩ | ⟨rfl, rfl⟩ |
    ⟨rfl, rfl⟩ <;> rfl

theorem hex_control : ∀ n < 32, (Digits.padded 4 (Digits.hex n)).length = 4 ∧
    Digits.value? 16 (Digits.padded 4 (Digits.hex n)) = some n := by decide +kernel

theorem escaped?_control {c : Char} (h : c.toNat < 32) (rest : List Char) :
    escaped? ('u' :: (Digits.padded 4 (Digits.hex c.toNat) ++ rest)) = some (c, rest) := by
  obtain ⟨hlength, hvalue⟩ := hex_control c.toNat h
  have hunit : unit? (Digits.padded 4 (Digits.hex c.toNat) ++ rest) = some (c.toNat, rest) := by
    generalize Digits.padded 4 (Digits.hex c.toNat) = digits at hlength hvalue
    match digits, hlength with
    | [a, b, c, d], _ => simp [unit?, hvalue]
  have hlow : c.toNat < 0xD800 ∨ 0xDFFF < c.toNat := .inl (Nat.lt_trans h (by decide))
  simp [escaped?, hunit, hlow]

/-- A character is read back from its spelling in a string. -/
theorem string?_escapeChar (fuel : Nat) (acc : List Char) (c : Char) (rest : List Char) :
    string? (fuel + 1) acc (escapeChar c ++ rest) = string? fuel (c :: acc) rest := by
  unfold escapeChar
  split
  · next letter hletter =>
    show string? (fuel + 1) acc ('\\' :: letter :: rest) = _
    simp [string?, escaped?_letter hletter]
  · next hnone =>
    split
    · next hcontrol =>
      show string? (fuel + 1) acc ('\\' :: ('u' :: (_ ++ rest))) = _
      simp [string?, escaped?_control hcontrol]
    · next hplain =>
      have hquote : c ≠ '\x22' := by
        rintro rfl
        cases hnone
      have hbackslash : c ≠ '\\' := by
        rintro rfl
        cases hnone
      show string? (fuel + 1) acc (c :: rest) = _
      rw [string?, if_neg hquote, if_neg hbackslash, if_neg hplain]

theorem string?_escape {fuel : Nat} {cs : List Char} (hfuel : cs.length < fuel) (acc rest) :
    string? fuel acc (escape cs ('\x22' :: rest)) =
      some (String.ofList (acc.reverse ++ cs), rest) := by
  induction cs generalizing fuel acc with
  | nil =>
    obtain ⟨fuel, rfl⟩ := Nat.exists_eq_add_one_of_ne_zero (Nat.ne_zero_of_lt hfuel)
    rw [escape, string?, if_pos rfl, List.append_nil]
  | cons c cs ih =>
    obtain ⟨fuel, rfl⟩ := Nat.exists_eq_add_one_of_ne_zero (Nat.ne_zero_of_lt hfuel)
    rw [escape, string?_escapeChar, ih (Nat.lt_of_succ_lt_succ hfuel), List.reverse_cons,
      List.append_assoc, List.singleton_append]

/-- A text starts with one string at most. -/
theorem quote_inj {s t : String} (h : quote s rest = quote t after) : s = t ∧ rest = after := by
  have hsame := (List.cons.inj h).2
  have hfuel : s.toList.length < s.toList.length + t.toList.length + 1 := by omega
  have hfuel' : t.toList.length < s.toList.length + t.toList.length + 1 := by omega
  have hread := string?_escape hfuel [] rest
  rw [hsame, string?_escape hfuel' [] after] at hread
  obtain ⟨htext, hrest⟩ := Prod.mk.inj (Option.some.inj hread)
  simp only [List.reverse_nil, List.nil_append, String.ofList_toList] at htext
  exact ⟨htext.symm, hrest.symm⟩

/-! ## Kinds of values -/

/-- The kinds of values. -/
inductive Shape where
  | null
  | bool
  | number
  | string
  | array
  | object

/-- The kind of a value. -/
def shape : Json → Shape
  | .null => .null
  | .bool _ => .bool
  | .number _ => .number
  | .string _ => .string
  | .array _ => .array
  | .object _ => .object

/-- The kind of value that a character starts, if it starts one. -/
def opens? (c : Char) : Option Shape :=
  if c = 'n' then some .null
  else if c = 't' ∨ c = 'f' then some .bool
  else if c = '\x22' then some .string
  else if c = '[' then some .array
  else if c = '\x7b' then some .object
  else if c = '-' ∨ Digits.isDecimal c = true then some .number
  else none

theorem opens?_number {c : Char} (h : c = '-' ∨ Digits.isDecimal c = true) :
    opens? c = some .number := by
  have hother : ∀ d ∈ ['n', 't', 'f', '\x22', '[', '\x7b'], c ≠ d := by
    rintro d hd rfl
    simp only [List.mem_cons, List.not_mem_nil, or_false] at hd
    rcases hd with rfl | rfl | rfl | rfl | rfl | rfl <;> revert h <;> decide
  simp only [List.mem_cons, List.not_mem_nil, or_false, forall_eq_or_imp, forall_eq] at hother
  simp [opens?, hother, h]

/-- The first character of a value tells its kind. -/
theorem opens?_write (value : Json) (rest : List Char) :
    (write value rest).head?.bind opens? = some value.shape := by
  cases value with
  | null => rfl
  | bool b => cases b <;> rfl
  | number n =>
    obtain ⟨c, cs, hspell, hhead⟩ := n.head_spell
    rw [write, hspell]
    exact opens?_number hhead
  | string s => rfl
  | array items => cases items <;> rfl
  | object fields => cases fields <;> rfl

theorem shape_of_write {v w : Json} (h : write v rest = write w after) : v.shape = w.shape := by
  have hhead := opens?_write v rest
  rw [h, opens?_write] at hhead
  exact (Option.some.inj hhead).symm

/-- What starts a value does not close a list. -/
theorem write_ne_close {value : Json} : write value rest ≠ ']' :: after := by
  intro h
  have hhead := opens?_write value rest
  rw [h] at hhead
  cases hhead

/-! ## Lists -/

theorem stops_writeItems (items : List Json) (rest : List Char) :
    Stops (writeItems items rest) := by
  cases items with
  | nil => rintro _ ⟨⟩; rfl
  | cons item items => rintro _ ⟨⟩; rfl

theorem stops_writeFields (fields : List (String × Json)) (rest : List Char) :
    Stops (writeFields fields rest) := by
  cases fields with
  | nil => rintro _ ⟨⟩; rfl
  | cons field fields => rintro _ ⟨⟩; rfl

mutual

/-- A text starts with one value at most. -/
theorem write_inj : (v w : Json) → {rest after : List Char} → Stops rest → Stops after →
    write v rest = write w after → v = w ∧ rest = after
  | v, w, rest, after, hrest, hafter, h => by
    have hshape := shape_of_write h
    cases v with
    | null =>
      cases w with
      | null => exact ⟨rfl, by simpa only [write, List.cons.injEq, true_and] using h⟩
      | bool | number | string | array | object => cases hshape
    | bool a =>
      cases w with
      | bool b => cases a <;> cases b <;> simp_all [write]
      | null | number | string | array | object => cases hshape
    | number n =>
      cases w with
      | number m =>
        obtain ⟨rfl, rfl⟩ := Number.spell_inj hrest hafter h
        exact ⟨rfl, rfl⟩
      | null | bool | string | array | object => cases hshape
    | string s =>
      cases w with
      | string t =>
        obtain ⟨rfl, rfl⟩ := quote_inj h
        exact ⟨rfl, rfl⟩
      | null | bool | number | array | object => cases hshape
    | array xs =>
      cases w with
      | array ys =>
        cases xs with
        | nil =>
          cases ys with
          | nil => exact ⟨rfl, by simpa only [write, List.cons.injEq, true_and] using h⟩
          | cons y ys => exact absurd (List.cons.inj h).2.symm write_ne_close
        | cons x xs =>
          cases ys with
          | nil => exact absurd (List.cons.inj h).2 write_ne_close
          | cons y ys =>
            -- behind its bracket an array goes on as behind a comma
            obtain ⟨hitems, hrest⟩ := writeItems_inj (x :: xs) (y :: ys)
              (congrArg (List.cons ',') (List.cons.inj h).2)
            exact ⟨congrArg array hitems, hrest⟩
      | null | bool | number | string | object => cases hshape
    | object xs =>
      cases w with
      | object ys =>
        cases xs with
        | nil =>
          cases ys with
          | nil => exact ⟨rfl, by simpa only [write, List.cons.injEq, true_and] using h⟩
          | cons field fields => cases (List.cons.inj h).2
        | cons field xs =>
          cases ys with
          | nil => cases (List.cons.inj h).2
          | cons field' ys =>
            obtain ⟨hfields, hrest⟩ := writeFields_inj (field :: xs) (field' :: ys)
              (congrArg (List.cons ',') (List.cons.inj h).2)
            exact ⟨congrArg object hfields, hrest⟩
      | null | bool | number | string | array => cases hshape

/-- A text starts with one rest of a list of values at most. -/
theorem writeItems_inj : (xs ys : List Json) → {rest after : List Char} →
    writeItems xs rest = writeItems ys after → xs = ys ∧ rest = after
  | [], [], _, _, h => ⟨rfl, (List.cons.inj h).2⟩
  | [], _ :: _, _, _, h => nomatch (List.cons.inj h).1
  | _ :: _, [], _, _, h => nomatch (List.cons.inj h).1
  | x :: xs, y :: ys, rest, after, h => by
    obtain ⟨rfl, hitems⟩ := write_inj x y (stops_writeItems xs rest) (stops_writeItems ys after)
      (List.cons.inj h).2
    obtain ⟨rfl, rfl⟩ := writeItems_inj xs ys hitems
    exact ⟨rfl, rfl⟩

/-- A text starts with one rest of a list of fields at most. -/
theorem writeFields_inj : (xs ys : List (String × Json)) → {rest after : List Char} →
    writeFields xs rest = writeFields ys after → xs = ys ∧ rest = after
  | [], [], _, _, h => ⟨rfl, (List.cons.inj h).2⟩
  | [], _ :: _, _, _, h => nomatch (List.cons.inj h).1
  | _ :: _, [], _, _, h => nomatch (List.cons.inj h).1
  | (name, value) :: xs, (name', value') :: ys, rest, after, h => by
    obtain ⟨rfl, hvalue⟩ := quote_inj (List.cons.inj h).2
    obtain ⟨rfl, hfields⟩ := write_inj value value' (stops_writeFields xs rest)
      (stops_writeFields ys after) (List.cons.inj hvalue).2
    obtain ⟨rfl, rfl⟩ := writeFields_inj xs ys hfields
    exact ⟨rfl, rfl⟩

end

/-! ## Whole texts -/

/-- Values are equal when their compact texts are. -/
theorem compact_inj {v w : Json} : v.compact = w.compact ↔ v = w := by
  refine ⟨fun h => ?_, fun h => congrArg compact h⟩
  exact (write_inj v w stops_nil stops_nil (String.ofList_injective h)).1

end ScriptTree.Json
