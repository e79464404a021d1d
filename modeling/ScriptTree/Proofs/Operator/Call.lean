import ScriptTree.Operator.Basic
/-!
# Calls and normal forms

A raw value that counts as a code has one spelling, so the normal form of an operator is the call of
what it decodes to. An operator that does not decode is left as it is.

Main statements: an operator decodes to a code and arguments exactly when its normal form is their
call (`Operator.decoded_iff_normalized`), and a normal form is its own
(`Operator.normalized_normalized`).
-/

namespace ScriptTree

theorem Json.word?_eq_some {json : Json} {word : UInt64} :
    json.word? = some word ↔ json = .nat word.toNat := by
  constructor
  · intro h
    unfold Json.word? at h
    split at h
    · next n =>
      by_cases hn : n < UInt64.size
      · rw [if_pos hn, Option.some.injEq] at h
        rw [← h, UInt64.toNat_ofNat_of_lt' hn]
        rfl
      · rw [if_neg hn] at h
        cases h
    · cases h
  · rintro rfl
    exact word?_nat word

namespace Operator

/-- The code of an operator and its raw arguments, where a code alone has none. -/
def decoded (operator : Operator) : Except Fault (OperatorCode × List Json) :=
  operator.decode.map fun r => (r.1, r.2.getD [])

theorem decoded_of_decode {operator : Operator} {code : OperatorCode}
    {given : Option (List Json)} (h : operator.decode = .ok (code, given)) :
    operator.decoded = .ok (code, given.getD []) := by
  rw [decoded, h]
  rfl

theorem decoded_normalized (operator : Operator) :
    operator.normalized.decoded = operator.decoded :=
  decode_normalized operator

theorem decoded_iff_normalized {operator : Operator} {code : OperatorCode} {args : List Json} :
    operator.decoded = .ok (code, args) ↔ operator.normalized = call code args := by
  constructor
  · intro h
    cases operator with
    | bare bareCode =>
      cases h
      rfl
    | sequence items =>
      rcases items with _ | ⟨head, tail⟩
      · cases h
      · cases hw : head.word? with
        | none =>
          rw [decoded, decode, hw] at h
          cases h
        | some word =>
          rw [decoded, decode, hw] at h
          cases h
          cases tail with
          | nil =>
            rw [normalized, hw]
            rfl
          | cons arg args =>
            rw [Json.word?_eq_some.1 hw]
            rfl
  · intro h
    rw [← decoded_normalized, h]
    exact decode_call code args

theorem decoded_call (code : OperatorCode) (args : List Json) :
    (call code args).decoded = .ok (code, args) :=
  decode_call code args

theorem exists_decode_call (code : OperatorCode) (args : List Json) :
    ∃ given, (call code args).decode = .ok (code, given) ∧ given.getD [] = args := by
  have h := decoded_call code args
  rw [decoded] at h
  cases hdecode : (call code args).decode with
  | error fault =>
    rw [hdecode] at h
    cases h
  | ok pair =>
    rw [hdecode] at h
    obtain ⟨hcode, hargs⟩ := Prod.mk.inj (Except.ok.inj h)
    exact ⟨pair.2, by rw [← hcode], hargs⟩

/-- A call says which code is called with which arguments. -/
theorem call_inj {code code' : OperatorCode} {args args' : List Json} :
    call code args = call code' args' ↔ code = code' ∧ args = args' := by
  constructor
  · intro h
    have hdecoded := decoded_call code args
    rw [h, decoded_call] at hdecoded
    obtain ⟨rfl, rfl⟩ := Prod.mk.inj (Except.ok.inj hdecoded)
    exact ⟨rfl, rfl⟩
  · rintro ⟨rfl, rfl⟩
    rfl

/-- A call is its own normal form. -/
theorem normalized_call (code : OperatorCode) (args : List Json) :
    (call code args).normalized = call code args :=
  decoded_iff_normalized.1 (decoded_call code args)

/-- Normalization leaves an operator alone that does not decode: of the sequences of one item it
changes those that start with a code. -/
theorem normalized_of_decode_error {operator : Operator} {fault : Fault}
    (h : operator.decode = .error fault) : operator.normalized = operator := by
  cases operator with
  | bare code => cases h
  | sequence items =>
    match items with
    | [] => rfl
    | [head] =>
      cases hw : head.word? with
      | none => rw [normalized, hw]
      | some word =>
        rw [decode, hw] at h
        cases h
    | _ :: _ :: _ => rfl

/-- A normal form is its own normal form. -/
theorem normalized_normalized (operator : Operator) :
    operator.normalized.normalized = operator.normalized := by
  cases h : operator.decode with
  | error fault => rw [normalized_of_decode_error h, normalized_of_decode_error h]
  | ok call =>
    rw [decoded_iff_normalized.1 (decoded_of_decode h)]
    exact normalized_call _ _

end Operator

end ScriptTree
