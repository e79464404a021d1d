import ScriptTree.Fault
/-!
# Operators and scripts

A script is a list of operators. An operator is a code alone, or a sequence of a code and its raw
arguments. A sequence may hold anything: whether it starts with a code is found out when it is
decoded.

Main statements: decoding a call gives its code and arguments back (`Operator.decode_call`), and
normalization does not change what an operator decodes to (`Operator.decode_normalized`).
-/

namespace ScriptTree

/-- One operator of a script. -/
inductive Operator where
  | bare (code : OperatorCode)
  | sequence (items : List Json)
deriving DecidableEq

/-- The operators of one stage, in order. -/
abbrev Script := List Operator

/-- The code as a JSON number. -/
def OperatorCode.toJson (code : OperatorCode) : Json :=
  .nat code.value.toNat

namespace Operator

/-! ## Operations -/

/-- The operator with a code and raw arguments; without arguments it is the code alone. -/
def call (code : OperatorCode) : List Json → Operator
  | [] => .bare code
  | args => .sequence (code.toJson :: args)

/-- The shortest spelling: a sequence of a code alone becomes that code. -/
def normalized : Operator → Operator
  | .sequence [head] =>
    match head.word? with
    | some code => .bare ⟨code⟩
    | none => .sequence [head]
  | operator => operator

/-- The code of an operator, and its raw arguments unless it is a code alone. -/
def decode : Operator → Except Fault (OperatorCode × Option (List Json))
  | .bare code => .ok (code, none)
  | .sequence [] => .error (.malformedOperator .emptySequence)
  | .sequence (head :: args) =>
    match head.word? with
    | some code => .ok (⟨code⟩, some args)
    | none => .error (.malformedOperator (.notCode head))

/-- Equality as data, where the two zeros are equal. -/
def sameData : Operator → Operator → Bool
  | .bare a, .bare b => a = b
  | .sequence a, .sequence b => Json.sameItems a b
  | _, _ => false

/-! ## Decoding what was built -/

theorem word?_toJson (code : OperatorCode) : code.toJson.word? = some code.value := by
  rw [OperatorCode.toJson, Json.word?_nat]

theorem decode_call (code : OperatorCode) (args : List Json) :
    (decode (call code args)).map (fun r => (r.1, r.2.getD [])) = .ok (code, args) := by
  cases args with
  | nil => rfl
  | cons a as => simp [call, decode, word?_toJson, Except.map]

theorem decode_normalized (operator : Operator) :
    (decode operator.normalized).map (fun r => (r.1, r.2.getD [])) =
      (decode operator).map (fun r => (r.1, r.2.getD [])) := by
  cases operator with
  | bare code => rfl
  | sequence items =>
    match items with
    | [] => rfl
    | [head] =>
      cases h : head.word? with
      | none => simp [normalized, decode, h]
      | some code => simp [normalized, decode, h, Except.map]
    | _ :: _ :: _ => rfl

end Operator

end ScriptTree
