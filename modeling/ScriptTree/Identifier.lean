import ScriptTree.Text.Digits
/-!
# Codes, handles and stages

The identifiers of the library: the code that a script writes for an operator, the handle under
which an arena keeps a node, and the stage that a script has in a document. Messages name what they
are about by them.
-/

namespace ScriptTree

/-- The number that stands for an operator. Any number a script can hold is a code; a catalog knows
some of them. -/
structure OperatorCode where
  value : UInt64
deriving DecidableEq, Repr

/-- Codes are ordered as numbers. -/
instance : LT OperatorCode := ⟨fun a b => a.value < b.value⟩

instance : DecidableLT OperatorCode := fun a b => inferInstanceAs (Decidable (a.value < b.value))

/-- A code is shown in hexadecimal with at least two digits. -/
def OperatorCode.display (code : OperatorCode) : String :=
  "0x" ++ String.ofList (Digits.padded 2 (Digits.hex code.value.toNat))

/-- The number under which an arena keeps a node. It means something only together with that
arena. -/
structure Handle where
  id : UInt32
deriving DecidableEq, Repr

/-- The spelling of a handle in messages. -/
def Handle.display (handle : Handle) : String :=
  "CacheRef(" ++ Digits.text handle.id.toNat ++ ")"

/-- The address of one script of a document. -/
inductive Stage where
  | retrieve (index : Nat)
  | aggregate
  | tally
deriving DecidableEq, Repr

/-- The spelling of a stage in messages. -/
def Stage.display : Stage → String
  | .retrieve index => "retrieve[" ++ Digits.text index ++ "]"
  | .aggregate => "aggregate"
  | .tally => "tally"

end ScriptTree
