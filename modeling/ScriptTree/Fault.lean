import ScriptTree.Identifier
import ScriptTree.Json.Writer
import ScriptTree.Type.Value
/-!
# Faults

Everything that can go wrong, by cause. The wording of every cause is in `Fault.message` and the
`message` functions of its parts; nothing else in the library depends on it.
-/

namespace ScriptTree

/-! ## Parts -/

/-- The kinds of nodes an arena holds. -/
inductive NodeKind where
  | select
  | option
  | input
deriving DecidableEq, Repr

/-- The name of a node kind. -/
def NodeKind.name : NodeKind → String
  | .select => "select"
  | .option => "option"
  | .input => "input"

/-- Why an operator has no code. -/
inductive OperatorFault where
  | emptySequence
  | notCode (head : Json)
deriving DecidableEq

def OperatorFault.message : OperatorFault → String
  | .emptySequence => "empty operator sequence"
  | .notCode head => "operator head `" ++ head.compact ++ "` is not a code"

/-- Why an argument does not fit its operator. -/
inductive ArgumentFault where
  | tooMany (name : String) (declared given : Nat)
  | notPair (name : String) (raw : Json)
  | unknownFilter (tag : Json)
  | unknownReducer (raw : Json)
deriving DecidableEq

def ArgumentFault.message : ArgumentFault → String
  | .tooMany name declared given =>
    "`" ++ name ++ "` takes " ++ Digits.text declared ++ " argument(s), got " ++ Digits.text given
  | .notPair name raw =>
    "filter `" ++ name ++ "` must be a [function, operand] pair, got " ++ raw.compact
  | .unknownFilter tag => "unknown filter function " ++ tag.compact
  | .unknownReducer raw => "unknown reducer function " ++ raw.compact

/-- A set of options that a name is looked up in. -/
inductive OptionScope where
  | operators (category : ValueType)
  | filters
  | reducers
deriving DecidableEq

def OptionScope.display : OptionScope → String
  | .operators category => category.name ++ " operators"
  | .filters => "filters"
  | .reducers => "reducers"

/-- Why a position or a node has no place. -/
inductive RangeFault where
  | arenaFull (origin : UInt32) (room needed : Nat)
  | noSource (index : Nat)
  | noOperator (stage : Stage) (index : Nat)
  | noArgument (name : String) (declared index : Nat)
deriving DecidableEq

def RangeFault.message : RangeFault → String
  | .arenaFull origin room needed =>
    "arena starting at id " ++ Digits.text origin.toNat ++ " has room for " ++ Digits.text room ++
      " more node(s), " ++ Digits.text needed ++ " needed"
  | .noSource index => "no retrieve source at index " ++ Digits.text index
  | .noOperator stage index =>
    stage.display ++ " has no operator at index " ++ Digits.text index
  | .noArgument name declared index =>
    "`" ++ name ++ "` has " ++ Digits.text declared ++ " argument(s), no index " ++
      Digits.text index

/-- Why a list of rows is no catalog. -/
inductive CatalogFault where
  | noOutput (code : OperatorCode) (name : String)
  | repeatedCode (code : OperatorCode) (first second : ValueType)
  | repeatedName (name : String) (category : ValueType)
deriving DecidableEq

def CatalogFault.message : CatalogFault → String
  | .noOutput code name =>
    "Catalog error: operator " ++ code.display ++ " `" ++ name ++ "` declares no output type"
  | .repeatedCode code first second =>
    "Catalog error: operator " ++ code.display ++ " appears in categories " ++ first.name ++
      " and " ++ second.name
  | .repeatedName name category =>
    "Catalog error: operator name `" ++ name ++ "` appears twice in category " ++ category.name

/-- Why a node is not what its place asks for. -/
inductive TreeFault where
  | argumentSelect (handle : Handle)
  | noOperand (handle : Handle)
  | nestedOperator (handle : Handle)
  | notOperatorSelect (stage : Stage) (index : Nat)
  | cyclic
deriving DecidableEq

def TreeFault.message : TreeFault → String
  | .argumentSelect handle =>
    handle.display ++ " is an argument select, not a pipeline operator"
  | .noOperand handle => "filter option under " ++ handle.display ++ " has no `by` input"
  | .nestedOperator handle => "operator select " ++ handle.display ++ " nested as an argument"
  | .notOperatorSelect stage index =>
    stage.display ++ "[" ++ Digits.text index ++ "] is not an operator select"
  | .cyclic => "nodes refer to each other in a cycle"

/-- Why a value or a text does not read as what is asked for. -/
inductive ParseFault where
  | wrongType (found expected : String)
  | wrongValue (found expected : String)
  | wrongLength (length : Nat) (expected : String)
  | missingField (name : String)
  | unknownVariant (found : String) (known : List String)
  | noVariant (type : String)
  | unknownType (text : String)
  | catalog (fault : CatalogFault)
  | unreadable
deriving DecidableEq

/-- Names in backticks as the alternatives of a choice. -/
def alternatives : List String → String
  | [] => "there are no variants"
  | [a] => "expected `" ++ a ++ "`"
  | [a, b] => "expected `" ++ a ++ "` or `" ++ b ++ "`"
  | names => "expected one of " ++ ", ".intercalate (names.map fun name => "`" ++ name ++ "`")

/-- The wording of a reading fault. About a text that is no document nothing more is said. -/
def ParseFault.message : ParseFault → String
  | .wrongType found expected => "invalid type: " ++ found ++ ", expected " ++ expected
  | .wrongValue found expected => "invalid value: " ++ found ++ ", expected " ++ expected
  | .wrongLength length expected =>
    "invalid length " ++ Digits.text length ++ ", expected " ++ expected
  | .missingField name => "missing field `" ++ name ++ "`"
  | .unknownVariant found known => "unknown variant `" ++ found ++ "`, " ++ alternatives known
  | .noVariant type => "data did not match any variant of untagged enum " ++ type
  | .unknownType text => "unknown output type `" ++ text ++ "`"
  | .catalog fault => fault.message
  | .unreadable => ""

/-! ## Faults -/

/-- Everything that can go wrong. -/
inductive Fault where
  | unknownOperator (code : OperatorCode)
  | malformedOperator (cause : OperatorFault)
  | malformedArgument (code : OperatorCode) (index : Nat) (cause : ArgumentFault)
  | danglingHandle (handle : Handle)
  | unexpectedNode (handle : Handle) (expected : List NodeKind) (found : NodeKind)
  | unknownOption (scope : OptionScope) (label : String)
  | outOfRange (cause : RangeFault)
  | catalog (cause : CatalogFault)
  | settings (path reason : String)
  | parse (cause : ParseFault)
  | malformedTree (cause : TreeFault)
deriving DecidableEq

/-- The wording of a fault. -/
def Fault.message : Fault → String
  | .unknownOperator code => "Unknown operator: " ++ code.display
  | .malformedOperator cause => "Malformed operator: " ++ cause.message
  | .malformedArgument code index cause =>
    "Malformed argument " ++ Digits.text index ++ " of operator " ++ code.display ++ ": " ++
      cause.message
  | .danglingHandle handle => "Dangling handle: " ++ handle.display
  | .unexpectedNode handle expected found =>
    "Unexpected node at " ++ handle.display ++ ": expected " ++
      " or ".intercalate (expected.map NodeKind.name) ++ ", found " ++ found.name
  | .unknownOption scope label => "Unknown option `" ++ label ++ "` in " ++ scope.display
  | .outOfRange cause => "Out of range: " ++ cause.message
  | .catalog cause => cause.message
  | .settings path reason =>
    "Invalid configuration: cannot read catalog " ++ path ++ ": " ++ reason
  | .parse .unreadable => "Parse error:"
  | .parse cause => "Parse error: " ++ cause.message
  | .malformedTree cause => "Internal invariant failed: " ++ cause.message

end ScriptTree
