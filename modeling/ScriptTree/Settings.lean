import ScriptTree.Catalog.Standard
import ScriptTree.Form.Type
/-!
# Settings

What a caller can set: the first handle of an arena, and a catalog in place of the standard one.
Settings come as a record, or from two environment variables, where a value that does not fit is
passed over.
-/

namespace ScriptTree

/-- The settings of a conversion. -/
structure Settings where
  cacheOrigin : UInt32 := 1
  catalogPath : Option String := none
deriving DecidableEq

/-- Whether a character is white space. -/
def isSpace (c : Char) : Bool :=
  ('\t' ≤ c && c ≤ '\r') || c = ' ' || c = '\u0085' || c = '\u00a0' || c = '\u1680' ||
    ('\u2000' ≤ c && c ≤ '\u200a') || c = '\u2028' || c = '\u2029' || c = '\u202f' ||
    c = '\u205f' || c = '\u3000'

namespace Settings

/-- The number that a value of the environment spells: decimal digits behind at most one plus
sign. -/
def origin? (text : String) : Option UInt32 :=
  let number := match text.toList with
    | '+' :: digits | digits => Digits.value? 10 digits
  number.bind fun n => if n < UInt32.size then some (UInt32.ofNat n) else none

/-- The settings in the values of two environment variables. A blank path is no path. -/
def ofEnvironment (origin path : Option String) : Settings where
  cacheOrigin := (origin.bind origin?).getD 1
  catalogPath := path.filter fun path => !path.toList.all isSpace

/-- The settings with those that are given in their place. -/
def override (settings : Settings) (path : Option String) (origin : Option UInt32) : Settings where
  cacheOrigin := origin.getD settings.cacheOrigin
  catalogPath := path.or settings.catalogPath

/-! ## JSON form -/

/-- Settings are written as a record. -/
def toJson (settings : Settings) : Json :=
  .object [("cache_origin", .nat settings.cacheOrigin.toNat),
    ("catalog_path", match settings.catalogPath with
      | some path => .string path
      | none => .null)]

/-- Reads settings; each of them may be missing. -/
def decode : Decoder Settings := fun passage json => do
  let expected := "struct MarkupConfig"
  let record ← Decode.record expected json
  let origin := record.optional passage 0 "cache_origin" 1 Decode.word32
  let path := record.optional passage 1 "catalog_path" none (Decode.option Decode.string)
  record.settle passage expected [origin.fault?, path.fault?]
  return ⟨← origin.value, ← path.value⟩

end Settings

end ScriptTree
