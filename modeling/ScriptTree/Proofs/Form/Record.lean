import ScriptTree.Form.Type
import ScriptTree.Proofs.Json.Arrangement
import ScriptTree.Proofs.Steps
/-!
# Decoding what was written

What the decoders of simple shapes give on what is written for them: names, numbers, lists, and the
fields of records, with and without a tag. An arrangement of fields may come in between.

Main statements: a field that is there decodes as its value does (`Decode.Record.required_eq_ok`),
the record under a tag is what is left beside it (`Decode.tagged_eq_ok`), and a list decodes when
its items do (`Decode.list_eq_ok`).
-/

namespace ScriptTree

open Decode Json

namespace Decode

variable {arrange : Json → Json} {passage : Passage}

/-! ## Simple values -/

theorem string_eq_ok (passage : Passage) (text : String) :
    string passage (.string text) = .ok text :=
  rfl

theorem word64_eq_ok (passage : Passage) (word : UInt64) :
    word64 passage (.nat word.toNat) = .ok word := by
  show (if word.toNat < UInt64.size then Except.ok (UInt64.ofNat word.toNat) else _) = _
  rw [if_pos word.toNat_lt_size, UInt64.ofNat_toNat]

theorem word32_eq_ok (passage : Passage) (word : UInt32) :
    word32 passage (.nat word.toNat) = .ok word := by
  show (if word.toNat < UInt32.size then Except.ok (UInt32.ofNat word.toNat) else _) = _
  rw [if_pos word.toNat_lt_size, UInt32.ofNat_toNat]

theorem option_eq_ok {α : Type} {some : Decoder α} {json : Json} {value : α}
    (hnull : json ≠ .null) (h : some passage json = .ok value) :
    option some passage json = .ok (.some value) := by
  unfold option
  split
  · exact absurd rfl hnull
  · rw [h]
    rfl

theorem variant_eq_ok {α : Type} {all : List α} {name : α → String} {member : α}
    (h : (all.find? fun a => name a = name member) = some member) :
    variant all name passage (.string (name member)) = .ok member := by
  simp only [variant, Decode.member, h]

theorem mapM_eq_ok_of_map {α : Type} {encode : α → Json} {item : Json → Except ParseFault α}
    {values : List α} (h : ∀ value ∈ values, item (encode value) = .ok value) :
    (values.map encode).mapM item = .ok values :=
  mapM_eq_ok_iff.2 (List.forall₂_map_left_iff.2 (List.forall₂_same.2 h))

/-- A list decodes when its items do. -/
theorem list_eq_ok {α : Type} (ha : Arrangement arrange) {encode : α → Json} {item : Decoder α}
    {values : List α} (h : ∀ value ∈ values, item passage (arrange (encode value)) = .ok value) :
    list item passage (arrange (.array (values.map encode))) = .ok values := by
  rw [ha.array, List.map_map]
  exact mapM_eq_ok_of_map h

/-! ## Fields -/

section Fields

variable {α : Type} {fields : List (String × Json)} {position : Nat} {name : String} {json : Json}
  {decoder : Decoder α} {value default : α}

theorem Record.required_eq_ok (hfield : Table.get? name fields = some json)
    (hvalue : decoder passage json = .ok value) :
    (named fields).required passage position name decoder = .ok value := by
  simp only [required, find?, hfield, hvalue]
  rfl

theorem Record.optional_eq_ok (hfield : Table.get? name fields = some json)
    (hvalue : decoder passage json = .ok value) :
    (named fields).optional passage position name default decoder = .ok value := by
  simp only [optional, find?, hfield, hvalue]
  rfl

theorem Record.optional_eq_default (hfield : Table.get? name fields = none) :
    (named fields).optional passage position name default decoder = .ok default := by
  simp only [optional, find?, hfield]

end Fields

/-! ## Tags -/

/-- The record under a tag is what is left beside it. -/
theorem tagged_eq_ok (ha : Arrangement arrange) (passage : Passage) (type : String)
    (names : List String) (position : Nat) {tag name : String}
    {source fields : List (String × Json)}
    (h : Carries arrange ((tag, .string name) :: source) fields)
    (hname : names.idxOf? name = some position) :
    tagged type tag names passage (.object fields) =
      .ok (position, .object (fields.filter fun field => field.1 ≠ tag)) := by
  have htag : Table.get? tag fields = some (.string name) :=
    (h.present (tag, .string name) List.mem_cons_self).trans (congrArg some (ha.string name))
  have hposition : tagPosition names passage (.string name) = .ok position := by
    simp only [tagPosition, hname]
  simp only [tagged, htag, hposition]
  rfl

end Decode

/-! ## Types and identifiers -/

section Types

variable {arrange : Json → Json} {passage : Passage}

theorem ValueType.decode_arranged (ha : Arrangement arrange) (type : ValueType) :
    decode passage (arrange type.toJson) = .ok type := by
  rw [toJson, ha.string]
  exact variant_eq_ok (by cases type <;> decide)

theorem ArgumentKind.decode_arranged (ha : Arrangement arrange) (kind : ArgumentKind) :
    decode passage (arrange kind.toJson) = .ok kind := by
  rw [toJson, ha.string]
  exact variant_eq_ok (by cases kind <;> decide)

/-- An output of one type and a list of a single type are told apart by their shapes. -/
theorem Output.decode_arranged (ha : Arrangement arrange) (output : Output) :
    decode passage (arrange output.toJson) = .ok output := by
  cases output with
  | one type =>
    have htype : ValueType.decode .direct (.string type.name) = .ok type :=
      ha.string type.name ▸ ValueType.decode_arranged ha type
    rw [toJson, ValueType.toJson, ha.string]
    simp only [decode, htype]
    rfl
  | oneOf types =>
    have htypes : ((types.map ValueType.toJson).map arrange).mapM (ValueType.decode .direct) =
        .ok types := by
      rw [List.map_map]
      exact mapM_eq_ok_of_map fun type _ => ValueType.decode_arranged ha type
    rw [toJson, ha.array]
    simp only [decode, htypes]
    rfl

theorem Handle.decode_arranged (ha : Arrangement arrange) (handle : Handle) :
    decode passage (arrange handle.toJson) = .ok handle := by
  obtain ⟨fields, hfields, hcarries⟩ := ha.object [("id", .nat handle.id.toNat)] (by simp)
  have hid : Table.get? "id" fields = some (.nat handle.id.toNat) :=
    (hcarries.present _ List.mem_cons_self).trans (congrArg some (ha.number _))
  rw [toJson, hfields]
  simp only [decode, record, ok_bind, Record.required_eq_ok hid (word32_eq_ok passage _)]
  rfl

end Types

end ScriptTree
