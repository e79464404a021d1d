import ScriptTree.Proofs.Document.Pairs
/-!
# Equality of documents as data

Comparing documents as data looks at every value of every script. Whatever the fractions in it, a
document is the same data as itself.

Main statements: `Document.sameData_refl`, and `Document.sameData_iff`, which compares the operators
of two documents one by one.
-/

namespace ScriptTree

theorem Decimal.sameValue_refl (d : Decimal) : d.sameValue d = true := by
  simp [sameValue]

namespace Json

theorem Number.sameData_refl (n : Number) : n.sameData n = true := by
  cases n with
  | int n => exact decide_eq_true rfl
  | float d => exact d.sameValue_refl

mutual

theorem sameData_refl : (json : Json) → sameData json json = true
  | .null => rfl
  | .bool _ => decide_eq_true rfl
  | .number n => n.sameData_refl
  | .string _ => decide_eq_true rfl
  | .array items => sameItems_refl items
  | .object fields => sameFields_refl fields

theorem sameItems_refl : (items : List Json) → sameItems items items = true
  | [] => rfl
  | item :: items => by rw [sameItems, sameData_refl item, sameItems_refl items]; rfl

theorem sameFields_refl : (fields : List (String × Json)) → sameFields fields fields = true
  | [] => rfl
  | (name, value) :: fields => by
    rw [sameFields, sameData_refl value, sameFields_refl fields, decide_eq_true rfl]
    rfl

end

end Json

theorem Operator.sameData_refl (operator : Operator) : operator.sameData operator = true := by
  cases operator with
  | bare code => exact decide_eq_true rfl
  | sequence items => exact Json.sameItems_refl items

namespace Document

theorem sameScript_refl (script : Script) : sameScript script script = true := by
  induction script with
  | nil => rfl
  | cons operator script ih => rw [sameScript, operator.sameData_refl, ih]; rfl

theorem sameSources_refl (sources : List (Source Script)) : sameSources sources sources = true := by
  induction sources with
  | nil => rfl
  | cons source sources ih =>
    rw [sameSources, sameScript_refl, ih, decide_eq_true rfl]
    rfl

theorem sameData_refl (document : Document Script) : document.sameData document = true := by
  simp [sameData, sameSources_refl, sameScript_refl]

/-! ## Item by item -/

theorem sameScript_iff {a b : Script} :
    sameScript a b = true ↔ List.Forall₂ (fun x y => x.sameData y = true) a b := by
  induction a generalizing b with
  | nil => cases b <;> simp [sameScript]
  | cons x a ih => cases b <;> simp [sameScript, ih]

theorem sameSources_iff {a b : List (Source Script)} :
    sameSources a b = true ↔
      List.Forall₂ (PairsSource fun s t => sameScript s t = true) a b := by
  induction a generalizing b with
  | nil => cases b <;> simp [sameSources]
  | cons x a ih => cases b <;> simp [sameSources, PairsSource, ih]

/-- Documents are the same data when their scripts are, operator by operator, and everything else is
equal. -/
theorem sameData_iff {a b : Document Script} :
    a.sameData b = true ↔
      a.Pairs (List.Forall₂ fun x y => x.sameData y = true) b := by
  simp only [sameData, Bool.and_eq_true, decide_eq_true_eq, sameSources_iff, sameScript_iff]
  constructor
  · rintro ⟨⟨⟨⟨⟨hname, hdescription⟩, hnotBefore⟩, hretrieve⟩, haggregate⟩, htally⟩
    exact ⟨hname, hdescription, hnotBefore, hretrieve, haggregate, htally⟩
  · rintro ⟨hname, hdescription, hnotBefore, hretrieve, haggregate, htally⟩
    exact ⟨⟨⟨⟨⟨hname, hdescription⟩, hnotBefore⟩, hretrieve⟩, haggregate⟩, htally⟩

end Document

end ScriptTree
