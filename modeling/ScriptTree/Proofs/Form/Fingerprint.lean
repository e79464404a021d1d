import ScriptTree.Proofs.Form.Lossless
import ScriptTree.Proofs.Json.Readability
/-!
# Fingerprints tell views apart

The bytes that the fingerprint of a document is taken of determine the view of the document: its
JSON form loses nothing, the compact text of that form is readable in one way, and so are the bytes
of the text. The digits of a hash determine the hash. So two documents with one fingerprint show the
same, or else their views are two different byte sequences with one hash.

Main statement: `Editor.fingerprints_tell_views_apart`.
-/

namespace ScriptTree

/-! ## Digits of a hash -/

namespace Blake3

/-- Two different byte sequences with one hash. -/
def Collide (first second : ByteArray) : Prop :=
  first ≠ second ∧ hash first = hash second

theorem hex_byte : ∀ n < 256, (Digits.padded 2 (Digits.hex n)).length = 2 ∧
    Digits.value? 16 (Digits.padded 2 (Digits.hex n)) = some n := by decide +kernel

/-- Equal texts made of pieces of one length are made of equal pieces. -/
theorem forall₂_of_flatMap_eq {α : Type} {f : α → List Char} {size : Nat}
    (hsize : ∀ a, (f a).length = size) {xs ys : List α} (hlength : xs.length = ys.length)
    (h : xs.flatMap f = ys.flatMap f) : List.Forall₂ (fun x y => f x = f y) xs ys := by
  induction xs generalizing ys with
  | nil =>
    cases ys with
    | nil => exact .nil
    | cons y ys => cases hlength
  | cons x xs ih =>
    cases ys with
    | nil => cases hlength
    | cons y ys =>
      rw [List.flatMap_cons, List.flatMap_cons] at h
      obtain ⟨hhead, htail⟩ := List.append_inj h ((hsize x).trans (hsize y).symm)
      exact .cons hhead (ih (Nat.succ.inj hlength) htail)

/-- The two digits of the lowest byte of a word. -/
def byteDigits (word : UInt32) : List Char :=
  Digits.padded 2 (Digits.hex (word &&& 0xff).toNat)

theorem toNat_lowest (word : UInt32) : (word &&& 0xff).toNat = word.toNat % 256 := by
  rw [UInt32.toNat_and]
  exact Nat.and_two_pow_sub_one_eq_mod word.toNat 8

theorem length_byteDigits (word : UInt32) : (byteDigits word).length = 2 := by
  rw [byteDigits, toNat_lowest]
  exact (hex_byte _ (Nat.mod_lt _ (by decide))).1

theorem byteDigits_inj {a b : UInt32} (h : byteDigits a = byteDigits b) :
    a.toNat % 256 = b.toNat % 256 := by
  rw [byteDigits, byteDigits, toNat_lowest, toNat_lowest] at h
  have hread := (hex_byte _ (Nat.mod_lt a.toNat (by decide))).2
  rw [h, (hex_byte _ (Nat.mod_lt b.toNat (by decide))).2] at hread
  exact (Option.some.inj hread).symm

/-- The eight digits of a word, the lowest byte first. -/
def wordDigits (word : UInt32) : List Char :=
  [word, word >>> 8, word >>> 16, word >>> 24].flatMap byteDigits

theorem length_wordDigits (word : UInt32) : (wordDigits word).length = 8 := by
  simp [wordDigits, length_byteDigits]

theorem wordDigits_inj {a b : UInt32} (h : wordDigits a = wordDigits b) : a = b := by
  have hbytes := forall₂_of_flatMap_eq length_byteDigits (by rfl) h
  simp only [List.forall₂_cons, List.forall₂_nil_left_iff, and_true] at hbytes
  obtain ⟨hfirst, hsecond, hthird, hfourth⟩ := hbytes
  have hshift : ∀ word : UInt32, (word >>> 8).toNat = word.toNat / 2 ^ 8 ∧
      (word >>> 16).toNat = word.toNat / 2 ^ 16 ∧ (word >>> 24).toNat = word.toNat / 2 ^ 24 := by
    intro word
    simp only [UInt32.toNat_shiftRight]
    exact ⟨Nat.shiftRight_eq_div_pow .., Nat.shiftRight_eq_div_pow ..,
      Nat.shiftRight_eq_div_pow ..⟩
  obtain ⟨ha, ha', ha''⟩ := hshift a
  obtain ⟨hb, hb', hb''⟩ := hshift b
  have h1 := byteDigits_inj hfirst
  have h2 := byteDigits_inj hsecond
  have h3 := byteDigits_inj hthird
  have h4 := byteDigits_inj hfourth
  rw [ha, hb] at h2
  rw [ha', hb'] at h3
  rw [ha'', hb''] at h4
  have hlt := a.toNat_lt
  have hlt' := b.toNat_lt
  apply UInt32.toNat_inj.1
  omega

/-- The digits of a hash determine it. -/
theorem hex_inj {a b : Chaining} : hex a = hex b ↔ a = b := by
  refine ⟨fun h => ?_, fun h => congrArg hex h⟩
  have hwords := forall₂_of_flatMap_eq length_wordDigits (by simp)
    (String.ofList_injective (h : String.ofList (a.toList.flatMap wordDigits) =
      String.ofList (b.toList.flatMap wordDigits)))
  have hsame : List.Forall₂ (· = ·) a.toList b.toList := hwords.imp fun _ _ => wordDigits_inj
  rw [List.forall₂_eq_eq_eq] at hsame
  exact Vector.toList_inj.1 hsame

end Blake3

/-! ## Bytes of views -/

/-- The form of documents as trees loses nothing. -/
theorem Document.toJson_views_inj {a b : Document (List SelectView)} :
    toJson views a = toJson views b ↔ a = b := by
  refine ⟨fun h => ?_, fun h => congrArg (toJson views) h⟩
  have hread (document : Document (List SelectView)) :
      fromJson views .direct (toJson views document) = .ok document :=
    fromJson_views_arranged .id document fun _ _ => rfl
  exact Except.ok.inj ((hread a).symm.trans ((congrArg (fromJson views .direct) h).trans (hread b)))

/-- The bytes that the fingerprint of a document is taken of. -/
def Document.viewBytes (document : Document (List SelectView)) : ByteArray :=
  (toJson views document).compact.toUTF8

theorem Document.viewBytes_inj {a b : Document (List SelectView)} :
    a.viewBytes = b.viewBytes ↔ a = b := by
  rw [viewBytes, viewBytes, ← toJson_views_inj, ← Json.compact_inj]
  exact String.toByteArray_inj

theorem Editor.fingerprint_eq (editor : Editor) :
    editor.fingerprint =
      (fun document => Blake3.hex (Blake3.hash document.viewBytes)) <$> editor.view := by
  rw [fingerprint, viewToJson]
  cases editor.view <;> rfl

/-- Fingerprints tell views apart. The bytes that are hashed are equal exactly for equal views, of
any size and with any texts and literals in them. So two documents have one fingerprint exactly when
they show the same, unless their views are a collision of the hash. -/
theorem Editor.fingerprints_tell_views_apart :
    (∀ a b : Document (List SelectView), a.viewBytes = b.viewBytes ↔ a = b) ∧
    ∀ editor other : Editor, editor.fingerprint = other.fingerprint ↔
      editor.view = other.view ∨ ∃ a b, editor.view = .ok a ∧ other.view = .ok b ∧
        Blake3.Collide a.viewBytes b.viewBytes := by
  refine ⟨fun a b => Document.viewBytes_inj, fun editor other => ?_⟩
  rw [fingerprint_eq, fingerprint_eq]
  cases editor.view with
  | error fault => cases other.view <;> simp [Functor.map, Except.map]
  | ok a =>
    cases other.view with
    | error fault => simp [Functor.map, Except.map]
    | ok b =>
      constructor
      · intro h
        have hhash := Blake3.hex_inj.1 (Except.ok.inj h)
        by_cases hbytes : a.viewBytes = b.viewBytes
        · exact .inl (congrArg Except.ok (Document.viewBytes_inj.1 hbytes))
        · exact .inr ⟨a, b, rfl, rfl, hbytes, hhash⟩
      · rintro (h | ⟨_, _, ⟨⟩, ⟨⟩, -, hhash⟩)
        · rw [h]
        · exact congrArg (Except.ok ∘ Blake3.hex) hhash

end ScriptTree
