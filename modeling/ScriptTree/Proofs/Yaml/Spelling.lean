import ScriptTree.Proofs.Json.Arrangement
import ScriptTree.Proofs.Steps
import ScriptTree.Yaml.Decode
/-!
# Reading what a text spells

A node spells a JSON value when it is the plain tree of that value: scalars with the content of the
leaves, sequences for arrays and mappings for objects, without tags and references. A text spells
the value of its only document.

Reading from such nodes never looks at the rest of the text. What each decoder gives on the spelling
of a value is said here, in the shape in which records put decoders together.

Main statements: a record is read when its body is, from fields that spell the record's fields
(`Decode.reads_record`), a list when its items are (`Decode.reads_list`), and a text when its root
is (`Decode.run_eq_ok`).
-/

namespace ScriptTree.Yaml

/-! ## Spelling -/

mutual

/-- Whether a node is the plain tree of a value. A string may be a scalar of any style, as its
reader knows to expect a text. -/
def Node.spells : Json → Node → Bool
  | .null, .scalar none .plain content => content = "null"
  | .bool b, .scalar none .plain content => content = if b then "true" else "false"
  | .number n, .scalar none .plain content => content = String.ofList n.spell
  | .string text, .scalar none _ content => content = text
  | .array items, .sequence none nodes => spellsItems items nodes
  | .object fields, .mapping none entries => spellsFields fields entries
  | _, _ => false

/-- Whether nodes are the plain trees of values, one by one. -/
def Node.spellsItems : List Json → List Node → Bool
  | [], [] => true
  | item :: items, node :: nodes => spells item node && spellsItems items nodes
  | _, _ => false

/-- Whether entries are the names of fields with the plain trees of their values, one by one. -/
def Node.spellsFields : List (String × Json) → List (Node × Node) → Bool
  | [], [] => true
  | (name, value) :: fields, (.scalar none _ content, node) :: entries =>
    content = name && spells value node && spellsFields fields entries
  | _, _ => false

end

/-- Whether a text is one document without names, and nothing else, whose root spells a value. -/
def spells (source : String) (value : Json) : Bool :=
  match Content.read? source with
  | some ⟨some root, [], true⟩ => root.spells value
  | _ => false

namespace Node

variable {node : Node}

theorem eq_of_spells_bool {b : Bool} (h : node.spells (.bool b) = true) :
    node = .scalar none .plain (if b then "true" else "false") := by
  unfold spells at h
  split at h <;> simp_all

theorem eq_of_spells_number {n : Json.Number} (h : node.spells (.number n) = true) :
    node = .scalar none .plain (String.ofList n.spell) := by
  unfold spells at h
  split at h <;> simp_all

theorem exists_of_spells_string {text : String} (h : node.spells (.string text) = true) :
    ∃ style, node = .scalar none style text := by
  unfold spells at h
  split at h <;> simp_all

theorem forall₂_of_spellsItems {items : List Json} {nodes : List Node}
    (h : spellsItems items nodes = true) :
    List.Forall₂ (fun item node => node.spells item = true) items nodes := by
  induction items generalizing nodes with
  | nil =>
    cases nodes with
    | nil => exact .nil
    | cons node nodes => cases h
  | cons item items ih =>
    cases nodes with
    | nil => cases h
    | cons node nodes =>
      obtain ⟨hitem, hrest⟩ := Bool.and_eq_true_iff.1 h
      exact .cons hitem (ih hrest)

theorem exists_of_spells_array {items : List Json} (h : node.spells (.array items) = true) :
    ∃ nodes, node = .sequence none nodes ∧
      List.Forall₂ (fun item node => node.spells item = true) items nodes := by
  unfold spells at h
  split at h
  case h_5 nodes heq =>
    cases heq
    exact ⟨nodes, rfl, forall₂_of_spellsItems h⟩
  all_goals simp_all

theorem exists_of_spells_object {fields : List (String × Json)}
    (h : node.spells (.object fields) = true) :
    ∃ entries, node = .mapping none entries ∧ spellsFields fields entries = true := by
  unfold spells at h
  split at h
  case h_6 entries heq =>
    cases heq
    exact ⟨entries, rfl, h⟩
  all_goals simp_all

theorem exists_of_spellsFields_cons {name : String} {value : Json}
    {fields : List (String × Json)} {entries : List (Node × Node)}
    (h : spellsFields ((name, value) :: fields) entries = true) :
    ∃ style node rest, entries = (.scalar none style name, node) :: rest ∧
      node.spells value = true ∧ spellsFields fields rest = true := by
  unfold spellsFields at h
  split at h <;> simp_all

end Node

theorem exists_root {source : String} {value : Json} (h : spells source value = true) :
    ∃ root, Content.read? source = some ⟨some root, [], true⟩ ∧ root.spells value = true := by
  unfold spells at h
  split at h
  · next root hread => exact ⟨root, hread, h⟩
  · cases h

namespace Decode

/-! ## Steps of decoding -/

/-- The step gives the value in any text, and follows no reference. -/
def Reads {α : Type} (step : Decoding α) (value : α) : Prop :=
  ∀ content followed, (step.run content).run followed = .ok (value, followed)

section Steps

variable {α β : Type}

theorem reads_pure (value : α) : Reads (pure value) value :=
  fun _ _ => rfl

theorem Reads.bind {step : Decoding α} {next : α → Decoding β} {value : α} {result : β}
    (h : Reads step value) (hnext : Reads (next value) result) :
    Reads (step >>= next) result := by
  intro content followed
  rw [ReaderT.run_bind, StateT.run_bind, h content followed]
  exact hnext content followed

theorem Reads.map {step : Decoding α} {value : α} (h : Reads step value) (f : α → β) :
    Reads (f <$> step) (f value) := by
  rw [map_eq_pure_bind]
  exact h.bind (reads_pure (f value))

theorem reads_mapM {item : Node → Decoding α} {nodes : List Node} {values : List α}
    (h : List.Forall₂ (fun node value => Reads (item node) value) nodes values) :
    Reads (nodes.mapM item) values := by
  induction h with
  | nil => exact reads_pure []
  | cons hitem _ ih =>
    rw [List.mapM_cons]
    exact hitem.bind (ih.bind (reads_pure _))

end Steps

/-! ## Numbers in digits -/

/-- A decimal digit is neither a plus sign nor, unless it is zero, the zero in front of a base. -/
theorem digitChar_ne : ∀ d < 10, Nat.digitChar d ≠ '+' ∧ (Nat.digitChar d = '0' → d = 0) := by
  decide

/-- The decimal digits of a number begin with one that is zero only if the number is. -/
theorem decimal_eq_cons (n : Nat) : ∃ d rest, Digits.decimal n = Nat.digitChar d :: rest ∧
    d < 10 ∧ (d = 0 → rest = []) := by
  induction n using Nat.strongRecOn with
  | ind n ih =>
    rw [Digits.decimal]
    by_cases h : n < 10
    · rw [if_pos h]
      exact ⟨n, [], rfl, h, fun _ => rfl⟩
    · rw [if_neg h]
      obtain ⟨d, rest, hdigits, hd, hzero⟩ := ih (n / 10) (by omega)
      refine ⟨d, rest ++ [Nat.digitChar (n % 10)], by rw [hdigits]; rfl, hd, fun h0 => ?_⟩
      -- the leading digit is not zero, as what is left of the number is not
      subst h0
      have hvalue := Digits.value?_decimal (n / 10)
      rw [hdigits, hzero rfl] at hvalue
      have : n / 10 = 0 := (Option.some.inj hvalue).symm
      omega

/-- A text reads the decimal digits of a number as the number. -/
theorem natural?_decimal (n : Nat) : natural? (Digits.decimal n) = some n := by
  have hvalue := Digits.value?_decimal n
  obtain ⟨d, rest, hdigits, hd, hzero⟩ := decimal_eq_cons n
  obtain ⟨hplus, hlead⟩ := digitChar_ne d hd
  rw [hdigits] at hvalue ⊢
  by_cases h0 : d = 0
  · subst h0
    rw [hzero rfl] at hvalue ⊢
    exact hvalue
  · have hne : Nat.digitChar d ≠ '0' := fun h => h0 (hlead h)
    have hled : isZeroLed (Nat.digitChar d :: rest) = false := by
      unfold isZeroLed
      split
      · next h => exact absurd (List.cons.inj h).1 hne
      · rfl
    unfold natural? magnitude?
    split <;> split <;> simp_all

/-! ## Scalars -/

variable {value : Json} {node : Node} {depth : Nat}

theorem reads_text (depth : Nat) (style : Style) (content : String) :
    Reads (text depth (.scalar none style content)) content :=
  reads_pure content

theorem reads_demand {α : Type} (value : α) : Reads (demand (some value)) value :=
  reads_pure value

theorem reads_string {content : String} (h : node.spells (.string content) = true) (depth : Nat) :
    Reads (text depth node) content := by
  obtain ⟨style, rfl⟩ := Node.exists_of_spells_string h
  exact reads_text depth style content

/-- A truth value is read from its name. -/
theorem reads_bool {b : Bool} (h : node.spells (.bool b) = true) (depth : Nat) :
    Reads (bool depth node) b := by
  obtain rfl := Node.eq_of_spells_bool h
  cases b <;> exact reads_pure _

theorem reads_word64 {word : UInt64} (h : node.spells (.nat word.toNat) = true) (depth : Nat) :
    Reads (word64 depth node) word := by
  obtain rfl := Node.eq_of_spells_number h
  have hnatural : natural? (String.ofList (Json.Number.int word.toNat).spell).toList =
      some word.toNat := by
    rw [String.toList_ofList]
    exact natural?_decimal word.toNat
  have hbelow : Reads (natBelow UInt64.size depth
      (.scalar none .plain (String.ofList (Json.Number.int word.toNat).spell))) word.toNat := by
    show Reads (demand (natural? _) >>= fun n => if n < UInt64.size then pure n else unreadable) _
    rw [hnatural]
    refine (reads_demand _).bind ?_
    rw [if_pos word.toNat_lt_size]
    exact reads_pure _
  have hword := hbelow.map UInt64.ofNat
  rwa [UInt64.ofNat_toNat] at hword

/-- A member of a closed set is read from its name. -/
theorem reads_member {α : Type} {all : List α} {name : α → String} {member : α}
    (hfind : (all.find? fun a => name a = name member) = some member)
    (h : node.spells (.string (name member)) = true) (depth : Nat) :
    Reads (Decode.member all name depth node) member := by
  obtain ⟨style, rfl⟩ := Node.exists_of_spells_string h
  show Reads (demand (all.find? fun a => name a = name member)) member
  rw [hfind]
  exact reads_demand member

/-! ## Collections -/

/-- A list is read when its items are. -/
theorem reads_list {α : Type} {encode : α → Json} {item : Decoder α} {values : List α}
    (h : node.spells (.array (values.map encode)) = true)
    (hitem : ∀ value (node : Node), node.spells (encode value) = true →
      Reads (item depth node) value) :
    Reads (list item (depth + 1) node) values := by
  obtain ⟨nodes, rfl, heach⟩ := Node.exists_of_spells_array h
  refine reads_mapM (List.Forall₂.imp ?_ (List.forall₂_map_left_iff.1 heach).flip)
  exact fun node value hnode => hitem value node hnode

/-- The fields of a record hold spellings of the values under the same names, and nothing under
other names. -/
def Finds (source : List (String × Json)) (fields : Fields) : Prop :=
  ∀ name, Option.Rel (fun value node => node.spells value = true) (Table.get? name source)
    (fields name)

theorem Finds.present {source : List (String × Json)} {fields : Fields} {name : String}
    (h : Finds source fields) (hfield : Table.get? name source = some value) :
    ∃ node, fields name = some node ∧ node.spells value = true := by
  have hname := h name
  rw [hfield] at hname
  cases hnode : fields name with
  | none =>
    rw [hnode] at hname
    cases hname
  | some node =>
    rw [hnode] at hname
    cases hname with
    | some hspells => exact ⟨node, rfl, hspells⟩

theorem Finds.absent {source : List (String × Json)} {fields : Fields} {name : String}
    (h : Finds source fields) (hfield : Table.get? name source = none) : fields name = none := by
  have hname := h name
  rw [hfield] at hname
  cases hnode : fields name with
  | none => rfl
  | some node =>
    rw [hnode] at hname
    cases hname

/-- Entries with different names, all of them expected, are found under their names. -/
theorem reads_namedFields {names : List String} {source : List (String × Json)}
    {entries : List (Node × Node)} (h : Node.spellsFields source entries = true)
    (hexpected : ∀ field ∈ source, field.1 ∈ names) (hnodup : (source.map Prod.fst).Nodup) :
    ∃ fields, Reads (namedFields names entries) fields ∧
      Finds source fun name => fields.lookup name := by
  induction source generalizing entries with
  | nil =>
    cases entries with
    | nil => exact ⟨[], reads_pure [], fun _ => .none⟩
    | cons entry entries => cases h
  | cons field source ih =>
    obtain ⟨name, value⟩ := field
    obtain ⟨style, node, entries, rfl, hvalue, hrest⟩ := Node.exists_of_spellsFields_cons h
    obtain ⟨hname, hexpected⟩ := List.forall_mem_cons.1 hexpected
    obtain ⟨hnew, hnodup⟩ := List.nodup_cons.1 hnodup
    obtain ⟨fields, hfields, hfinds⟩ := ih hrest hexpected hnodup
    have hfree : fields.lookup name = none := hfinds.absent (Table.get?_eq_none_iff.2 hnew)
    refine ⟨(name, node) :: fields, ?_, fun other => ?_⟩
    · rw [namedFields]
      refine (reads_text 0 style name).bind (hfields.bind ?_)
      simp only [List.contains_iff_mem.2 hname, hfree]
      exact reads_pure _
    · show Option.Rel _ _ (((name, node) :: fields).lookup other)
      rw [Table.get?_cons, List.lookup_cons]
      by_cases heq : other = name
      · simpa [heq] using hvalue
      · simpa [heq, beq_eq_false_iff_ne.2 heq] using hfinds other

/-- A record is read when its body is. -/
theorem reads_record {α : Type} {names : List String} {body : (depth : Nat) → Fields → Decoding α}
    {source : List (String × Json)} {result : α} (h : node.spells (.object source) = true)
    (hexpected : ∀ field ∈ source, field.1 ∈ names) (hnodup : (source.map Prod.fst).Nodup)
    (hbody : ∀ fields, Finds source fields → Reads (body depth fields) result) :
    Reads (record names body (depth + 1) node) result := by
  obtain ⟨entries, rfl, heach⟩ := Node.exists_of_spells_object h
  obtain ⟨fields, hfields, hfinds⟩ := reads_namedFields heach hexpected hnodup
  show Reads (namedFields names _ >>= fun fields => body depth fun name => fields.lookup name) _
  exact hfields.bind (hbody _ hfinds)

/-- A field that is there is read as its value is. -/
theorem Finds.reads_needed {α : Type} {source : List (String × Json)} {fields : Fields}
    {name : String} {decoder : Decoder α} {result : α} (h : Finds source fields)
    (hfield : Table.get? name source = some value)
    (hvalue : ∀ node : Node, node.spells value = true → Reads (decoder depth node) result) :
    Reads (needed (fields name) decoder depth) result := by
  obtain ⟨node, hnode, hspells⟩ := h.present hfield
  rw [hnode]
  exact (reads_demand node).bind (hvalue node hspells)

/-- A field with a default is read as its value is, if it is there. -/
theorem Finds.reads_defaulted {α : Type} {source : List (String × Json)} {fields : Fields}
    {name : String} {decoder : Decoder α} {default result : α} (h : Finds source fields)
    (hpresent : ∀ value, Table.get? name source = some value →
      ∀ node : Node, node.spells value = true → Reads (decoder depth node) result)
    (habsent : Table.get? name source = none → result = default) :
    Reads (defaulted (fields name) default decoder depth) result := by
  cases hfield : Table.get? name source with
  | none =>
    rw [h.absent hfield, habsent hfield]
    exact reads_pure default
  | some value =>
    obtain ⟨node, hnode, hspells⟩ := h.present hfield
    rw [hnode]
    exact hpresent value hfield node hspells

/-! ## Texts -/

/-- A text is read when the value that it spells is. -/
theorem run_eq_ok {α : Type} {decoder : Decoder α} {source : String} {result : α}
    (h : spells source value = true)
    (hroot : ∀ node : Node, node.spells value = true → Reads (decoder depthLimit node) result) :
    run decoder source = .ok result := by
  obtain ⟨root, hread, hspells⟩ := exists_root h
  have hresult : decoder depthLimit root ⟨some root, [], true⟩ 0 = .ok (result, 0) :=
    hroot root hspells _ 0
  unfold run
  rw [hread]
  show (do
    let value ← Prod.fst <$> decoder depthLimit root ⟨some root, [], true⟩ 0
    if true then return value else throw ParseFault.unreadable) = Except.ok result
  rw [hresult]
  rfl

end Decode

end ScriptTree.Yaml
