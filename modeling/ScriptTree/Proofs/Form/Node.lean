import ScriptTree.Form.Node
import ScriptTree.Proofs.Form.Record
/-!
# Decoding nodes

A node that was written, with its fields arranged in any order, decodes to the node. A record of the
tree decodes from the fields that carry its own, whether they stand alone or were left beside a tag.

Main statements: `Node.decode_arranged`, and for the parts that views share with nodes
`SelectKind.decode_arranged`, `Choice.decode_arranged`, `label_eq_ok` and `Input.decode_of_carries`.
-/

namespace ScriptTree

open Decode Json

variable {arrange : Json → Json} {passage : Passage} {fields : List (String × Json)}

/-! ## Kinds -/

theorem Role.decode_arranged (ha : Arrangement arrange) (role : Role) :
    decode passage (arrange role.toJson) = .ok role := by
  rw [toJson, ha.string]
  exact variant_eq_ok (by cases role <;> decide)

theorem SelectKind.decode_arranged (ha : Arrangement arrange) (kind : SelectKind) :
    decode passage (arrange kind.toJson) = .ok kind := by
  have htagged := tagged_eq_ok ha passage "SelectKind" ["operator", "filter", "reducer"]
  cases kind with
  | operator category =>
    obtain ⟨fields, hfields, hcarries⟩ :=
      ha.object [("type", .string "operator"), ("category", category.toJson)] (by simp)
    have hcategory := (hcarries.withoutTag (by simp)).present _ List.mem_cons_self
    rw [toJson, hfields]
    simp only [decode, htagged 0 hcarries (by decide), ok_bind, record,
      Record.required_eq_ok hcategory (ValueType.decode_arranged ha category)]
    rfl
  | filter =>
    obtain ⟨fields, hfields, hcarries⟩ := ha.object [("type", .string "filter")] (by simp)
    rw [toJson, hfields]
    simp only [decode, htagged 1 hcarries (by decide), ok_bind]
    rfl
  | reducer =>
    obtain ⟨fields, hfields, hcarries⟩ := ha.object [("type", .string "reducer")] (by simp)
    rw [toJson, hfields]
    simp only [decode, htagged 2 hcarries (by decide), ok_bind]
    rfl

/-! ## Parts of nodes -/

theorem Choice.decode_arranged (ha : Arrangement arrange) (choice : Choice) :
    decode passage (arrange choice.toJson) = .ok choice := by
  obtain ⟨fields, hfields, hcarries⟩ := ha.object
    [("label", .string choice.label), ("outputType", choice.output.toJson)] (by simp)
  have hpresent := hcarries.present
  simp only [List.forall_mem_cons, ha.string] at hpresent
  obtain ⟨hlabel, houtput, -⟩ := hpresent
  rw [toJson, hfields]
  simp only [decode, record, ok_bind, Record.required_eq_ok hlabel (string_eq_ok passage _),
    Record.required_eq_ok houtput (Output.decode_arranged ha _)]
  rfl

/-- A label is read again, and so is its absence. -/
theorem label_eq_ok (ha : Arrangement arrange) {source : List (String × Json)}
    {label : Option String} {position : Nat} (h : Carries arrange source fields)
    (hsome : ∀ text, label = some text → ("label", .string text) ∈ source)
    (hnone : label = none → "label" ∉ source.map Prod.fst) :
    (Record.named fields).optional passage position "label" none (option string) = .ok label := by
  cases label with
  | none => exact Record.optional_eq_default (h.absent _ (hnone rfl))
  | some text =>
    have hfield := (h.present _ (hsome text rfl)).trans (congrArg some (ha.string text))
    exact Record.optional_eq_ok hfield (option_eq_ok (by simp) rfl)

theorem Select.nodup_names (select : Select) :
    ("markupType" :: select.fields.map Prod.fst).Nodup := by
  cases h : select.label <;> simp [fields, labelField, h]

theorem Select.decode_of_carries (ha : Arrangement arrange) {select : Select}
    (h : Carries arrange select.fields fields) :
    decode passage (.object fields) = .ok select := by
  have hlabel (position : Nat) : (Record.named fields).optional passage position "label" none
      (option string) = .ok select.label :=
    label_eq_ok ha h (fun text hlabel => by simp [Select.fields, labelField, hlabel])
      (fun hlabel => by simp [Select.fields, labelField, hlabel])
  have hpresent := h.present
  simp only [Select.fields, List.forall_mem_cons, List.forall_mem_append] at hpresent
  obtain ⟨⟨hkind, -⟩, houtput, hselected, hoptions, -⟩ := hpresent
  simp only [decode, record, ok_bind, hlabel,
    Record.required_eq_ok hkind (SelectKind.decode_arranged ha _),
    Record.required_eq_ok houtput (Output.decode_arranged ha _),
    Record.required_eq_ok hselected (Handle.decode_arranged ha _),
    Record.required_eq_ok hoptions (list_eq_ok ha fun choice _ => choice.decode_arranged ha)]
  rfl

theorem Chosen.nodup_names (chosen : Chosen) :
    ("markupType" :: chosen.fields.map Prod.fst).Nodup := by
  simp [fields]

theorem Chosen.decode_of_carries (ha : Arrangement arrange) {chosen : Chosen}
    (h : Carries arrange chosen.fields fields) :
    decode passage (.object fields) = .ok chosen := by
  have hpresent := h.present
  simp only [Chosen.fields, List.forall_mem_cons, ha.string] at hpresent
  obtain ⟨hlabel, houtput, harguments, -⟩ := hpresent
  simp only [decode, record, ok_bind, Record.required_eq_ok hlabel (string_eq_ok passage _),
    Record.required_eq_ok houtput (Output.decode_arranged ha _),
    Record.required_eq_ok harguments (list_eq_ok ha fun handle _ => handle.decode_arranged ha)]
  rfl

theorem Input.nodup_names (input : Input) :
    ("markupType" :: input.fields.map Prod.fst).Nodup := by
  simp [fields]

/-- The value of an input comes back if the arrangement leaves it as it is. -/
theorem Input.decode_of_carries (ha : Arrangement arrange) {input : Input}
    (hvalue : arrange input.value = input.value) (h : Carries arrange input.fields fields) :
    decode passage (.object fields) = .ok input := by
  have hpresent := h.present
  simp only [Input.fields, List.forall_mem_cons, ha.string, hvalue] at hpresent
  obtain ⟨hlabel, hkind, hvalue, -⟩ := hpresent
  simp only [decode, record, ok_bind, Record.required_eq_ok hlabel (string_eq_ok passage _),
    Record.required_eq_ok hkind (ArgumentKind.decode_arranged ha _),
    Record.required_eq_ok hvalue (show raw passage input.value = .ok input.value from rfl)]
  rfl

/-! ## Nodes -/

/-- Fields under the tag of nodes, however arranged, give the position of their kind among the
kinds, and what is left beside the tag carries the fields again. -/
theorem tagged_underTag (ha : Arrangement arrange) (passage : Passage) (type : String)
    (kinds : List String) (kind : NodeKind) (position : Nat) {source : List (String × Json)}
    (hnames : ("markupType" :: source.map Prod.fst).Nodup)
    (hkind : kinds.idxOf? kind.name = some position) :
    ∃ body, tagged type "markupType" kinds passage (arrange (underTag kind source)) =
        .ok (position, .object body) ∧
      Carries arrange source body ∧ depthFields body < (arrange (underTag kind source)).depth := by
  obtain ⟨fields, hfields, hcarries⟩ :=
    ha.object (("markupType", .string kind.name) :: source) hnames
  refine ⟨_, ?_, hcarries.withoutTag (List.nodup_cons.1 hnames).1, ?_⟩
  · rw [underTag, hfields]
    exact tagged_eq_ok ha passage type kinds position hcarries hkind
  · rw [underTag, hfields, depth]
    exact Nat.lt_succ_of_le (depthFields_filter_le _)

/-- The literals in a node. -/
def Node.literals : Node → List Json
  | .input literal => [literal.value]
  | .select _ | .option _ => []

theorem Node.decode_arranged (ha : Arrangement arrange) (node : Node)
    (hliterals : ∀ literal ∈ node.literals, arrange literal = literal) :
    decode passage (arrange node.toJson) = .ok node := by
  have htagged := tagged_underTag ha passage "MarkupNode" ["select", "option", "input"]
  cases node with
  | select select =>
    obtain ⟨body, hbody, hcarries, -⟩ := htagged .select 0 select.nodup_names (by decide)
    simp only [decode, toJson, hbody, ok_bind, Select.decode_of_carries ha hcarries]
    rfl
  | option chosen =>
    obtain ⟨body, hbody, hcarries, -⟩ := htagged .option 1 chosen.nodup_names (by decide)
    simp only [decode, toJson, hbody, ok_bind, Chosen.decode_of_carries ha hcarries]
    rfl
  | input literal =>
    have hvalue := hliterals literal.value (by simp [literals])
    obtain ⟨body, hbody, hcarries, -⟩ := htagged .input 2 literal.nodup_names (by decide)
    simp only [decode, toJson, hbody, ok_bind, Input.decode_of_carries ha hvalue hcarries]
    rfl

end ScriptTree
