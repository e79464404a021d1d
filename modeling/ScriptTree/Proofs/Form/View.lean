import ScriptTree.Form.View
import ScriptTree.Proofs.Form.Node
/-!
# Decoding views

A view that was written, with its fields arranged in any order, decodes to the view. The decoding
nests as deep as the value to decode, and the induction goes down the view with a bound on the depth
of what is written for it.

Main statements: `NodeView.decode_arranged` and `SelectView.decode_arranged`.
-/

namespace ScriptTree

open Decode Json

variable {arrange : Json → Json} {passage : Passage} {fields : List (String × Json)}

/-! ## Literals -/

mutual

/-- The literals below a select. -/
def SelectView.literals : SelectView → List Json
  | ⟨_, _, _, _, selected, _⟩ => selected.literals

/-- The literals below a chosen option. -/
def OptionView.literals : OptionView → List Json
  | ⟨_, _, _, arguments⟩ => argumentLiterals arguments

/-- The literals in an argument. -/
def ArgumentView.literals : ArgumentView → List Json
  | .select select => select.literals
  | .input literal => [literal.value]

/-- The literals in arguments. -/
def argumentLiterals : List ArgumentView → List Json
  | [] => []
  | argument :: arguments => argument.literals ++ argumentLiterals arguments

end

/-! ## One level -/

theorem SelectView.nodup_names (select : SelectView) :
    ("markupType" :: select.fields.map Prod.fst).Nodup := by
  obtain ⟨role, kind, label, output, selected, options⟩ := select
  cases label <;> simp [fields, labelField]

theorem OptionView.nodup_names (chosen : OptionView) :
    ("markupType" :: chosen.fields.map Prod.fst).Nodup := by
  obtain ⟨role, label, output, arguments⟩ := chosen
  simp [fields]

/-- A select decodes when its chosen option does. -/
theorem SelectView.decodeWith_eq_ok (ha : Arrangement arrange) {chosen : Decoder OptionView}
    {select : SelectView} (h : Carries arrange select.fields fields)
    (hchosen : chosen passage (arrange select.selected.toJson) = .ok select.selected) :
    decodeWith chosen passage (.object fields) = .ok select := by
  obtain ⟨role, kind, label, output, selected, options⟩ := select
  have hlabel (position : Nat) : (Record.named fields).optional passage position "label" none
      (option string) = .ok label :=
    label_eq_ok ha h (fun text hlabel => by simp [SelectView.fields, labelField, hlabel])
      (fun hlabel => by simp [SelectView.fields, labelField, hlabel])
  have hpresent := h.present
  simp only [SelectView.fields, List.forall_mem_cons, List.forall_mem_append] at hpresent
  obtain ⟨⟨hrole, hkind, -⟩, houtput, hselected, hoptions, -⟩ := hpresent
  simp only [decodeWith, record, ok_bind, hlabel,
    Record.required_eq_ok hrole (Role.decode_arranged ha _),
    Record.required_eq_ok hkind (SelectKind.decode_arranged ha _),
    Record.required_eq_ok houtput (Output.decode_arranged ha _),
    Record.required_eq_ok hselected hchosen,
    Record.required_eq_ok hoptions (list_eq_ok ha fun choice _ => choice.decode_arranged ha)]
  rfl

/-- The chosen option of a select is written less deep than the select. -/
theorem SelectView.depth_selected_lt {select : SelectView} {inner : List (String × Json)}
    (h : Carries arrange select.fields fields)
    (hinner : arrange select.selected.toJson = .object inner) :
    depthFields inner < depthFields fields := by
  obtain ⟨role, kind, label, output, selected, options⟩ := select
  have hfield := h.present ("selected", selected.toJson)
    (by simp [SelectView.fields, OptionView.toJson])
  rw [hinner] at hfield
  exact depth_le_of_get? hfield

/-- An option decodes when its arguments do. -/
theorem OptionView.decodeWith_eq_ok (ha : Arrangement arrange) {argument : Decoder ArgumentView}
    {chosen : OptionView} (h : Carries arrange chosen.fields fields)
    (harguments : ((argumentsToJson chosen.arguments).map arrange).mapM (argument passage) =
      .ok chosen.arguments) :
    decodeWith argument passage (.object fields) = .ok chosen := by
  obtain ⟨role, label, output, arguments⟩ := chosen
  have hpresent := h.present
  simp only [OptionView.fields, List.forall_mem_cons, ha.string, ha.array] at hpresent
  obtain ⟨hrole, hlabel, houtput, hfield, -⟩ := hpresent
  have hlist : list argument passage (.array ((argumentsToJson arguments).map arrange)) =
      .ok arguments := harguments
  simp only [decodeWith, record, ok_bind, Record.required_eq_ok hrole (Role.decode_arranged ha _),
    Record.required_eq_ok hlabel (string_eq_ok passage _),
    Record.required_eq_ok houtput (Output.decode_arranged ha _),
    Record.required_eq_ok hfield hlist]
  rfl

/-- The arguments of an option are written less deep than the option. -/
theorem OptionView.depth_arguments_lt (ha : Arrangement arrange) {chosen : OptionView}
    (h : Carries arrange chosen.fields fields) :
    depthItems ((argumentsToJson chosen.arguments).map arrange) < depthFields fields := by
  obtain ⟨role, label, output, arguments⟩ := chosen
  have hfield := h.present ("arguments", .array (argumentsToJson arguments))
    (by simp [OptionView.fields])
  rw [ha.array] at hfield
  exact depth_le_of_get? hfield

/-! ## All levels -/

-- The induction is on the view, from a part to the parts in its fields. What is written for a part
-- is less deep than what is written for the whole, and one step of the depth is left for every
-- option on the way down.
mutual

theorem SelectView.decodeWith_of_carries (ha : Arrangement arrange) (passage : Passage)
    {depth : Nat} {fields : List (String × Json)} :
    (select : SelectView) → (∀ literal ∈ select.literals, arrange literal = literal) →
      Carries arrange select.fields fields → depthFields fields ≤ depth →
      SelectView.decodeWith (OptionView.decodeTo depth) passage (.object fields) = .ok select
  | ⟨role, kind, label, output, selected, options⟩, hliterals, h, hdepth => by
    obtain ⟨inner, hinner, hcarries⟩ := ha.object selected.fields selected.nodup_names.of_cons
    have hinside : depthFields inner < depth :=
      Nat.lt_of_lt_of_le (SelectView.depth_selected_lt h hinner) hdepth
    refine SelectView.decodeWith_eq_ok ha h ?_
    show OptionView.decodeTo depth passage (arrange (.object selected.fields)) = .ok selected
    rw [hinner]
    exact OptionView.decodeTo_of_carries ha passage selected hliterals hcarries hinside

theorem OptionView.decodeTo_of_carries (ha : Arrangement arrange) (passage : Passage)
    {depth : Nat} {fields : List (String × Json)} :
    (chosen : OptionView) → (∀ literal ∈ chosen.literals, arrange literal = literal) →
      Carries arrange chosen.fields fields → depthFields fields < depth →
      OptionView.decodeTo depth passage (.object fields) = .ok chosen
  | ⟨role, label, output, arguments⟩, hliterals, h, hdepth => by
    obtain ⟨depth, rfl⟩ := Nat.exists_eq_succ_of_ne_zero (Nat.ne_zero_of_lt hdepth)
    have hinside : depthItems ((argumentsToJson arguments).map arrange) ≤ depth :=
      Nat.le_of_lt (Nat.lt_of_lt_of_le (OptionView.depth_arguments_lt ha h)
        (Nat.le_of_lt_succ hdepth))
    exact OptionView.decodeWith_eq_ok ha h
      (decodeArguments_arranged ha passage arguments hliterals hinside)

theorem ArgumentView.decodeWith_arranged (ha : Arrangement arrange) (passage : Passage)
    {depth : Nat} :
    (argument : ArgumentView) → (∀ literal ∈ argument.literals, arrange literal = literal) →
      (arrange argument.toJson).depth ≤ depth →
      ArgumentView.decodeWith (OptionView.decodeTo depth) passage (arrange argument.toJson) =
        .ok argument
  | .select select, hliterals, hdepth => by
    obtain ⟨body, hbody, hcarries, hless⟩ := tagged_underTag ha passage "ExpandedArgument"
      ["select", "input"] .select 0 select.nodup_names (by decide)
    have hselect := SelectView.decodeWith_of_carries ha .held select hliterals hcarries
      (Nat.le_trans (Nat.le_of_lt hless) hdepth)
    simp only [ArgumentView.decodeWith, ArgumentView.toJson, hbody, ok_bind, hselect]
    rfl
  | .input literal, hliterals, _ => by
    have hvalue := hliterals literal.value List.mem_cons_self
    obtain ⟨body, hbody, hcarries, -⟩ := tagged_underTag ha passage "ExpandedArgument"
      ["select", "input"] .input 1 literal.nodup_names (by decide)
    simp only [ArgumentView.decodeWith, ArgumentView.toJson, hbody, ok_bind,
      Input.decode_of_carries ha hvalue hcarries]
    rfl

theorem decodeArguments_arranged (ha : Arrangement arrange) (passage : Passage) {depth : Nat} :
    (arguments : List ArgumentView) →
      (∀ literal ∈ argumentLiterals arguments, arrange literal = literal) →
      depthItems ((argumentsToJson arguments).map arrange) ≤ depth →
      ((argumentsToJson arguments).map arrange).mapM
        (ArgumentView.decodeWith (OptionView.decodeTo depth) passage) = .ok arguments
  | [], _, _ => rfl
  | argument :: arguments, hliterals, hdepth => by
    obtain ⟨hfirst, hrest⟩ := List.forall_mem_append.1 hliterals
    obtain ⟨hdepth, hdepths⟩ := Nat.max_le.1 hdepth
    rw [argumentsToJson, List.map_cons, List.mapM_cons,
      ArgumentView.decodeWith_arranged ha passage argument hfirst hdepth,
      decodeArguments_arranged ha passage arguments hrest hdepths]
    rfl

end

/-! ## Views -/

theorem OptionView.decode_of_carries (ha : Arrangement arrange) {chosen : OptionView}
    (hliterals : ∀ literal ∈ chosen.literals, arrange literal = literal)
    (h : Carries arrange chosen.fields fields) :
    decode passage (.object fields) = .ok chosen :=
  decodeTo_of_carries ha passage chosen hliterals h (Nat.lt_succ_self _)

theorem SelectView.decode_of_carries (ha : Arrangement arrange) {select : SelectView}
    (hliterals : ∀ literal ∈ select.literals, arrange literal = literal)
    (h : Carries arrange select.fields fields) :
    decode passage (.object fields) = .ok select := by
  obtain ⟨inner, hinner, hcarries⟩ :=
    ha.object select.selected.fields select.selected.nodup_names.of_cons
  have hselected : ∀ literal ∈ select.selected.literals, arrange literal = literal := by
    cases select
    exact hliterals
  refine decodeWith_eq_ok ha h ?_
  rw [OptionView.toJson, hinner]
  exact OptionView.decode_of_carries ha hselected hcarries

theorem SelectView.decode_arranged (ha : Arrangement arrange) (select : SelectView)
    (hliterals : ∀ literal ∈ select.literals, arrange literal = literal) :
    decode passage (arrange select.toJson) = .ok select := by
  obtain ⟨inner, hinner, hcarries⟩ := ha.object select.fields select.nodup_names.of_cons
  rw [toJson, hinner]
  exact decode_of_carries ha hliterals hcarries

/-- The literals in the view of a node. -/
def NodeView.literals : NodeView → List Json
  | .select view => view.literals
  | .option view => view.literals
  | .input literal => [literal.value]

theorem NodeView.decode_arranged (ha : Arrangement arrange) (view : NodeView)
    (hliterals : ∀ literal ∈ view.literals, arrange literal = literal) :
    decode passage (arrange view.toJson) = .ok view := by
  have htagged := tagged_underTag ha passage "ExpandedNode" ["select", "option", "input"]
  cases view with
  | select select =>
    obtain ⟨body, hbody, hcarries, -⟩ := htagged .select 0 select.nodup_names (by decide)
    simp only [decode, toJson, hbody, ok_bind, SelectView.decode_of_carries ha hliterals hcarries]
    rfl
  | option chosen =>
    obtain ⟨body, hbody, hcarries, -⟩ := htagged .option 1 chosen.nodup_names (by decide)
    simp only [decode, toJson, hbody, ok_bind, OptionView.decode_of_carries ha hliterals hcarries]
    rfl
  | input literal =>
    have hvalue := hliterals literal.value (by simp [literals])
    obtain ⟨body, hbody, hcarries, -⟩ := htagged .input 2 literal.nodup_names (by decide)
    simp only [decode, toJson, hbody, ok_bind, Input.decode_of_carries ha hvalue hcarries]
    rfl

end ScriptTree
