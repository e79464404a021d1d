import ScriptTree.Proofs.Form.View
/-!
# Written forms lose nothing

Every document, in each of its three forms, every node and every view decodes from what is written
for it, however deep it nests, and also when the fields of all objects are sorted in between. The
literals in a value are passed on as they are, so for the sorted form they have to be sorted before.

Main statement: `forms_lose_nothing`.
-/

namespace ScriptTree

open Decode Json

variable {arrange : Json → Json} {passage : Passage} {fields : List (String × Json)}

/-! ## Operators -/

/-- The literals in an operator. -/
def Operator.literals : Operator → List Json
  | .bare _ => []
  | .sequence items => items

/-- A code alone and a list of a code alone are told apart by their shapes. -/
theorem Operator.fromJson_arranged (ha : Arrangement arrange) (operator : Operator)
    (hliterals : ∀ literal ∈ operator.literals, arrange literal = literal) :
    fromJson passage (arrange operator.toJson) = .ok operator := by
  cases operator with
  | bare code =>
    have hword : code.toJson.word? = some code.value := word?_toJson code
    have hcode : arrange code.toJson = code.toJson := ha.number _
    rw [toJson, hcode]
    unfold fromJson
    rw [hword]
    rfl
  | sequence items =>
    have hitems : items.map arrange = items :=
      (List.map_congr_left (g := id) hliterals).trans (List.map_id items)
    rw [toJson, ha.array, hitems]
    rfl

/-! ## Documents -/

namespace Document

variable {σ : Type} {layout : Layout σ}

theorem field_eq_ok {α : Type} {position : Nat} {name : String} {missing : Option α}
    {decoder : Decoder α} {json : Json} {value : α} (hfield : Table.get? name fields = some json)
    (hvalue : decoder passage json = .ok value) :
    field (.named fields) passage position name missing decoder = .ok value := by
  cases missing with
  | none => exact Record.required_eq_ok hfield hvalue
  | some default => exact Record.optional_eq_ok hfield hvalue

theorem sourceFromJson_arranged (ha : Arrangement arrange) {source : Source σ}
    (hscript : layout.decode passage (arrange (layout.encode source.script)) =
      .ok source.script) :
    sourceFromJson layout passage (arrange (sourceToJson layout source)) = .ok source := by
  obtain ⟨fields, hfields, hcarries⟩ := ha.object
    [("url", .string source.url), ("script", layout.encode source.script)] (by simp)
  have hpresent := hcarries.present
  simp only [List.forall_mem_cons, ha.string] at hpresent
  obtain ⟨hurl, hfield, -⟩ := hpresent
  rw [sourceToJson, hfields]
  simp only [sourceFromJson, record, ok_bind, Record.required_eq_ok hurl (string_eq_ok passage _),
    field_eq_ok hfield hscript]
  rfl

/-- The stages of a document decode to the document without its name and description. -/
theorem requestFromJson_arranged (ha : Arrangement arrange) {document : Document σ}
    (hscripts : ∀ script ∈ document.scripts,
      layout.decode passage (arrange (layout.encode script)) = .ok script) :
    requestFromJson layout passage (arrange (requestToJson layout document)) =
      .ok { document with name := "", description := "" } := by
  obtain ⟨fields, hfields, hcarries⟩ := ha.object
    [("notBefore", .nat document.notBefore.toNat),
      ("retrieve", .array (document.retrieve.map (sourceToJson layout))),
      ("aggregate", layout.encode document.aggregate), ("tally", layout.encode document.tally)]
    (by simp)
  have hpresent := hcarries.present
  simp only [List.forall_mem_cons] at hpresent
  obtain ⟨hnotBefore, hretrieve, haggregate, htally, -⟩ := hpresent
  have htime : word64 passage (arrange (.nat document.notBefore.toNat)) = .ok document.notBefore :=
    (congrArg _ (ha.number _)).trans (word64_eq_ok passage _)
  have hsources : list (sourceFromJson layout) passage
      (arrange (.array (document.retrieve.map (sourceToJson layout)))) = .ok document.retrieve := by
    refine list_eq_ok ha fun source hsource => sourceFromJson_arranged ha (hscripts _ ?_)
    simp only [scripts, List.mem_append, List.mem_map]
    exact .inl ⟨source, hsource, rfl⟩
  rw [requestToJson, hfields]
  simp only [requestFromJson, record, ok_bind, field_eq_ok hnotBefore htime,
    Record.required_eq_ok hretrieve hsources,
    field_eq_ok haggregate (hscripts _ (by simp [scripts])),
    field_eq_ok htally (hscripts _ (by simp [scripts]))]
  rfl

/-- A document decodes when its scripts do. -/
theorem fromJson_arranged (ha : Arrangement arrange) {document : Document σ}
    (hscripts : ∀ script ∈ document.scripts,
      layout.decode passage (arrange (layout.encode script)) = .ok script) :
    fromJson layout passage (arrange (toJson layout document)) = .ok document := by
  obtain ⟨fields, hfields, hcarries⟩ := ha.object
    [("name", .string document.name), ("description", .string document.description),
      ("radRequest", requestToJson layout document)] (by simp)
  have hpresent := hcarries.present
  simp only [List.forall_mem_cons, ha.string] at hpresent
  obtain ⟨hname, hdescription, hrequest, -⟩ := hpresent
  rw [toJson, hfields]
  simp only [fromJson, record, ok_bind, field_eq_ok hname (string_eq_ok passage _),
    field_eq_ok hdescription (string_eq_ok passage _),
    Record.required_eq_ok hrequest (requestFromJson_arranged ha hscripts)]
  rfl

/-- The literals in a document, given those in its scripts. -/
def literals (ofScript : σ → List Json) (document : Document σ) : List Json :=
  document.scripts.flatMap ofScript

theorem fromJson_compact_arranged (ha : Arrangement arrange) (document : Document Script)
    (hliterals : ∀ literal ∈ document.literals (List.flatMap Operator.literals),
      arrange literal = literal) :
    fromJson compact passage (arrange (toJson compact document)) = .ok document := by
  refine fromJson_arranged ha fun script hscript => ?_
  refine list_eq_ok ha fun operator hoperator => operator.fromJson_arranged ha fun literal h => ?_
  have hscriptLiteral := List.mem_flatMap.2 ⟨operator, hoperator, h⟩
  exact hliterals literal (List.mem_flatMap.2 ⟨script, hscript, hscriptLiteral⟩)

theorem fromJson_handles_arranged (ha : Arrangement arrange) (document : Document (List Handle)) :
    fromJson handles passage (arrange (toJson handles document)) = .ok document :=
  fromJson_arranged ha fun _ _ => list_eq_ok ha fun handle _ => handle.decode_arranged ha

theorem fromJson_views_arranged (ha : Arrangement arrange) (document : Document (List SelectView))
    (hliterals : ∀ literal ∈ document.literals (List.flatMap SelectView.literals),
      arrange literal = literal) :
    fromJson views passage (arrange (toJson views document)) = .ok document := by
  refine fromJson_arranged ha fun script hscript => ?_
  refine list_eq_ok ha fun select hselect => select.decode_arranged ha fun literal h => ?_
  have hscriptLiteral := List.mem_flatMap.2 ⟨select, hselect, h⟩
  exact hliterals literal (List.mem_flatMap.2 ⟨script, hscript, hscriptLiteral⟩)

end Document

/-! ## Every form -/

/-- Whatever is written for a value decodes to the value, at once or held back: as it was written,
and with the fields of all objects sorted by name if they are so in the literals of the value. -/
def Lossless {α : Type} (encode : α → Json) (decode : Decoder α) (literals : α → List Json) :
    Prop :=
  ∀ (value : α) (passage : Passage), decode passage (encode value) = .ok value ∧
    ((∀ literal ∈ literals value, literal.sorted = literal) →
      decode passage (encode value).sorted = .ok value)

theorem lossless_of_arranged {α : Type} {encode : α → Json} {decode : Decoder α}
    {literals : α → List Json}
    (h : ∀ {arrange : Json → Json} {passage : Passage}, Arrangement arrange → ∀ value : α,
      (∀ literal ∈ literals value, arrange literal = literal) →
        decode passage (arrange (encode value)) = .ok value) :
    Lossless encode decode literals :=
  fun value _ => ⟨h .id value fun _ _ => rfl, h .sorted value⟩

/-- The forms of compact documents, of documents with handles, of nodes, of views of nodes and of
documents with views lose nothing. -/
theorem forms_lose_nothing :
    Lossless (Document.toJson Document.compact) (Document.fromJson Document.compact)
        (Document.literals (List.flatMap Operator.literals)) ∧
      Lossless (Document.toJson Document.handles) (Document.fromJson Document.handles)
        (fun _ => []) ∧
      Lossless Node.toJson Node.decode Node.literals ∧
      Lossless NodeView.toJson NodeView.decode NodeView.literals ∧
      Lossless (Document.toJson Document.views) (Document.fromJson Document.views)
        (Document.literals (List.flatMap SelectView.literals)) :=
  ⟨lossless_of_arranged Document.fromJson_compact_arranged,
    lossless_of_arranged fun ha document _ => document.fromJson_handles_arranged ha,
    lossless_of_arranged Node.decode_arranged,
    lossless_of_arranged NodeView.decode_arranged,
    lossless_of_arranged Document.fromJson_views_arranged⟩

/-- A code alone, a list of it alone and an empty list, with a literal that looks like the record of
a handle; and a filter inside a filter, without a label on the outer one. -/
theorem forms_lose_nothing_lookalikes :
    let document : Document Script := ⟨"price", "", 0,
      [⟨"a", [.bare ⟨0x61⟩, .sequence [.nat 0x61], .sequence []]⟩],
      [.sequence [.nat 0x61, .object [("id", .nat 1), ("type", .string "filter")]]], []⟩
    let filter (label : Option String) (arguments : List ArgumentView) : SelectView :=
      ⟨.argument, .filter, label, .oneOf [.bytes],
        ⟨.selectedOperatorOption, "mode", .oneOf [], arguments⟩, []⟩
    let view : NodeView := .select (filter none
      [.select (filter (some "by") []), .input ⟨"by", .string, .object [("type", .null)]⟩])
    Document.fromJson Document.compact .direct (Document.toJson Document.compact document).sorted =
        .ok document ∧
      NodeView.decode .direct view.toJson.sorted = .ok view := by
  intro document filter view
  obtain ⟨hcompact, -, -, hview, -⟩ := forms_lose_nothing
  have hdocument : ∀ literal ∈ document.literals (List.flatMap Operator.literals),
      literal.sorted = literal := by decide +kernel
  have hliterals : ∀ literal ∈ view.literals, literal.sorted = literal := by decide +kernel
  exact ⟨(hcompact document .direct).2 hdocument, (hview view .direct).2 hliterals⟩

end ScriptTree
