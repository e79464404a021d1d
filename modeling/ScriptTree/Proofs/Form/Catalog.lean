import ScriptTree.Form.Catalog
import ScriptTree.Form.Yaml
import ScriptTree.Proofs.Form.Lossless
import ScriptTree.Proofs.Yaml.Spelling
import ScriptTree.Yaml.Writer
/-!
# Written catalogs

A catalog is written as its rows, without the tables, and a row leaves out what is the default. Both
are made up for in reading: a field that is left out reads as its default, and the rows, checked
again, give the tables again.

Main statement: `Catalog.survives_writing`.
-/

namespace ScriptTree

open Json

/-! ## What is written -/

/-- The fields of a written argument. -/
def Parameter.fields (parameter : Parameter) : List (String × Json) :=
  [("name", .string parameter.name), ("kind", parameter.kind.toJson)] ++
    if parameter.optional then [("optional", .bool true)] else []

theorem Parameter.toJson_eq (parameter : Parameter) : parameter.toJson = .object parameter.fields :=
  rfl

/-- Whether an argument is optional is written only if it is. -/
theorem Parameter.names_fields (parameter : Parameter) :
    parameter.fields.map Prod.fst =
      ["name", "kind"] ++ if parameter.optional then ["optional"] else [] := by
  cases h : parameter.optional <;> simp [fields, h]

theorem Parameter.nodup_names (parameter : Parameter) : (parameter.fields.map Prod.fst).Nodup := by
  rw [names_fields]
  split <;> decide

theorem Parameter.optional_field (parameter : Parameter) :
    Table.get? "optional" parameter.fields =
      if parameter.optional then some (.bool true) else none := by
  cases h : parameter.optional with
  | false => exact Table.get?_eq_none_iff.2 (by simp [Table.keys, fields, h])
  | true => exact Table.get?_of_mem parameter.nodup_names (by simp [fields, h])

/-- The fields of a written row. -/
def Row.fields (row : Row) : List (String × Json) :=
  [("code", row.code.toJson), ("name", .string row.name), ("category", row.category.toJson),
      ("output", .array (row.output.map ValueType.toJson))] ++
    if row.parameters = [] then []
    else [("arguments", .array (row.parameters.map Parameter.toJson))]

theorem Row.toJson_eq (row : Row) : row.toJson = .object row.fields :=
  rfl

/-- The arguments of a row are written only if there are some. -/
theorem Row.names_fields (row : Row) :
    row.fields.map Prod.fst = ["code", "name", "category", "output"] ++
      if row.parameters = [] then [] else ["arguments"] := by
  by_cases h : row.parameters = [] <;> simp [fields, h]

theorem Row.nodup_names (row : Row) : (row.fields.map Prod.fst).Nodup := by
  rw [names_fields]
  split <;> decide

theorem Row.arguments_field (row : Row) :
    Table.get? "arguments" row.fields =
      if row.parameters = [] then none
      else some (.array (row.parameters.map Parameter.toJson)) := by
  by_cases h : row.parameters = []
  · rw [if_pos h]
    exact Table.get?_eq_none_iff.2 (by simp [Table.keys, fields, h])
  · rw [if_neg h]
    exact Table.get?_of_mem row.nodup_names (by simp [fields, h])

/-! ## The tables -/

/-- The rows of a catalog pass the check again, and give its tables again. -/
theorem Catalog.ofRows_rows (catalog : Catalog) : ofRows catalog.rows = .ok catalog := by
  obtain ⟨rows, index, hindex⟩ := catalog
  unfold ofRows
  split
  · next other hother =>
    obtain rfl : index = other := Except.ok.inj (hindex.symm.trans hother)
    rfl
  · next hfault =>
    rw [hindex] at hfault
    cases hfault

/-! ## Reading records -/

section Decoding

open Decode

variable {arrange : Json → Json} {passage : Passage}

theorem Parameter.decode_arranged (ha : Arrangement arrange) (parameter : Parameter) :
    decode passage (arrange parameter.toJson) = .ok parameter := by
  obtain ⟨fields, hfields, hcarries⟩ := ha.object parameter.fields parameter.nodup_names
  have hpresent := hcarries.present
  simp only [Parameter.fields, List.forall_mem_append, List.forall_mem_cons, ha.string] at hpresent
  obtain ⟨⟨hname, hkind, -⟩, -⟩ := hpresent
  have hoptional (position : Nat) : (Record.named fields).optional passage position "optional"
      false bool = .ok parameter.optional := by
    cases h : parameter.optional with
    | false => exact Record.optional_eq_default (hcarries.absent _ (by simp [Parameter.fields, h]))
    | true =>
      have hfield := hcarries.present ("optional", .bool true) (by simp [Parameter.fields, h])
      exact Record.optional_eq_ok (hfield.trans (congrArg some (ha.bool true))) rfl
  rw [toJson_eq, hfields]
  simp only [decode, record, ok_bind, hoptional,
    Record.required_eq_ok hname (string_eq_ok passage _),
    Record.required_eq_ok hkind (ArgumentKind.decode_arranged ha _)]
  rfl

theorem Row.decode_arranged (ha : Arrangement arrange) (row : Row) :
    decode passage (arrange row.toJson) = .ok row := by
  obtain ⟨fields, hfields, hcarries⟩ := ha.object row.fields row.nodup_names
  have hpresent := hcarries.present
  simp only [Row.fields, List.forall_mem_append, List.forall_mem_cons, ha.string] at hpresent
  obtain ⟨⟨hcode, hname, hcategory, houtput, -⟩, -⟩ := hpresent
  have hcode' : OperatorCode.decode passage (arrange row.code.toJson) = .ok row.code := by
    rw [show arrange row.code.toJson = .nat row.code.value.toNat from ha.number _,
      OperatorCode.decode, word64_eq_ok]
    rfl
  have hparameters (position : Nat) : (Record.named fields).optional passage position "arguments"
      [] (list Parameter.decode) = .ok row.parameters := by
    by_cases h : row.parameters = []
    · rw [h]
      exact Record.optional_eq_default (hcarries.absent _ (by simp [Row.fields, h]))
    · have hfield := hcarries.present ("arguments", .array (row.parameters.map Parameter.toJson))
        (by simp [Row.fields, h])
      exact Record.optional_eq_ok hfield
        (list_eq_ok ha fun parameter _ => parameter.decode_arranged ha)
  rw [toJson_eq, hfields]
  simp only [decode, record, ok_bind, hparameters, Record.required_eq_ok hcode hcode',
    Record.required_eq_ok hname (string_eq_ok passage _),
    Record.required_eq_ok hcategory (ValueType.decode_arranged ha _),
    Record.required_eq_ok houtput (list_eq_ok ha fun type _ => type.decode_arranged ha)]
  rfl

theorem Catalog.decode_arranged (ha : Arrangement arrange) (catalog : Catalog) :
    decode passage (arrange catalog.toJson) = .ok catalog := by
  obtain ⟨fields, hfields, hcarries⟩ := ha.object
    [("operators", .array (catalog.rows.map Row.toJson))] (by simp)
  have hrows := hcarries.present _ List.mem_cons_self
  rw [toJson, hfields]
  simp only [decode, record, ok_bind,
    Record.required_eq_ok hrows (list_eq_ok ha fun row _ => row.decode_arranged ha)]
  show ((ofRows catalog.rows).mapError ParseFault.catalog) = _
  rw [ofRows_rows]
  rfl

end Decoding

/-! ## Reading texts -/

section Texts

open Yaml Yaml.Decode

variable {node : Yaml.Node}

theorem Parameter.reads_ofNode {parameter : Parameter} (h : node.spells parameter.toJson = true)
    (depth : Nat) : Reads (Parameter.ofNode (depth + 1) node) parameter := by
  rw [toJson_eq] at h
  refine reads_record h ?_ parameter.nodup_names fun fields hfinds => ?_
  · cases hoptional : parameter.optional <;> simp [Parameter.fields, hoptional]
  refine (hfinds.reads_needed rfl fun _ hname => reads_string hname depth).bind ?_
  refine (hfinds.reads_needed rfl fun _ hkind =>
    reads_member (by cases parameter.kind <;> decide) hkind depth).bind ?_
  refine Reads.bind (?_ : Reads _ parameter.optional) (reads_pure parameter)
  refine hfinds.reads_defaulted ?_ ?_ <;> rw [parameter.optional_field]
  · intro value hvalue _ hnode
    split at hvalue
    · next hoptional =>
      cases hvalue
      rw [hoptional]
      exact reads_bool hnode depth
    · cases hvalue
  · intro hnone
    split at hnone
    · cases hnone
    · next hoptional => exact Bool.eq_false_iff.2 hoptional

theorem Row.reads_ofNode {row : Row} (h : node.spells row.toJson = true) (depth : Nat) :
    Reads (Row.ofNode (depth + 3) node) row := by
  rw [toJson_eq] at h
  refine reads_record h ?_ row.nodup_names fun fields hfinds => ?_
  · by_cases hparameters : row.parameters = [] <;> simp [Row.fields, hparameters]
  refine (hfinds.reads_needed rfl fun _ hcode => reads_word64 hcode _).bind ?_
  refine (hfinds.reads_needed rfl fun _ hname => reads_string hname _).bind ?_
  refine (hfinds.reads_needed rfl fun _ hcategory =>
    reads_member (by cases row.category <;> decide) hcategory _).bind ?_
  refine (hfinds.reads_needed rfl fun _ houtput => reads_list houtput fun type _ htype =>
    reads_member (by cases type <;> decide) htype _).bind ?_
  refine Reads.bind (?_ : Reads _ row.parameters) (reads_pure row)
  refine hfinds.reads_defaulted ?_ ?_ <;> rw [row.arguments_field]
  · intro value hvalue _ hnode
    split at hvalue
    · cases hvalue
    · cases hvalue
      exact reads_list hnode fun _ _ hparameter => Parameter.reads_ofNode hparameter depth
  · intro hnone
    split at hnone
    · assumption
    · cases hnone

theorem Catalog.ofText_eq_ok {catalog : Catalog} {source : String}
    (h : Yaml.spells source catalog.toJson = true) : ofText source = .ok catalog := by
  have hroot (node : Yaml.Node) (hnode : node.spells catalog.toJson = true) :
      Reads (Catalog.ofNode depthLimit node) catalog := by
    refine Reads.bind (?_ : Reads _ catalog.rows) ?_
    · refine reads_record hnode (by simp) (by simp) fun fields hfinds => ?_
      exact hfinds.reads_needed rfl fun _ hrows =>
        reads_list hrows fun _ _ hrow => Row.reads_ofNode hrow _
    · rw [ofRows_rows]
      exact reads_pure catalog
  unfold ofText
  rw [run_eq_ok h hroot]
  rfl

end Texts

/-! ## Catalogs -/

/-- A catalog reads back from what is written for it: from its JSON form, whatever is done with the
order of fields, and from every YAML text that spells this form. It is the same catalog, with the
same rows and the same tables for its look-ups. A row is written with its arguments only if it has
some, and an argument says whether it is optional only if it is. -/
theorem Catalog.survives_writing :
    Lossless Catalog.toJson Catalog.decode (fun _ => []) ∧
      (∀ (catalog : Catalog) (source : String), Yaml.spells source catalog.toJson = true →
        ofText source = .ok catalog) ∧
      (∀ row : Row, ∃ fields, row.toJson = .object fields ∧
        fields.map Prod.fst = ["code", "name", "category", "output"] ++
          if row.parameters = [] then [] else ["arguments"]) ∧
      ∀ parameter : Parameter, ∃ fields, parameter.toJson = .object fields ∧
        fields.map Prod.fst =
          ["name", "kind"] ++ if parameter.optional then ["optional"] else [] :=
  ⟨lossless_of_arranged fun ha catalog _ => catalog.decode_arranged ha,
    fun _ _ => ofText_eq_ok,
    fun row => ⟨row.fields, row.toJson_eq, row.names_fields⟩,
    fun parameter => ⟨parameter.fields, parameter.toJson_eq, parameter.names_fields⟩⟩

/-- A row with an optional argument, under a name that looks like a number. -/
theorem Catalog.survives_writing_numeral :
    let rows : List Row := [⟨⟨1⟩, "7", .map, [.map], [⟨"by", .filter, true⟩]⟩]
    ∃ catalog, ofRows rows = .ok catalog ∧
      ofText (Yaml.render catalog.toJson) = .ok catalog := by
  intro rows
  have hsome : ((ofRows rows).toOption.map Catalog.rows) = some rows := by decide +kernel
  obtain ⟨catalog, hcatalog, hrows⟩ := Option.map_eq_some_iff.1 hsome
  refine ⟨catalog, eq_ok_of_toOption hcatalog, ?_⟩
  refine survives_writing.2.1 catalog _ ?_
  rw [toJson, hrows, Yaml.spells, Yaml.Content.read?, Yaml.place?, Yaml.render,
    String.toList_ofList]
  decide +kernel

end ScriptTree
