import Mathlib.Data.List.Nodup
import ScriptTree.Proofs.Catalog.Lookup
/-!
# Look-ups agree

Every look-up of a catalog reads one of the three tables. What they answer is said here in terms of
the rows that the catalog was made of, so that no table can know of an operator that another one
does not, or tell something else about it.

Main statement: `Catalog.lookups_agree`.
-/

namespace ScriptTree

/-- The output that a row declares: its single type, or the whole list of types in order. -/
inductive Row.Declares (row : Row) : Output → Prop
  | one {type : ValueType} (single : row.output = [type]) : Declares row (.one type)
  | oneOf (several : 2 ≤ row.output.length) : Declares row (.oneOf row.output)

/-- What a category lists about a row. -/
structure Row.Lists (row : Row) (entry : Entry) : Prop where
  name : entry.name = row.name
  code : entry.code = row.code
  output : row.Declares entry.output

theorem Row.declares_resolved {row : Row} (h : row.output ≠ []) : row.Declares row.resolved := by
  unfold Row.resolved
  split
  · next type hsingle => exact .one hsingle
  · next hsingle =>
    refine .oneOf ?_
    match houtput : row.output with
    | [] => exact absurd houtput h
    | [type] => exact absurd houtput (hsingle type)
    | _ :: _ :: _ => exact Nat.le_add_left 2 _

namespace Catalog

variable {catalog : Catalog} {code : OperatorCode} {category : ValueType} {row : Row}

theorem ofRows_eq_ok {rows : List Row} (h : ofRows rows = .ok catalog) : catalog.rows = rows := by
  unfold ofRows at h
  split at h
  · cases h
    rfl
  · cases h

theorem declares_of_mem (h : row ∈ catalog.rows) : row.Declares row.resolved :=
  Row.declares_resolved (catalog.unambiguous.output row h)

theorem output_of_mem (h : row ∈ catalog.rows) : catalog.output row.code = .ok row.resolved := by
  rw [output_eq, row_eq_ok.2 ⟨h, rfl⟩]
  rfl

/-- A code without a row is unknown to the table of rows and to the table of outputs. -/
theorem unknown_of_forall_ne (h : ∀ row ∈ catalog.rows, row.code ≠ code) :
    catalog.row code = .error (.unknownOperator code) ∧
      catalog.output code = .error (.unknownOperator code) := by
  have hrow : catalog.row code = .error (.unknownOperator code) := row_eq_error.2 ⟨h, rfl⟩
  exact ⟨hrow, by rw [output_eq, hrow]; rfl⟩

theorem lists_entries (catalog : Catalog) (category : ValueType) :
    List.Forall₂ Row.Lists (catalog.rows.filter fun row => row.category = category)
      (catalog.entries category) := by
  rw [entries_eq, List.forall₂_map_right_iff, List.forall₂_same]
  intro row hrow
  exact ⟨rfl, rfl, declares_of_mem (List.mem_filter.1 hrow).1⟩

/-! ## Categories -/

theorem mem_categories : category ∈ catalog.categories ↔ ∃ row ∈ catalog.rows,
    row.category = category :=
  catalog.tells.categories category

theorem nodup_categories (catalog : Catalog) : catalog.categories.Nodup := by
  refine List.Pairwise.imp ?_ catalog.tells.ascending
  rintro category other hlt rfl
  exact Nat.lt_irrefl _ hlt

/-- The codes that a category lists are those of its rows. -/
theorem codes_entries (catalog : Catalog) (category : ValueType) :
    (catalog.entries category).map Entry.code =
      (catalog.rows.filter fun row => row.category = category).map Row.code := by
  rw [entries_eq, List.map_map]
  rfl

theorem mem_codes_entries : code ∈ (catalog.entries category).map Entry.code ↔
    ∃ row ∈ catalog.rows, row.category = category ∧ row.code = code := by
  simp only [codes_entries, List.mem_map, List.mem_filter, decide_eq_true_eq, and_assoc]

/-- Over all categories, no code is listed twice. -/
theorem nodup_codes (catalog : Catalog) :
    (catalog.categories.flatMap fun category =>
      (catalog.entries category).map Entry.code).Nodup := by
  refine List.nodup_flatMap.2 ⟨fun category _ => ?_, ?_⟩
  · rw [codes_entries]
    exact List.pairwise_map.2 (catalog.unambiguous.codes.filter _)
  · refine catalog.nodup_categories.imp fun hne => ?_
    -- a code of two categories would have two rows
    intro code hfirst hsecond
    obtain ⟨row, hrow, hcategory, hcode⟩ := mem_codes_entries.1 hfirst
    obtain ⟨other, hother, hcategory', hcode'⟩ := mem_codes_entries.1 hsecond
    have hsame : row = other := by
      have hfound := row_eq_ok.2 ⟨hrow, hcode⟩
      exact Except.ok.inj (hfound.symm.trans (row_eq_ok.2 ⟨hother, hcode'⟩))
    exact hne (hcategory.symm.trans ((congrArg Row.category hsame).trans hcategory'))

theorem count_codes (h : row ∈ catalog.rows) :
    ((catalog.categories.flatMap catalog.entries).map Entry.code).count row.code = 1 := by
  rw [List.map_flatMap]
  refine List.count_eq_one_of_mem catalog.nodup_codes (List.mem_flatMap.2 ⟨row.category, ?_, ?_⟩)
  · exact mem_categories.2 ⟨row, h, rfl⟩
  · exact mem_codes_entries.2 ⟨row, h, rfl, rfl⟩

/-! ## Agreement -/

/-- The look-ups of a catalog agree with its rows, and with each other. A code is known exactly when
some row has it, and then gives that row and the output that the row declares. A category lists
its rows in order, and the categories are those that have a row, in ascending order. A name in a
category leads to the code of its row, and every code is listed once over all categories. -/
theorem lookups_agree {rows : List Row} {catalog : Catalog} (h : ofRows rows = .ok catalog) :
    (∀ row ∈ rows, catalog.row row.code = .ok row ∧
      ∃ output, catalog.output row.code = .ok output ∧ row.Declares output) ∧
    (∀ code, (∀ row ∈ rows, row.code ≠ code) →
      catalog.row code = .error (.unknownOperator code) ∧
      catalog.output code = .error (.unknownOperator code)) ∧
    (∀ category, List.Forall₂ Row.Lists (rows.filter fun row => row.category = category)
      (catalog.entries category)) ∧
    (∀ category, category ∈ catalog.categories ↔ ∃ row ∈ rows, row.category = category) ∧
    catalog.categories.Pairwise (· < ·) ∧
    (∀ category name code, catalog.codeFor? category name = some code ↔
      ∃ row ∈ rows, row.category = category ∧ row.name = name ∧ row.code = code) ∧
    (∀ code row, catalog.row code = .ok row →
      catalog.codeFor? row.category row.name = some code) ∧
    ∀ row ∈ rows,
      ((catalog.categories.flatMap catalog.entries).map Entry.code).count row.code = 1 := by
  obtain rfl := ofRows_eq_ok h
  refine ⟨fun row hrow => ⟨row_eq_ok.2 ⟨hrow, rfl⟩, _, output_of_mem hrow, declares_of_mem hrow⟩,
    fun code hcode => unknown_of_forall_ne hcode, catalog.lists_entries,
    fun category => mem_categories, catalog.tells.ascending,
    fun category name code => codeFor?_eq_some, fun code row hrow => ?_,
    fun row hrow => count_codes hrow⟩
  obtain ⟨hmem, rfl⟩ := row_eq_ok.1 hrow
  exact codeFor?_of_mem hmem

/-- Three rows in two categories, with one name in both, and the category that comes first by name
last. -/
theorem lookups_agree_sharedName :
    let get : Row := ⟨⟨0x61⟩, "get", .map, [.array, .boolean], [⟨"key", .string, false⟩]⟩
    let keys : Row := ⟨⟨0x62⟩, "keys", .map, [.array], []⟩
    let item : Row := ⟨⟨0x13⟩, "get", .array, [.generic], [⟨"index", .integer, false⟩]⟩
    ∃ catalog, ofRows [get, keys, item] = .ok catalog ∧
      catalog.row ⟨0x61⟩ = .ok get ∧ (∃ output, catalog.output ⟨0x61⟩ = .ok output ∧
        get.Declares output) ∧
      List.Forall₂ Row.Lists [get, keys] (catalog.entries .map) ∧
      catalog.categories.Pairwise (· < ·) ∧
      catalog.codeFor? .array "get" = some ⟨0x13⟩ := by
  intro get keys item
  obtain ⟨catalog, hcatalog⟩ : ∃ catalog, ofRows [get, keys, item] = .ok catalog :=
    exists_of_isOk (by decide +kernel)
  obtain ⟨hknown, -, hentries, -, hascending, hcodes, -, -⟩ := lookups_agree hcatalog
  obtain ⟨hget, houtput⟩ := hknown get (by simp)
  exact ⟨catalog, hcatalog, hget, houtput, hentries .map, hascending,
    (hcodes .array "get" ⟨0x13⟩).2 ⟨item, by simp, rfl, rfl, rfl⟩⟩

end Catalog

end ScriptTree
