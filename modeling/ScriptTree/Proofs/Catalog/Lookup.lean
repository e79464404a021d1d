import ScriptTree.Proofs.Catalog.Index
import ScriptTree.Tree.Node
/-!
# Looking up operators

In an unambiguous list of rows a look-up finds a row exactly when the row is in the list, so that
the look-ups by code and by category and name agree.

Main statements: `Catalog.row_eq_ok` and `Catalog.codeFor?_eq_some`, which turn the look-ups into
membership among the rows.
-/

namespace ScriptTree

/-- Where at most one element of a list passes a test, finding is membership. -/
theorem find?_eq_some_of_pairwise {α : Type} {p : α → Bool} {l : List α}
    (h : l.Pairwise fun a b => ¬(p a = true ∧ p b = true)) {a : α} :
    l.find? p = some a ↔ a ∈ l ∧ p a = true := by
  constructor
  · intro hf
    exact ⟨List.mem_of_find?_eq_some hf, List.find?_some hf⟩
  · rintro ⟨ha, hp⟩
    induction l with
    | nil => cases ha
    | cons b l ih =>
      obtain ⟨hb, hl⟩ := List.pairwise_cons.1 h
      by_cases hpb : p b = true
      · -- the head passes too, so it is the element
        have hab : a = b := by
          rcases List.mem_cons.1 ha with rfl | ha
          · rfl
          · exact absurd ⟨hpb, hp⟩ (hb a ha)
        rw [List.find?_cons, hpb, hab]
      · have hne : a ≠ b := by
          rintro rfl
          exact hpb hp
        rw [List.find?_cons, Bool.eq_false_iff.2 hpb]
        exact ih hl ((List.mem_cons.1 ha).resolve_left hne)

/-- In unambiguous rows a code leads to its only row. -/
theorem Row.Unambiguous.find?_code_eq_some {rows : List Row} (h : Unambiguous rows)
    {code : OperatorCode} {row : Row} :
    (rows.find? fun row => row.code = code) = some row ↔ row ∈ rows ∧ row.code = code := by
  have hunique : rows.Pairwise fun a b =>
      ¬(decide (a.code = code) = true ∧ decide (b.code = code) = true) := by
    refine h.codes.imp fun hne hboth => hne ?_
    rw [of_decide_eq_true hboth.1, of_decide_eq_true hboth.2]
  rw [find?_eq_some_of_pairwise hunique, decide_eq_true_eq]

namespace Catalog

variable {catalog : Catalog} {code : OperatorCode} {category : ValueType} {name : String}
  {row : Row}

/-- The tables of a catalog tell of its rows. -/
theorem tells (catalog : Catalog) : catalog.index.Tells catalog.rows :=
  Index.tells_of_ofRows catalog.indexed

theorem unambiguous (catalog : Catalog) : Row.Unambiguous catalog.rows :=
  Index.unambiguous_of_ofRows catalog.indexed

theorem row_eq_ok : catalog.row code = .ok row ↔ row ∈ catalog.rows ∧ row.code = code := by
  rw [← catalog.unambiguous.find?_code_eq_some, ← catalog.tells.rows, Catalog.row]
  cases catalog.index.rows.get? code with
  | none => exact ⟨nofun, nofun⟩
  | some found => exact ⟨fun h => congrArg some (Except.ok.inj h), fun h => by cases h; rfl⟩

theorem row_eq_error {fault : Fault} : catalog.row code = .error fault ↔
    (∀ row ∈ catalog.rows, row.code ≠ code) ∧ fault = .unknownOperator code := by
  have hnone : catalog.index.rows.get? code = none ↔ ∀ row ∈ catalog.rows, row.code ≠ code := by
    simp [catalog.tells.rows]
  rw [← hnone, Catalog.row]
  cases catalog.index.rows.get? code <;> simp [eq_comm]

/-- An operator is found again under its code. -/
theorem row_of_mem (h : row ∈ catalog.rows) : catalog.row row.code = .ok row :=
  row_eq_ok.2 ⟨h, rfl⟩

/-- The table of outputs agrees with the table of rows. -/
theorem output_eq (catalog : Catalog) (code : OperatorCode) :
    catalog.output code = (catalog.row code).map Row.resolved := by
  rw [Catalog.output, Catalog.row, catalog.tells.outputs, catalog.tells.rows]
  cases catalog.rows.find? fun row => row.code = code <;> rfl

theorem entries_eq (catalog : Catalog) (category : ValueType) :
    catalog.entries category =
      (catalog.rows.filter fun row => row.category = category).map Row.entry :=
  catalog.tells.entries category

theorem find?_named_eq_some :
    (catalog.rows.find? fun row => row.category = category ∧ row.name = name) = some row ↔
      row ∈ catalog.rows ∧ row.category = category ∧ row.name = name := by
  have hunique : catalog.rows.Pairwise fun a b =>
      ¬(decide (a.category = category ∧ a.name = name) = true ∧
        decide (b.category = category ∧ b.name = name) = true) := by
    refine catalog.unambiguous.names.imp fun hne hboth => hne ?_
    simp only [decide_eq_true_eq] at hboth
    obtain ⟨⟨hac, han⟩, hbc, hbn⟩ := hboth
    exact ⟨hac.trans hbc.symm, han.trans hbn.symm⟩
  rw [find?_eq_some_of_pairwise hunique, decide_eq_true_eq]

theorem codeFor?_eq_some :
    catalog.codeFor? category name = some code ↔
      ∃ row ∈ catalog.rows, row.category = category ∧ row.name = name ∧ row.code = code := by
  have hentries : catalog.codeFor? category name = (catalog.rows.find? fun row =>
      decide (row.category = category ∧ row.name = name)).map Row.code := by
    simp only [codeFor?, entries_eq, List.find?_map, List.find?_filter, Option.map_map]
    show Option.map Row.code _ = _
    congr 2
    funext row
    refine Bool.eq_iff_iff.2 ?_
    simp only [decide_eq_true_iff, Function.comp_apply]
    exact Iff.rfl
  rw [hentries, Option.map_eq_some_iff]
  simp only [find?_named_eq_some, and_assoc]

/-- An operator is found again under its category and its name. -/
theorem codeFor?_of_mem (h : row ∈ catalog.rows) :
    catalog.codeFor? row.category row.name = some row.code :=
  codeFor?_eq_some.2 ⟨row, h, rfl, rfl, rfl⟩

end Catalog

end ScriptTree
