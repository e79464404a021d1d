import ScriptTree.Proofs.Catalog.Acceptance
import ScriptTree.Proofs.Catalog.Agreement
import ScriptTree.Tree.Generate
/-!
# The order of rows

Rows of different categories may stand in any order to each other. Whether rows clash does not
depend on their order at all, and what a category lists depends on the order of its own rows only.
So the rows in another such order make a catalog that answers every look-up the same, and what is
generated asks a catalog nothing else.

Main statements: `Row.Reorders.filter_eq`, `Catalog.sameAnswers_of_reorders`, and
`Catalog.order_matters_within_categories`.
-/

namespace ScriptTree

/-! ## Orders -/

/-- In a list without repeats an item does not stand both before and behind another one. -/
theorem eq_of_pair_sublist {α : Type} {l : List α} (h : l.Nodup) {a b : α}
    (hab : [a, b].Sublist l) (hba : [b, a].Sublist l) : a = b := by
  induction l with
  | nil => cases hab
  | cons first rest ih =>
    obtain ⟨hfirst, hrest⟩ := List.nodup_cons.1 h
    cases hab with
    | cons _ hab =>
      cases hba with
      | cons _ hba => exact ih hrest hab hba
      | cons_cons => exact absurd (hab.subset (by simp)) hfirst
    | cons_cons =>
      cases hba with
      | cons _ hba => exact absurd (hba.subset (by simp)) hfirst
      | cons_cons => rfl

namespace Row

/-- The same rows in another order, in which a row stands before another one of its category if it
did so. -/
structure Reorders (rows reordered : List Row) : Prop where
  perm : reordered.Perm rows
  within : ∀ a b : Row, a.category = b.category →
    [a, b].Sublist rows → [a, b].Sublist reordered

variable {rows reordered : List Row}

theorem Unambiguous.nodup (h : Unambiguous rows) : rows.Nodup :=
  h.codes.imp fun hne heq => hne (congrArg code heq)

/-- Whether rows are unambiguous does not depend on their order. -/
theorem Unambiguous.perm (h : Unambiguous rows) (hperm : reordered.Perm rows) :
    Unambiguous reordered where
  output row hrow := h.output row (hperm.mem_iff.1 hrow)
  codes := (hperm.pairwise_iff fun hne => hne.symm).2 h.codes
  names := (hperm.pairwise_iff fun hne hsame => hne ⟨hsame.1.symm, hsame.2.symm⟩).2 h.names

/-- The rows of a category stand as they did. -/
theorem Reorders.filter_eq (h : Reorders rows reordered) (hrows : rows.Nodup)
    (category : ValueType) : (reordered.filter fun row => row.category = category) =
      rows.filter fun row => row.category = category := by
  have hreordered : reordered.Nodup := h.perm.nodup_iff.2 hrows
  have hbefore : (rows.filter fun row => row.category = category).Pairwise
      fun a b => [a, b].Sublist reordered := by
    refine List.pairwise_iff_forall_sublist.2 fun {a b} hpair => ?_
    have ha : a.category = category := by simpa using (List.mem_filter.1 (hpair.subset (by simp))).2
    have hb : b.category = category := by simpa using (List.mem_filter.1 (hpair.subset (by simp))).2
    exact h.within a b (ha.trans hb.symm) (hpair.trans List.filter_sublist)
  have hafter : (reordered.filter fun row => row.category = category).Pairwise
      fun a b => [a, b].Sublist reordered :=
    List.pairwise_iff_forall_sublist.2 fun hpair => hpair.trans List.filter_sublist
  exact List.Perm.eq_of_pairwise (fun _ _ _ _ => eq_of_pair_sublist hreordered) hafter hbefore
    (h.perm.filter _)

end Row

/-! ## Look-ups -/

namespace Catalog

/-- Two catalogs answer every look-up the same. -/
structure SameAnswers (catalog other : Catalog) : Prop where
  row : ∀ code, catalog.row code = other.row code
  output : ∀ code, catalog.output code = other.output code
  entries : ∀ category, catalog.entries category = other.entries category
  codeFor? : ∀ category name, catalog.codeFor? category name = other.codeFor? category name
  categories : catalog.categories = other.categories

variable {catalog other : Catalog}

theorem row_eq_of_mem_iff (h : ∀ row, row ∈ catalog.rows ↔ row ∈ other.rows) (code : OperatorCode) :
    catalog.row code = other.row code := by
  cases hrow : catalog.row code with
  | ok row =>
    obtain ⟨hmem, hcode⟩ := row_eq_ok.1 hrow
    exact (row_eq_ok.2 ⟨(h row).1 hmem, hcode⟩).symm
  | error fault =>
    obtain ⟨hnone, rfl⟩ := row_eq_error.1 hrow
    exact (row_eq_error.2 ⟨fun row hmem => hnone row ((h row).2 hmem), rfl⟩).symm

/-- The categories are known from the rows, as they are listed in ascending order. -/
theorem categories_eq_of_mem_iff (h : ∀ row, row ∈ catalog.rows ↔ row ∈ other.rows) :
    catalog.categories = other.categories := by
  have hperm : catalog.categories.Perm other.categories := by
    refine (List.perm_ext_iff_of_nodup catalog.nodup_categories other.nodup_categories).2 ?_
    intro category
    simp only [mem_categories, h]
  refine List.Perm.eq_of_pairwise (fun a b _ _ hab hba => ?_) catalog.tells.ascending
    other.tells.ascending hperm
  exact absurd (Nat.lt_trans hab hba) (Nat.lt_irrefl _)

/-- Rows in another order make a catalog that answers the same. -/
theorem sameAnswers_of_reorders (h : Row.Reorders catalog.rows other.rows) :
    other.SameAnswers catalog := by
  have hmem : ∀ row, row ∈ other.rows ↔ row ∈ catalog.rows := fun _ => h.perm.mem_iff
  have hrow := row_eq_of_mem_iff hmem
  have hentries : ∀ category, other.entries category = catalog.entries category := by
    intro category
    rw [entries_eq, entries_eq, h.filter_eq catalog.unambiguous.nodup]
  refine ⟨hrow, fun code => ?_, hentries, fun category name => ?_, categories_eq_of_mem_iff hmem⟩
  · rw [output_eq, output_eq, hrow]
  · rw [codeFor?, codeFor?, hentries]

/-! ## Generating -/

namespace SameAnswers

variable (h : other.SameAnswers catalog)

include h

theorem planOperator : other.planOperator = catalog.planOperator := by
  funext operator
  simp only [Catalog.planOperator, h.row, h.output]

theorem commitSelect : other.commitSelect = catalog.commitSelect := by
  funext plan
  simp only [Catalog.commitSelect, commitOperator, Catalog.options, h.entries]

theorem generateScript (script : Script) :
    other.generateScript script = catalog.generateScript script := by
  simp only [Catalog.generateScript, planScript, commitScript, h.planOperator, h.commitSelect]

end SameAnswers

/-- The order of rows matters within a category only. The rows of a catalog in another order, in
which those of each category follow each other as before, make a catalog as well. It answers every
look-up the same, and every script converts to the same handles and the same arena under both, or
fails with the same fault under both. -/
theorem order_matters_within_categories {rows reordered : List Row} {catalog : Catalog}
    (h : ofRows rows = .ok catalog) (hreorders : Row.Reorders rows reordered) :
    ∃ other, ofRows reordered = .ok other ∧ other.SameAnswers catalog ∧
      ∀ (script : Script) (arena : Arena Node),
        (other.generateScript script).run.run arena =
          (catalog.generateScript script).run.run arena := by
  obtain rfl := ofRows_eq_ok h
  have hunambiguous := catalog.unambiguous.perm hreorders.perm
  obtain ⟨other, hother⟩ :=
    exists_ofRows_eq_ok_iff.2 (Index.exists_ofRows_eq_ok.2 hunambiguous)
  obtain rfl := ofRows_eq_ok hother
  have hsame := sameAnswers_of_reorders hreorders
  exact ⟨other, hother, hsame, fun script arena => by rw [hsame.generateScript]⟩

/-- Two rows of one category with a row of another one moved before them. -/
theorem order_matters_within_categories_interleaved :
    let get : Row := ⟨⟨0x61⟩, "get", .map, [.array, .boolean], [⟨"key", .string, false⟩]⟩
    let count : Row := ⟨⟨0x10⟩, "count", .array, [.integer], []⟩
    let keys : Row := ⟨⟨0x62⟩, "keys", .map, [.array], []⟩
    let script : Script := [.bare ⟨0x62⟩, .bare ⟨0x10⟩]
    Row.Reorders [get, count, keys] [count, get, keys] ∧
    ∃ (catalog other : Catalog) (after : Arena Node),
      ofRows [get, count, keys] = .ok catalog ∧ ofRows [count, get, keys] = .ok other ∧
      other.SameAnswers catalog ∧
      (catalog.generateScript script).run.run (.empty 7) = (.ok [⟨8⟩, ⟨10⟩], after) ∧
      (other.generateScript script).run.run (.empty 7) = (.ok [⟨8⟩, ⟨10⟩], after) := by
  intro get count keys script
  have hlists : ∀ category, [get, count, keys].filter (fun row => row.category = category) =
      [count, get, keys].filter fun row => row.category = category := by
    intro category
    cases category <;> decide
  have hreorders : Row.Reorders [get, count, keys] [count, get, keys] := by
    refine ⟨by decide, fun a b hcategory hpair => ?_⟩
    have hfiltered := hpair.filter fun row => row.category = b.category
    rw [hlists, List.filter_cons_of_pos (by simpa using hcategory),
      List.filter_cons_of_pos (by simp)] at hfiltered
    exact hfiltered.trans List.filter_sublist
  have hrun : (ofRows [get, count, keys]).toOption.map
      (fun catalog => ((catalog.generateScript script).run.run (.empty 7)).1.toOption) =
        some (some [⟨8⟩, ⟨10⟩]) := by decide +kernel
  obtain ⟨catalog, hcatalog, hrun⟩ := Option.map_eq_some_iff.1 hrun
  have hcatalog := eq_ok_of_toOption hcatalog
  obtain ⟨after, hrun⟩ := Steps.exists_run hrun
  obtain ⟨other, hother, hsame, hruns⟩ := order_matters_within_categories hcatalog hreorders
  exact ⟨hreorders, catalog, other, after, hcatalog, hother, hsame, hrun,
    (hruns script _).trans hrun⟩

end Catalog

end ScriptTree
