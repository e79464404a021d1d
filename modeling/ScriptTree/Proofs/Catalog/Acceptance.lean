import ScriptTree.Proofs.Catalog.Lookup
/-!
# Which rows make a catalog

A list of rows makes a catalog exactly when it is unambiguous. Otherwise the answer is what is wrong
with the first row that clashes with the rows before it, whatever is wrong with the rows behind it.

Main statement: `Catalog.accepts_exactly_unambiguous`.
-/

namespace ScriptTree

namespace Row

/-- What is wrong with a row behind the rows `before`. A missing output comes first, then a code
that an earlier row has, then a name that an earlier row of the category has. -/
inductive Clashes (before : List Row) (row : Row) : CatalogFault → Prop
  | noOutput (empty : row.output = []) : Clashes before row (.noOutput row.code row.name)
  | repeatedCode {earlier : Row} (declared : row.output ≠ []) (mem : earlier ∈ before)
      (code : earlier.code = row.code) :
      Clashes before row (.repeatedCode row.code earlier.category row.category)
  | repeatedName {earlier : Row} (declared : row.output ≠ [])
      (codes : ∀ other ∈ before, other.code ≠ row.code) (mem : earlier ∈ before)
      (category : earlier.category = row.category) (name : earlier.name = row.name) :
      Clashes before row (.repeatedName row.name row.category)

variable {before after : List Row} {row : Row} {fault : CatalogFault}

theorem Unambiguous.of_append (h : Unambiguous (before ++ after)) : Unambiguous before :=
  ⟨fun row hrow => h.output row (List.mem_append_left _ hrow), (List.pairwise_append.1 h.codes).1,
    (List.pairwise_append.1 h.names).1⟩

/-- Rows with a clash among them are not unambiguous, whatever follows. -/
theorem Clashes.not_unambiguous (h : row.Clashes before fault) :
    ¬Unambiguous (before ++ row :: after) := by
  intro hall
  have hrow : row ∈ row :: after := List.mem_cons_self
  cases h with
  | noOutput empty => exact hall.output row (List.mem_append_right _ hrow) empty
  | repeatedCode _ mem code => exact (List.pairwise_append.1 hall.codes).2.2 _ mem row hrow code
  | repeatedName _ _ mem category name =>
    exact (List.pairwise_append.1 hall.names).2.2 _ mem row hrow ⟨category, name⟩

end Row

/-! ## Adding a row -/

namespace Index

variable {index : Index} {before rows : List Row} {row : Row} {fault : CatalogFault}

/-- A row cannot be added exactly when it clashes with the rows that were, and what is told is the
clash. -/
theorem Tells.add_eq_error (h : index.Tells before) (hbefore : Row.Unambiguous before) :
    index.add row = .error fault ↔ row.Clashes before fault := by
  have hrows : ∀ earlier, index.rows.get? row.code = some earlier ↔
      earlier ∈ before ∧ earlier.code = row.code := by
    intro earlier
    rw [h.rows, hbefore.find?_code_eq_some]
  have hfresh : index.rows.get? row.code = none ↔
      ∀ earlier ∈ before, earlier.code ≠ row.code := by
    simp [h.rows]
  have hentries : ∀ entry, entry ∈ index.entriesOf row.category ↔
      ∃ earlier ∈ before, earlier.category = row.category ∧ earlier.entry = entry := by
    simp [h.entries, and_assoc]
  rw [Index.add_eq_error]
  constructor
  · intro hrefuses
    cases hrefuses with
    | noOutput empty => exact .noOutput empty
    | repeatedCode declared found =>
      obtain ⟨mem, code⟩ := (hrows _).1 found
      exact .repeatedCode declared mem code
    | repeatedName declared fresh mem name =>
      obtain ⟨earlier, hearlier, category, rfl⟩ := (hentries _).1 mem
      exact .repeatedName declared (hfresh.1 fresh) hearlier category name
  · intro hclash
    cases hclash with
    | noOutput empty => exact .noOutput empty
    | repeatedCode declared mem code => exact .repeatedCode declared ((hrows _).2 ⟨mem, code⟩)
    | @repeatedName earlier declared codes mem category name =>
      have hentry := (hentries earlier.entry).2 ⟨earlier, mem, category, rfl⟩
      exact .repeatedName declared (hfresh.2 codes) hentry name

/-- A row that keeps the rows unambiguous can be added. -/
theorem Tells.add_succeeds (h : index.Tells before) (hall : Row.Unambiguous (before ++ row :: rows)) :
    ∃ after, index.add row = .ok after := by
  cases hadd : index.add row with
  | ok after => exact ⟨after, rfl⟩
  | error fault =>
    exact absurd hall ((h.add_eq_error hall.of_append).1 hadd).not_unambiguous

/-! ## Adding rows -/

theorem Tells.foldlM_succeeds (h : index.Tells before)
    (hall : Row.Unambiguous (before ++ rows)) : ∃ after, rows.foldlM Index.add index = .ok after := by
  induction rows generalizing index before with
  | nil => exact ⟨index, rfl⟩
  | cons row rows ih =>
    obtain ⟨next, hadd⟩ := h.add_succeeds hall
    rw [List.append_cons] at hall
    obtain ⟨after, hrest⟩ := ih (h.add hadd) hall
    exact ⟨after, bind_eq_ok.2 ⟨next, hadd, hrest⟩⟩

/-- Rows that cannot all be added have a first one that clashes with those before it. -/
theorem Tells.exists_clash (h : index.Tells before) (hbefore : Row.Unambiguous before)
    (hrun : rows.foldlM Index.add index = .error fault) :
    ∃ front row back, rows = front ++ row :: back ∧ Row.Unambiguous (before ++ front) ∧
      row.Clashes (before ++ front) fault := by
  induction rows generalizing index before with
  | nil => cases hrun
  | cons row rows ih =>
    rcases bind_eq_error.1 hrun with hadd | ⟨next, hadd, hrest⟩
    · refine ⟨[], row, rows, rfl, ?_, ?_⟩
      · rwa [List.append_nil]
      · rw [List.append_nil]
        exact (h.add_eq_error hbefore).1 hadd
    · obtain ⟨front, clashing, back, rfl, hfront, hclash⟩ :=
        ih (h.add hadd) (h.unambiguous_concat hbefore hadd) hrest
      rw [← List.append_cons] at hfront hclash
      exact ⟨row :: front, clashing, back, rfl, hfront, hclash⟩

theorem exists_ofRows_eq_ok :
    (∃ index, ofRows rows = .ok index) ↔ Row.Unambiguous rows :=
  ⟨fun ⟨_, h⟩ => unambiguous_of_ofRows h, fun h => tells_empty.foldlM_succeeds h⟩

/-- The tables of rows fail at the first row that clashes with those before it. -/
theorem ofRows_eq_error : ofRows rows = .error fault ↔ ∃ front row back,
    rows = front ++ row :: back ∧ Row.Unambiguous front ∧ row.Clashes front fault := by
  constructor
  · exact tells_empty.exists_clash Row.unambiguous_nil
  · rintro ⟨front, row, back, rfl, hfront, hclash⟩
    obtain ⟨index, hindex⟩ := exists_ofRows_eq_ok.2 hfront
    have hadd : index.add row = .error fault :=
      ((tells_of_ofRows hindex).add_eq_error hfront).2 hclash
    rw [ofRows, List.foldlM_append]
    exact bind_eq_error.2 (.inr ⟨index, hindex, bind_eq_error.2 (.inl hadd)⟩)

end Index

/-! ## Catalogs -/

namespace Catalog

variable {rows : List Row}

theorem exists_ofRows_eq_ok_iff :
    (∃ catalog, ofRows rows = .ok catalog) ↔ ∃ index, Index.ofRows rows = .ok index := by
  unfold ofRows
  split
  · next index h => exact ⟨fun _ => ⟨index, h⟩, fun _ => ⟨⟨rows, index, h⟩, rfl⟩⟩
  · next fault h => exact ⟨nofun, fun ⟨_, hindex⟩ => nomatch h.symm.trans hindex⟩

theorem ofRows_eq_error_iff {fault : CatalogFault} :
    ofRows rows = .error fault ↔ Index.ofRows rows = .error fault := by
  unfold ofRows
  split
  · next index h => exact ⟨nofun, fun herror => nomatch h.symm.trans herror⟩
  · next cause h => simp [h]

/-- A list of rows makes a catalog exactly when every row declares an output, no code stands twice
and no name stands twice in a category. Otherwise the answer is what is wrong with the first row
that clashes with the rows before it: it declares no output, or else it has the code of an earlier
row, whose category is told before its own, or else the category and the name of an earlier row. -/
theorem accepts_exactly_unambiguous (rows : List Row) :
    ((∃ catalog, ofRows rows = .ok catalog) ↔ Row.Unambiguous rows) ∧
    ∀ fault, ofRows rows = .error fault ↔ ∃ front row back, rows = front ++ row :: back ∧
      Row.Unambiguous front ∧ row.Clashes front fault :=
  ⟨exists_ofRows_eq_ok_iff.trans Index.exists_ofRows_eq_ok,
    fun _ => ofRows_eq_error_iff.trans Index.ofRows_eq_error⟩

-- the second row has the code and the name of the first, and no output, and the third an old code
example : (match ofRows [⟨⟨1⟩, "get", .map, [.array], []⟩, ⟨⟨1⟩, "get", .map, [], []⟩,
    ⟨⟨1⟩, "keys", .array, [.array], []⟩] with
  | .ok _ => none
  | .error fault => some fault) = some (.noOutput ⟨1⟩ "get") := by decide +kernel

end Catalog

end ScriptTree
