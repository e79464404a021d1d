import ScriptTree.Catalog.Basic
import ScriptTree.Proofs.Steps
/-!
# The tables of a catalog

The three tables are built row by row. After every row they tell exactly of the rows added so far,
each in its own way: the first two by code, the third by category, where the entries stand in the
order of the rows. A row that cannot be added clashes with an earlier one.

Main statements: adding a row keeps the tables true to the rows (`Index.Tells.add`), so the tables
of a list of rows are true to it (`Index.tells_of_ofRows`), and its rows are unambiguous
(`Index.unambiguous_of_ofRows`).
-/

namespace ScriptTree

theorem ValueType.lt_total (a b : ValueType) (hne : a ≠ b) (h : ¬a < b) : b < a := by
  have hindex : all.idxOf a ≠ all.idxOf b := fun he => hne ((List.idxOf_inj (mem_all a)).1 he)
  exact Nat.lt_of_le_of_ne (Nat.le_of_not_lt h) hindex.symm

/-! ## Rows -/

namespace Row

/-- Rows that a catalog can be made of. -/
structure Unambiguous (rows : List Row) : Prop where
  output : ∀ row ∈ rows, row.output ≠ []
  codes : rows.Pairwise fun a b => a.code ≠ b.code
  names : rows.Pairwise fun a b => ¬(a.category = b.category ∧ a.name = b.name)

theorem unambiguous_nil : Unambiguous [] :=
  ⟨nofun, .nil, .nil⟩

theorem ofDeclared?_output {row : Row} {output : Output} :
    Output.ofDeclared? row.output = some output ↔ row.output ≠ [] ∧ row.resolved = output := by
  unfold Output.ofDeclared? Row.resolved
  split <;> simp_all

theorem ofDeclared?_eq_none {row : Row} :
    Output.ofDeclared? row.output = none ↔ row.output = [] := by
  unfold Output.ofDeclared?
  split <;> simp_all

end Row

/-! ## Building -/

namespace Index

/-- The tables tell of the listed rows and of nothing else. -/
structure Tells (index : Index) (listed : List Row) : Prop where
  rows : ∀ code, index.rows.get? code = listed.find? fun row => row.code = code
  outputs : ∀ code,
    index.outputs.get? code = (listed.find? fun row => row.code = code).map Row.resolved
  entries : ∀ category,
    index.entriesOf category = (listed.filter fun row => row.category = category).map Row.entry
  categories : ∀ category,
    category ∈ index.entries.keys ↔ ∃ row ∈ listed, row.category = category
  ascending : index.entries.keys.Pairwise (· < ·)

/-- The tables with one more row. -/
def extended (index : Index) (row : Row) : Index where
  rows := index.rows.put row.code row
  outputs := index.outputs.put row.code row.resolved
  entries := index.entries.put row.category (index.entriesOf row.category ++ [row.entry])

/-- What adding a row takes, and what it does to the tables. -/
theorem add_eq_ok {index after : Index} {row : Row} :
    index.add row = .ok after ↔
      row.output ≠ [] ∧ index.rows.get? row.code = none ∧
      (∀ entry ∈ index.entriesOf row.category, entry.name ≠ row.name) ∧
      index.extended row = after := by
  unfold add
  cases houtput : Output.ofDeclared? row.output with
  | none =>
    have hnone : row.output = [] := Row.ofDeclared?_eq_none.1 houtput
    exact ⟨nofun, fun h => absurd hnone h.1⟩
  | some output =>
    obtain ⟨hdeclared, rfl⟩ := Row.ofDeclared?_output.1 houtput
    cases hcode : index.rows.get? row.code with
    | some earlier => exact ⟨nofun, fun h => nomatch h.2.1⟩
    | none =>
      have hname : (index.entriesOf row.category).any (fun entry => entry.name = row.name) = true ↔
          ¬∀ entry ∈ index.entriesOf row.category, entry.name ≠ row.name := by
        simp
      by_cases hnew : ∀ entry ∈ index.entriesOf row.category, entry.name ≠ row.name
      · simp only [if_neg (fun h => hname.1 h hnew)]
        exact ⟨fun h => ⟨hdeclared, trivial, hnew, Except.ok.inj h⟩, fun h => congrArg _ h.2.2.2⟩
      · simp only [if_pos (hname.2 hnew)]
        exact ⟨nofun, fun h => absurd h.2.2.1 hnew⟩

/-- Why a row cannot be added: the first check that it does not pass. -/
inductive Refuses (index : Index) (row : Row) : CatalogFault → Prop
  | noOutput (empty : row.output = []) : Refuses index row (.noOutput row.code row.name)
  | repeatedCode {earlier : Row} (declared : row.output ≠ [])
      (found : index.rows.get? row.code = some earlier) :
      Refuses index row (.repeatedCode row.code earlier.category row.category)
  | repeatedName {entry : Entry} (declared : row.output ≠ [])
      (fresh : index.rows.get? row.code = none) (mem : entry ∈ index.entriesOf row.category)
      (name : entry.name = row.name) : Refuses index row (.repeatedName row.name row.category)

theorem add_eq_error {index : Index} {row : Row} {fault : CatalogFault} :
    index.add row = .error fault ↔ index.Refuses row fault := by
  unfold add
  cases houtput : Output.ofDeclared? row.output with
  | none =>
    have hempty : row.output = [] := Row.ofDeclared?_eq_none.1 houtput
    constructor
    · intro h
      cases h
      exact .noOutput hempty
    · intro h
      cases h with
      | noOutput _ => rfl
      | repeatedCode declared _ => exact absurd hempty declared
      | repeatedName declared _ _ _ => exact absurd hempty declared
  | some output =>
    have hdeclared : row.output ≠ [] := (Row.ofDeclared?_output.1 houtput).1
    cases hcode : index.rows.get? row.code with
    | some earlier =>
      constructor
      · intro h
        cases h
        exact .repeatedCode hdeclared hcode
      · intro h
        cases h with
        | noOutput empty => exact absurd empty hdeclared
        | repeatedCode _ found =>
          cases hcode.symm.trans found
          rfl
        | repeatedName _ fresh _ _ => cases hcode.symm.trans fresh
    | none =>
      show (if _ then _ else _) = _ ↔ _
      split
      · next hname =>
        obtain ⟨entry, hmem, hsame⟩ := List.any_eq_true.1 hname
        constructor
        · intro h
          cases h
          exact .repeatedName hdeclared hcode hmem (of_decide_eq_true hsame)
        · intro h
          cases h with
          | noOutput empty => exact absurd empty hdeclared
          | repeatedCode _ found => cases hcode.symm.trans found
          | repeatedName _ _ _ _ => rfl
      · next hname =>
        refine ⟨nofun, fun h => ?_⟩
        cases h with
        | noOutput empty => exact absurd empty hdeclared
        | repeatedCode _ found => cases hcode.symm.trans found
        | repeatedName _ _ mem name =>
          exact absurd (List.any_eq_true.2 ⟨_, mem, decide_eq_true name⟩) hname

theorem entriesOf_extended (index : Index) (row : Row) (category : ValueType) :
    (index.extended row).entriesOf category =
      if category = row.category then index.entriesOf row.category ++ [row.entry]
      else index.entriesOf category := by
  rw [entriesOf, extended, Table.get?_put]
  split <;> rfl

theorem tells_empty : empty.Tells [] where
  rows _ := rfl
  outputs _ := rfl
  entries _ := rfl
  categories _ := by simp [empty, Table.keys]
  ascending := .nil

variable {index after : Index} {listed : List Row} {row : Row}

/-- A code that has no row yet is found with the new row only. -/
theorem Tells.find?_concat (h : index.Tells listed) (hnew : index.rows.get? row.code = none)
    (code : OperatorCode) :
    (listed ++ [row]).find? (fun row => row.code = code) =
      if code = row.code then some row else listed.find? fun row => row.code = code := by
  rw [h.rows] at hnew
  rw [List.find?_append, List.find?_singleton]
  by_cases hcode : code = row.code
  · rw [if_pos hcode, hcode, hnew]
    simp
  · rw [if_neg hcode]
    simp [Ne.symm hcode]

/-- Adding a row keeps the tables true to the rows. -/
theorem Tells.add (h : index.Tells listed) (hadd : index.add row = .ok after) :
    after.Tells (listed ++ [row]) := by
  obtain ⟨-, hcode, -, rfl⟩ := add_eq_ok.1 hadd
  refine ⟨fun code => ?_, fun code => ?_, fun category => ?_, fun category => ?_, ?_⟩
  · rw [h.find?_concat hcode, ← h.rows]
    exact Table.get?_put ..
  · rw [h.find?_concat hcode]
    show (index.outputs.put row.code row.resolved).get? code = _
    rw [Table.get?_put, h.outputs]
    split <;> rfl
  · rw [entriesOf_extended, List.filter_append, List.map_append, h.entries, h.entries]
    by_cases hcategory : category = row.category
    · simp [hcategory]
    · simp [hcategory, Ne.symm hcategory]
  · show category ∈ (index.entries.put _ _).keys ↔ _
    rw [Table.mem_keys_put, h.categories]
    simp only [List.mem_append, List.mem_singleton, or_and_right, exists_or, exists_eq_left]
    rw [or_comm, eq_comm]
  · exact Table.ascending_put (fun _ _ _ => Nat.lt_trans) ValueType.lt_total h.ascending

/-- Adding a row that declares an output, under a new code and a new name in its category, leaves
the rows unambiguous. -/
theorem Tells.unambiguous_concat (h : index.Tells listed) (hlisted : Row.Unambiguous listed)
    (hadd : index.add row = .ok after) : Row.Unambiguous (listed ++ [row]) := by
  obtain ⟨houtput, hcode, hname, -⟩ := add_eq_ok.1 hadd
  rw [h.rows, List.find?_eq_none] at hcode
  rw [h.entries] at hname
  refine ⟨?_, ?_, ?_⟩
  · intro other hother
    rcases List.mem_append.1 hother with hother | hother
    · exact hlisted.output other hother
    · rwa [List.mem_singleton.1 hother]
  · refine List.pairwise_append.2 ⟨hlisted.codes, List.pairwise_singleton .., ?_⟩
    intro earlier hearlier other hother
    rw [List.mem_singleton.1 hother]
    simpa using hcode earlier hearlier
  · refine List.pairwise_append.2 ⟨hlisted.names, List.pairwise_singleton .., ?_⟩
    rintro earlier hearlier other hother ⟨hcategory, hsame⟩
    rw [List.mem_singleton.1 hother] at hcategory hsame
    have hmem : earlier.entry ∈ (listed.filter fun r => r.category = row.category).map Row.entry :=
      List.mem_map_of_mem (List.mem_filter.2 ⟨hearlier, decide_eq_true hcategory⟩)
    exact hname _ hmem hsame

/-- Every row after the first keeps what the tables tell, and keeps the rows unambiguous. -/
theorem tells_of_foldlM {rows : List Row} (h : index.Tells listed)
    (hlisted : Row.Unambiguous listed) (hrun : rows.foldlM Index.add index = .ok after) :
    after.Tells (listed ++ rows) ∧ Row.Unambiguous (listed ++ rows) := by
  induction rows generalizing index listed with
  | nil =>
    cases hrun
    rw [List.append_nil]
    exact ⟨h, hlisted⟩
  | cons row rows ih =>
    obtain ⟨next, hadd, hrest⟩ := bind_eq_ok.1 hrun
    have hsplit : listed ++ row :: rows = (listed ++ [row]) ++ rows := by simp
    rw [hsplit]
    exact ih (h.add hadd) (h.unambiguous_concat hlisted hadd) hrest

theorem tells_of_ofRows {rows : List Row} (h : ofRows rows = .ok index) : index.Tells rows :=
  (tells_of_foldlM tells_empty Row.unambiguous_nil h).1

theorem unambiguous_of_ofRows {rows : List Row} (h : ofRows rows = .ok index) :
    Row.Unambiguous rows :=
  (tells_of_foldlM tells_empty Row.unambiguous_nil h).2

end Index

end ScriptTree
