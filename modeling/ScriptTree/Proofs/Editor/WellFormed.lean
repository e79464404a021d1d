import ScriptTree.Form.View
import ScriptTree.Proofs.Editor.Refinement
import ScriptTree.Proofs.Tree.Presentation
import ScriptTree.Proofs.Tree.WellFormed
/-!
# Reachable editors are well-formed

The arena of an editor that was opened on a document is well-formed behind every history, and the
scripts of its document consist of operator selects. So the document can be shown, lowered and
fingerprinted at any time.

Main statement: `Editor.reachable_wellFormed`.
-/

namespace ScriptTree

/-- Putting in the layout of a valid plan keeps an arena well-formed. -/
theorem Catalog.insertionKeeps_wellFormed (catalog : Catalog) :
    catalog.InsertionKeeps (Arena.WellFormed catalog) := by
  intro arena plan hvalid hfits h
  rw [← OperatorPlan.length_layout catalog arena.frontier] at hfits
  exact h.fill (Arena.acceptsAll_layout hvalid hfits) hfits

/-- The handles of every script lead to operator selects. -/
def Editor.SelectsOperators (editor : Editor) : Prop :=
  ∀ script ∈ editor.document.scripts, ∀ handle ∈ script, ∃ select category,
    editor.arena.resolve? handle = some (.select select) ∧ select.kind = .operator category

/-! ## What is represented -/

namespace Editor

variable {editor : Editor} {document : Document Script}

theorem Represents.selectsOperators (h : editor.Represents document) :
    editor.SelectsOperators := by
  intro script hscript handle hhandle
  obtain ⟨compact, hcompact⟩ := Document.Pairs.exists_left h hscript
  obtain ⟨operator, -, plan, -, -, ⟨select, -⟩⟩ := forall₂_exists_left hcompact hhandle
  exact ⟨_, _, select, rfl⟩

theorem Represents.view (h : editor.Represents document) : ∃ views, editor.view = .ok views := by
  apply Document.exists_mapM_eq_ok
  intro script hscript
  obtain ⟨compact, hcompact⟩ := Document.Pairs.exists_left h hscript
  obtain ⟨views, -, hviews⟩ := hcompact.viewScript
  exact ⟨views, hviews⟩

/-- Reachable editors are well-formed. Whatever document an editor was opened on, the blank one
where none is given, and whatever edits followed, with or without a fault: its arena is well-formed
under the catalog, its scripts consist of operator selects, and it can be shown, lowered and
fingerprinted. -/
theorem reachable_wellFormed {catalog : Catalog} {origin : UInt32}
    {document : Option (Document Script)} {editor : Editor}
    (hopen : ofDocument catalog origin (document.getD .blank) = .ok editor) (edits : List Edit) :
    let reached := editor.replay edits
    reached.arena.WellFormed catalog ∧ reached.SelectsOperators ∧
      (∃ views, reached.view = .ok views) ∧ (∃ compact, reached.lower = .ok compact) ∧
      ∃ fingerprint, reached.fingerprint = .ok fingerprint := by
  intro reached
  have hkeeps := catalog.insertionKeeps_wellFormed
  have hopened := keeps_of_ofDocument hkeeps hopen (Arena.wellFormed_empty catalog origin)
  obtain ⟨-, hwell⟩ := keeps_replay hkeeps hopened edits
  obtain ⟨plain, -, hR⟩ :=
    (represents_of_ofDocument hopen).replay (ofDocument_eq_ok hopen).1 edits
  obtain ⟨views, hviews⟩ := hR.view
  refine ⟨hwell, hR.selectsOperators, ⟨views, hviews⟩, ⟨plain, hR.lower⟩, ?_⟩
  rw [fingerprint, viewToJson, hviews]
  exact ⟨_, rfl⟩

/-- An operator with a filter, followed by edits one of which ends in a fault. -/
theorem reachable_wellFormed_filter :
    let document : Document Script :=
      { Document.blank with tally := [.sequence [.nat 0x11, .array [.nat 5, .string "x"]]] }
    let edits : List Edit := [.push .tally (.sequence [.nat 0x1b, .nat 3]), .remove .aggregate 0,
      .update .tally 1 0 (.nat 2)]
    ∃ editor, ofDocument Catalog.standard 7 ((some document).getD .blank) = .ok editor ∧
      (editor.replay edits).arena.size = 13 ∧
      (editor.replay edits).arena.WellFormed Catalog.standard ∧
      (editor.replay edits).SelectsOperators ∧
      (∃ views, (editor.replay edits).view = .ok views) ∧
      (∃ compact, (editor.replay edits).lower = .ok compact) ∧
      ∃ fingerprint, (editor.replay edits).fingerprint = .ok fingerprint := by
  intro document edits
  have hsize : (ofDocument Catalog.standard 7 ((some document).getD .blank)).toOption.map
      (fun editor => (editor.replay edits).arena.size) = some 13 := by decide +kernel
  obtain ⟨editor, hopen, hsize⟩ := Option.map_eq_some_iff.1 hsize
  have hopen := eq_ok_of_toOption hopen
  exact ⟨editor, hopen, hsize, reachable_wellFormed hopen edits⟩

end Editor

end ScriptTree
