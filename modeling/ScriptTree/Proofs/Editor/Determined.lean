import ScriptTree.Proofs.Document.SameData
import ScriptTree.Proofs.Editor.WellFormed
import ScriptTree.Proofs.Tree.SameView
/-!
# The tree and the compact form determine each other

An editor shows exactly what its compact form says. So two editors under one catalog show the same
tree when their compact forms are the same, and only then, wherever their arenas start, whatever
edits led to them and however many nodes they have left behind.

Main statement: `Editor.view_and_compact_determine_each_other`.
-/

namespace ScriptTree

/-- The views of the handles that represent a script present it. -/
theorem Arena.RepresentsScript.presents {catalog : Catalog} {arena : Arena Node} {script : Script}
    {handles : List Handle} {views : List SelectView}
    (h : RepresentsScript catalog arena script handles)
    (hviews : arena.viewScript handles = .ok views) :
    List.Forall₂ catalog.Presents script views := by
  refine forall₂_trans (fun operator handle view hoperator hview => ?_) h (mapM_eq_ok_iff.1 hviews)
  obtain ⟨plan, hvalid, hplan, hshown⟩ := hoperator.shown
  exact ⟨plan, hvalid, hplan, Except.ok.inj (hshown.symm.trans hview)⟩

namespace Editor

/-- The views of an editor, script by script, present the document that it represents. -/
theorem Represents.presents {editor : Editor} {document : Document Script}
    (h : editor.Represents document) :
    ∃ views, editor.view = .ok views ∧
      document.Pairs (List.Forall₂ editor.catalog.Presents) views := by
  obtain ⟨views, hviews⟩ := h.view
  refine ⟨views, hviews, Document.Pairs.trans ?_ h (Document.mapM_eq_ok_iff.1 hviews)⟩
  intro script handles views hscript hviews
  exact hscript.presents hviews

/-- What a reachable editor shows presents its compact form. -/
theorem presents_of_replay {catalog : Catalog} {origin : UInt32} {document : Document Script}
    {editor : Editor} (hopen : ofDocument catalog origin document = .ok editor)
    (edits : List Edit) :
    ∃ compact views, (editor.replay edits).lower = .ok compact ∧
      (editor.replay edits).view = .ok views ∧
      compact.Pairs (List.Forall₂ catalog.Presents) views := by
  obtain ⟨hcatalog, -⟩ := ofDocument_eq_ok hopen
  obtain ⟨compact, -, hrepresents⟩ := (represents_of_ofDocument hopen).replay hcatalog edits
  obtain ⟨views, hviews, hpairs⟩ := hrepresents.presents
  rw [catalog_replay, hcatalog] at hpairs
  exact ⟨compact, views, hrepresents.lower, hviews, hpairs⟩

/-- The tree and the compact form determine each other. Of two editors that were opened under one
catalog, on whatever documents and with whatever origins, and edited in whatever way, the trees are
equal exactly when the compact forms are. Both can always be read, and the same holds where
fractions are compared as numbers. -/
theorem view_and_compact_determine_each_other {catalog : Catalog} {origin origin' : UInt32}
    {document document' : Option (Document Script)} {editor editor' : Editor}
    (hopen : ofDocument catalog origin (document.getD .blank) = .ok editor)
    (hopen' : ofDocument catalog origin' (document'.getD .blank) = .ok editor')
    (edits edits' : List Edit) :
    ((editor.replay edits).view = (editor'.replay edits').view ↔
      (editor.replay edits).lower = (editor'.replay edits').lower) ∧
    ∃ compact compact' views views',
      (editor.replay edits).lower = .ok compact ∧ (editor'.replay edits').lower = .ok compact' ∧
      (editor.replay edits).view = .ok views ∧ (editor'.replay edits').view = .ok views' ∧
      (views.Pairs (List.Forall₂ fun a b => a.sameData b = true) views' ↔
        compact.sameData compact' = true) := by
  obtain ⟨compact, views, hlower, hview, hpairs⟩ := presents_of_replay hopen edits
  obtain ⟨compact', views', hlower', hview', hpairs'⟩ := presents_of_replay hopen' edits'
  have hequal : compact = compact' ↔ views = views' := by
    rw [← Document.pairs_eq_iff, ← Document.pairs_eq_iff]
    refine Document.Pairs.pairs_iff (fun script views script' views' h h' => ?_) hpairs hpairs'
    rw [← List.forall₂_eq_eq_eq, ← List.forall₂_eq_eq_eq]
    exact forall₂_iff (fun _ _ _ _ hx hx' => hx.eq_iff hx') h h'
  have hsame : compact.sameData compact' = true ↔
      views.Pairs (List.Forall₂ fun a b => a.sameData b = true) views' := by
    rw [Document.sameData_iff]
    refine Document.Pairs.pairs_iff (fun script views script' views' h h' => ?_) hpairs hpairs'
    exact forall₂_iff (fun _ _ _ _ hx hx' => by rw [hx.sameData_eq hx']) h h'
  refine ⟨?_, compact, compact', views, views', hlower, hlower', hview, hview', hsame.symm⟩
  rw [hlower, hlower', hview, hview', Except.ok.injEq, Except.ok.injEq, hequal]

/-- A filter by zero and one by negative zero, at the end of different histories: the trees differ,
but they are the same where fractions are compared as numbers. -/
theorem view_and_compact_determine_each_other_zeros :
    let filter (operand : Decimal) : Operator :=
      .sequence [.nat 0x11, .array [.nat 5, .number (.float operand)]]
    let negativeZero : Decimal := ⟨true, 0, 0, .inr ⟨rfl, rfl⟩⟩
    let document : Document Script := { Document.blank with tally := [filter negativeZero] }
    let edits : List Edit := [.generate [.bare ⟨0x74⟩], .push .tally (.bare ⟨0x74⟩),
      .remove .aggregate 0, .replace .tally 0 (filter .zero)]
    ∃ editor editor' views views',
      ofDocument Catalog.standard 7 ((none : Option (Document Script)).getD .blank) = .ok editor ∧
      ofDocument Catalog.standard 0 ((some document).getD .blank) = .ok editor' ∧
      (editor.replay edits).view ≠ (editor'.replay []).view ∧
      (editor.replay edits).view = .ok views ∧ (editor'.replay []).view = .ok views' ∧
      views.Pairs (List.Forall₂ fun a b => a.sameData b = true) views' := by
  intro filter negativeZero document edits
  obtain ⟨hread, hread'⟩ :
      (ofDocument Catalog.standard 7
          ((none : Option (Document Script)).getD .blank)).toOption.map
        (fun editor => (editor.replay edits).lower) =
          some (.ok { Document.blank with tally := [filter .zero] }) ∧
      (ofDocument Catalog.standard 0 ((some document).getD .blank)).toOption.map
        (fun editor => (editor.replay []).lower) = some (.ok document) := by decide +kernel
  obtain ⟨editor, hopen, hlower⟩ := Option.map_eq_some_iff.1 hread
  obtain ⟨editor', hopen', hlower'⟩ := Option.map_eq_some_iff.1 hread'
  have hopen := eq_ok_of_toOption hopen
  have hopen' := eq_ok_of_toOption hopen'
  obtain ⟨hequal, compact, compact', views, views', hcompact, hcompact', hview, hview', hsame⟩ :=
    view_and_compact_determine_each_other hopen hopen' edits []
  refine ⟨editor, editor', views, views', hopen, hopen', fun h => ?_, hview, hview', hsame.2 ?_⟩
  · have hsamelower := hequal.1 h
    rw [hlower, hlower'] at hsamelower
    exact absurd hsamelower (by decide +kernel)
  · obtain rfl := Except.ok.inj (hlower.symm.trans hcompact)
    obtain rfl := Except.ok.inj (hlower'.symm.trans hcompact')
    decide +kernel

end Editor

end ScriptTree
