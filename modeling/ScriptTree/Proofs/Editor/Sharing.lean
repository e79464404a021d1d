import Mathlib.Data.List.Flatten
import Mathlib.Data.List.Perm.Basic
import ScriptTree.Proofs.Editor.Effect
import ScriptTree.Proofs.Tree.Coverage
/-!
# No node is shared

Handles are held in two kinds of places: in the nodes of an arena and in the scripts of a document.
Generating refers once to every node that it puts in, and an edit hands on the handles of the
document or drops them. So among all places no handle ever occurs twice, and an editor that was just
opened has exactly one place for every node.

Main statements: `Editor.handles_of_ofDocument` and `Editor.Unshared.replay`.
-/

namespace ScriptTree

/-! ## Documents -/

theorem set_subperm_cons {α : Type} (items : List α) (index : Nat) (item : α) :
    (items.set index item).Subperm (item :: items) := by
  by_cases hlt : index < items.length
  · refine (List.set_perm_cons_eraseIdx hlt item).subperm.trans ?_
    exact (List.subperm_cons item).2 (List.eraseIdx_sublist ..).subperm
  · rw [List.set_eq_of_length_le (by omega)]
    exact (List.sublist_cons_self ..).subperm

/-- A change of one item adds at most `extra` to what the items have together, if it adds no more
to that item. -/
theorem flatMap_modify_subperm {α β : Type} [DecidableEq β] (extra : List β) {g : α → List β}
    {f : α → α} {items : List α} {index : Nat}
    (h : ∀ item, items[index]? = some item → (g (f item)).Subperm (extra ++ g item)) :
    ((items.modify index f).flatMap g).Subperm (extra ++ items.flatMap g) := by
  induction items generalizing index with
  | nil => cases index <;> exact List.nil_subperm
  | cons item items ih =>
    rw [List.subperm_iff_count]
    intro x
    cases index with
    | zero =>
      have hitem := List.subperm_iff_count.1 (h item rfl) x
      simp only [List.modify_zero_cons, List.flatMap_cons, List.count_append] at hitem ⊢
      omega
    | succ index =>
      have hrest := List.subperm_iff_count.1 (@ih index h) x
      simp only [List.modify_succ_cons, List.flatMap_cons, List.count_append] at hrest ⊢
      omega

namespace Document

theorem roots_eq (document : Document (List Handle)) :
    document.roots =
      document.retrieve.flatMap Source.script ++ (document.aggregate ++ document.tally) := by
  simp [roots, scripts, List.flatMap]

/-- A change of one script adds to the handles of the document no more than to those of the
script. -/
theorem roots_modify (extra : List Handle) {document : Document (List Handle)} {stage : Stage}
    {change : List Handle → List Handle}
    (h : ∀ script, document.script? stage = some script →
      (change script).Subperm (extra ++ script)) :
    (document.modify stage change).roots.Subperm (extra ++ document.roots) := by
  rw [List.subperm_iff_count]
  intro handle
  simp only [roots_eq, List.count_append]
  cases stage with
  | retrieve index =>
    have hsource : ∀ source, document.retrieve[index]? = some source →
        (mapSource change source).script.Subperm (extra ++ source.script) :=
      fun source hat => h source.script (by rw [script?, hat]; rfl)
    have hretrieve := List.subperm_iff_count.1 (flatMap_modify_subperm extra hsource) handle
    simp only [List.count_append] at hretrieve
    simp only [modify]
    omega
  | aggregate =>
    have haggregate := List.subperm_iff_count.1 (h document.aggregate rfl) handle
    simp only [List.count_append] at haggregate
    simp only [modify]
    omega
  | tally =>
    have htally := List.subperm_iff_count.1 (h document.tally rfl) handle
    simp only [List.count_append] at htally
    simp only [modify]
    omega

end Document

/-! ## Places -/

/-- The handles of the nodes of an arena. -/
def Arena.handles (arena : Arena Node) : List Handle :=
  Handle.range arena.origin.toNat arena.size

theorem Arena.nodup_handles (arena : Arena Node) : arena.handles.Nodup :=
  Handle.nodup_range arena.fits

/-- The handles that the nodes of an arena hold. -/
def Arena.references (arena : Arena Node) : List Handle :=
  Node.references arena.nodes.toList

/-- A layout brings a place for each of its nodes. -/
theorem Arena.count_references_fill {α : Type} {arena : Arena Node} {layout : Layout α}
    {outside : α → List Handle} (hcovers : layout.Covers arena.frontier outside)
    (hroom : layout.nodes.length ≤ arena.remaining) (handle : Handle) :
    (arena.fill layout.nodes).references.count handle + (outside layout.value).count handle +
        arena.handles.count handle =
      arena.references.count handle + (arena.fill layout.nodes).handles.count handle := by
  have hnodes : (arena.fill layout.nodes).references =
      arena.references ++ Node.references layout.nodes := by
    simp [Arena.references, Node.references, Arena.toList_fill, List.take_of_length_le hroom]
  have hsize : (arena.fill layout.nodes).size = arena.size + layout.nodes.length := by
    have hfrontier := Arena.frontier_fill_of_fits hroom
    simp only [Arena.frontier, Arena.origin_fill] at hfrontier
    omega
  have hhandles : (arena.fill layout.nodes).handles =
      arena.handles ++ Handle.range arena.frontier layout.nodes.length := by
    rw [Arena.handles, hsize, Handle.range_add]
    rfl
  have hcount := List.perm_iff_count.1 hcovers handle
  simp only [hnodes, hhandles, List.count_append] at hcount ⊢
  omega

namespace Editor

/-- The handles in all places of an editor: in the nodes of its arena and in the scripts of its
document. -/
def references (editor : Editor) : List Handle :=
  editor.arena.references ++ editor.document.roots

/-- Every place has a node of its own. -/
def Unshared (editor : Editor) : Prop :=
  editor.references.Subperm editor.arena.handles

variable {editor after : Editor} {document : Document (List Handle)}

theorem Unshared.count_le_one (h : editor.Unshared) (handle : Handle) :
    editor.references.count handle ≤ 1 :=
  Nat.le_trans (h.count_le handle)
    (List.nodup_iff_count_le_one.1 editor.arena.nodup_handles handle)

/-- New nodes come with the places of their layout, and the document may take over what the layout
gives to the outside. -/
theorem Unshared.grow (h : editor.Unshared) {α : Type} {layout : Layout α}
    {outside : α → List Handle} (hcovers : layout.Covers editor.arena.frontier outside)
    (hroom : layout.nodes.length ≤ editor.arena.remaining)
    (hdocument : document.roots.Subperm (outside layout.value ++ editor.document.roots)) :
    Unshared { editor with arena := editor.arena.fill layout.nodes, document := document } := by
  -- of each handle the places grow by what the layout brings, and so do the nodes
  refine List.subperm_iff_count.2 fun handle => ?_
  have hold := List.subperm_iff_count.1 h handle
  have hnew := List.subperm_iff_count.1 hdocument handle
  have hfill := Arena.count_references_fill hcovers hroom handle
  simp only [references, List.count_append] at hold hnew ⊢
  omega

/-- The document may drop handles. -/
theorem Unshared.amend (h : editor.Unshared)
    (hdocument : document.roots.Subperm editor.document.roots) :
    Unshared { editor with document := document } :=
  ((List.subperm_append_left _).2 hdocument).trans h

theorem Unshared.effect (h : editor.Unshared) {edit : Edit} {result : Edit.Result}
    (heffect : editor.Effect edit result after) : after.Unshared := by
  cases heffect with
  | rewritten _ _ hplans =>
    refine h.grow (OperatorPlan.covers_layout editor.catalog _ _) hplans.room ?_
    exact Document.roots_modify [_] fun script _ => set_subperm_cons script _ _
  | pushed _ hplans =>
    refine h.grow (OperatorPlan.covers_layout editor.catalog _ _) hplans.room ?_
    exact Document.roots_modify [_] fun script _ => List.perm_append_comm.subperm
  | removed _ =>
    refine h.amend (Document.roots_modify [] fun script _ => ?_)
    exact (List.eraseIdx_sublist ..).subperm
  | sourceAdded =>
    refine h.amend (List.Perm.of_eq ?_).subperm
    simp [Document.roots_eq]
  | sourceRemoved _ =>
    refine h.amend ?_
    simp only [Document.roots_eq]
    exact (List.subperm_append_right _).2 ((List.eraseIdx_sublist ..).flatMap _).subperm
  | urlSet _ =>
    -- the source keeps its script
    refine h.amend ?_
    simp only [Document.roots_eq]
    refine (List.subperm_append_right _).2 ?_
    exact flatMap_modify_subperm [] fun source _ => .refl _
  | nameSet | descriptionSet => exact h
  | converted _ hroom =>
    exact h.grow (editor.catalog.covers_documentLayout _ _) hroom
      (List.sublist_append_right ..).subperm
  | generated _ hroom =>
    exact h.grow (editor.catalog.covers_scriptLayout _ _) hroom
      (List.sublist_append_right ..).subperm

theorem Unshared.replay (h : editor.Unshared) (edits : List Edit) :
    (editor.replay edits).Unshared :=
  replay_induction (P := Unshared) (fun heffect h => h.effect heffect) h edits

/-- An editor that was just opened has exactly one place for every node. -/
theorem handles_of_ofDocument {catalog : Catalog} {origin : UInt32} {compact : Document Script}
    (hopen : ofDocument catalog origin compact = .ok editor) :
    editor.references.Perm editor.arena.handles := by
  obtain ⟨plans, -, hroom, rfl⟩ := layout_of_ofDocument hopen
  refine List.perm_iff_count.2 fun handle => ?_
  have hfill := Arena.count_references_fill (catalog.covers_documentLayout _ plans) hroom handle
  have hempty : (Arena.empty origin : Arena Node).handles = [] := rfl
  have hnone : (Arena.empty origin : Arena Node).references = [] := rfl
  simp only [hempty, hnone, List.count_nil] at hfill
  simp only [references, List.count_append]
  omega

end Editor

end ScriptTree
