import ScriptTree.Proofs.Document.Pairs
import ScriptTree.Proofs.Editor.Effect
import ScriptTree.Proofs.Tree.Planned
/-!
# Invariants of the arena of an editor

Every node comes into the arena of an editor with the layout of an operator that was planned. So a
property of the empty arena that the layout of one valid plan keeps is an invariant: it holds when
an editor is opened, and behind every edit, whether that succeeds or not.

Main statements: `Editor.keeps_of_ofDocument` and `Editor.keeps_replay`.
-/

namespace ScriptTree

variable {catalog : Catalog} {Q : Arena Node → Prop} {arena : Arena Node}

/-- Putting in the layout of one valid plan keeps a property. -/
def Catalog.InsertionKeeps (catalog : Catalog) (Q : Arena Node → Prop) : Prop :=
  ∀ (arena : Arena Node) (plan : OperatorPlan), plan.Valid catalog →
    plan.nodeCount ≤ arena.remaining → Q arena →
    Q (arena.fill (plan.layout catalog arena.frontier).nodes)

/-! ## Layouts -/

/-- Two lists of nodes, the second of which is put in where the first one ends. -/
theorem Arena.keeps_append {first second : List Node}
    (hfits : (first ++ second).length ≤ arena.remaining)
    (hfirst : first.length ≤ arena.remaining → Q (arena.fill first))
    (hsecond : ∀ middle : Arena Node, middle.frontier = arena.frontier + first.length →
      second.length ≤ middle.remaining → Q middle → Q (middle.fill second)) :
    Q (arena.fill (first ++ second)) := by
  rw [List.length_append] at hfits
  have hroom : first.length ≤ arena.remaining := by omega
  rw [fill_append]
  refine hsecond _ (frontier_fill_of_fits hroom) ?_ (hfirst hroom)
  rw [remaining_fill]
  omega

/-- Layouts one behind the other keep what each of them keeps. -/
theorem Layout.keeps_all {α β : Type} {lay : Nat → α → Layout β} {items : List α}
    (hone : ∀ item ∈ items, ∀ arena : Arena Node,
      (lay arena.frontier item).nodes.length ≤ arena.remaining → Q arena →
      Q (arena.fill (lay arena.frontier item).nodes))
    (hfits : (Layout.all lay arena.frontier items).nodes.length ≤ arena.remaining)
    (h : Q arena) : Q (arena.fill (Layout.all lay arena.frontier items).nodes) := by
  induction items generalizing arena with
  | nil =>
    rw [Layout.all, Arena.fill_nil]
    exact h
  | cons item items ih =>
    refine Arena.keeps_append hfits (fun hroom => hone item List.mem_cons_self arena hroom h)
      fun middle hmiddle hroom hQ => ?_
    rw [← hmiddle] at hroom ⊢
    exact ih (fun item hitem => hone item (List.mem_cons_of_mem _ hitem)) hroom hQ

namespace Catalog

theorem InsertionKeeps.script (hQ : catalog.InsertionKeeps Q) {plans : List OperatorPlan}
    (hvalid : ∀ plan ∈ plans, plan.Valid catalog)
    (hfits : (catalog.scriptLayout arena.frontier plans).nodes.length ≤ arena.remaining)
    (h : Q arena) : Q (arena.fill (catalog.scriptLayout arena.frontier plans).nodes) := by
  refine Layout.keeps_all (fun plan hplan arena hroom => ?_) hfits h
  rw [OperatorPlan.length_layout] at hroom
  exact hQ arena plan (hvalid plan hplan) hroom

theorem InsertionKeeps.document (hQ : catalog.InsertionKeeps Q)
    {document : Document (List OperatorPlan)}
    (hvalid : ∀ plans ∈ document.scripts, ∀ plan ∈ plans, plan.Valid catalog)
    (hfits : (catalog.documentLayout arena.frontier document).nodes.length ≤ arena.remaining)
    (h : Q arena) : Q (arena.fill (catalog.documentLayout arena.frontier document).nodes) := by
  simp only [Document.mem_scripts] at hvalid
  -- the sources come first, then the aggregate, then the tally
  refine Arena.keeps_append hfits (fun hroom => ?_) fun second hsecond hfits h => ?_
  · refine Layout.keeps_all (fun source hsource arena hroom h => ?_) hroom h
    exact hQ.script (hvalid _ (.inl ⟨source, hsource, rfl⟩)) hroom h
  · rw [← hsecond] at hfits ⊢
    refine Arena.keeps_append hfits (fun hroom => ?_) fun third hthird hroom h => ?_
    · exact hQ.script (hvalid _ (.inr (.inl rfl))) hroom h
    · rw [← hthird] at hroom ⊢
      exact hQ.script (hvalid _ (.inr (.inr rfl))) hroom h

/-! ## Generating -/

theorem valid_of_planScript {script : Script} {plans : List OperatorPlan}
    (h : catalog.planScript script = .ok plans) : ∀ plan ∈ plans, plan.Valid catalog := by
  intro plan hplan
  obtain ⟨operator, -, hoperator⟩ := forall₂_exists_left (mapM_eq_ok_iff.1 h) hplan
  exact (planOperator_eq_ok.1 hoperator).1

theorem valid_of_planDocument {document : Document Script}
    {plans : Document (List OperatorPlan)} (h : catalog.planDocument document = .ok plans) :
    ∀ script ∈ plans.scripts, ∀ plan ∈ script, plan.Valid catalog := by
  intro script hscript
  obtain ⟨compact, hcompact⟩ := (Document.mapM_eq_ok_iff.1 h).exists_left hscript
  exact valid_of_planScript hcompact

end Catalog

/-! ## Editing -/

namespace Editor

/-- The arena of an editor on a catalog has a property. -/
def Has (catalog : Catalog) (Q : Arena Node → Prop) (editor : Editor) : Prop :=
  editor.catalog = catalog ∧ Q editor.arena

variable (hQ : catalog.InsertionKeeps Q)

include hQ

theorem Plans.keeps {editor : Editor} {operator : Operator} {plan : OperatorPlan}
    (h : editor.Plans operator plan) (hhas : editor.Has catalog Q) :
    Q (editor.arena.fill (editor.lay plan).nodes) := by
  obtain ⟨rfl, harena⟩ := hhas
  have hroom := h.room
  rw [lay, OperatorPlan.length_layout] at hroom
  exact hQ editor.arena plan (Catalog.planOperator_eq_ok.1 h.planned).1 hroom harena

/-- An effect keeps a property of the arena that putting in one operator keeps. -/
theorem Effect.keeps {editor after : Editor} {edit : Edit} {result : Edit.Result}
    (heffect : editor.Effect edit result after) (h : editor.Has catalog Q) :
    after.Has catalog Q := by
  refine ⟨heffect.catalog.trans h.1, ?_⟩
  cases heffect with
  | rewritten _ _ hplans => exact hplans.keeps hQ h
  | pushed _ hplans => exact hplans.keeps hQ h
  | converted hplanned hroom =>
    obtain ⟨rfl, harena⟩ := h
    exact hQ.document (Catalog.valid_of_planDocument hplanned) hroom harena
  | generated hplanned hroom =>
    obtain ⟨rfl, harena⟩ := h
    exact hQ.script (Catalog.valid_of_planScript hplanned) hroom harena
  -- the other edits do not touch the arena
  | removed _ | sourceAdded | sourceRemoved _ | urlSet _ | nameSet | descriptionSet => exact h.2

/-- The arena keeps the property behind every history. -/
theorem keeps_replay {editor : Editor} (h : editor.Has catalog Q) (edits : List Edit) :
    (editor.replay edits).Has catalog Q :=
  replay_induction (fun heffect => heffect.keeps hQ) h edits

/-- The arena of an editor that is opened has the property if the empty arena has it. -/
theorem keeps_of_ofDocument {origin : UInt32} {document : Document Script} {editor : Editor}
    (hopen : ofDocument catalog origin document = .ok editor) (hempty : Q (.empty origin)) :
    editor.Has catalog Q := by
  obtain ⟨plans, hplans, hroom, rfl⟩ := layout_of_ofDocument hopen
  exact ⟨rfl, hQ.document (Catalog.valid_of_planDocument hplans) hroom hempty⟩

end Editor

end ScriptTree
