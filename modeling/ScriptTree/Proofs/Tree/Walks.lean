import Mathlib.Data.List.Chain
import Mathlib.Data.List.Nodup
import Mathlib.Data.List.Perm.Subperm
import Mathlib.Logic.Relation
import ScriptTree.Proofs.Arena.Insertions
import ScriptTree.Proofs.Tree.WellFormed
import ScriptTree.Tree.View
/-!
# Walks through an arena

A walk goes down from a handle to the handles in its node and on to those in their nodes. Which
handle it meets is told by a path, the positions that it takes in one node after the other, and a
node tells which kinds of nodes its handles have to lead to. An arena may be any graph; where no
walk comes back to a handle, walks are no longer than the arena has nodes.

Main statements: `Arena.AcyclicFrom.length_le` and `Arena.acyclicFrom_of_descends`.
-/

namespace ScriptTree

/-- The kinds of nodes that the handles in a node have to lead to. -/
def Node.expects : Node → List NodeKind
  | .select _ => [.option]
  | .option _ => [.select, .input]
  | .input _ => []

namespace Arena

variable {arena : Arena Node} {handle : Handle} {expected : List NodeKind}

/-! ## Places -/

/-- What a walk meets at the end of a path from a handle: a handle, with the kinds of nodes that are
expected under it. -/
def place? (arena : Arena Node) (expected : List NodeKind) (handle : Handle) :
    (path : List Nat) → Option (List NodeKind × Handle)
  | [] => some (expected, handle)
  | step :: path => do
    let node ← arena.resolve? handle
    let child ← node.handles[step]?
    place? arena node.expects child path

theorem place?_cons {node : Node} (h : arena.resolve? handle = some node) (step : Nat)
    (path : List Nat) : arena.place? expected handle (step :: path) =
      node.handles[step]?.bind fun child => arena.place? node.expects child path := by
  rw [place?, h]
  rfl

theorem place?_cons_of_dangling (h : arena.resolve? handle = none) (step : Nat)
    (path : List Nat) : arena.place? expected handle (step :: path) = none := by
  rw [place?, h]
  rfl

/-! ## Cycles -/

/-- One handle is in the node under another one: the selected handle of a select, or an argument of
an option. -/
def Child (arena : Arena Node) (parent child : Handle) : Prop :=
  ∃ node, arena.resolve? parent = some node ∧ child ∈ node.handles

/-- No walk from the handle comes back to where it has been. -/
def AcyclicFrom (arena : Arena Node) (root : Handle) : Prop :=
  ∀ handle, Relation.ReflTransGen arena.Child root handle →
    ¬Relation.TransGen arena.Child handle handle

/-- The handles that a walk meets behind the first one, each in the node of the one before. -/
theorem exists_trail {path : List Nat} (h : (arena.place? expected handle path).isSome) :
    ∃ trail : List Handle, trail.length = path.length ∧
      List.IsChain arena.Child (handle :: trail) := by
  induction path generalizing expected handle with
  | nil => exact ⟨[], rfl, .singleton handle⟩
  | cons step path ih =>
    cases hnode : arena.resolve? handle with
    | none =>
      rw [place?_cons_of_dangling hnode] at h
      cases h
    | some node =>
      rw [place?_cons hnode] at h
      cases hchild : node.handles[step]? with
      | none =>
        rw [hchild] at h
        cases h
      | some child =>
        rw [hchild] at h
        obtain ⟨trail, hlength, htrail⟩ := ih h
        exact ⟨child :: trail, congrArg Nat.succ hlength,
          .cons_cons ⟨node, hnode, List.mem_of_getElem? hchild⟩ htrail⟩

theorem AcyclicFrom.child (h : arena.AcyclicFrom handle) {child : Handle}
    (hchild : arena.Child handle child) : arena.AcyclicFrom child :=
  fun later hlater => h later (.head hchild hlater)

/-- A trail without a cycle meets no handle twice. -/
theorem AcyclicFrom.nodup (h : arena.AcyclicFrom handle) {trail : List Handle}
    (htrail : List.IsChain arena.Child (handle :: trail)) : (handle :: trail).Nodup := by
  induction trail generalizing handle with
  | nil => exact List.nodup_singleton handle
  | cons child trail ih =>
    obtain ⟨hchild, hrest⟩ := List.isChain_cons_cons.1 htrail
    refine List.nodup_cons.2 ⟨fun hmem => ?_, ih (h.child hchild) hrest⟩
    have hcycle : List.IsChain (Relation.TransGen arena.Child) (handle :: child :: trail) :=
      htrail.imp fun _ _ => .single
    exact h handle .refl (hcycle.rel_cons hmem)

/-- All handles of a trail but the last one resolve. -/
theorem dropLast_subset_of_isChain {trail : List Handle} (h : List.IsChain arena.Child trail) :
    trail.dropLast ⊆ arena.toList.map Prod.fst := by
  induction h with
  | nil | singleton => exact List.nil_subset _
  | @cons_cons parent child trail hchild _ ih =>
    obtain ⟨node, hnode, -⟩ := hchild
    have hparent : parent ∈ arena.toList.map Prod.fst :=
      List.mem_map.2 ⟨(parent, node), mem_toList.2 hnode, rfl⟩
    exact List.cons_subset.2 ⟨hparent, ih⟩

/-- Without a cycle walks are no longer than the arena. -/
theorem AcyclicFrom.length_le (h : arena.AcyclicFrom handle) {path : List Nat}
    (hplace : (arena.place? expected handle path).isSome) : path.length ≤ arena.size := by
  obtain ⟨trail, hlength, htrail⟩ := exists_trail hplace
  have hnodup : (handle :: trail).dropLast.Nodup :=
    (h.nodup htrail).sublist (List.dropLast_sublist _)
  have hle := (hnodup.subperm (dropLast_subset_of_isChain htrail)).length_le
  simpa [hlength, toList, size] using hle

/-- Where handles lead to earlier nodes or to none at all there are no cycles. -/
theorem acyclicFrom_of_descends
    (h : ∀ parent node, arena.resolve? parent = some node → ∀ child ∈ node.handles,
      child.id < parent.id ∨ arena.resolve? child = none) (root : Handle) :
    arena.AcyclicFrom root := by
  have hdescends : ∀ {parent child : Handle}, Relation.TransGen arena.Child parent child →
      child.id < parent.id ∨ arena.resolve? child = none := by
    intro parent child hpath
    induction hpath with
    | single hchild =>
      obtain ⟨node, hnode, hmem⟩ := hchild
      exact h _ node hnode _ hmem
    | tail _ hchild ih =>
      obtain ⟨node, hnode, hmem⟩ := hchild
      -- a handle that leads to no node has nothing below it
      rcases ih with hlt | hnone
      · exact (h _ node hnode _ hmem).imp_left fun hless => UInt32.lt_trans hless hlt
      · cases hnone.symm.trans hnode
  intro handle _ hcycle
  obtain ⟨child, ⟨node, hnode, -⟩, -⟩ := Relation.TransGen.head'_iff.1 hcycle
  rcases hdescends hcycle with hlt | hnone
  · exact UInt32.lt_irrefl _ hlt
  · cases hnone.symm.trans hnode

end Arena

end ScriptTree
