import Mathlib.Data.List.Nodup
import Mathlib.Data.List.Perm.Subperm
import ScriptTree.Proofs.Tree.Layout
import ScriptTree.Proofs.Tree.WellFormed
/-!
# Every node has one place

The handles in the nodes of a layout, together with those that the layout gives back, are the
handles of its nodes: each node of the layout is referred to once, by another node of it or from
outside. So no two places share a node, and no node is lost.

Main statements: `Catalog.covers_scriptLayout` and its like for the other layouts.
-/

namespace ScriptTree

/-- The handles of `count` nodes, the first of them under the number `next`. -/
def Handle.range (next count : Nat) : List Handle :=
  (List.range' next count).map .ofNat

theorem Handle.mem_range {next count : Nat} {handle : Handle} :
    handle ∈ range next count ↔ ∃ n, next ≤ n ∧ n < next + count ∧ .ofNat n = handle := by
  simp [range, and_assoc]

theorem Handle.range_add (next first second : Nat) :
    range next (first + second) = range next first ++ range (next + first) second := by
  simp [range, ← List.range'_append_1]

/-- Handles of the number space are different when their numbers are. -/
theorem Handle.nodup_range {next count : Nat} (h : next + count ≤ UInt32.size) :
    (range next count).Nodup := by
  refine List.Nodup.map_on (fun a ha b hb hab => ?_) List.nodup_range'
  rw [List.mem_range'_1] at ha hb
  rw [← Handle.toNat_ofNat (n := a) (by omega), hab, Handle.toNat_ofNat (by omega)]

/-- The handles that nodes hold. -/
def Node.references (nodes : List Node) : List Handle :=
  nodes.flatMap Node.handles

/-- The layout refers to each of its nodes once: from another node or among the handles that its
value gives to the outside. -/
def Layout.Covers {α : Type} (layout : Layout α) (next : Nat) (outside : α → List Handle) : Prop :=
  (Node.references layout.nodes ++ outside layout.value).Perm
    (Handle.range next layout.nodes.length)

namespace Layout.Covers

variable {α β : Type} {next : Nat}

/-- A node on top that takes up the handles of a layout. -/
theorem crown {layout : Layout α} {outside : α → List Handle} (h : layout.Covers next outside)
    {node : Node} (hnode : node.handles = outside layout.value) :
    (⟨layout.nodes ++ [node], .ofNat (next + layout.nodes.length)⟩ : Layout Handle).Covers next
      fun handle => [handle] := by
  have htop : Handle.range (next + layout.nodes.length) 1 =
      [.ofNat (next + layout.nodes.length)] := rfl
  simp only [Covers, Node.references, List.flatMap_append, List.flatMap_singleton, hnode,
    List.length_append, List.length_singleton, Handle.range_add, htop]
  exact List.Perm.append_right _ h

/-- Of two layouts one behind the other, each covers its own nodes. -/
theorem behind {γ : Type} {first : Layout α} {second : Layout β} {both : Layout γ}
    {f : α → List Handle} {g : β → List Handle} {outside : γ → List Handle}
    (hfirst : first.Covers next f) (hsecond : second.Covers (next + first.nodes.length) g)
    (hnodes : both.nodes = first.nodes ++ second.nodes)
    (houtside : outside both.value = f first.value ++ g second.value) :
    both.Covers next outside := by
  -- the second nodes come before what the first give to the outside, so we count
  refine List.perm_iff_count.2 fun handle => ?_
  have hone := List.perm_iff_count.1 hfirst handle
  have htwo := List.perm_iff_count.1 hsecond handle
  simp only [hnodes, houtside, Node.references, List.flatMap_append, List.length_append,
    Handle.range_add, List.count_append] at hone htwo ⊢
  omega

theorem all {lay : Nat → α → Layout β} {outside : β → List Handle}
    (h : ∀ next item, (lay next item).Covers next outside) (next : Nat) (items : List α) :
    (Layout.all lay next items).Covers next (List.flatMap outside) := by
  induction items generalizing next with
  | nil => exact .refl _
  | cons item items ih => exact (h next item).behind (ih _) rfl rfl

end Layout.Covers

/-! ## Operators -/

theorem ArgumentPlan.covers_layout (next : Nat) (plan : ArgumentPlan) :
    (plan.layout next).Covers next fun handle => [handle] := by
  cases plan <;> exact .refl _

namespace OperatorPlan

theorem covers_optionLayout (next : Nat) (plan : OperatorPlan) :
    (plan.optionLayout next).Covers next Chosen.arguments := by
  have harguments := Layout.Covers.all ArgumentPlan.covers_layout next plan.arguments
  simpa [Layout.Covers, optionLayout] using harguments

theorem covers_selectLayout (catalog : Catalog) (next : Nat) (plan : OperatorPlan) :
    (plan.selectLayout catalog next).Covers next fun select => [select.selected] :=
  (plan.covers_optionLayout next).crown rfl

theorem covers_layout (catalog : Catalog) (next : Nat) (plan : OperatorPlan) :
    (plan.layout catalog next).Covers next fun handle => [handle] :=
  (plan.covers_selectLayout catalog next).crown rfl

end OperatorPlan

/-! ## Scripts and documents -/

/-- The handles of a document, in the order of the stages. -/
def Document.roots (document : Document (List Handle)) : List Handle :=
  document.scripts.flatten

namespace Catalog

theorem covers_scriptLayout (catalog : Catalog) (next : Nat) (plans : List OperatorPlan) :
    (catalog.scriptLayout next plans).Covers next id := by
  have hplans := Layout.Covers.all (OperatorPlan.covers_layout catalog) next plans
  simpa [Layout.Covers, scriptLayout] using hplans

theorem covers_documentLayout (catalog : Catalog) (next : Nat)
    (document : Document (List OperatorPlan)) :
    (catalog.documentLayout next document).Covers next Document.roots := by
  have hsource : ∀ next source,
      (catalog.sourceLayout next source).Covers next Source.script :=
    fun next source => catalog.covers_scriptLayout next source.script
  let retrieve := Layout.all catalog.sourceLayout next document.retrieve
  let aggregate := catalog.scriptLayout (next + retrieve.nodes.length) document.aggregate
  let tally := catalog.scriptLayout (next + retrieve.nodes.length + aggregate.nodes.length)
    document.tally
  have hretrieve : retrieve.Covers next (List.flatMap Source.script) :=
    .all hsource next document.retrieve
  have hstages : (⟨aggregate.nodes ++ tally.nodes, aggregate.value ++ tally.value⟩ :
      Layout (List Handle)).Covers (next + retrieve.nodes.length) id :=
    (catalog.covers_scriptLayout _ document.aggregate).behind
      (catalog.covers_scriptLayout _ document.tally) rfl rfl
  have houtside : (catalog.documentLayout next document).value.roots =
      retrieve.value.flatMap Source.script ++ (aggregate.value ++ tally.value) := by
    simp [Document.roots, Document.scripts, documentLayout, List.flatMap, retrieve, aggregate,
      tally]
  exact hretrieve.behind hstages rfl houtside

end Catalog

end ScriptTree
