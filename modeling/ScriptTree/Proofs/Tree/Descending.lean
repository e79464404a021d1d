import ScriptTree.Catalog.Standard
import ScriptTree.Proofs.Tree.Unbounded
import ScriptTree.Tree.Generate
/-!
# Descending arenas

In a descending arena every handle in a node is smaller than the node's own, and it may lead to no
node at all, as there are none below the origin. Following handles then ends, since numbers do not
go down for ever. Trees are inserted from the bottom up: when a node goes in, the arena has passed
the handles in it.

Main statements: one insertion keeps an arena descending (`Arena.Descending.insert`), so do the
steps that commit and generate trees, also those that a fault ends half-way
(`Catalog.commitScript_keepsDescending` and the like), and walks through a descending arena end
(`Arena.descending_ends_and_stays`).
-/

namespace ScriptTree

namespace Arena

variable {arena later : Arena Node}

/-- Every handle in a node is smaller than the node's own. -/
def Descending (arena : Arena Node) : Prop :=
  ∀ handle node, arena.resolve? handle = some node → ∀ child ∈ node.handles, child.id < handle.id

theorem Descending.acyclicFrom (h : arena.Descending) (root : Handle) : arena.AcyclicFrom root :=
  acyclicFrom_of_descends
    (fun parent node hnode child hchild => .inl (h parent node hnode child hchild)) root

/-- The handles are smaller than the next one. -/
def Passed (arena : Arena Node) (handles : List Handle) : Prop :=
  ∀ handle ∈ handles, handle.id.toNat < arena.frontier

theorem Passed.mono {handles : List Handle} (h : arena.Passed handles)
    (hle : arena.frontier ≤ later.frontier) : later.Passed handles :=
  fun handle hhandle => Nat.lt_of_lt_of_le (h handle hhandle) hle

theorem passed_nil (arena : Arena Node) : arena.Passed [] :=
  fun _ hnone => absurd hnone List.not_mem_nil

theorem passed_append {xs ys : List Handle} :
    arena.Passed (xs ++ ys) ↔ arena.Passed xs ∧ arena.Passed ys :=
  List.forall_mem_append

/-- Inserting a node whose handles the arena has passed keeps it descending. -/
theorem Descending.insert (h : arena.Descending) {node : Node} (hnode : arena.Passed node.handles)
    (hroom : 0 < arena.remaining) : (arena.fill [node]).Descending := by
  intro handle found hfound child hchild
  rcases resolve?_fill_singleton hroom hfound with hold | ⟨rfl, rfl⟩
  · exact h handle found hold child hchild
  · -- the new node is under the next handle, which is larger than all that were passed
    have hspace := arena.frontier_add_remaining
    rw [UInt32.lt_iff_toNat_lt, Handle.toNat_ofNat (by omega)]
    exact hnode child hchild

end Arena

/-! ## Steps -/

/-- From `arena` the steps end, with or without a fault, in an arena that is descending if `arena`
is, and the handles in what they give have been passed there. -/
structure Building.KeepsDescending {α : Type} (steps : Building α) (arena : Arena Node)
    (handles : α → List Handle) : Prop where
  grows : arena.frontier ≤ (steps.run.run arena).2.frontier
  descending : arena.Descending → (steps.run.run arena).2.Descending
  passed : ∀ value, (steps.run.run arena).1 = .ok value →
    (steps.run.run arena).2.Passed (handles value)

theorem Building.looks_require {α : Type} (result : Except Fault α) :
    Steps.Looks (Building.require result) :=
  fun _ => rfl

theorem Building.looks_ensureRoom (count : Nat) : Steps.Looks (Building.ensureRoom count) :=
  fun _ => rfl

namespace Building.KeepsDescending

variable {α β : Type} {arena : Arena Node} {handles : α → List Handle} {others : β → List Handle}

theorem of_run {steps : Building α} {result : Except Fault α} {after : Arena Node}
    (hrun : steps.run.run arena = (result, after)) (hgrows : arena.frontier ≤ after.frontier)
    (hdescending : arena.Descending → after.Descending)
    (hpassed : ∀ value, result = .ok value → after.Passed (handles value)) :
    KeepsDescending steps arena handles := by
  constructor <;> rwa [hrun]

theorem of_fault {steps : Building α} {fault : Fault} {after : Arena Node}
    (hrun : steps.run.run arena = (.error fault, after)) (hgrows : arena.frontier ≤ after.frontier)
    (hdescending : arena.Descending → after.Descending) : KeepsDescending steps arena handles := by
  refine of_run hrun hgrows hdescending fun value hvalue => ?_
  cases hvalue

theorem pure {value : α} (h : arena.Passed (handles value)) :
    KeepsDescending (Pure.pure value) arena handles := by
  refine of_run (Steps.run_pure value arena) (Nat.le_refl _) id ?_
  rintro _ ⟨⟩
  exact h

/-- Steps that only look, and give no handles. -/
theorem of_looks {steps : Building α} (h : Steps.Looks steps) :
    KeepsDescending steps arena fun _ => [] := by
  have hrun : steps.run.run arena = ((steps.run.run arena).1, arena) := Prod.ext rfl (h arena)
  exact of_run hrun (Nat.le_refl _) id fun _ _ => arena.passed_nil

theorem insert {node : Node} (hnode : arena.Passed node.handles) :
    KeepsDescending (Building.insert node) arena fun handle => [handle] := by
  have hrun : (Building.insert node).run.run arena = arena.insert node := rfl
  rw [Arena.insert_eq] at hrun
  by_cases hroom : 0 < arena.remaining
  · rw [if_pos hroom] at hrun
    have hspace := arena.frontier_add_remaining
    have hfrontier : (arena.fill [node]).frontier = arena.frontier + 1 :=
      Arena.frontier_fill_of_fits hroom
    refine of_run hrun (by omega) (fun h => h.insert hnode hroom) ?_
    rintro _ ⟨⟩
    refine List.forall_mem_singleton.2 ?_
    rw [Handle.toNat_ofNat (by omega), hfrontier]
    exact Nat.lt_succ_self _
  · rw [if_neg hroom] at hrun
    exact of_fault hrun (Nat.le_refl _) id

/-- Of steps in sequence, the second start where the first have given their handles out. -/
theorem bind {steps : Building α} {next : α → Building β}
    (h : KeepsDescending steps arena handles)
    (hnext : ∀ value later, arena.frontier ≤ later.frontier → later.Passed (handles value) →
      KeepsDescending (next value) later others) :
    KeepsDescending (steps >>= next) arena others := by
  obtain ⟨hgrows, hdescending, hpassed⟩ := h
  have hrun := Steps.run_bind steps next arena
  rcases hfirst : steps.run.run arena with ⟨result, middle⟩
  rw [hfirst] at hgrows hdescending hpassed hrun
  cases result with
  | error fault => exact of_fault hrun hgrows hdescending
  | ok value =>
    have hsecond := hnext value middle hgrows (hpassed value rfl)
    exact of_run hrun (Nat.le_trans hgrows hsecond.grows)
      (fun h => hsecond.descending (hdescending h)) hsecond.passed

/-- What steps give may still be wrapped. -/
theorem bind_pure {steps : Building α} {f : α → β} (h : KeepsDescending steps arena handles)
    (hf : ∀ value, others (f value) = handles value) :
    KeepsDescending (steps >>= fun value => Pure.pure (f value)) arena others :=
  h.bind fun value _ _ hpassed => pure (hf value ▸ hpassed)

theorem mapM {f : α → Building Handle}
    (h : ∀ arena item, KeepsDescending (f item) arena fun handle => [handle])
    (arena : Arena Node) (items : List α) : KeepsDescending (items.mapM f) arena id := by
  induction items generalizing arena with
  | nil => exact pure arena.passed_nil
  | cons item items ih =>
    rw [List.mapM_cons]
    refine (h arena item).bind fun first later _ hfirst => ?_
    refine (ih later).bind fun rest last hgrows hrest => pure ?_
    exact Arena.passed_append.2 ⟨hfirst.mono hgrows, hrest⟩

/-- Steps that plan, check the room for the plan and commit it. -/
theorem planned {planned : Except Fault α} {count : α → Nat} {commit : α → Building β}
    (h : ∀ arena plan, KeepsDescending (commit plan) arena others) (arena : Arena Node) :
    KeepsDescending
      (Building.require planned >>= fun plan =>
        Building.ensureRoom (count plan) >>= fun _ => commit plan) arena others :=
  (of_looks (Building.looks_require planned)).bind fun plan _ _ _ =>
    (of_looks (Building.looks_ensureRoom (count plan))).bind fun _ later _ _ => h later plan

end Building.KeepsDescending

open Building (KeepsDescending)

/-! ## Committing -/

theorem commitArgument_keepsDescending (arena : Arena Node) (plan : ArgumentPlan) :
    KeepsDescending (commitArgument plan) arena fun handle => [handle] := by
  cases plan with
  | input literal => exact .insert arena.passed_nil
  | filter label function operand =>
    exact (KeepsDescending.insert arena.passed_nil).bind fun _ _ _ hoperand =>
      (KeepsDescending.insert hoperand).bind fun _ _ _ hselected => .insert hselected
  | reducer label function =>
    exact (KeepsDescending.insert arena.passed_nil).bind fun _ _ _ hselected => .insert hselected

theorem commitOption_keepsDescending (arena : Arena Node) (plan : OperatorPlan) :
    KeepsDescending (commitOption plan) arena Chosen.arguments :=
  (KeepsDescending.mapM commitArgument_keepsDescending arena plan.arguments).bind_pure
    fun _ => rfl

namespace Catalog

variable (catalog : Catalog)

theorem commitOperator_keepsDescending (arena : Arena Node) (plan : OperatorPlan) :
    KeepsDescending (catalog.commitOperator plan) arena fun select => [select.selected] :=
  (commitOption_keepsDescending arena plan).bind fun _ _ _ harguments =>
    (KeepsDescending.insert harguments).bind_pure fun _ => rfl

theorem commitSelect_keepsDescending (arena : Arena Node) (plan : OperatorPlan) :
    KeepsDescending (catalog.commitSelect plan) arena fun handle => [handle] :=
  (catalog.commitOperator_keepsDescending arena plan).bind fun _ _ _ hselected =>
    .insert hselected

theorem commitScript_keepsDescending (arena : Arena Node) (plans : List OperatorPlan) :
    KeepsDescending (catalog.commitScript plans) arena id :=
  .mapM catalog.commitSelect_keepsDescending arena plans

/-! ## Generating -/

theorem generateScript_keepsDescending (arena : Arena Node) (script : Script) :
    KeepsDescending (catalog.generateScript script) arena id :=
  .planned catalog.commitScript_keepsDescending arena

theorem generateOperator_keepsDescending (arena : Arena Node) (operator : Operator) :
    KeepsDescending (catalog.generateOperator operator) arena fun select => [select.selected] :=
  .planned catalog.commitOperator_keepsDescending arena

theorem generateOption_keepsDescending (arena : Arena Node) (row : Row) (code : OperatorCode)
    (args : List Json) :
    KeepsDescending (catalog.generateOption row code args) arena Chosen.arguments :=
  (KeepsDescending.of_looks (Building.looks_require _)).bind fun output later _ _ =>
    .planned (fun arena arguments => commitOption_keepsDescending arena ⟨row, output, arguments⟩)
      later

end Catalog

/-! ## Walking and generating -/

namespace Arena

/-- Walks through descending arenas end, and generating keeps arenas descending. In a descending
arena the walk that nothing bounds ends from every handle, wherever that leads, and so do the walk
to a select and those to the selects of a script; each gives the view, or the fault that the view
ends in. And the arena is still descending after a script, an operator or an option is generated,
and after an operator or a script is committed, whether that succeeds or fails. -/
theorem descending_ends_and_stays (catalog : Catalog) (arena : Arena Node) (h : arena.Descending) :
    (∀ handle, (arena.walk handle).run = some (arena.view handle)) ∧
    (∀ handle, (arena.walkSelect handle).run = some (arena.viewSelect handle)) ∧
    (∀ script, (arena.walkScript script).run = some (arena.viewScript script)) ∧
    (∀ script, ((catalog.generateScript script).run.run arena).2.Descending) ∧
    (∀ operator, ((catalog.generateOperator operator).run.run arena).2.Descending) ∧
    (∀ row code args, ((catalog.generateOption row code args).run.run arena).2.Descending) ∧
    (∀ plan, ((catalog.commitOperator plan).run.run arena).2.Descending) ∧
    ∀ plans, ((catalog.commitScript plans).run.run arena).2.Descending := by
  refine ⟨fun handle => ?walk, fun handle => ?walkSelect, fun script => ?walkScript,
    fun script => ?script, fun operator => ?operator, fun row code args => ?option,
    fun plan => ?commitOperator, fun plans => ?commitScript⟩
  case walk => rw [(h.acyclicFrom handle).walk_eq]; rfl
  case walkSelect => rw [(h.acyclicFrom handle).walkSelect_eq]; rfl
  case walkScript => rw [walkScript_eq_of_acyclicFrom fun handle _ => h.acyclicFrom handle]; rfl
  case script => exact (catalog.generateScript_keepsDescending arena script).descending h
  case operator => exact (catalog.generateOperator_keepsDescending arena operator).descending h
  case option => exact (catalog.generateOption_keepsDescending arena row code args).descending h
  case commitOperator => exact (catalog.commitOperator_keepsDescending arena plan).descending h
  case commitScript => exact (catalog.commitScript_keepsDescending arena plans).descending h

/-- A select whose option has an argument below the origin: the walk ends there. The two handles
that are left do not suffice for a filter, and the arena is still descending with the operand and
the option that went in. -/
theorem descending_ends_and_stays_halfCommitted :
    let arena := (Arena.empty 0xfffffffc).fill [.option ⟨"reduce", .one .bytes, [⟨3⟩]⟩,
      .select ⟨.operator .array, none, .one .bytes, ⟨0xfffffffc⟩, []⟩]
    let function := Catalog.required "function" .filter
    let row := Catalog.standardRow 0x11 .array "filter" [.array] [function]
    let plan : OperatorPlan := ⟨row, .one .array, [.filter "function" .greaterThan (.string "x")]⟩
    let after := (Catalog.standard.commitScript [plan]).run.run arena
    arena.Descending ∧
    (arena.walkSelect ⟨0xfffffffd⟩).run = some (.error (.danglingHandle ⟨3⟩)) ∧
    after.1.isOk = false ∧ after.2.size = 4 ∧ after.2.Descending := by
  intro arena function row plan after
  obtain ⟨hlist, hview, hfails, hsize⟩ :
      (∀ pair ∈ arena.toList, ∀ child ∈ pair.2.handles, child.id < pair.1.id) ∧
      (fun _ => ()) <$> arena.viewSelect ⟨0xfffffffd⟩ = .error (.danglingHandle ⟨3⟩) ∧
      after.1.isOk = false ∧ after.2.size = 4 := by decide +kernel
  have hdescending : arena.Descending :=
    fun handle node hnode => hlist (handle, node) (mem_toList.2 hnode)
  obtain ⟨-, hends, -, -, -, -, -, hstays⟩ :=
    descending_ends_and_stays Catalog.standard arena hdescending
  refine ⟨hdescending, ?_, hfails, hsize, hstays [plan]⟩
  rw [hends, map_eq_error.1 hview]

end Arena

end ScriptTree
