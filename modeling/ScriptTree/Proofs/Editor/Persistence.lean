import ScriptTree.Catalog.Standard
import ScriptTree.Proofs.Editor.Effect
import ScriptTree.Proofs.Tree.Coverage
import ScriptTree.Proofs.Tree.Frame
/-!
# Nodes stay and handles are new

Generating and editing only ever put nodes behind those that an arena has. So nothing that could be
read before reads differently afterwards, whether the steps succeed or end in a fault half way, and
every handle that they bring into use led nowhere before.

Main statement: `Editor.nodes_never_change`.
-/

namespace ScriptTree

/-- The handle has come into use between two arenas. -/
structure Arena.Minted (arena later : Arena Node) (handle : Handle) : Prop where
  free : arena.contains handle = false
  used : later.contains handle = true

/-- The handles that a layout gives to the outside come into use with it. -/
theorem Layout.Covers.minted {α : Type} {arena : Arena Node} {layout : Layout α}
    {outside : α → List Handle} (h : layout.Covers arena.frontier outside)
    (hroom : layout.nodes.length ≤ arena.remaining) {handle : Handle}
    (hhandle : handle ∈ outside layout.value) :
    arena.Minted (arena.fill layout.nodes) handle := by
  have hrange := h.subset (List.mem_append_right _ hhandle)
  obtain ⟨n, hlow, hhigh, rfl⟩ := Handle.mem_range.1 hrange
  have hspace := arena.frontier_add_remaining
  have hsize : n < UInt32.size := by omega
  constructor
  · rw [Bool.eq_false_iff, ne_eq, Arena.contains_ofNat hsize]
    omega
  · have horigin := arena.origin_le_frontier
    rw [Arena.contains_ofNat hsize, Arena.origin_fill, Arena.frontier_fill_of_fits hroom]
    omega

/-! ## Generating -/

/-- Steps that leave what is in an arena as it is, and bring the handles of their result into
use. -/
def Building.Adds {α : Type} (steps : Building α) (handles : α → List Handle) : Prop :=
  ∀ arena : Arena Node, arena.Undisturbed (steps.run.run arena).2 ∧
    ∀ value, (steps.run.run arena).1 = .ok value →
      ∀ handle ∈ handles value, arena.Minted (steps.run.run arena).2 handle

section Adds

open Building (Adds)

variable {π α : Type} {steps : Building α} {outside : α → List Handle}

theorem Building.adds_of_lays {lay : Nat → Layout α}
    (hlays : ∀ arena : Arena Node, steps.Lays arena (lay arena.frontier))
    (hcovers : ∀ next, (lay next).Covers next outside) : steps.Adds outside := by
  intro arena
  rw [hlays arena]
  refine ⟨(arena.extends_fill _).undisturbed, fun value hvalue handle hhandle => ?_⟩
  by_cases hroom : (lay arena.frontier).nodes.length ≤ arena.remaining
  · obtain rfl : (lay arena.frontier).value = value := by simpa [hroom] using hvalue
    exact (hcovers _).minted hroom hhandle
  · simp [hroom] at hvalue

theorem Building.adds_of_place {lay : Nat → π → Layout α} {planned : Except Fault π}
    (hrun : ∀ arena, steps.run.run arena = arena.place (lay arena.frontier <$> planned))
    (hcovers : ∀ next plan, (lay next plan).Covers next outside) : steps.Adds outside := by
  intro arena
  rw [hrun arena]
  refine ⟨(arena.extends_place _).undisturbed, fun value hvalue handle hhandle => ?_⟩
  obtain ⟨layout, hlayout, hroom, rfl, harena⟩ := Arena.place_eq_ok.1 (Prod.ext hvalue rfl)
  obtain ⟨plan, -, rfl⟩ := map_eq_ok.1 hlayout
  have hminted := (hcovers _ plan).minted hroom hhandle
  rwa [harena] at hminted

namespace Catalog

variable (catalog : Catalog)

theorem adds_commitScript (plans : List OperatorPlan) : (catalog.commitScript plans).Adds id :=
  Building.adds_of_lays (fun arena => catalog.commitScript_lays arena plans)
    fun next => catalog.covers_scriptLayout next plans

theorem adds_commitOperator (plan : OperatorPlan) :
    (catalog.commitOperator plan).Adds fun select => [select.selected] :=
  Building.adds_of_lays (fun arena => catalog.commitOperator_lays arena plan)
    fun next => plan.covers_selectLayout catalog next

theorem adds_generateScript (script : Script) : (catalog.generateScript script).Adds id :=
  Building.adds_of_place (catalog.run_generateScript script) catalog.covers_scriptLayout

theorem adds_generateOperator (operator : Operator) :
    (catalog.generateOperator operator).Adds fun select => [select.selected] :=
  Building.adds_of_place (catalog.run_generateOperator operator)
    (OperatorPlan.covers_selectLayout catalog)

theorem adds_generateOption (row : Row) (code : OperatorCode) (args : List Json) :
    (catalog.generateOption row code args).Adds Chosen.arguments :=
  Building.adds_of_place (catalog.run_generateOption row code args)
    OperatorPlan.covers_optionLayout

end Catalog

end Adds

/-! ## Editing -/

/-- The handles in what an edit gives back. -/
def Edit.Result.toHandles : Edit.Result → List Handle
  | .nothing | .index _ => []
  | .handle one => [one]
  | .handles script => script
  | .source removed => removed.script
  | .document converted => converted.roots

/-- Whether an edit gives back what it has taken out of the document. -/
def Edit.takesOut : Edit → Bool
  | .remove .. | .removeSource .. => true
  | _ => false

namespace Editor

variable {editor after : Editor} {edit : Edit} {result : Edit.Result}

theorem Effect.extends (h : editor.Effect edit result after) :
    editor.arena.Extends after.arena := by
  cases h with
  | rewritten _ _ _ | pushed _ _ | converted _ _ | generated _ _ =>
    exact editor.arena.extends_fill _
  | removed _ | sourceAdded | sourceRemoved _ | urlSet _ | nameSet | descriptionSet =>
    exact .refl editor.arena

theorem Plans.minted {operator : Operator} {plan : OperatorPlan}
    (h : editor.Plans operator plan) :
    editor.arena.Minted (editor.arena.fill (editor.lay plan).nodes) (editor.lay plan).value :=
  (plan.covers_layout editor.catalog _).minted h.room (List.mem_singleton_self _)

/-- What an edit gives back comes into use with it, unless it was taken out of the document. -/
theorem Effect.minted (h : editor.Effect edit result after) (hedit : edit.takesOut = false)
    {handle : Handle} (hhandle : handle ∈ result.toHandles) :
    editor.arena.Minted after.arena handle := by
  cases h with
  | rewritten _ _ hplans =>
    obtain rfl := List.mem_singleton.1 hhandle
    exact hplans.minted
  | pushed _ hplans =>
    obtain rfl := List.mem_singleton.1 hhandle
    exact hplans.minted
  | converted _ hroom => exact (editor.catalog.covers_documentLayout _ _).minted hroom hhandle
  | generated _ hroom => exact (editor.catalog.covers_scriptLayout _ _).minted hroom hhandle
  | removed _ | sourceRemoved _ => cases hedit
  | sourceAdded | urlSet _ | nameSet | descriptionSet => exact nomatch hhandle

theorem extends_after (editor : Editor) (edit : Edit) :
    editor.arena.Extends (editor.after edit).arena := by
  rcases editor.after_eq_or_effect edit with hsame | ⟨result, -, heffect⟩
  · rw [hsame]
    exact .refl editor.arena
  · exact heffect.extends

theorem extends_replay (editor : Editor) (edits : List Edit) :
    editor.arena.Extends (editor.replay edits).arena :=
  replay_induction (P := fun later => editor.arena.Extends later.arena)
    (fun heffect h => h.trans heffect.extends) (.refl editor.arena) edits

/-- Nodes never change, and handles are never used again. Whether generating or committing succeeds
or not, the arena starts as before, what could be read from it reads the same, and the handles that
come back are new. The same holds of an edit, whose handles are new unless it takes something out of
the document; and behind a history everything that could be read before it still reads the same. -/
theorem nodes_never_change :
    (∀ (catalog : Catalog) (script : Script), (catalog.generateScript script).Adds id) ∧
    (∀ (catalog : Catalog) (operator : Operator),
      (catalog.generateOperator operator).Adds fun select => [select.selected]) ∧
    (∀ (catalog : Catalog) (row : Row) (code : OperatorCode) (args : List Json),
      (catalog.generateOption row code args).Adds Chosen.arguments) ∧
    (∀ (catalog : Catalog) (plans : List OperatorPlan), (catalog.commitScript plans).Adds id) ∧
    (∀ (catalog : Catalog) (plan : OperatorPlan),
      (catalog.commitOperator plan).Adds fun select => [select.selected]) ∧
    (∀ (editor : Editor) (edit : Edit),
      editor.arena.Undisturbed (editor.perform edit).2.arena ∧
      ∀ result, (editor.perform edit).1 = .ok result → edit.takesOut = false →
        ∀ handle ∈ result.toHandles, editor.arena.Minted (editor.perform edit).2.arena handle) ∧
    ∀ (editor : Editor) (edits : List Edit),
      editor.arena.Undisturbed (editor.replay edits).arena := by
  refine ⟨Catalog.adds_generateScript, Catalog.adds_generateOperator,
    Catalog.adds_generateOption, Catalog.adds_commitScript, Catalog.adds_commitOperator,
    fun editor edit => ⟨(editor.extends_after edit).undisturbed, ?_⟩,
    fun editor edits => (editor.extends_replay edits).undisturbed⟩
  intro result hresult hedit handle hhandle
  have heffect : editor.Effect edit result (editor.perform edit).2 :=
    effect_of_perform (Prod.ext hresult rfl)
  exact heffect.minted hedit hhandle

/-- Two operators committed where there is room for one and a half, and a filter pushed behind
another operator. -/
theorem nodes_never_change_halfCommitted :
    let catalog := Catalog.standard
    let arena := (Arena.empty 0xfffffffc).fill [.input ⟨"", .string, .null⟩]
    let length : OperatorPlan :=
      ⟨Catalog.standardRow 0x74 .string "length" [.integer] [], .one .integer, []⟩
    let document : Document Script := { Document.blank with tally := [.bare ⟨0x74⟩] }
    let push : Edit := .push .tally (.sequence [.nat 0x11, .array [.nat 5, .string "x"]])
    (∃ after, (catalog.commitScript [length, length]).run.run arena =
        (.error (.outOfRange (.arenaFull 0xfffffffc 0 1)), after) ∧
      after.size = 4 ∧ arena.Undisturbed after) ∧
    ∃ editor, ofDocument catalog 7 document = .ok editor ∧
      (editor.perform push).1 = .ok (.handle ⟨13⟩) ∧
      editor.arena.Undisturbed (editor.perform push).2.arena ∧
      editor.arena.Minted (editor.perform push).2.arena ⟨13⟩ := by
  intro catalog arena length document push
  obtain ⟨-, -, -, hcommits, -, hedits, -⟩ := nodes_never_change
  have hfault : ((catalog.commitScript [length, length]).run.run arena).1 =
      .error (.outOfRange (.arenaFull 0xfffffffc 0 1)) := by decide +kernel
  have hsize : ((catalog.commitScript [length, length]).run.run arena).2.size = 4 := by
    decide +kernel
  have hpush : (ofDocument catalog 7 document).toOption.map
      (fun editor => (editor.perform push).1) = some (.ok (.handle ⟨13⟩)) := by decide +kernel
  obtain ⟨editor, hopen, hpush⟩ := Option.map_eq_some_iff.1 hpush
  obtain ⟨hundisturbed, hminted⟩ := hedits editor push
  exact ⟨⟨((catalog.commitScript [length, length]).run.run arena).2, Prod.ext hfault rfl, hsize,
      (hcommits catalog [length, length] arena).1⟩,
    editor, eq_ok_of_toOption hopen, hpush, hundisturbed,
    hminted _ hpush rfl _ (List.mem_singleton_self _)⟩

end Editor

end ScriptTree
