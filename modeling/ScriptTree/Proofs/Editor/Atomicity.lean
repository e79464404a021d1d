import ScriptTree.Catalog.Standard
import ScriptTree.Editor.History
import ScriptTree.Proofs.Editor.Steps
import ScriptTree.Proofs.Tree.Commit
/-!
# Faults change nothing

A fault in generating leaves the arena as it was, whether planning ended in it or the room was too
small, and so no node of a half inserted script is ever left behind. A fault in an edit leaves the
whole editor as it was: no edit touches the document before its last fault is behind it.

Main statement: `Editor.fault_changes_nothing`.
-/

namespace ScriptTree

open Steps

/-! ## Generating -/

/-- What places a layout, or the fault of planning it, is atomic. -/
theorem Building.atomic_of_place {α : Type} {steps : Building α}
    {planned : Arena Node → Except Fault (Layout α)}
    (hrun : ∀ arena, steps.run.run arena = arena.place (planned arena)) : Atomic steps := by
  intro arena fault h
  rw [hrun] at h ⊢
  exact Arena.place_error h

namespace Catalog

variable (catalog : Catalog)

theorem atomic_generateScript (script : Script) : Atomic (catalog.generateScript script) :=
  Building.atomic_of_place (catalog.run_generateScript script)

theorem atomic_generateOperator (operator : Operator) :
    Atomic (catalog.generateOperator operator) :=
  Building.atomic_of_place (catalog.run_generateOperator operator)

theorem atomic_generateOption (row : Row) (code : OperatorCode) (args : List Json) :
    Atomic (catalog.generateOption row code args) :=
  Building.atomic_of_place (catalog.run_generateOption row code args)

theorem atomic_generateDocument (document : Document Script) :
    Atomic (catalog.generateDocument document) :=
  Building.atomic_of_place (catalog.run_generateDocument document)

end Catalog

/-! ## Editing -/

namespace Editor

open Editing

theorem atomic_insertOperator (operator : Operator) : Atomic (insertOperator operator) :=
  .bind_of_looks looks_get fun editor =>
    atomic_onArena (Building.atomic_of_place (editor.catalog.run_insertPlanned operator))

/-- A question, an operator inserted, and a place for its handle in the document: nothing fails
behind the insertion. -/
theorem atomic_insert_amend {α : Type} (question : Editor → Except Fault α) (operator : Operator)
    (change : Handle → Document (List Handle) → Document (List Handle)) :
    Atomic (do
      let _ ← ask question
      let fresh ← insertOperator operator
      amend (change fresh)
      return fresh) := by
  apply Atomic.bind_of_looks (looks_ask question)
  intro _
  apply (atomic_insertOperator operator).bind_of_succeeds
  intro fresh
  exact (succeeds_amend _).bind fun _ => .pure fresh

theorem atomic_replaceOperator (stage : Stage) (index : Nat) (operator : Operator) :
    Atomic (replaceOperator stage index operator) := by
  rw [replaceOperator_eq]
  exact atomic_insert_amend _ operator _

theorem atomic_pushOperator (stage : Stage) (operator : Operator) :
    Atomic (pushOperator stage operator) := by
  rw [pushOperator_eq]
  exact atomic_insert_amend _ operator _

/-- A change of the document to which a question gave the answer. -/
theorem atomic_ask_amend {α : Type} (question : Editor → Except Fault α)
    (change : α → Document (List Handle) → Document (List Handle)) :
    Atomic (do
      let answer ← ask question
      amend (change answer)
      return answer) := by
  apply Atomic.bind_of_looks (looks_ask question)
  intro answer
  exact ((succeeds_amend _).bind fun _ => .pure answer).atomic

theorem atomic_removeOperator (stage : Stage) (index : Nat) :
    Atomic (removeOperator stage index) := by
  rw [removeOperator_eq]
  exact atomic_ask_amend _ _

theorem succeeds_addSource (url : String) : Succeeds (addSource url) := by
  apply (succeeds_amend _).bind
  intro _
  exact succeeds_get.bind fun editor => .pure _

end Editor

/-- Every edit is atomic. -/
theorem Edit.atomic_perform (edit : Edit) : Atomic edit.perform := by
  cases edit with
  | select stage index label =>
    exact .map _ (.bind_of_looks (Editing.looks_ask _) (Editor.atomic_replaceOperator stage index))
  | update stage index argument value =>
    exact .map _ (.bind_of_looks (Editing.looks_ask _) (Editor.atomic_replaceOperator stage index))
  | replace stage index operator => exact .map _ (Editor.atomic_replaceOperator stage index operator)
  | push stage operator => exact .map _ (Editor.atomic_pushOperator stage operator)
  | remove stage index => exact .map _ (Editor.atomic_removeOperator stage index)
  | addSource url => exact .map _ (Editor.succeeds_addSource url).atomic
  | removeSource index => exact .map _ (Editor.atomic_ask_amend _ _)
  | setUrl index url =>
    exact .map _ (.bind_of_looks (Editing.looks_ask _) fun _ => (Editing.succeeds_amend _).atomic)
  | setName name => exact .map _ (Editing.succeeds_amend _).atomic
  | setDescription description => exact .map _ (Editing.succeeds_amend _).atomic
  | convert document =>
    exact .map _ (.bind_of_looks looks_get fun editor =>
      Editing.atomic_onArena (editor.catalog.atomic_generateDocument document))
  | generate script =>
    exact .map _ (.bind_of_looks looks_get fun editor =>
      Editing.atomic_onArena (editor.catalog.atomic_generateScript script))

/-- An edit that ends in a fault leaves the editor as it was. -/
theorem Editor.after_of_error {editor : Editor} {edit : Edit} {fault : Fault}
    (h : (editor.perform edit).1 = .error fault) : editor.after edit = editor :=
  edit.atomic_perform editor fault h

/-- Faults change nothing. Generating a script, an operator or an option that ends in a fault leaves
the arena as it was, however little room was left in it; and an edit that ends in a fault leaves
the editor with its arena and its document as it was. -/
theorem Editor.fault_changes_nothing (fault : Fault) :
    (∀ (catalog : Catalog) (arena : Arena Node) (script : Script),
      ((catalog.generateScript script).run.run arena).1 = .error fault →
      ((catalog.generateScript script).run.run arena).2 = arena) ∧
    (∀ (catalog : Catalog) (arena : Arena Node) (operator : Operator),
      ((catalog.generateOperator operator).run.run arena).1 = .error fault →
      ((catalog.generateOperator operator).run.run arena).2 = arena) ∧
    (∀ (catalog : Catalog) (arena : Arena Node) (row : Row) (code : OperatorCode)
        (args : List Json),
      ((catalog.generateOption row code args).run.run arena).1 = .error fault →
      ((catalog.generateOption row code args).run.run arena).2 = arena) ∧
    (∀ (editor : Editor) (edit : Edit),
      (editor.perform edit).1 = .error fault → (editor.perform edit).2 = editor) :=
  ⟨fun catalog arena script => catalog.atomic_generateScript script arena fault,
    fun catalog arena operator => catalog.atomic_generateOperator operator arena fault,
    fun catalog arena row code args => catalog.atomic_generateOption row code args arena fault,
    fun editor edit => edit.atomic_perform editor fault⟩

/-- Three nodes for the last free handle: a script, an operator, an option, and an edit of the
editor on the blank document. -/
theorem fault_changes_nothing_lastHandle :
    let catalog := Catalog.standard
    let arena : Arena Node := .empty 0xffffffff
    let full : Fault := .outOfRange (.arenaFull 0xffffffff 1 3)
    let get : Operator := .sequence [.nat 0x61, .string "bpi"]
    let take : Operator := .sequence [.nat 0x1e, .nat 1, .nat 2]
    let row : Row := Catalog.standardRow 0x1c .array "some" [.boolean]
      [Catalog.required "function" .filter]
    (((catalog.generateScript [get]).run.run arena).1 = .error full ∧
      ((catalog.generateScript [get]).run.run arena).2 = arena) ∧
    (((catalog.generateOperator take).run.run arena).1 = .error full ∧
      ((catalog.generateOperator take).run.run arena).2 = arena) ∧
    (((catalog.generateOption row ⟨0x1c⟩ [.array [.nat 5, .null]]).run.run arena).1 =
        .error full ∧
      ((catalog.generateOption row ⟨0x1c⟩ [.array [.nat 5, .null]]).run.run arena).2 = arena) ∧
    ∃ editor, Editor.ofDocument catalog 0xffffffff .blank = .ok editor ∧
      (editor.perform (.push .tally get)).1 = .error full ∧
      (editor.perform (.push .tally get)).2 = editor := by
  intro catalog arena full get take row
  obtain ⟨hscripts, hoperators, hoptions, hedits⟩ := Editor.fault_changes_nothing full
  have hfull : ((catalog.generateScript [get]).run.run arena).1 = .error full ∧
      ((catalog.generateOperator take).run.run arena).1 = .error full ∧
      ((catalog.generateOption row ⟨0x1c⟩ [.array [.nat 5, .null]]).run.run arena).1 =
        .error full ∧
      (Editor.perform ⟨catalog, arena, ⟨"", "", 0, [⟨"", []⟩], [], []⟩⟩
        (.push .tally get)).1 = .error full := by decide +kernel
  obtain ⟨hscript, hoperator, hoption, hedit⟩ := hfull
  exact ⟨⟨hscript, hscripts _ _ _ hscript⟩, ⟨hoperator, hoperators _ _ _ hoperator⟩,
    ⟨hoption, hoptions _ _ _ _ _ hoption⟩, _, rfl, hedit, hedits _ _ hedit⟩

end ScriptTree
