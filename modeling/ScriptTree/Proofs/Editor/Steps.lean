import ScriptTree.Editor.Edit
import ScriptTree.Proofs.Steps
/-!
# Steps of an editor

What the three kinds of steps do that edits are made of: questions, which only look; changes of the
document, which always succeed; and steps on the arena, which touch nothing else. An edit of an
operator looks its stage up twice. The second look-up could fail, but never does behind the first.

Main statements: when each of them succeeds, and with which editor behind it (`Editing.ask_eq_ok`,
`Editing.amend_eq_ok`, `Editing.onArena_eq_ok`); what opening a document does
(`Editor.ofDocument_eq_ok`); what stands at a position (`Editor.handle_eq_ok`); and the edits of
operators without their second look-up (`Editor.replaceOperator_eq` and the like).
-/

namespace ScriptTree.Editing

open Steps

variable {α : Type} {editor after : Editor}

/-! ## Questions -/

theorem looks_ask (question : Editor → Except Fault α) : Looks (ask question) :=
  fun _ => rfl

theorem ask_eq_ok {question : Editor → Except Fault α} {answer : α} :
    (ask question).run.run editor = (.ok answer, after) ↔
      question editor = .ok answer ∧ editor = after := by
  constructor
  · intro h
    exact Prod.mk.inj h
  · rintro ⟨hanswer, rfl⟩
    exact Prod.ext hanswer rfl

/-! ## Changes of the document -/

theorem succeeds_amend (change : Document (List Handle) → Document (List Handle)) :
    Succeeds (amend change) :=
  fun _ => ⟨(), rfl⟩

theorem amend_eq_ok {change : Document (List Handle) → Document (List Handle)} {result : Unit} :
    (amend change).run.run editor = (.ok result, after) ↔
      { editor with document := change editor.document } = after := by
  constructor
  · intro h
    exact (Prod.mk.inj h).2
  · rintro rfl
    rfl

/-! ## Steps on the arena -/

/-- Steps on the arena change nothing else of an editor. -/
theorem atomic_onArena {steps : Building α} (h : Atomic steps) : Atomic (onArena steps) := by
  intro editor fault herror
  have harena : (steps.run.run editor.arena).2 = editor.arena := h editor.arena fault herror
  show ({ editor with arena := (steps.run.run editor.arena).2 } : Editor) = editor
  rw [harena]

theorem onArena_eq_ok {steps : Building α} {value : α} :
    (onArena steps).run.run editor = (.ok value, after) ↔
      ∃ arena, steps.run.run editor.arena = (.ok value, arena) ∧
        { editor with arena := arena } = after := by
  constructor
  · intro h
    obtain ⟨hvalue, hafter⟩ := Prod.mk.inj h
    exact ⟨(steps.run.run editor.arena).2, Prod.ext hvalue rfl, hafter⟩
  · rintro ⟨arena, hrun, rfl⟩
    show ((steps.run.run editor.arena).1,
      ({ editor with arena := (steps.run.run editor.arena).2 } : Editor)) = _
    rw [hrun]

end ScriptTree.Editing

namespace ScriptTree.Editor

/-! ## Opening -/

/-- Opening a document converts it into an empty arena. -/
theorem ofDocument_eq_ok {catalog : Catalog} {origin : UInt32} {document : Document Script}
    {editor : Editor} (h : ofDocument catalog origin document = .ok editor) :
    editor.catalog = catalog ∧ (catalog.generateDocument document).run.run (.empty origin) =
      (.ok editor.document, editor.arena) := by
  unfold ofDocument at h
  split at h
  · next hrun =>
    cases h
    exact ⟨rfl, hrun⟩
  · cases h

/-! ## Positions -/

open Editing

variable {editor : Editor} {stage : Stage} {index : Nat}

theorem script_eq_ok {handles : List Handle} :
    editor.script stage = .ok handles ↔ editor.document.script? stage = some handles := by
  cases stage with
  | retrieve index =>
    rw [script, Document.script?]
    cases editor.document.retrieve[index]? <;> simp
  | aggregate => simp [script, Document.script?]
  | tally => simp [script, Document.script?]

theorem handle_eq_ok {handle : Handle} :
    editor.handle stage index = .ok handle ↔
      ∃ handles, editor.document.script? stage = some handles ∧ handles[index]? = some handle := by
  rw [Editor.handle, bind_eq_ok]
  simp only [script_eq_ok]
  constructor
  · rintro ⟨handles, hhandles, h⟩
    refine ⟨handles, hhandles, ?_⟩
    cases hat : handles[index]? with
    | none =>
      rw [hat] at h
      cases h
    | some found =>
      rw [hat] at h
      cases h
      rfl
  · rintro ⟨handles, hhandles, hat⟩
    refine ⟨handles, hhandles, ?_⟩
    rw [hat]
    rfl

/-- A position lies in a stage. -/
theorem script_of_handle {handle : Handle} (h : editor.handle stage index = .ok handle) :
    ∃ script, editor.script stage = .ok script := by
  obtain ⟨script, hscript, -⟩ := bind_eq_ok.1 h
  exact ⟨script, hscript⟩

theorem source_eq_ok {source : Source (List Handle)} :
    editor.source index = .ok source ↔ editor.document.retrieve[index]? = some source := by
  rw [Editor.source]
  cases editor.document.retrieve[index]? <;> simp

/-! ## Looking a stage up again -/

section Finds

variable {α β : Type} {steps : Editing α}

/-- Whenever the steps end in a value, the stage is there behind them. -/
def Finds (stage : Stage) (steps : Editing α) : Prop :=
  ∀ editor value after, steps.run.run editor = (.ok value, after) →
    ∃ script, after.script stage = .ok script

theorem finds_script (stage : Stage) : Finds stage (ask fun editor => editor.script stage) := by
  intro editor script after h
  obtain ⟨hscript, rfl⟩ := ask_eq_ok.1 h
  exact ⟨script, hscript⟩

theorem finds_handle (stage : Stage) (index : Nat) :
    Finds stage (ask fun editor => editor.handle stage index) := by
  intro editor handle after h
  obtain ⟨hhandle, rfl⟩ := ask_eq_ok.1 h
  exact script_of_handle hhandle

/-- Steps that leave the document alone do not lose a stage that was found. -/
theorem Finds.bind {next : α → Editing β} (h : Finds stage steps)
    (hnext : ∀ value editor, ((next value).run.run editor).2.document = editor.document) :
    Finds stage (steps >>= next) := by
  intro editor result after hrun
  obtain ⟨value, middle, hfirst, hrest⟩ := Steps.bind_eq_ok.1 hrun
  obtain ⟨script, hscript⟩ := h _ _ _ hfirst
  have hdocument : after.document = middle.document := by
    rw [← hnext value middle, hrest]
  exact ⟨script, script_eq_ok.2 (hdocument ▸ script_eq_ok.1 hscript)⟩

theorem run_amendScript {script : List Handle} (h : editor.script stage = .ok script)
    (change : List Handle → List Handle) :
    (amendScript stage change).run.run editor =
      (amend fun document => document.modify stage change).run.run editor := by
  rw [amendScript, Steps.run_bind, ask_eq_ok.2 ⟨h, rfl⟩]

/-- Behind steps that have found the stage, changing its script is changing the document. -/
theorem Finds.bind_amendScript (h : Finds stage steps) (change : α → List Handle → List Handle) :
    (do
      let value ← steps
      amendScript stage (change value)
      return value) = (do
      let value ← steps
      amend fun document => document.modify stage (change value)
      return value) := by
  funext editor
  show (steps >>= _).run.run editor = (steps >>= _).run.run editor
  rw [Steps.run_bind, Steps.run_bind]
  rcases hrun : steps.run.run editor with ⟨result, after⟩
  cases result with
  | error fault => rfl
  | ok value =>
    obtain ⟨script, hscript⟩ := h _ _ _ hrun
    show (_ >>= _ : Editing α).run.run after = (_ >>= _ : Editing α).run.run after
    rw [Steps.run_bind, Steps.run_bind, run_amendScript hscript]

end Finds

/-- Inserting an operator leaves the document alone. -/
theorem document_insertOperator (operator : Operator) (editor : Editor) :
    ((insertOperator operator).run.run editor).2.document = editor.document :=
  rfl

theorem replaceOperator_eq (stage : Stage) (index : Nat) (operator : Operator) :
    replaceOperator stage index operator = (do
      let _ ← ask fun editor => editor.handle stage index
      let fresh ← insertOperator operator
      amend fun document => document.modify stage fun script => script.set index fresh
      return fresh) := by
  have hfinds := (finds_handle stage index).bind fun _ => document_insertOperator operator
  simpa only [replaceOperator, bind_assoc] using
    hfinds.bind_amendScript fun fresh script => script.set index fresh

theorem pushOperator_eq (stage : Stage) (operator : Operator) :
    pushOperator stage operator = (do
      let _ ← ask fun editor => editor.script stage
      let fresh ← insertOperator operator
      amend fun document => document.modify stage fun script => script ++ [fresh]
      return fresh) := by
  have hfinds := (finds_script stage).bind fun _ => document_insertOperator operator
  simpa only [pushOperator, bind_assoc] using
    hfinds.bind_amendScript fun fresh script => script ++ [fresh]

theorem removeOperator_eq (stage : Stage) (index : Nat) :
    removeOperator stage index = (do
      let handle ← ask fun editor => editor.handle stage index
      amend fun document => document.modify stage fun script => script.eraseIdx index
      return handle) :=
  (finds_handle stage index).bind_amendScript fun _ script => script.eraseIdx index

end ScriptTree.Editor
