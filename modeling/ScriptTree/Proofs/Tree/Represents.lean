import ScriptTree.Proofs.Editor.Steps
import ScriptTree.Proofs.Tree.Commit
import ScriptTree.Proofs.Tree.Holds
/-!
# Operators in an arena and documents in an editor

A handle represents an operator in its shortest spelling when a valid plan of the operator is held
under it. What a handle represents is what it lowers to, now and in every later arena. An editor
represents a compact document when its handles do, script by script. Then the compact form of the
editor is that document.

Main statements: lowering the handles of a script gives the operators that they represent
(`Arena.RepresentsScript.lowerScript`), and what is generated represents the normal form of what it
was generated from (`Arena.represents_of_generateScript` and the like). So an editor represents the
normal form of the document that it was opened on (`Editor.represents_of_ofDocument`), and lowers to
what it represents (`Editor.Represents.lower`).
-/

namespace ScriptTree.Arena

variable {arena after later : Arena Node} {catalog : Catalog}

/-- A valid plan of the operator is held under the handle. -/
def Represents (catalog : Catalog) (arena : Arena Node) (operator : Operator) (handle : Handle) :
    Prop :=
  ∃ plan : OperatorPlan, plan.Valid catalog ∧ plan.operator = operator ∧
    Holds catalog arena plan handle

/-- The handles represent the operators of a script one by one. -/
def RepresentsScript (catalog : Catalog) (arena : Arena Node) (script : Script)
    (handles : List Handle) : Prop :=
  List.Forall₂ (Represents catalog arena) script handles

theorem Represents.mono (hx : arena.Extends later) {operator : Operator} {handle : Handle}
    (h : Represents catalog arena operator handle) : Represents catalog later operator handle := by
  obtain ⟨plan, hvalid, hoperator, hholds⟩ := h
  exact ⟨plan, hvalid, hoperator, hholds.mono hx⟩

theorem RepresentsScript.mono (hx : arena.Extends later) {script : Script} {handles : List Handle}
    (h : RepresentsScript catalog arena script handles) :
    RepresentsScript catalog later script handles :=
  h.imp fun _ _ hoperator => hoperator.mono hx

/-! ## Lowering -/

theorem Represents.lowerOperator {operator : Operator} {handle : Handle}
    (h : Represents catalog arena operator handle) :
    arena.lowerOperator catalog handle = .ok operator := by
  obtain ⟨plan, hvalid, rfl, hholds⟩ := h
  exact hholds.lowerOperator hvalid

theorem RepresentsScript.lowerScript {script : Script} {handles : List Handle}
    (h : RepresentsScript catalog arena script handles) :
    arena.lowerScript catalog handles = .ok script :=
  ScriptTree.mapM_eq_ok_iff.2 (h.imp fun _ _ hoperator => hoperator.lowerOperator).flip

/-! ## Generating -/

theorem represents_of_planned {operator : Operator} {plan : OperatorPlan} {handle : Handle}
    (hplan : catalog.planOperator operator = .ok plan) (h : Holds catalog arena plan handle) :
    Represents catalog arena operator.normalized handle := by
  obtain ⟨hvalid, hnormal⟩ := Catalog.planOperator_eq_ok.1 hplan
  exact ⟨plan, hvalid, hnormal.symm, h⟩

theorem representsScript_of_planned {script : Script} {plans : List OperatorPlan}
    {handles : List Handle} (hplans : catalog.planScript script = .ok plans)
    (h : HoldsScript catalog arena plans handles) :
    RepresentsScript catalog arena (script.map Operator.normalized) handles := by
  refine List.forall₂_map_left_iff.2 (forall₂_trans ?_ (ScriptTree.mapM_eq_ok_iff.1 hplans) h)
  intro operator plan handle hplan hholds
  exact represents_of_planned hplan hholds

/-- What was generated for a script represents its normal form. -/
theorem represents_of_generateScript {script : Script} {handles : List Handle}
    (h : (catalog.generateScript script).run.run arena = (.ok handles, after)) :
    RepresentsScript catalog after (script.map Operator.normalized) handles := by
  rw [catalog.run_generateScript] at h
  obtain ⟨layout, hlayout, hfits, rfl, rfl⟩ := place_eq_ok.1 h
  obtain ⟨plans, hplans, rfl⟩ := map_eq_ok.1 hlayout
  exact representsScript_of_planned hplans (holdsScript_of_hasAt _ _ (hasAt_fill hfits))

/-- What was generated for a document represents its normal form, script by script. -/
theorem represents_of_generateDocument {document : Document Script}
    {cached : Document (List Handle)}
    (h : (catalog.generateDocument document).run.run arena = (.ok cached, after)) :
    document.normalized.Pairs (RepresentsScript catalog after) cached := by
  rw [catalog.run_generateDocument] at h
  obtain ⟨layout, hlayout, hfits, rfl, rfl⟩ := place_eq_ok.1 h
  obtain ⟨plans, hplans, rfl⟩ := map_eq_ok.1 hlayout
  refine Document.Pairs.map_left.2 ((Document.mapM_eq_ok_iff.1 hplans).trans ?_
    (holdsDocument_of_hasAt _ _ (hasAt_fill hfits)))
  intro script plan handles hplan hholds
  exact representsScript_of_planned hplan hholds

end ScriptTree.Arena

namespace ScriptTree.Editor

/-! ## Editors -/

/-- The scripts of the editor represent those of the document; everything else is the same. -/
def Represents (editor : Editor) (document : Document Script) : Prop :=
  document.Pairs (Arena.RepresentsScript editor.catalog editor.arena) editor.document

theorem represents_of_ofDocument {catalog : Catalog} {origin : UInt32}
    {document : Document Script} {editor : Editor}
    (h : ofDocument catalog origin document = .ok editor) :
    editor.Represents document.normalized := by
  obtain ⟨rfl, hrun⟩ := ofDocument_eq_ok h
  exact Arena.represents_of_generateDocument hrun

theorem Represents.lower {editor : Editor} {document : Document Script}
    (h : editor.Represents document) : editor.lower = .ok document :=
  Document.mapM_eq_ok_iff.2 ((Document.Pairs.imp (fun _ _ hscript => hscript.lowerScript) h).symm)

end ScriptTree.Editor
