import ScriptTree.Catalog.Standard
import ScriptTree.Editor.Basic
import ScriptTree.Proofs.Tree.Represents
/-!
# When a conversion succeeds

A script or a document is converted when every operator of it plans and the arena has room for all
planned nodes. If operators do not plan, the answer is the fault of the first of them, however
little room there is; only when all of them plan does the room decide.

Main statement: `Editor.conversion_verdict`.
-/

namespace ScriptTree

/-- Every operator of a document, in the order of the stages: the scripts of the sources from the
first to the last, then the aggregate, then the tally. -/
def Document.operators (document : Document Script) : Script :=
  document.scripts.flatten

/-! ## Faults of planning -/

/-- A fault of an operator itself, as against one of the place where it is to go. -/
def Fault.OfOperator : Fault → Prop
  | .unknownOperator _ | .malformedOperator _ | .malformedArgument .. => True
  | _ => False

theorem Operator.ofOperator_of_decode {operator : Operator} {fault : Fault}
    (h : operator.decode = .error fault) : fault.OfOperator := by
  unfold decode at h
  split at h
  · cases h
  · cases h
    trivial
  · split at h
    · cases h
    · cases h
      trivial

theorem ofOperator_of_planArgumentsFrom {code : OperatorCode} {index : Nat}
    {parameters : List Parameter} {args : List Json} {fault : Fault}
    (h : planArgumentsFrom code index parameters args = .error fault) : fault.OfOperator := by
  induction parameters generalizing index args with
  | nil => cases h
  | cons parameter parameters ih =>
    cases args with
    | nil => cases h
    | cons raw args =>
      rw [planArgumentsFrom] at h
      rcases bind_eq_error.1 h with h | ⟨plan, -, h⟩
      · obtain ⟨cause, -, rfl⟩ := mapError_eq_error.1 h
        trivial
      · rcases bind_eq_error.1 h with h | ⟨_, _, h⟩
        · exact ih h
        · cases h

theorem ofOperator_of_planArguments {row : Row} {args : List Json} {fault : Fault}
    (h : planArguments row args = .error fault) : fault.OfOperator := by
  unfold planArguments at h
  split at h
  · cases h
    trivial
  · exact ofOperator_of_planArgumentsFrom h

namespace Catalog

variable {catalog : Catalog}

theorem ofOperator_of_row {code : OperatorCode} {fault : Fault}
    (h : catalog.row code = .error fault) : fault.OfOperator := by
  unfold row at h
  split at h
  · cases h
  · cases h
    trivial

theorem ofOperator_of_output {code : OperatorCode} {fault : Fault}
    (h : catalog.output code = .error fault) : fault.OfOperator := by
  unfold output at h
  split at h
  · cases h
  · cases h
    trivial

/-- Planning never looks at an arena, and never faults one. -/
theorem ofOperator_of_planOperator {operator : Operator} {fault : Fault}
    (h : catalog.planOperator operator = .error fault) : fault.OfOperator := by
  rcases bind_eq_error.1 h with h | ⟨⟨code, args⟩, -, h⟩
  · exact Operator.ofOperator_of_decode h
  rcases bind_eq_error.1 h with h | ⟨output, -, h⟩
  · exact ofOperator_of_output h
  rcases bind_eq_error.1 h with h | ⟨row, -, h⟩
  · exact ofOperator_of_row h
  rcases bind_eq_error.1 h with h | ⟨arguments, -, h⟩
  · exact ofOperator_of_planArguments h
  · cases h

/-! ## Verdicts -/

/-- The plans are those of the operators, one by one. -/
def Plans (catalog : Catalog) (operators : Script) (plans : List OperatorPlan) : Prop :=
  List.Forall₂ (fun operator plan => catalog.planOperator operator = .ok plan) operators plans

/-- The answer to a request to convert operators into an arena. It is a value exactly when all
operators plan and the nodes of their plans fit in. It is the fault of the first operator that does
not plan, whatever the room, and it is a fault of the arena exactly when all operators plan and
their nodes do not fit in. -/
structure Verdict {α : Type} (catalog : Catalog) (arena : Arena Node) (operators : Script)
    (answer : Except Fault α) : Prop where
  succeeds_iff : (∃ value, answer = .ok value) ↔
    ∃ plans, catalog.Plans operators plans ∧ scriptNodes plans ≤ arena.remaining
  first_fault : ∀ (before : Script) (operator : Operator) (after : Script) (fault : Fault),
    operators = before ++ operator :: after →
    (∀ earlier ∈ before, ∃ plan, catalog.planOperator earlier = .ok plan) →
    catalog.planOperator operator = .error fault → answer = .error fault
  full_iff : ∀ cause : RangeFault, answer = .error (.outOfRange cause) ↔
    ∃ plans, catalog.Plans operators plans ∧ arena.remaining < scriptNodes plans ∧
      cause = .arenaFull arena.origin arena.remaining (scriptNodes plans)

namespace Verdict

variable {α : Type} {arena : Arena Node} {operators : Script}

/-- Where planning ends in a fault, that is the answer in any arena. -/
theorem of_fault {fault : Fault} (h : catalog.planScript operators = .error fault) :
    catalog.Verdict arena operators (.error fault : Except Fault α) where
  succeeds_iff := by
    refine ⟨nofun, fun ⟨plans, hplans, _⟩ => ?_⟩
    cases h.symm.trans (mapM_eq_ok_iff.2 hplans)
  first_fault := by
    intro before operator after first hoperators hbefore hfirst
    have hfirst := mapM_eq_error_iff.2 ⟨before, operator, after, hoperators, hbefore, hfirst⟩
    exact congrArg Except.error (Except.error.inj (h.symm.trans hfirst))
  full_iff := by
    intro cause
    constructor
    · intro hcause
      cases hcause
      obtain ⟨_, _, _, _, _, hfault⟩ := mapM_eq_error_iff.1 h
      exact (ofOperator_of_planOperator hfault).elim
    · rintro ⟨plans, hplans, -⟩
      cases h.symm.trans (mapM_eq_ok_iff.2 hplans)

/-- Where all operators plan, the room for their nodes decides. -/
theorem of_plans {plans : List OperatorPlan} (h : catalog.planScript operators = .ok plans)
    (value : α) :
    catalog.Verdict arena operators (if scriptNodes plans ≤ arena.remaining then .ok value
      else .error (arena.full (scriptNodes plans))) := by
  have hunique : ∀ others, catalog.Plans operators others ↔ plans = others := by
    intro others
    rw [Plans, ← mapM_eq_ok_iff, ← planScript, h, Except.ok.injEq]
  refine ⟨?_, ?_, ?_⟩
  · simp only [hunique, exists_eq_left']
    by_cases hfits : scriptNodes plans ≤ arena.remaining <;> simp [hfits]
  · intro before operator after fault hoperators hbefore hfault
    have herror := mapM_eq_error_iff.2 ⟨before, operator, after, hoperators, hbefore, hfault⟩
    cases h.symm.trans herror
  · intro cause
    simp only [hunique, exists_eq_left']
    by_cases hfits : scriptNodes plans ≤ arena.remaining
    · simp [hfits, Nat.not_lt.2 hfits]
    · simp [hfits, Nat.not_le.1 hfits, Arena.full, eq_comm]

/-- Placing the layout of what was planned gives the verdict on the operators, if the plans are
those of the operators in order and the layout has their nodes. -/
theorem of_place {π : Type} {planned : Except Fault π} {lay : π → Layout α}
    {flat : π → List OperatorPlan} (hflat : flat <$> planned = catalog.planScript operators)
    (hcount : ∀ plan, (lay plan).nodes.length = scriptNodes (flat plan)) :
    catalog.Verdict arena operators (arena.place (lay <$> planned)).1 := by
  cases planned with
  | error fault => exact of_fault hflat.symm
  | ok plan =>
    have hverdict := @of_plans catalog α arena operators _ hflat.symm (lay plan).value
    rw [← hcount plan] at hverdict
    convert hverdict using 1
    show (if _ then _ else _ : Except Fault α × Arena Node).1 = _
    split <;> rfl

end Verdict

/-! ## Scripts and documents -/

theorem verdict_generateScript (catalog : Catalog) (script : Script) (arena : Arena Node) :
    catalog.Verdict arena script ((catalog.generateScript script).run.run arena).1 := by
  rw [catalog.run_generateScript]
  exact .of_place (id_map _) (catalog.length_scriptLayout arena.frontier)

/-- Planning a document plans its operators in order. -/
theorem plans_of_document (catalog : Catalog) (document : Document Script) :
    (fun plans => plans.scripts.flatten) <$> catalog.planDocument document =
      catalog.planScript document.operators := by
  rw [Document.operators, planScript, ← flatten_mapM]
  show _ = List.flatten <$> document.scripts.mapM catalog.planScript
  rw [← Document.scripts_mapM, ← comp_map]
  rfl

theorem scriptNodes_append (first second : List OperatorPlan) :
    scriptNodes (first ++ second) = scriptNodes first + scriptNodes second := by
  rw [scriptNodes, List.map_append, List.sum_append]
  rfl

/-- The nodes of scripts are those of all their operators. -/
theorem nodes_ofPlans (sources : Nat) (scripts : List (List OperatorPlan)) :
    (Growth.ofPlans sources scripts).nodes = scriptNodes scripts.flatten := by
  show (scripts.map scriptNodes).sum = _
  induction scripts with
  | nil => rfl
  | cons script scripts ih =>
    rw [List.map_cons, List.sum_cons, ih, List.flatten_cons, scriptNodes_append]

theorem verdict_generateDocument (catalog : Catalog) (document : Document Script)
    (arena : Arena Node) :
    catalog.Verdict arena document.operators
      ((catalog.generateDocument document).run.run arena).1 := by
  rw [catalog.run_generateDocument]
  refine .of_place (catalog.plans_of_document document) fun plans => ?_
  rw [length_documentLayout, nodes_ofPlans]

end Catalog

/-! ## Editors -/

namespace Arena

variable {catalog : Catalog} {arena : Arena Node} {script : Script} {handles : List Handle}

theorem RepresentsScript.length_eq
    (h : RepresentsScript catalog arena (script.map Operator.normalized) handles) :
    script.length = handles.length := by
  rw [← List.Forall₂.length_eq h, List.length_map]

theorem length_of_generateScript
    (h : ((catalog.generateScript script).run.run arena).1 = .ok handles) :
    script.length = handles.length := by
  have hrun : (catalog.generateScript script).run.run arena = (.ok handles, _) := Prod.ext h rfl
  exact (represents_of_generateScript hrun).length_eq

/-- A conversion gives one handle for each operator, and keeps everything else of a document. -/
theorem lengths_of_generateDocument {document : Document Script}
    {converted : Document (List Handle)}
    (h : ((catalog.generateDocument document).run.run arena).1 = .ok converted) :
    document.Pairs (fun script handles => script.length = handles.length) converted := by
  have hrun : (catalog.generateDocument document).run.run arena = (.ok converted, _) :=
    Prod.ext h rfl
  exact (Document.Pairs.map_left.1 (represents_of_generateDocument hrun)).imp
    fun _ _ hscript => hscript.length_eq

end Arena

namespace Editor

/-- Converting a document, or a single script, succeeds exactly when all operators plan and the
arena has room for their nodes. Otherwise the answer is the fault of the first operator that does
not plan, whatever the room, and only when all plan is it the want of room. What a conversion gives
has the name, the description, the time and the addresses of the document, and a handle for each
operator of each script. -/
theorem conversion_verdict (editor : Editor) (document : Document Script) (script : Script) :
    (editor.catalog.Verdict editor.arena document.operators
        ((convert document).run.run editor).1 ∧
      ∀ converted, ((convert document).run.run editor).1 = .ok converted →
        document.Pairs (fun script handles => script.length = handles.length) converted) ∧
    (editor.catalog.Verdict editor.arena script
        ((editor.catalog.generateScript script).run.run editor.arena).1 ∧
      ∀ handles, ((editor.catalog.generateScript script).run.run editor.arena).1 = .ok handles →
        script.length = handles.length) :=
  ⟨⟨editor.catalog.verdict_generateDocument document editor.arena,
      fun _ h => Arena.lengths_of_generateDocument h⟩,
    editor.catalog.verdict_generateScript script editor.arena,
    fun _ h => Arena.length_of_generateScript h⟩

/-- Three free handles: an operator of three nodes fits in, and two of them do not, but before the
want of room comes a code that no row has, and before that nothing behind it. -/
theorem conversion_verdict_lastHandles :
    let get : Operator := .sequence [.nat 0x61, .string "bpi"]
    let unknown : Operator := .bare ⟨0xffff⟩
    let full : Fault := .outOfRange (.arenaFull 0xfffffffd 3 6)
    let editor : Editor := ⟨.standard, .empty 0xfffffffd, ⟨"", "", 0, [], [], []⟩⟩
    let converts (aggregate tally : Script) :=
      ((convert ⟨"price", "", 0, [⟨"a", []⟩], aggregate, tally⟩).run.run editor).1
    (∃ converted, converts [get] [] = .ok converted) ∧
    converts [get] [get] = .error full ∧
    converts [get] [get, unknown, .sequence []] = .error (.unknownOperator ⟨0xffff⟩) := by
  intro get unknown full editor converts
  obtain ⟨hcount, houtput⟩ :
      OperatorPlan.nodeCount <$> editor.catalog.planOperator get = .ok 3 ∧
      editor.catalog.output ⟨0xffff⟩ = .error (.unknownOperator ⟨0xffff⟩) := by decide +kernel
  obtain ⟨plan, hplan, hnodes⟩ := map_eq_ok.1 hcount
  have hunknown : editor.catalog.planOperator unknown = .error (.unknownOperator ⟨0xffff⟩) :=
    bind_eq_error.2 (.inr ⟨(⟨0xffff⟩, none), rfl, bind_eq_error.2 (.inl houtput)⟩)
  have hroom : editor.arena.remaining = 3 := by decide
  have hone : scriptNodes [plan] = 3 := by simp [scriptNodes, hnodes]
  have htwo : scriptNodes [plan, plan] = 6 := by simp [scriptNodes, hnodes]
  have verdict (aggregate tally : Script) :=
    (conversion_verdict editor ⟨"price", "", 0, [⟨"a", []⟩], aggregate, tally⟩ []).1.1
  refine ⟨(verdict [get] []).succeeds_iff.2 ⟨[plan], .cons hplan .nil, by omega⟩,
    ((verdict [get] [get]).full_iff _).2
      ⟨[plan, plan], .cons hplan (.cons hplan .nil), by omega, by rw [hroom, htwo]; rfl⟩,
    (verdict [get] [get, unknown, .sequence []]).first_fault [get, get] unknown [.sequence []] _
      rfl ?_ hunknown⟩
  intro earlier hearlier
  obtain rfl : earlier = get := by simpa using hearlier
  exact ⟨plan, hplan⟩

end Editor

end ScriptTree
