import ScriptTree.Proofs.Editor.Atomicity
/-!
# Effects of edits

What an edit that succeeds does to an editor, said once for all kinds of edits: which positions it
needs, which layout it puts behind the nodes that are there, what becomes of the document and what
it gives back. Everything else stays as it was.

Main statements: an edit that succeeds has its effect (`Editor.effect_of_perform`), opening lays the
plans of a document (`Editor.layout_of_ofDocument`), and what every effect keeps is kept by every
history (`Editor.replay_induction`).
-/

namespace ScriptTree.Editor

open Editing

/-- The call that an edit puts in the place of the operator at a position. -/
inductive Rewrites (editor : Editor) : Edit → Stage → Nat → Operator → Prop
  | select {stage : Stage} {index : Nat} {label : String} {operator : Operator}
      (call : editor.selection stage index label = .ok operator) :
      Rewrites editor (.select stage index label) stage index operator
  | update {stage : Stage} {index argument : Nat} {value : Json} {operator : Operator}
      (call : editor.updated stage index argument value = .ok operator) :
      Rewrites editor (.update stage index argument value) stage index operator
  | replace {stage : Stage} {index : Nat} {operator : Operator} :
      Rewrites editor (.replace stage index operator) stage index operator

/-- The layout of a planned operator behind the nodes of an editor. -/
def lay (editor : Editor) (plan : OperatorPlan) : Layout Handle :=
  plan.layout editor.catalog editor.arena.frontier

/-- The plan of an operator for which there is room. -/
structure Plans (editor : Editor) (operator : Operator) (plan : OperatorPlan) : Prop where
  planned : editor.catalog.planOperator operator = .ok plan
  room : (editor.lay plan).nodes.length ≤ editor.arena.remaining

/-- What an edit that succeeds gives back, and the editor behind it. -/
inductive Effect (editor : Editor) : Edit → Edit.Result → Editor → Prop
  | rewritten {edit : Edit} {stage : Stage} {index : Nat} {old : Handle} {operator : Operator}
      {plan : OperatorPlan} (call : editor.Rewrites edit stage index operator)
      (position : editor.handle stage index = .ok old) (plans : editor.Plans operator plan) :
      Effect editor edit (.handle (editor.lay plan).value)
        { editor with
          arena := editor.arena.fill (editor.lay plan).nodes
          document := editor.document.modify stage fun script =>
            script.set index (editor.lay plan).value }
  | pushed {stage : Stage} {script : List Handle} {operator : Operator} {plan : OperatorPlan}
      (position : editor.script stage = .ok script) (plans : editor.Plans operator plan) :
      Effect editor (.push stage operator) (.handle (editor.lay plan).value)
        { editor with
          arena := editor.arena.fill (editor.lay plan).nodes
          document := editor.document.modify stage fun script =>
            script ++ [(editor.lay plan).value] }
  | removed {stage : Stage} {index : Nat} {handle : Handle}
      (position : editor.handle stage index = .ok handle) :
      Effect editor (.remove stage index) (.handle handle)
        { editor with
          document := editor.document.modify stage fun script => script.eraseIdx index }
  | sourceAdded {url : String} :
      Effect editor (.addSource url) (.index editor.document.retrieve.length)
        { editor with
          document.retrieve := editor.document.retrieve ++ [⟨url, []⟩] }
  | sourceRemoved {index : Nat} {source : Source (List Handle)}
      (position : editor.source index = .ok source) :
      Effect editor (.removeSource index) (.source source)
        { editor with
          document.retrieve := editor.document.retrieve.eraseIdx index }
  | urlSet {index : Nat} {source : Source (List Handle)} {url : String}
      (position : editor.source index = .ok source) :
      Effect editor (.setUrl index url) .nothing
        { editor with
          document.retrieve := editor.document.retrieve.modify index fun source =>
            { source with url := url } }
  | nameSet {name : String} :
      Effect editor (.setName name) .nothing { editor with document.name := name }
  | descriptionSet {description : String} :
      Effect editor (.setDescription description) .nothing
        { editor with document.description := description }
  | converted {document : Document Script} {plans : Document (List OperatorPlan)}
      (planned : editor.catalog.planDocument document = .ok plans)
      (room : (editor.catalog.documentLayout editor.arena.frontier plans).nodes.length ≤
        editor.arena.remaining) :
      Effect editor (.convert document)
        (.document (editor.catalog.documentLayout editor.arena.frontier plans).value)
        { editor with
          arena := editor.arena.fill
            (editor.catalog.documentLayout editor.arena.frontier plans).nodes }
  | generated {script : Script} {plans : List OperatorPlan}
      (planned : editor.catalog.planScript script = .ok plans)
      (room : (editor.catalog.scriptLayout editor.arena.frontier plans).nodes.length ≤
        editor.arena.remaining) :
      Effect editor (.generate script)
        (.handles (editor.catalog.scriptLayout editor.arena.frontier plans).value)
        { editor with
          arena := editor.arena.fill
            (editor.catalog.scriptLayout editor.arena.frontier plans).nodes }

theorem Effect.catalog {editor after : Editor} {edit : Edit} {result : Edit.Result}
    (h : editor.Effect edit result after) : after.catalog = editor.catalog := by
  cases h <;> rfl

/-! ## Inserting -/

variable {editor after : Editor} {operator : Operator} {handle : Handle}

theorem insertOperator_eq_ok (h : (insertOperator operator).run.run editor = (.ok handle, after)) :
    ∃ plan, editor.Plans operator plan ∧ (editor.lay plan).value = handle ∧
      { editor with arena := editor.arena.fill (editor.lay plan).nodes } = after := by
  obtain ⟨_, _, hget, h⟩ := Steps.bind_eq_ok.1 h
  cases hget
  obtain ⟨arena, hrun, hafter⟩ := onArena_eq_ok.1 h
  rw [Catalog.run_insertPlanned] at hrun
  obtain ⟨layout, hlayout, hroom, hvalue, rfl⟩ := Arena.place_eq_ok.1 hrun
  obtain ⟨plan, hplan, rfl⟩ := map_eq_ok.1 hlayout
  exact ⟨plan, ⟨hplan, hroom⟩, hvalue, hafter⟩

/-- A question, an operator inserted, and a place for its handle in the document. -/
theorem insert_amend_eq_ok {α : Type} {question : Editor → Except Fault α}
    {change : Handle → Document (List Handle) → Document (List Handle)}
    (h : (do
      let _ ← ask question
      let fresh ← insertOperator operator
      amend (change fresh)
      return fresh : Editing Handle).run.run editor = (.ok handle, after)) :
    ∃ answer plan, question editor = .ok answer ∧ editor.Plans operator plan ∧
      (editor.lay plan).value = handle ∧
      { editor with
        arena := editor.arena.fill (editor.lay plan).nodes
        document := change handle editor.document } = after := by
  obtain ⟨answer, _, hask, h⟩ := Steps.bind_eq_ok.1 h
  obtain ⟨hanswer, rfl⟩ := ask_eq_ok.1 hask
  obtain ⟨fresh, _, hinsert, h⟩ := Steps.bind_eq_ok.1 h
  obtain ⟨plan, hplan, hvalue, rfl⟩ := insertOperator_eq_ok hinsert
  obtain ⟨_, _, hamend, hreturn⟩ := Steps.bind_eq_ok.1 h
  obtain rfl := amend_eq_ok.1 hamend
  cases hreturn
  exact ⟨answer, plan, hanswer, hplan, hvalue, rfl⟩

/-- A change of the document to which a question gave the answer. -/
theorem ask_amend_eq_ok {α : Type} {question : Editor → Except Fault α} {answer : α}
    {change : α → Document (List Handle) → Document (List Handle)}
    (h : (do
      let answer ← ask question
      amend (change answer)
      return answer : Editing α).run.run editor = (.ok answer, after)) :
    question editor = .ok answer ∧
      { editor with document := change answer editor.document } = after := by
  obtain ⟨found, _, hask, h⟩ := Steps.bind_eq_ok.1 h
  obtain ⟨hfound, rfl⟩ := ask_eq_ok.1 hask
  obtain ⟨_, _, hamend, hreturn⟩ := Steps.bind_eq_ok.1 h
  obtain rfl := amend_eq_ok.1 hamend
  cases hreturn
  exact ⟨hfound, rfl⟩

/-- Steps on the arena next to the document, which place what was planned. -/
theorem onArena_place_eq_ok {α : Type} {steps : Editor → Building α}
    {planned : Arena Node → Except Fault (Layout α)} {value : α}
    (hplace : ∀ arena, (steps editor).run.run arena = arena.place (planned arena))
    (h : (get >>= fun editor => onArena (steps editor)).run.run editor = (.ok value, after)) :
    ∃ layout, planned editor.arena = .ok layout ∧
      layout.nodes.length ≤ editor.arena.remaining ∧ layout.value = value ∧
      { editor with arena := editor.arena.fill layout.nodes } = after := by
  obtain ⟨_, _, hget, h⟩ := Steps.bind_eq_ok.1 h
  cases hget
  obtain ⟨arena, hrun, hafter⟩ := onArena_eq_ok.1 h
  rw [hplace] at hrun
  obtain ⟨layout, hlayout, hroom, hvalue, rfl⟩ := Arena.place_eq_ok.1 hrun
  exact ⟨layout, hlayout, hroom, hvalue, hafter⟩

/-! ## Edits -/

theorem effect_of_replaceOperator {edit : Edit} {stage : Stage} {index : Nat}
    (hcall : editor.Rewrites edit stage index operator)
    (h : (replaceOperator stage index operator).run.run editor = (.ok handle, after)) :
    editor.Effect edit (.handle handle) after := by
  rw [replaceOperator_eq] at h
  obtain ⟨old, plan, hposition, hplan, rfl, rfl⟩ := insert_amend_eq_ok h
  exact .rewritten hcall hposition hplan

/-- An edit that succeeds has its effect. -/
theorem effect_of_perform {edit : Edit} {result : Edit.Result}
    (h : editor.perform edit = (.ok result, after)) : editor.Effect edit result after := by
  cases edit with
  -- the first two find out which call to make, and replace the operator by it
  | select stage index label =>
    obtain ⟨handle, hrun, rfl⟩ := Steps.map_eq_ok.1 h
    obtain ⟨operator, _, hask, hrun⟩ := Steps.bind_eq_ok.1 hrun
    obtain ⟨hselection, rfl⟩ := ask_eq_ok.1 hask
    exact effect_of_replaceOperator (.select hselection) hrun
  | update stage index argument value =>
    obtain ⟨handle, hrun, rfl⟩ := Steps.map_eq_ok.1 h
    obtain ⟨operator, _, hask, hrun⟩ := Steps.bind_eq_ok.1 hrun
    obtain ⟨hupdated, rfl⟩ := ask_eq_ok.1 hask
    exact effect_of_replaceOperator (.update hupdated) hrun
  | replace stage index operator =>
    obtain ⟨handle, hrun, rfl⟩ := Steps.map_eq_ok.1 h
    exact effect_of_replaceOperator .replace hrun
  | push stage operator =>
    obtain ⟨handle, hrun, rfl⟩ := Steps.map_eq_ok.1 h
    rw [pushOperator_eq] at hrun
    obtain ⟨script, plan, hposition, hplan, rfl, rfl⟩ := insert_amend_eq_ok hrun
    exact .pushed hposition hplan
  | remove stage index =>
    obtain ⟨handle, hrun, rfl⟩ := Steps.map_eq_ok.1 h
    rw [removeOperator_eq] at hrun
    obtain ⟨hposition, rfl⟩ := ask_amend_eq_ok hrun
    exact .removed hposition
  | addSource url =>
    obtain ⟨count, hrun, rfl⟩ := Steps.map_eq_ok.1 h
    obtain ⟨_, _, hamend, hreturn⟩ := Steps.bind_eq_ok.1 hrun
    obtain rfl := amend_eq_ok.1 hamend
    have hcount : editor.document.retrieve.length = count := by
      have hlength := congrArg Prod.fst hreturn
      simpa using Except.ok.inj hlength
    cases hreturn
    rw [← hcount]
    exact .sourceAdded
  | removeSource index =>
    obtain ⟨source, hrun, rfl⟩ := Steps.map_eq_ok.1 h
    obtain ⟨hposition, rfl⟩ := ask_amend_eq_ok hrun
    exact .sourceRemoved hposition
  | setUrl index url =>
    obtain ⟨_, hrun, rfl⟩ := Steps.map_eq_ok.1 h
    obtain ⟨source, _, hask, hrun⟩ := Steps.bind_eq_ok.1 hrun
    obtain ⟨hposition, rfl⟩ := ask_eq_ok.1 hask
    obtain rfl := amend_eq_ok.1 hrun
    exact .urlSet hposition
  | setName name =>
    obtain ⟨_, hrun, rfl⟩ := Steps.map_eq_ok.1 h
    obtain rfl := amend_eq_ok.1 hrun
    exact .nameSet
  | setDescription description =>
    obtain ⟨_, hrun, rfl⟩ := Steps.map_eq_ok.1 h
    obtain rfl := amend_eq_ok.1 hrun
    exact .descriptionSet
  | convert document =>
    obtain ⟨cached, hrun, rfl⟩ := Steps.map_eq_ok.1 h
    obtain ⟨layout, hlayout, hroom, rfl, rfl⟩ :=
      onArena_place_eq_ok (editor.catalog.run_generateDocument document) hrun
    obtain ⟨plans, hplans, rfl⟩ := map_eq_ok.1 hlayout
    exact .converted hplans hroom
  | generate script =>
    obtain ⟨handles, hrun, rfl⟩ := Steps.map_eq_ok.1 h
    obtain ⟨layout, hlayout, hroom, rfl, rfl⟩ :=
      onArena_place_eq_ok (editor.catalog.run_generateScript script) hrun
    obtain ⟨plans, hplans, rfl⟩ := map_eq_ok.1 hlayout
    exact .generated hplans hroom

/-! ## Opening -/

/-- Opening a document lays its plans into an empty arena. -/
theorem layout_of_ofDocument {catalog : Catalog} {origin : UInt32} {document : Document Script}
    (h : ofDocument catalog origin document = .ok editor) :
    ∃ plans, catalog.planDocument document = .ok plans ∧
      let arena : Arena Node := .empty origin
      let layout := catalog.documentLayout arena.frontier plans
      layout.nodes.length ≤ arena.remaining ∧
        ⟨catalog, arena.fill layout.nodes, layout.value⟩ = editor := by
  obtain ⟨rfl, hrun⟩ := ofDocument_eq_ok h
  rw [editor.catalog.run_generateDocument] at hrun
  obtain ⟨layout, hlayout, hroom, hvalue, harena⟩ := Arena.place_eq_ok.1 hrun
  obtain ⟨plans, hplans, rfl⟩ := map_eq_ok.1 hlayout
  refine ⟨plans, hplans, hroom, ?_⟩
  rw [hvalue, harena]

/-! ## Histories -/

/-- Behind an edit the editor is as it was, or the edit has had its effect. -/
theorem after_eq_or_effect (editor : Editor) (edit : Edit) :
    editor.after edit = editor ∨
      ∃ result, (editor.perform edit).1 = .ok result ∧
        editor.Effect edit result (editor.after edit) := by
  cases hrun : (editor.perform edit).1 with
  | error fault => exact .inl (after_of_error hrun)
  | ok result => exact .inr ⟨result, rfl, effect_of_perform (Prod.ext hrun rfl)⟩

/-- What every effect keeps holds behind every history. -/
theorem replay_induction {P : Editor → Prop}
    (hstep : ∀ {editor : Editor} {edit : Edit} {result : Edit.Result} {after : Editor},
      editor.Effect edit result after → P editor → P after)
    {editor : Editor} (h : P editor) (edits : List Edit) : P (editor.replay edits) := by
  induction edits generalizing editor with
  | nil => exact h
  | cons edit edits ih =>
    apply ih
    rcases editor.after_eq_or_effect edit with hsame | ⟨result, -, heffect⟩
    · rwa [hsame]
    · exact hstep heffect h

theorem catalog_replay (editor : Editor) (edits : List Edit) :
    (editor.replay edits).catalog = editor.catalog :=
  replay_induction (P := fun later => later.catalog = editor.catalog)
    (fun heffect h => heffect.catalog.trans h) rfl edits

end ScriptTree.Editor
