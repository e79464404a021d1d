import ScriptTree.Proofs.Editor.Confinement
import ScriptTree.Proofs.Editor.Selecting
import ScriptTree.Proofs.Editor.Updating
/-!
# Edits at different positions commute

The call that an edit makes at a position depends on the tree that stands there, and an edit at
another position leaves that tree alone. So the order of two such edits does not matter: neither
for the calls that they make, nor for the room that they need together, nor for the document. Only
the numbers of the fresh handles tell the two orders apart.

Main statements: `Editor.Rewrites.transfer`, and `Editor.edits_at_different_positions_commute`.
-/

namespace ScriptTree

/-! ## Documents -/

namespace Document

variable {σ : Type}

theorem modify_comm (document : Document σ) {stage other : Stage} (h : stage ≠ other)
    (f g : σ → σ) : (document.modify stage f).modify other g =
      (document.modify other g).modify stage f := by
  cases stage with
  | retrieve index =>
    cases other with
    | retrieve index' =>
      have hindex : index ≠ index' := fun hsame => h (congrArg Stage.retrieve hsame)
      simp only [modify, List.modify_modify_ne _ _ _ hindex]
    | aggregate | tally => rfl
  | aggregate => cases other <;> first | rfl | exact absurd rfl h
  | tally => cases other <;> first | rfl | exact absurd rfl h

theorem modify_modify (document : Document σ) (stage : Stage) (f g : σ → σ) :
    (document.modify stage f).modify stage g = document.modify stage (g ∘ f) := by
  cases stage with
  | retrieve index =>
    simp only [modify, List.modify_modify_eq]
    rfl
  | aggregate | tally => rfl

/-- Items put at different positions do not depend on the order. -/
theorem modify_set_comm {α : Type} (document : Document (List α)) {stage other : Stage}
    {index position : Nat} (h : (stage, index) ≠ (other, position)) (a b : α) :
    ((document.modify stage fun script => script.set index a).modify other
        fun script => script.set position b) =
      (document.modify other fun script => script.set position b).modify stage
        fun script => script.set index a := by
  by_cases hstage : stage = other
  · subst hstage
    have hindex : index ≠ position := fun hsame => h (congrArg (Prod.mk stage) hsame)
    rw [modify_modify, modify_modify]
    congr 1
    funext script
    exact (List.set_comm a b hindex)
  · exact document.modify_comm hstage _ _

end Document

namespace Editor

variable {editor later : Editor} {edit : Edit} {result : Edit.Result}
  {stage other : Stage} {index position : Nat} {operator : Operator} {old fresh : Handle}
  {plan : OperatorPlan} {document : Document Script}

/-! ## Calls -/

/-- Where the same tree stands, an edit makes the same call. -/
theorem Rewrites.transfer (h : editor.Rewrites edit stage index operator)
    (hstands : editor.Stands stage index old plan) (hlater : later.Stands stage index fresh plan)
    (hcatalog : later.catalog = editor.catalog) : later.Rewrites edit stage index operator := by
  cases h with
  | select call =>
    obtain ⟨handle, select, row, hposition, hselect, hrow, hkind, rfl, rfl⟩ := selection_eq_ok call
    obtain rfl : old = handle := Except.ok.inj (hstands.position.symm.trans hposition)
    obtain ⟨-, -, ⟨hselect', -⟩⟩ := hstands
    cases Option.some.inj (hselect.symm.trans hselect')
    exact .select (hlater.selection_of_row (hcatalog ▸ hrow) (SelectKind.operator.inj hkind).symm)
  | update call =>
    rw [hstands.updated, ← hlater.updated] at call
    exact .update call
  | replace => exact .replace

/-! ## One edit -/

/-- An edit makes a call at a position, and there is room for what is planned for it. -/
structure Puts (editor : Editor) (edit : Edit) (stage : Stage) (index : Nat) (operator : Operator)
    (plan : OperatorPlan) : Prop where
  call : editor.Rewrites edit stage index operator
  position : ∃ old, editor.handle stage index = .ok old
  planned : editor.catalog.planOperator operator = .ok plan
  room : plan.nodeCount ≤ editor.arena.remaining

/-- The tree of a plan is put in, with its handle at a position. -/
def putting (editor : Editor) (stage : Stage) (index : Nat) (plan : OperatorPlan) : Editor :=
  { editor with
    arena := editor.arena.fill (editor.lay plan).nodes
    document := editor.document.modify stage fun script =>
      script.set index (editor.lay plan).value }

theorem Effect.puts {after : Editor} (h : editor.Effect edit result after)
    (hposition : edit.position? = some (stage, index)) :
    ∃ operator plan, editor.Puts edit stage index operator plan ∧
      after = editor.putting stage index plan := by
  cases h with
  | rewritten hcall hold hplans =>
    cases hcall.position?.symm.trans hposition
    have hroom := hplans.room
    rw [lay, OperatorPlan.length_layout] at hroom
    exact ⟨_, _, ⟨hcall, ⟨_, hold⟩, hplans.planned, hroom⟩, rfl⟩
  | pushed | removed | sourceAdded | sourceRemoved | urlSet | nameSet | descriptionSet
  | converted | generated => cases hposition

/-- An edit that succeeds at a position puts a planned call there. -/
theorem puts_of_perform (hposition : edit.position? = some (stage, index))
    (h : (editor.perform edit).1 = .ok result) :
    ∃ operator plan, editor.Puts edit stage index operator plan ∧
      editor.after edit = editor.putting stage index plan :=
  (effect_of_perform (Prod.ext h rfl)).puts hposition

namespace Puts

variable (h : editor.Puts edit stage index operator plan)

include h

theorem plans : editor.Plans operator plan := by
  refine ⟨h.planned, ?_⟩
  rw [lay, OperatorPlan.length_layout]
  exact h.room

theorem perform : (editor.perform edit).1 = .ok (.handle (editor.lay plan).value) := by
  obtain ⟨old, hposition⟩ := h.position
  rw [h.call.result hposition, h.planned]
  show Edit.Result.handle <$> (if _ then _ else _ : Except Fault Handle × Arena Node).1 = _
  rw [if_pos h.plans.room]
  rfl

theorem after : editor.after edit = editor.putting stage index plan := by
  obtain ⟨operator', plan', hputs, hafter⟩ := puts_of_perform h.call.position? h.perform
  obtain ⟨-, -, rfl⟩ := h.call.unique hputs.call
  rw [hafter, Except.ok.inj (h.planned.symm.trans hputs.planned)]

theorem size :
    (editor.putting stage index plan).arena.size = editor.arena.size + plan.nodeCount := by
  have hgrows := Arena.growsBy_fill h.plans.room
  rw [lay, OperatorPlan.length_layout] at hgrows
  exact hgrows.size

/-- The document that is represented once a call has been put at a position. -/
theorem represents (hdocument : editor.Represents document) :
    (editor.putting stage index plan).Represents
      (document.modify stage fun script => script.set index operator.normalized) :=
  (hdocument.extend (Arena.extends_fill ..)).modify _ fun _ _ hscript =>
    forall₂_set hscript _ h.plans.represents

end Puts

/-! ## Another position -/

theorem remaining_putting : (editor.putting stage index plan).arena.remaining =
    editor.arena.remaining - plan.nodeCount := by
  show (editor.arena.fill _).remaining = _
  rw [Arena.remaining_fill, lay, OperatorPlan.length_layout]

theorem handle_putting (hne : (other, position) ≠ (stage, index)) :
    (editor.putting other position plan).handle stage index = .ok old ↔
      editor.handle stage index = .ok old := by
  rw [handle_eq_ok, handle_eq_ok]
  show (∃ handles, (editor.document.modify other _).script? stage = some handles ∧ _) ↔ _
  rw [Document.script?_modify]
  by_cases hstage : stage = other
  · subst hstage
    have hindex : position ≠ index := fun hsame => hne (congrArg (Prod.mk stage) hsame)
    simp [List.getElem?_set_ne hindex]
  · rw [if_neg hstage]

/-- What stands at another position goes on standing there. -/
theorem Stands.putting (h : editor.Stands stage index old plan)
    (hne : (other, position) ≠ (stage, index)) (laid : OperatorPlan) :
    (editor.putting other position laid).Stands stage index old plan :=
  ⟨(handle_putting hne).2 h.position, h.valid, h.holds.mono (Arena.extends_fill ..)⟩

section Elsewhere

variable {laid : OperatorPlan} (hdocument : editor.Represents document)
  (hne : (other, position) ≠ (stage, index))

include hdocument hne

/-- What an edit puts at a position it also puts there before an edit of another position. -/
theorem Puts.before (h : (editor.putting other position laid).Puts edit stage index operator plan)
    (hroom : plan.nodeCount ≤ editor.arena.remaining) :
    editor.Puts edit stage index operator plan := by
  obtain ⟨old, hold⟩ := h.position
  rw [handle_putting hne] at hold
  obtain ⟨standing, hstands⟩ := hdocument.stands hold
  exact ⟨h.call.transfer (hstands.putting hne laid) hstands rfl, ⟨old, hold⟩, h.planned, hroom⟩

/-- What an edit puts at a position it also puts there behind an edit of another position. -/
theorem Puts.behind (h : editor.Puts edit stage index operator plan)
    (hroom : plan.nodeCount ≤ (editor.putting other position laid).arena.remaining) :
    (editor.putting other position laid).Puts edit stage index operator plan := by
  obtain ⟨old, hold⟩ := h.position
  obtain ⟨standing, hstands⟩ := hdocument.stands hold
  have hlater := hstands.putting hne laid
  exact ⟨h.call.transfer hstands hlater rfl, ⟨old, hlater.position⟩, h.planned, hroom⟩

end Elsewhere

/-! ## Two edits -/

/-- Two editors that show the same and have as many nodes: at most the numbers of their handles tell
them apart. -/
structure Alike (editor other : Editor) : Prop where
  lower : ∃ compact, editor.lower = .ok compact ∧ other.lower = .ok compact
  view : ∃ views, editor.view = .ok views ∧ other.view = .ok views
  size : editor.arena.size = other.arena.size

theorem Represents.alike {other : Editor} (h : editor.Represents document)
    (hother : other.Represents document) (hcatalog : other.catalog = editor.catalog)
    (hsize : editor.arena.size = other.arena.size) : editor.Alike other := by
  obtain ⟨views, hviews⟩ := h.view
  exact ⟨⟨document, h.lower, hother.lower⟩,
    ⟨views, hviews, (h.view_eq hother hcatalog).trans hviews⟩, hsize⟩

/-- Two edits at different positions succeed in either order, and leave editors behind that are
alike. -/
theorem Represents.commute (h : editor.Represents document) {first second : Edit}
    {one two : Edit.Result} (hfirst : first.position? = some (stage, index))
    (hsecond : second.position? = some (other, position))
    (hne : (stage, index) ≠ (other, position)) (hone : (editor.perform first).1 = .ok one)
    (htwo : ((editor.after first).perform second).1 = .ok two) :
    (∃ two', (editor.perform second).1 = .ok two') ∧
      (∃ one', ((editor.after second).perform first).1 = .ok one') ∧
      ((editor.after first).after second).Alike ((editor.after second).after first) := by
  obtain ⟨operator, plan, hputs, hafter⟩ := puts_of_perform hfirst hone
  rw [hafter] at htwo ⊢
  obtain ⟨operator', plan', hputs', hlast⟩ := puts_of_perform hsecond htwo
  -- there was room for both plans, so each of them finds room wherever it comes
  have hroom := hputs.room
  have hroom' := hputs'.room
  rw [remaining_putting] at hroom'
  have hearly := hputs'.before h hne (by omega)
  have hlate : (editor.putting other position plan').Puts first stage index operator plan :=
    hputs.behind h hne.symm (by rw [remaining_putting]; omega)
  rw [hearly.after]
  refine ⟨⟨_, hearly.perform⟩, ⟨_, hlate.perform⟩, ?_⟩
  rw [hlast, hlate.after]
  have hforth := hputs'.represents (hputs.represents h)
  have hback := hlate.represents (hearly.represents h)
  rw [Document.modify_set_comm document hne] at hforth
  refine hforth.alike hback rfl ?_
  rw [hputs'.size, hputs.size, hlate.size, hearly.size, Nat.add_right_comm]

/-- Edits at different positions commute. Whatever document an editor was opened on, the blank one
where none is given, and whatever edits followed: when two edits, each of which selects an option,
sets an argument or replaces an operator, address two different positions and succeed one after the
other, then they succeed in the other order as well. Both orders give the same compact document, the
same view and as many nodes, also where there is room for these two edits and no more. -/
theorem edits_at_different_positions_commute {catalog : Catalog} {origin : UInt32}
    {document : Option (Document Script)} {editor : Editor}
    (hopen : ofDocument catalog origin (document.getD .blank) = .ok editor) (edits : List Edit)
    {first second : Edit} {here there : Stage × Nat} {one two : Edit.Result}
    (hfirst : first.position? = some here) (hsecond : second.position? = some there)
    (hne : here ≠ there) (hone : ((editor.replay edits).perform first).1 = .ok one)
    (htwo : (((editor.replay edits).after first).perform second).1 = .ok two) :
    let reached := editor.replay edits
    (∃ two', (reached.perform second).1 = .ok two') ∧
      (∃ one', ((reached.after second).perform first).1 = .ok one') ∧
      ((reached.after first).after second).Alike ((reached.after second).after first) := by
  intro reached
  obtain ⟨plain, -, hR⟩ :=
    (represents_of_ofDocument hopen).replay (ofDocument_eq_ok hopen).1 edits
  exact hR.commute hfirst hsecond hne hone htwo

/-- Two operators of one script, in an arena that has numbers left for exactly the seven nodes that
replacing the first and selecting another option of the second put in. -/
theorem edits_at_different_positions_commute_exactRoom :
    let get : Operator := .sequence [.nat 0x61, .string "bpi"]
    let document : Document Script := { Document.blank with tally := [get, .bare ⟨0x74⟩] }
    let first : Edit := .replace .tally 0 (.sequence [.nat 0x61, .string "EUR"])
    let second : Edit := .select .tally 1 "match"
    ∃ editor, ofDocument Catalog.standard 0xfffffff4 ((some document).getD .blank) = .ok editor ∧
      (((editor.replay []).after first).after second).arena.remaining = 0 ∧
      (∃ two, ((editor.replay []).perform second).1 = .ok two) ∧
      (∃ one, (((editor.replay []).after second).perform first).1 = .ok one) ∧
      (((editor.replay []).after first).after second).Alike
        (((editor.replay []).after second).after first) := by
  intro get document first second
  have hruns : (ofDocument Catalog.standard 0xfffffff4
        ((some document).getD .blank)).toOption.map (fun editor =>
      (((editor.replay []).perform first).1, (((editor.replay []).after first).perform second).1,
        (((editor.replay []).after first).after second).arena.remaining)) =
      some (.ok (.handle ⟨0xfffffffb⟩), .ok (.handle ⟨0xffffffff⟩), 0) := by decide +kernel
  obtain ⟨editor, hopen, hruns⟩ := Option.map_eq_some_iff.1 hruns
  obtain ⟨hone, htwo, hremaining⟩ :
      ((editor.replay []).perform first).1 = .ok (.handle ⟨0xfffffffb⟩) ∧
      (((editor.replay []).after first).perform second).1 = .ok (.handle ⟨0xffffffff⟩) ∧
      (((editor.replay []).after first).after second).arena.remaining = 0 := by
    simpa only [Prod.mk.injEq] using hruns
  have hopen := eq_ok_of_toOption hopen
  exact ⟨editor, hopen, hremaining,
    edits_at_different_positions_commute hopen [] rfl rfl (by decide) hone htwo⟩

end Editor

end ScriptTree
