import ScriptTree.Catalog.Standard
import ScriptTree.Proofs.Tree.Represents
import ScriptTree.Proofs.Tree.Shown
/-!
# Generated trees show their scripts

What is generated for a script shows as the rendering of the script, whatever else is in the arena
and whatever is inserted afterwards. The rendering knows nothing of arenas, so neither the origin
nor the history of an arena can be seen in a view.

Main statements: what is represented shows as its rendering (`Arena.RepresentsScript.viewScript`),
and so does what is generated (`Catalog.generated_shows_rendering`).
-/

namespace ScriptTree

namespace Arena

variable {arena : Arena Node} {catalog : Catalog} {operator : Operator} {script : Script}
  {handle : Handle} {handles : List Handle}

/-- What is represented under a handle shows as the view of a plan of it. -/
theorem Represents.shown (h : Represents catalog arena operator handle) :
    ∃ plan : OperatorPlan, plan.Valid catalog ∧ plan.operator = operator ∧
      arena.viewSelect handle = .ok (plan.view catalog) := by
  obtain ⟨plan, hvalid, hoperator, hholds⟩ := h
  exact ⟨plan, hvalid, hoperator, hholds.viewSelect hvalid⟩

theorem Represents.viewSelect (h : Represents catalog arena operator handle) :
    ∃ view, catalog.renderOperator operator = some view ∧ arena.viewSelect handle = .ok view := by
  obtain ⟨plan, hvalid, rfl, hview⟩ := h.shown
  exact ⟨plan.view catalog, hvalid.renderOperator, hview⟩

theorem RepresentsScript.viewScript (h : RepresentsScript catalog arena script handles) :
    ∃ views, catalog.renderScript script = some views ∧ arena.viewScript handles = .ok views := by
  induction h with
  | nil => exact ⟨[], rfl, rfl⟩
  | @cons operator handle script handles hoperator _ ih =>
    obtain ⟨view, hrender, hview⟩ := hoperator.viewSelect
    obtain ⟨views, hrenders, hviews⟩ := ih
    refine ⟨view :: views, ?_, ?_⟩
    · rw [Catalog.renderScript] at hrenders ⊢
      simp [List.mapM_cons, hrender, hrenders]
    · exact mapM_eq_ok_iff.2 (.cons hview (mapM_eq_ok_iff.1 hviews))

end Arena

/-- Generated trees show their scripts. Whatever arena a script was generated into, and whatever is
inserted behind it, the handles show as the rendering of the script from the catalog. -/
theorem Catalog.generated_shows_rendering {catalog : Catalog} {arena after later : Arena Node}
    {script : Script} {handles : List Handle}
    (hrun : (catalog.generateScript script).run.run arena = (.ok handles, after))
    (hx : after.Extends later) :
    ∃ views, catalog.renderScript script = some views ∧ later.viewScript handles = .ok views := by
  rw [← catalog.renderScript_normalized]
  exact ((Arena.represents_of_generateScript hrun).mono hx).viewScript

/-- A filter, a reducer, a literal and a sequence of a code alone, in an arena that has a node
already and gets another one afterwards. -/
theorem generated_shows_rendering_filter :
    let script : Script := [.sequence [.nat 0x11, .array [.nat 5, .string "x"]],
      .sequence [.nat 0x1b, .nat 3], .sequence [.nat 0x61, .string "bpi"], .sequence [.nat 0x74]]
    ∃ after views,
      (Catalog.standard.generateScript script).run.run
        ((Arena.empty 7).fill [.input ⟨"", .string, .null⟩]) =
          (.ok [⟨12⟩, ⟨16⟩, ⟨19⟩, ⟨21⟩], after) ∧
      Catalog.standard.renderScript script = some views ∧
      (after.fill [.option ⟨"", .one .bytes, []⟩]).viewScript [⟨12⟩, ⟨16⟩, ⟨19⟩, ⟨21⟩] =
        .ok views ∧
      views.map (fun view => view.selected.label) = ["filter", "reduce", "get", "length"] := by
  intro script
  obtain ⟨hgenerated, hlabels⟩ :
      ((Catalog.standard.generateScript script).run.run
          ((Arena.empty 7).fill [.input ⟨"", .string, .null⟩])).1.toOption =
        some [⟨12⟩, ⟨16⟩, ⟨19⟩, ⟨21⟩] ∧
      (Catalog.standard.renderScript script).map
          (fun views => views.map fun view => view.selected.label) =
        some ["filter", "reduce", "get", "length"] := by decide +kernel
  obtain ⟨after, hrun⟩ := Steps.exists_run hgenerated
  obtain ⟨views, hrender, hviews⟩ := Catalog.generated_shows_rendering hrun
    (Arena.extends_fill after [.option ⟨"", .one .bytes, []⟩])
  rw [hrender] at hlabels
  exact ⟨after, views, hrun, hrender, hviews, Option.some.inj hlabels⟩

end ScriptTree
