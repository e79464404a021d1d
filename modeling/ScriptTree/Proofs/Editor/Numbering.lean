import ScriptTree.Proofs.Editor.Effect
import ScriptTree.Proofs.Editor.Verdict
/-!
# Counts and numbers

A plan says how many nodes it takes, and that is by how many nodes an arena grows when the plan is
inserted. So the handles of the operators of a script can be told from the plans alone: the select
of an operator is the last of its nodes, and the operators lie one behind the other. A document is
laid as one script, the operators of its stages in order.

Main statement: `Editor.growth_is_planned`.
-/

namespace ScriptTree

/-! ## Growing by a count -/

/-- The later arena has `count` more values, behind those of the earlier one. -/
structure Arena.GrowsBy {α : Type} (arena later : Arena α) (count : Nat) : Prop where
  kept : arena.Extends later
  size : later.size = arena.size + count

theorem Arena.GrowsBy.frontier {α : Type} {arena later : Arena α} {count : Nat}
    (h : arena.GrowsBy later count) : later.frontier = arena.frontier + count := by
  rw [Arena.frontier, Arena.frontier, h.kept.origin, h.size, Nat.add_assoc]

theorem Arena.growsBy_fill {α : Type} {arena : Arena α} {values : List α}
    (hroom : values.length ≤ arena.remaining) :
    arena.GrowsBy (arena.fill values) values.length := by
  have hfrontier := frontier_fill_of_fits hroom
  simp only [Arena.frontier, origin_fill] at hfrontier
  exact ⟨arena.extends_fill values, by omega⟩

/-- What is placed as a whole grows the arena by its count, and its numbers do not start over. -/
theorem Arena.growsBy_of_place {π α : Type} {arena later : Arena Node} {planned : Except Fault π}
    {lay : π → Layout α} {count : π → Nat} {value : α}
    (hcount : ∀ plan, (lay plan).nodes.length = count plan)
    (h : arena.place (lay <$> planned) = (.ok value, later)) :
    ∃ plan, planned = .ok plan ∧ (lay plan).value = value ∧ arena.GrowsBy later (count plan) ∧
      arena.frontier + count plan ≤ UInt32.size := by
  obtain ⟨layout, hlayout, hroom, rfl, rfl⟩ := place_eq_ok.1 h
  obtain ⟨plan, hplan, rfl⟩ := map_eq_ok.1 hlayout
  have hspace := arena.frontier_add_remaining
  have hgrows := growsBy_fill hroom
  rw [hcount] at hgrows hroom
  exact ⟨plan, hplan, rfl, hgrows, by omega⟩

/-! ## Numbers of selects -/

theorem scriptNodes_le_of_isPrefix {front plans : List OperatorPlan} (h : front <+: plans) :
    scriptNodes front ≤ scriptNodes plans := by
  obtain ⟨rest, rfl⟩ := h
  rw [Catalog.scriptNodes_append]
  exact Nat.le_add_right ..

theorem scriptNodes_take_succ {plans : List OperatorPlan} {k : Nat} {plan : OperatorPlan}
    (h : plans[k]? = some plan) :
    scriptNodes (plans.take (k + 1)) = scriptNodes (plans.take k) + plan.optionNodes + 1 := by
  rw [List.take_add_one, h, Catalog.scriptNodes_append]
  rfl

/-- The handles of operators whose nodes lie one behind the other from the number `next` on: each
is the last of its operator's nodes, and all of them are in the number space. -/
structure Numbered (next : Nat) (plans : List OperatorPlan) (handles : List Handle) : Prop where
  length : handles.length = plans.length
  number : ∀ (k : Nat) (handle : Handle), handles[k]? = some handle →
    handle.id.toNat + 1 = next + scriptNodes (plans.take (k + 1))
  ascending : handles.Pairwise fun earlier later => earlier.id < later.id
  fits : next + scriptNodes plans ≤ UInt32.size

namespace Catalog

variable (catalog : Catalog)

/-- The select of an operator lies behind the operators before it and its own other nodes. -/
theorem getElem?_scriptLayout (next k : Nat) (plans : List OperatorPlan) :
    (catalog.scriptLayout next plans).value[k]? = plans[k]?.map fun plan =>
      .ofNat (next + scriptNodes (plans.take k) + plan.optionNodes) := by
  induction plans generalizing next k with
  | nil => rfl
  | cons plan plans ih =>
    cases k with
    | zero =>
      show some (Handle.ofNat (next + (plan.selectLayout catalog next).nodes.length)) = _
      rw [OperatorPlan.length_selectLayout]
      rfl
    | succ k =>
      show (catalog.scriptLayout (next + (plan.layout catalog next).nodes.length) plans).value[k]? =
        _
      rw [OperatorPlan.length_layout, ih, List.getElem?_cons_succ, List.take_succ_cons]
      simp only [scriptNodes, List.map_cons, List.sum_cons, Nat.add_assoc]

theorem numbered_scriptLayout {next : Nat} {plans : List OperatorPlan}
    (hfits : next + scriptNodes plans ≤ UInt32.size) :
    Numbered next plans (catalog.scriptLayout next plans).value := by
  -- the number of a handle, and the count of its nodes
  have hnumber : ∀ (k : Nat) (handle : Handle),
      (catalog.scriptLayout next plans).value[k]? = some handle →
      handle.id.toNat + 1 = next + scriptNodes (plans.take (k + 1)) ∧
        next + scriptNodes (plans.take k) < handle.id.toNat + 1 := by
    intro k handle hhandle
    rw [getElem?_scriptLayout, Option.map_eq_some_iff] at hhandle
    obtain ⟨plan, hplan, rfl⟩ := hhandle
    have hnext := scriptNodes_take_succ hplan
    have hall := scriptNodes_le_of_isPrefix (List.take_prefix (k + 1) plans)
    rw [Handle.toNat_ofNat (by omega)]
    omega
  refine ⟨Layout.length_value_all _ next plans, fun k handle h => (hnumber k handle h).1, ?_, hfits⟩
  rw [List.pairwise_iff_getElem]
  intro i j hi hj hlt
  have hearlier := (hnumber i _ (List.getElem?_eq_getElem hi)).1
  have hlater := (hnumber j _ (List.getElem?_eq_getElem hj)).2
  have hmono : scriptNodes (plans.take (i + 1)) ≤ scriptNodes (plans.take j) :=
    scriptNodes_le_of_isPrefix (List.take_prefix_take_left hlt)
  rw [UInt32.lt_iff_toNat_lt]
  omega

/-! ## Documents as scripts -/

theorem scriptLayout_append (next : Nat) (first second : List OperatorPlan) :
    catalog.scriptLayout next (first ++ second) =
      ⟨(catalog.scriptLayout next first).nodes ++ (catalog.scriptLayout
            (next + (catalog.scriptLayout next first).nodes.length) second).nodes,
        (catalog.scriptLayout next first).value ++ (catalog.scriptLayout
            (next + (catalog.scriptLayout next first).nodes.length) second).value⟩ :=
  Layout.all_append ..

/-- Sources are laid like a script of all their operators. -/
theorem scriptLayout_flatten_sources (next : Nat) (sources : List (Source (List OperatorPlan))) :
    catalog.scriptLayout next (sources.map Source.script).flatten =
      ⟨(Layout.all catalog.sourceLayout next sources).nodes,
        ((Layout.all catalog.sourceLayout next sources).value.map Source.script).flatten⟩ := by
  induction sources generalizing next with
  | nil => rfl
  | cons source sources ih =>
    have hrest := ih (next + (catalog.scriptLayout next source.script).nodes.length)
    rw [List.map_cons, List.flatten_cons, scriptLayout_append, hrest]
    rfl

/-- A document is laid like a script of all its operators. -/
theorem scriptLayout_flatten_scripts (next : Nat) (document : Document (List OperatorPlan)) :
    catalog.scriptLayout next document.scripts.flatten =
      ⟨(catalog.documentLayout next document).nodes,
        (catalog.documentLayout next document).value.scripts.flatten⟩ := by
  rw [Document.scripts, List.flatten_append, scriptLayout_append, scriptLayout_flatten_sources]
  simp only [List.flatten_cons, List.flatten_nil, List.append_nil, scriptLayout_append]
  simp only [documentLayout, Document.scripts, List.flatten_append, List.flatten_cons,
    List.flatten_nil, List.append_nil]

/-! ## Conversions -/

variable {catalog : Catalog} {arena later : Arena Node}

theorem growth_of_generateScript {script : Script} {handles : List Handle}
    (h : (catalog.generateScript script).run.run arena = (.ok handles, later)) :
    ∃ plans, catalog.planScript script = .ok plans ∧
      arena.GrowsBy later (scriptNodes plans) ∧ Numbered arena.frontier plans handles := by
  rw [run_generateScript] at h
  obtain ⟨plans, hplans, rfl, hgrows, hfits⟩ :=
    Arena.growsBy_of_place (catalog.length_scriptLayout arena.frontier) h
  exact ⟨plans, hplans, hgrows, catalog.numbered_scriptLayout hfits⟩

/-- The option that the select of an operator points to is inserted last. -/
theorem growth_of_generateOperator {operator : Operator} {select : Select}
    (h : (catalog.generateOperator operator).run.run arena = (.ok select, later)) :
    ∃ plan, catalog.planOperator operator = .ok plan ∧ arena.GrowsBy later plan.optionNodes ∧
      select.selected.id.toNat + 1 = later.frontier := by
  rw [run_generateOperator] at h
  obtain ⟨plan, hplan, rfl, hgrows, hfits⟩ :=
    Arena.growsBy_of_place (OperatorPlan.length_selectLayout catalog arena.frontier) h
  refine ⟨plan, hplan, hgrows, ?_⟩
  -- the option lies behind the arguments, which are one node less
  have hpos : 1 ≤ plan.optionNodes := Nat.le_add_right ..
  have hlast := plan.length_optionLayout arena.frontier
  rw [hgrows.frontier, OperatorPlan.selectLayout, Handle.toNat_ofNat (by omega)]
  omega

theorem growth_of_generateOption {row : Row} {code : OperatorCode} {args : List Json}
    {chosen : Chosen}
    (h : (catalog.generateOption row code args).run.run arena = (.ok chosen, later)) :
    ∃ plan, catalog.planOption row code args = .ok plan ∧
      arena.GrowsBy later (plan.optionNodes - 1) := by
  rw [run_generateOption] at h
  obtain ⟨plan, hplan, -, hgrows, -⟩ :=
    Arena.growsBy_of_place (OperatorPlan.length_optionLayout arena.frontier) h
  exact ⟨plan, hplan, hgrows⟩

theorem growth_of_generateDocument {document : Document Script}
    {converted : Document (List Handle)}
    (h : (catalog.generateDocument document).run.run arena = (.ok converted, later)) :
    ∃ plans, catalog.planDocument document = .ok plans ∧
      arena.GrowsBy later (Growth.ofPlans plans.retrieve.length plans.scripts).nodes ∧
      Numbered arena.frontier plans.scripts.flatten converted.scripts.flatten := by
  rw [run_generateDocument] at h
  obtain ⟨plans, hplans, rfl, hgrows, hfits⟩ :=
    Arena.growsBy_of_place (catalog.length_documentLayout arena.frontier) h
  refine ⟨plans, hplans, hgrows, ?_⟩
  rw [nodes_ofPlans] at hfits
  have hnumbered := catalog.numbered_scriptLayout hfits
  rwa [scriptLayout_flatten_scripts] at hnumbered

end Catalog

namespace Editor

open Catalog (standardRow required)

/-- A conversion that succeeds grows the arena by the count of what was planned: a script by its
nodes, an operator without its select by one node less, and its chosen option, which is not
inserted, by one less again. The handles of a script are counted from the frontier on, and the
select of an operator points to the last node inserted. A document grows the arena by what is
recorded as its growth, and is numbered like one script of all its operators in order. -/
theorem growth_is_planned (editor : Editor) :
    (∀ (script : Script) (handles : List Handle) (later : Arena Node),
      (editor.catalog.generateScript script).run.run editor.arena = (.ok handles, later) →
      ∃ plans, editor.catalog.planScript script = .ok plans ∧
        editor.arena.GrowsBy later (scriptNodes plans) ∧
        Numbered editor.arena.frontier plans handles) ∧
    (∀ (operator : Operator) (select : Select) (later : Arena Node),
      (editor.catalog.generateOperator operator).run.run editor.arena = (.ok select, later) →
      ∃ plan, editor.catalog.planOperator operator = .ok plan ∧
        editor.arena.GrowsBy later plan.optionNodes ∧
        select.selected.id.toNat + 1 = later.frontier) ∧
    (∀ (row : Row) (code : OperatorCode) (args : List Json) (chosen : Chosen)
        (later : Arena Node),
      (editor.catalog.generateOption row code args).run.run editor.arena = (.ok chosen, later) →
      ∃ plan, editor.catalog.planOption row code args = .ok plan ∧
        editor.arena.GrowsBy later (plan.optionNodes - 1)) ∧
    (∀ (document : Document Script) (converted : Document (List Handle)) (after : Editor),
      (convert document).run.run editor = (.ok converted, after) →
      ∃ plans, editor.catalog.planDocument document = .ok plans ∧
        editor.arena.GrowsBy after.arena
          (Growth.ofPlans plans.retrieve.length plans.scripts).nodes ∧
        document.Pairs (fun script handles => script.length = handles.length) converted ∧
        Numbered editor.arena.frontier plans.scripts.flatten converted.scripts.flatten) := by
  refine ⟨fun _ _ _ => Catalog.growth_of_generateScript,
    fun _ _ _ => Catalog.growth_of_generateOperator,
    fun _ _ _ _ _ => Catalog.growth_of_generateOption, ?_⟩
  intro document converted after h
  obtain ⟨_, _, hget, h⟩ := Steps.bind_eq_ok.1 h
  cases hget
  obtain ⟨later, hrun, rfl⟩ := Editing.onArena_eq_ok.1 h
  obtain ⟨plans, hplans, hgrows, hnumbered⟩ := Catalog.growth_of_generateDocument hrun
  exact ⟨plans, hplans, hgrows,
    Arena.lengths_of_generateDocument (congrArg Prod.fst hrun), hnumbered⟩

/-- An operator of three nodes and a filter of five, behind the number seven: their selects are the
last of the nodes of each, in a script as in a document that has them in different stages. -/
theorem growth_is_planned_fromSeven :
    let get : Operator := .sequence [.nat 0x61, .string "bpi"]
    let args : List Json := [.array [.nat 5, .string "x"]]
    let filter : Operator := .sequence (.nat 0x11 :: args)
    let row : Row := standardRow 0x11 .array "filter" [.array] [required "function" .filter]
    let document : Document Script := ⟨"price", "", 0, [⟨"a", [get]⟩], [filter], []⟩
    let editor : Editor := ⟨.standard, .empty 7, ⟨"", "", 0, [], [], []⟩⟩
    (∃ plans later, editor.catalog.planScript [get, filter] = .ok plans ∧
      editor.arena.GrowsBy later 8 ∧ Numbered 7 plans [⟨9⟩, ⟨14⟩]) ∧
    (∃ plan later, editor.catalog.planOperator filter = .ok plan ∧
      editor.arena.GrowsBy later 4 ∧ later.frontier = 11) ∧
    (∃ plan later, editor.catalog.planOption row row.code args = .ok plan ∧
      editor.arena.GrowsBy later 3) ∧
    (∃ plans later, editor.catalog.planDocument document = .ok plans ∧
      editor.arena.GrowsBy later 8 ∧ Numbered 7 plans.scripts.flatten [⟨9⟩, ⟨14⟩]) := by
  intro get args filter row document editor
  obtain ⟨hscript, hoperator, hoption, hdocument⟩ :
      ((editor.catalog.generateScript [get, filter]).run.run editor.arena).1 =
        .ok [⟨9⟩, ⟨14⟩] ∧
      (fun select => select.selected) <$>
        ((editor.catalog.generateOperator filter).run.run editor.arena).1 = .ok ⟨10⟩ ∧
      (fun chosen => chosen.arguments) <$>
        ((editor.catalog.generateOption row row.code args).run.run editor.arena).1 = .ok [⟨9⟩] ∧
      ((convert document).run.run editor).1 =
        .ok ⟨"price", "", 0, [⟨"a", [⟨9⟩]⟩], [⟨14⟩], []⟩ := by decide +kernel
  obtain ⟨hnodes, hselect, hchosen, hgrowth⟩ :
      scriptNodes <$> editor.catalog.planScript [get, filter] = .ok 8 ∧
      OperatorPlan.optionNodes <$> editor.catalog.planOperator filter = .ok 4 ∧
      OperatorPlan.optionNodes <$> editor.catalog.planOption row row.code args = .ok 4 ∧
      (fun plans => (Growth.ofPlans plans.retrieve.length plans.scripts).nodes) <$>
        editor.catalog.planDocument document = .ok 8 := by decide +kernel
  obtain ⟨ofScript, ofOperator, ofOption, ofDocument⟩ := growth_is_planned editor
  refine ⟨?_, ?_, ?_, ?_⟩
  · obtain ⟨later, hrun⟩ := Steps.exists_run (congrArg Except.toOption hscript)
    obtain ⟨plans, hplans, hgrows, hnumbered⟩ := ofScript _ _ later hrun
    rw [hplans] at hnodes
    rw [Except.ok.inj hnodes] at hgrows
    exact ⟨plans, later, hplans, hgrows, hnumbered⟩
  · obtain ⟨select, hfound, hselected⟩ := map_eq_ok.1 hoperator
    obtain ⟨later, hrun⟩ := Steps.exists_run (congrArg Except.toOption hfound)
    obtain ⟨plan, hplan, hgrows, hlast⟩ := ofOperator _ _ later hrun
    rw [hplan] at hselect
    rw [Except.ok.inj hselect] at hgrows
    rw [hselected] at hlast
    exact ⟨plan, later, hplan, hgrows, hlast.symm⟩
  · obtain ⟨chosen, hfound, -⟩ := map_eq_ok.1 hoption
    obtain ⟨later, hrun⟩ := Steps.exists_run (congrArg Except.toOption hfound)
    obtain ⟨plan, hplan, hgrows⟩ := ofOption _ _ _ _ later hrun
    rw [hplan] at hchosen
    rw [Except.ok.inj hchosen] at hgrows
    exact ⟨plan, later, hplan, hgrows⟩
  · obtain ⟨after, hrun⟩ := Steps.exists_run (congrArg Except.toOption hdocument)
    obtain ⟨plans, hplans, hgrows, -, hnumbered⟩ := ofDocument _ _ after hrun
    rw [hplans] at hgrowth
    have hcount : (Growth.ofPlans plans.retrieve.length plans.scripts).nodes = 8 :=
      Except.ok.inj hgrowth
    rw [hcount] at hgrows
    exact ⟨plans, after.arena, hplans, hgrows, hnumbered⟩

end Editor

end ScriptTree
