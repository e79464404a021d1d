import ScriptTree.Proofs.Catalog.Agreement
import ScriptTree.Proofs.Tree.Admission
import ScriptTree.Proofs.Tree.Represents
/-!
# Adding rows to a catalog

A catalog may get further rows behind those that it has. Nothing that could be looked up changes
then, except that a category offers more operators. So what could be planned is planned as before,
the nodes of a plan go to the same places, and only the selects of operators among them offer more.

Main statements: `Catalog.Extends.planScript`, `Catalog.Extends.scriptLayout`, and
`Catalog.extending_keeps_documents`.
-/

namespace ScriptTree

/-! ## Offering more -/

/-- The option that stands for a row. -/
def Row.choice (row : Row) : Choice :=
  ⟨row.name, row.resolved⟩

/-- The node with the options of further rows behind its own. A select of operators offers the rows
of its category, and no other node offers rows. -/
def Node.offering (more : List Row) : Node → Node
  | .select ⟨.operator category, label, output, selected, options⟩ =>
    .select ⟨.operator category, label, output, selected,
      options ++ (more.filter fun row => row.category = category).map Row.choice⟩
  | other => other

/-- The layout with every node changed by a function; the handles stay. -/
def Layout.mapNodes {α : Type} (f : Node → Node) (layout : Layout α) : Layout α :=
  ⟨layout.nodes.map f, layout.value⟩

/-- Where a function changes the nodes of every item, it changes those of all items. -/
theorem Layout.all_mapNodes {α β : Type} {f : Node → Node} {lay lay' : Nat → α → Layout β}
    (h : ∀ next item, lay' next item = (lay next item).mapNodes f) (next : Nat) (items : List α) :
    Layout.all lay' next items = (Layout.all lay next items).mapNodes f := by
  induction items generalizing next with
  | nil => rfl
  | cons item items ih =>
    simp only [all, h, mapNodes, ih, List.length_map, List.map_append]

/-- No node of an argument offers rows. -/
theorem ArgumentPlan.layout_offering (more : List Row) (next : Nat) (plan : ArgumentPlan) :
    plan.layout next = (plan.layout next).mapNodes (Node.offering more) := by
  cases plan <;> rfl

theorem OperatorPlan.optionLayout_offering (more : List Row) (next : Nat) (plan : OperatorPlan) :
    (plan.optionLayout next).nodes.map (Node.offering more) = (plan.optionLayout next).nodes := by
  have hall := Layout.all_mapNodes (ArgumentPlan.layout_offering more) next plan.arguments
  exact (congrArg Layout.nodes hall).symm

namespace Catalog

/-! ## Look-ups -/

/-- A catalog becomes a wider one by further rows behind its own. -/
def Extends (base : Catalog) (more : List Row) (wider : Catalog) : Prop :=
  wider.rows = base.rows ++ more

variable {base wider : Catalog} {more : List Row}

namespace Extends

variable (hx : base.Extends more wider)

include hx

theorem mem {row : Row} (h : row ∈ base.rows) : row ∈ wider.rows := by
  rw [hx]
  exact List.mem_append_left _ h

theorem row (code : OperatorCode) : Persists (base.row code) (wider.row code) := by
  intro row h
  obtain ⟨hmem, hcode⟩ := row_eq_ok.1 h
  exact row_eq_ok.2 ⟨hx.mem hmem, hcode⟩

theorem codeFor? {category : ValueType} {name : String} {code : OperatorCode}
    (h : base.codeFor? category name = some code) : wider.codeFor? category name = some code := by
  obtain ⟨row, hmem, hrow⟩ := codeFor?_eq_some.1 h
  exact codeFor?_eq_some.2 ⟨row, hx.mem hmem, hrow⟩

/-- A category offers the further rows behind its own. -/
theorem options (category : ValueType) : wider.options category =
    base.options category ++ (more.filter fun row => row.category = category).map Row.choice := by
  have hrows : wider.rows = base.rows ++ more := hx
  simp only [Catalog.options, entries_eq, hrows, List.filter_append, List.map_append, List.map_map]
  rfl

/-! ## Planning and committing -/

theorem planOperator (operator : Operator) :
    Persists (base.planOperator operator) (wider.planOperator operator) := by
  rw [planOperator_eq, planOperator_eq]
  exact (Persists.refl _).bind fun call => (hx.row call.1).bind fun row => .refl _

theorem planScript (script : Script) :
    Persists (base.planScript script) (wider.planScript script) :=
  .mapM hx.planOperator script

/-- An operator lies where it did, and its select offers the further rows. -/
theorem layout (next : Nat) (plan : OperatorPlan) :
    plan.layout wider next = (plan.layout base next).mapNodes (Node.offering more) := by
  have hoption := plan.optionLayout_offering more next
  simp only [OperatorPlan.layout, OperatorPlan.selectLayout, Layout.mapNodes, List.map_append,
    hoption, hx.options]
  rfl

theorem scriptLayout (next : Nat) (plans : List OperatorPlan) :
    wider.scriptLayout next plans =
      (base.scriptLayout next plans).mapNodes (Node.offering more) :=
  Layout.all_mapNodes hx.layout next plans

/-! ## Lowering -/

theorem lowerOperator (arena : Arena Node) (handle : Handle) :
    Persists (arena.lowerOperator base handle) (arena.lowerOperator wider handle) := by
  refine (Persists.refl _).bind fun select => ?_
  cases select.kind with
  | filter | reducer => exact .refl _
  | operator category =>
    refine (Persists.refl _).bind fun chosen => ?_
    cases hcode : base.codeFor? category chosen.label with
    | none => exact nofun
    | some code =>
      rw [hx.codeFor? hcode]
      exact .refl _

theorem lowerScript (arena : Arena Node) (handles : List Handle) :
    Persists (arena.lowerScript base handles) (arena.lowerScript wider handles) :=
  .mapM (hx.lowerOperator arena) handles

end Extends

/-! ## Documents -/

/-- Further rows keep what was converted without them. A script that converts under a catalog
converts under any catalog with more rows behind, to the same handles. The new nodes are the same
ones, except that every operator select among them offers the further rows of its category behind
the others. The tree that was made without them lowers with them to the same script, the normal form
of the one that was converted. -/
theorem extending_keeps_documents {rows more : List Row} {base wider : Catalog}
    (hbase : ofRows rows = .ok base) (hwider : ofRows (rows ++ more) = .ok wider)
    {arena after : Arena Node} {script : Script} {handles : List Handle}
    (hrun : (base.generateScript script).run.run arena = (.ok handles, after)) :
    (∃ (wide : Arena Node) (added : List Node),
      (wider.generateScript script).run.run arena = (.ok handles, wide) ∧
      after.origin = arena.origin ∧ after.nodes.toList = arena.nodes.toList ++ added ∧
      wide.origin = arena.origin ∧
      wide.nodes.toList = arena.nodes.toList ++ added.map (Node.offering more)) ∧
    after.lowerScript base handles = .ok (script.map Operator.normalized) ∧
    after.lowerScript wider handles = .ok (script.map Operator.normalized) := by
  have hx : base.Extends more wider := by
    rw [Extends, ofRows_eq_ok hbase, ofRows_eq_ok hwider]
  have hlowers := (Arena.represents_of_generateScript hrun).lowerScript
  refine ⟨?_, hlowers, hx.lowerScript after handles _ hlowers⟩
  rw [base.run_generateScript] at hrun
  obtain ⟨layout, hlayout, hfits, rfl, rfl⟩ := Arena.place_eq_ok.1 hrun
  obtain ⟨plans, hplans, rfl⟩ := map_eq_ok.1 hlayout
  have hwide := hx.scriptLayout arena.frontier plans
  have hlength : (wider.scriptLayout arena.frontier plans).nodes.length ≤ arena.remaining := by
    rwa [hwide, Layout.mapNodes, List.length_map]
  refine ⟨arena.fill (wider.scriptLayout arena.frontier plans).nodes,
    (base.scriptLayout arena.frontier plans).nodes, ?_, rfl, ?_, rfl, ?_⟩
  · rw [wider.run_generateScript]
    refine Arena.place_eq_ok.2 ⟨_, map_eq_ok.2 ⟨plans, hx.planScript script _ hplans, rfl⟩, hlength,
      ?_, rfl⟩
    rw [hwide]
    rfl
  · rw [Arena.toList_fill, List.take_of_length_le hfits]
  · rw [Arena.toList_fill, List.take_of_length_le hlength, hwide]
    rfl

/-- Two operators of one category, the second with a filter, in an arena that has a node. The
further rows are of that category, of another one, and of that category again. -/
theorem extending_keeps_documents_filter :
    let rows : List Row := [⟨⟨0x10⟩, "count", .array, [.integer], []⟩,
      ⟨⟨0x11⟩, "filter", .array, [.array], [⟨"function", .filter, false⟩]⟩]
    let more : List Row := [⟨⟨0x12⟩, "flatten", .array, [.array], [⟨"depth", .integer, true⟩]⟩,
      ⟨⟨0x62⟩, "keys", .map, [.array], []⟩, ⟨⟨0x1c⟩, "some", .array, [.boolean], []⟩]
    let script : Script := [.sequence [.nat 0x10], .sequence [.nat 0x11, .array [.nat 5, .null]]]
    let arena := (Arena.empty 7).fill [.input ⟨"", .string, .null⟩]
    let counts (options : List Choice) : Node :=
      .select ⟨.operator .array, none, .one .integer, ⟨8⟩, options⟩
    let offered : List Choice := [⟨"count", .one .integer⟩, ⟨"filter", .one .array⟩]
    ∃ (base wider : Catalog) (after wide : Arena Node) (added : List Node),
      ofRows rows = .ok base ∧ ofRows (rows ++ more) = .ok wider ∧
      (base.generateScript script).run.run arena = (.ok [⟨9⟩, ⟨14⟩], after) ∧
      (wider.generateScript script).run.run arena = (.ok [⟨9⟩, ⟨14⟩], wide) ∧
      wide.nodes.toList = arena.nodes.toList ++ added.map (Node.offering more) ∧
      added[1]? = some (counts offered) ∧
      (added.map (Node.offering more))[1]? =
        some (counts (offered ++ [⟨"flatten", .one .array⟩, ⟨"some", .one .boolean⟩])) ∧
      after.lowerScript wider [⟨9⟩, ⟨14⟩] =
        .ok [.bare ⟨0x10⟩, .sequence [.nat 0x11, .array [.nat 5, .null]]] := by
  intro rows more script arena counts offered
  obtain ⟨hrun, hwider, hselect⟩ :
      (ofRows rows).toOption.map
          (fun base => ((base.generateScript script).run.run arena).1.toOption) =
        some (some [⟨9⟩, ⟨14⟩]) ∧
      (ofRows (rows ++ more)).isOk = true ∧
      (ofRows rows).toOption.map
          (fun base => ((base.generateScript script).run.run arena).2.nodes.toList[2]?) =
        some (some (counts offered)) := by decide +kernel
  obtain ⟨base, hbase, hrun⟩ := Option.map_eq_some_iff.1 hrun
  rw [hbase] at hselect
  have hbase := eq_ok_of_toOption hbase
  obtain ⟨wider, hwider⟩ := exists_of_isOk hwider
  obtain ⟨after, hrun⟩ := Steps.exists_run hrun
  obtain ⟨⟨wide, added, hwide, -, hafter, -, hnodes⟩, -, hlowers⟩ :=
    extending_keeps_documents hbase hwider hrun
  have hselect : added[1]? = some (counts offered) := by
    rw [Option.map_some, hrun, hafter] at hselect
    exact Option.some.inj hselect
  refine ⟨base, wider, after, wide, added, hbase, hwider, hrun, hwide, hnodes, hselect, ?_, hlowers⟩
  rw [List.getElem?_map, hselect]
  rfl

end Catalog

end ScriptTree
