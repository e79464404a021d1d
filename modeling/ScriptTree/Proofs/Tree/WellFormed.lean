import ScriptTree.Proofs.Tree.Holds
/-!
# Well-formed arenas

In a well-formed arena every handle in a node leads to an earlier node, and every select has chosen
one of the options that its kind offers: an operator of its category with arguments as declared, a
filter with its operand, or a reducer.

Main statements: nodes that are accepted one after the other keep an arena well-formed
(`Arena.WellFormed.fill`), and the nodes of the layout of a valid plan are
(`Arena.acceptsAll_layout`).
-/

namespace ScriptTree

/-- The handles that a node holds. -/
def Node.handles : Node → List Handle
  | .select choice => [choice.selected]
  | .option chosen => chosen.arguments
  | .input _ => []

namespace Arena

/-- The node of a declared argument: for a filter or a reducer a select of that kind, labelled with
the declared name, and otherwise an input with the declared name and kind. -/
def ArgumentFits (arena : Arena Node) (parameter : Parameter) (handle : Handle) : Prop :=
  match parameter.kind with
  | .filter => ∃ select, arena.resolve? handle = some (.select select) ∧ select.kind = .filter ∧
      select.label = some parameter.name
  | .reducer => ∃ select, arena.resolve? handle = some (.select select) ∧
      select.kind = .reducer ∧ select.label = some parameter.name
  | kind => ∃ value, arena.resolve? handle = some (.input ⟨parameter.name, kind, value⟩)

/-- The option of a row, with arguments for the first of its parameters. -/
structure OptionFits (arena : Arena Node) (row : Row) (chosen : Chosen) : Prop where
  label : chosen.label = row.name
  output : chosen.output = row.resolved
  arity : chosen.arguments.length ≤ row.parameters.length
  arguments : ∀ (position : Nat) (parameter : Parameter) (handle : Handle),
    row.parameters[position]? = some parameter → chosen.arguments[position]? = some handle →
    arena.ArgumentFits parameter handle

/-- A select of the operators of a category, which has chosen one of them. -/
structure OperatorSelect (catalog : Catalog) (arena : Arena Node) (category : ValueType)
    (select : Select) : Prop where
  label : select.label = none
  options : select.options = catalog.options category
  chosen : ∃ row ∈ catalog.rows, ∃ chosen, row.category = category ∧
    select.output = row.resolved ∧
    arena.resolve? select.selected = some (.option chosen) ∧ arena.OptionFits row chosen

/-- A select of the filters, which has chosen one with its operand. -/
structure FilterSelect (arena : Arena Node) (select : Select) : Prop where
  output : select.output = .one .bytes
  options : select.options = Filter.options
  chosen : ∃ (function : Filter) (operand : Handle) (value : Json),
    arena.resolve? select.selected = some (.option ⟨function.name, .one .bytes, [operand]⟩) ∧
    arena.resolve? operand = some (.input ⟨"by", .ofLiteral value, value⟩)

/-- A select of the reducers, which has chosen one. -/
structure ReducerSelect (arena : Arena Node) (select : Select) : Prop where
  output : select.output = .one .integer
  options : select.options = Reducer.options
  chosen : ∃ function : Reducer,
    arena.resolve? select.selected = some (.option ⟨function.name, .one .bytes, []⟩)

/-- A select is as its kind demands. -/
def SelectFits (catalog : Catalog) (arena : Arena Node) (select : Select) : Prop :=
  match select.kind with
  | .operator category => OperatorSelect catalog arena category select
  | .filter => arena.FilterSelect select
  | .reducer => arena.ReducerSelect select

/-- Handles lead to earlier nodes, and every select is as its kind demands. -/
structure WellFormed (catalog : Catalog) (arena : Arena Node) : Prop where
  descending : ∀ (handle : Handle) (node : Node), arena.resolve? handle = some node →
    ∀ below ∈ node.handles, below.id < handle.id ∧ arena.contains below = true
  selects : ∀ (handle : Handle) (select : Select),
    arena.resolve? handle = some (.select select) → SelectFits catalog arena select

variable {arena later : Arena Node} {catalog : Catalog}

/-! ## Later arenas -/

theorem Extends.contains (hx : arena.Extends later) {handle : Handle}
    (h : arena.contains handle = true) : later.contains handle = true := by
  obtain ⟨node, hnode⟩ := contains_eq_true.1 h
  exact contains_eq_true.2 ⟨node, hx.resolve? hnode⟩

theorem ArgumentFits.mono (hx : arena.Extends later) {parameter : Parameter} {handle : Handle}
    (h : arena.ArgumentFits parameter handle) : later.ArgumentFits parameter handle := by
  unfold ArgumentFits at h ⊢
  split at h
  · obtain ⟨select, hselect, hkind⟩ := h
    exact ⟨select, hx.resolve? hselect, hkind⟩
  · obtain ⟨select, hselect, hkind⟩ := h
    exact ⟨select, hx.resolve? hselect, hkind⟩
  · obtain ⟨value, hinput⟩ := h
    exact ⟨value, hx.resolve? hinput⟩

theorem SelectFits.mono (hx : arena.Extends later) {select : Select}
    (h : SelectFits catalog arena select) : SelectFits catalog later select := by
  unfold SelectFits at h ⊢
  split at h
  · obtain ⟨row, hrow, chosen, hcategory, houtput, hchosen, hoption⟩ := h.chosen
    have harguments := fun position parameter handle hparameter hhandle =>
      (hoption.arguments position parameter handle hparameter hhandle).mono hx
    exact { h with chosen := ⟨row, hrow, chosen, hcategory, houtput, hx.resolve? hchosen,
      { hoption with arguments := harguments }⟩ }
  · obtain ⟨function, operand, value, hchosen, hoperand⟩ := h.chosen
    exact { h with chosen := ⟨function, operand, value, hx.resolve? hchosen,
      hx.resolve? hoperand⟩ }
  · obtain ⟨function, hchosen⟩ := h.chosen
    exact { h with chosen := ⟨function, hx.resolve? hchosen⟩ }

/-! ## Inserting nodes -/

/-- A node that may be inserted into a well-formed arena. -/
structure Accepts (catalog : Catalog) (arena : Arena Node) (node : Node) : Prop where
  handles : ∀ below ∈ node.handles, arena.contains below = true
  select : ∀ select, node = .select select → SelectFits catalog arena select

theorem accepts_input (literal : Input) : Accepts catalog arena (.input literal) := by
  constructor
  · intro below hbelow
    cases hbelow
  · intro select h
    cases h

theorem accepts_option {chosen : Chosen}
    (h : ∀ below ∈ chosen.arguments, arena.contains below = true) :
    Accepts catalog arena (.option chosen) := by
  constructor
  · exact h
  · intro select h
    cases h

theorem accepts_select {select : Select} {chosen : Chosen}
    (hselected : arena.resolve? select.selected = some (.option chosen))
    (h : SelectFits catalog arena select) : Accepts catalog arena (.select select) := by
  constructor
  · intro below hbelow
    obtain rfl := List.mem_singleton.1 hbelow
    exact contains_eq_true.2 ⟨_, hselected⟩
  · intro other hother
    cases hother
    exact h

theorem wellFormed_empty (catalog : Catalog) (origin : UInt32) :
    WellFormed catalog (.empty origin) := by
  have hnone : ∀ handle, (Arena.empty origin : Arena Node).resolve? handle = none := by
    intro handle
    simp [resolve?_eq, empty]
  constructor
  · intro handle node h
    rw [hnone] at h
    cases h
  · intro handle select h
    rw [hnone] at h
    cases h

/-- Inserting an accepted node: its handles lead to nodes that were there before. -/
theorem WellFormed.insert (h : WellFormed catalog arena) {node : Node}
    (hnode : Accepts catalog arena node) (hroom : 0 < arena.remaining) :
    WellFormed catalog (arena.fill [node]) := by
  have hx := arena.extends_fill [node]
  constructor
  · intro handle found hfound below hbelow
    rcases resolve?_fill_singleton hroom hfound with hold | ⟨rfl, rfl⟩
    · -- an old node keeps its handles
      obtain ⟨hlt, hcontains⟩ := h.descending handle found hold below hbelow
      exact ⟨hlt, hx.contains hcontains⟩
    · -- the handles of the new node resolved before, so they lie below the frontier
      have hcontains := hnode.handles below hbelow
      obtain ⟨value, hvalue⟩ := contains_eq_true.1 hcontains
      have hspace := arena.frontier_add_remaining
      refine ⟨UInt32.lt_iff_toNat_lt.2 ?_, hx.contains hcontains⟩
      rw [Handle.toNat_ofNat (by omega)]
      exact lt_frontier_of_resolve? hvalue
  · intro handle select hselect
    rcases resolve?_fill_singleton hroom hselect with hold | ⟨-, hnew⟩
    · exact (h.selects handle select hold).mono hx
    · exact (hnode.select select hnew.symm).mono hx

/-- Nodes that may be inserted one after the other. -/
def AcceptsAll (catalog : Catalog) (arena : Arena Node) : List Node → Prop
  | [] => True
  | node :: nodes => Accepts catalog arena node ∧ AcceptsAll catalog (arena.fill [node]) nodes

theorem acceptsAll_append {xs ys : List Node} :
    AcceptsAll catalog arena (xs ++ ys) ↔
      AcceptsAll catalog arena xs ∧ AcceptsAll catalog (arena.fill xs) ys := by
  induction xs generalizing arena with
  | nil =>
    rw [fill_nil]
    exact ⟨fun h => ⟨trivial, h⟩, fun h => h.2⟩
  | cons x xs ih =>
    have hsplit : arena.fill (x :: xs) = (arena.fill [x]).fill xs := fill_append arena [x] xs
    rw [List.cons_append, AcceptsAll, AcceptsAll, ih, hsplit, and_assoc]

theorem WellFormed.fill (h : WellFormed catalog arena) {nodes : List Node}
    (hall : AcceptsAll catalog arena nodes) (hfits : nodes.length ≤ arena.remaining) :
    WellFormed catalog (arena.fill nodes) := by
  induction nodes generalizing arena with
  | nil =>
    rw [fill_nil]
    exact h
  | cons node nodes ih =>
    rw [List.length_cons] at hfits
    have hsplit : arena.fill (node :: nodes) = (arena.fill [node]).fill nodes :=
      fill_append arena [node] nodes
    rw [hsplit]
    refine ih (h.insert hall.1 (by omega)) hall.2 ?_
    rw [remaining_fill, List.length_singleton]
    omega

/-! ## Inserting layouts -/

/-- An argument that is held is there, and fits the declaration that its plan fits. -/
theorem HoldsArgument.contains {plan : ArgumentPlan} {handle : Handle}
    (h : arena.HoldsArgument plan handle) : arena.contains handle = true := by
  cases h with
  | input node => exact contains_eq_true.2 ⟨_, node⟩
  | filter select => exact contains_eq_true.2 ⟨_, select⟩
  | reducer select => exact contains_eq_true.2 ⟨_, select⟩

theorem HoldsArgument.argumentFits {plan : ArgumentPlan} {parameter : Parameter} {handle : Handle}
    (h : arena.HoldsArgument plan handle) (hfits : plan.Fits parameter) :
    arena.ArgumentFits parameter handle := by
  cases h with
  | @input literal handle node =>
    obtain ⟨hfilter, hreducer, hlabel, hkind⟩ := hfits
    unfold ArgumentFits
    split
    · next h => exact absurd h hfilter
    · next h => exact absurd h hreducer
    · refine ⟨literal.value, ?_⟩
      rw [← hlabel, ← hkind]
      exact node
  | filter select =>
    obtain ⟨hkind, rfl⟩ := hfits
    unfold ArgumentFits
    rw [hkind]
    exact ⟨_, select, rfl, rfl⟩
  | reducer select =>
    obtain ⟨hkind, rfl⟩ := hfits
    unfold ArgumentFits
    rw [hkind]
    exact ⟨_, select, rfl, rfl⟩

/-- The option of a valid plan is one of the plan's row. -/
theorem optionFits_of_forall₂ {plan : OperatorPlan} (hvalid : plan.Valid catalog)
    {arguments : List Handle}
    (h : List.Forall₂ arena.HoldsArgument plan.arguments arguments) :
    arena.OptionFits plan.row ⟨plan.row.name, plan.output, arguments⟩ where
  label := rfl
  output := hvalid.output
  arity := by
    show arguments.length ≤ plan.row.parameters.length
    rw [← h.length_eq]
    exact hvalid.arguments.length_le
  arguments := by
    intro position parameter handle hparameter hhandle
    obtain ⟨argument, hargument, hheld⟩ := forall₂_getElem? h.flip hhandle
    -- the plan has an argument at this position, so it fits the declaration there
    have hlt := (List.getElem?_eq_some_iff.1 hargument).1
    rw [← List.getElem?_take_of_lt hlt] at hparameter
    obtain ⟨_, hsame, hfits⟩ := forall₂_getElem? hvalid.arguments hparameter
    cases hargument.symm.trans hsame
    exact hheld.argumentFits hfits

/-- Layouts one behind the other are accepted when each of them is. -/
theorem acceptsAll_all {α β : Type} {lay : Nat → α → Layout β}
    (hone : ∀ (arena : Arena Node) (item : α),
      (lay arena.frontier item).nodes.length ≤ arena.remaining →
      AcceptsAll catalog arena (lay arena.frontier item).nodes) {items : List α}
    (hfits : (Layout.all lay arena.frontier items).nodes.length ≤ arena.remaining) :
    AcceptsAll catalog arena (Layout.all lay arena.frontier items).nodes := by
  induction items generalizing arena with
  | nil => trivial
  | cons item items ih =>
    rw [Layout.all, List.length_append] at hfits
    have hfirst : (lay arena.frontier item).nodes.length ≤ arena.remaining := by omega
    refine acceptsAll_append.2 ⟨hone arena item hfirst, ?_⟩
    rw [← frontier_fill_of_fits hfirst] at hfits ⊢
    exact ih (by rw [remaining_fill]; omega)

theorem acceptsAll_argument (arena : Arena Node) (plan : ArgumentPlan)
    (hfits : (plan.layout arena.frontier).nodes.length ≤ arena.remaining) :
    AcceptsAll catalog arena (plan.layout arena.frontier).nodes := by
  cases plan with
  | input literal => exact ⟨accepts_input literal, trivial⟩
  | filter label function operand =>
    have hroom : 3 ≤ arena.remaining := hfits
    let input : Node := .input ⟨operandLabel, .ofLiteral operand, operand⟩
    let option : Node := .option ⟨function.name, .one .bytes, [.ofNat arena.frontier]⟩
    have hfirst : (arena.fill [input]).HasAt arena.frontier [input] :=
      hasAt_fill (Nat.le_trans (by decide : 1 ≤ 3) hroom)
    have hboth : (arena.fill [input, option]).HasAt arena.frontier [input, option] :=
      hasAt_fill (Nat.le_trans (by decide : 2 ≤ 3) hroom)
    have hsplit : arena.fill [input, option] = (arena.fill [input]).fill [option] :=
      fill_append arena [input] [option]
    -- the option is accepted behind the operand, and the select behind both
    rw [hsplit] at hboth
    obtain ⟨hoperand, -⟩ := hfirst
    obtain ⟨hinput, hoption, -⟩ := hboth
    refine ⟨accepts_input _, accepts_option fun below hbelow => ?_, accepts_select hoption ?_,
      trivial⟩
    · obtain rfl := List.mem_singleton.1 hbelow
      exact contains_eq_true.2 ⟨_, hoperand⟩
    · exact ⟨rfl, rfl, function, _, operand, hoption, hinput⟩
  | reducer label function =>
    have hroom : 2 ≤ arena.remaining := hfits
    let option : Node := .option ⟨function.name, .one .bytes, []⟩
    have hfirst : (arena.fill [option]).HasAt arena.frontier [option] :=
      hasAt_fill (Nat.le_trans (by decide : 1 ≤ 2) hroom)
    obtain ⟨hoption, -⟩ := hfirst
    refine ⟨accepts_option nofun, accepts_select hoption ?_, trivial⟩
    exact ⟨rfl, rfl, function, hoption⟩

/-- The layout of a valid plan is accepted. -/
theorem acceptsAll_layout {plan : OperatorPlan} (hvalid : plan.Valid catalog)
    (hfits : (plan.layout catalog arena.frontier).nodes.length ≤ arena.remaining) :
    AcceptsAll catalog arena (plan.layout catalog arena.frontier).nodes := by
  have hselect : (plan.selectLayout catalog arena.frontier).nodes.length ≤ arena.remaining := by
    simp only [OperatorPlan.layout, List.length_append] at hfits
    omega
  have harguments : (plan.optionLayout arena.frontier).nodes.length ≤ arena.remaining := by
    simp only [OperatorPlan.selectLayout, List.length_append] at hselect
    omega
  refine acceptsAll_append.2 ⟨acceptsAll_append.2 ⟨acceptsAll_all acceptsAll_argument harguments,
    accepts_option fun below hbelow => ?_, trivial⟩, ?_, trivial⟩
  · -- the option comes behind its arguments
    have hheld := forall₂_of_hasAt holdsArgument_of_hasAt (hasAt_fill harguments)
    obtain ⟨argument, -, hargument⟩ := forall₂_exists_left hheld hbelow
    exact hargument.contains
  · -- the select comes behind its option
    obtain ⟨option, hbelow⟩ := holdsOption_of_hasAt _ plan (hasAt_fill hselect)
    refine accepts_select option ?_
    exact ⟨rfl, rfl, plan.row, hvalid.row, _, rfl, hvalid.output, option,
      optionFits_of_forall₂ hvalid hbelow⟩

end Arena

end ScriptTree
