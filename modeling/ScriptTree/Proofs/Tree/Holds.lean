import ScriptTree.Proofs.Document.Pairs
import ScriptTree.Proofs.Tree.Layout
import ScriptTree.Proofs.Tree.Planned
import ScriptTree.Tree.Lower
/-!
# Trees in an arena

An arena holds a plan under a handle when the tree below that handle is the plan's. What an arena
holds, every later arena holds as well, and laying a plan makes the arena hold it.

Main statements: a node of an expected kind is found exactly where there is one
(`Arena.resolveAs_eq_ok`), an arena that has the nodes of a layout holds its plans
(`Arena.holds_of_hasAt` and the like), and lowering a handle under which a valid plan is held gives
the operator that the plan stands for (`Arena.Holds.lowerOperator`).
-/

namespace ScriptTree

/-! ## Nodes of a known kind -/

namespace Node

/-- What `part?` takes are the nodes of one kind, and `node` makes them. -/
structure Takes {α : Type} (kind : NodeKind) (part? : Node → Option α) (node : α → Node) :
    Prop where
  eq_some_iff : ∀ {found part}, part? found = some part ↔ found = node part
  kind_ne : ∀ {found}, part? found = none → found.kind ≠ kind

theorem takes_select : Takes .select select? .select where
  eq_some_iff {found _} := by cases found <;> simp [select?]
  kind_ne {found} h := by cases found <;> simp_all [select?, Node.kind]

theorem takes_option : Takes .option option? .option where
  eq_some_iff {found _} := by cases found <;> simp [option?]
  kind_ne {found} h := by cases found <;> simp_all [option?, Node.kind]

theorem takes_input : Takes .input input? .input where
  eq_some_iff {found _} := by cases found <;> simp [input?]
  kind_ne {found} h := by cases found <;> simp_all [input?, Node.kind]

end Node

namespace Arena

variable {arena later : Arena Node} {catalog : Catalog}

/-- A node of the expected kind is found exactly where there is one. -/
theorem resolveAs_eq_ok {α : Type} {kind : NodeKind} {part? : Node → Option α} {node : α → Node}
    (htakes : Node.Takes kind part? node) {handle : Handle} {part : α} :
    arena.resolveAs kind part? handle = .ok part ↔ arena.resolve? handle = some (node part) := by
  rw [resolveAs, bind_eq_ok]
  simp only [resolve_eq_ok]
  constructor
  · rintro ⟨found, hfound, h⟩
    cases htaken : part? found with
    | none =>
      rw [htaken] at h
      cases h
    | some taken =>
      rw [htaken] at h
      cases h
      rw [hfound, htakes.eq_some_iff.1 htaken]
  · intro hnode
    refine ⟨_, hnode, ?_⟩
    rw [htakes.eq_some_iff.2 rfl]
    rfl

theorem resolveSelect_eq_ok {handle : Handle} {select : Select} :
    arena.resolveSelect handle = .ok select ↔ arena.resolve? handle = some (.select select) :=
  resolveAs_eq_ok Node.takes_select

theorem resolveOption_eq_ok {handle : Handle} {chosen : Chosen} :
    arena.resolveOption handle = .ok chosen ↔ arena.resolve? handle = some (.option chosen) :=
  resolveAs_eq_ok Node.takes_option

theorem resolveInput_eq_ok {handle : Handle} {input : Input} :
    arena.resolveInput handle = .ok input ↔ arena.resolve? handle = some (.input input) :=
  resolveAs_eq_ok Node.takes_input

/-! ## Trees of plans -/

/-- The tree of a planned argument lies under a handle. -/
inductive HoldsArgument (arena : Arena Node) : ArgumentPlan → Handle → Prop
  | input {literal : Input} {handle : Handle}
      (node : arena.resolve? handle = some (.input literal)) :
      HoldsArgument arena (.input literal) handle
  | filter {label : String} {function : Filter} {operand : Json} {handle selected inner : Handle}
      (select : arena.resolve? handle =
        some (.select ⟨.filter, some label, .one .bytes, selected, Filter.options⟩))
      (option : arena.resolve? selected = some (.option ⟨function.name, .one .bytes, [inner]⟩))
      (input : arena.resolve? inner = some (.input ⟨operandLabel, .ofLiteral operand, operand⟩)) :
      HoldsArgument arena (.filter label function operand) handle
  | reducer {label : String} {function : Reducer} {handle selected : Handle}
      (select : arena.resolve? handle =
        some (.select ⟨.reducer, some label, .one .integer, selected, Reducer.options⟩))
      (option : arena.resolve? selected = some (.option ⟨function.name, .one .bytes, []⟩)) :
      HoldsArgument arena (.reducer label function) handle

/-- The chosen option of a planned operator lies under a handle, with its arguments below. -/
inductive HoldsOption (arena : Arena Node) (plan : OperatorPlan) (handle : Handle) : Prop
  | intro {arguments : List Handle}
      (option : arena.resolve? handle = some (.option ⟨plan.row.name, plan.output, arguments⟩))
      (below : List.Forall₂ arena.HoldsArgument plan.arguments arguments)

/-- The tree of a planned operator lies under a handle. -/
inductive Holds (catalog : Catalog) (arena : Arena Node) (plan : OperatorPlan) (handle : Handle) :
    Prop
  | intro {selected : Handle}
      (select : arena.resolve? handle =
        some (.select ⟨.operator plan.row.category, none, plan.output, selected,
          catalog.options plan.row.category⟩))
      (option : arena.HoldsOption plan selected)

/-! ## Later arenas -/

theorem HoldsArgument.mono (hx : arena.Extends later) {plan : ArgumentPlan} {handle : Handle}
    (h : arena.HoldsArgument plan handle) : later.HoldsArgument plan handle := by
  cases h with
  | input node => exact .input (hx.resolve? node)
  | filter select option input =>
    exact .filter (hx.resolve? select) (hx.resolve? option) (hx.resolve? input)
  | reducer select option => exact .reducer (hx.resolve? select) (hx.resolve? option)

theorem HoldsOption.mono (hx : arena.Extends later) {plan : OperatorPlan} {handle : Handle}
    (h : arena.HoldsOption plan handle) : later.HoldsOption plan handle := by
  obtain ⟨option, below⟩ := h
  exact ⟨hx.resolve? option, below.imp fun _ _ hargument => hargument.mono hx⟩

theorem Holds.mono (hx : arena.Extends later) {plan : OperatorPlan} {handle : Handle}
    (h : Holds catalog arena plan handle) : Holds catalog later plan handle := by
  obtain ⟨select, option⟩ := h
  exact ⟨hx.resolve? select, option.mono hx⟩

/-! ## Layouts -/

/-- Items whose layouts an arena has one behind the other are held one by one. -/
theorem forall₂_of_hasAt {α β : Type} {lay : Nat → α → Layout β} {R : α → β → Prop}
    (h : ∀ next item, arena.HasAt next (lay next item).nodes → R item (lay next item).value)
    {next : Nat} {items : List α} (hhas : arena.HasAt next (Layout.all lay next items).nodes) :
    List.Forall₂ R items (Layout.all lay next items).value := by
  induction items generalizing next with
  | nil => exact .nil
  | cons item items ih =>
    obtain ⟨hfirst, hrest⟩ := hasAt_append.1 hhas
    exact .cons (h next item hfirst) (ih hrest)

theorem holdsArgument_of_hasAt (next : Nat) (plan : ArgumentPlan)
    (h : arena.HasAt next (plan.layout next).nodes) :
    arena.HoldsArgument plan (plan.layout next).value := by
  cases plan with
  | input literal => exact .input h.1
  | filter label function operand =>
    obtain ⟨input, option, select, -⟩ := h
    exact .filter select option input
  | reducer label function =>
    obtain ⟨option, select, -⟩ := h
    exact .reducer select option

theorem holdsOption_of_hasAt (next : Nat) (plan : OperatorPlan)
    (h : arena.HasAt next (plan.selectLayout catalog next).nodes) :
    arena.HoldsOption plan (plan.selectLayout catalog next).value.selected := by
  obtain ⟨harguments, option, -⟩ := hasAt_append.1 h
  exact ⟨option, forall₂_of_hasAt holdsArgument_of_hasAt harguments⟩

theorem holds_of_hasAt (next : Nat) (plan : OperatorPlan)
    (h : arena.HasAt next (plan.layout catalog next).nodes) :
    Holds catalog arena plan (plan.layout catalog next).value := by
  obtain ⟨hbelow, select, -⟩ := hasAt_append.1 h
  exact ⟨select, holdsOption_of_hasAt next plan hbelow⟩

/-- The trees of the operators of a script lie under its handles. -/
def HoldsScript (catalog : Catalog) (arena : Arena Node) (plans : List OperatorPlan)
    (script : List Handle) : Prop :=
  List.Forall₂ (Holds catalog arena) plans script

theorem holdsScript_of_hasAt (next : Nat) (plans : List OperatorPlan)
    (h : arena.HasAt next (catalog.scriptLayout next plans).nodes) :
    HoldsScript catalog arena plans (catalog.scriptLayout next plans).value :=
  forall₂_of_hasAt holds_of_hasAt h

theorem holdsDocument_of_hasAt (next : Nat) (document : Document (List OperatorPlan))
    (h : arena.HasAt next (catalog.documentLayout next document).nodes) :
    document.Pairs (HoldsScript catalog arena) (catalog.documentLayout next document).value := by
  obtain ⟨hretrieve, hrest⟩ := hasAt_append.1 h
  obtain ⟨haggregate, htally⟩ := hasAt_append.1 hrest
  refine ⟨rfl, rfl, rfl, ?_, holdsScript_of_hasAt _ _ haggregate, holdsScript_of_hasAt _ _ htally⟩
  exact forall₂_of_hasAt (fun next source hsource =>
    ⟨rfl, holdsScript_of_hasAt next source.script hsource⟩) hretrieve

/-! ## Lowering -/

theorem HoldsArgument.lowerArgument {plan : ArgumentPlan} {handle : Handle}
    (h : arena.HoldsArgument plan handle) : arena.lowerArgument handle = .ok plan.raw := by
  cases h with
  | input node => exact bind_eq_ok.2 ⟨_, resolve_eq_ok.2 node, rfl⟩
  | @filter label function operand _ selected inner select option input =>
    refine bind_eq_ok.2 ⟨_, resolve_eq_ok.2 select, ?_⟩
    refine bind_eq_ok.2 ⟨_, resolveOption_eq_ok.2 option, ?_⟩
    simp only [Filter.ofName?_name]
    exact bind_eq_ok.2 ⟨_, resolveInput_eq_ok.2 input, rfl⟩
  | @reducer label function _ selected select option =>
    refine bind_eq_ok.2 ⟨_, resolve_eq_ok.2 select, ?_⟩
    refine bind_eq_ok.2 ⟨_, resolveOption_eq_ok.2 option, ?_⟩
    simp only [Reducer.ofName?_name]
    rfl

/-- Handles under which planned arguments are held lower to their raw values. -/
theorem lowerArguments_of_holds {plans : List ArgumentPlan} {handles : List Handle}
    (h : List.Forall₂ arena.HoldsArgument plans handles) :
    handles.mapM arena.lowerArgument = .ok (plans.map ArgumentPlan.raw) :=
  ScriptTree.mapM_eq_ok_iff.2 (List.forall₂_map_right_iff.2
    (h.imp fun _ _ hargument => hargument.lowerArgument).flip)

theorem Holds.lowerOperator {plan : OperatorPlan} {handle : Handle} (hvalid : plan.Valid catalog)
    (h : Holds catalog arena plan handle) :
    arena.lowerOperator catalog handle = .ok plan.operator := by
  obtain ⟨select, option, below⟩ := h
  refine bind_eq_ok.2 ⟨_, resolveSelect_eq_ok.2 select, ?_⟩
  refine bind_eq_ok.2 ⟨_, resolveOption_eq_ok.2 option, ?_⟩
  simp only [Catalog.codeFor?_of_mem hvalid.row]
  exact bind_eq_ok.2 ⟨_, lowerArguments_of_holds below, rfl⟩

end Arena

end ScriptTree
