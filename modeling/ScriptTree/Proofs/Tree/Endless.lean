import ScriptTree.Catalog.Standard
import ScriptTree.Proofs.Tree.Commit
import ScriptTree.Proofs.Tree.WellFormed
/-!
# Arenas without end

What committing leaves behind where the room was not checked. The steps that insert a script do not
depend on what they insert into, so they also run on an arena whose numbers do not end. Its nodes
refer to each other by natural numbers, and the arena that fills up has a first part of them.

Main statement: `Catalog.commit_into_full_arena`.
-/

namespace ScriptTree

/-! ## Shapes -/

/-- A node that refers to others by values of type `ι`. -/
inductive Shape (ι : Type) where
  | select (kind : SelectKind) (label : Option String) (output : Output) (selected : ι)
    (options : List Choice)
  | option (label : String) (output : Output) (arguments : List ι)
  | input (literal : Input)
deriving DecidableEq

/-- What a node refers to. -/
def Shape.references {ι : Type} : Shape ι → List ι
  | .select _ _ _ selected _ => [selected]
  | .option _ _ arguments => arguments
  | .input _ => []

/-- The node with its references replaced. -/
def Shape.map {ι κ : Type} (f : ι → κ) : Shape ι → Shape κ
  | .select kind label output selected options => .select kind label output (f selected) options
  | .option label output arguments => .option label output (arguments.map f)
  | .input literal => .input literal

/-- The node that refers to others by handles. -/
def Shape.node : Shape Handle → Node
  | .select kind label output selected options => .select ⟨kind, label, output, selected, options⟩
  | .option label output arguments => .option ⟨label, output, arguments⟩
  | .input literal => .input literal

/-- A node with numbers in the place of handles. -/
def Node.numbered : Node → Shape Nat
  | .select choice =>
    .select choice.kind choice.label choice.output choice.selected.id.toNat choice.options
  | .option chosen =>
    .option chosen.label chosen.output (chosen.arguments.map fun handle => handle.id.toNat)
  | .input literal => .input literal

/-- A node with handles in the place of numbers; numbers past the number space start over. -/
def Shape.copy (shape : Shape Nat) : Node :=
  (shape.map .ofNat).node

theorem Shape.handles_copy (shape : Shape Nat) :
    shape.copy.handles = shape.references.map .ofNat := by
  cases shape <;> rfl

/-- All references of a shape lie from `base` on and below `bound`. -/
def Shape.Within (shape : Shape Nat) (base bound : Nat) : Prop :=
  ∀ n ∈ shape.references, base ≤ n ∧ n < bound

/-- Within the number space, numbers are found again in the handles made of them. -/
theorem Shape.Within.numbered_copy {shape : Shape Nat} {base : Nat}
    (h : shape.Within base UInt32.size) : shape.copy.numbered = shape := by
  have hn : ∀ n ∈ shape.references, (Handle.ofNat n).id.toNat = n :=
    fun n hn => Handle.toNat_ofNat (h n hn).2
  cases shape with
  | select kind label output selected options =>
    simp only [copy, map, node, Node.numbered, hn selected (List.mem_singleton_self _)]
  | option label output arguments =>
    simp only [copy, map, node, Node.numbered, List.map_map]
    exact congrArg (Shape.option label output)
      ((List.map_congr_left hn).trans (List.map_id arguments))
  | input literal => rfl

/-! ## Committing anywhere -/

section Anywhere

variable {m : Type → Type} [Monad m] {ι : Type} (put : Shape ι → m ι)

/-- Puts in the nodes of an argument. -/
def commitArgumentWith : ArgumentPlan → m ι
  | .input literal => put (.input literal)
  | .filter label function operand => do
    let operand ← put (.input ⟨operandLabel, .ofLiteral operand, operand⟩)
    let selected ← put (.option function.name (.one .bytes) [operand])
    put (.select .filter (some label) (.one .bytes) selected Filter.options)
  | .reducer label function => do
    let selected ← put (.option function.name (.one .bytes) [])
    put (.select .reducer (some label) (.one .integer) selected Reducer.options)

/-- Puts in the arguments of an operator, and gives its chosen option. -/
def commitOptionWith (plan : OperatorPlan) : m (Shape ι) := do
  let arguments ← plan.arguments.mapM (commitArgumentWith put)
  return .option plan.row.name plan.output arguments

namespace Catalog

variable (catalog : Catalog)

/-- Puts in the chosen option of an operator, and gives its select. -/
def commitOperatorWith (plan : OperatorPlan) : m (Shape ι) := do
  let chosen ← commitOptionWith put plan
  let selected ← put chosen
  return .select (.operator plan.row.category) none plan.output selected
    (catalog.options plan.row.category)

/-- Puts in an operator with its select. -/
def commitSelectWith (plan : OperatorPlan) : m ι := do
  let select ← catalog.commitOperatorWith put plan
  put select

/-- Puts in the operators of a script in order. -/
def commitScriptWith (plans : List OperatorPlan) : m (List ι) :=
  plans.mapM (catalog.commitSelectWith put)

end Catalog

end Anywhere

/-- Committing to an arena is committing with its insertion. -/
theorem Catalog.commitScript_eq_with (catalog : Catalog) (plans : List OperatorPlan) :
    catalog.commitScript plans =
      catalog.commitScriptWith (fun shape => Building.insert shape.node) plans := by
  have hargument : commitArgument = commitArgumentWith fun shape => Building.insert shape.node := by
    funext plan
    cases plan <;> rfl
  have hselect :
      catalog.commitSelect = catalog.commitSelectWith fun shape => Building.insert shape.node := by
    funext plan
    simp only [commitSelect, commitOperator, commitOption, commitSelectWith, commitOperatorWith,
      commitOptionWith, hargument, bind_assoc, pure_bind, Shape.node]
  rw [commitScript, hselect]
  rfl

/-! ## Numbers without end -/

/-- An arena whose numbers do not end: the next number, and what was put in, in order. -/
structure Endless where
  next : Nat
  shapes : List (Shape Nat)

/-- Puts in a node under the next number. -/
def Endless.insert (shape : Shape Nat) : StateM Endless Nat :=
  fun arena => (arena.next, ⟨arena.next + 1, arena.shapes ++ [shape]⟩)

/-- What committing a script puts in where the next number is `next` and numbers do not end. -/
def Catalog.endlessScript (catalog : Catalog) (next : Nat) (plans : List OperatorPlan) :
    List (Shape Nat) :=
  ((catalog.commitScriptWith Endless.insert plans).run ⟨next, []⟩).2.shapes

/-! ## Runs without end -/

/-- Nodes that are put in from the number `next` on, each of which refers only to numbers before
its own, and to none below `base`. -/
def Backward (base next : Nat) (shapes : List (Shape Nat)) : Prop :=
  ∀ (k : Nat) (shape : Shape Nat), shapes[k]? = some shape → shape.Within base (next + k)

theorem Backward.nil {base next : Nat} : Backward base next [] := by
  intro k shape hshape
  cases hshape

theorem Backward.singleton {base next : Nat} {shape : Shape Nat} (h : shape.Within base next) :
    Backward base next [shape] := by
  intro k other hother
  cases k with
  | zero =>
    cases hother
    exact h
  | succ k => cases hother

theorem Backward.append {base next : Nat} {shapes more : List (Shape Nat)}
    (h : Backward base next shapes) (hmore : Backward base (next + shapes.length) more) :
    Backward base next (shapes ++ more) := by
  intro k shape hshape
  rw [List.getElem?_append] at hshape
  split at hshape
  · exact h k shape hshape
  · next hlt =>
    have hwithin := hmore (k - shapes.length) shape hshape
    rwa [Nat.add_assoc, Nat.add_sub_cancel' (Nat.le_of_not_lt hlt)] at hwithin

theorem Backward.within_of_mem_take {base next : Nat} {shapes : List (Shape Nat)}
    (h : Backward base next shapes) (count : Nat) :
    ∀ shape ∈ shapes.take count, shape.Within base (next + count) := by
  intro shape hshape n hn
  obtain ⟨k, hk⟩ := List.mem_iff_getElem?.1 hshape
  rw [List.getElem?_take, Option.ite_none_right_eq_some] at hk
  obtain ⟨hbase, hbound⟩ := h k shape hk.2 n hn
  exact ⟨hbase, by omega⟩

/-- From the number `next` on, the steps put in shapes of the nodes of the layout, which refer
backward. What they give is related by `R` to what the layout gives, where `R` also gets the number
that is the next one then. -/
def Endless.Draws {α β : Type} (steps : StateM Endless β) (base next : Nat)
    (R : Nat → β → α → Prop) (layout : Layout α) : Prop :=
  ∃ (shapes : List (Shape Nat)) (value : β),
    (∀ before, steps.run ⟨next, before⟩ = (value, ⟨next + shapes.length, before ++ shapes⟩)) ∧
    shapes.map Shape.copy = layout.nodes ∧ Backward base next shapes ∧
    R (next + shapes.length) value layout.value

/-- The numbers of handles that were given from `base` on and before `bound`. -/
structure Refer (base bound : Nat) (numbers : List Nat) (handles : List Handle) : Prop where
  within : ∀ n ∈ numbers, base ≤ n ∧ n < bound
  copied : numbers.map .ofNat = handles

theorem Refer.nil {base bound : Nat} : Refer base bound [] [] :=
  ⟨nofun, rfl⟩

theorem Refer.mono {base bound bound' : Nat} {numbers : List Nat} {handles : List Handle}
    (h : Refer base bound numbers handles) (hle : bound ≤ bound') :
    Refer base bound' numbers handles :=
  ⟨fun n hn => ⟨(h.within n hn).1, Nat.lt_of_lt_of_le (h.within n hn).2 hle⟩, h.copied⟩

theorem Refer.append {base bound : Nat} {ns ms : List Nat} {handles others : List Handle}
    (h : Refer base bound ns handles) (h' : Refer base bound ms others) :
    Refer base bound (ns ++ ms) (handles ++ others) := by
  refine ⟨List.forall_mem_append.2 ⟨h.within, h'.within⟩, ?_⟩
  rw [List.map_append, h.copied, h'.copied]

/-- The number of one handle. -/
def Refers (base bound n : Nat) (handle : Handle) : Prop :=
  Refer base bound [n] [handle]

/-- The shape of a node whose references were given from `base` on and before `bound`. -/
def Copies (base bound : Nat) (shape : Shape Nat) (node : Node) : Prop :=
  shape.Within base bound ∧ shape.copy = node

namespace Endless.Draws

variable {α α' β β' : Type} {base next : Nat} {R : Nat → β → α → Prop} {S : Nat → β' → α' → Prop}

theorem pure {value : β} {result : α} (h : R next value result) :
    Draws (Pure.pure value) base next R ⟨[], result⟩ :=
  ⟨[], value, fun before => by rw [List.append_nil]; rfl, rfl, .nil, h⟩

theorem insert {shape : Shape Nat} {node : Node} (hbase : base ≤ next)
    (h : Copies base next shape node) :
    Draws (Endless.insert shape) base next (Refers base) ⟨[node], .ofNat next⟩ := by
  obtain ⟨hwithin, rfl⟩ := h
  exact ⟨[shape], next, fun _ => rfl, rfl, .singleton hwithin,
    List.forall_mem_singleton.2 ⟨hbase, Nat.lt_succ_self next⟩, rfl⟩

/-- Of steps in sequence, the second put in their nodes behind the first. -/
theorem bind {steps : StateM Endless β} {rest : β → StateM Endless β'} {xs ys : List Node} {a : α}
    {b : α'} (h : Draws steps base next R ⟨xs, a⟩)
    (hrest : ∀ value, R (next + xs.length) value a →
      Draws (rest value) base (next + xs.length) S ⟨ys, b⟩) :
    Draws (steps >>= rest) base next S ⟨xs ++ ys, b⟩ := by
  obtain ⟨shapes, value, hrun, rfl, hshapes, hvalue⟩ := h
  rw [List.length_map] at hrest
  obtain ⟨more, result, hmore, rfl, hbackward, hresult⟩ := hrest value hvalue
  refine ⟨shapes ++ more, result, fun before => ?_, List.map_append, hshapes.append hbackward, ?_⟩
  · rw [StateT.run_bind, hrun]
    show (rest value).run _ = _
    rw [hmore, List.append_assoc, List.length_append, Nat.add_assoc]
  · rw [List.length_append, ← Nat.add_assoc]
    exact hresult

/-- What steps give may still be wrapped. -/
theorem bind_pure {steps : StateM Endless β} {f : β → β'} {xs : List Node} {a : α} {b : α'}
    (h : Draws steps base next R ⟨xs, a⟩)
    (hf : ∀ value, R (next + xs.length) value a → S (next + xs.length) (f value) b) :
    Draws (steps >>= fun value => Pure.pure (f value)) base next S ⟨xs, b⟩ := by
  have hwrapped : Draws (steps >>= fun value => Pure.pure (f value)) base next S ⟨xs ++ [], b⟩ :=
    h.bind fun value hvalue => pure (hf value hvalue)
  rwa [List.append_nil] at hwrapped

theorem mapM {steps : α' → StateM Endless Nat} {lay : Nat → α' → Layout Handle}
    (h : ∀ next item, base ≤ next → Draws (steps item) base next (Refers base) (lay next item))
    (hbase : base ≤ next) (items : List α') :
    Draws (items.mapM steps) base next (Refer base) (Layout.all lay next items) := by
  induction items generalizing next with
  | nil => exact pure .nil
  | cons item items ih =>
    rw [List.mapM_cons]
    refine bind (h next item hbase) fun n hn => ?_
    refine bind_pure (ih (Nat.le_trans hbase (Nat.le_add_right ..))) fun numbers hnumbers => ?_
    exact (hn.mono (Nat.le_add_right ..)).append hnumbers

end Endless.Draws

open Endless (Draws)

variable {base next : Nat}

theorem copies_input (literal : Input) : Copies base next (.input literal) (.input literal) :=
  ⟨nofun, rfl⟩

theorem copies_option {label : String} {output : Output} {numbers : List Nat}
    {arguments : List Handle} (h : Refer base next numbers arguments) :
    Copies base next (.option label output numbers) (.option ⟨label, output, arguments⟩) := by
  obtain ⟨hwithin, rfl⟩ := h
  exact ⟨hwithin, rfl⟩

theorem copies_select {kind : SelectKind} {label : Option String} {output : Output} {n : Nat}
    {selected : Handle} {options : List Choice} (h : Refers base next n selected) :
    Copies base next (.select kind label output n options)
      (.select ⟨kind, label, output, selected, options⟩) := by
  obtain ⟨hwithin, hcopied⟩ := h
  cases hcopied
  exact ⟨hwithin, rfl⟩

theorem commitArgumentWith_draws (hbase : base ≤ next) (plan : ArgumentPlan) :
    Draws (commitArgumentWith Endless.insert plan) base next (Refers base) (plan.layout next) := by
  cases plan with
  | input literal => exact .insert hbase (copies_input literal)
  | filter label function operand =>
    exact Draws.bind (.insert hbase (copies_input _)) fun _ hoperand =>
      Draws.bind (.insert (Nat.le_succ_of_le hbase) (copies_option hoperand)) fun _ hselected =>
        .insert (Nat.le_add_right_of_le (Nat.le_succ_of_le hbase)) (copies_select hselected)
  | reducer label function =>
    exact Draws.bind (.insert hbase (copies_option .nil)) fun _ hselected =>
      .insert (Nat.le_succ_of_le hbase) (copies_select hselected)

theorem commitOptionWith_draws (hbase : base ≤ next) (plan : OperatorPlan) :
    Draws (commitOptionWith Endless.insert plan) base next
      (fun bound shape chosen => Copies base bound shape (.option chosen))
      (plan.optionLayout next) :=
  Draws.bind_pure (Draws.mapM (fun _ item h => commitArgumentWith_draws h item) hbase plan.arguments)
    fun _ harguments => copies_option harguments

namespace Catalog

variable (catalog : Catalog)

theorem commitOperatorWith_draws (hbase : base ≤ next) (plan : OperatorPlan) :
    Draws (catalog.commitOperatorWith Endless.insert plan) base next
      (fun bound shape select => Copies base bound shape (.select select))
      (plan.selectLayout catalog next) :=
  Draws.bind (commitOptionWith_draws hbase plan) fun _ hchosen =>
    Draws.bind_pure (.insert (Nat.le_add_right_of_le hbase) hchosen) fun _ hselected =>
      copies_select hselected

theorem commitSelectWith_draws (hbase : base ≤ next) (plan : OperatorPlan) :
    Draws (catalog.commitSelectWith Endless.insert plan) base next (Refers base)
      (plan.layout catalog next) :=
  Draws.bind (catalog.commitOperatorWith_draws hbase plan) fun _ hselect =>
    .insert (Nat.le_add_right_of_le hbase) hselect

theorem commitScriptWith_draws (hbase : base ≤ next) (plans : List OperatorPlan) :
    Draws (catalog.commitScriptWith Endless.insert plans) base next (Refer base)
      (catalog.scriptLayout next plans) :=
  Draws.mapM (fun _ plan h => catalog.commitSelectWith_draws h plan) hbase plans

/-- What a script puts in without end is what its layout copies, and refers backward. -/
theorem endlessScript_spec (next : Nat) (plans : List OperatorPlan) :
    (catalog.endlessScript next plans).map Shape.copy = (catalog.scriptLayout next plans).nodes ∧
      Backward next next (catalog.endlessScript next plans) := by
  obtain ⟨shapes, value, hrun, hnodes, hbackward, -⟩ :=
    catalog.commitScriptWith_draws (Nat.le_refl next) plans
  have hshapes : catalog.endlessScript next plans = shapes := by rw [endlessScript, hrun]; rfl
  rw [hshapes]
  exact ⟨hnodes, hbackward⟩

/-! ## Full arenas -/

/-- Committing a script that has no room fills the arena up, and fails for want of one handle. -/
theorem run_commitScript_of_full {plans : List OperatorPlan} {arena : Arena Node}
    (hroom : arena.remaining < scriptNodes plans) :
    (catalog.commitScript plans).run.run arena =
        (.error (.outOfRange (.arenaFull arena.origin 0 1)),
          arena.fill (catalog.scriptLayout arena.frontier plans).nodes) ∧
      (arena.fill (catalog.scriptLayout arena.frontier plans).nodes).remaining = 0 := by
  have hlength := catalog.length_scriptLayout arena.frontier plans
  have hfull : (arena.fill (catalog.scriptLayout arena.frontier plans).nodes).remaining = 0 := by
    rw [Arena.remaining_fill, hlength]
    omega
  have hlays := catalog.commitScript_lays arena plans
  rw [Building.Lays, hlength, if_neg (by omega), Arena.full, hfull] at hlays
  exact ⟨hlays, hfull⟩

/-- Committing is one program, whatever its nodes go into. Into an arena that has no room for a
script it fails for want of one more handle, and leaves the nodes that were there and, behind them,
as many as had room of those that the same program puts in where numbers do not end. No handle is
left, and none in the new nodes leads nowhere. -/
theorem commit_into_full_arena (plans : List OperatorPlan) (arena : Arena Node)
    (hroom : arena.remaining < scriptNodes plans) :
    catalog.commitScript plans =
      catalog.commitScriptWith (fun shape => Building.insert shape.node) plans ∧
    ∃ (after : Arena Node) (added : List Node),
      (catalog.commitScript plans).run.run arena =
        (.error (.outOfRange (.arenaFull arena.origin 0 1)), after) ∧
      after.origin = arena.origin ∧ after.nodes.toList = arena.nodes.toList ++ added ∧
      added.map Node.numbered =
        (catalog.endlessScript arena.frontier plans).take arena.remaining ∧
      after.remaining = 0 ∧
      ∀ node ∈ added, ∀ handle ∈ node.handles, after.contains handle = true := by
  obtain ⟨hrun, hfull⟩ := catalog.run_commitScript_of_full hroom
  obtain ⟨hnodes, hbackward⟩ := catalog.endlessScript_spec arena.frontier plans
  rw [← hnodes] at hrun hfull
  -- a shape for which there is room refers to numbers before the end of the number space
  have hwithin := hbackward.within_of_mem_take arena.remaining
  rw [arena.frontier_add_remaining] at hwithin
  refine ⟨catalog.commitScript_eq_with plans, _,
    ((catalog.endlessScript arena.frontier plans).map Shape.copy).take arena.remaining, hrun, rfl, Arena.toList_fill .., ?_, hfull, ?_⟩
  · rw [← List.map_take, List.map_map]
    exact (List.map_congr_left fun shape hshape => (hwithin shape hshape).numbered_copy).trans
      (List.map_id _)
  · intro node hnode handle hhandle
    rw [← List.map_take] at hnode
    obtain ⟨shape, hshape, rfl⟩ := List.mem_map.1 hnode
    rw [Shape.handles_copy] at hhandle
    obtain ⟨n, hn, rfl⟩ := List.mem_map.1 hhandle
    obtain ⟨hbase, hbound⟩ := hwithin shape hshape n hn
    have hspace := (arena.fill
      ((catalog.endlessScript arena.frontier plans).map Shape.copy)).frontier_add_remaining
    rw [Arena.contains_ofNat hbound]
    exact ⟨Nat.le_trans arena.origin_le_frontier hbase, by omega⟩

/-- Two handles are left for a filter of five nodes: its operand and the option over that go in,
and the select that would be next does not. -/
theorem commit_into_full_arena_insideFilter :
    let row := standardRow 0x11 .array "filter" [.array] [required "function" .filter]
    let plan : OperatorPlan := ⟨row, .one .array, [.filter "function" .greaterThan (.string "x")]⟩
    let before : Node := .input ⟨"", .string, .null⟩
    let arena := (Arena.empty 0xfffffffd).fill [before]
    ∃ (after : Arena Node) (added : List Node),
      (Catalog.standard.commitScript [plan]).run.run arena =
        (.error (.outOfRange (.arenaFull 0xfffffffd 0 1)), after) ∧
      after.nodes.toList = before :: added ∧
      added.map Node.numbered = [.input ⟨"by", .string, .string "x"⟩,
        .option "greaterThan" (.one .bytes) [0xfffffffe]] ∧
      ∀ node ∈ added, ∀ handle ∈ node.handles, after.contains handle = true := by
  intro row plan before arena
  have hroom : arena.remaining < scriptNodes [plan] := by decide +kernel
  have hprefix : (Catalog.standard.endlessScript arena.frontier [plan]).take arena.remaining =
      [.input ⟨"by", .string, .string "x"⟩, .option "greaterThan" (.one .bytes) [0xfffffffe]] := by
    decide +kernel
  obtain ⟨-, after, added, hrun, -, hlist, hadded, -, hcontains⟩ :=
    commit_into_full_arena Catalog.standard [plan] arena hroom
  exact ⟨after, added, hrun, hlist, hadded.trans hprefix, hcontains⟩

end Catalog

end ScriptTree
