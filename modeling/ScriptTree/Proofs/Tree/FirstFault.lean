import ScriptTree.Proofs.Steps
import ScriptTree.Proofs.Tree.Walks
/-!
# Views of broken trees

Showing a tree walks through it depth first, the arguments of an option from left to right, and ends
at the first handle that leads to no node or to a node of the wrong kind. Paths in their
lexicographic order are the order of this walk: a path comes before those that continue it, and
these before the ones that turn right. So the fault of a view is that of the least path to a faulty
handle, and there is a view exactly if no path leads to one.

Main statements: `Arena.tells_viewOption`, and `Arena.views_end_at_first_fault`.
-/

namespace ScriptTree

/-- Every kind of node. -/
def NodeKind.all : List NodeKind :=
  [.select, .option, .input]

namespace Arena

variable {arena : Arena Node} {handle : Handle} {expected : List NodeKind} {α β : Type}

/-! ## Faulty handles -/

/-- What is wrong with a handle where nodes of some kinds are expected. -/
def faultAt (arena : Arena Node) (expected : List NodeKind) (handle : Handle) : Option Fault :=
  match arena.resolve? handle with
  | none => some (.danglingHandle handle)
  | some node => if node.kind ∈ expected then none else some (unexpected handle expected node)

/-- What is wrong with the handle at the end of a path. -/
def faultOn (arena : Arena Node) (expected : List NodeKind) (root : Handle) (path : List Nat) :
    Option Fault :=
  (arena.place? expected root path).bind fun place => arena.faultAt place.1 place.2

/-- Every handle that a walk meets leads to a node of an expected kind. -/
def Sound (arena : Arena Node) (expected : List NodeKind) (root : Handle) : Prop :=
  ∀ path kinds handle, arena.place? expected root path = some (kinds, handle) →
    ∃ node, arena.resolve? handle = some node ∧ node.kind ∈ kinds

/-- The fault of the first faulty handle that a walk meets, depth first and from left to right. -/
def FirstFault (arena : Arena Node) (expected : List NodeKind) (root : Handle) (fault : Fault) :
    Prop :=
  ∃ path, arena.faultOn expected root path = some fault ∧
    ∀ earlier < path, arena.faultOn expected root earlier = none

theorem faultAt_eq_none :
    arena.faultAt expected handle = none ↔
      ∃ node, arena.resolve? handle = some node ∧ node.kind ∈ expected := by
  unfold faultAt
  cases arena.resolve? handle <;> simp

theorem sound_iff :
    arena.Sound expected handle ↔ ∀ path, arena.faultOn expected handle path = none := by
  simp only [Sound, faultOn, Option.bind_eq_none_iff, Prod.forall, faultAt_eq_none]

@[simp] theorem faultOn_nil : arena.faultOn expected handle [] = arena.faultAt expected handle :=
  rfl

theorem faultOn_cons {node : Node} (h : arena.resolve? handle = some node) (step : Nat)
    (path : List Nat) : arena.faultOn expected handle (step :: path) =
      node.handles[step]?.bind fun child => arena.faultOn node.expects child path := by
  rw [faultOn, place?_cons h, Option.bind_assoc]
  rfl

/-! ## Results that tell the first fault -/

/-- A result tells the first of the faults that stand on paths, or succeeds where there are none. -/
def Tells (result : Except Fault α) (faults : List Nat → Option Fault) : Prop :=
  match result with
  | .ok _ => ∀ path, faults path = none
  | .error fault => ∃ path, faults path = some fault ∧ ∀ earlier < path, faults earlier = none

namespace Tells

variable {result : Except Fault α} {faults : List Nat → Option Fault} {fault : Fault}

theorem of_nil (h : faults [] = some fault) : Tells (.error fault : Except Fault α) faults :=
  ⟨[], h, fun _ hearlier => absurd hearlier (List.not_lt_nil _)⟩

theorem map_iff {f : α → β} : Tells (f <$> result) faults ↔ Tells result faults := by
  cases result <;> rfl

theorem bind_pure (h : Tells result faults) (f : α → β) :
    Tells (result >>= fun value => pure (f value)) faults := by
  rw [← map_eq_pure_bind]
  exact map_iff.2 h

theorem succeeds_iff (h : Tells result faults) :
    (∃ value, result = .ok value) ↔ ∀ path, faults path = none := by
  cases result with
  | ok value => exact ⟨fun _ => h, fun _ => ⟨value, rfl⟩⟩
  | error fault =>
    obtain ⟨path, hpath, -⟩ := h
    refine ⟨nofun, fun hnone => ?_⟩
    cases (hnone path).symm.trans hpath

theorem fails_iff (h : Tells result faults) :
    result = .error fault ↔
      ∃ path, faults path = some fault ∧ ∀ earlier < path, faults earlier = none := by
  cases result with
  | ok value =>
    refine ⟨nofun, ?_⟩
    rintro ⟨path, hpath, -⟩
    cases (h path).symm.trans hpath
  | error cause =>
    obtain ⟨path, hpath, hearlier⟩ := h
    constructor
    · rintro ⟨⟩
      exact ⟨path, hpath, hearlier⟩
    · rintro ⟨path', hpath', hearlier'⟩
      -- neither path comes before the other, as there is a fault on both
      have hnot : ¬path < path' := fun hlt => nomatch (hearlier' path hlt).symm.trans hpath
      have hnot' : ¬path' < path := fun hlt => nomatch (hearlier path' hlt).symm.trans hpath'
      rw [List.le_antisymm (List.not_lt.1 hnot') (List.not_lt.1 hnot), hpath'] at hpath
      rw [Option.some.inj hpath]

/-- Reading a list tells the first fault of the first item that has one. -/
theorem mapM {f : α → Except Fault β} {items : List α} {ofItem : α → List Nat → Option Fault}
    (hnil : faults [] = none)
    (hcons : ∀ step path, faults (step :: path) = items[step]?.bind fun item => ofItem item path)
    (h : ∀ item ∈ items, Tells (f item) (ofItem item)) : Tells (items.mapM f) faults := by
  have hfine : ∀ item ∈ items, ∀ value, f item = .ok value → ∀ path, ofItem item path = none := by
    intro item hitem value hvalue
    have htells := h item hitem
    rwa [hvalue] at htells
  cases hresult : items.mapM f with
  | ok values =>
    intro path
    cases path with
    | nil => exact hnil
    | cons step path =>
      rw [hcons]
      cases hitem : items[step]? with
      | none => rfl
      | some item =>
        obtain ⟨value, -, hvalue⟩ := forall₂_getElem? (mapM_eq_ok_iff.1 hresult) hitem
        exact hfine item (List.mem_of_getElem? hitem) value hvalue path
  | error fault =>
    obtain ⟨before, item, after, rfl, hbefore, hitem⟩ := mapM_eq_error_iff.1 hresult
    have htells := h item (by simp)
    rw [hitem] at htells
    obtain ⟨path, hpath, hearlier⟩ := htells
    refine ⟨before.length :: path, by rw [hcons]; simpa using hpath, ?_⟩
    rintro (_ | ⟨step, rest⟩) hlt
    · exact hnil
    · rw [hcons]
      rcases List.cons_lt_cons_iff.1 hlt with hstep | ⟨rfl, hrest⟩
      · -- the items before this one have no faults
        rw [List.getElem?_append_left hstep]
        obtain ⟨value, hvalue⟩ := hbefore before[step] (List.getElem_mem hstep)
        rw [List.getElem?_eq_getElem hstep]
        exact hfine _ (by simp) value hvalue rest
      · simpa using hearlier rest hrest

end Tells

/-! ## Walking down -/

/-- A node of an expected kind tells what its handles tell. -/
theorem Tells.node {node : Node} (hnode : arena.resolve? handle = some node)
    (hkind : node.kind ∈ expected) {f : Handle → Except Fault β}
    (h : ∀ child ∈ node.handles, Tells (f child) (arena.faultOn node.expects child)) :
    Tells (node.handles.mapM f) (arena.faultOn expected handle) :=
  .mapM (faultAt_eq_none.2 ⟨node, hnode, hkind⟩) (faultOn_cons hnode) h

theorem Tells.select {select : Select} (hnode : arena.resolve? handle = some (.select select))
    (hkind : .select ∈ expected) {result : Except Fault α}
    (h : Tells result (arena.faultOn [.option] select.selected)) :
    Tells result (arena.faultOn expected handle) := by
  have hone : ∀ child ∈ (Node.select select).handles,
      Tells result (arena.faultOn (Node.select select).expects child) := by
    intro child hchild
    rwa [List.mem_singleton.1 hchild]
  have htells := Tells.node hnode hkind hone
  have hmap : (Node.select select).handles.mapM (fun _ => result) =
      (fun value => [value]) <$> result := by
    cases result <;> rfl
  rwa [hmap, Tells.map_iff] at htells

theorem Tells.input {input : Input} (hnode : arena.resolve? handle = some (.input input))
    (hkind : .input ∈ expected) (value : α) :
    Tells (.ok value) (arena.faultOn expected handle) :=
  Tells.node (f := fun _ => .ok value) hnode hkind nofun

theorem Tells.dangling (hnode : arena.resolve? handle = none) :
    Tells (.error (.danglingHandle handle) : Except Fault α) (arena.faultOn expected handle) := by
  refine .of_nil ?_
  rw [faultOn_nil, faultAt, hnode]

theorem Tells.unexpected {node : Node} (hnode : arena.resolve? handle = some node)
    (hkind : node.kind ∉ expected) :
    Tells (.error (unexpected handle expected node) : Except Fault α)
      (arena.faultOn expected handle) := by
  refine .of_nil ?_
  rw [faultOn_nil, faultAt, hnode]
  exact if_neg hkind

/-! ## Options and arguments -/

/-- Walks from the handle are shorter than a depth. -/
def Within (arena : Arena Node) (handle : Handle) (depth : Nat) : Prop :=
  ∀ path expected, (arena.place? expected handle path).isSome → path.length < depth

theorem Within.child {node : Node} {child : Handle} {depth : Nat}
    (h : arena.Within handle (depth + 1)) (hnode : arena.resolve? handle = some node)
    (hchild : child ∈ node.handles) : arena.Within child depth := by
  intro path expected hplace
  obtain ⟨step, hstep⟩ := List.mem_iff_getElem?.1 hchild
  refine Nat.lt_of_succ_lt_succ (h (step :: path) node.expects ?_)
  rw [place?_cons hnode, hstep]
  cases path with
  | nil => rfl
  | cons => exact hplace

theorem Within.succ {depth : Nat} (h : arena.Within handle depth) :
    arena.Within handle (depth + 1) :=
  fun path expected hplace => Nat.lt_succ_of_lt (h path expected hplace)

theorem AcyclicFrom.within (h : arena.AcyclicFrom handle) :
    arena.Within handle arena.depthLimit :=
  fun _ _ hplace => Nat.lt_succ_of_le (h.length_le hplace)

theorem resolve_of_dangling (h : arena.resolve? handle = none) :
    arena.resolve handle = .error (.danglingHandle handle) := by
  rw [resolve, h]

/-- Looking for a node of one kind tells the first fault when what is done with the node does. -/
theorem tells_resolveAs {β : Type} {kind : NodeKind} {part? : Node → Option β} {node : β → Node}
    (htakes : Node.Takes kind part? node) {next : β → Except Fault α}
    (h : ∀ part, arena.resolve? handle = some (node part) →
      Tells (next part) (arena.faultOn [kind] handle)) :
    Tells (arena.resolveAs kind part? handle >>= next) (arena.faultOn [kind] handle) := by
  cases hnode : arena.resolve? handle with
  | none =>
    rw [resolveAs, resolve_of_dangling hnode]
    exact .dangling hnode
  | some found =>
    cases htaken : part? found with
    | some part =>
      obtain rfl := htakes.eq_some_iff.1 htaken
      rw [(resolveAs_eq_ok htakes).2 hnode, ok_bind]
      exact h part hnode
    | none =>
      rw [resolveAs, resolve_eq_ok.2 hnode, ok_bind, htaken]
      exact .unexpected hnode (mt List.mem_singleton.1 (htakes.kind_ne htaken))

/-- What is shown of the handle that a select has chosen. -/
def viewSelected (arena : Arena Node) (depth : Nat) (handle : Handle) : Except Fault OptionView :=
  arena.resolveOption handle >>= arena.viewOption depth

/-- What is shown of the handle of an argument. -/
def viewArgument (arena : Arena Node) (depth : Nat) (handle : Handle) :
    Except Fault ArgumentView := do
  match ← arena.resolve handle with
  | .select select =>
    (fun view => .select (select.view view)) <$> arena.viewSelected depth select.selected
  | .input input => return .input input
  | other => throw (unexpected handle [.select, .input] other)

theorem viewOption_succ (depth : Nat) (chosen : Chosen) :
    arena.viewOption (depth + 1) chosen =
      chosen.view <$> chosen.arguments.mapM (arena.viewArgument depth) := by
  rw [viewOption, map_eq_pure_bind]
  congr 2
  funext handle
  unfold viewArgument
  congr 1
  funext node
  cases node with
  | select select => simp only [viewSelected, map_eq_pure_bind, bind_assoc]
  | option _ | input _ => rfl

theorem viewSelectNode_eq (select : Select) :
    arena.viewSelectNode select =
      select.view <$> arena.viewSelected arena.depthLimit select.selected := by
  simp only [viewSelectNode, viewSelected, map_eq_pure_bind, bind_assoc]

/-- The chosen option of a select tells its first fault when options do. -/
theorem tells_viewSelected {depth : Nat}
    (h : ∀ chosen, arena.resolve? handle = some (.option chosen) →
      Tells (arena.viewOption depth chosen) (arena.faultOn [.option] handle)) :
    Tells (arena.viewSelected depth handle) (arena.faultOn [.option] handle) :=
  tells_resolveAs Node.takes_option h

/-- Showing an option tells its first fault, if the depth reaches to the end of every walk. -/
theorem tells_viewOption {depth : Nat} {chosen : Chosen}
    (hnode : arena.resolve? handle = some (.option chosen)) (hkind : .option ∈ expected)
    (hdepth : arena.Within handle depth) :
    Tells (arena.viewOption depth chosen) (arena.faultOn expected handle) := by
  induction depth generalizing handle chosen expected with
  | zero => exact absurd (hdepth [] expected rfl) (Nat.not_lt_zero _)
  | succ depth ih =>
    rw [viewOption_succ, Tells.map_iff]
    refine Tells.node hnode hkind fun argument hargument => ?_
    have hinside := hdepth.child hnode hargument
    unfold viewArgument
    cases hbelow : arena.resolve? argument with
    | none =>
      rw [resolve_of_dangling hbelow]
      exact .dangling hbelow
    | some node =>
      rw [resolve_eq_ok.2 hbelow, ok_bind]
      cases node with
      | select select =>
        refine .select hbelow (by simp [Node.expects]) (Tells.map_iff.2 ?_)
        refine tells_viewSelected fun chosen hchosen => ?_
        have hdeeper := hinside.succ.child hbelow (List.mem_singleton_self select.selected)
        exact ih hchosen (List.mem_singleton_self _) hdeeper
      | input input => exact .input hbelow (by simp [Node.expects]) _
      | option other => exact .unexpected hbelow (by simp [Node.kind])

/-! ## Handles and scripts -/

theorem tells_viewSelectNode {select : Select}
    (hnode : arena.resolve? handle = some (.select select)) (hkind : .select ∈ expected)
    (h : arena.AcyclicFrom handle) :
    Tells (arena.viewSelectNode select) (arena.faultOn expected handle) := by
  have hinside : arena.AcyclicFrom select.selected :=
    h.child ⟨_, hnode, List.mem_singleton_self _⟩
  rw [viewSelectNode_eq]
  refine .select hnode hkind (Tells.map_iff.2 (tells_viewSelected fun chosen hchosen => ?_))
  exact tells_viewOption hchosen (List.mem_singleton_self _) hinside.within

theorem AcyclicFrom.tells_viewSelect (h : arena.AcyclicFrom handle) :
    Tells (arena.viewSelect handle) (arena.faultOn [.select] handle) :=
  tells_resolveAs Node.takes_select fun _ hnode =>
    tells_viewSelectNode hnode (List.mem_singleton_self _) h

theorem AcyclicFrom.tells_view (h : arena.AcyclicFrom handle) :
    Tells (arena.view handle) (arena.faultOn NodeKind.all handle) := by
  unfold Arena.view
  cases hnode : arena.resolve? handle with
  | none =>
    rw [resolve_of_dangling hnode]
    exact .dangling hnode
  | some node =>
    rw [resolve_eq_ok.2 hnode, ok_bind]
    cases node with
    | select select =>
      exact (tells_viewSelectNode hnode (by decide) h).bind_pure NodeView.select
    | option chosen =>
      exact (tells_viewOption hnode (by decide) h.within).bind_pure NodeView.option
    | input input => exact .input hnode (by decide) _

/-- Views end at the first fault. In any arena, and from any handle from which no walk comes back to
where it has been, the handle can be shown exactly if every handle on the way leads to a node of an
expected kind, a chosen one to an option and an argument to a select or an input. Otherwise the
fault is that of the first handle on the way that does not: it leads to no node, or to a node of
another kind. A view of a select asks for a select in the first place. A script is shown exactly if
all of its selects are, and otherwise ends in the fault of the first one that is not. -/
theorem views_end_at_first_fault (arena : Arena Node) :
    (∀ handle, arena.AcyclicFrom handle →
      ((∃ view, arena.view handle = .ok view) ↔ arena.Sound NodeKind.all handle) ∧
      ∀ fault, arena.view handle = .error fault ↔
        arena.FirstFault NodeKind.all handle fault) ∧
    (∀ handle, arena.AcyclicFrom handle →
      ((∃ view, arena.viewSelect handle = .ok view) ↔ arena.Sound [.select] handle) ∧
      ∀ fault, arena.viewSelect handle = .error fault ↔ arena.FirstFault [.select] handle fault) ∧
    ∀ script, (∀ handle ∈ script, arena.AcyclicFrom handle) →
      ((∃ views, arena.viewScript script = .ok views) ↔
        ∀ handle ∈ script, arena.Sound [.select] handle) ∧
      ∀ fault, arena.viewScript script = .error fault ↔
        ∃ before root after, script = before ++ root :: after ∧
          (∀ handle ∈ before, arena.Sound [.select] handle) ∧
          arena.FirstFault [.select] root fault := by
  have hselect : ∀ handle, arena.AcyclicFrom handle →
      ((∃ view, arena.viewSelect handle = .ok view) ↔ arena.Sound [.select] handle) ∧
      ∀ fault, arena.viewSelect handle = .error fault ↔ arena.FirstFault [.select] handle fault :=
    fun handle h => ⟨h.tells_viewSelect.succeeds_iff.trans sound_iff.symm,
      fun fault => h.tells_viewSelect.fails_iff⟩
  refine ⟨fun handle h => ⟨h.tells_view.succeeds_iff.trans sound_iff.symm,
    fun fault => h.tells_view.fails_iff⟩, hselect, fun script h => ⟨?_, fun fault => ?_⟩⟩
  · constructor
    · rintro ⟨views, hviews⟩ handle hhandle
      obtain ⟨index, hindex⟩ := List.mem_iff_getElem?.1 hhandle
      obtain ⟨view, -, hview⟩ := forall₂_getElem? (mapM_eq_ok_iff.1 hviews) hindex
      exact (hselect handle (h handle hhandle)).1.1 ⟨view, hview⟩
    · intro hsound
      exact exists_mapM_eq_ok fun handle hhandle =>
        (hselect handle (h handle hhandle)).1.2 (hsound handle hhandle)
  · rw [viewScript, mapM_eq_error_iff]
    refine exists_congr fun before => exists_congr fun root => exists_congr fun after =>
      and_congr_right fun hsplit => ?_
    subst hsplit
    rw [(hselect root (h root (by simp))).2]
    refine and_congr_left fun _ => forall₂_congr fun handle hhandle => ?_
    exact (hselect handle (h handle (List.mem_append_left _ hhandle))).1

/-- A sound select; one with a faulty argument, an option in place of a select, before one that
leads nowhere; and a script of both with a third faulty select behind them. -/
theorem views_end_at_first_fault_handMade :
    let arena := (Arena.empty 7).fill [.input ⟨"by", .string, .null⟩,
      .option ⟨"min", .one .bytes, [⟨7⟩]⟩, .select ⟨.reducer, some "r", .one .bytes, ⟨8⟩, []⟩,
      .option ⟨"reduce", .one .bytes, [⟨9⟩, ⟨8⟩, ⟨99⟩]⟩,
      .select ⟨.operator .array, none, .one .bytes, ⟨10⟩, []⟩,
      .select ⟨.operator .array, none, .one .bytes, ⟨99⟩, []⟩]
    let fault : Fault := .unexpectedNode ⟨8⟩ [.select, .input] .option
    (∀ handle, arena.AcyclicFrom handle) ∧
    ((∃ view, arena.view ⟨9⟩ = .ok view) ∧ arena.Sound NodeKind.all ⟨9⟩) ∧
    (arena.viewSelect ⟨11⟩ = .error fault ∧ arena.FirstFault [.select] ⟨11⟩ fault) ∧
    arena.viewScript [⟨9⟩, ⟨11⟩, ⟨12⟩] = .error fault ∧
    ∃ before root after, [⟨9⟩, ⟨11⟩, ⟨12⟩] = before ++ root :: after ∧
      (∀ handle ∈ before, arena.Sound [.select] handle) ∧
      arena.FirstFault [.select] root fault := by
  intro arena fault
  obtain ⟨hdescends, hshown, hfails, hscript⟩ :
      (∀ pair ∈ arena.toList, ∀ child ∈ pair.2.handles,
        child.id < pair.1.id ∨ arena.resolve? child = none) ∧
      (arena.view ⟨9⟩).isOk = true ∧
      (fun _ => ()) <$> arena.viewSelect ⟨11⟩ = .error fault ∧
      (fun _ => ()) <$> arena.viewScript [⟨9⟩, ⟨11⟩, ⟨12⟩] = .error fault := by decide +kernel
  have hacyclic : ∀ handle, arena.AcyclicFrom handle :=
    acyclicFrom_of_descends fun parent node hnode => hdescends (parent, node) (mem_toList.2 hnode)
  obtain ⟨ofNode, ofSelect, ofScript⟩ := views_end_at_first_fault arena
  have hshown := exists_of_isOk hshown
  have hfails := map_eq_error.1 hfails
  have hscript := map_eq_error.1 hscript
  exact ⟨hacyclic, ⟨hshown, (ofNode _ (hacyclic _)).1.1 hshown⟩,
    ⟨hfails, ((ofSelect _ (hacyclic _)).2 fault).1 hfails⟩, hscript,
    ((ofScript _ fun handle _ => hacyclic handle).2 fault).1 hscript⟩

end Arena

end ScriptTree
