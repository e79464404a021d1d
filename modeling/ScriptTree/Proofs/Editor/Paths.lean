import Mathlib.Data.List.Induction
import ScriptTree.Catalog.Standard
import ScriptTree.Proofs.Editor.Sharing
import ScriptTree.Proofs.Editor.WellFormed
/-!
# Paths

A path leads from a script of a document down to a node. In an editor that was just opened every
node has one path: the last step of a path is the one place of the node, so two paths to a node are
the same step by step, and going up from place to place ends in a script, because handles in nodes
lead to earlier nodes.

Main statement: `Editor.each_node_has_one_place`.
-/

namespace ScriptTree

/-- Where no item occurs twice, one position in one list has it. -/
theorem flatMap_position_unique {α β : Type} {f : α → List β} {items : List α}
    (h : (items.flatMap f).Nodup) {i j k l : Nat} {x y : α} {item : β}
    (hx : items[i]? = some x) (hk : (f x)[k]? = some item)
    (hy : items[j]? = some y) (hl : (f y)[l]? = some item) : i = j ∧ k = l := by
  obtain ⟨heach, hpairs⟩ := List.nodup_flatMap.1 h
  have hmem : item ∈ f x := List.mem_of_getElem? hk
  have hmem' : item ∈ f y := List.mem_of_getElem? hl
  have hij : i = j := by
    by_contra hne
    obtain ⟨hi, rfl⟩ := List.getElem?_eq_some_iff.1 hx
    obtain ⟨hj, rfl⟩ := List.getElem?_eq_some_iff.1 hy
    rcases Nat.lt_or_gt_of_ne hne with hlt | hlt
    · exact List.pairwise_iff_getElem.1 hpairs i j hi hj hlt hmem hmem'
    · exact List.pairwise_iff_getElem.1 hpairs j i hj hi hlt hmem' hmem
  subst hij
  obtain rfl : x = y := Option.some.inj (hx.symm.trans hy)
  obtain ⟨hlength, -⟩ := List.getElem?_eq_some_iff.1 hk
  have hnodup : (f x).Nodup := heach x (List.mem_of_getElem? hx)
  exact ⟨rfl, (List.getElem?_inj hlength hnodup).1 (hk.trans hl.symm)⟩

/-! ## Places -/

namespace Arena

variable {arena : Arena Node} {handle : Handle}

/-- The handle in a place of a node: of a select the chosen option, of an option an argument. -/
def below? (arena : Arena Node) (handle : Handle) (step : Nat) : Option Handle := do
  let node ← arena.resolve? handle
  node.handles[step]?

theorem below?_eq_some {step : Nat} {below : Handle} :
    arena.below? handle step = some below ↔
      ∃ node, arena.resolve? handle = some node ∧ node.handles[step]? = some below :=
  Option.bind_eq_some_iff

theorem resolve?_eq_some {node : Node} :
    arena.resolve? handle = some node ↔
      arena.origin.toNat ≤ handle.id.toNat ∧
        arena.nodes.toList[handle.id.toNat - arena.origin.toNat]? = some node := by
  simp [resolve?_eq]

theorem mem_handles : handle ∈ arena.handles ↔ arena.contains handle = true := by
  have hid : Handle.ofNat handle.id.toNat = handle := by simp [Handle.ofNat]
  have hsize := handle.id.toNat_lt_size
  have hfits := arena.fits
  rw [handles, Handle.mem_range]
  constructor
  · rintro ⟨n, hlow, hhigh, rfl⟩
    exact (contains_ofNat (by simp only [size] at hhigh; omega)).2 ⟨hlow, hhigh⟩
  · intro h
    rw [← hid, contains_ofNat hsize] at h
    exact ⟨handle.id.toNat, h.1, h.2, hid⟩

theorem mem_references :
    handle ∈ arena.references ↔ ∃ parent step, arena.below? parent step = some handle := by
  simp only [references, Node.references, List.mem_flatMap, below?_eq_some, resolve?_eq_some]
  constructor
  · rintro ⟨node, hnode, hhandle⟩
    obtain ⟨index, hindex⟩ := List.mem_iff_getElem?.1 hnode
    obtain ⟨step, hstep⟩ := List.mem_iff_getElem?.1 hhandle
    have hlt : index < arena.nodes.size := by simpa using (List.getElem?_eq_some_iff.1 hindex).1
    have hfits := arena.fits
    refine ⟨.ofNat (arena.origin.toNat + index), step, node, ?_, hstep⟩
    rw [Handle.toNat_ofNat (by omega), Nat.add_sub_cancel_left]
    exact ⟨Nat.le_add_right .., hindex⟩
  · rintro ⟨parent, step, node, ⟨-, hnode⟩, hstep⟩
    exact ⟨node, List.mem_of_getElem? hnode, List.mem_of_getElem? hstep⟩

theorem below?_unique (h : arena.references.Nodup) {first second : Handle} {k l : Nat}
    (hfirst : arena.below? first k = some handle) (hsecond : arena.below? second l = some handle) :
    first = second ∧ k = l := by
  obtain ⟨x, hx, hk⟩ := below?_eq_some.1 hfirst
  obtain ⟨y, hy, hl⟩ := below?_eq_some.1 hsecond
  obtain ⟨hlow, hx⟩ := resolve?_eq_some.1 hx
  obtain ⟨hlow', hy⟩ := resolve?_eq_some.1 hy
  -- equal distances from the origin are equal numbers, because both lie behind it
  obtain ⟨hsame, rfl⟩ := flatMap_position_unique h hx hk hy hl
  have hid : first.id.toNat = second.id.toNat := by omega
  exact ⟨congrArg Handle.mk (UInt32.toNat_inj.1 hid), rfl⟩

end Arena

namespace Document

variable {document : Document (List Handle)} {stage : Stage} {index : Nat} {handle : Handle}

/-- The handle at a position of a document. -/
def handle? (document : Document (List Handle)) (stage : Stage) (index : Nat) : Option Handle := do
  let script ← document.script? stage
  script[index]?

theorem handle?_eq_some :
    document.handle? stage index = some handle ↔
      ∃ script, document.script? stage = some script ∧ script[index]? = some handle :=
  Option.bind_eq_some_iff

theorem exists_stage {script : List Handle} (h : script ∈ document.scripts) :
    ∃ stage, document.script? stage = some script := by
  rcases mem_scripts.1 h with ⟨source, hsource, rfl⟩ | rfl | rfl
  · obtain ⟨index, hindex⟩ := List.mem_iff_getElem?.1 hsource
    exact ⟨.retrieve index, by rw [script?, hindex]; rfl⟩
  · exact ⟨.aggregate, rfl⟩
  · exact ⟨.tally, rfl⟩

/-- The number of a stage in the order of the stages. -/
def order (document : Document (List Handle)) : Stage → Nat
  | .retrieve index => index
  | .aggregate => document.retrieve.length
  | .tally => document.retrieve.length + 1

theorem scripts_order {script : List Handle} (h : document.script? stage = some script) :
    document.scripts[document.order stage]? = some script := by
  cases stage with
  | retrieve index =>
    obtain ⟨source, hsource, rfl⟩ := Option.map_eq_some_iff.1 h
    have hlt := (List.getElem?_eq_some_iff.1 hsource).1
    rw [scripts, order, List.getElem?_append_left (by simpa using hlt), List.getElem?_map, hsource]
    rfl
  | aggregate => simpa [scripts, order, script?] using h
  | tally => simpa [scripts, order, script?] using h

theorem order_retrieve_lt (h : (document.script? (.retrieve index)).isSome) :
    document.order (.retrieve index) < document.retrieve.length := by
  simpa [script?, order] using h

/-- Stages that a document has come at different places of the order. -/
theorem order_injective {first second : Stage} (hfirst : (document.script? first).isSome)
    (hsecond : (document.script? second).isSome)
    (h : document.order first = document.order second) : first = second := by
  cases first <;> cases second
  case retrieve.retrieve => exact congrArg Stage.retrieve h
  case aggregate.aggregate | tally.tally => rfl
  case retrieve.aggregate | retrieve.tally =>
    have hlt := order_retrieve_lt hfirst
    simp only [order] at h hlt
    omega
  case aggregate.retrieve | tally.retrieve =>
    have hlt := order_retrieve_lt hsecond
    simp only [order] at h hlt
    omega
  case aggregate.tally | tally.aggregate =>
    simp only [order] at h
    omega

theorem mem_roots :
    handle ∈ document.roots ↔ ∃ stage index, document.handle? stage index = some handle := by
  simp only [roots, List.mem_flatten, handle?_eq_some]
  constructor
  · rintro ⟨script, hscript, hhandle⟩
    obtain ⟨stage, hstage⟩ := exists_stage hscript
    obtain ⟨index, hindex⟩ := List.mem_iff_getElem?.1 hhandle
    exact ⟨stage, index, script, hstage, hindex⟩
  · rintro ⟨stage, index, script, hstage, hindex⟩
    exact ⟨script, List.mem_of_getElem? (scripts_order hstage), List.mem_of_getElem? hindex⟩

theorem handle?_unique (h : document.roots.Nodup) {first second : Stage} {k l : Nat}
    (hfirst : document.handle? first k = some handle)
    (hsecond : document.handle? second l = some handle) : first = second ∧ k = l := by
  obtain ⟨x, hx, hk⟩ := handle?_eq_some.1 hfirst
  obtain ⟨y, hy, hl⟩ := handle?_eq_some.1 hsecond
  rw [roots, List.flatten_eq_flatMap] at h
  obtain ⟨horder, rfl⟩ := flatMap_position_unique h (scripts_order hx) hk (scripts_order hy) hl
  exact ⟨order_injective (by simp [hx]) (by simp [hy]) horder, rfl⟩

end Document

/-! ## Paths -/

/-- A way down: the operator of a script to start from, and the place to go on to in each node. -/
structure Path where
  stage : Stage
  index : Nat
  steps : List Nat
deriving DecidableEq

/-- The path one step further down. -/
def Path.down (path : Path) (step : Nat) : Path :=
  { path with steps := path.steps ++ [step] }

/-- A path is a start in a script or one step further down than another path. -/
@[elab_as_elim]
theorem Path.down_induction {motive : Path → Prop}
    (start : ∀ stage index, motive ⟨stage, index, []⟩)
    (down : ∀ path step, motive path → motive (path.down step)) (path : Path) : motive path := by
  obtain ⟨stage, index, steps⟩ := path
  induction steps using List.reverseRecOn with
  | nil => exact start stage index
  | append_singleton steps step ih => exact down ⟨stage, index, steps⟩ step ih

namespace Editor

variable {editor : Editor} {handle : Handle}

/-- The handle that a path leads to. -/
def follow (editor : Editor) (path : Path) : Option Handle := do
  let handle ← editor.document.handle? path.stage path.index
  path.steps.foldlM editor.arena.below? handle

theorem follow_start (stage : Stage) (index : Nat) :
    editor.follow ⟨stage, index, []⟩ = editor.document.handle? stage index := by
  simp [follow]

theorem follow_down_eq_some {path : Path} {step : Nat} :
    editor.follow (path.down step) = some handle ↔
      ∃ parent, editor.follow path = some parent ∧
        editor.arena.below? parent step = some handle := by
  simp only [follow, Path.down, List.foldlM_append, Option.bind_eq_bind, ← Option.bind_assoc]
  simp [Option.bind_eq_some_iff]

/-- Two paths to one node end in its only place, and so does what is left of them before that. -/
theorem follow_unique (h : editor.references.Nodup) {first second : Path}
    (hfirst : editor.follow first = some handle) (hsecond : editor.follow second = some handle) :
    first = second := by
  obtain ⟨hnodes, hdocument, hdisjoint⟩ := List.nodup_append.1 h
  -- a handle that a script holds is held by no node
  have hapart : ∀ {handle parent stage index step},
      editor.document.handle? stage index = some handle →
      editor.arena.below? parent step ≠ some handle := by
    intro handle parent stage index step hroot hbelow
    exact hdisjoint handle (Arena.mem_references.2 ⟨parent, step, hbelow⟩) handle
      (Document.mem_roots.2 ⟨stage, index, hroot⟩) rfl
  induction first using Path.down_induction generalizing second handle with
  | start stage index =>
    rw [follow_start] at hfirst
    cases second using Path.down_induction with
    | start stage' index' =>
      rw [follow_start] at hsecond
      obtain ⟨rfl, rfl⟩ := Document.handle?_unique hdocument hfirst hsecond
      rfl
    | down second step =>
      obtain ⟨parent, -, hbelow⟩ := follow_down_eq_some.1 hsecond
      exact absurd hbelow (hapart hfirst)
  | down first step ih =>
    obtain ⟨parent, hparent, hbelow⟩ := follow_down_eq_some.1 hfirst
    cases second using Path.down_induction with
    | start stage' index' =>
      rw [follow_start] at hsecond
      exact absurd hbelow (hapart hsecond)
    | down second step' =>
      obtain ⟨parent', hparent', hbelow'⟩ := follow_down_eq_some.1 hsecond
      obtain ⟨rfl, rfl⟩ := Arena.below?_unique hnodes hbelow hbelow'
      rw [ih hparent hparent']

/-- Where every node has a place, every node of a well-formed arena has a path: going up from place
to place passes ever later nodes, so it ends in a script. -/
theorem exists_follow {catalog : Catalog} (hplaces : editor.references.Perm editor.arena.handles)
    (hwell : editor.arena.WellFormed catalog) (h : editor.arena.contains handle = true) :
    ∃ path, editor.follow path = some handle := by
  -- on the distance to the end of the number space, which shrinks on the way up
  induction hdistance : UInt32.size - handle.id.toNat using Nat.strongRecOn
    generalizing handle with
  | ind distance ih =>
    have hmem := hplaces.mem_iff.2 (Arena.mem_handles.2 h)
    rcases List.mem_append.1 hmem with hnode | hroot
    · obtain ⟨parent, step, hbelow⟩ := Arena.mem_references.1 hnode
      obtain ⟨node, hresolve, hstep⟩ := Arena.below?_eq_some.1 hbelow
      have hlt : handle.id.toNat < parent.id.toNat :=
        (hwell.descending parent node hresolve handle (List.mem_of_getElem? hstep)).1
      have hsize := parent.id.toNat_lt_size
      obtain ⟨path, hpath⟩ := ih _ (by omega) (Arena.contains_eq_true.2 ⟨node, hresolve⟩) rfl
      exact ⟨path.down step, follow_down_eq_some.2 ⟨parent, hpath, hbelow⟩⟩
    · obtain ⟨stage, index, hroot⟩ := Document.mem_roots.1 hroot
      exact ⟨⟨stage, index, []⟩, by rw [follow_start, hroot]⟩

/-- No node is shared and none is lost. Whatever document an editor was opened on, the blank one
where none is given, no handle occurs twice among those in the nodes of the arena and in the scripts
of the document, whatever edits followed; and before them there is exactly one path to every
node. -/
theorem each_node_has_one_place {catalog : Catalog} {origin : UInt32}
    {document : Option (Document Script)} {editor : Editor}
    (hopen : ofDocument catalog origin (document.getD .blank) = .ok editor) :
    (∀ (edits : List Edit) (handle : Handle),
      (editor.replay edits).references.count handle ≤ 1) ∧
    ∀ handle, editor.arena.contains handle = true → ∃! path, editor.follow path = some handle := by
  have hplaces := handles_of_ofDocument hopen
  have hunshared : editor.Unshared := hplaces.subperm
  have hnodup : editor.references.Nodup := hplaces.nodup_iff.2 editor.arena.nodup_handles
  obtain ⟨-, hwell⟩ := keeps_of_ofDocument catalog.insertionKeeps_wellFormed hopen
    (Arena.wellFormed_empty catalog origin)
  constructor
  · intro edits handle
    exact (hunshared.replay edits).count_le_one handle
  · intro handle hhandle
    obtain ⟨path, hpath⟩ := exists_follow hplaces hwell hhandle
    exact ⟨path, hpath, fun other hother => follow_unique hnodup hother hpath⟩

/-- The operand of a filter, at the end of the one path to it, and edits that leave nodes behind. -/
theorem each_node_has_one_place_filter :
    let document : Document Script :=
      { Document.blank with tally := [.sequence [.nat 0x11, .array [.nat 5, .string "x"]]] }
    let edits : List Edit := [.push .tally (.bare ⟨0x74⟩), .generate [.bare ⟨0x74⟩],
      .remove .aggregate 0, .replace .tally 0 (.sequence [.nat 0x1b, .nat 3]), .remove .tally 1]
    ∃ editor, ofDocument Catalog.standard 7 ((some document).getD .blank) = .ok editor ∧
      (editor.replay edits).references.length = 10 ∧
      (∀ handle, (editor.replay edits).references.count handle ≤ 1) ∧
      editor.follow ⟨.tally, 0, [0, 0, 0, 0]⟩ = some ⟨7⟩ ∧
      ∃! path, editor.follow path = some ⟨7⟩ := by
  intro document edits
  have hopened : (ofDocument Catalog.standard 7 ((some document).getD .blank)).toOption.map
      (fun editor => ((editor.replay edits).references.length,
        editor.follow ⟨.tally, 0, [0, 0, 0, 0]⟩, editor.arena.contains ⟨7⟩)) =
        some (10, some ⟨7⟩, true) := by decide +kernel
  obtain ⟨editor, hopen, hread⟩ := Option.map_eq_some_iff.1 hopened
  obtain ⟨hlength, hread⟩ := Prod.mk.inj hread
  obtain ⟨hfollow, hcontains⟩ := Prod.mk.inj hread
  have hopen := eq_ok_of_toOption hopen
  obtain ⟨hcount, hpath⟩ := each_node_has_one_place hopen
  exact ⟨editor, hopen, hlength, hcount edits, hfollow, hpath _ hcontains⟩

end Editor

end ScriptTree
