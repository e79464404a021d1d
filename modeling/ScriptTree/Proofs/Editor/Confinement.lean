import Mathlib.Data.Option.Basic
import ScriptTree.Proofs.Document.Differences
import ScriptTree.Proofs.Editor.Numbering
import ScriptTree.Proofs.Editor.Persistence
import ScriptTree.Proofs.Editor.Replacing
import ScriptTree.Proofs.Editor.WellFormed
/-!
# Edits touch one place

An edit changes the one handle, script or field that it addresses, and the rest of the document
stays. Because nodes never change either, the same is true of what the document shows: the tree of
every operator that the edit does not address is the one that was there before.

Main statements: `Editor.Effect.confined` for the handles, `Edit.Confined.shown` for what they show,
and `Editor.edits_touch_one_place`.
-/

namespace ScriptTree

namespace Edit

/-- The position of the operator that an edit rewrites. -/
def position? : Edit → Option (Stage × Nat)
  | .select stage index _ | .update stage index _ _ | .replace stage index _ => some (stage, index)
  | _ => none

/-- Whether an edit inserts no nodes. -/
def keepsArena : Edit → Bool
  | .remove .. | .addSource _ | .removeSource _ | .setUrl .. | .setName _
  | .setDescription _ => true
  | _ => false

/-- Whether an edit is a conversion next to the document. -/
def converts : Edit → Bool
  | .convert _ | .generate _ => true
  | _ => false

/-- An edit changes nothing of a document but what it addresses. The scripts are lists of handles,
or of the trees that these show; the item is the one that the edit brings in or takes out. -/
inductive Confined {α : Type} : Edit → Option α → Document (List α) → Document (List α) → Prop
  | rewritten {edit : Edit} {before after : Document (List α)} {stage : Stage} {index : Nat}
      {script : List α} {new : α} (position : edit.position? = some (stage, index))
      (inside : index < script.length)
      (differs : before.DiffersAt after stage script (script.set index new)) :
      Confined edit (some new) before after
  | pushed {before after : Document (List α)} {stage : Stage} {operator : Operator}
      {script : List α} {new : α}
      (differs : before.DiffersAt after stage script (script ++ [new])) :
      Confined (.push stage operator) (some new) before after
  | removed {before after : Document (List α)} {stage : Stage} {index : Nat} {script : List α}
      {old : α} (position : script[index]? = some old)
      (differs : before.DiffersAt after stage script (script.eraseIdx index)) :
      Confined (.remove stage index) (some old) before after
  | sourceAdded {before : Document (List α)} {url : String} :
      Confined (.addSource url) none before
        { before with retrieve := before.retrieve ++ [⟨url, []⟩] }
  | sourceRemoved {before : Document (List α)} {index : Nat}
      (position : index < before.retrieve.length) :
      Confined (.removeSource index) none before
        { before with retrieve := before.retrieve.eraseIdx index }
  | urlSet {before : Document (List α)} {index : Nat} {url : String}
      (position : index < before.retrieve.length) :
      Confined (.setUrl index url) none before
        { before with
          retrieve := before.retrieve.modify index fun source => { source with url := url } }
  | nameSet {before : Document (List α)} {name : String} :
      Confined (.setName name) none before { before with name := name }
  | descriptionSet {before : Document (List α)} {description : String} :
      Confined (.setDescription description) none before
        { before with description := description }
  | converted {edit : Edit} {document : Document (List α)} (converts : edit.converts = true) :
      Confined edit none document document

/-- The handle that an edit gives back, if that is one. -/
def Result.handle? : Result → Option Handle
  | .handle one => some one
  | _ => none

end Edit

/-! ## What is shown -/

/-- What the scripts show changes where the scripts do. -/
theorem Edit.Confined.shown {α β : Type} {R : α → β → Prop} (hR : Relator.RightUnique R)
    {edit : Edit} {item : Option α} {a a' : Document (List α)} {b b' : Document (List β)}
    (hconfined : edit.Confined item a a') (h : a.Pairs (List.Forall₂ R) b)
    (h' : a'.Pairs (List.Forall₂ R) b') :
    ∃ item', Option.Rel R item item' ∧ edit.Confined item' b b' := by
  have hRs : Relator.RightUnique (List.Forall₂ R) := fun _ _ _ => List.right_unique_forall₂' hR
  cases hconfined with
  | @rewritten _ _ _ stage index script new hposition hinside hdiffers =>
    obtain ⟨shown, shown', hold, hnew, hdiffers'⟩ := h.differsAt hRs h' hdiffers
    obtain ⟨view, -, hview⟩ := forall₂_getElem? hnew (List.getElem?_set_self hinside)
    obtain rfl : shown' = shown.set index view := hRs hnew (forall₂_set hold index hview)
    exact ⟨some view, .some hview, .rewritten hposition (hold.length_eq ▸ hinside) hdiffers'⟩
  | @pushed _ _ stage operator script new hdiffers =>
    obtain ⟨shown, shown', hold, hnew, hdiffers'⟩ := h.differsAt hRs h' hdiffers
    obtain ⟨view, -, hview⟩ := forall₂_getElem? hnew List.getElem?_concat_length
    obtain rfl : shown' = shown ++ [view] := hRs hnew (forall₂_concat hold hview)
    exact ⟨some view, .some hview, .pushed hdiffers'⟩
  | @removed _ _ stage index script old hposition hdiffers =>
    obtain ⟨shown, shown', hold, hnew, hdiffers'⟩ := h.differsAt hRs h' hdiffers
    obtain ⟨view, hat, hview⟩ := forall₂_getElem? hold hposition
    obtain rfl : shown' = shown.eraseIdx index := hRs hnew (forall₂_eraseIdx hold index)
    exact ⟨some view, .some hview, .removed hat hdiffers'⟩
  | @sourceAdded _ url =>
    have hread : ({ a with retrieve := a.retrieve ++ [⟨url, []⟩] } : Document (List α)).Pairs
        (List.Forall₂ R) { b with retrieve := b.retrieve ++ [⟨url, []⟩] } :=
      { h with retrieve := forall₂_concat h.retrieve ⟨rfl, .nil⟩ }
    obtain rfl := hread.unique hRs h' rfl
    exact ⟨none, .none, .sourceAdded⟩
  | @sourceRemoved _ index hposition =>
    have hread : ({ a with retrieve := a.retrieve.eraseIdx index } : Document (List α)).Pairs
        (List.Forall₂ R) { b with retrieve := b.retrieve.eraseIdx index } :=
      { h with retrieve := forall₂_eraseIdx h.retrieve index }
    obtain rfl := hread.unique hRs h' rfl
    exact ⟨none, .none, .sourceRemoved (h.retrieve.length_eq ▸ hposition)⟩
  | @urlSet _ index url hposition =>
    have hread : ({ a with
          retrieve := a.retrieve.modify index fun source => { source with url := url } } :
        Document (List α)).Pairs (List.Forall₂ R)
        { b with
          retrieve := b.retrieve.modify index fun source => { source with url := url } } :=
      { h with retrieve := forall₂_modify h.retrieve index fun _ _ hsource => ⟨rfl, hsource.2⟩ }
    obtain rfl := hread.unique hRs h' rfl
    exact ⟨none, .none, .urlSet (h.retrieve.length_eq ▸ hposition)⟩
  | @nameSet _ name =>
    have hread : ({ a with name := name } : Document (List α)).Pairs (List.Forall₂ R)
        { b with name := name } := { h with name := rfl }
    obtain rfl := hread.unique hRs h' rfl
    exact ⟨none, .none, .nameSet⟩
  | @descriptionSet _ description =>
    have hread : ({ a with description := description } : Document (List α)).Pairs
        (List.Forall₂ R) { b with description := description } := { h with description := rfl }
    obtain rfl := hread.unique hRs h' rfl
    exact ⟨none, .none, .descriptionSet⟩
  | converted hconverts =>
    obtain rfl := h.unique hRs h' rfl
    exact ⟨none, .none, .converted hconverts⟩

namespace Editor

variable {editor after : Editor} {edit : Edit} {result : Edit.Result} {stage : Stage} {index : Nat}
  {operator : Operator}

/-! ## The document -/

theorem Rewrites.position? (h : editor.Rewrites edit stage index operator) :
    edit.position? = some (stage, index) := by
  cases h <;> rfl

/-- An edit that succeeds changes no other handle of the document. -/
theorem Effect.confined (h : editor.Effect edit result after) :
    edit.Confined result.handle? editor.document after.document := by
  cases h with
  | rewritten hcall hposition hplans =>
    obtain ⟨script, hscript, hat⟩ := handle_eq_ok.1 hposition
    exact .rewritten hcall.position? (List.getElem?_eq_some_iff.1 hat).1
      (Document.differsAt_modify hscript fun script => script.set _ _)
  | pushed hposition hplans =>
    exact .pushed (Document.differsAt_modify (script_eq_ok.1 hposition) fun script => script ++ [_])
  | removed hposition =>
    obtain ⟨script, hscript, hat⟩ := handle_eq_ok.1 hposition
    exact .removed hat (Document.differsAt_modify hscript fun script => script.eraseIdx _)
  | sourceAdded => exact .sourceAdded
  | sourceRemoved hposition =>
    exact .sourceRemoved (List.getElem?_eq_some_iff.1 (source_eq_ok.1 hposition)).1
  | urlSet hposition => exact .urlSet (List.getElem?_eq_some_iff.1 (source_eq_ok.1 hposition)).1
  | nameSet => exact .nameSet
  | descriptionSet => exact .descriptionSet
  | converted _ _ | generated _ _ => exact .converted rfl

/-! ## The arena -/

/-- The call that an edit inserts: the one it makes at a position, or the one it appends. -/
inductive Inserts (editor : Editor) : Edit → Operator → Prop
  | rewritten {edit : Edit} {stage : Stage} {index : Nat} {operator : Operator}
      (call : editor.Rewrites edit stage index operator) : Inserts editor edit operator
  | pushed {stage : Stage} {operator : Operator} : Inserts editor (.push stage operator) operator

/-- The arena behind an edit that succeeds: an operator is put in with as many nodes as planned and
lies under the handle that is given back, or nothing is put in; conversions put in what they
convert. -/
inductive Allots (editor : Editor) : Edit → Edit.Result → Arena Node → Prop
  | operator {edit : Edit} {operator : Operator} {plan : OperatorPlan} {fresh : Handle}
      {later : Arena Node} (inserts : editor.Inserts edit operator)
      (planned : editor.catalog.planOperator operator = .ok plan)
      (grows : editor.arena.GrowsBy later plan.nodeCount)
      (minted : editor.arena.Minted later fresh)
      (lowers : later.lowerOperator editor.catalog fresh = .ok operator.normalized) :
      Allots editor edit (.handle fresh) later
  | none {edit : Edit} {result : Edit.Result} (keeps : edit.keepsArena = true) :
      Allots editor edit result editor.arena
  | conversion {edit : Edit} {result : Edit.Result} {later : Arena Node}
      (converts : edit.converts = true) (kept : editor.arena.Extends later) :
      Allots editor edit result later

theorem Plans.allots {plan : OperatorPlan} (h : editor.Plans operator plan)
    (hinserts : editor.Inserts edit operator) :
    editor.Allots edit (.handle (editor.lay plan).value)
      (editor.arena.fill (editor.lay plan).nodes) := by
  have hgrows := Arena.growsBy_fill h.room
  rw [lay, OperatorPlan.length_layout] at hgrows
  exact .operator hinserts h.planned hgrows h.minted h.represents.lowerOperator

theorem Effect.allots (h : editor.Effect edit result after) :
    editor.Allots edit result after.arena := by
  cases h with
  | rewritten hcall _ hplans => exact hplans.allots (.rewritten hcall)
  | pushed _ hplans => exact hplans.allots .pushed
  | removed _ | sourceAdded | sourceRemoved _ | urlSet _ | nameSet | descriptionSet =>
    exact .none rfl
  | converted _ _ | generated _ _ => exact .conversion rfl (editor.arena.extends_fill _)

/-! ## Documents as trees -/

/-- Showing an editor reads every handle of its document, also in an arena that has grown since. -/
theorem pairs_of_view {views : Document (List SelectView)} (h : editor.view = .ok views)
    {later : Arena Node} (hx : editor.arena.Extends later) :
    editor.document.Pairs (List.Forall₂ fun handle view => later.viewSelect handle = .ok view)
      views := by
  refine (Document.mapM_eq_ok_iff.1 h).imp fun script shown hshown => ?_
  exact mapM_eq_ok_iff.1 (hx.viewScript script shown hshown)

/-- An edit touches one place. Whatever document an editor was opened on, the blank one where none
is given, whatever edits followed, and whichever edit then succeeds: of the handles of the document
only the addressed one changes, a rewritten or appended one into the handle that is given back. The
arena grows by the count of nodes of the operator that was put in, whose call the returned handle
lowers to, and it stays the same in edits that put in none. The tree of every other operator, in
every stage and source, is shown as before. -/
theorem edits_touch_one_place {catalog : Catalog} {origin : UInt32}
    {document : Option (Document Script)} {editor later : Editor}
    (hopen : ofDocument catalog origin (document.getD .blank) = .ok editor) (edits : List Edit)
    {edit : Edit} {result : Edit.Result}
    (hperform : (editor.replay edits).perform edit = (.ok result, later)) :
    let reached := editor.replay edits
    edit.Confined result.handle? reached.document later.document ∧
      reached.Allots edit result later.arena ∧
      ∃ views views' item, reached.view = .ok views ∧ later.view = .ok views' ∧
        Option.Rel (fun handle view => later.arena.viewSelect handle = .ok view)
          result.handle? item ∧
        edit.Confined item views views' := by
  intro reached
  have heffect : reached.Effect edit result later := effect_of_perform hperform
  obtain ⟨plain, -, hR⟩ :=
    (represents_of_ofDocument hopen).replay (ofDocument_eq_ok hopen).1 edits
  obtain ⟨_, -, hR'⟩ := hR.effect heffect
  obtain ⟨views, hviews⟩ := hR.view
  obtain ⟨views', hviews'⟩ := hR'.view
  have hunique : Relator.RightUnique fun handle view => later.arena.viewSelect handle = .ok view :=
    fun _ _ _ h h' => Except.ok.inj (h.symm.trans h')
  obtain ⟨item, hitem, hconfined⟩ := heffect.confined.shown hunique
    (pairs_of_view hviews heffect.extends) (pairs_of_view hviews' (.refl _))
  exact ⟨heffect.confined, heffect.allots, views, views', item, hviews, hviews', hitem, hconfined⟩

/-- Setting the argument of the first of two operators of a source, behind an edit that took out a
third one. -/
theorem edits_touch_one_place_update :
    let get : Operator := .sequence [.nat 0x61, .string "bpi"]
    let document : Document Script :=
      ⟨"price", "", 0, [⟨"a", [get, .bare ⟨0x74⟩, get]⟩, ⟨"b", [get]⟩], [], [get]⟩
    let edits : List Edit := [.remove (.retrieve 0) 2]
    let edit : Edit := .update (.retrieve 0) 0 0 (.string "EUR")
    ∃ editor later, ofDocument Catalog.standard 7 ((some document).getD .blank) = .ok editor ∧
      (editor.replay edits).perform edit = (.ok (.handle ⟨23⟩), later) ∧
      edit.Confined (some ⟨23⟩) (editor.replay edits).document later.document ∧
      (editor.replay edits).Allots edit (.handle ⟨23⟩) later.arena ∧
      ∃ views views' item, (editor.replay edits).view = .ok views ∧ later.view = .ok views' ∧
        Option.Rel (fun handle view => later.arena.viewSelect handle = .ok view)
          (some ⟨23⟩) item ∧
        edit.Confined item views views' := by
  intro get document edits edit
  have hresult : (ofDocument Catalog.standard 7 ((some document).getD .blank)).toOption.map
      (fun editor => ((editor.replay edits).perform edit).1) =
        some (.ok (.handle ⟨23⟩)) := by decide +kernel
  obtain ⟨editor, hopen, hresult⟩ := Option.map_eq_some_iff.1 hresult
  have hopen := eq_ok_of_toOption hopen
  have hperform : (editor.replay edits).perform edit =
      (.ok (.handle ⟨23⟩), (editor.replay edits).after edit) := Prod.ext hresult rfl
  exact ⟨editor, _, hopen, hperform, edits_touch_one_place hopen edits hperform⟩

end Editor

end ScriptTree
