import ScriptTree.Catalog.Standard
import ScriptTree.Proofs.Document.SameData
import ScriptTree.Proofs.Tree.FirstFault
import ScriptTree.Proofs.Tree.SameView
import ScriptTree.Proofs.Tree.Shown
/-!
# Lowering what is shown

Lowering walks through an arena on its own and asks other things of the nodes than showing does. All
that it asks can be read off the view, though. So a tree that can be shown lowers to what its view
lowers to, and what is wrong with it shows as well, except for the handle that the fault names.

Main statements: `Arena.lowerOperator_of_viewSelect`, and `Arena.lowering_sees_only_the_view`.
-/

namespace ScriptTree

/-! ## Faults up to the handle named -/

/-- The cause with another handle in place of the one that it names. -/
def TreeFault.naming (handle : Handle) : TreeFault → TreeFault
  | .argumentSelect _ => .argumentSelect handle
  | .noOperand _ => .noOperand handle
  | .nestedOperator _ => .nestedOperator handle
  | .notOperatorSelect stage index => .notOperatorSelect stage index
  | .cyclic => .cyclic

/-- The fault with another handle in place of the one that it names. -/
def Fault.naming (handle : Handle) : Fault → Fault
  | .danglingHandle _ => .danglingHandle handle
  | .unexpectedNode _ expected found => .unexpectedNode handle expected found
  | .malformedTree cause => .malformedTree (cause.naming handle)
  | other => other

/-- The faults are the same up to the handle named. -/
def Fault.Alike (fault other : Fault) : Prop :=
  ∀ handle, fault.naming handle = other.naming handle

theorem Fault.naming_naming (fault : Fault) (handle other : Handle) :
    (fault.naming other).naming handle = fault.naming handle := by
  cases fault with
  | malformedTree cause => cases cause <;> rfl
  | _ => rfl

theorem Fault.Alike.refl (fault : Fault) : fault.Alike fault :=
  fun _ => rfl

theorem Fault.Alike.of_naming {fault other : Fault} {handle : Handle}
    (h : (fault.naming handle).Alike (other.naming handle)) : fault.Alike other := by
  simpa only [Alike, naming_naming] using h

/-- Both results are values, related by `R`, or both are faults, the same up to the handle named. -/
inductive Agree {α : Type} (R : α → α → Prop) : Except Fault α → Except Fault α → Prop
  | ok {value other : α} (related : R value other) : Agree R (.ok value) (.ok other)
  | error {fault other : Fault} (alike : fault.Alike other) : Agree R (.error fault) (.error other)

namespace Agree

variable {α β : Type} {R : α → α → Prop} {S : β → β → Prop} {result other : Except Fault α}

theorem refl (h : ∀ value, R value value) (result : Except Fault α) : Agree R result result := by
  cases result with
  | ok value => exact .ok (h value)
  | error fault => exact .error (.refl fault)

/-- Which handle the faults name does not matter. -/
theorem of_naming (handle : Handle)
    (h : Agree R (result.mapError (Fault.naming handle)) (other.mapError (Fault.naming handle))) :
    Agree R result other := by
  cases result with
  | ok value =>
    cases other with
    | error _ => cases h
    | ok _ =>
      cases h with
      | ok related => exact .ok related
  | error fault =>
    cases other with
    | ok _ => cases h
    | error _ =>
      cases h with
      | error alike => exact .error alike.of_naming

theorem map {f : α → β} (h : Agree R result other) (hf : ∀ x y, R x y → S (f x) (f y)) :
    Agree S (f <$> result) (f <$> other) := by
  cases h with
  | ok related => exact .ok (hf _ _ related)
  | error alike => exact .error alike

theorem bind {next after : α → Except Fault β} (h : Agree R result other)
    (hnext : ∀ x y, R x y → Agree S (next x) (after y)) :
    Agree S (result >>= next) (other >>= after) := by
  cases h with
  | ok related => exact hnext _ _ related
  | error alike => exact .error alike

/-- Lists read alike when their items do. -/
theorem mapM {f : α → Except Fault β} {xs ys : List α}
    (h : List.Forall₂ (fun x y => Agree S (f x) (f y)) xs ys) :
    Agree (List.Forall₂ S) (xs.mapM f) (ys.mapM f) := by
  induction h with
  | nil => exact .ok .nil
  | cons hhead _ ih =>
    rw [List.mapM_cons, List.mapM_cons]
    refine hhead.bind fun x y hxy => ih.bind fun rest rest' hrest => ?_
    exact .ok (.cons hxy hrest)

end Agree

/-! ## Lowering views -/

/-- The input that an argument is shown as; a fault names the handle `blamed`. -/
def ArgumentView.literal (blamed : Handle) : ArgumentView → Except Fault Input
  | .input literal => .ok literal
  | .select _ => .error (.unexpectedNode blamed [.input] .select)

/-- The raw value of a shown argument; a fault names the handle `blamed`. -/
def ArgumentView.value (blamed : Handle) : ArgumentView → Except Fault Json
  | .input literal => .ok literal.value
  | .select choice =>
    match choice.kind with
    | .filter =>
      match Filter.ofName? choice.selected.label with
      | none => .error (.unknownOption .filters choice.selected.label)
      | some function =>
        match choice.selected.arguments with
        | [] => .error (.malformedTree (.noOperand blamed))
        | operand :: _ => do
          let literal ← operand.literal blamed
          return .array [.nat function.code.toNat, literal.value]
    | .reducer =>
      match Reducer.ofName? choice.selected.label with
      | none => .error (.unknownOption .reducers choice.selected.label)
      | some function => .ok (.nat function.code.toNat)
    | .operator _ => .error (.malformedTree (.nestedOperator blamed))

/-- The operator of a shown select; a fault names the handle `blamed`. -/
def SelectView.lower (catalog : Catalog) (blamed : Handle) (view : SelectView) :
    Except Fault Operator :=
  match view.kind with
  | .operator category =>
    match catalog.codeFor? category view.selected.label with
    | none => .error (.unknownOption (.operators category) view.selected.label)
    | some code => Operator.call code <$> view.selected.arguments.mapM (ArgumentView.value blamed)
  | .filter | .reducer => .error (.malformedTree (.argumentSelect blamed))

/-! ### Views that are the same data -/

theorem Json.sameItems_of_forall₂ {as bs : List Json}
    (h : List.Forall₂ (fun a b => a.sameData b = true) as bs) : sameItems as bs = true := by
  induction h with
  | nil => rfl
  | cons hhead _ ih => rw [sameItems, hhead, ih, Bool.and_self]

theorem ArgumentView.forall₂_of_sameAll {as bs : List ArgumentView} (h : sameAll as bs = true) :
    List.Forall₂ (fun a b => a.sameData b = true) as bs := by
  induction as generalizing bs with
  | nil =>
    cases bs with
    | nil => exact .nil
    | cons b bs => cases h
  | cons a as ih =>
    cases bs with
    | nil => cases h
    | cons b bs =>
      obtain ⟨hhead, htail⟩ := Bool.and_eq_true_iff.1 h
      exact .cons hhead (ih htail)

/-- What views of selects have in common when they are the same data. -/
theorem SelectView.of_sameData {a b : SelectView} (h : a.sameData b = true) :
    a.kind = b.kind ∧ a.selected.label = b.selected.label ∧
      List.Forall₂ (fun x y => x.sameData y = true) a.selected.arguments b.selected.arguments := by
  obtain ⟨_, kind, _, _, ⟨_, name, _, arguments⟩, _⟩ := a
  obtain ⟨_, kind', _, _, ⟨_, name', _, arguments'⟩, _⟩ := b
  simp only [sameData, OptionView.sameData, Bool.and_eq_true, decide_eq_true_eq] at h
  obtain ⟨⟨⟨⟨⟨-, hkind⟩, -⟩, -⟩, ⟨⟨-, hname⟩, -⟩, harguments⟩, -⟩ := h
  exact ⟨hkind, hname, ArgumentView.forall₂_of_sameAll harguments⟩

theorem ArgumentView.literal_of_sameData {a b : ArgumentView} (h : a.sameData b = true)
    (blamed : Handle) :
    Agree (fun x y => x.value.sameData y.value = true) (a.literal blamed) (b.literal blamed) := by
  cases a with
  | select choice =>
    cases b with
    | select other => exact .error (.refl _)
    | input => cases h
  | input literal =>
    cases b with
    | select => cases h
    | input other => exact .ok (Bool.and_eq_true_iff.1 h).2

theorem ArgumentView.value_of_sameData {a b : ArgumentView} (h : a.sameData b = true)
    (blamed : Handle) :
    Agree (fun x y => x.sameData y = true) (a.value blamed) (b.value blamed) := by
  cases a with
  | input literal =>
    cases b with
    | select => cases h
    | input other => exact .ok (Bool.and_eq_true_iff.1 h).2
  | select choice =>
    cases b with
    | input => cases h
    | select other =>
      obtain ⟨_, kind, _, _, ⟨_, name, _, arguments⟩, _⟩ := choice
      obtain ⟨_, kind', _, _, ⟨_, name', _, arguments'⟩, _⟩ := other
      obtain ⟨rfl, rfl, harguments⟩ := SelectView.of_sameData h
      cases kind with
      | operator category => exact .error (.refl _)
      | reducer => exact .refl Json.sameData_refl _
      | filter =>
        simp only [value]
        cases Filter.ofName? name with
        | none => exact .error (.refl _)
        | some function =>
          cases harguments with
          | nil => exact .error (.refl _)
          | cons hoperand =>
            refine (literal_of_sameData hoperand blamed).bind fun literal other hvalue => .ok ?_
            simp [Json.sameData, Json.sameItems, Json.sameData_refl, hvalue]

theorem SelectView.lower_of_sameData (catalog : Catalog) {view other : SelectView}
    (h : view.sameData other = true) (blamed : Handle) :
    Agree (fun a b => a.sameData b = true) (view.lower catalog blamed)
      (other.lower catalog blamed) := by
  obtain ⟨hkind, hname, harguments⟩ := SelectView.of_sameData h
  simp only [lower, hkind, hname]
  cases other.kind with
  | filter | reducer => exact .error (.refl _)
  | operator category =>
    dsimp only
    cases catalog.codeFor? category other.selected.label with
    | none => exact .error (.refl _)
    | some code =>
      have hvalues := harguments.imp fun _ _ h => ArgumentView.value_of_sameData h blamed
      refine (Agree.mapM hvalues).map fun args args' hargs => ?_
      rw [Operator.sameData_call, Json.sameItems_of_forall₂ hargs, decide_eq_true rfl]
      rfl

namespace Arena

variable {arena : Arena Node} {handle : Handle} {depth : Nat}

/-! ### What a view shows -/

theorem shows_of_viewArgument {argument : ArgumentView}
    (h : arena.viewArgument depth handle = .ok argument) : arena.Shows depth handle argument := by
  obtain ⟨node, hnode, h⟩ := bind_eq_ok.1 h
  have hnode := resolve_eq_ok.1 hnode
  cases node with
  | select select =>
    obtain ⟨view, hview, rfl⟩ := map_eq_ok.1 h
    obtain ⟨chosen, hchosen, hview⟩ := bind_eq_ok.1 hview
    exact .select hnode (resolveOption_eq_ok.1 hchosen) hview
  | input input =>
    cases h
    exact .input hnode
  | option chosen => cases h

/-- An option is shown around what is shown of its arguments. -/
theorem exists_shows_of_viewOption {chosen : Chosen} {view : OptionView}
    (h : arena.viewOption depth chosen = .ok view) :
    ∃ below arguments, List.Forall₂ (arena.Shows below) chosen.arguments arguments ∧
      chosen.view arguments = view := by
  cases depth with
  | zero => cases h
  | succ depth =>
    rw [viewOption_succ, map_eq_ok] at h
    obtain ⟨arguments, harguments, hview⟩ := h
    exact ⟨depth, arguments, (mapM_eq_ok_iff.1 harguments).imp fun _ _ => shows_of_viewArgument,
      hview⟩

/-! ### What is shown lowers as its view -/

variable {argument : ArgumentView} {view : SelectView}

/-- The operand of a filter has to be shown as an input. -/
theorem Shows.resolveInput (h : arena.Shows depth handle argument) (blamed : Handle) :
    (arena.resolveInput handle).mapError (Fault.naming blamed) = argument.literal blamed := by
  cases h with
  | input node =>
    rw [resolveInput_eq_ok.2 node]
    rfl
  | select node =>
    rw [Arena.resolveInput, resolveAs, resolve_eq_ok.2 node]
    rfl

/-- An argument that is shown lowers to the value of its view. -/
theorem Shows.lowerArgument (h : arena.Shows depth handle argument) (blamed : Handle) :
    (arena.lowerArgument handle).mapError (Fault.naming blamed) = argument.value blamed := by
  cases h with
  | input node =>
    rw [Arena.lowerArgument, resolve_eq_ok.2 node]
    rfl
  | @select select chosen _ node option shown =>
    obtain ⟨below, arguments, harguments, rfl⟩ := exists_shows_of_viewOption shown
    obtain ⟨name, output, handles⟩ := chosen
    rw [Arena.lowerArgument, resolve_eq_ok.2 node, ok_bind]
    show (arena.lowerArgumentSelect handle select).mapError _ = _
    rw [lowerArgumentSelect, resolveOption_eq_ok.2 option, ok_bind]
    simp only [ArgumentView.value, Select.view, Chosen.view]
    cases select.kind with
    | operator category => rfl
    | reducer => cases Reducer.ofName? name <;> rfl
    | filter =>
      cases Filter.ofName? name with
      | none => rfl
      | some function =>
        cases harguments with
        | nil => rfl
        | cons hoperand =>
          simp only [mapError_bind, hoperand.resolveInput blamed]
          rfl

/-- A select that is shown lowers to what its view lowers to. -/
theorem lowerOperator_of_viewSelect (catalog : Catalog)
    (h : arena.viewSelect handle = .ok view) (blamed : Handle) :
    (arena.lowerOperator catalog handle).mapError (Fault.naming blamed) =
      view.lower catalog blamed := by
  obtain ⟨select, hselect, h⟩ := bind_eq_ok.1 h
  obtain ⟨chosen, hchosen, h⟩ := bind_eq_ok.1 h
  obtain ⟨shown, hshown, h⟩ := bind_eq_ok.1 h
  cases h
  obtain ⟨below, arguments, harguments, rfl⟩ := exists_shows_of_viewOption hshown
  rw [lowerOperator, hselect, ok_bind]
  simp only [SelectView.lower, Select.view, Chosen.view]
  cases select.kind with
  | filter | reducer => rfl
  | operator category =>
    simp only [hchosen, ok_bind]
    cases catalog.codeFor? category chosen.label with
    | none => rfl
    | some code =>
      simp only [mapError_bind, mapError_mapM]
      rw [mapM_eq_of_forall₂ (harguments.imp fun _ _ hargument => hargument.lowerArgument blamed)]
      exact (map_eq_pure_bind ..).symm

/-- Lowering sees nothing that a view hides. Of two trees that are shown alike, in whatever arenas
they are, under any catalog both lower to the same operator, or both end in the same fault up to the
handle named. The same holds where fractions are compared as numbers. -/
theorem lowering_sees_only_the_view (catalog : Catalog) {arena arena' : Arena Node}
    {handle handle' : Handle} {view view' : SelectView} (h : arena.viewSelect handle = .ok view)
    (h' : arena'.viewSelect handle' = .ok view') :
    (view = view' →
      Agree (fun a b => a = b) (arena.lowerOperator catalog handle)
        (arena'.lowerOperator catalog handle')) ∧
    (view.sameData view' = true →
      Agree (fun a b => a.sameData b = true) (arena.lowerOperator catalog handle)
        (arena'.lowerOperator catalog handle')) := by
  have hlower := lowerOperator_of_viewSelect catalog h handle
  have hlower' := lowerOperator_of_viewSelect catalog h' handle
  constructor
  · rintro rfl
    refine .of_naming handle ?_
    rw [hlower, hlower']
    exact .refl (fun _ => rfl) _
  · intro hsame
    refine .of_naming handle ?_
    rw [hlower, hlower']
    exact SelectView.lower_of_sameData catalog hsame handle

/-- A filter without an operand, under other handles in either arena; and an operator with one input
in both places, which stands against one with a zero and a negative zero. -/
theorem lowering_sees_only_the_view_handMade :
    let zero : Input := ⟨"min", .float, .number (.float .zero)⟩
    let negativeZero : Input := ⟨"min", .float, .number (.float ⟨true, 0, 0, .inr ⟨rfl, rfl⟩⟩)⟩
    let choice (selected : Handle) : Node :=
      .select ⟨.operator .array, none, .one .array, selected, []⟩
    let top : Node := .option ⟨"top", .one .bytes, []⟩
    let shared := (Arena.empty 7).fill [.input zero, .option ⟨"take", .one .array, [⟨7⟩, ⟨7⟩]⟩,
      choice ⟨8⟩, top, .select ⟨.filter, none, .one .bytes, ⟨10⟩, []⟩,
      .option ⟨"filter", .one .array, [⟨11⟩]⟩, choice ⟨12⟩]
    let apart := (Arena.empty 0).fill [top, .select ⟨.filter, none, .one .bytes, ⟨0⟩, []⟩,
      .option ⟨"filter", .one .array, [⟨1⟩]⟩, choice ⟨2⟩, .input zero, .input negativeZero,
      .option ⟨"take", .one .array, [⟨5⟩, ⟨4⟩]⟩, choice ⟨6⟩]
    (∃ view, shared.viewSelect ⟨13⟩ = .ok view ∧ apart.viewSelect ⟨3⟩ = .ok view ∧
      shared.lowerOperator .standard ⟨13⟩ = .error (.malformedTree (.noOperand ⟨11⟩)) ∧
      Agree (fun a b => a = b) (shared.lowerOperator .standard ⟨13⟩)
        (apart.lowerOperator .standard ⟨3⟩)) ∧
    ∃ view view', shared.viewSelect ⟨9⟩ = .ok view ∧ apart.viewSelect ⟨7⟩ = .ok view' ∧
      view.sameData view' = true ∧
      (shared.lowerOperator .standard ⟨9⟩).isOk = true ∧
      Agree (fun a b => a.sameData b = true) (shared.lowerOperator .standard ⟨9⟩)
        (apart.lowerOperator .standard ⟨7⟩) := by
  intro zero negativeZero choice top shared apart
  let view : SelectView := ⟨.operator, .operator .array, none, .one .array,
    ⟨.selectedOperatorOption, "filter", .one .array, [.select ⟨.argument, .filter, none,
      .one .bytes, ⟨.selectedOperatorOption, "top", .one .bytes, []⟩, []⟩]⟩, []⟩
  have hview : shared.viewSelect ⟨13⟩ = .ok view := by cbv
  have hview' : apart.viewSelect ⟨3⟩ = .ok view := by cbv
  obtain ⟨hfault, hlowers, hsame⟩ :
      shared.lowerOperator .standard ⟨13⟩ = .error (.malformedTree (.noOperand ⟨11⟩)) ∧
      (shared.lowerOperator .standard ⟨9⟩).isOk = true ∧
      (do
        let first ← shared.viewSelect ⟨9⟩
        let second ← apart.viewSelect ⟨7⟩
        return first.sameData second) = .ok true := by decide +kernel
  obtain ⟨first, hfirst, hsame⟩ := bind_eq_ok.1 hsame
  obtain ⟨second, hsecond, hsame⟩ := bind_eq_ok.1 hsame
  have hsame : first.sameData second = true := Except.ok.inj hsame
  exact ⟨⟨view, hview, hview', hfault,
      (lowering_sees_only_the_view .standard hview hview').1 rfl⟩,
    first, second, hfirst, hsecond, hsame, hlowers,
    (lowering_sees_only_the_view .standard hfirst hsecond).2 hsame⟩

end Arena

end ScriptTree
