import ScriptTree.Catalog.Standard
import ScriptTree.Proofs.Editor.Replacing
import ScriptTree.Proofs.Editor.WellFormed
/-!
# Setting an argument

Setting an argument plans the whole operator again. What was there before fits, as it was planned
once, and so do the defaults that fill up the places in between. So it depends on the new value
alone whether the call is planned, and where it is not, the fault names the argument that was set.

Main statement: `Editor.update_succeeds_iff`.
-/

namespace ScriptTree

/-! ## Arguments -/

namespace Row

variable {row : Row} {args : List Json} {argument position : Nat} {value : Json}

theorem length_withArgument (row : Row) (args : List Json) (argument : Nat) (value : Json) :
    (row.withArgument args argument value).length = max args.length (argument + 1) := by
  rw [withArgument, List.length_map, List.length_range]

theorem getElem?_withArgument :
    (row.withArgument args argument value)[position]? =
      if position < max args.length (argument + 1) then
        some (if position = argument then value
          else args[position]?.getD (row.defaultAt position))
      else none := by
  rw [withArgument, List.getElem?_map]
  by_cases h : position < max args.length (argument + 1)
  · rw [List.getElem?_range h, if_pos h]
    rfl
  · rw [List.getElem?_eq_none (by simpa using h), if_neg h]
    rfl

theorem getElem?_withArgument_self :
    (row.withArgument args argument value)[argument]? = some value := by
  rw [getElem?_withArgument, if_pos (by omega), if_pos rfl]

/-- Setting an argument to the value that it has changes nothing. -/
theorem withArgument_eq_self (h : args[argument]? = some value) :
    row.withArgument args argument value = args := by
  obtain ⟨hlt, rfl⟩ := List.getElem?_eq_some_iff.1 h
  refine List.ext_getElem? fun position => ?_
  rw [getElem?_withArgument, Nat.max_eq_left hlt]
  by_cases hposition : position < args.length
  · rw [if_pos hposition, List.getElem?_eq_getElem hposition]
    split
    · next hsame =>
      subst hsame
      rfl
    · rfl
  · rw [if_neg hposition, List.getElem?_eq_none (Nat.not_lt.1 hposition)]

/-- Old arguments and defaults fit at every other place. -/
theorem Admits.withArgument_of_ne (h : row.Admits args) {parameter : Parameter} {raw : Json}
    (hparameter : row.parameters[position]? = some parameter)
    (hraw : (row.withArgument args argument value)[position]? = some raw)
    (hne : position ≠ argument) : parameter.Admits raw := by
  rw [getElem?_withArgument, if_neg hne] at hraw
  split at hraw
  · obtain rfl := Option.some.inj hraw
    cases hold : args[position]? with
    | some old => exact h.all position parameter old hparameter hold
    | none =>
      show parameter.Admits (row.defaultAt position)
      rw [defaultAt, hparameter]
      exact parameter.admits_default
  · cases hraw

theorem Admits.length_withArgument_le (h : row.Admits args)
    (hargument : argument < row.parameters.length) (value : Json) :
    (row.withArgument args argument value).length ≤ row.parameters.length := by
  rw [length_withArgument]
  exact Nat.max_le.2 ⟨h.length_le, hargument⟩

/-- With a value that fits, the whole call fits. -/
theorem Admits.withArgument (h : row.Admits args) {parameter : Parameter}
    (hparameter : row.parameters[argument]? = some parameter) (hvalue : parameter.Admits value) :
    row.Admits (row.withArgument args argument value) where
  length_le := h.length_withArgument_le (List.getElem?_eq_some_iff.1 hparameter).1 value
  all := by
    intro position found raw hfound hraw
    by_cases hposition : position = argument
    · subst hposition
      rw [getElem?_withArgument_self] at hraw
      obtain rfl := Option.some.inj hraw
      obtain rfl := Option.some.inj (hparameter.symm.trans hfound)
      exact hvalue
    · exact h.withArgument_of_ne hfound hraw hposition

/-- With a value that does not fit, that value is what is wrong with the call. -/
theorem Admits.planArguments_withArgument (h : row.Admits args) {parameter : Parameter}
    {cause : ArgumentFault} (hparameter : row.parameters[argument]? = some parameter)
    (hcause : planArgument parameter value = .error cause) :
    planArguments row (row.withArgument args argument value) =
      .error (.malformedArgument row.code argument cause) := by
  refine planArguments_eq_error
    (h.length_withArgument_le (List.getElem?_eq_some_iff.1 hparameter).1 value) ?_ hparameter
    getElem?_withArgument_self hcause
  intro position found raw hfound hraw
  rw [List.getElem?_take] at hfound
  split at hfound
  · next hbefore => exact h.withArgument_of_ne hfound hraw (Nat.ne_of_lt hbefore)
  · cases hfound

end Row

/-! ## Documents -/

/-- Putting an operator where it stands changes nothing. -/
theorem Document.modify_set_self {document : Document Script} {stage : Stage} {index : Nat}
    {script : Script} {operator : Operator} (hscript : document.script? stage = some script)
    (hoperator : script[index]? = some operator) :
    (document.modify stage fun script => script.set index operator) = document := by
  obtain ⟨hindex, rfl⟩ := List.getElem?_eq_some_iff.1 hoperator
  have hset : script.set index script[index] = script := List.set_getElem_self hindex
  cases stage with
  | retrieve position =>
    obtain ⟨source, hsource, rfl⟩ := Option.map_eq_some_iff.1 hscript
    have hsame : document.retrieve.modify position
        (mapSource fun script => script.set index source.script[index]) = document.retrieve := by
      refine List.ext_getElem? fun other => ?_
      rw [List.getElem?_modify]
      by_cases hother : position = other
      · subst hother
        simp [hsource, mapSource, hset]
      · simp [hother]
    rw [modify, hsame]
  | aggregate =>
    obtain rfl := Option.some.inj hscript
    rw [modify, hset]
  | tally =>
    obtain rfl := Option.some.inj hscript
    rw [modify, hset]

namespace Editor

variable {editor : Editor} {document : Document Script} {stage : Stage} {index argument : Nat}
  {value : Json} {old : Handle} {plan : OperatorPlan} {row : Row} {args : List Json}

/-! ## The call at a position -/

/-- The operator at a position is the call of a row of the catalog with raw arguments. -/
structure Calls (editor : Editor) (stage : Stage) (index : Nat) (row : Row) (args : List Json) :
    Prop where
  listed : row ∈ editor.catalog.rows
  lowers : ∃ handle, editor.handle stage index = .ok handle ∧
    editor.arena.lowerOperator editor.catalog handle = .ok (.call row.code args)

theorem Stands.calls (h : editor.Stands stage index old plan) :
    editor.Calls stage index plan.row (plan.arguments.map ArgumentPlan.raw) :=
  ⟨h.valid.row, old, h.position, h.holds.lowerOperator h.valid⟩

theorem Stands.eq_of_calls (h : editor.Stands stage index old plan)
    (hcalls : editor.Calls stage index row args) :
    row = plan.row ∧ args = plan.arguments.map ArgumentPlan.raw := by
  obtain ⟨hrow, handle, hposition, hlowers⟩ := hcalls
  obtain rfl : old = handle := Except.ok.inj (h.position.symm.trans hposition)
  have hsame : plan.operator = .call row.code args :=
    Except.ok.inj ((h.holds.lowerOperator h.valid).symm.trans hlowers)
  obtain ⟨hcode, hargs⟩ := Operator.call_inj.1 hsame
  have hself := Catalog.row_of_mem hrow
  rw [← hcode, Catalog.row_of_mem h.valid.row] at hself
  exact ⟨(Except.ok.inj hself).symm, hargs.symm⟩

/-- The arguments of what stands at a position fit. -/
theorem Stands.admits (h : editor.Stands stage index old plan) :
    plan.row.Admits (plan.arguments.map ArgumentPlan.raw) :=
  planArguments_succeeds_iff.1 ⟨_, planArguments_eq_ok.2 ⟨h.valid.arguments, rfl⟩⟩

/-- The call that setting an argument makes. -/
theorem Stands.updated (h : editor.Stands stage index old plan) (argument : Nat) (value : Json) :
    editor.updated stage index argument value =
      if plan.row.parameters.length ≤ argument then
        .error (.outOfRange (.noArgument plan.row.name plan.row.parameters.length argument))
      else .ok (.call plan.row.code
        (plan.row.withArgument (plan.arguments.map ArgumentPlan.raw) argument value)) := by
  have hlower := h.holds.lowerOperator h.valid
  obtain ⟨given, hdecode, hgiven⟩ :=
    Operator.exists_decode_call plan.row.code (plan.arguments.map ArgumentPlan.raw)
  have hdecode : plan.operator.decode = .ok (plan.row.code, given) := hdecode
  rw [Editor.updated, h.position, ok_bind, hlower, ok_bind, hdecode, ok_bind]
  simp only [Catalog.row_of_mem h.valid.row, ok_bind, hgiven]
  split
  · rfl
  · next hargument =>
    rw [set_padded (Nat.not_le.1 hargument)]
    rfl

/-! ## What setting an argument answers -/

theorem outOfRange_of_script {fault : Fault} (h : editor.script stage = .error fault) :
    ∃ cause, fault = .outOfRange cause := by
  unfold script at h
  split at h
  · split at h
    · cases h
    · cases h
      exact ⟨_, rfl⟩
  · cases h
  · cases h

/-- A position that does not exist is out of range. -/
theorem outOfRange_of_handle {fault : Fault} (h : editor.handle stage index = .error fault) :
    ∃ cause, fault = .outOfRange cause := by
  rcases bind_eq_error.1 h with h | ⟨handles, -, h⟩
  · exact outOfRange_of_script h
  · split at h
    · cases h
    · cases h
      exact ⟨_, rfl⟩

/-- Without an operator at the position there is nothing to set. -/
theorem perform_update_of_handle {fault : Fault}
    (h : editor.handle stage index = .error fault) (argument : Nat) (value : Json) :
    (editor.perform (.update stage index argument value)).1 = .error fault := by
  rw [perform_update, Editor.updated, h]
  rfl

/-- An argument that is not declared cannot be set. -/
theorem Stands.update_undeclared (h : editor.Stands stage index old plan)
    (hargument : plan.row.parameters.length ≤ argument) (value : Json) :
    (editor.perform (.update stage index argument value)).1 =
      .error (.outOfRange (.noArgument plan.row.name plan.row.parameters.length argument)) := by
  rw [perform_update, h.updated, if_pos hargument]
  rfl

section Declared

variable {parameter : Parameter} (h : editor.Stands stage index old plan)
  (hparameter : plan.row.parameters[argument]? = some parameter)

include h hparameter

theorem Stands.rewrites_update (value : Json) :
    editor.Rewrites (.update stage index argument value) stage index
      (.call plan.row.code
        (plan.row.withArgument (plan.arguments.map ArgumentPlan.raw) argument value)) := by
  have hargument := (List.getElem?_eq_some_iff.1 hparameter).1
  refine .update ?_
  rw [h.updated, if_neg (Nat.not_le.2 hargument)]

/-- A value that does not fit is the fault. -/
theorem Stands.update_misfit {cause : ArgumentFault}
    (hcause : planArgument parameter value = .error cause) :
    (editor.perform (.update stage index argument value)).1 =
      .error (.malformedArgument plan.row.code argument cause) :=
  (h.rewrites_update hparameter value).misfit h.position h.valid.row
    (h.admits.planArguments_withArgument hparameter hcause)

variable (hvalue : parameter.Admits value)

include hvalue

/-- A value that fits needs room for the operator with its arguments up to that value. -/
theorem Stands.update_full
    (hroom : editor.arena.remaining <
      plan.row.nodes (max plan.arguments.length (argument + 1))) :
    (editor.perform (.update stage index argument value)).1 =
      .error (editor.arena.full (plan.row.nodes (max plan.arguments.length (argument + 1)))) := by
  have hcall := h.rewrites_update hparameter value
  have hfull := hcall.full h.position h.valid.row (h.admits.withArgument hparameter hvalue)
  rw [Row.length_withArgument, List.length_map] at hfull
  exact hfull hroom

theorem Stands.update_succeeds
    (hroom : plan.row.nodes (max plan.arguments.length (argument + 1)) ≤
      editor.arena.remaining) :
    ∃ fresh, (editor.perform (.update stage index argument value)).1 = .ok (.handle fresh) := by
  have hcall := h.rewrites_update hparameter value
  have hsucceeds := hcall.succeeds h.position h.valid.row
    (h.admits.withArgument hparameter hvalue)
  rw [Row.length_withArgument, List.length_map] at hsucceeds
  obtain ⟨fresh, -, hresult, -⟩ := hsucceeds hroom
  exact ⟨fresh, hresult⟩

end Declared

/-- Where a document is represented, an argument can be set exactly when an operator stands at the
position that declares it, the value fits, and there is room. -/
theorem Represents.exists_update_iff (h : editor.Represents document) :
    (∃ result, (editor.perform (.update stage index argument value)).1 = .ok result) ↔
      ∃ row args parameter, editor.Calls stage index row args ∧
        row.parameters[argument]? = some parameter ∧ parameter.Admits value ∧
        row.nodes (max args.length (argument + 1)) ≤ editor.arena.remaining := by
  constructor
  · rintro ⟨result, hresult⟩
    obtain ⟨plan, old, hstands⟩ : ∃ plan old, editor.Stands stage index old plan := by
      cases hposition : editor.handle stage index with
      | error fault => cases hresult.symm.trans (perform_update_of_handle hposition argument value)
      | ok old =>
        obtain ⟨plan, hstands⟩ := h.stands hposition
        exact ⟨plan, old, hstands⟩
    have hargument : argument < plan.row.parameters.length := by
      by_contra hundeclared
      cases hresult.symm.trans (hstands.update_undeclared (Nat.not_lt.1 hundeclared) value)
    have hparameter := List.getElem?_eq_getElem hargument
    have hvalue : plan.row.parameters[argument].Admits value := by
      by_contra hmisfit
      obtain ⟨cause, hcause⟩ := Parameter.exists_error_of_not_admits hmisfit
      cases hresult.symm.trans (hstands.update_misfit hparameter hcause)
    refine ⟨plan.row, _, _, hstands.calls, hparameter, hvalue, ?_⟩
    rw [List.length_map]
    by_contra hroom
    cases hresult.symm.trans (hstands.update_full hparameter hvalue (Nat.not_le.1 hroom))
  · rintro ⟨row, args, parameter, hcalls, hparameter, hvalue, hroom⟩
    obtain ⟨old, hposition, -⟩ := hcalls.lowers
    obtain ⟨plan, hstands⟩ := h.stands hposition
    obtain ⟨rfl, rfl⟩ := hstands.eq_of_calls hcalls
    rw [List.length_map] at hroom
    obtain ⟨fresh, hresult⟩ := hstands.update_succeeds hparameter hvalue hroom
    exact ⟨_, hresult⟩

/-! ## Setting what is there -/

/-- A document is shown as its rendering, script by script. -/
theorem Represents.renders (h : editor.Represents document) :
    ∃ views, editor.view = .ok views ∧
      document.Pairs (fun script views => editor.catalog.renderScript script = some views)
        views := by
  obtain ⟨views, hviews⟩ := h.view
  refine ⟨views, hviews, Document.Pairs.trans ?_ h (Document.mapM_eq_ok_iff.1 hviews)⟩
  intro script handles views hscript hviews
  obtain ⟨rendered, hrendered, hshown⟩ := hscript.viewScript
  rw [hrendered, Except.ok.inj (hshown.symm.trans hviews)]

/-- Editors on one catalog that represent one document show the same. -/
theorem Represents.view_eq {later : Editor} (h : editor.Represents document)
    (hlater : later.Represents document) (hcatalog : later.catalog = editor.catalog) :
    later.view = editor.view := by
  obtain ⟨views, hviews, hrenders⟩ := h.renders
  obtain ⟨views', hviews', hrenders'⟩ := hlater.renders
  have hsame : views'.Pairs (· = ·) views := by
    refine hrenders'.symm.trans (fun _ script _ hfirst hsecond => ?_) hrenders
    rw [hcatalog] at hfirst
    exact Option.some.inj (hfirst.symm.trans hsecond)
  rw [hviews, hviews', Document.pairs_eq_iff.1 hsame]

/-- Setting an argument to the value that it has is no edit of the document. -/
theorem Represents.plain_update_self (h : editor.Represents document)
    (hcalls : editor.Calls stage index row args) (hvalue : args[argument]? = some value) :
    (Edit.update stage index argument value).plain editor.catalog document = some document := by
  obtain ⟨hlisted, handle, hposition, hlowers⟩ := hcalls
  obtain ⟨plan, hstands⟩ := h.stands hposition
  obtain ⟨rfl, rfl⟩ := hstands.eq_of_calls ⟨hlisted, handle, hposition, hlowers⟩
  obtain ⟨script, operator, hscript, hoperator, hR⟩ := h.operatorAt hposition
  obtain rfl := Except.ok.inj (hlowers.symm.trans hR.lowerOperator)
  have hargument : argument < plan.row.parameters.length :=
    Nat.lt_of_lt_of_le (List.getElem?_eq_some_iff.1 hvalue).1 hstands.admits.length_le
  have hdecoded := Operator.decoded_call plan.row.code (plan.arguments.map ArgumentPlan.raw)
  have hrewritten := Catalog.rewritten_of_decoded hdecoded
    (Catalog.row_of_mem hlisted) hargument value
  rw [Row.withArgument_eq_self hvalue] at hrewritten
  rw [Edit.plain, Document.rewrite_of_eq_some hscript hoperator hrewritten,
    Document.modify_set_self hscript hoperator]

/-- Behind it the editor represents the same document. -/
theorem Represents.after_update_self (h : editor.Represents document)
    (hcalls : editor.Calls stage index row args) (hvalue : args[argument]? = some value) :
    (editor.after (.update stage index argument value)).Represents document := by
  rcases editor.after_eq_or_effect (.update stage index argument value) with
    hsame | ⟨result, -, heffect⟩
  · rwa [hsame]
  · obtain ⟨plain, hplain, hafter⟩ := h.effect heffect
    rw [h.plain_update_self hcalls hvalue] at hplain
    obtain rfl := Option.some.inj hplain
    exact hafter

/-- Setting an argument succeeds exactly when the value itself will do. Whatever document an editor
was opened on, the blank one where none is given, and whatever edits followed: an argument can be
set where an operator stands that declares it, if the value fits the declaration and there is room
for the operator with its arguments up to the last that it had or the one that is set. Otherwise the
answer is the first of these faults: there is no such position, no such argument, the value does not
fit, told with the position of the argument, or there is no room. And an argument that is set to the
value that it has leaves the document, compact and as a tree, as it was. -/
theorem update_succeeds_iff {catalog : Catalog} {origin : UInt32}
    {document : Option (Document Script)} {editor : Editor}
    (hopen : ofDocument catalog origin (document.getD .blank) = .ok editor) (edits : List Edit)
    (stage : Stage) (index argument : Nat) (value : Json) :
    let reached := editor.replay edits
    let edit : Edit := .update stage index argument value
    let answer := (reached.perform edit).1
    ((∃ result, answer = .ok result) ↔
      ∃ row args parameter, reached.Calls stage index row args ∧
        row.parameters[argument]? = some parameter ∧ parameter.Admits value ∧
        row.nodes (max args.length (argument + 1)) ≤ reached.arena.remaining) ∧
    (∀ fault, reached.handle stage index = .error fault →
      answer = .error fault ∧ ∃ cause, fault = .outOfRange cause) ∧
    ∀ old, reached.handle stage index = .ok old →
      ∃ row args, reached.Calls stage index row args ∧
        (row.parameters.length ≤ argument → answer =
          .error (.outOfRange (.noArgument row.name row.parameters.length argument))) ∧
        (∀ parameter, row.parameters[argument]? = some parameter →
          let needed := row.nodes (max args.length (argument + 1))
          (¬parameter.Admits value →
            ∃ cause, answer = .error (.malformedArgument row.code argument cause)) ∧
          (parameter.Admits value → reached.arena.remaining < needed →
            answer = .error (.outOfRange
              (.arenaFull reached.arena.origin reached.arena.remaining needed)))) ∧
        (args[argument]? = some value → (reached.after edit).lower = reached.lower ∧
          (reached.after edit).view = reached.view) := by
  intro reached edit answer
  obtain ⟨plain, -, hrepresents⟩ :=
    (represents_of_ofDocument hopen).replay (ofDocument_eq_ok hopen).1 edits
  refine ⟨hrepresents.exists_update_iff, ?_, ?_⟩
  · intro fault hfault
    exact ⟨perform_update_of_handle hfault argument value, outOfRange_of_handle hfault⟩
  · intro old hposition
    obtain ⟨plan, hstands⟩ := hrepresents.stands hposition
    refine ⟨plan.row, _, hstands.calls, fun hargument => hstands.update_undeclared hargument value,
      fun parameter hparameter => ⟨fun hvalue => ?_, fun hvalue hroom => ?_⟩, fun hvalue => ?_⟩
    · obtain ⟨cause, hcause⟩ := Parameter.exists_error_of_not_admits hvalue
      exact ⟨cause, hstands.update_misfit hparameter hcause⟩
    · rw [List.length_map] at hroom ⊢
      exact hstands.update_full hparameter hvalue hroom
    · have hafter := hrepresents.after_update_self hstands.calls hvalue
      exact ⟨hafter.lower.trans hrepresents.lower.symm,
        hrepresents.view_eq hafter (reached.catalog_replay [edit])⟩

/-- A filter that is set to what it is, behind a history in which it was set to no filter. -/
theorem update_succeeds_iff_filter :
    let pair : Json := .array [.nat 5, .string "x"]
    let document : Document Script := { Document.blank with tally := [.sequence [.nat 0x11, pair]] }
    let edits : List Edit := [.push .tally (.bare ⟨0x74⟩), .update .tally 0 0 (.nat 5)]
    ∃ editor, ofDocument Catalog.standard 7 ((some document).getD .blank) = .ok editor ∧
      let reached := editor.replay edits
      let later := reached.after (.update .tally 0 0 pair)
      (∃ row args parameter, reached.Calls .tally 0 row args ∧
        row.parameters[0]? = some parameter ∧ parameter.Admits pair ∧
        row.nodes (max args.length 1) ≤ reached.arena.remaining) ∧
      later.arena.size = reached.arena.size + 5 ∧
      later.lower = reached.lower ∧ later.view = reached.view := by
  intro pair document edits
  have hread : (ofDocument Catalog.standard 7 ((some document).getD .blank)).toOption.map
      (fun editor =>
        let reached := editor.replay edits
        ((reached.perform (.update .tally 0 0 pair)).1.toOption,
          (reached.after (.update .tally 0 0 pair)).arena.size, reached.arena.size,
          (reached.handle .tally 0).toOption,
          (reached.arena.lowerOperator reached.catalog ⟨11⟩).toOption)) =
      some (some (.handle ⟨18⟩), 12, 7, some ⟨11⟩, some (.call ⟨0x11⟩ [pair])) := by
    decide +kernel
  obtain ⟨editor, hopen, hread⟩ := Option.map_eq_some_iff.1 hread
  obtain ⟨hanswer, hread⟩ := Prod.mk.inj hread
  obtain ⟨hlater, hread⟩ := Prod.mk.inj hread
  obtain ⟨hsize, hread⟩ := Prod.mk.inj hread
  obtain ⟨hposition, hlower⟩ := Prod.mk.inj hread
  have hopen := eq_ok_of_toOption hopen
  have hposition := eq_ok_of_toOption hposition
  obtain ⟨hsucceeds, -, hstanding⟩ := update_succeeds_iff hopen edits .tally 0 0 pair
  obtain ⟨row, args, ⟨-, handle, hhandle, hlowers⟩, -, -, hsame⟩ := hstanding _ hposition
  obtain rfl : ⟨11⟩ = handle := Except.ok.inj (hposition.symm.trans hhandle)
  have hcall : Operator.call row.code args = .call ⟨0x11⟩ [pair] :=
    Except.ok.inj (hlowers.symm.trans (eq_ok_of_toOption hlower))
  obtain ⟨-, rfl⟩ := Operator.call_inj.1 hcall
  exact ⟨editor, hopen, hsucceeds.1 ⟨_, eq_ok_of_toOption hanswer⟩, by rw [hlater, hsize],
    hsame rfl⟩

end Editor

end ScriptTree
