import ScriptTree.Catalog.Standard
import ScriptTree.Proofs.Catalog.Lookup
import ScriptTree.Proofs.Editor.Atomicity
import ScriptTree.Proofs.Editor.Compact
import ScriptTree.Proofs.Editor.Effect
import ScriptTree.Proofs.Editor.Invariants
import ScriptTree.Proofs.Tree.Represents
/-!
# Edits refine plain edits

An editor that represents a compact document goes on representing it when both are edited: the
editor by handles in its growing arena, the document by lists. So the compact form of an editor is
at any time what the successful edits make of the document that it was opened on.

Main statements: one edit (`Editor.Represents.effect`), and a whole history
(`Editor.history_refines_plain_edits`).
-/

namespace ScriptTree

/-! ## Rewriting an operator -/

theorem Document.rewrite_of_eq_some {document : Document Script} {stage : Stage} {index : Nat}
    {make : Operator → Option Operator} {script : Script} {current operator : Operator}
    (hscript : document.script? stage = some script) (hcurrent : script[index]? = some current)
    (hmake : make current = some operator) :
    document.rewrite stage index make =
      some (document.modify stage fun script => script.set index operator) := by
  rw [rewrite, hscript]
  show (script[index]?.bind fun current => (make current).bind fun operator => _) = _
  rw [hcurrent]
  show (make current).bind _ = _
  rw [hmake]
  rfl

namespace Catalog

variable {catalog : Catalog} {code : OperatorCode} {args : List Json} {row other : Row}

theorem reselected_call (hrow : row ∈ catalog.rows) (hother : other ∈ catalog.rows)
    (hcategory : other.category = row.category) (args : List Json) :
    catalog.reselected other.name (.call row.code args) =
      some (.call other.code other.requiredDefaults) := by
  have hfound := find?_named_eq_some.2 ⟨hother, hcategory, rfl⟩
  rw [reselected, Operator.decoded_call]
  show ((catalog.row row.code).toOption.bind fun row => _) = _
  rw [row_eq_ok.2 ⟨hrow, rfl⟩]
  show ((catalog.rows.find? fun found =>
    found.category = row.category ∧ found.name = other.name).bind fun other => _) = _
  rw [hfound]
  rfl

theorem rewritten_of_decoded {current : Operator} {argument : Nat}
    (hdecoded : current.decoded = .ok (code, args)) (hrow : catalog.row code = .ok row)
    (hargument : argument < row.parameters.length) (value : Json) :
    catalog.rewritten argument value current =
      some (.call code (row.withArgument args argument value)) := by
  rw [rewritten, hdecoded]
  show ((catalog.row code).toOption.bind fun row => _) = _
  rw [hrow]
  show (if argument < row.parameters.length then _ else none) = _
  rw [if_pos hargument]
  rfl

end Catalog

namespace Editor

open Editing

variable {editor after : Editor} {document : Document Script} {stage : Stage} {index : Nat}
  {operator : Operator} {handle : Handle}

/-! ## What is at a position -/

/-- A selection calls the operator that has the label in the category of the select. -/
theorem selection_eq_ok {label : String}
    (h : editor.selection stage index label = .ok operator) :
    ∃ handle select row, editor.handle stage index = .ok handle ∧
      editor.arena.resolve? handle = some (.select select) ∧ row ∈ editor.catalog.rows ∧
      select.kind = .operator row.category ∧ row.name = label ∧
      operator = .call row.code row.requiredDefaults := by
  obtain ⟨handle, hhandle, h⟩ := bind_eq_ok.1 h
  obtain ⟨select, hselect, h⟩ := bind_eq_ok.1 h
  cases hkind : select.kind with
  | operator category =>
    rw [hkind] at h
    cases hcode : editor.catalog.codeFor? category label with
    | none =>
      simp only [hcode] at h
      cases h
    | some code =>
      simp only [hcode] at h
      obtain ⟨row, hrow, h⟩ := bind_eq_ok.1 h
      obtain ⟨other, hother, rfl, hname, rfl⟩ := Catalog.codeFor?_eq_some.1 hcode
      have hsame : row = other :=
        Except.ok.inj (hrow.symm.trans (Catalog.row_eq_ok.2 ⟨hother, rfl⟩))
      rw [hsame, seeds_eq] at h
      exact ⟨handle, select, other, hhandle, Arena.resolveSelect_eq_ok.1 hselect, hother, hkind,
        hname, (Except.ok.inj h).symm⟩
  | filter =>
    rw [hkind] at h
    cases h
  | reducer =>
    rw [hkind] at h
    cases h

namespace Represents

theorem script (h : editor.Represents document) {handles : List Handle}
    (hhandles : editor.document.script? stage = some handles) :
    ∃ script, document.script? stage = some script ∧
      Arena.RepresentsScript editor.catalog editor.arena script handles :=
  (Document.Pairs.symm h).script? hhandles

/-- The operator at a position is the one that the handle there represents. -/
theorem operatorAt (h : editor.Represents document)
    (hhandle : editor.handle stage index = .ok handle) :
    ∃ script operator, document.script? stage = some script ∧ script[index]? = some operator ∧
      Arena.Represents editor.catalog editor.arena operator handle := by
  obtain ⟨handles, hhandles, hat⟩ := handle_eq_ok.1 hhandle
  obtain ⟨script, hscript, hrepresents⟩ := h.script hhandles
  obtain ⟨operator, hoperator, hR⟩ := forall₂_getElem? hrepresents.flip hat
  exact ⟨script, operator, hscript, hoperator, hR⟩

theorem source (h : editor.Represents document) {source : Source (List Handle)}
    (hsource : editor.document.retrieve[index]? = some source) :
    ∃ plain, document.retrieve[index]? = some plain ∧ Document.PairsSource
      (Arena.RepresentsScript editor.catalog editor.arena) plain source :=
  forall₂_getElem? h.retrieve.flip hsource

/-- A later arena represents the same document. -/
theorem extend (h : editor.Represents document) {arena : Arena Node}
    (hx : editor.arena.Extends arena) :
    ({ editor with arena := arena } : Editor).Represents document :=
  Document.Pairs.imp (fun _ _ hscript => hscript.mono hx) h

/-! ## Edits of operators -/

/-- The call that selecting makes is the plain one. -/
theorem selection (h : editor.Represents document) {label : String}
    (hselection : editor.selection stage index label = .ok operator) :
    ∃ script current, document.script? stage = some script ∧ script[index]? = some current ∧
      editor.catalog.reselected label current = some operator ∧
      operator.normalized = operator := by
  obtain ⟨handle, select, other, hhandle, hselect, hother, hkind, rfl, rfl⟩ :=
    selection_eq_ok hselection
  obtain ⟨script, current, hscript, hcurrent, plan, hvalid, rfl, ⟨hresolve, -⟩⟩ :=
    h.operatorAt hhandle
  have hsame := Option.some.inj (hselect.symm.trans hresolve)
  -- the select is the one of the plan, so it offers the category of the plan's row
  have hcategory : other.category = plan.row.category := by
    cases hsame
    exact (SelectKind.operator.inj hkind).symm
  exact ⟨script, plan.operator, hscript, hcurrent,
    Catalog.reselected_call hvalid.row hother hcategory _, Operator.normalized_call ..⟩

/-- The call that setting an argument makes is the plain one. -/
theorem updated (h : editor.Represents document) {argument : Nat} {value : Json}
    (hupdated : editor.updated stage index argument value = .ok operator) :
    ∃ script current, document.script? stage = some script ∧ script[index]? = some current ∧
      editor.catalog.rewritten argument value current = some operator ∧
      operator.normalized = operator := by
  obtain ⟨handle, hhandle, hupdated⟩ := bind_eq_ok.1 hupdated
  obtain ⟨lowered, hlowered, hupdated⟩ := bind_eq_ok.1 hupdated
  obtain ⟨⟨code, args⟩, hdecode, hupdated⟩ := bind_eq_ok.1 hupdated
  obtain ⟨row, hrow, hupdated⟩ := bind_eq_ok.1 hupdated
  obtain ⟨script, current, hscript, hcurrent, hR⟩ := h.operatorAt hhandle
  -- what lowering gives is the operator of the document
  have hsame : lowered = current := Except.ok.inj (hlowered.symm.trans hR.lowerOperator)
  have hdecoded : current.decoded = .ok (code, args.getD []) := by
    rw [← hsame, Operator.decoded, hdecode]
    rfl
  refine ⟨script, current, hscript, hcurrent, ?_⟩
  by_cases hargument : row.parameters.length ≤ argument
  · rw [if_pos hargument] at hupdated
    cases hupdated
  · rw [if_neg hargument] at hupdated
    cases hupdated
    rw [set_padded (Nat.lt_of_not_le hargument)]
    exact ⟨Catalog.rewritten_of_decoded hdecoded hrow (Nat.lt_of_not_le hargument) value,
      Operator.normalized_call ..⟩

end Represents

/-- What is laid for an operator represents its normal form. -/
theorem Plans.represents {plan : OperatorPlan} (h : editor.Plans operator plan) :
    Arena.Represents editor.catalog (editor.arena.fill (editor.lay plan).nodes) operator.normalized
      (editor.lay plan).value :=
  Arena.represents_of_planned h.planned (Arena.holds_of_hasAt _ plan (Arena.hasAt_fill h.room))

namespace Represents

/-- The call that an edit puts at a position is the one that the plain edit puts there. -/
theorem plain_of_rewrites (h : editor.Represents document) {edit : Edit}
    (hcall : editor.Rewrites edit stage index operator)
    (hposition : editor.handle stage index = .ok handle) :
    edit.plain editor.catalog document =
      some (document.modify stage fun script => script.set index operator.normalized) := by
  cases hcall with
  | select hselection =>
    obtain ⟨script, current, hscript, hcurrent, hmake, hnormal⟩ := h.selection hselection
    rw [hnormal]
    exact Document.rewrite_of_eq_some hscript hcurrent hmake
  | update hupdated =>
    obtain ⟨script, current, hscript, hcurrent, hmake, hnormal⟩ := h.updated hupdated
    rw [hnormal]
    exact Document.rewrite_of_eq_some hscript hcurrent hmake
  | replace =>
    obtain ⟨script, current, hscript, hcurrent, -⟩ := h.operatorAt hposition
    exact Document.rewrite_of_eq_some hscript hcurrent rfl

/-! ## Histories -/

/-- An edit that succeeds is a plain edit of the document that the editor represents. -/
theorem effect (h : editor.Represents document) {edit : Edit} {result : Edit.Result}
    (heffect : editor.Effect edit result after) :
    ∃ plain, edit.plain editor.catalog document = some plain ∧ after.Represents plain := by
  cases heffect with
  | rewritten hcall hposition hplans =>
    refine ⟨_, h.plain_of_rewrites hcall hposition, ?_⟩
    exact (h.extend (Arena.extends_fill ..)).modify _ fun _ _ hscript =>
      forall₂_set hscript _ hplans.represents
  | pushed hposition hplans =>
    obtain ⟨script, hscript, -⟩ := h.script (script_eq_ok.1 hposition)
    refine ⟨_, by rw [Edit.plain, hscript]; rfl, ?_⟩
    exact (h.extend (Arena.extends_fill ..)).modify _ fun _ _ hscript =>
      forall₂_concat hscript hplans.represents
  | @removed stage index handle hposition =>
    obtain ⟨script, current, hscript, hcurrent, -⟩ := h.operatorAt hposition
    refine ⟨document.modify stage fun script => script.eraseIdx index, ?_, ?_⟩
    · rw [Edit.plain, hscript]
      show (script[index]?.bind fun _ => _) = _
      rw [hcurrent]
      rfl
    · exact Document.Pairs.modify h stage fun _ _ hscript => forall₂_eraseIdx hscript index
  | sourceAdded =>
    exact ⟨_, rfl, { h with retrieve := forall₂_concat h.retrieve ⟨rfl, .nil⟩ }⟩
  | sourceRemoved hposition =>
    obtain ⟨plain, hplain, -⟩ := h.source (source_eq_ok.1 hposition)
    refine ⟨_, by rw [Edit.plain, hplain]; rfl, ?_⟩
    exact { h with retrieve := forall₂_eraseIdx h.retrieve _ }
  | @urlSet index source url hposition =>
    obtain ⟨plain, hplain, -⟩ := h.source (source_eq_ok.1 hposition)
    refine ⟨{ document with
      retrieve := document.retrieve.modify index fun source => { source with url := url } },
      by rw [Edit.plain, hplain]; rfl, { h with retrieve := ?_ }⟩
    exact forall₂_modify h.retrieve index fun _ _ hscript => ⟨rfl, hscript.2⟩
  | nameSet => exact ⟨_, rfl, { h with name := rfl }⟩
  | descriptionSet => exact ⟨_, rfl, { h with description := rfl }⟩
  | converted _ _ => exact ⟨document, rfl, h.extend (Arena.extends_fill ..)⟩
  | generated _ _ => exact ⟨document, rfl, h.extend (Arena.extends_fill ..)⟩

/-- A history goes on representing what the plain edits make of the document. -/
theorem replay (h : editor.Represents document) {catalog : Catalog}
    (hcatalog : editor.catalog = catalog) (edits : List Edit) :
    ∃ plain, editor.plainReplay catalog document edits = some plain ∧
      (editor.replay edits).Represents plain := by
  induction edits generalizing editor document with
  | nil => exact ⟨document, rfl, h⟩
  | cons edit edits ih =>
    show ∃ plain, _ = some plain ∧ ((editor.after edit).replay edits).Represents plain
    rw [plainReplay]
    cases hrun : (editor.perform edit).1 with
    | error fault =>
      -- nothing has changed, so the document is still the same
      rw [after_of_error hrun]
      exact ih h hcatalog
    | ok result =>
      have heffect : editor.Effect edit result (editor.after edit) :=
        effect_of_perform (Prod.ext hrun rfl)
      obtain ⟨plain, hplain, hafter⟩ := h.effect heffect
      rw [hcatalog] at hplain
      obtain ⟨last, hlast, hR⟩ := ih hafter (heffect.catalog.trans hcatalog)
      exact ⟨last, by rw [hplain]; exact hlast, hR⟩

end Represents

/-- Edits refine plain edits. Whatever document an editor was opened on, the blank one where none is
given, and whatever edits followed, the editor can be lowered, and its compact form is what the
edits that succeeded make of the normal form of that document as plain edits, in their order. -/
theorem history_refines_plain_edits {catalog : Catalog} {origin : UInt32}
    {document : Option (Document Script)} {editor : Editor}
    (hopen : ofDocument catalog origin (document.getD .blank) = .ok editor) (edits : List Edit) :
    ∃ plain, editor.plainReplay catalog (document.getD .blank).normalized edits = some plain ∧
      (editor.replay edits).lower = .ok plain := by
  have hrepresents := represents_of_ofDocument hopen
  obtain ⟨plain, hplain, hR⟩ := hrepresents.replay (ofDocument_eq_ok hopen).1 edits
  exact ⟨plain, hplain, hR.lower⟩

/-- A history with a fault in it, on the blank document. -/
theorem history_refines_plain_edits_blank :
    let edits : List Edit := [.addSource "b", .push (.retrieve 1) (.sequence [.nat 0x76]),
      .push (.retrieve 1) (.sequence [.nat 0x61, .string "bpi"]), .removeSource 0,
      .select (.retrieve 0) 1 "nonsense", .select (.retrieve 0) 0 "match",
      .update (.retrieve 0) 0 1 (.bool true), .generate [.bare ⟨0x74⟩],
      .update (.retrieve 0) 1 0 (.string "EUR")]
    let reached : Document Script := { Document.blank with
      retrieve := [⟨"b", [.sequence [.nat 0x75, .object [], .bool true],
        .sequence [.nat 0x61, .string "EUR"]]⟩] }
    ∃ editor, ofDocument Catalog.standard 7 ((none : Option (Document Script)).getD .blank) =
        .ok editor ∧
      editor.plainReplay Catalog.standard Document.blank.normalized edits = some reached ∧
      (editor.replay edits).lower = .ok reached := by
  intro edits reached
  have hopen : ofDocument Catalog.standard 7 ((none : Option (Document Script)).getD .blank) =
    .ok ⟨Catalog.standard, .empty 7, ⟨"", "", 0, [⟨"", []⟩], [], []⟩⟩ := rfl
  have hreached : plainReplay ⟨Catalog.standard, .empty 7, ⟨"", "", 0, [⟨"", []⟩], [], []⟩⟩
    Catalog.standard Document.blank.normalized edits = some reached := by decide +kernel
  obtain ⟨plain, hplain, hlower⟩ := history_refines_plain_edits hopen edits
  obtain rfl : reached = plain := Option.some.inj (hreached.symm.trans hplain)
  exact ⟨_, hopen, hreached, hlower⟩

end Editor

end ScriptTree
