import ScriptTree.Proofs.Tree.Presentation
/-!
# Views and operators determine each other

Under one catalog a valid plan can be told from its view as well as from the operator that it stands
for: category and name give the row, and every argument gives back its raw value. So two operators
are shown alike only if they are the same, also where the two zeros count as equal.

Main statements: `Catalog.Presents.eq_iff` and `Catalog.Presents.sameData_eq`.
-/

namespace ScriptTree

/-! ## Equality of views as data -/

mutual

/-- Equality of views of selects as data, where the two zeros are equal. -/
def SelectView.sameData : SelectView → SelectView → Bool
  | ⟨role, kind, label, output, selected, options⟩,
    ⟨role', kind', label', output', selected', options'⟩ =>
    role = role' && kind = kind' && label = label' && output = output' &&
      selected.sameData selected' && options = options'
termination_by structural a => a

/-- Equality of views of chosen options as data. -/
def OptionView.sameData : OptionView → OptionView → Bool
  | ⟨role, label, output, arguments⟩, ⟨role', label', output', arguments'⟩ =>
    role = role' && label = label' && output = output' &&
      ArgumentView.sameAll arguments arguments'

/-- Equality of views of arguments as data. -/
def ArgumentView.sameData : ArgumentView → ArgumentView → Bool
  | .select a, .select b => a.sameData b
  | .input a, .input b => a.label = b.label && a.kind = b.kind && a.value.sameData b.value
  | _, _ => false

/-- Equality of lists of views of arguments as data. -/
def ArgumentView.sameAll : List ArgumentView → List ArgumentView → Bool
  | [], [] => true
  | a :: as, b :: bs => a.sameData b && ArgumentView.sameAll as bs
  | _, _ => false

end

/-! ## Functions -/

theorem Filter.name_inj {f g : Filter} : f.name = g.name ↔ f = g := by
  refine ⟨fun h => ?_, congrArg name⟩
  exact Option.some.inj ((ofName?_name f).symm.trans (h ▸ ofName?_name g))

theorem Reducer.name_inj {f g : Reducer} : f.name = g.name ↔ f = g := by
  refine ⟨fun h => ?_, congrArg name⟩
  exact Option.some.inj ((ofName?_name f).symm.trans (h ▸ ofName?_name g))

theorem Filter.code_inj {f g : Filter} : f.code = g.code ↔ f = g := by
  refine ⟨fun h => ?_, congrArg code⟩
  exact Option.some.inj ((ofCode?_code f).symm.trans (h ▸ ofCode?_code g))

theorem Reducer.code_inj {f g : Reducer} : f.code = g.code ↔ f = g := by
  refine ⟨fun h => ?_, congrArg code⟩
  exact Option.some.inj ((ofCode?_code f).symm.trans (h ▸ ofCode?_code g))

/-! ## Values -/

theorem Json.sameData_nat (m n : Nat) : sameData (.nat m) (.nat n) = decide (m = n) := by
  show decide ((m : Int) = n) = decide (m = n)
  simp only [Int.natCast_inj]

/-- Values that are the same data are literals of one kind. -/
theorem Json.ofLiteral_of_sameData {a b : Json} (h : a.sameData b = true) :
    ArgumentKind.ofLiteral a = .ofLiteral b := by
  unfold sameData at h
  split at h
  case h_3 m n =>
    -- an integer is never the same data as a fraction
    cases m <;> cases n <;> first | rfl | cases h
  all_goals first | rfl | cases h

/-! ## Arguments -/

theorem Filter.sameData_view (f g : Filter) (name : String) (a b : Json) :
    (f.view name a).sameData (g.view name b) = (decide (f = g) && a.sameData b) := by
  -- the kind of the operand says nothing that its value does not say
  have hkind : (decide (ArgumentKind.ofLiteral a = .ofLiteral b) && a.sameData b) =
      a.sameData b := by
    cases h : a.sameData b
    · exact Bool.and_false _
    · rw [Json.ofLiteral_of_sameData h, decide_eq_true rfl, Bool.and_true]
  simp [view, SelectView.sameData, OptionView.sameData, ArgumentView.sameAll,
    ArgumentView.sameData, name_inj, hkind]

theorem Reducer.sameData_view (f g : Reducer) (name : String) :
    (f.view name).sameData (g.view name) = decide (f = g) := by
  simp [view, SelectView.sameData, OptionView.sameData, ArgumentView.sameAll, name_inj]

/-- Nothing of a planned argument is lost in its view. -/
theorem ArgumentPlan.view_inj {a b : ArgumentPlan} : a.view = b.view ↔ a = b := by
  refine ⟨fun h => ?_, congrArg view⟩
  cases a <;> cases b <;>
    simp_all [view, Filter.view, Reducer.view, Filter.name_inj, Reducer.name_inj]

/-- Under one declaration two arguments are shown alike when their raw values are. -/
theorem ArgumentPlan.Fits.sameData_eq {parameter : Parameter} {a b : ArgumentPlan}
    (ha : a.Fits parameter) (hb : b.Fits parameter) :
    a.view.sameData b.view = a.raw.sameData b.raw := by
  cases a with
  | input literal =>
    obtain ⟨hfilter, hreducer, hlabel, hkind⟩ := ha
    cases b with
    | input other =>
      obtain ⟨-, -, hlabel', hkind'⟩ := hb
      simp [view, raw, ArgumentView.sameData, hlabel, hlabel', hkind, hkind']
    | filter => exact absurd hb.1 hfilter
    | reducer => exact absurd hb.1 hreducer
  | filter label function operand =>
    obtain ⟨hkind, rfl⟩ := ha
    cases b with
    | input other => exact absurd hkind hb.1
    | filter label' function' operand' =>
      obtain ⟨-, rfl⟩ := hb
      show (function.view _ operand).sameData (function'.view _ operand') = _
      rw [Filter.sameData_view]
      simp [raw, Json.sameData, Json.sameItems, Json.sameData_nat, UInt8.toNat_inj,
        Filter.code_inj]
    | reducer => cases hkind.symm.trans hb.1
  | reducer label function =>
    obtain ⟨hkind, rfl⟩ := ha
    cases b with
    | input other => exact absurd hkind hb.2.1
    | filter => cases hkind.symm.trans hb.1
    | reducer label' function' =>
      obtain ⟨-, rfl⟩ := hb
      show (function.view _).sameData (function'.view _) = _
      rw [Reducer.sameData_view]
      simp [raw, Json.sameData_nat, UInt8.toNat_inj, Reducer.code_inj]

theorem FitAll.sameData_eq {parameters : List Parameter} {as bs : List ArgumentPlan}
    (ha : FitAll parameters as) (hb : FitAll parameters bs) :
    ArgumentView.sameAll (as.map ArgumentPlan.view) (bs.map ArgumentPlan.view) =
      Json.sameItems (as.map ArgumentPlan.raw) (bs.map ArgumentPlan.raw) := by
  induction as generalizing parameters bs with
  | nil => cases bs <;> rfl
  | cons a as ih =>
    cases bs with
    | nil => rfl
    | cons b bs =>
      cases parameters with
      | nil => cases ha
      | cons parameter parameters =>
        obtain ⟨hfirst, hrest⟩ := List.forall₂_cons.1 ha
        obtain ⟨hfirst', hrest'⟩ := List.forall₂_cons.1 hb
        simp only [List.map_cons, ArgumentView.sameAll, Json.sameItems,
          hfirst.sameData_eq hfirst', ih hrest hrest']

/-! ## Operators -/

theorem Operator.sameData_call (code code' : OperatorCode) (args args' : List Json) :
    (call code args).sameData (call code' args') =
      (decide (code = code') && Json.sameItems args args') := by
  have hcode : code.toJson.sameData code'.toJson = decide (code = code') := by
    obtain ⟨word⟩ := code
    obtain ⟨word'⟩ := code'
    simp [OperatorCode.toJson, Json.sameData_nat, UInt64.toNat_inj]
  cases args <;> cases args' <;> simp [call, sameData, Json.sameItems, hcode]

namespace OperatorPlan.Valid

variable {catalog : Catalog} {plan other : OperatorPlan}

/-- Rows of a catalog with one category and one name are the same. -/
theorem row_eq (h : plan.Valid catalog) (h' : other.Valid catalog)
    (hcategory : plan.row.category = other.row.category) (hname : plan.row.name = other.row.name) :
    plan.row = other.row :=
  Option.some.inj ((Catalog.find?_named_eq_some.2 ⟨h.row, rfl, rfl⟩).symm.trans
    (Catalog.find?_named_eq_some.2 ⟨h'.row, hcategory.symm, hname.symm⟩))

/-- Rows of a catalog with one code are the same. -/
theorem row_eq_of_code (h : plan.Valid catalog) (h' : other.Valid catalog)
    (hcode : plan.row.code = other.row.code) : plan.row = other.row :=
  Except.ok.inj ((Catalog.row_eq_ok.2 ⟨h.row, rfl⟩).symm.trans
    (Catalog.row_eq_ok.2 ⟨h'.row, hcode.symm⟩))

/-- A valid plan is known from its view. -/
theorem eq_of_view (h : plan.Valid catalog) (h' : other.Valid catalog)
    (hview : plan.view catalog = other.view catalog) : plan = other := by
  simp only [view, Catalog.rowView, SelectView.mk.injEq, OptionView.mk.injEq,
    SelectKind.operator.injEq] at hview
  obtain ⟨-, hcategory, -, -, ⟨-, hname, -, hviews⟩, -⟩ := hview
  have hrow := h.row_eq h' hcategory hname
  have harguments : plan.arguments = other.arguments :=
    (List.map_injective_iff.2 fun _ _ => ArgumentPlan.view_inj.1) hviews
  have houtput : plan.output = other.output := by rw [h.output, h'.output, hrow]
  cases plan
  cases other
  simp_all

/-- A valid plan is known from the operator that it stands for. -/
theorem eq_of_operator (h : plan.Valid catalog) (h' : other.Valid catalog)
    (hoperator : plan.operator = other.operator) : plan = other := by
  have hnormal : plan.operator.normalized = plan.operator := Operator.normalized_call ..
  have hplan := Catalog.planOperator_eq_ok.2 ⟨h, hnormal⟩
  have hother := Catalog.planOperator_eq_ok.2 ⟨h', hnormal.trans hoperator⟩
  exact Except.ok.inj (hplan.symm.trans hother)

theorem sameData_eq (h : plan.Valid catalog) (h' : other.Valid catalog) :
    (plan.view catalog).sameData (other.view catalog) = plan.operator.sameData other.operator := by
  rw [operator, operator, Operator.sameData_call]
  by_cases hcode : plan.row.code = other.row.code
  · have hrow := h.row_eq_of_code h' hcode
    have harguments := FitAll.sameData_eq h.arguments (hrow ▸ h'.arguments)
    simp [view, Catalog.rowView, SelectView.sameData, OptionView.sameData, hrow, harguments]
  · -- different rows differ in their categories or in their names
    have hapart : ¬(plan.row.category = other.row.category ∧ plan.row.name = other.row.name) :=
      fun hboth => hcode (congrArg Row.code (h.row_eq h' hboth.1 hboth.2))
    rw [decide_eq_false hcode, Bool.false_and, Bool.eq_false_iff]
    intro hsame
    simp only [view, Catalog.rowView, SelectView.sameData, OptionView.sameData, Bool.and_eq_true,
      decide_eq_true_eq, SelectKind.operator.injEq] at hsame
    obtain ⟨⟨⟨⟨⟨-, hcategory⟩, -⟩, -⟩, ⟨⟨-, hname⟩, -⟩, -⟩, -⟩ := hsame
    exact hapart ⟨hcategory, hname⟩

end OperatorPlan.Valid

/-! ## Presenting -/

/-- The catalog presents an operator in its shortest spelling as a view. -/
def Catalog.Presents (catalog : Catalog) (operator : Operator) (view : SelectView) : Prop :=
  ∃ plan : OperatorPlan, plan.Valid catalog ∧ plan.operator = operator ∧ plan.view catalog = view

namespace Catalog.Presents

variable {catalog : Catalog} {operator other : Operator} {view view' : SelectView}

/-- Two operators are shown alike exactly when they are the same. -/
theorem eq_iff (h : catalog.Presents operator view) (h' : catalog.Presents other view') :
    operator = other ↔ view = view' := by
  obtain ⟨plan, hvalid, rfl, rfl⟩ := h
  obtain ⟨plan', hvalid', rfl, rfl⟩ := h'
  constructor
  · intro hoperator
    rw [hvalid.eq_of_operator hvalid' hoperator]
  · intro hview
    rw [hvalid.eq_of_view hvalid' hview]

/-- Two operators are shown as the same data exactly when they are the same data. -/
theorem sameData_eq (h : catalog.Presents operator view) (h' : catalog.Presents other view') :
    operator.sameData other = view.sameData view' := by
  obtain ⟨plan, hvalid, rfl, rfl⟩ := h
  obtain ⟨plan', hvalid', rfl, rfl⟩ := h'
  exact (hvalid.sameData_eq hvalid').symm

end Catalog.Presents

end ScriptTree
