import ScriptTree.Proofs.Catalog.Lookup
import ScriptTree.Proofs.Operator.Call
import ScriptTree.Tree.Plan
/-!
# What planning accepts

A plan stands for one operator in its shortest spelling. Planning an operator gives exactly the
plan that fits the catalog and stands for the operator's normal form, so nothing of an operator is
lost in its plan.

Main statements: `planArgument_eq_ok`, `planArguments_eq_ok` and `Catalog.planOperator_eq_ok`.
-/

namespace ScriptTree

/-! ## Arguments -/

namespace ArgumentPlan

/-- The raw value that a planned argument stands for. -/
def raw : ArgumentPlan → Json
  | .input literal => literal.value
  | .filter _ function operand => .array [.nat function.code.toNat, operand]
  | .reducer _ function => .nat function.code.toNat

/-- A planned argument fits a declaration: it has the declared name, and it is a filter, a reducer
or a literal of the declared kind. -/
def Fits (parameter : Parameter) : ArgumentPlan → Prop
  | .input literal =>
    parameter.kind ≠ .filter ∧ parameter.kind ≠ .reducer ∧ literal.label = parameter.name ∧
      literal.kind = parameter.kind
  | .filter label _ _ => parameter.kind = .filter ∧ label = parameter.name
  | .reducer label _ => parameter.kind = .reducer ∧ label = parameter.name

end ArgumentPlan

theorem Filter.ofCode?_eq_some {code : UInt64} {filter : Filter} :
    Filter.ofCode? code = some filter ↔ code = filter.code.toUInt64 := by
  constructor
  · intro h
    have hcode := List.find?_some h
    exact (of_decide_eq_true hcode).symm
  · rintro rfl
    exact ofCode?_code filter

theorem Reducer.ofCode?_eq_some {code : UInt64} {reducer : Reducer} :
    Reducer.ofCode? code = some reducer ↔ code = reducer.code.toUInt64 := by
  constructor
  · intro h
    have hcode := List.find?_some h
    exact (of_decide_eq_true hcode).symm
  · rintro rfl
    exact ofCode?_code reducer

/-- A raw value is the code of a filter in one spelling only. -/
theorem filterOfRaw_eq_some {raw : Json} {filter : Filter} :
    raw.word?.bind Filter.ofCode? = some filter ↔ raw = .nat filter.code.toNat := by
  rw [Option.bind_eq_some_iff]
  simp only [Filter.ofCode?_eq_some, exists_eq_right, Json.word?_eq_some, UInt8.toNat_toUInt64]

theorem reducerOfRaw_eq_some {raw : Json} {reducer : Reducer} :
    raw.word?.bind Reducer.ofCode? = some reducer ↔ raw = .nat reducer.code.toNat := by
  rw [Option.bind_eq_some_iff]
  simp only [Reducer.ofCode?_eq_some, exists_eq_right, Json.word?_eq_some, UInt8.toNat_toUInt64]

theorem planFilter_eq_ok {name : String} {raw operand : Json} {filter : Filter} :
    planFilter name raw = .ok (filter, operand) ↔
      raw = .array [.nat filter.code.toNat, operand] := by
  constructor
  · intro h
    unfold planFilter at h
    split at h
    · next tag other =>
      cases hf : tag.word?.bind Filter.ofCode? with
      | none =>
        rw [hf] at h
        cases h
      | some found =>
        rw [hf] at h
        cases h
        rw [filterOfRaw_eq_some.1 hf]
    · cases h
  · rintro rfl
    have hfound : (Json.nat filter.code.toNat).word?.bind Filter.ofCode? = some filter :=
      filterOfRaw_eq_some.2 rfl
    simp only [planFilter, hfound]

theorem planReducer_eq_ok {raw : Json} {reducer : Reducer} :
    planReducer raw = .ok reducer ↔ raw = .nat reducer.code.toNat := by
  rw [← reducerOfRaw_eq_some, planReducer]
  cases raw.word?.bind Reducer.ofCode? with
  | none => exact ⟨nofun, nofun⟩
  | some found => exact ⟨fun h => congrArg some (Except.ok.inj h), fun h => by cases h; rfl⟩

theorem planArgument_of_literal {parameter : Parameter} (hf : parameter.kind ≠ .filter)
    (hr : parameter.kind ≠ .reducer) (raw : Json) :
    planArgument parameter raw = .ok (.input ⟨parameter.name, parameter.kind, raw⟩) := by
  unfold planArgument
  split
  · next h => exact absurd h hf
  · next h => exact absurd h hr
  · rfl

/-- Planning an argument gives the plan that fits the declaration and stands for the raw value. -/
theorem planArgument_eq_ok {parameter : Parameter} {raw : Json} {plan : ArgumentPlan} :
    planArgument parameter raw = .ok plan ↔ plan.Fits parameter ∧ plan.raw = raw := by
  by_cases hf : parameter.kind = .filter
  · have hplan : planArgument parameter raw =
        (fun found => ArgumentPlan.filter parameter.name found.1 found.2) <$>
          planFilter parameter.name raw := by
      rw [planArgument, hf]
      rfl
    rw [hplan, map_eq_ok]
    constructor
    · rintro ⟨⟨function, operand⟩, hfound, rfl⟩
      exact ⟨⟨hf, rfl⟩, (planFilter_eq_ok.1 hfound).symm⟩
    · rintro ⟨hfits, hraw⟩
      cases plan with
      | input literal => exact absurd hf hfits.1
      | filter label function operand =>
        exact ⟨(function, operand), planFilter_eq_ok.2 hraw.symm, by rw [hfits.2]⟩
      | reducer label function => exact nomatch hf.symm.trans hfits.1
  · by_cases hr : parameter.kind = .reducer
    · have hplan : planArgument parameter raw =
          ArgumentPlan.reducer parameter.name <$> planReducer raw := by
        rw [planArgument, hr]
        rfl
      rw [hplan, map_eq_ok]
      constructor
      · rintro ⟨function, hfound, rfl⟩
        exact ⟨⟨hr, rfl⟩, (planReducer_eq_ok.1 hfound).symm⟩
      · rintro ⟨hfits, hraw⟩
        cases plan with
        | input literal => exact absurd hr hfits.2.1
        | filter label function operand => exact absurd hfits.1 hf
        | reducer label function =>
          exact ⟨function, planReducer_eq_ok.2 hraw.symm, by rw [hfits.2]⟩
    · -- every other kind takes any raw value
      rw [planArgument_of_literal hf hr]
      constructor
      · intro h
        cases h
        exact ⟨⟨hf, hr, rfl, rfl⟩, rfl⟩
      · rintro ⟨hfits, hraw⟩
        cases plan with
        | input literal =>
          obtain ⟨-, -, hlabel, hkind⟩ := hfits
          rw [← hlabel, ← hkind, ← hraw]
          rfl
        | filter label function operand => exact absurd hfits.1 hf
        | reducer label function => exact absurd hfits.1 hr

/-- The plans fit the first of the declarations, one after the other. -/
def FitAll (parameters : List Parameter) (plans : List ArgumentPlan) : Prop :=
  List.Forall₂ ArgumentPlan.Fits (parameters.take plans.length) plans

theorem planArgumentsFrom_eq_ok {code : OperatorCode} {index : Nat} {parameters : List Parameter}
    {args : List Json} {plans : List ArgumentPlan} (h : args.length ≤ parameters.length) :
    planArgumentsFrom code index parameters args = .ok plans ↔
      FitAll parameters plans ∧ plans.map ArgumentPlan.raw = args := by
  induction parameters generalizing index args plans with
  | nil =>
    obtain rfl := List.length_eq_zero_iff.1 (Nat.le_zero.1 h)
    constructor
    · intro hplan
      cases hplan
      exact ⟨.nil, rfl⟩
    · rintro ⟨-, hraw⟩
      rw [List.map_eq_nil_iff.1 hraw]
      rfl
  | cons parameter parameters ih =>
    cases args with
    | nil =>
      constructor
      · intro hplan
        cases hplan
        exact ⟨.nil, rfl⟩
      · rintro ⟨-, hraw⟩
        rw [List.map_eq_nil_iff.1 hraw]
        rfl
    | cons raw args =>
      have hlen : args.length ≤ parameters.length := Nat.le_of_succ_le_succ h
      rw [planArgumentsFrom, bind_eq_ok]
      constructor
      · rintro ⟨plan, hplan, hrest⟩
        obtain ⟨rest, hrest, hplans⟩ := bind_eq_ok.1 hrest
        obtain ⟨hfits, rfl⟩ := planArgument_eq_ok.1 (mapError_eq_ok.1 hplan)
        obtain ⟨hall, rfl⟩ := (ih hlen).1 hrest
        cases hplans
        exact ⟨.cons hfits hall, rfl⟩
      · rintro ⟨hall, hraw⟩
        cases plans with
        | nil => cases hraw
        | cons plan plans =>
          obtain ⟨hfits, hrest⟩ := List.forall₂_cons.1 hall
          obtain ⟨hhead, htail⟩ := List.cons.inj hraw
          exact ⟨plan, mapError_eq_ok.2 (planArgument_eq_ok.2 ⟨hfits, hhead⟩),
            bind_eq_ok.2 ⟨plans, (ih hlen).2 ⟨hrest, htail⟩, rfl⟩⟩

theorem FitAll.length_le {parameters : List Parameter} {plans : List ArgumentPlan}
    (h : FitAll parameters plans) : plans.length ≤ parameters.length := by
  have hlen := List.Forall₂.length_eq h
  rw [List.length_take] at hlen
  omega

theorem planArguments_eq_ok {row : Row} {args : List Json} {plans : List ArgumentPlan} :
    planArguments row args = .ok plans ↔
      FitAll row.parameters plans ∧ plans.map ArgumentPlan.raw = args := by
  unfold planArguments
  by_cases hlen : row.parameters.length < args.length
  · rw [if_pos hlen]
    refine ⟨nofun, ?_⟩
    rintro ⟨hall, rfl⟩
    rw [List.length_map] at hlen
    exact absurd hall.length_le (by omega)
  · rw [if_neg hlen]
    exact planArgumentsFrom_eq_ok (by omega)

/-! ## Operators -/

namespace OperatorPlan

/-- The operator that a plan stands for, in its shortest spelling. -/
def operator (plan : OperatorPlan) : Operator :=
  .call plan.row.code (plan.arguments.map ArgumentPlan.raw)

/-- A plan fits a catalog: its row is one of the catalog's, with the output that the row declares
and with arguments that fit the row's declarations. -/
structure Valid (catalog : Catalog) (plan : OperatorPlan) : Prop where
  row : plan.row ∈ catalog.rows
  output : plan.output = plan.row.resolved
  arguments : FitAll plan.row.parameters plan.arguments

end OperatorPlan

/-- Planning an operator gives the plan that fits the catalog and stands for its normal form. -/
theorem Catalog.planOperator_eq_ok {catalog : Catalog} {operator : Operator}
    {plan : OperatorPlan} :
    catalog.planOperator operator = .ok plan ↔
      plan.Valid catalog ∧ operator.normalized = plan.operator := by
  rw [OperatorPlan.operator, ← Operator.decoded_iff_normalized, Operator.decoded]
  constructor
  · intro h
    obtain ⟨⟨code, args⟩, hdecode, h⟩ := bind_eq_ok.1 h
    obtain ⟨output, houtput, h⟩ := bind_eq_ok.1 h
    obtain ⟨row, hrow, h⟩ := bind_eq_ok.1 h
    obtain ⟨arguments, harguments, h⟩ := bind_eq_ok.1 h
    cases h
    obtain ⟨hmem, rfl⟩ := row_eq_ok.1 hrow
    obtain ⟨hfits, hraw⟩ := planArguments_eq_ok.1 harguments
    have hresolved : output = row.resolved := by
      rw [Catalog.output_eq, hrow] at houtput
      exact (Except.ok.inj houtput).symm
    exact ⟨⟨hmem, hresolved, hfits⟩, by rw [hdecode, hraw]; rfl⟩
  · rintro ⟨⟨hmem, houtput, hfits⟩, h⟩
    obtain ⟨⟨code, args⟩, hdecode, h⟩ := map_eq_ok.1 h
    obtain ⟨rfl, hraw⟩ := Prod.mk.inj h
    have hrow := row_eq_ok.2 ⟨hmem, rfl⟩
    refine bind_eq_ok.2 ⟨_, hdecode, bind_eq_ok.2 ⟨plan.output, ?_, bind_eq_ok.2 ⟨_, hrow,
      bind_eq_ok.2 ⟨plan.arguments, planArguments_eq_ok.2 ⟨hfits, hraw.symm⟩, rfl⟩⟩⟩⟩
    rw [houtput, Catalog.output_eq, hrow]
    rfl

end ScriptTree
