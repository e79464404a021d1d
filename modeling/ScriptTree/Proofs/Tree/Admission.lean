import ScriptTree.Proofs.Tree.Planned
/-!
# Raw values that fit

Whether a raw value fits a declared argument depends on nothing but the two: a filter takes a pair
of the code of a filter and any operand, a reducer the code of a reducer, and every other kind takes
whatever it is given. The arguments of a call are planned exactly when each of them fits. Otherwise
the first that does not is what is wrong with the call.

Main statements: `planArguments_succeeds_iff`, `planArguments_eq_error` and, for the number of nodes
that a planned call takes, `OperatorPlan.nodeCount_eq`.
-/

namespace ScriptTree

attribute [local instance] zeroCount

/-! ## One argument -/

namespace Parameter

/-- A raw value fits a declared argument. -/
def Admits (parameter : Parameter) (raw : Json) : Prop :=
  match parameter.kind with
  | .filter => ∃ (function : Filter) (operand : Json),
      raw = .array [.nat function.code.toNat, operand]
  | .reducer => ∃ function : Reducer, raw = .nat function.code.toNat
  | _ => True

variable {parameter : Parameter} {raw : Json}

/-- What fits is what can be planned. -/
theorem admits_iff : parameter.Admits raw ↔ ∃ plan, planArgument parameter raw = .ok plan := by
  simp only [planArgument_eq_ok]
  unfold Admits
  split
  · next hkind =>
    constructor
    · rintro ⟨function, operand, rfl⟩
      exact ⟨.filter parameter.name function operand, ⟨hkind, rfl⟩, rfl⟩
    · rintro ⟨_ | ⟨label, function, operand⟩ | _, hfits, rfl⟩
      · exact absurd hkind hfits.1
      · exact ⟨function, operand, rfl⟩
      · exact nomatch hkind.symm.trans hfits.1
  · next hkind =>
    constructor
    · rintro ⟨function, rfl⟩
      exact ⟨.reducer parameter.name function, ⟨hkind, rfl⟩, rfl⟩
    · rintro ⟨_ | _ | ⟨label, function⟩, hfits, rfl⟩
      · exact absurd hkind hfits.2.1
      · exact nomatch hkind.symm.trans hfits.1
      · exact ⟨function, rfl⟩
  · next hfilter hreducer =>
    refine ⟨fun _ => ⟨.input ⟨parameter.name, parameter.kind, raw⟩, ?_, rfl⟩, fun _ => trivial⟩
    exact ⟨hfilter, hreducer, rfl, rfl⟩

/-- Every default fits its own kind. -/
theorem admits_default (parameter : Parameter) : parameter.Admits parameter.kind.defaultValue := by
  unfold Admits
  split
  · next hkind =>
    rw [hkind]
    exact ⟨.greaterThan, .int 0, rfl⟩
  · next hkind =>
    rw [hkind]
    exact ⟨.min, rfl⟩
  · trivial

theorem exists_error_of_not_admits (h : ¬parameter.Admits raw) :
    ∃ cause, planArgument parameter raw = .error cause := by
  cases hplan : planArgument parameter raw with
  | error cause => exact ⟨cause, rfl⟩
  | ok plan => exact absurd (admits_iff.2 ⟨plan, hplan⟩) h

end Parameter

/-! ## The arguments of a call -/

/-- Raw values fit the declared arguments, position by position as far as both reach. -/
def AdmitAll (parameters : List Parameter) (args : List Json) : Prop :=
  ∀ (position : Nat) (parameter : Parameter) (raw : Json),
    parameters[position]? = some parameter → args[position]? = some raw → parameter.Admits raw

variable {parameter : Parameter} {parameters : List Parameter} {raw : Json} {args : List Json}
  {code : OperatorCode} {index position : Nat}

theorem admitAll_cons :
    AdmitAll (parameter :: parameters) (raw :: args) ↔
      parameter.Admits raw ∧ AdmitAll parameters args := by
  constructor
  · intro h
    exact ⟨h 0 parameter raw rfl rfl, fun position => h (position + 1)⟩
  · rintro ⟨hfirst, hrest⟩ (_ | position) found value hfound hvalue
    · cases hfound
      cases hvalue
      exact hfirst
    · exact hrest position found value hfound hvalue

theorem planArgumentsFrom_succeeds_iff :
    (∃ plans, planArgumentsFrom code index parameters args = .ok plans) ↔
      AdmitAll parameters args := by
  induction parameters generalizing index args with
  | nil => exact ⟨fun _ _ _ _ h => (nomatch h), fun _ => ⟨[], rfl⟩⟩
  | cons parameter parameters ih =>
    cases args with
    | nil => exact ⟨fun _ _ _ _ _ h => (nomatch h), fun _ => ⟨[], rfl⟩⟩
    | cons raw args =>
      rw [admitAll_cons, ← ih, Parameter.admits_iff, planArgumentsFrom]
      constructor
      · rintro ⟨plans, hplans⟩
        obtain ⟨plan, hplan, hrest⟩ := bind_eq_ok.1 hplans
        obtain ⟨rest, hrest, -⟩ := bind_eq_ok.1 hrest
        exact ⟨⟨plan, mapError_eq_ok.1 hplan⟩, rest, hrest⟩
      · rintro ⟨⟨plan, hplan⟩, rest, hrest⟩
        exact ⟨plan :: rest, bind_eq_ok.2 ⟨plan, mapError_eq_ok.2 hplan,
          bind_eq_ok.2 ⟨rest, hrest, rfl⟩⟩⟩

/-- The first argument that does not fit is told, with its position. -/
theorem planArgumentsFrom_eq_error {cause : ArgumentFault}
    (hbefore : AdmitAll (parameters.take position) args)
    (hparameter : parameters[position]? = some parameter) (hraw : args[position]? = some raw)
    (hcause : planArgument parameter raw = .error cause) :
    planArgumentsFrom code index parameters args =
      .error (.malformedArgument code (index + position) cause) := by
  induction position generalizing index parameters args with
  | zero =>
    obtain ⟨rest, rfl⟩ : ∃ rest, parameters = parameter :: rest := by
      cases parameters <;> simp_all
    obtain ⟨rest', rfl⟩ : ∃ rest', args = raw :: rest' := by
      cases args <;> simp_all
    rw [planArgumentsFrom, hcause]
    rfl
  | succ position ih =>
    obtain _ | ⟨first, parameters⟩ := parameters
    · cases hparameter
    obtain _ | ⟨value, args⟩ := args
    · cases hraw
    rw [List.take_succ_cons, admitAll_cons] at hbefore
    obtain ⟨plan, hplan⟩ := Parameter.admits_iff.1 hbefore.1
    rw [planArgumentsFrom, hplan]
    refine bind_eq_error.2 (.inr ⟨plan, rfl, bind_eq_error.2 (.inl ?_)⟩)
    rw [ih hbefore.2 hparameter hraw, Nat.add_assoc, Nat.add_comm 1]

/-- The arguments of a call fit a row: there are no more of them than declared, and each fits. -/
structure Row.Admits (row : Row) (args : List Json) : Prop where
  length_le : args.length ≤ row.parameters.length
  all : AdmitAll row.parameters args

/-- A call is planned exactly when its arguments fit. -/
theorem planArguments_succeeds_iff {row : Row} :
    (∃ plans, planArguments row args = .ok plans) ↔ row.Admits args := by
  unfold planArguments
  by_cases h : row.parameters.length < args.length
  · rw [if_pos h]
    refine ⟨fun hplans => (nomatch hplans), fun hadmits => ?_⟩
    exact absurd hadmits.length_le (Nat.not_le.2 h)
  · rw [if_neg h, planArgumentsFrom_succeeds_iff]
    exact ⟨fun hall => ⟨Nat.not_lt.1 h, hall⟩, Row.Admits.all⟩

theorem planArguments_eq_error {row : Row} {cause : ArgumentFault}
    (hlength : args.length ≤ row.parameters.length)
    (hbefore : AdmitAll (row.parameters.take position) args)
    (hparameter : row.parameters[position]? = some parameter)
    (hraw : args[position]? = some raw) (hcause : planArgument parameter raw = .error cause) :
    planArguments row args = .error (.malformedArgument row.code position cause) := by
  rw [planArguments, if_neg (Nat.not_lt.2 hlength),
    planArgumentsFrom_eq_error hbefore hparameter hraw hcause, Nat.zero_add]

/-! ## Room -/

/-- The number of nodes that an argument of a kind takes. -/
def ArgumentKind.nodes : ArgumentKind → Nat
  | .filter => 3
  | .reducer => 2
  | _ => 1

/-- The number of nodes of an operator that is called with `count` arguments: its select, its
option, and those of the arguments. -/
def Row.nodes (row : Row) (count : Nat) : Nat :=
  2 + ((row.parameters.take count).map fun parameter => parameter.kind.nodes).sum

theorem ArgumentPlan.nodeCount_eq {plan : ArgumentPlan} (h : plan.Fits parameter) :
    plan.nodeCount = parameter.kind.nodes := by
  obtain ⟨name, kind, isOptional⟩ := parameter
  cases plan with
  | input literal =>
    obtain ⟨hfilter, hreducer, -⟩ := h
    cases kind <;> first | rfl | exact absurd rfl hfilter | exact absurd rfl hreducer
  | filter label function operand =>
    obtain rfl : kind = .filter := h.1
    rfl
  | reducer label function =>
    obtain rfl : kind = .reducer := h.1
    rfl

/-- The number of nodes of a planned call depends only on how many arguments it has. -/
theorem OperatorPlan.nodeCount_eq {plan : OperatorPlan}
    (h : FitAll plan.row.parameters plan.arguments) :
    plan.nodeCount = plan.row.nodes plan.arguments.length := by
  have hsame : plan.arguments.map ArgumentPlan.nodeCount =
      (plan.row.parameters.take plan.arguments.length).map fun parameter =>
        parameter.kind.nodes := by
    rw [← List.forall₂_eq_eq_eq, List.forall₂_map_left_iff, List.forall₂_map_right_iff]
    exact (h.imp fun _ _ hfits => (ArgumentPlan.nodeCount_eq hfits).symm).flip.imp
      fun _ _ hcount => hcount.symm
  rw [nodeCount, optionNodes, Row.nodes, hsame]
  omega

/-! ## Calls -/

/-- Planning reads an operator as a code with arguments, and goes on with the row of the code. -/
theorem Catalog.planOperator_eq (catalog : Catalog) (operator : Operator) :
    catalog.planOperator operator = operator.decoded >>= fun call =>
      catalog.row call.1 >>= fun row =>
        OperatorPlan.mk row row.resolved <$> planArguments row call.2 := by
  rw [planOperator, Operator.decoded]
  cases operator.decode with
  | error fault => rfl
  | ok call =>
    show (catalog.output call.1 >>= _) = (catalog.row call.1 >>= _)
    rw [Catalog.output_eq]
    cases catalog.row call.1 <;> rfl

/-- A call of a row of the catalog is planned with that row and its output. -/
theorem Catalog.planOperator_call {catalog : Catalog} {row : Row} (hrow : row ∈ catalog.rows)
    (args : List Json) :
    catalog.planOperator (.call row.code args) =
      OperatorPlan.mk row row.resolved <$> planArguments row args := by
  rw [planOperator_eq, Operator.decoded_call, ok_bind, row_of_mem hrow, ok_bind]

end ScriptTree
