import ScriptTree.Catalog.Standard
import ScriptTree.Proofs.Tree.Admission
/-!
# The grammar of a catalog

A catalog says which operators are well written: the code of one of its rows, alone or in front of
raw arguments, of which there are no more than the row declares and each fits its declaration.
Planning accepts these operators and no others. Of any other operator it tells the first rule that
is broken: there is a code, the catalog knows it, the arguments are not too many, and each of them,
from the first on, fits.

Main statement: `Catalog.planning_follows_grammar`.
-/

namespace ScriptTree

/-! ## Codes -/

namespace Operator

/-- An operator is written as a code alone, or as a sequence of a code and raw arguments. -/
inductive Spells : Operator → OperatorCode → List Json → Prop
  | bare (code : OperatorCode) : Spells (.bare code) code []
  | sequence (code : OperatorCode) (args : List Json) :
      Spells (.sequence (.nat code.value.toNat :: args)) code args

/-- Why an operator has no code: it is a sequence without a head, or with a head that is no whole
number in the range of codes. -/
inductive Codeless : Operator → OperatorFault → Prop
  | emptySequence : Codeless (.sequence []) .emptySequence
  | notCode {head : Json} {args : List Json}
      (different : ∀ code : OperatorCode, head ≠ .nat code.value.toNat) :
      Codeless (.sequence (head :: args)) (.notCode head)

variable {operator : Operator} {code : OperatorCode} {args : List Json}

theorem decoded_eq_ok : operator.decoded = .ok (code, args) ↔ operator.Spells code args := by
  constructor
  · intro h
    rcases operator with bareCode | _ | ⟨head, tail⟩
    · cases h
      exact .bare bareCode
    · cases h
    · cases hword : head.word? with
      | none =>
        rw [decoded, decode, hword] at h
        cases h
      | some word =>
        rw [decoded, decode, hword] at h
        cases h
        rw [Json.word?_eq_some.1 hword]
        exact .sequence ⟨word⟩ tail
  · intro h
    cases h with
    | bare code => rfl
    | sequence code args =>
      rw [decoded, decode, Json.word?_nat]
      rfl

theorem decoded_eq_error {fault : Fault} : operator.decoded = .error fault ↔
    ∃ cause, operator.Codeless cause ∧ fault = .malformedOperator cause := by
  constructor
  · intro h
    rcases operator with bareCode | _ | ⟨head, tail⟩
    · cases h
    · cases h
      exact ⟨_, .emptySequence, rfl⟩
    · cases hword : head.word? with
      | none =>
        rw [decoded, decode, hword] at h
        cases h
        refine ⟨_, .notCode fun code hhead => ?_, rfl⟩
        rw [hhead, Json.word?_nat] at hword
        cases hword
      | some word =>
        rw [decoded, decode, hword] at h
        cases h
  · rintro ⟨cause, hcodeless, rfl⟩
    cases hcodeless with
    | emptySequence => rfl
    | @notCode head args different =>
      have hword : head.word? = none :=
        Option.eq_none_iff_forall_ne_some.2 fun word hword =>
          different ⟨word⟩ (Json.word?_eq_some.1 hword)
      rw [decoded, decode, hword]
      rfl

end Operator

/-! ## Arguments -/

/-- Why a raw value does not fit a declared argument: for a filter it is not a pair, or the head of
the pair is not the code of a filter; for a reducer it is not the code of one. -/
inductive Parameter.Rejects (parameter : Parameter) : Json → ArgumentFault → Prop
  | notPair {raw : Json} (kind : parameter.kind = .filter)
      (different : ∀ tag operand : Json, raw ≠ .array [tag, operand]) :
      Rejects parameter raw (.notPair parameter.name raw)
  | unknownFilter {tag operand : Json} (kind : parameter.kind = .filter)
      (different : ∀ function : Filter, tag ≠ .nat function.code.toNat) :
      Rejects parameter (.array [tag, operand]) (.unknownFilter tag)
  | unknownReducer {raw : Json} (kind : parameter.kind = .reducer)
      (different : ∀ function : Reducer, raw ≠ .nat function.code.toNat) :
      Rejects parameter raw (.unknownReducer raw)

theorem filterOfRaw_eq_none {tag : Json} : tag.word?.bind Filter.ofCode? = none ↔
    ∀ function : Filter, tag ≠ .nat function.code.toNat := by
  simp only [Option.eq_none_iff_forall_ne_some, ne_eq, filterOfRaw_eq_some]

theorem reducerOfRaw_eq_none {raw : Json} : raw.word?.bind Reducer.ofCode? = none ↔
    ∀ function : Reducer, raw ≠ .nat function.code.toNat := by
  simp only [Option.eq_none_iff_forall_ne_some, ne_eq, reducerOfRaw_eq_some]

theorem planFilter_eq_error {parameter : Parameter} {raw : Json} {cause : ArgumentFault}
    (hkind : parameter.kind = .filter) :
    planFilter parameter.name raw = .error cause ↔ parameter.Rejects raw cause := by
  unfold planFilter
  split
  · next tag operand =>
    cases hfound : tag.word?.bind Filter.ofCode? with
    | some function =>
      refine ⟨nofun, fun h => ?_⟩
      cases h with
      | notPair _ different => exact absurd rfl (different tag operand)
      | unknownFilter _ different =>
        exact absurd (filterOfRaw_eq_some.1 hfound) (different function)
      | unknownReducer hreducer _ => cases hkind.symm.trans hreducer
    | none =>
      constructor
      · intro h
        cases h
        exact .unknownFilter hkind (filterOfRaw_eq_none.1 hfound)
      · intro h
        cases h with
        | notPair _ different => exact absurd rfl (different tag operand)
        | unknownFilter _ _ => rfl
        | unknownReducer hreducer _ => cases hkind.symm.trans hreducer
  · next hpair =>
    constructor
    · intro h
      cases h
      exact .notPair hkind hpair
    · intro h
      cases h with
      | notPair _ _ => rfl
      | unknownFilter _ _ => exact absurd rfl (hpair _ _)
      | unknownReducer hreducer _ => cases hkind.symm.trans hreducer

theorem planReducer_eq_error {parameter : Parameter} {raw : Json} {cause : ArgumentFault}
    (hkind : parameter.kind = .reducer) :
    planReducer raw = .error cause ↔ parameter.Rejects raw cause := by
  unfold planReducer
  cases hfound : raw.word?.bind Reducer.ofCode? with
  | some function =>
    refine ⟨nofun, fun h => ?_⟩
    cases h with
    | notPair hfilter _ => cases hkind.symm.trans hfilter
    | unknownFilter hfilter _ => cases hkind.symm.trans hfilter
    | unknownReducer _ different =>
      exact absurd (reducerOfRaw_eq_some.1 hfound) (different function)
  | none =>
    constructor
    · intro h
      cases h
      exact .unknownReducer hkind (reducerOfRaw_eq_none.1 hfound)
    · intro h
      cases h with
      | notPair hfilter _ => cases hkind.symm.trans hfilter
      | unknownFilter hfilter _ => cases hkind.symm.trans hfilter
      | unknownReducer _ _ => rfl

theorem planArgument_eq_error {parameter : Parameter} {raw : Json} {cause : ArgumentFault} :
    planArgument parameter raw = .error cause ↔ parameter.Rejects raw cause := by
  by_cases hfilter : parameter.kind = .filter
  · rw [← planFilter_eq_error hfilter, planArgument, hfilter]
    cases planFilter parameter.name raw <;> simp [Except.map]
  · by_cases hreducer : parameter.kind = .reducer
    · rw [← planReducer_eq_error hreducer, planArgument, hreducer]
      cases planReducer raw <;> simp [Except.map]
    · -- every other kind takes any raw value
      rw [planArgument_of_literal hfilter hreducer]
      constructor
      · intro h
        cases h
      · intro h
        cases h with
        | notPair hkind _ => exact absurd hkind hfilter
        | unknownFilter hkind _ => exact absurd hkind hfilter
        | unknownReducer hkind _ => exact absurd hkind hreducer

/-- Why the raw arguments of a call do not fit a row, and which of them is to blame: there are too
many of them, or else one does not fit its declaration and all before it do. -/
inductive Row.Rejects (row : Row) (args : List Json) : Nat → ArgumentFault → Prop
  | tooMany (more : row.parameters.length < args.length) :
      Rejects row args row.parameters.length
        (.tooMany row.name row.parameters.length args.length)
  | misfit {position : Nat} {parameter : Parameter} {raw : Json} {cause : ArgumentFault}
      (length : args.length ≤ row.parameters.length)
      (before : AdmitAll (row.parameters.take position) args)
      (declared : row.parameters[position]? = some parameter)
      (given : args[position]? = some raw) (rejected : parameter.Rejects raw cause) :
      Rejects row args position cause

/-- Where planning arguments ends in a fault, a first one does not fit. -/
theorem exists_misfit {code : OperatorCode} {index : Nat} {parameters : List Parameter}
    {args : List Json} {fault : Fault}
    (h : planArgumentsFrom code index parameters args = .error fault) :
    ∃ (position : Nat) (parameter : Parameter) (raw : Json) (cause : ArgumentFault),
      AdmitAll (parameters.take position) args ∧ parameters[position]? = some parameter ∧
      args[position]? = some raw ∧ parameter.Rejects raw cause ∧
      fault = .malformedArgument code (index + position) cause := by
  induction parameters generalizing index args with
  | nil => cases h
  | cons parameter parameters ih =>
    obtain _ | ⟨raw, args⟩ := args
    · cases h
    rcases bind_eq_error.1 h with hfirst | ⟨plan, hplan, h⟩
    · obtain ⟨cause, hcause, rfl⟩ := mapError_eq_error.1 hfirst
      exact ⟨0, parameter, raw, cause, nofun, rfl, rfl, planArgument_eq_error.1 hcause, rfl⟩
    · rcases bind_eq_error.1 h with hrest | ⟨_, _, h⟩
      · obtain ⟨position, other, value, cause, hbefore, hdeclared, hgiven, hrejected, rfl⟩ :=
          ih hrest
        refine ⟨position + 1, other, value, cause, ?_, hdeclared, hgiven, hrejected, ?_⟩
        · rw [List.take_succ_cons, admitAll_cons, Parameter.admits_iff]
          exact ⟨⟨plan, mapError_eq_ok.1 hplan⟩, hbefore⟩
        · rw [Nat.add_assoc, Nat.add_comm 1]
      · cases h

theorem planArguments_eq_error_iff {row : Row} {args : List Json} {fault : Fault} :
    planArguments row args = .error fault ↔ ∃ position cause, row.Rejects args position cause ∧
      fault = .malformedArgument row.code position cause := by
  constructor
  · intro h
    unfold planArguments at h
    split at h
    · next more =>
      cases h
      exact ⟨_, _, .tooMany more, rfl⟩
    · next length =>
      obtain ⟨position, parameter, raw, cause, hbefore, hdeclared, hgiven, hrejected, rfl⟩ :=
        exists_misfit h
      rw [Nat.zero_add]
      exact ⟨_, _, .misfit (Nat.not_lt.1 length) hbefore hdeclared hgiven hrejected, rfl⟩
  · rintro ⟨position, cause, hrejects, rfl⟩
    cases hrejects with
    | tooMany more => exact if_pos more
    | misfit length before declared given rejected =>
      exact planArguments_eq_error length before declared given
        (planArgument_eq_error.2 rejected)

/-! ## Operators -/

namespace Catalog

variable {catalog : Catalog} {operator : Operator} {fault : Fault}

/-- An operator of the grammar: the code of a row with arguments that fit the row. -/
def Admits (catalog : Catalog) (operator : Operator) : Prop :=
  ∃ row ∈ catalog.rows, ∃ args, operator.Spells row.code args ∧ row.Admits args

/-- The first rule of the grammar that an operator breaks. -/
inductive Rejects (catalog : Catalog) (operator : Operator) : Fault → Prop
  | codeless {cause : OperatorFault} (codeless : operator.Codeless cause) :
      Rejects catalog operator (.malformedOperator cause)
  | unknown {code : OperatorCode} {args : List Json} (spelled : operator.Spells code args)
      (different : ∀ row ∈ catalog.rows, row.code ≠ code) :
      Rejects catalog operator (.unknownOperator code)
  | arguments {row : Row} {args : List Json} {position : Nat} {cause : ArgumentFault}
      (spelled : operator.Spells row.code args) (mem : row ∈ catalog.rows)
      (rejected : row.Rejects args position cause) :
      Rejects catalog operator (.malformedArgument row.code position cause)

theorem exists_planOperator_iff :
    (∃ plan, catalog.planOperator operator = .ok plan) ↔ catalog.Admits operator := by
  simp only [planOperator_eq, bind_eq_ok, map_eq_ok]
  constructor
  · rintro ⟨plan, ⟨code, args⟩, hdecoded, row, hrow, arguments, harguments, -⟩
    obtain ⟨hmem, rfl⟩ := row_eq_ok.1 hrow
    exact ⟨row, hmem, args, Operator.decoded_eq_ok.1 hdecoded,
      planArguments_succeeds_iff.1 ⟨arguments, harguments⟩⟩
  · rintro ⟨row, hmem, args, hspells, hadmits⟩
    obtain ⟨arguments, harguments⟩ := planArguments_succeeds_iff.2 hadmits
    exact ⟨_, (row.code, args), Operator.decoded_eq_ok.2 hspells, row, row_of_mem hmem, arguments,
      harguments, rfl⟩

theorem planOperator_eq_error :
    catalog.planOperator operator = .error fault ↔ catalog.Rejects operator fault := by
  rw [planOperator_eq]
  constructor
  · intro h
    rcases bind_eq_error.1 h with hdecoded | ⟨⟨code, args⟩, hdecoded, h⟩
    · obtain ⟨cause, hcodeless, rfl⟩ := Operator.decoded_eq_error.1 hdecoded
      exact .codeless hcodeless
    have hspells := Operator.decoded_eq_ok.1 hdecoded
    rcases bind_eq_error.1 h with hrow | ⟨row, hrow, h⟩
    · obtain ⟨hdifferent, rfl⟩ := row_eq_error.1 hrow
      exact .unknown hspells hdifferent
    · obtain ⟨hmem, rfl⟩ := row_eq_ok.1 hrow
      obtain ⟨position, cause, hrejected, rfl⟩ :=
        planArguments_eq_error_iff.1 (map_eq_error.1 h)
      exact .arguments hspells hmem hrejected
  · intro h
    cases h with
    | codeless hcodeless =>
      exact bind_eq_error.2 (.inl (Operator.decoded_eq_error.2 ⟨_, hcodeless, rfl⟩))
    | unknown spelled different =>
      have hrow := row_eq_error.2 ⟨different, rfl⟩
      exact bind_eq_error.2 (.inr ⟨_, Operator.decoded_eq_ok.2 spelled,
        bind_eq_error.2 (.inl hrow)⟩)
    | arguments spelled mem rejected =>
      have harguments := planArguments_eq_error_iff.2 ⟨_, _, rejected, rfl⟩
      exact bind_eq_error.2 (.inr ⟨_, Operator.decoded_eq_ok.2 spelled,
        bind_eq_error.2 (.inr ⟨_, row_of_mem mem, map_eq_error.2 harguments⟩)⟩)

/-- Planning accepts exactly the operators of the catalog's grammar. Any other operator ends in the
fault of the first rule that it breaks: it has no code, or else a code that no row has, or else more
arguments than its row declares, or else an argument that does not fit, and the first of these is
told with its position. -/
theorem planning_follows_grammar (catalog : Catalog) (operator : Operator) :
    ((∃ plan, catalog.planOperator operator = .ok plan) ↔ catalog.Admits operator) ∧
    ∀ fault, catalog.planOperator operator = .error fault ↔ catalog.Rejects operator fault :=
  ⟨exists_planOperator_iff, fun _ => planOperator_eq_error⟩

-- one argument too many is told before the first, which is no pair
example : (match standard.planOperator (.sequence [.nat 0x11, .nat 0, .null]) with
  | .ok _ => none
  | .error fault => some fault) = some (.malformedArgument ⟨0x11⟩ 1 (.tooMany "filter" 1 2)) := by
  decide +kernel

end Catalog

end ScriptTree
