import ScriptTree.Proofs.Editor.Replacing
/-!
# Selecting an operator

The select at a position offers the operators of its category. Each of them can be selected as long
as there is room for it, and nothing else can. The operator that takes the place starts with the
defaults of its arguments up to the first optional one, so it has all its required arguments exactly
when none of them is declared behind an optional one.

Main statements: `Editor.offered_options_can_be_selected` and `Editor.select_binds_required_iff`.
-/

namespace ScriptTree

/-! ## Options -/

theorem Catalog.mem_options {catalog : Catalog} {category : ValueType} {choice : Choice} :
    choice ∈ catalog.options category ↔
      ∃ row ∈ catalog.rows, row.category = category ∧ choice = ⟨row.name, row.resolved⟩ := by
  simp only [options, entries_eq, List.map_map, List.mem_map, List.mem_filter, decide_eq_true_eq,
    and_assoc]
  constructor
  · rintro ⟨row, hrow, hcategory, rfl⟩
    exact ⟨row, hrow, hcategory, rfl⟩
  · rintro ⟨row, hrow, hcategory, rfl⟩
    exact ⟨row, hrow, hcategory, rfl⟩

/-! ## Required arguments -/

namespace Row

/-- No required argument is declared behind an optional one. -/
def OptionalLast (row : Row) : Prop :=
  row.parameters.Pairwise fun a b => a.optional = true → b.optional = true

theorem getElem?_requiredDefaults {row : Row} {position : Nat} {parameter : Parameter}
    (h : row.parameters[position]? = some parameter) :
    row.requiredDefaults[position]? =
      if position < row.parameters.findIdx Parameter.optional then
        some parameter.kind.defaultValue
      else none := by
  rw [requiredDefaults, List.getElem?_map, List.getElem?_take, h]
  split <;> rfl

/-- The defaults fit that a selected operator starts with. -/
theorem admits_requiredDefaults (row : Row) : row.Admits row.requiredDefaults where
  length_le := by
    rw [requiredDefaults, List.length_map, List.length_take]
    exact Nat.min_le_right ..
  all := by
    intro position parameter raw hparameter hraw
    rw [getElem?_requiredDefaults hparameter] at hraw
    split at hraw
    · cases hraw
      exact parameter.admits_default
    · cases hraw

/-- The defaults reach all required arguments exactly when the optional ones come last. -/
theorem requiredDefaults_reach_iff {row : Row} :
    (∀ (position : Nat) (parameter : Parameter), row.parameters[position]? = some parameter →
      parameter.optional = false →
        row.requiredDefaults[position]? = some parameter.kind.defaultValue) ↔
      row.OptionalLast := by
  constructor
  · intro h
    refine List.pairwise_iff_getElem.2 fun i j hi hj hij hoptional => ?_
    by_contra hrequired
    have hparameter := List.getElem?_eq_getElem hj
    have hreach := h j _ hparameter (Bool.eq_false_iff.2 hrequired)
    rw [getElem?_requiredDefaults hparameter] at hreach
    split at hreach
    · next hbefore =>
      -- the optional argument would have to stand in front of the first optional one
      have hnot := List.not_of_lt_findIdx (Nat.lt_trans hij hbefore)
      exact absurd hoptional (Bool.eq_false_iff.1 hnot)
    · cases hreach
  · intro h position parameter hparameter hrequired
    obtain ⟨hlt, rfl⟩ := List.getElem?_eq_some_iff.1 hparameter
    rw [getElem?_requiredDefaults hparameter, if_pos]
    refine List.lt_findIdx_of_not hlt fun earlier hle hoptional => ?_
    rcases Nat.lt_or_eq_of_le hle with hbefore | rfl
    · have hbehind := List.pairwise_iff_getElem.1 h earlier position _ hlt hbefore hoptional
      exact absurd hbehind (Bool.eq_false_iff.1 hrequired)
    · exact absurd hoptional (Bool.eq_false_iff.1 hrequired)

end Row

/-- Every required argument of a row is bound in an option, to the default of its kind. -/
def Arena.BindsRequired (arena : Arena Node) (row : Row) (chosen : Chosen) : Prop :=
  ∀ (position : Nat) (parameter : Parameter), row.parameters[position]? = some parameter →
    parameter.optional = false →
      ∃ handle, chosen.arguments[position]? = some handle ∧
        arena.lowerArgument handle = .ok parameter.kind.defaultValue

/-- Arguments that lower to the defaults bind all required ones exactly when the optional ones come
last. -/
theorem Arena.bindsRequired_iff {arena : Arena Node} {row : Row} {chosen : Chosen}
    (h : chosen.arguments.mapM arena.lowerArgument = .ok row.requiredDefaults) :
    arena.BindsRequired row chosen ↔ row.OptionalLast := by
  have hlowered := mapM_eq_ok_iff.1 h
  rw [← Row.requiredDefaults_reach_iff, BindsRequired]
  refine forall₄_congr fun position parameter _ _ => ?_
  constructor
  · rintro ⟨handle, hhandle, hlower⟩
    obtain ⟨value, hvalue, hsame⟩ := forall₂_getElem? hlowered hhandle
    rw [hvalue, Except.ok.inj (hsame.symm.trans hlower)]
  · intro hvalue
    obtain ⟨handle, hhandle, hlower⟩ := forall₂_getElem? hlowered.flip hvalue
    exact ⟨handle, hhandle, hlower⟩

namespace Editor

variable {editor : Editor} {stage : Stage} {index : Nat} {old : Handle} {plan : OperatorPlan}

/-! ## Which call is made -/

/-- The name of a row of the category is a selection of that row. -/
theorem Stands.selection_of_row (h : editor.Stands stage index old plan) {row : Row}
    (hrow : row ∈ editor.catalog.rows) (hcategory : row.category = plan.row.category) :
    editor.selection stage index row.name = .ok (.call row.code row.requiredDefaults) := by
  obtain ⟨hposition, -, ⟨hselect, -⟩⟩ := h
  rw [selection, hposition, ok_bind, Arena.resolveSelect_eq_ok.2 hselect, ok_bind, ← hcategory]
  simp only [Catalog.codeFor?_of_mem hrow, Catalog.row_of_mem hrow, ok_bind, seeds_eq]
  rfl

/-- No other name is a selection. -/
theorem Stands.selection_of_unknown (h : editor.Stands stage index old plan) {label : String}
    (hlabel : ∀ choice ∈ editor.catalog.options plan.row.category, choice.label ≠ label) :
    editor.selection stage index label =
      .error (.unknownOption (.operators plan.row.category) label) := by
  obtain ⟨hposition, -, ⟨hselect, -⟩⟩ := h
  have hnone : editor.catalog.codeFor? plan.row.category label = none := by
    refine Option.eq_none_iff_forall_ne_some.2 fun code hcode => ?_
    obtain ⟨row, hrow, hcategory, hname, -⟩ := Catalog.codeFor?_eq_some.1 hcode
    exact hlabel _ (Catalog.mem_options.2 ⟨row, hrow, hcategory, rfl⟩) hname
  rw [selection, hposition, ok_bind, Arena.resolveSelect_eq_ok.2 hselect, ok_bind]
  simp only [hnone]
  rfl

/-! ## What selecting does -/

/-- Selecting answers with a handle exactly where there is room for the operator, and puts it at
the position. -/
theorem Stands.select_row (h : editor.Stands stage index old plan) {row : Row}
    (hrow : row ∈ editor.catalog.rows) (hcategory : row.category = plan.row.category) :
    let edit : Edit := .select stage index row.name
    let needed := row.nodes row.requiredDefaults.length
    (editor.arena.remaining < needed →
      (editor.perform edit).1 = .error (editor.arena.full needed)) ∧
    (needed ≤ editor.arena.remaining →
      ∃ fresh later, (editor.perform edit).1 = .ok (.handle fresh) ∧
        (editor.after edit).Stands stage index fresh later ∧ later.row = row ∧
        (editor.after edit).arena.remaining = editor.arena.remaining - needed) := by
  intro edit needed
  have hcall : editor.Rewrites edit stage index (.call row.code row.requiredDefaults) :=
    .select (h.selection_of_row hrow hcategory)
  refine ⟨hcall.full h.position hrow row.admits_requiredDefaults, fun hroom => ?_⟩
  obtain ⟨fresh, later, hresult, hstands, hlater, -, hremaining⟩ :=
    hcall.succeeds h.position hrow row.admits_requiredDefaults hroom
  exact ⟨fresh, later, hresult, hstands, hlater, hremaining⟩

theorem catalog_after (editor : Editor) (edit : Edit) :
    (editor.after edit).catalog = editor.catalog :=
  editor.catalog_replay [edit]

/-- Every offered option can be selected, and nothing else can. Whatever document an editor was
opened on, the blank one where none is given, and whatever edits followed, an operator select stands
at every position of a script. Each of its options is a row of its category, and selecting it
succeeds exactly if there is room for the row called with its first defaults. Then the select at the
position is of the same kind and offers the same options, and shows the option that was selected,
with its output. Every other label is an unknown option. -/
theorem offered_options_can_be_selected {catalog : Catalog} {origin : UInt32}
    {document : Option (Document Script)} {editor : Editor}
    (hopen : ofDocument catalog origin (document.getD .blank) = .ok editor) (edits : List Edit)
    {stage : Stage} {index : Nat} {old : Handle}
    (hposition : (editor.replay edits).handle stage index = .ok old) :
    let reached := editor.replay edits
    let answer (label : String) := (reached.perform (.select stage index label)).1
    ∃ select chosen category, reached.Shows stage index select chosen ∧
      select.kind = .operator category ∧
      (∀ choice ∈ select.options, ∃ row ∈ catalog.rows, row.category = category ∧
        choice = ⟨row.name, row.resolved⟩ ∧
        let later := reached.after (.select stage index choice.label)
        let needed := row.nodes row.requiredDefaults.length
        (reached.arena.remaining < needed →
          answer choice.label = .error (reached.arena.full needed)) ∧
        (needed ≤ reached.arena.remaining →
          (∃ fresh, answer choice.label = .ok (.handle fresh) ∧
            later.handle stage index = .ok fresh) ∧
          later.arena.remaining = reached.arena.remaining - needed ∧
          ∃ select' chosen', later.Shows stage index select' chosen' ∧
            select'.kind = select.kind ∧ select'.options = select.options ∧
            select'.output = choice.output ∧ chosen'.label = choice.label ∧
            chosen'.output = choice.output)) ∧
      ∀ label, (∀ choice ∈ select.options, choice.label ≠ label) →
        answer label = .error (.unknownOption (.operators category) label) := by
  intro reached answer
  obtain ⟨hcatalog, -⟩ := ofDocument_eq_ok hopen
  obtain ⟨_, -, hrepresents⟩ := (represents_of_ofDocument hopen).replay hcatalog edits
  obtain ⟨plan, hstands⟩ := hrepresents.stands hposition
  obtain ⟨selected, arguments, hshows, -⟩ := hstands.shows
  have hreached : reached.catalog = catalog := (editor.catalog_replay edits).trans hcatalog
  refine ⟨_, _, _, hshows, rfl, fun choice hchoice => ?_, fun label hlabel => ?_⟩
  · obtain ⟨row, hrow, hcategory, rfl⟩ := Catalog.mem_options.1 hchoice
    obtain ⟨hfull, hfits⟩ := hstands.select_row hrow hcategory
    refine ⟨row, hreached ▸ hrow, hcategory, rfl, hfull, fun hroom => ?_⟩
    obtain ⟨fresh, later, hresult, hlater, rfl, hremaining⟩ := hfits hroom
    obtain ⟨_, _, hshows', -⟩ := hlater.shows
    refine ⟨⟨fresh, hresult, hlater.position⟩, hremaining, _, _, hshows', ?_, ?_, rfl, rfl, rfl⟩
    · exact congrArg SelectKind.operator hcategory
    · show (reached.after _).catalog.options _ = _
      rw [catalog_after, hcategory]
  · show (reached.perform _).1 = _
    rw [perform_select, hstands.selection_of_unknown hlabel]
    rfl

/-- A filter and a reducer among the arguments of the option that is selected, behind a history with
a fault in it. -/
theorem offered_options_can_be_selected_functions :
    let fold : Row :=
      ⟨⟨2⟩, "fold", .array, [.float], [⟨"keep", .filter, false⟩, ⟨"by", .reducer, false⟩]⟩
    let rows : List Row := [⟨⟨1⟩, "plain", .array, [.integer], []⟩, fold]
    let edits : List Edit := [.push .tally (.bare ⟨1⟩), .select .tally 0 "nonsense"]
    ∃ catalog editor, Catalog.ofRows rows = .ok catalog ∧
      ofDocument catalog 7 ((none : Option (Document Script)).getD .blank) = .ok editor ∧
      let reached := editor.replay edits
      let later := reached.after (.select .tally 0 "fold")
      reached.handle .tally 0 = .ok ⟨8⟩ ∧
      (∃ fresh, (reached.perform (.select .tally 0 "fold")).1 = .ok (.handle fresh) ∧
        later.handle .tally 0 = .ok fresh) ∧
      ∃ select chosen, later.Shows .tally 0 select chosen ∧ select.output = .one .float ∧
        chosen.label = "fold" := by
  intro fold rows edits
  have hread : ((Catalog.ofRows rows).toOption.bind fun catalog =>
      (ofDocument catalog 7 ((none : Option (Document Script)).getD .blank)).toOption.map
        fun editor =>
          let reached := editor.replay edits
          (catalog.rows, reached.arena.remaining, (reached.handle .tally 0).toOption,
            reached.arena.resolve? ⟨8⟩)) =
      some (rows, UInt32.size - 9, some ⟨8⟩, some (.select ⟨.operator .array, none, .one .integer,
        ⟨7⟩, [⟨"plain", .one .integer⟩, ⟨"fold", .one .float⟩]⟩)) := by decide +kernel
  obtain ⟨catalog, hcatalog, hread⟩ := Option.bind_eq_some_iff.1 hread
  obtain ⟨editor, hopen, hread⟩ := Option.map_eq_some_iff.1 hread
  obtain ⟨hrows, hread⟩ := Prod.mk.inj hread
  obtain ⟨hremaining, hread⟩ := Prod.mk.inj hread
  obtain ⟨hposition, hresolve⟩ := Prod.mk.inj hread
  have hopen := eq_ok_of_toOption hopen
  have hposition := eq_ok_of_toOption hposition
  obtain ⟨select, chosen, category, ⟨⟨handle, hhandle, hselect⟩, -⟩, -, hoptions, -⟩ :=
    offered_options_can_be_selected hopen edits hposition
  obtain rfl : ⟨8⟩ = handle := Except.ok.inj (hposition.symm.trans hhandle)
  obtain rfl := Node.select.inj (Option.some.inj (hresolve.symm.trans hselect))
  obtain ⟨row, hrow, -, hchoice, -, hfits⟩ := hoptions ⟨"fold", .one .float⟩ (by simp)
  have hnamed : ∀ row ∈ rows, row.name = "fold" → row = fold := by decide +kernel
  obtain rfl : row = fold := hnamed row (hrows ▸ hrow) (congrArg Choice.label hchoice).symm
  have hroom : fold.nodes fold.requiredDefaults.length ≤ (editor.replay edits).arena.remaining := by
    rw [hremaining]
    decide +kernel
  obtain ⟨hfresh, -, select', chosen', hshows, -, -, houtput, hlabel, -⟩ := hfits hroom
  exact ⟨catalog, editor, eq_ok_of_toOption hcatalog, hopen, hposition, hfresh, select', chosen',
    hshows, houtput, hlabel⟩

/-- An operator that is selected starts with the defaults of its arguments in front of the first
optional one. So all its required arguments are bound, each to its default, exactly when none of
them is declared behind an optional one. -/
theorem select_binds_required_iff {editor : Editor} {stage : Stage} {index : Nat}
    {label : String} {result : Edit.Result}
    (h : (editor.perform (.select stage index label)).1 = .ok result) :
    let later := editor.after (.select stage index label)
    ∃ row ∈ editor.catalog.rows, row.name = label ∧
      ∃ select chosen, later.Shows stage index select chosen ∧
        select.kind = .operator row.category ∧ chosen.label = label ∧
        chosen.arguments.mapM later.arena.lowerArgument = .ok row.requiredDefaults ∧
        (later.arena.BindsRequired row chosen ↔ row.OptionalLast) := by
  intro later
  have heffect : editor.Effect (.select stage index label) result later :=
    effect_of_perform (Prod.ext h rfl)
  rw [perform_select] at h
  obtain ⟨operator, hselection, -⟩ := bind_eq_ok.1 h
  obtain ⟨-, -, row, -, -, hrow, -, rfl, rfl⟩ := selection_eq_ok hselection
  obtain ⟨plan, fresh, hplans, -, hstands, -⟩ := heffect.stands (.select hselection)
  obtain ⟨rfl, hraw, -⟩ := hplans.of_call hrow
  obtain ⟨selected, arguments, hshows, hbelow⟩ := hstands.shows
  have hlowered : arguments.mapM later.arena.lowerArgument = .ok plan.row.requiredDefaults := by
    rw [← hraw]
    exact Arena.lowerArguments_of_holds hbelow
  exact ⟨plan.row, hrow, rfl, _, _, hshows, rfl, rfl, hlowered, Arena.bindsRequired_iff hlowered⟩

/-- A required argument behind an optional one, which is left without a value. -/
theorem select_binds_required_iff_optionalFirst :
    let scaled : Row := ⟨⟨2⟩, "scaled", .array, [.integer],
      [⟨"unit", .passthrough, true⟩, ⟨"factor", .integer, false⟩]⟩
    let rows : List Row := [⟨⟨1⟩, "plain", .array, [.integer], []⟩, scaled]
    let document : Document Script := ⟨"", "", 0, [], [.bare ⟨1⟩], []⟩
    let edit : Edit := .select .aggregate 0 "scaled"
    ∃ catalog editor, Catalog.ofRows rows = .ok catalog ∧
      ofDocument catalog 1 document = .ok editor ∧
      (editor.perform edit).1 = .ok (.handle ⟨4⟩) ∧
      ∃ select chosen, (editor.after edit).Shows .aggregate 0 select chosen ∧
        chosen.label = "scaled" ∧ ¬(editor.after edit).arena.BindsRequired scaled chosen := by
  intro scaled rows document edit
  have hread : ((Catalog.ofRows rows).toOption.bind fun catalog =>
      (ofDocument catalog 1 document).toOption.map fun editor =>
        (editor.catalog.rows, (editor.perform edit).1.toOption)) =
      some (rows, some (.handle ⟨4⟩)) := by decide +kernel
  obtain ⟨catalog, hcatalog, hread⟩ := Option.bind_eq_some_iff.1 hread
  obtain ⟨editor, hopen, hread⟩ := Option.map_eq_some_iff.1 hread
  obtain ⟨hrows, hresult⟩ := Prod.mk.inj hread
  have hresult := eq_ok_of_toOption hresult
  obtain ⟨row, hrow, hname, select, chosen, hshows, -, hlabel, -, hbinds⟩ :=
    select_binds_required_iff hresult
  have hnamed : ∀ row ∈ rows, row.name = "scaled" → row = scaled := by decide +kernel
  obtain rfl : row = scaled := hnamed row (hrows ▸ hrow) hname
  have hlast : ¬scaled.OptionalLast := by
    unfold Row.OptionalLast
    decide +kernel
  exact ⟨catalog, editor, eq_ok_of_toOption hcatalog, eq_ok_of_toOption hopen, hresult, select,
    chosen, hshows, hlabel, mt hbinds.1 hlast⟩

end Editor

end ScriptTree
