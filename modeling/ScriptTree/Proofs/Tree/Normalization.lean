import ScriptTree.Catalog.Standard
import ScriptTree.Proofs.Tree.Admission
import ScriptTree.Proofs.Tree.Commit
/-!
# Scripts and their normal forms

Normalization changes the spelling of an operator and not what it calls. Planning reads an operator
only through what it decodes to, so a script and its normal form are planned alike, and everything
that is done with the plans comes out the same.

Main statements: `Document.normalized_normalized`, `Catalog.generateScript_normalized`, and
`normalization_changes_only_the_spelling`.
-/

namespace ScriptTree

/-! ## Documents -/

theorem Script.normalized_normalized (script : Script) :
    (script.map Operator.normalized).map Operator.normalized =
      script.map Operator.normalized := by
  rw [List.map_map]
  exact List.map_congr_left fun operator _ => operator.normalized_normalized

theorem Document.normalized_normalized (document : Document Script) :
    document.normalized.normalized = document.normalized := by
  have hsources : (document.retrieve.map (mapSource (List.map Operator.normalized))).map
      (mapSource (List.map Operator.normalized)) =
        document.retrieve.map (mapSource (List.map Operator.normalized)) := by
    rw [List.map_map]
    refine List.map_congr_left fun source _ => ?_
    rw [Function.comp_apply, mapSource, mapSource, Script.normalized_normalized]
  simp only [normalized, Document.map, hsources, Script.normalized_normalized]

/-! ## Planning and generating -/

namespace Catalog

variable (catalog : Catalog)

theorem planOperator_normalized (operator : Operator) :
    catalog.planOperator operator.normalized = catalog.planOperator operator := by
  rw [planOperator_eq, planOperator_eq, Operator.decoded_normalized]

theorem planScript_normalized (script : Script) :
    catalog.planScript (script.map Operator.normalized) = catalog.planScript script := by
  have hoperators : catalog.planOperator ∘ Operator.normalized = catalog.planOperator :=
    funext catalog.planOperator_normalized
  rw [planScript, List.mapM_map, hoperators, planScript]

/-- Generating does the same for a script and for its normal form. -/
theorem generateScript_normalized (script : Script) :
    catalog.generateScript (script.map Operator.normalized) = catalog.generateScript script := by
  rw [generateScript, planScript_normalized, generateScript]

end Catalog

/-! ## Decoding, calling and normalizing -/

/-- Decoding, calling and normalizing agree on what an operator is. The normal form of an operator
that decodes is the call of its code with its arguments and decodes to them again, and an operator
that does not decode is its own normal form. A normal form does not change any more, neither that of
an operator nor that of a document. Generating a script gives what generating its normal form gives:
the same handles in the same arena, or the same fault, and then the arena stays as it was. -/
theorem normalization_changes_only_the_spelling :
    (∀ (operator : Operator) (code : OperatorCode) (given : Option (List Json)),
      operator.decode = .ok (code, given) →
        operator.normalized = .call code (given.getD []) ∧
        ∃ kept, operator.normalized.decode = .ok (code, kept) ∧
          kept.getD [] = given.getD []) ∧
    (∀ (operator : Operator) (fault : Fault), operator.decode = .error fault →
      operator.normalized = operator) ∧
    (∀ operator : Operator, operator.normalized.normalized = operator.normalized) ∧
    (∀ document : Document Script, document.normalized.normalized = document.normalized) ∧
    (∀ (catalog : Catalog) (arena : Arena Node) (script : Script),
      let written := (catalog.generateScript script).run.run arena
      let normal := (catalog.generateScript (script.map Operator.normalized)).run.run arena
      (∃ handles after, written = (.ok handles, after) ∧ normal = (.ok handles, after)) ∨
      ∃ fault, written = (.error fault, arena) ∧ normal = (.error fault, arena)) := by
  refine ⟨fun operator code given hdecode => ?_,
    fun operator fault => Operator.normalized_of_decode_error, Operator.normalized_normalized,
    Document.normalized_normalized, fun catalog arena script => ?_⟩
  · have hcall : operator.normalized = .call code (given.getD []) :=
      Operator.decoded_iff_normalized.1 (Operator.decoded_of_decode hdecode)
    rw [hcall]
    exact ⟨rfl, Operator.exists_decode_call code _⟩
  · rw [catalog.generateScript_normalized, catalog.run_generateScript]
    obtain ⟨handles, after, hplace⟩ | ⟨fault, hplace⟩ := arena.place_cases
      (catalog.scriptLayout arena.frontier <$> catalog.planScript script)
    · exact .inl ⟨handles, after, hplace, hplace⟩
    · exact .inr ⟨fault, hplace, hplace⟩

/-- Sequences of one item: a large code, heads that are no codes, and one of them in a script. -/
theorem normalization_changes_only_the_spelling_oneItem :
    (Operator.sequence [.nat 0xffffffffffffffff]).normalized = .bare ⟨0xffffffffffffffff⟩ ∧
    (∀ head ∈ ([.int (-1), .number (.float .zero), .string "x"] : List Json),
      (Operator.sequence [head]).normalized = .sequence [head]) ∧
    ({ Document.blank with tally := [.sequence [.nat 0x74]] }.normalized.normalized =
      { Document.blank with tally := [.bare ⟨0x74⟩] }) ∧
    (∃ after,
      (Catalog.standard.generateScript [.sequence [.nat 0x74]]).run.run (Arena.empty 7) =
        (.ok [⟨8⟩], after) ∧
      (Catalog.standard.generateScript [.bare ⟨0x74⟩]).run.run (Arena.empty 7) =
        (.ok [⟨8⟩], after)) ∧
    ∃ fault,
      (Catalog.standard.generateScript [.sequence [.nat 0x74], .sequence [.int (-1)]]).run.run
        (Arena.empty 7) = (.error fault, Arena.empty 7) ∧
      (Catalog.standard.generateScript [.bare ⟨0x74⟩, .sequence [.int (-1)]]).run.run
        (Arena.empty 7) = (.error fault, Arena.empty 7) := by
  obtain ⟨hcall, hkept, -, hdocuments, hscripts⟩ := normalization_changes_only_the_spelling
  obtain ⟨hplanned, hrefused⟩ :
      ((Catalog.standard.generateScript [.sequence [.nat 0x74]]).run.run
        (Arena.empty 7)).1.toOption = some [⟨8⟩] ∧
      ((Catalog.standard.generateScript [.sequence [.nat 0x74], .sequence [.int (-1)]]).run.run
        (Arena.empty 7)).1.toOption = none := by decide +kernel
  refine ⟨(hcall _ ⟨0xffffffffffffffff⟩ (some []) (by decide)).1, fun head hhead => ?_,
    (hdocuments _).trans (by decide), ?_, ?_⟩
  · refine hkept _ (.malformedOperator (.notCode head)) ?_
    have hword : head.word? = none := by
      revert hhead head
      decide
    rw [Operator.decode, hword]
  · obtain ⟨handles, after, hwritten, hnormal⟩ | ⟨fault, hwritten, -⟩ :=
      hscripts Catalog.standard (Arena.empty 7) [.sequence [.nat 0x74]]
    · rw [hwritten] at hplanned
      cases hplanned
      exact ⟨after, hwritten, hnormal⟩
    · rw [hwritten] at hplanned
      cases hplanned
  · obtain ⟨handles, after, hwritten, -⟩ | ⟨fault, hwritten, hnormal⟩ :=
      hscripts Catalog.standard (Arena.empty 7) [.sequence [.nat 0x74], .sequence [.int (-1)]]
    · rw [hwritten] at hrefused
      cases hrefused
    · exact ⟨fault, hwritten, hnormal⟩

end ScriptTree
