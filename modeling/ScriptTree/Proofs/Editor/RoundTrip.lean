import ScriptTree.Command
import ScriptTree.Proofs.Document.SameData
import ScriptTree.Proofs.Tree.Represents
/-!
# Lowering undoes generation

A generated tree lowers to the script that it was generated from, in shortest spelling, and goes on
doing so whatever is inserted afterwards. So a document that converts comes back as its normal form,
and the command that checks this never finds a difference.

Main statement: `Catalog.lowering_undoes_generation`.
-/

namespace ScriptTree

namespace Command

/-- The round trip of a document succeeds whenever the document converts. -/
theorem output_roundtrip (settings : Settings) (catalog : Catalog) (source : Option String) :
    roundtrip.output settings catalog source =
      (fun _ => "✓ Round trip is lossless\n") <$> editor settings catalog source := by
  unfold output editor
  cases Command.document source with
  | error complaint => rfl
  | ok document =>
    show (do
      let editor ←
        (Editor.ofDocument catalog settings.cacheOrigin document).mapError Complaint.fault
      let back ← editor.lower.mapError .fault
      if back.sameData document.normalized then return "✓ Round trip is lossless\n"
      else throw .changed) = _ <$>
        (Editor.ofDocument catalog settings.cacheOrigin document).mapError Complaint.fault
    cases hopen : Editor.ofDocument catalog settings.cacheOrigin document with
    | error fault => rfl
    | ok editor =>
      show (do
        let back ← editor.lower.mapError Complaint.fault
        if back.sameData document.normalized then return "✓ Round trip is lossless\n"
        else throw Complaint.changed) = .ok "✓ Round trip is lossless\n"
      rw [(Editor.represents_of_ofDocument hopen).lower]
      show (if document.normalized.sameData document.normalized then _ else _) = _
      rw [if_pos document.normalized.sameData_refl]
      rfl

/-- A document that cannot be read or converted is a complaint about its file or a fault. -/
theorem editor_ne_changed (settings : Settings) (catalog : Catalog) (source : Option String) :
    editor settings catalog source ≠ .error .changed := by
  unfold editor
  cases source with
  | none => exact nofun
  | some text =>
    cases hread : Document.ofText text with
    | error fault =>
      rw [Command.document, hread]
      exact nofun
    | ok document =>
      rw [Command.document, hread]
      show (Editor.ofDocument catalog settings.cacheOrigin document).mapError Complaint.fault ≠ _
      cases Editor.ofDocument catalog settings.cacheOrigin document <;> exact nofun

end Command

/-- Lowering undoes generation. What is generated for a script into any arena lowers to the script's
normal form, also after further insertions; a document that is opened lowers to its normal form; and
checking the round trip of a document never finds it changed. -/
theorem Catalog.lowering_undoes_generation (catalog : Catalog) :
    (∀ (arena after later : Arena Node) (script : Script) (handles : List Handle),
      (catalog.generateScript script).run.run arena = (.ok handles, after) →
      after.Extends later →
      later.lowerScript catalog handles = .ok (script.map Operator.normalized)) ∧
    (∀ (origin : UInt32) (document : Document Script) (editor : Editor),
      Editor.ofDocument catalog origin document = .ok editor →
      editor.lower = .ok document.normalized) ∧
    (∀ (settings : Settings) (source : Option String),
      Command.roundtrip.output settings catalog source ≠ .error .changed) := by
  refine ⟨fun arena after later script handles hrun hx => ?_,
    fun origin document editor hopen => (Editor.represents_of_ofDocument hopen).lower,
    fun settings source hchanged => ?_⟩
  · exact ((Arena.represents_of_generateScript hrun).mono hx).lowerScript
  · rw [Command.output_roundtrip] at hchanged
    cases heditor : Command.editor settings catalog source with
    | ok editor =>
      rw [heditor] at hchanged
      cases hchanged
    | error complaint =>
      rw [heditor] at hchanged
      cases hchanged
      exact Command.editor_ne_changed settings catalog source heditor

/-- A script with a filter, a reducer, a literal and a sequence of a code alone. -/
def everyArgument : Script :=
  [.sequence [.nat 0x11, .array [.nat 5, .string "x"]], .sequence [.nat 0x1b, .nat 3],
    .sequence [.nat 0x61, .string "bpi"], .sequence [.nat 0x74]]

/-- The script with every kind of argument, generated into an arena that has a node already and gets
another one afterwards, and opened as the tally of a document. -/
theorem lowering_undoes_generation_everyArgument :
    (∃ after later : Arena Node,
      (Catalog.standard.generateScript everyArgument).run.run
        ((Arena.empty 7).fill [.input ⟨"", .string, .null⟩]) =
          (.ok [⟨12⟩, ⟨16⟩, ⟨19⟩, ⟨21⟩], after) ∧
      after.insert? (.option ⟨"", .one .bytes, []⟩) = some (⟨22⟩, later) ∧
      later.lowerScript Catalog.standard [⟨12⟩, ⟨16⟩, ⟨19⟩, ⟨21⟩] =
        .ok (everyArgument.map Operator.normalized)) ∧
    (∃ editor : Editor,
      Editor.ofDocument Catalog.standard 7 { Document.blank with tally := everyArgument } =
        .ok editor ∧
      editor.lower = .ok { Document.blank with tally := everyArgument }.normalized) ∧
    everyArgument.map Operator.normalized ≠ everyArgument := by
  have hscript := (Catalog.lowering_undoes_generation Catalog.standard).1
  have hdocument := (Catalog.lowering_undoes_generation Catalog.standard).2.1
  obtain ⟨hgenerated, hinserted, hopened⟩ :
      ((Catalog.standard.generateScript everyArgument).run.run
          ((Arena.empty 7).fill [.input ⟨"", .string, .null⟩])).1.toOption =
        some [⟨12⟩, ⟨16⟩, ⟨19⟩, ⟨21⟩] ∧
      (((Catalog.standard.generateScript everyArgument).run.run
          ((Arena.empty 7).fill [.input ⟨"", .string, .null⟩])).2.insert?
            (.option ⟨"", .one .bytes, []⟩)).map Prod.fst = some ⟨22⟩ ∧
      (Editor.ofDocument Catalog.standard 7
        { Document.blank with tally := everyArgument }).isOk = true := by decide +kernel
  refine ⟨?_, ?_, by decide +kernel⟩
  · obtain ⟨after, hrun⟩ := Steps.exists_run hgenerated
    rw [hrun] at hinserted
    obtain ⟨⟨handle, later⟩, hinsert, rfl⟩ := Option.map_eq_some_iff.1 hinserted
    exact ⟨after, later, hrun, hinsert,
      hscript _ after later everyArgument _ hrun (Arena.extends_of_insert? hinsert)⟩
  · obtain ⟨editor, hopen⟩ := exists_of_isOk hopened
    exact ⟨editor, hopen, hdocument 7 _ editor hopen⟩

end ScriptTree
