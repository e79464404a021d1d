import ScriptTree.Proofs.Document.Pairs
/-!
# Documents that differ in one place

A document before and after the script of one stage has changed: everything else of the two is the
same. When the scripts of both are read by a relation that leaves no choice, such as showing handles
as trees, what is read differs in the same place only.

Main statements: changing one script changes nothing else (`Document.differsAt_modify`), and what is
read of two documents differs where they do (`Document.Pairs.differsAt`).
-/

namespace ScriptTree.Document

variable {σ τ : Type}

/-- Two documents that agree in everything but the script of one stage. -/
structure DiffersAt (before after : Document σ) (stage : Stage) (old new : σ) : Prop where
  name : after.name = before.name
  description : after.description = before.description
  notBefore : after.notBefore = before.notBefore
  urls : after.retrieve.map Source.url = before.retrieve.map Source.url
  elsewhere : ∀ other, other ≠ stage → after.script? other = before.script? other
  old : before.script? stage = some old
  new : after.script? stage = some new

theorem urls_modify (sources : List (Source σ)) (index : Nat) (f : σ → σ) :
    (sources.modify index (mapSource f)).map Source.url = sources.map Source.url := by
  induction sources generalizing index with
  | nil => cases index <;> rfl
  | cons source sources ih =>
    cases index with
    | zero => rfl
    | succ index => exact congrArg (source.url :: ·) (ih index)

/-- Changing the script of a stage changes nothing else. -/
theorem differsAt_modify {document : Document σ} {stage : Stage} {old : σ}
    (h : document.script? stage = some old) (f : σ → σ) :
    document.DiffersAt (document.modify stage f) stage old (f old) where
  name := by cases stage <;> rfl
  description := by cases stage <;> rfl
  notBefore := by cases stage <;> rfl
  urls := by
    cases stage with
    | retrieve index => exact urls_modify document.retrieve index f
    | aggregate => rfl
    | tally => rfl
  elsewhere := fun other hother => by rw [script?_modify, if_neg hother]
  old := h
  new := by rw [script?_modify, if_pos rfl, h, Option.map_some]

/-! ## Reading both -/

namespace Pairs

variable {R : σ → τ → Prop} {a a' : Document σ} {b b' : Document τ}

theorem urls (h : a.Pairs R b) : b.retrieve.map Source.url = a.retrieve.map Source.url := by
  have hretrieve := h.retrieve
  generalize a.retrieve = sources at hretrieve
  generalize b.retrieve = others at hretrieve
  induction hretrieve with
  | nil => rfl
  | cons hsource _ ih => rw [List.map_cons, List.map_cons, ih, hsource.1]

variable (hR : Relator.RightUnique R) (h : a.Pairs R b) (h' : a'.Pairs R b')

include hR h h'

/-- A stage with the same script in both documents reads the same in both. -/
theorem script?_congr {stage : Stage} (hsame : a'.script? stage = a.script? stage) :
    b'.script? stage = b.script? stage := by
  cases hb : b.script? stage with
  | none =>
    rw [Option.eq_none_iff_forall_ne_some]
    intro t ht
    obtain ⟨s, hs, -⟩ := h'.symm.script? ht
    obtain ⟨t', ht', -⟩ := h.script? (hsame.symm.trans hs)
    exact nomatch hb.symm.trans ht'
  | some t =>
    obtain ⟨s, hs, hst⟩ := h.symm.script? hb
    obtain ⟨t', ht', hst'⟩ := h'.script? (hsame.trans hs)
    rw [ht', hR hst hst']

/-- A document reads in one way only. -/
theorem unique (hsame : a' = a) : b' = b := by
  subst hsame
  have hsame : b'.Pairs (· = ·) b :=
    trans (fun t s t' (ht : R s t) (ht' : R s t') => hR ht ht') h'.symm h
  exact pairs_eq_iff.1 hsame

/-- What is read differs where the documents do. -/
theorem differsAt {stage : Stage} {old new : σ} (hdiffers : a.DiffersAt a' stage old new) :
    ∃ shown shown', R old shown ∧ R new shown' ∧ b.DiffersAt b' stage shown shown' := by
  obtain ⟨shown, hold, hshown⟩ := h.script? hdiffers.old
  obtain ⟨shown', hnew, hshown'⟩ := h'.script? hdiffers.new
  refine ⟨shown, shown', hshown, hshown', ?_⟩
  exact {
    name := h'.name.symm.trans (hdiffers.name.trans h.name)
    description := h'.description.symm.trans (hdiffers.description.trans h.description)
    notBefore := h'.notBefore.symm.trans (hdiffers.notBefore.trans h.notBefore)
    urls := h'.urls.trans (hdiffers.urls.trans h.urls.symm)
    elsewhere := fun other hother => h.script?_congr hR h' (hdiffers.elsewhere other hother)
    old := hold
    new := hnew }

end Pairs

end ScriptTree.Document
