import ScriptTree.Document.Basic
import ScriptTree.Proofs.Steps
/-!
# Documents side by side

Two documents of one shape, whose scripts are of different types, compared script by script. A
document in an arena and its compact form are such a pair.

Main statements: a traversal succeeds exactly when the two documents pair by it
(`Document.mapM_eq_ok_iff`), and the edits of one script or of the sources keep a pair together
(`Document.Pairs.modify` and the like).
-/

namespace ScriptTree

/-! ## Lists side by side -/

section Lists

variable {α β : Type} {R : α → β → Prop} {xs : List α} {ys : List β}

theorem forall₂_getElem? (h : List.Forall₂ R xs ys) {index : Nat} {x : α}
    (hx : xs[index]? = some x) : ∃ y, ys[index]? = some y ∧ R x y := by
  induction h generalizing index with
  | nil => cases hx
  | @cons _ y _ _ hxy _ ih =>
    cases index with
    | zero =>
      cases hx
      exact ⟨y, rfl, hxy⟩
    | succ index => exact ih hx

theorem forall₂_exists_left (h : List.Forall₂ R xs ys) {y : β} (hy : y ∈ ys) :
    ∃ x ∈ xs, R x y := by
  induction h with
  | nil => cases hy
  | @cons x _ xs _ hxy _ ih =>
    rcases List.mem_cons.1 hy with rfl | hy
    · exact ⟨x, List.mem_cons_self, hxy⟩
    · obtain ⟨x', hx', hR⟩ := ih hy
      exact ⟨x', List.mem_cons_of_mem _ hx', hR⟩

theorem forall₂_set (h : List.Forall₂ R xs ys) (index : Nat) {x : α} {y : β} (hxy : R x y) :
    List.Forall₂ R (xs.set index x) (ys.set index y) := by
  induction h generalizing index with
  | nil => exact .nil
  | cons hhead htail ih =>
    cases index with
    | zero => exact .cons hxy htail
    | succ index => exact .cons hhead (ih index)

theorem forall₂_eraseIdx (h : List.Forall₂ R xs ys) (index : Nat) :
    List.Forall₂ R (xs.eraseIdx index) (ys.eraseIdx index) := by
  induction h generalizing index with
  | nil => exact .nil
  | cons hhead htail ih =>
    cases index with
    | zero => exact htail
    | succ index => exact .cons hhead (ih index)

theorem forall₂_modify (h : List.Forall₂ R xs ys) (index : Nat) {f : α → α} {g : β → β}
    (hfg : ∀ x y, R x y → R (f x) (g y)) :
    List.Forall₂ R (xs.modify index f) (ys.modify index g) := by
  induction h generalizing index with
  | nil => cases index <;> exact .nil
  | cons hhead htail ih =>
    cases index with
    | zero => exact .cons (hfg _ _ hhead) htail
    | succ index => exact .cons hhead (ih index)

theorem forall₂_concat (h : List.Forall₂ R xs ys) {x : α} {y : β} (hxy : R x y) :
    List.Forall₂ R (xs ++ [x]) (ys ++ [y]) :=
  List.rel_append h (.cons hxy .nil)

theorem forall₂_trans {γ : Type} {S : β → γ → Prop} {T : α → γ → Prop} {zs : List γ}
    (hT : ∀ x y z, R x y → S y z → T x z) (h : List.Forall₂ R xs ys) (h' : List.Forall₂ S ys zs) :
    List.Forall₂ T xs zs := by
  induction h generalizing zs with
  | nil =>
    cases h'
    exact .nil
  | cons hhead _ ih =>
    cases h' with
    | cons hhead' htail' => exact .cons (hT _ _ _ hhead hhead') (ih htail')

/-- Where relations agree on related items, they agree on related lists. -/
theorem forall₂_iff {E : α → α → Prop} {F : β → β → Prop} {xs' : List α} {ys' : List β}
    (hEF : ∀ x y x' y', R x y → R x' y' → (E x x' ↔ F y y')) (h : List.Forall₂ R xs ys)
    (h' : List.Forall₂ R xs' ys') : List.Forall₂ E xs xs' ↔ List.Forall₂ F ys ys' := by
  induction h generalizing xs' ys' with
  | nil => cases h' <;> simp
  | cons hhead _ ih =>
    cases h' with
    | nil => simp
    | cons hhead' htail' =>
      rw [List.forall₂_cons, List.forall₂_cons, hEF _ _ _ _ hhead hhead', ih htail']

end Lists

/-! ## Documents -/

namespace Document

variable {σ τ υ : Type}

/-- Sources with the same address and related scripts. -/
def PairsSource (R : σ → τ → Prop) (a : Source σ) (b : Source τ) : Prop :=
  a.url = b.url ∧ R a.script b.script

/-- Documents that agree in everything but their scripts, and have related scripts in every
place. -/
structure Pairs (R : σ → τ → Prop) (a : Document σ) (b : Document τ) : Prop where
  name : a.name = b.name
  description : a.description = b.description
  notBefore : a.notBefore = b.notBefore
  retrieve : List.Forall₂ (PairsSource R) a.retrieve b.retrieve
  aggregate : R a.aggregate b.aggregate
  tally : R a.tally b.tally

theorem mapM_eq_ok_iff {f : σ → Except Fault τ} {a : Document σ} {b : Document τ} :
    a.mapM f = .ok b ↔ a.Pairs (fun s t => f s = .ok t) b := by
  have hsource : ∀ (s : Source σ) (t : Source τ),
      (do return ⟨s.url, ← f s.script⟩ : Except Fault (Source τ)) = .ok t ↔
        PairsSource (fun s t => f s = .ok t) s t := by
    intro s t
    rw [bind_eq_ok]
    constructor
    · rintro ⟨script, hscript, h⟩
      cases h
      exact ⟨rfl, hscript⟩
    · rintro ⟨hurl, hscript⟩
      exact ⟨t.script, hscript, by rw [hurl]; rfl⟩
  rw [mapM, bind_eq_ok]
  simp only [ScriptTree.mapM_eq_ok_iff, hsource]
  constructor
  · rintro ⟨retrieve, hretrieve, h⟩
    obtain ⟨aggregate, haggregate, h⟩ := bind_eq_ok.1 h
    obtain ⟨tally, htally, h⟩ := bind_eq_ok.1 h
    cases h
    exact ⟨rfl, rfl, rfl, hretrieve, haggregate, htally⟩
  · rintro ⟨hname, hdescription, hnotBefore, hretrieve, haggregate, htally⟩
    refine ⟨b.retrieve, hretrieve, bind_eq_ok.2 ⟨b.aggregate, haggregate,
      bind_eq_ok.2 ⟨b.tally, htally, ?_⟩⟩⟩
    rw [hname, hdescription, hnotBefore]
    rfl

/-- A traversal carries out its step on the list of all scripts. -/
theorem scripts_mapM (f : σ → Except Fault τ) (document : Document σ) :
    scripts <$> document.mapM f = document.scripts.mapM f := by
  have hretrieve : ∀ sources : List (Source σ),
      List.map Source.script <$> sources.mapM
          (fun source => do return ⟨source.url, ← f source.script⟩) =
        (sources.map Source.script).mapM f := by
    intro sources
    induction sources with
    | nil => rfl
    | cons source sources ih =>
      rw [List.map_cons, List.mapM_cons, List.mapM_cons, ← ih]
      simp only [map_bind, map_pure, bind_assoc, pure_bind, bind_map_left, List.map_cons]
  rw [scripts, List.mapM_append, ← hretrieve, mapM]
  simp only [map_bind, map_pure, bind_assoc, pure_bind, bind_map_left, List.mapM_cons,
    List.mapM_nil, scripts]

/-- Documents pair by equality when they are equal. -/
theorem pairs_eq_iff {a b : Document σ} : a.Pairs (· = ·) b ↔ a = b := by
  have hsource : (PairsSource (· = ·) : Source σ → Source σ → Prop) = (· = ·) := by
    funext x y
    cases x
    cases y
    simp [PairsSource]
  constructor
  · rintro ⟨hname, hdescription, hnotBefore, hretrieve, haggregate, htally⟩
    rw [hsource, List.forall₂_eq_eq_eq] at hretrieve
    cases a
    cases b
    simp_all
  · rintro rfl
    refine ⟨rfl, rfl, rfl, ?_, rfl, rfl⟩
    rw [hsource, List.forall₂_eq_eq_eq]

theorem mem_scripts {document : Document σ} {script : σ} :
    script ∈ document.scripts ↔ (∃ source ∈ document.retrieve, source.script = script) ∨
      script = document.aggregate ∨ script = document.tally := by
  simp [scripts]

/-- A traversal succeeds when it does on every script. -/
theorem exists_mapM_eq_ok {f : σ → Except Fault τ} {a : Document σ}
    (h : ∀ script ∈ a.scripts, ∃ result, f script = .ok result) :
    ∃ b, a.mapM f = .ok b := by
  simp only [mem_scripts] at h
  have hsource : ∀ source ∈ a.retrieve, ∃ result,
      (do return ⟨source.url, ← f source.script⟩ : Except Fault (Source τ)) = .ok result := by
    intro source hsource
    obtain ⟨script, hscript⟩ := h source.script (.inl ⟨source, hsource, rfl⟩)
    exact ⟨⟨source.url, script⟩, bind_eq_ok.2 ⟨script, hscript, rfl⟩⟩
  obtain ⟨retrieve, hretrieve⟩ := ScriptTree.exists_mapM_eq_ok hsource
  obtain ⟨aggregate, haggregate⟩ := h a.aggregate (.inr (.inl rfl))
  obtain ⟨tally, htally⟩ := h a.tally (.inr (.inr rfl))
  exact ⟨_, bind_eq_ok.2 ⟨retrieve, hretrieve, bind_eq_ok.2 ⟨aggregate, haggregate,
    bind_eq_ok.2 ⟨tally, htally, rfl⟩⟩⟩⟩

namespace Pairs

variable {R : σ → τ → Prop} {a : Document σ} {b : Document τ}

theorem imp {S : σ → τ → Prop} (hRS : ∀ s t, R s t → S s t) (h : a.Pairs R b) : a.Pairs S b :=
  ⟨h.name, h.description, h.notBefore, h.retrieve.imp fun _ _ hs => ⟨hs.1, hRS _ _ hs.2⟩,
    hRS _ _ h.aggregate, hRS _ _ h.tally⟩

theorem symm (h : a.Pairs R b) : b.Pairs (fun t s => R s t) a :=
  ⟨h.name.symm, h.description.symm, h.notBefore.symm,
    (h.retrieve.imp fun _ _ hs => ⟨hs.1.symm, hs.2⟩).flip, h.aggregate, h.tally⟩

theorem trans {S : τ → υ → Prop} {T : σ → υ → Prop} {c : Document υ}
    (hT : ∀ s t u, R s t → S t u → T s u) (h : a.Pairs R b) (h' : b.Pairs S c) : a.Pairs T c :=
  ⟨h.name.trans h'.name, h.description.trans h'.description, h.notBefore.trans h'.notBefore,
    forall₂_trans (fun _ _ _ hs ht => ⟨hs.1.trans ht.1, hT _ _ _ hs.2 ht.2⟩) h.retrieve h'.retrieve,
    hT _ _ _ h.aggregate h'.aggregate, hT _ _ _ h.tally h'.tally⟩

theorem map_left {f : υ → σ} {c : Document υ} :
    (c.map f).Pairs R b ↔ c.Pairs (fun u t => R (f u) t) b := by
  have hretrieve : List.Forall₂ (PairsSource R) (c.map f).retrieve b.retrieve ↔
      List.Forall₂ (PairsSource fun u t => R (f u) t) c.retrieve b.retrieve :=
    List.forall₂_map_left_iff
  constructor
  · rintro ⟨hname, hdescription, hnotBefore, hr, haggregate, htally⟩
    exact ⟨hname, hdescription, hnotBefore, hretrieve.1 hr, haggregate, htally⟩
  · rintro ⟨hname, hdescription, hnotBefore, hr, haggregate, htally⟩
    exact ⟨hname, hdescription, hnotBefore, hretrieve.2 hr, haggregate, htally⟩

/-- Where relations agree on related scripts, they agree on related documents. -/
theorem pairs_iff {E : σ → σ → Prop} {F : τ → τ → Prop} {a' : Document σ} {b' : Document τ}
    (hEF : ∀ s t s' t', R s t → R s' t' → (E s s' ↔ F t t')) (h : a.Pairs R b)
    (h' : a'.Pairs R b') : a.Pairs E a' ↔ b.Pairs F b' := by
  have hsource : ∀ (x : Source σ) (y : Source τ) (x' : Source σ) (y' : Source τ),
      PairsSource R x y → PairsSource R x' y' → (PairsSource E x x' ↔ PairsSource F y y') := by
    intro x y x' y' hx hx'
    rw [PairsSource, PairsSource, hx.1, hx'.1, hEF _ _ _ _ hx.2 hx'.2]
  have hretrieve := forall₂_iff hsource h.retrieve h'.retrieve
  have haggregate := hEF _ _ _ _ h.aggregate h'.aggregate
  have htally := hEF _ _ _ _ h.tally h'.tally
  constructor
  · rintro ⟨hname, hdescription, hnotBefore, hr, ha, ht⟩
    rw [h.name, h'.name] at hname
    rw [h.description, h'.description] at hdescription
    rw [h.notBefore, h'.notBefore] at hnotBefore
    exact ⟨hname, hdescription, hnotBefore, hretrieve.1 hr, haggregate.1 ha, htally.1 ht⟩
  · rintro ⟨hname, hdescription, hnotBefore, hr, ha, ht⟩
    rw [← h.name, ← h'.name] at hname
    rw [← h.description, ← h'.description] at hdescription
    rw [← h.notBefore, ← h'.notBefore] at hnotBefore
    exact ⟨hname, hdescription, hnotBefore, hretrieve.2 hr, haggregate.2 ha, htally.2 ht⟩

/-- Every script of one document has a related one in the other. -/
theorem exists_left (h : a.Pairs R b) {t : τ} (ht : t ∈ b.scripts) : ∃ s, R s t := by
  rcases mem_scripts.1 ht with ⟨source, hsource, rfl⟩ | rfl | rfl
  · obtain ⟨other, -, -, hR⟩ := forall₂_exists_left h.retrieve hsource
    exact ⟨other.script, hR⟩
  · exact ⟨a.aggregate, h.aggregate⟩
  · exact ⟨a.tally, h.tally⟩

/-! ### Stages -/

theorem script? (h : a.Pairs R b) {stage : Stage} {s : σ} (hs : a.script? stage = some s) :
    ∃ t, b.script? stage = some t ∧ R s t := by
  cases stage with
  | retrieve index =>
    obtain ⟨source, hsource, rfl⟩ := Option.map_eq_some_iff.1 hs
    obtain ⟨other, hother, -, hR⟩ := forall₂_getElem? h.retrieve hsource
    exact ⟨other.script, by rw [Document.script?, hother]; rfl, hR⟩
  | aggregate =>
    cases hs
    exact ⟨b.aggregate, rfl, h.aggregate⟩
  | tally =>
    cases hs
    exact ⟨b.tally, rfl, h.tally⟩

theorem modify (h : a.Pairs R b) (stage : Stage) {f : σ → σ} {g : τ → τ}
    (hfg : ∀ s t, R s t → R (f s) (g t)) : (a.modify stage f).Pairs R (b.modify stage g) := by
  cases stage with
  | retrieve index =>
    exact ⟨h.name, h.description, h.notBefore,
      forall₂_modify h.retrieve index fun _ _ hs => ⟨hs.1, hfg _ _ hs.2⟩, h.aggregate, h.tally⟩
  | aggregate =>
    exact ⟨h.name, h.description, h.notBefore, h.retrieve, hfg _ _ h.aggregate, h.tally⟩
  | tally =>
    exact ⟨h.name, h.description, h.notBefore, h.retrieve, h.aggregate, hfg _ _ h.tally⟩

end Pairs

end Document

end ScriptTree
