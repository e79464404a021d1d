import ScriptTree.Operator.Basic
/-!
# Documents

A document has a name, a description, an earliest time, and three stages: the sources to retrieve
from, each with a script of its own, then the aggregate and the tally. The type of its scripts is a
parameter, because one document appears in three forms: with compact scripts, with handles into an
arena, and with trees to look at.

Main statement: `Document.modify` changes the addressed script only (`Document.script?_modify`).
-/

namespace ScriptTree

/-- A place to retrieve from, and the script that reads what comes from there. -/
structure Source (σ : Type) where
  url : String
  script : σ
deriving DecidableEq

/-- A document whose scripts are of type `σ`. -/
structure Document (σ : Type) where
  name : String
  description : String
  notBefore : UInt64
  retrieve : List (Source σ)
  aggregate : σ
  tally : σ
deriving DecidableEq

namespace Document

variable {σ τ : Type}

/-! ## Traversal -/

/-- The source with a function applied to its script. -/
def mapSource (f : σ → τ) (source : Source σ) : Source τ :=
  ⟨source.url, f source.script⟩

/-- The document with a function applied to every script. -/
def map (f : σ → τ) (document : Document σ) : Document τ where
  name := document.name
  description := document.description
  notBefore := document.notBefore
  retrieve := document.retrieve.map (mapSource f)
  aggregate := f document.aggregate
  tally := f document.tally

/-- Carries out a step on every script in the order of the stages: the sources from the first to
the last, then the aggregate, then the tally. -/
def mapM {m : Type → Type} [Monad m] (f : σ → m τ) (document : Document σ) : m (Document τ) := do
  let retrieve ← document.retrieve.mapM fun source => do return ⟨source.url, ← f source.script⟩
  let aggregate ← f document.aggregate
  let tally ← f document.tally
  return ⟨document.name, document.description, document.notBefore, retrieve, aggregate, tally⟩

/-- Every script of a document, in the order of the stages. -/
def scripts (document : Document σ) : List σ :=
  document.retrieve.map Source.script ++ [document.aggregate, document.tally]

/-! ## Stages -/

/-- The script of a stage, if the document has that stage. -/
def script? (document : Document σ) : Stage → Option σ
  | .retrieve index => document.retrieve[index]?.map Source.script
  | .aggregate => some document.aggregate
  | .tally => some document.tally

/-- Changes the script of a stage, if the document has that stage. -/
def modify (document : Document σ) (stage : Stage) (f : σ → σ) : Document σ :=
  match stage with
  | .retrieve index =>
    { document with retrieve := document.retrieve.modify index (mapSource f) }
  | .aggregate => { document with aggregate := f document.aggregate }
  | .tally => { document with tally := f document.tally }

theorem script?_modify (document : Document σ) (stage other : Stage) (f : σ → σ) :
    (document.modify stage f).script? other =
      if other = stage then (document.script? other).map f else document.script? other := by
  cases stage <;> cases other <;> simp [modify, script?, List.getElem?_modify]
  · next i j =>
    by_cases h : i = j
    · subst h; cases document.retrieve[i]? <;> simp [mapSource]
    · simp [h, Ne.symm h, Function.comp_def]

/-! ## Compact documents -/

/-- The document to start from: nameless, with one placeholder source and empty scripts. -/
def blank : Document Script where
  name := ""
  description := ""
  notBefore := 0
  retrieve := [⟨"", []⟩]
  aggregate := []
  tally := []

/-- The document with every operator in its shortest spelling. -/
def normalized (document : Document Script) : Document Script :=
  document.map (List.map Operator.normalized)

/-- Equality of scripts as data, where the two zeros are equal. -/
def sameScript : Script → Script → Bool
  | [], [] => true
  | a :: as, b :: bs => a.sameData b && sameScript as bs
  | _, _ => false

/-- Equality of lists of sources as data. -/
def sameSources : List (Source Script) → List (Source Script) → Bool
  | [], [] => true
  | a :: as, b :: bs => a.url = b.url && sameScript a.script b.script && sameSources as bs
  | _, _ => false

/-- Equality of documents as data, where the two zeros are equal. -/
def sameData (a b : Document Script) : Bool :=
  a.name = b.name && a.description = b.description && a.notBefore = b.notBefore &&
    sameSources a.retrieve b.retrieve && sameScript a.aggregate b.aggregate &&
    sameScript a.tally b.tally

end Document

end ScriptTree
