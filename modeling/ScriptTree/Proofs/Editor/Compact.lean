import ScriptTree.Editor.History
import ScriptTree.Proofs.Operator.Call
/-!
# Edits of compact documents

What each edit means for a document whose scripts are compact: an edit of lists and fields, without
handles or nodes. An edit of a position that the document does not have means nothing.

Main statement: filling up the arguments of a call and setting one of them gives, position by
position, the value, an old argument or a default (`Editor.set_padded`).
-/

namespace ScriptTree

namespace Row

/-- The default of the argument at a position. -/
def defaultAt (row : Row) (position : Nat) : Json :=
  match row.parameters[position]? with
  | some parameter => parameter.kind.defaultValue
  | none => .null

/-- The defaults of the arguments in front of the first optional one. -/
def requiredDefaults (row : Row) : List Json :=
  (row.parameters.take (row.parameters.findIdx Parameter.optional)).map fun parameter =>
    parameter.kind.defaultValue

/-- The arguments `args` with `value` in the place of one; places that `args` does not reach have
their defaults. -/
def withArgument (row : Row) (args : List Json) (argument : Nat) (value : Json) : List Json :=
  (List.range (max args.length (argument + 1))).map fun position =>
    if position = argument then value else args[position]?.getD (row.defaultAt position)

end Row

namespace Catalog

/-- The operator `label` of the category of `current`, with the defaults of its required
arguments. -/
def reselected (catalog : Catalog) (label : String) (current : Operator) : Option Operator := do
  let (code, _) ← current.decoded.toOption
  let row ← (catalog.row code).toOption
  let other ← catalog.rows.find? fun other => other.category = row.category ∧ other.name = label
  return .call other.code other.requiredDefaults

/-- The operator `current` with another value for one of its declared arguments. -/
def rewritten (catalog : Catalog) (argument : Nat) (value : Json) (current : Operator) :
    Option Operator := do
  let (code, args) ← current.decoded.toOption
  let row ← (catalog.row code).toOption
  if argument < row.parameters.length then
    return .call code (row.withArgument args argument value)
  else none

end Catalog

namespace Document

/-- Puts an operator made from the one at a position in its place. -/
def rewrite (document : Document Script) (stage : Stage) (index : Nat)
    (make : Operator → Option Operator) : Option (Document Script) := do
  let script ← document.script? stage
  let current ← script[index]?
  let operator ← make current
  return document.modify stage fun script => script.set index operator

end Document

/-- What an edit means for a compact document. -/
def Edit.plain (catalog : Catalog) (document : Document Script) :
    Edit → Option (Document Script)
  | .select stage index label => document.rewrite stage index (catalog.reselected label)
  | .update stage index argument value =>
    document.rewrite stage index (catalog.rewritten argument value)
  | .replace stage index operator =>
    document.rewrite stage index fun _ => some operator.normalized
  | .push stage operator => do
    let _ ← document.script? stage
    return document.modify stage fun script => script ++ [operator.normalized]
  | .remove stage index => do
    let script ← document.script? stage
    let _ ← script[index]?
    return document.modify stage fun script => script.eraseIdx index
  | .addSource url => some { document with retrieve := document.retrieve ++ [⟨url, []⟩] }
  | .removeSource index => do
    let _ ← document.retrieve[index]?
    return { document with retrieve := document.retrieve.eraseIdx index }
  | .setUrl index url => do
    let _ ← document.retrieve[index]?
    return { document with
      retrieve := document.retrieve.modify index fun source => { source with url := url } }
  | .setName name => some { document with name := name }
  | .setDescription description => some { document with description := description }
  | .convert _ | .generate _ => some document

/-- What a history of an editor means for a compact document: the edits that succeed, one after the
other. -/
def Editor.plainReplay (editor : Editor) (catalog : Catalog) (document : Document Script) :
    List Edit → Option (Document Script)
  | [] => some document
  | edit :: edits =>
    match (editor.perform edit).1 with
    | .error _ => (editor.after edit).plainReplay catalog document edits
    | .ok _ => do
      let document ← edit.plain catalog document
      (editor.after edit).plainReplay catalog document edits

/-! ## Arguments -/

namespace Editor

theorem seeds_eq (row : Row) : seeds row = row.requiredDefaults := by
  unfold seeds Row.requiredDefaults
  rw [List.takeWhile_eq_take_findIdx_not]
  simp only [Bool.not_not]

theorem length_padded {row : Row} {argument : Nat} (h : argument < row.parameters.length)
    (args : List Json) : (padded row args argument).length = max args.length (argument + 1) := by
  simp only [padded, List.length_append, List.length_map, List.length_take, List.length_drop]
  omega

theorem getElem?_padded {row : Row} {args : List Json} {argument position : Nat}
    (h : argument < row.parameters.length) (hposition : position ≤ argument) :
    (padded row args argument)[position]? =
      some (args[position]?.getD (row.defaultAt position)) := by
  by_cases hlt : position < args.length
  · rw [padded, List.getElem?_append_left hlt, List.getElem?_eq_getElem hlt]
    rfl
  · have hle : args.length ≤ position := Nat.le_of_not_lt hlt
    have hin : position < row.parameters.length := Nat.lt_of_le_of_lt hposition h
    rw [padded, List.getElem?_append_right hle, List.getElem?_eq_none hle, List.getElem?_map,
      List.getElem?_take_of_lt (by omega), List.getElem?_drop, Nat.add_sub_cancel' hle,
      Row.defaultAt, List.getElem?_eq_getElem hin]
    rfl

theorem getElem?_padded_of_lt {row : Row} {args : List Json} {argument position : Nat}
    (h : argument < position) : (padded row args argument)[position]? = args[position]? := by
  by_cases hlt : position < args.length
  · rw [padded, List.getElem?_append_left hlt]
  · have hle : args.length ≤ position := Nat.le_of_not_lt hlt
    have hend : (padded row args argument).length ≤ position := by
      simp only [padded, List.length_append, List.length_map, List.length_take, List.length_drop]
      omega
    rw [List.getElem?_eq_none hend, List.getElem?_eq_none hle]

/-- The arguments that an update calls with. -/
theorem set_padded {row : Row} {argument : Nat} (h : argument < row.parameters.length)
    (args : List Json) (value : Json) :
    (padded row args argument).set argument value = row.withArgument args argument value := by
  apply List.ext_getElem?
  intro position
  rw [List.getElem?_set, length_padded h, Row.withArgument, List.getElem?_map]
  by_cases heq : argument = position
  · subst heq
    have hlt : argument < max args.length (argument + 1) := by omega
    rw [if_pos rfl, if_pos hlt, List.getElem?_range hlt]
    simp
  · rw [if_neg heq]
    by_cases hin : position < max args.length (argument + 1)
    · rw [List.getElem?_range hin, Option.map_some, if_neg (Ne.symm heq)]
      rcases Nat.lt_or_ge argument position with hafter | hbefore
      · -- behind the argument that is set there is an old one
        have hold : position < args.length := by omega
        rw [getElem?_padded_of_lt hafter, List.getElem?_eq_getElem hold]
        rfl
      · exact getElem?_padded h hbefore
    · have hout : max args.length (argument + 1) ≤ position := Nat.le_of_not_lt hin
      rw [List.getElem?_eq_none (by rw [length_padded h]; exact hout),
        List.getElem?_eq_none (by rw [List.length_range]; exact hout)]
      rfl

end Editor

end ScriptTree
