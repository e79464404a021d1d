import ScriptTree.Yaml.Token
/-!
# Nodes of YAML text

A text as a tree of scalars, sequences and mappings. A name given to a node by an anchor may be
referred to behind it; the tree keeps the number of the name in place of the node, and a table of
the nodes under those numbers. A name is numbered by how many names were in use before, so one that
is given a second time takes the number that the next new name will take, too; under every number
the node that starts last counts.

Only the first document of a text is read, and whether there is more is told.
-/

namespace ScriptTree.Yaml

/-- A node of a text. -/
inductive Node where
  | scalar (tag : Option String) (style : Style) (content : String)
  | sequence (tag : Option String) (items : List Node)
  | mapping (tag : Option String) (entries : List (Node × Node))
  | reference (number : Nat)

namespace Node

instance : Inhabited Node := ⟨.reference 0⟩

/-- The scalar that stands where nothing is written. -/
def empty : Node := .scalar none .plain ""

mutual

/-- The number of marks a node is made of: one for a scalar or a reference, two around a
collection. -/
def size : Node → Nat
  | .scalar .. | .reference _ => 1
  | .sequence _ items => sizeItems items + 2
  | .mapping _ entries => sizeEntries entries + 2

/-- The number of marks of a list of nodes. -/
def sizeItems : List Node → Nat
  | [] => 0
  | item :: items => size item + sizeItems items

/-- The number of marks of the entries of a mapping. -/
def sizeEntries : List (Node × Node) → Nat
  | [] => 0
  | (key, value) :: entries => size key + size value + sizeEntries entries

end

end Node

/-! ## State of a reading -/

/-- A reading in the middle of the tokens: what the handles of tags stand for, the numbers of the
names, and the nodes under the numbers, the one that counts first. -/
structure Reading where
  tokens : List Token
  handles : List (String × String)
  names : List (String × Nat) := []
  targets : List (Nat × Node) := []

namespace Reading

/-- Steps of a reading that may fail. -/
abbrev Step := StateT Reading Option

/-- The next token, which stays. -/
def peek : Step Token := do
  match (← get).tokens with
  | token :: _ => return token
  | [] => failure

/-- Passes over the next token. -/
def skip : Step Unit :=
  modify fun reading => { reading with tokens := reading.tokens.drop 1 }

/-- Passes over a token that has to be there. -/
def expect (token : Token) : Step Unit := do
  if (← peek) = token then skip else failure

/-- Passes over a token if it is there, and tells whether it was. -/
def accept (token : Token) : Step Bool := do
  if (← peek) = token then skip; return true else return false

/-! ## Properties of nodes -/

/-- The anchor here, if there is one. -/
def anchor? : Step (Option String) := do
  match ← peek with
  | .anchor name => skip; return some name
  | _ => return none

/-- The tag here with its handle spelled out, if there is one. -/
def tag? : Step (Option String) := do
  match ← peek with
  | .tag "" suffix => skip; return some suffix
  | .tag handle suffix =>
    skip
    match (← get).handles.lookup handle with
    | some start => return some (start ++ suffix)
    | none => failure
  | _ => return none

/-- The anchor and the tag here, in either order. -/
def properties : Step (Option String × Option String) := do
  match ← anchor? with
  | some name => return (some name, ← tag?)
  | none =>
    let tag ← tag?
    return (← if tag.isSome then anchor? else pure none, tag)

/-- Reads a node under a name. -/
def named (name : String) (node : Step Node) : Step Node := do
  let number := (← get).names.length
  let known := (← get).targets.length
  modify fun reading =>
    { reading with names := (name, number) :: reading.names.filter fun other => other.1 ≠ name }
  let node ← node
  modify fun reading =>
    let inner := reading.targets.length - known
    { reading with
      targets := reading.targets.take inner ++ (number, node) :: reading.targets.drop inner }
  return node

/-! ## Nodes -/

mutual

/-- Reads a node, as one of a block or of a flow collection; `level` tells that a sequence may stand
at the indentation of the mapping around it. -/
def node (fuel : Nat) (block level : Bool) : Step Node :=
  match fuel with
  | 0 => failure
  | fuel + 1 => do
    match ← peek with
    | .reference name =>
      skip
      match (← get).names.lookup name with
      | some number => return .reference number
      | none => failure
    | _ =>
      let (anchor, tag) ← properties
      let content := content fuel block level (anchor.isSome || tag.isSome) tag
      match anchor with
      | some name => named name content
      | none => content

/-- Reads a node behind its anchor and tag, if it has any; `bare` tells that they may stand
alone. -/
def content (fuel : Nat) (block level bare : Bool) (tag : Option String) : Step Node :=
  match fuel with
  | 0 => failure
  | fuel + 1 => do
    match ← peek, block, level with
    | .entry, _, true => return .sequence tag (← levelItems fuel)
    | .scalar style content, _, _ =>
      skip
      return .scalar (tag.filter (· ≠ "!")) style content
    | .flowSequenceStart, _, _ =>
      skip
      return .sequence tag (← flowItems fuel true)
    | .flowMappingStart, _, _ =>
      skip
      return .mapping tag (← flowEntries fuel true)
    | .sequenceStart, true, _ =>
      skip
      return .sequence tag (← blockItems fuel)
    | .mappingStart, true, _ =>
      skip
      return .mapping tag (← blockEntries fuel)
    | _, _, _ => if bare then return .scalar (tag.filter (· ≠ "!")) .plain "" else failure

/-- Reads a node unless one of some tokens comes first. -/
def nodeBefore (fuel : Nat) (block level : Bool) (stops : List Token) : Step Node :=
  match fuel with
  | 0 => failure
  | fuel + 1 => do
    if stops.contains (← peek) then return .empty else node fuel block level

/-- Reads the items of a block sequence. -/
def blockItems (fuel : Nat) : Step (List Node) :=
  match fuel with
  | 0 => failure
  | fuel + 1 => do
    if ← accept .entry then
      let item ← nodeBefore fuel true false [.entry, .blockEnd]
      return item :: (← blockItems fuel)
    else
      expect .blockEnd
      return []

/-- Reads the items of a sequence at the indentation of the mapping around it. -/
def levelItems (fuel : Nat) : Step (List Node) :=
  match fuel with
  | 0 => failure
  | fuel + 1 => do
    if ← accept .entry then
      let item ← nodeBefore fuel true false [.entry, .key, .value, .blockEnd]
      return item :: (← levelItems fuel)
    else return []

/-- Reads the entries of a block mapping. -/
def blockEntries (fuel : Nat) : Step (List (Node × Node)) :=
  match fuel with
  | 0 => failure
  | fuel + 1 => do
    if ← accept .key then
      let key ← nodeBefore fuel true true [.key, .value, .blockEnd]
      let value ← if ← accept .value then
          nodeBefore fuel true true [.key, .value, .blockEnd]
        else pure .empty
      return (key, value) :: (← blockEntries fuel)
    else
      expect .blockEnd
      return []

/-- Reads the value behind a key among flow collections. -/
def flowValue (fuel : Nat) (stops : List Token) : Step Node :=
  match fuel with
  | 0 => failure
  | fuel + 1 => do
    if ← accept .value then nodeBefore fuel false false stops else return .empty

/-- Reads the items of a flow sequence. An item with a key is a mapping of one entry. -/
def flowItems (fuel : Nat) (first : Bool) : Step (List Node) :=
  match fuel with
  | 0 => failure
  | fuel + 1 => do
    if ← accept .flowSequenceEnd then return []
    if !first then expect .flowEntry
    if ← accept .flowSequenceEnd then return []
    let item ← if ← accept .key then do
        let key ← nodeBefore fuel false false [.value, .flowEntry, .flowSequenceEnd]
        let value ← flowValue fuel [.flowEntry, .flowSequenceEnd]
        pure (.mapping none [(key, value)])
      else node fuel false false
    return item :: (← flowItems fuel false)

/-- Reads the entries of a flow mapping. A node without the mark of a key has no value. -/
def flowEntries (fuel : Nat) (first : Bool) : Step (List (Node × Node)) :=
  match fuel with
  | 0 => failure
  | fuel + 1 => do
    if ← accept .flowMappingEnd then return []
    if !first then expect .flowEntry
    if ← accept .flowMappingEnd then return []
    let entry ← if ← accept .key then do
        let key ← nodeBefore fuel false false [.value, .flowEntry, .flowMappingEnd]
        let value ← flowValue fuel [.flowEntry, .flowMappingEnd]
        pure (key, value)
      else do
        pure (← node fuel false false, .empty)
    return entry :: (← flowEntries fuel false)

end

/-! ## Documents -/

/-- Reads the directives in front of a document: at most one version, which is 1.1 or 1.2, and no
handle twice. -/
def directives : (fuel : Nat) → (versions : Nat) → (given : List (String × String)) → Step Unit
  | 0, _, _ => failure
  | fuel + 1, versions, given => do
    match ← peek with
    | .version major minor =>
      if versions = 0 && major = 1 && (minor = 1 || minor = 2) then
        skip
        directives fuel 1 given
      else failure
    | .tagHandle handle start =>
      if (given.lookup handle).isSome then failure
      skip
      directives fuel versions ((handle, start) :: given)
    | _ => modify fun reading => { reading with handles := given ++ reading.handles }

/-- Whether a document begins explicitly with a token. -/
def isOpening : Token → Bool
  | .version .. | .tagHandle .. | .documentStart => true
  | _ => false

/-- Reads the root of the first document, if there is a document. -/
def root (fuel : Nat) : Step (Option Node) := do
  let token ← peek
  if token = .streamEnd then return none
  if !isOpening token then return some (← node fuel true false)
  directives fuel 0 []
  expect .documentStart
  let token ← peek
  if isOpening token || token = .documentEnd || token = .streamEnd then return some .empty
  return some (← node fuel true false)

end Reading

/-- The first document of a text: its root, unless the text is empty, the nodes that have names, and
whether the text holds nothing else. -/
structure Content where
  root : Option Node
  targets : List (Nat × Node)
  complete : Bool

/-- The node behind a number. -/
def Content.target? (content : Content) (number : Nat) : Option Node :=
  content.targets.lookup number

/-- What the handles of tags stand for when nothing else is said. -/
def defaultHandles : List (String × String) :=
  [("!", "!"), ("!!", "tag:yaml.org,2002:")]

/-- Reads the first document of a text. -/
def Content.read? (text : String) : Option Content := do
  let tokens := tokens (← place? text)
  let (root, reading) ←
    (Reading.root (6 * tokens.length + 6)).run { tokens := tokens, handles := defaultHandles }
  let left := reading.tokens.dropWhile (· = .documentEnd)
  return ⟨root, reading.targets, left = [.streamEnd]⟩

end ScriptTree.Yaml
