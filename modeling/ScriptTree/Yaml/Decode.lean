import ScriptTree.Fault
import ScriptTree.Yaml.Node
import ScriptTree.Yaml.Resolve
/-!
# Decoding YAML nodes

Decoders for the shapes that records are written in. The type that is asked for settles how a scalar
is read: where a text is asked for, every scalar is its own text.

Collections may be nested as deep as a decoder is allowed to go, and the references that it follows
may not be more than a hundred times the marks of the text.
-/

namespace ScriptTree.Yaml

/-- A step of decoding: it knows the text it is in, and counts the references it has followed. -/
abbrev Decoding := ReaderT Content (StateT Nat (Except ParseFault))

/-- A decoder reads a node, at most so many collections deep. -/
abbrev Decoder (α : Type) := (depth : Nat) → Node → Decoding α

namespace Decode

/-- Fails because the text is no document of the kind that is asked for. -/
def unreadable {α : Type} : Decoding α :=
  throw .unreadable

/-- A value that has to be there. -/
def demand {α : Type} : Option α → Decoding α
  | some a => return a
  | none => unreadable

/-- The node itself, or the node that it refers to. -/
def follow : Node → Decoding Node
  | .reference number => do
    let content ← read
    let followed ← get
    if 100 * (content.root.map Node.size).getD 1 ≤ followed then unreadable
    set (followed + 1)
    demand (content.target? number)
  | node => return node

/-- A tag of the core schema. -/
def coreTag (name : String) : String :=
  "tag:yaml.org,2002:" ++ name

/-- Whether a tag is local to a program. -/
def isLocal (tag : Option String) : Bool :=
  tag.any fun tag => tag.toList.head? = some '!'

/-! ## Scalars -/

/-- A text: the content of any scalar. -/
def text : Decoder String := fun _ node => do
  match ← follow node with
  | .scalar _ _ content => return content
  | _ => unreadable

/-- The content of a scalar that may be read as a value with a tag of the core schema: one written
plain, or literally under that tag. -/
def bareText (name : String) (node : Node) : Decoding String := do
  match ← follow node with
  | .scalar _ .plain content => return content
  | .scalar tag .literal content =>
    if tag = some (coreTag name) then return content else unreadable
  | _ => unreadable

/-- A truth value. -/
def bool : Decoder Bool := fun _ node => do
  demand (bool? (← bareText "bool" node))

/-- A whole number below a bound. -/
def natBelow (bound : Nat) : Decoder Nat := fun _ node => do
  let n ← demand (natural? (← bareText "int" node).toList)
  if n < bound then return n else unreadable

/-- A whole number below `2 ^ 64`. -/
def word64 : Decoder UInt64 := fun depth node =>
  UInt64.ofNat <$> natBelow UInt64.size depth node

/-- A whole number below `2 ^ 32`. -/
def word32 : Decoder UInt32 := fun depth node =>
  UInt32.ofNat <$> natBelow UInt32.size depth node

/-- A value or nothing: a plain scalar that is empty or spells null is nothing. -/
def option {α : Type} (some : Decoder α) : Decoder (Option α) := fun depth node => do
  match ← follow node with
  | .scalar tag .plain content =>
    if tag = Option.some (coreTag "null") then
      if isNull content then return none else unreadable
    else if tag.isNone && (content.isEmpty || isNull content) then return none
    else return Option.some (← some depth (.scalar tag .plain content))
  | node => return Option.some (← some depth node)

/-- The member of a closed set with a name: the text of a scalar, or a local tag on nothing. -/
def member {α : Type} (all : List α) (name : α → String) : Decoder α := fun _ node => do
  match ← follow node with
  | .scalar tag style content =>
    let found ←
      if isLocal tag then
        if style = .plain && (content.isEmpty || isNull content) then
          pure (String.ofList ((tag.getD "").toList.drop 1))
        else unreadable
      else pure content
    demand (all.find? fun a => name a = found)
  | _ => unreadable

/-! ## Collections -/

/-- Whether a node is nothing at all, which stands for an empty collection. -/
def isNothing : Node → Bool
  | .scalar _ .plain "" => true
  | _ => false

/-- A list. -/
def list {α : Type} (item : Decoder α) : Decoder (List α) := fun depth node => do
  let node ← follow node
  match node, depth with
  | .sequence _ items, depth + 1 => items.mapM (item depth)
  | _, _ => if isNothing node then return [] else unreadable

/-- The fields of a record by name. -/
abbrev Fields := String → Option Node

/-- The entries of a mapping under the names of fields; other entries are passed over, and no field
may be there twice. -/
def namedFields (names : List String) : List (Node × Node) → Decoding (List (String × Node))
  | [] => return []
  | (key, value) :: entries => do
    let name ← text 0 key
    let fields ← namedFields names entries
    if !names.contains name then return fields
    if (fields.lookup name).isSome then unreadable
    return (name, value) :: fields

/-- A record: a mapping of its fields, or the list of their values in the declared order. -/
def record {α : Type} (names : List String) (body : (depth : Nat) → Fields → Decoding α) :
    Decoder α := fun depth node => do
  let node ← follow node
  match node, depth with
  | .mapping _ entries, depth + 1 =>
    let fields ← namedFields names entries
    body depth fun name => fields.lookup name
  | .sequence _ items, depth + 1 =>
    if names.length < items.length then unreadable
    body depth fun name => (names.zip items).lookup name
  | _, _ => if isNothing node then body depth fun _ => none else unreadable

/-- A field that has to be there. -/
def needed {α : Type} (field : Option Node) (decoder : Decoder α) (depth : Nat) : Decoding α := do
  decoder depth (← demand field)

/-- A field that has a value of its own when it is missing. -/
def defaulted {α : Type} (field : Option Node) (default : α) (decoder : Decoder α) (depth : Nat) :
    Decoding α :=
  match field with
  | some node => decoder depth node
  | none => return default

/-! ## Raw values -/

/-- The JSON value that a scalar stands for: text unless it is plain, or as its tag of the core
schema says. Whole numbers have to fit 64 bits, and fractions without a value are null. -/
def rawScalar (tag : Option String) (style : Style) (content : String) : Decoding Json := do
  if isLocal tag then unreadable
  let data ← match tag with
    | none => pure (if style = .plain then resolve content else .text content)
    | some tag =>
      if tag = coreTag "bool" then Data.bool <$> demand (bool? content)
      else if tag = coreTag "int" then Data.int <$> demand (integer? content.toList)
      else if tag = coreTag "float" then demand (fraction? content.toList)
      else if tag = coreTag "null" then
        if isNull content then pure .null else unreadable
      else pure (.text content)
  match data with
  | .null | .notFinite => return .null
  | .bool b => return .bool b
  | .int n =>
    if Json.fitsWord n then return .int n else unreadable
  | .float d => return .number (.float d)
  | .text s => return .string s

/-- Any value. The keys of a mapping have to be text, and of entries with one key the last
counts. -/
def raw : Decoder Json
  | 0, node => do
    match ← follow node with
    | .scalar tag style content => rawScalar tag style content
    | _ => unreadable
  | depth + 1, node => do
    match ← follow node with
    | .scalar tag style content => rawScalar tag style content
    | .sequence tag items =>
      if isLocal tag then unreadable
      return .array (← items.mapM (raw depth))
    | .mapping tag entries =>
      if isLocal tag then unreadable
      return Json.ofFields (← entries.mapM fun (key, value) => do
        match ← raw depth key with
        | .string name => return (name, ← raw depth value)
        | _ => unreadable)
    | .reference _ => unreadable

/-! ## Texts -/

/-- The depth to which collections may be nested. -/
def depthLimit : Nat := 128

/-- Reads a text that is one document and nothing else. A text without a document is read as
nothing. -/
def run {α : Type} (decoder : Decoder α) (source : String) : Except ParseFault α := do
  match Content.read? source with
  | none => throw .unreadable
  | some content =>
    let value ← (decoder depthLimit (content.root.getD .empty) content).run' 0
    if content.complete then return value else throw .unreadable

end Decode

end ScriptTree.Yaml
