import ScriptTree.Yaml.Scalar
/-!
# Tokens of YAML text

A text as the list of its tokens. Blocks are found by indentation: a token behind the current
indentation opens a block, one before it closes blocks. Whether a node is the key of a mapping shows
only at the colon behind it, so the place of every node that may still become a key is kept, and the
token that makes it a key is put in front of it later.

A text that fails somewhere still has the tokens before its fault, up to the first node that could
still have become a key.
-/

namespace ScriptTree.Yaml

/-- A token of a text. -/
inductive Token where
  | version (major minor : Nat)
  | tagHandle (handle start : String)
  | documentStart
  | documentEnd
  | sequenceStart
  | mappingStart
  | blockEnd
  | flowSequenceStart
  | flowSequenceEnd
  | flowMappingStart
  | flowMappingEnd
  | entry
  | flowEntry
  | key
  | value
  | reference (name : String)
  | anchor (name : String)
  | tag (handle suffix : String)
  | scalar (style : Style) (content : String)
  | streamEnd
deriving DecidableEq, Repr

/-! ## Names, tags and directives -/

/-- The name of an anchor, behind its indicator. -/
def anchorName? (text : List Glyph) : Option (String × List Glyph) :=
  let (name, rest) := spanChars isWord text
  if !name.isEmpty && (atGap rest || startsWithAny "?:,]\x7d%@\x60".toList.contains rest) then
    some (String.ofList name, rest)
  else none

/-- Whether a character may stand in a tag; commas and brackets only where `wide` holds. -/
def isTagChar (wide : Bool) (c : Char) : Bool :=
  isWord c || ";/?:@&=+$.!~*\x27()".toList.contains c ||
    (wide && (c = ',' || c = '[' || c = ']'))

/-- The characters of a tag, where `%` and two hexadecimal digits stand for one octet. -/
def tagChars (wide : Bool) : List Glyph → Option (List Char × List Glyph)
  | [] => some ([], [])
  | g :: rest =>
    if g.char = '%' then
      match rest with
      | high :: low :: rest => do
        let octet := 16 * (← Digits.digit? high.char) + (← Digits.digit? low.char)
        let (taken, rest) ← tagChars wide rest
        return (Char.ofNat octet :: taken, rest)
      | _ => none
    else if isTagChar wide g.char then do
      let (taken, rest) ← tagChars wide rest
      return (g.char :: taken, rest)
    else some ([], g :: rest)

/-- The characters of a tag, of which there has to be one. -/
def tagText? (wide : Bool) (text : List Glyph) : Option (String × List Glyph) := do
  let (taken, rest) ← tagChars wide text
  if taken.isEmpty then none else some (String.ofList taken, rest)

/-- A tag from behind its exclamation mark: in angle brackets and complete, or a handle and a
suffix. -/
def tag? (text : List Glyph) : Option (Token × List Glyph) :=
  if startsWith '<' text then do
    let (suffix, rest) ← tagText? true (text.drop 1)
    if startsWith '>' rest then some (.tag "" suffix, rest.drop 1) else none
  else
    let (name, rest) := spanChars isWord text
    if startsWith '!' rest then do
      let (suffix, rest) ← tagText? false (rest.drop 1)
      return (.tag (String.ofList ('!' :: name ++ ['!'])) suffix, rest)
    else do
      let (more, rest) ← tagChars false rest
      match name ++ more with
      | [] => return (.tag "" "!", rest)
      | suffix => return (.tag "!" (String.ofList suffix), rest)

/-- The number of a version. -/
def versionNumber? (text : List Glyph) : Option (Nat × List Glyph) :=
  let (digits, rest) := spanChars Digits.isDecimal text
  if digits.length ≤ 9 then (Digits.value? 10 digits).map (·, rest) else none

/-- What a directive says, from behind its percent sign. -/
def directiveBody? (text : List Glyph) : Option (Token × List Glyph) := do
  let (name, rest) := spanChars isWord text
  if !atGap rest then none
  let (_, rest) := spanChars isBlank rest
  match String.ofList name with
  | "YAML" =>
    let (major, rest) ← versionNumber? rest
    if !startsWith '.' rest then none
    let (minor, rest) ← versionNumber? (rest.drop 1)
    return (.version major minor, rest)
  | "TAG" =>
    if !startsWith '!' rest then none
    let (name, rest) := spanChars isWord (rest.drop 1)
    let closed := startsWith '!' rest
    if !closed && !name.isEmpty then none
    let handle := '!' :: name ++ if closed then ['!'] else []
    let rest := if closed then rest.drop 1 else rest
    if !startsWithAny isBlank rest then none
    let (start, rest) ← tagText? true (spanChars isBlank rest).2
    if !atGap rest then none
    return (.tagHandle (String.ofList handle) start, rest)
  | _ => none

/-- A directive with the rest of its line, from behind its percent sign. -/
def directive? (text : List Glyph) : Option (Token × List Glyph) := do
  let (token, rest) ← directiveBody? text
  let (_, rest) := spanChars isBlank rest
  let rest := if startsWith '#' rest then (spanChars (fun c => !isBreak c) rest).2 else rest
  if atLineEnd rest then some (token, rest.drop 1) else none

/-! ## State of a scan -/

/-- The place of a node that may still become the key of a mapping. One that opens a line of the
current block has to become a key. -/
structure PendingKey where
  required : Bool
  position : Nat
  start : Glyph

/-- A scan in the middle of a text. For every flow collection around the current place there is one
more pending key. -/
structure Scan where
  text : List Glyph
  tokens : Array Token := #[]
  indent : Int := -1
  outerIndents : List Int := []
  pending : Option PendingKey := none
  outerPending : List (Option PendingKey) := []
  keyAllowed : Bool := true

namespace Scan

/-- Whether the place is inside a flow collection. -/
def inFlow (scan : Scan) : Bool :=
  !scan.outerPending.isEmpty

/-- Adds a token. -/
def push (scan : Scan) (token : Token) : Scan :=
  { scan with tokens := scan.tokens.push token }

/-- Puts a token in front of the one at a position. -/
def insert (scan : Scan) (position : Nat) (token : Token) : Scan :=
  { scan with
    tokens := (scan.tokens.extract 0 position).push token ++ scan.tokens.extract position }

/-! ### Blocks -/

/-- The blocks that are left when those behind a column are closed, and the number of the closed
ones. -/
def closing (column : Int) : Int → List Int → Nat × Int × List Int
  | indent, [] => (0, indent, [])
  | indent, next :: outer =>
    if indent ≤ column then (0, indent, next :: outer)
    else
      let (count, left) := closing column next outer
      (count + 1, left)

/-- Closes the blocks behind a column. -/
def closeBlocks (scan : Scan) (column : Int) : Scan :=
  if scan.inFlow then scan
  else
    let (count, indent, outer) := closing column scan.indent scan.outerIndents
    { scan with
      tokens := scan.tokens ++ List.replicate count Token.blockEnd
      indent := indent
      outerIndents := outer }

/-- Opens a block at a column behind the current indentation; its token goes to a position. -/
def openBlock (scan : Scan) (column : Int) (position : Nat) (token : Token) : Scan :=
  if !scan.inFlow && scan.indent < column then
    { scan.insert position token with
      indent := column
      outerIndents := scan.indent :: scan.outerIndents }
  else scan

/-! ### Keys -/

/-- Whether a place is too far behind a node for it to become a key. -/
def isPast (here : Glyph) (key : PendingKey) : Bool :=
  key.start.line < here.line || key.start.index + 1024 < here.index

/-- Gives up keys, unless one of them has to become a key. -/
def giveUp (past : PendingKey → Bool) (key : Option PendingKey) : Option (Option PendingKey) :=
  match key with
  | some key =>
    if past key then (if key.required then none else some none) else some (some key)
  | none => some none

/-- Gives up the nodes that are too far back to become keys. -/
def expire? (scan : Scan) (here : Glyph) : Option Scan := do
  let pending ← giveUp (isPast here) scan.pending
  let outer ← scan.outerPending.mapM (giveUp (isPast here))
  return { scan with pending := pending, outerPending := outer }

/-- Gives up the pending key of the innermost collection. -/
def dropKey? (scan : Scan) : Option Scan := do
  return { scan with pending := ← giveUp (fun _ => true) scan.pending }

/-- Notes that the node which starts here may become a key, where a key is allowed. -/
def noteKey? (scan : Scan) (here : Glyph) : Option Scan := do
  if !scan.keyAllowed then return scan
  let scan ← scan.dropKey?
  let required := !scan.inFlow && scan.indent = here.column
  return { scan with pending := some ⟨required, scan.tokens.size, here⟩ }

/-! ### Steps -/

/-- Adds one token with the text behind it; whether a key may follow is told. -/
def take (scan : Scan) (token : Token) (keyAllowed : Bool) (text : List Glyph) : Scan :=
  { scan.push token with keyAllowed := keyAllowed, text := text }

/-- Closes all blocks, in front of a directive or a document marker. -/
def endBlocks? (scan : Scan) : Option Scan :=
  (scan.closeBlocks (-1)).dropKey?

/-- A token that belongs to a node which may become a key. -/
def node? (scan : Scan) (here : Glyph) (token : Option (Token × List Glyph)) : Option Scan := do
  let scan ← scan.noteKey? here
  let (token, text) ← token
  return scan.take token false text

/-- The opening bracket of a flow collection. -/
def openFlow? (scan : Scan) (here : Glyph) (token : Token) (text : List Glyph) : Option Scan := do
  let scan ← scan.noteKey? here
  let scan := { scan with pending := none, outerPending := scan.pending :: scan.outerPending }
  return scan.take token true text

/-- The closing bracket of a flow collection. -/
def closeFlow? (scan : Scan) (token : Token) (text : List Glyph) : Option Scan := do
  let scan ← scan.dropKey?
  let scan := match scan.outerPending with
    | pending :: outer => { scan with pending := pending, outerPending := outer }
    | [] => scan
  return scan.take token false text

/-- The indicator of an entry or of an explicit key, which opens a block of its kind. -/
def indicator? (scan : Scan) (here : Glyph) (block token : Token) (keyAllowed : Bool)
    (text : List Glyph) : Option Scan := do
  if !scan.inFlow && !scan.keyAllowed then none
  let scan ← (scan.openBlock here.column scan.tokens.size block).dropKey?
  return scan.take token keyAllowed text

/-- The colon in front of a value. -/
def value? (scan : Scan) (here : Glyph) (text : List Glyph) : Option Scan :=
  match scan.pending with
  | some key =>
    let scan := scan.insert key.position .key
    let scan := scan.openBlock key.start.column key.position .mappingStart
    some ({ scan with pending := none }.take .value false text)
  | none =>
    if scan.inFlow then some (scan.take .value false text)
    else if scan.keyAllowed then
      some ((scan.openBlock here.column scan.tokens.size .mappingStart).take .value true text)
    else none

/-- A block scalar, from behind its indicator. -/
def block? (scan : Scan) (style : Style) (text : List Glyph) : Option Scan := do
  let scan ← scan.dropKey?
  let (content, text) ← Yaml.block? (style = .folded) scan.indent text
  return scan.take (.scalar style content) true text

/-- A plain scalar. A key may follow it when a line ends behind it. -/
def plain? (scan : Scan) (here : Glyph) (text : List Glyph) : Option Scan := do
  let scan ← scan.noteKey? here
  let (content, lineEnded, text) ← plainFrom scan.inFlow (scan.indent + 1) [] {} text
  return scan.take (.scalar .plain content) lineEnded text

/-- Whether a plain scalar may start with a character before a rest. -/
def startsPlain (scan : Scan) (c : Char) (rest : List Glyph) : Bool :=
  if c = '-' then !startsWithAny isBlank rest
  else if c = '?' || c = ':' then !scan.inFlow && !atGap rest
  else !isBlank c && !isBreak c && !",[]\x7b\x7d#&*!|>\x27\x22%@\x60".toList.contains c

/-- Reads the next token, which starts here. -/
def next? (scan : Scan) (here : Glyph) (rest : List Glyph) : Option Scan := do
  let scan ← scan.expire? here
  let scan := scan.closeBlocks here.column
  let text := here :: rest
  let c := here.char
  if here.column = 0 && c = '%' then
    let scan ← scan.endBlocks?
    let (token, text) ← directive? rest
    return scan.take token false text
  else if atMarker '-' text then
    return (← scan.endBlocks?).take .documentStart false (text.drop 3)
  else if atMarker '.' text then
    return (← scan.endBlocks?).take .documentEnd false (text.drop 3)
  else if c = '[' then scan.openFlow? here .flowSequenceStart rest
  else if c = '{' then scan.openFlow? here .flowMappingStart rest
  else if c = ']' then scan.closeFlow? .flowSequenceEnd rest
  else if c = '}' then scan.closeFlow? .flowMappingEnd rest
  else if c = ',' then return (← scan.dropKey?).take .flowEntry true rest
  else if c = '-' && atGap rest then scan.indicator? here .sequenceStart .entry true rest
  else if c = '?' && (scan.inFlow || atGap rest) then
    scan.indicator? here .mappingStart .key (!scan.inFlow) rest
  else if c = ':' && (scan.inFlow || atGap rest) then scan.value? here rest
  else if c = '*' then
    scan.node? here ((anchorName? rest).map fun (name, rest) => (.reference name, rest))
  else if c = '&' then
    scan.node? here ((anchorName? rest).map fun (name, rest) => (.anchor name, rest))
  else if c = '!' then
    scan.node? here ((tag? rest).filter fun (_, rest) =>
      atGap rest || (scan.inFlow && startsWith ',' rest))
  else if c = '|' && !scan.inFlow then scan.block? .literal rest
  else if c = '>' && !scan.inFlow then scan.block? .folded rest
  else if c = '\x27' then
    scan.node? here ((singleFrom [] {} rest).map fun (content, rest) =>
      (.scalar .quoted content, rest))
  else if c = '\x22' then
    scan.node? here ((doubleFrom [] {} .none rest).map fun (content, rest) =>
      (.scalar .quoted content, rest))
  else if scan.startsPlain c rest then scan.plain? here text
  else none

/-- Skips blanks, comments and line breaks, and tells whether a key may follow. Where a key may
stand, a tabulator is no blank. -/
def skipGap (inFlow comment keyAllowed : Bool) : List Glyph → Bool × List Glyph
  | [] => (keyAllowed, [])
  | g :: rest =>
    if isBreak g.char then skipGap inFlow false (keyAllowed || !inFlow) rest
    else if comment then skipGap inFlow true keyAllowed rest
    else if g.char = ' ' || (g.char = '\t' && (inFlow || !keyAllowed)) then
      skipGap inFlow false keyAllowed rest
    else if g.char = '#' then skipGap inFlow true keyAllowed rest
    else (keyAllowed, g :: rest)

/-- The tokens that no later part of the text can change: those before the first pending key. -/
def settled (scan : Scan) : List Token :=
  let position (key : PendingKey) : Option Nat :=
    match scan.text with
    | here :: _ => if isPast here key then none else some key.position
    | [] => some key.position
  let positions := (scan.pending :: scan.outerPending).filterMap (·.bind position)
  (scan.tokens.extract 0 (positions.foldl min scan.tokens.size)).toList

/-- Reads all tokens from a place on, or the tokens before a fault. Every step takes at least one
character away. -/
def run : (fuel : Nat) → Scan → List Token
  | 0, scan => scan.settled
  | fuel + 1, scan =>
    let (keyAllowed, text) := skipGap scan.inFlow false scan.keyAllowed scan.text
    let moved := { scan with keyAllowed := keyAllowed, text := text }
    match text with
    | [] =>
      match moved.endBlocks? with
      | some ended => (ended.push .streamEnd).tokens.toList
      | none => scan.settled
    | here :: rest =>
      match moved.next? here rest with
      | some stepped => run fuel stepped
      | none => scan.settled

end Scan

/-- The tokens of a text; the last one is the end of the text unless it has a fault. -/
def tokens (text : List Glyph) : List Token :=
  Scan.run (text.length + 1) { text := text }

end ScriptTree.Yaml
