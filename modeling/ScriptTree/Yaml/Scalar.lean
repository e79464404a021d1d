import ScriptTree.Text.Digits
import ScriptTree.Yaml.Glyph
/-!
# Scalars in YAML text

The five ways of writing a scalar: plain, in single or double quotes, and as a block that keeps or
folds its line breaks. Each function reads a scalar from the front of a text and gives its content
and the rest.

Between two words of a flowing scalar, blanks stay as they are when no line ends there; otherwise
one line break becomes a blank, and of several all but the first stay.
-/

namespace ScriptTree.Yaml

/-- The way a scalar is written. -/
inductive Style where
  | plain
  | quoted
  | literal
  | folded
deriving DecidableEq, Repr

/-! ## Gaps -/

/-- What stands between two words of a scalar: the blanks of the line so far, and the line breaks,
both in reverse. A break behind a backslash does not count among them. -/
structure Gap where
  blanks : List Char := []
  breaks : List Char := []
  escaped : Bool := false

namespace Gap

/-- Whether a line ends within the gap. -/
def hasBreak (gap : Gap) : Bool :=
  !gap.breaks.isEmpty || gap.escaped

/-- Whether there is nothing between the words. -/
def isEmpty (gap : Gap) : Bool :=
  gap.blanks.isEmpty && !gap.hasBreak

/-- The gap with one more blank; the blanks that begin a line are dropped. -/
def addBlank (gap : Gap) (c : Char) : Gap :=
  if gap.hasBreak then gap else { gap with blanks := c :: gap.blanks }

/-- The gap with one more line break; the blanks that end a line are dropped. -/
def addBreak (gap : Gap) (c : Char) : Gap :=
  { gap with blanks := [], breaks := c :: gap.breaks }

/-- What the gap contributes to the content, in reverse. -/
def folded (gap : Gap) : List Char :=
  if !gap.hasBreak then gap.blanks
  else if gap.escaped then gap.breaks
  else
    match gap.breaks.reverse with
    | '\n' :: [] => [' ']
    | '\n' :: more => more.reverse
    | all => all.reverse

end Gap

/-! ## Plain scalars -/

/-- Whether a plain scalar ends here: at a colon before a gap, and among flow collections at their
punctuation. -/
def endsPlain (flow : Bool) (c : Char) (rest : List Glyph) : Bool :=
  (c = ':' && atGap rest) ||
    (flow && (c = ',' || c = '[' || c = ']' || c = '{' || c = '}'))

/-- Reads a plain scalar on: `content` is what was read so far in reverse, and `gap` what stands
behind it. Outside flow collections the scalar ends at a line indented less than `limit`. The result
tells also whether the gap behind the scalar holds a line break. -/
def plainFrom (flow : Bool) (limit : Int) (content : List Char) (gap : Gap) :
    List Glyph → Option (String × Bool × List Glyph)
  | [] => some (String.ofList content.reverse, gap.hasBreak, [])
  | g :: rest =>
    if isBlank g.char then
      if gap.hasBreak && (g.column : Int) < limit && g.char = '\t' then none
      else plainFrom flow limit content (gap.addBlank g.char) rest
    else if isBreak g.char then plainFrom flow limit content (gap.addBreak g.char) rest
    else
      let stopped := some (String.ofList content.reverse, gap.hasBreak, g :: rest)
      if !gap.isEmpty &&
          ((!flow && (g.column : Int) < limit) || atDocumentMarker (g :: rest) ||
            g.char = '#') then
        stopped
      else if flow && g.char = ':' &&
          startsWithAny (fun c => c = ',' || c = '?' || c = '[' || c = ']' || c = '{' || c = '}')
            rest then
        none
      else if endsPlain flow g.char rest then stopped
      else plainFrom flow limit (g.char :: (gap.folded ++ content)) {} rest

/-! ## Quoted scalars -/

/-- Reads a scalar in single quotes on, from behind its opening quote. -/
def singleFrom (content : List Char) (gap : Gap) : List Glyph → Option (String × List Glyph)
  | [] => none
  | g :: rest =>
    if isBlank g.char then singleFrom content (gap.addBlank g.char) rest
    else if isBreak g.char then singleFrom content (gap.addBreak g.char) rest
    else if atDocumentMarker (g :: rest) then none
    else
      let content := gap.folded ++ content
      if g.char = '\x27' then
        match rest with
        | h :: rest =>
          if h.char = '\x27' then singleFrom ('\x27' :: content) {} rest
          else some (String.ofList content.reverse, h :: rest)
        | [] => some (String.ofList content.reverse, [])
      else singleFrom (g.char :: content) {} rest

/-- The character that a letter behind a backslash stands for. -/
def escapedChar? : Char → Option Char
  | '0' => some '\x00'
  | 'a' => some '\x07'
  | 'b' => some '\x08'
  | 't' | '\t' => some '\t'
  | 'n' => some '\n'
  | 'v' => some '\x0b'
  | 'f' => some '\x0c'
  | 'r' => some '\r'
  | 'e' => some '\x1b'
  | 'N' => some '\u0085'
  | '_' => some '\u00a0'
  | 'L' => some '\u2028'
  | 'P' => some '\u2029'
  | c => if c = ' ' || c = '\x22' || c = '/' || c = '\\' then some c else none

/-- The number of hexadecimal digits that a letter behind a backslash announces. -/
def escapedLength? : Char → Option Nat
  | 'x' => some 2
  | 'u' => some 4
  | 'U' => some 8
  | _ => none

/-- The character with a number, unless it is half of a pair or too large. -/
def scalarValue? (n : Nat) : Option Char :=
  if n < 0xd800 || (0xdfff < n && n ≤ 0x10ffff) then some (Char.ofNat n) else none

/-- What a reader of double quotes is in the middle of: nothing, an escape of which only the
backslash is read, or a number with digits to come. -/
inductive Escape where
  | none
  | begun
  | number (missing : Nat) (value : Nat)

/-- Reads a scalar in double quotes on, from behind its opening quote. -/
def doubleFrom (content : List Char) (gap : Gap) (escape : Escape) :
    List Glyph → Option (String × List Glyph)
  | [] => none
  | g :: rest =>
    match escape with
    | .number missing value =>
      match Digits.digit? g.char with
      | none => none
      | some d =>
        let value := value * 16 + d
        if 1 < missing then doubleFrom content {} (.number (missing - 1) value) rest
        else
          match scalarValue? value with
          | none => none
          | some c => doubleFrom (c :: content) {} .none rest
    | .begun =>
      if isBreak g.char then doubleFrom content ⟨[], [], true⟩ .none rest
      else
        match escapedLength? g.char, escapedChar? g.char with
        | some length, _ => doubleFrom content {} (.number length 0) rest
        | none, some c => doubleFrom (c :: content) {} .none rest
        | none, none => none
    | .none =>
      if isBlank g.char then doubleFrom content (gap.addBlank g.char) .none rest
      else if isBreak g.char then doubleFrom content (gap.addBreak g.char) .none rest
      else if atDocumentMarker (g :: rest) then none
      else
        let content := gap.folded ++ content
        if g.char = '\x22' then some (String.ofList content.reverse, rest)
        else if g.char = '\\' then doubleFrom content {} .begun rest
        else doubleFrom (g.char :: content) {} .none rest

/-! ## Block scalars -/

/-- What happens to the line breaks at the end of a block. -/
inductive Chomp where
  | strip
  | clip
  | keep
deriving DecidableEq

/-- The chomping indicator here, if there is one. -/
def chomp? : List Glyph → Option (Chomp × List Glyph)
  | g :: rest =>
    if g.char = '+' then some (.keep, rest)
    else if g.char = '-' then some (.strip, rest)
    else none
  | [] => none

/-- The indentation indicator here, if there is one; zero is none that can be given. -/
def increment? : List Glyph → Option (Option Nat × List Glyph)
  | g :: rest =>
    match Digits.digitBelow? 10 g.char with
    | some 0 => none
    | some n => some (some n, rest)
    | none => some (none, g :: rest)
  | [] => some (none, [])

/-- The header of a block behind its first character, in either order of its indicators: chomping,
indentation, and the text from the next line on. -/
def blockHeader? (text : List Glyph) : Option (Chomp × Option Nat × List Glyph) := do
  let (chomp, increment, text) ← match chomp? text with
    | some (chomp, text) => do
      let (increment, text) ← increment? text
      pure (chomp, increment, text)
    | none => do
      let (increment, text) ← increment? text
      match increment, chomp? text with
      | some _, some (chomp, text) => pure (chomp, increment, text)
      | _, _ => pure (.clip, increment, text)
  let (_, text) := spanChars isBlank text
  let (_, text) := if startsWith '#' text then spanChars (fun c => !isBreak c) text else ([], text)
  if atLineEnd text then some (chomp, increment, text.drop 1) else none

/-- Skips the indentation of lines and gathers empty lines in reverse. An indentation of zero is one
still to be found: then all blanks are skipped, and the widest indentation is reported. -/
def blockBreaks (indent widest : Nat) (breaks : List Char) :
    List Glyph → Option (Nat × List Char × List Glyph)
  | [] => some (widest, breaks, [])
  | g :: rest =>
    let inside : Bool := indent = 0 || g.column < indent
    if g.char = ' ' && inside then blockBreaks indent widest breaks rest
    else if g.char = '\t' && inside then none
    else if isBreak g.char then
      blockBreaks indent (max widest g.column) (g.char :: breaks) rest
    else some (max widest g.column, breaks, g :: rest)

/-- The content of a block read so far in reverse, the break that ended its last line, and the
empty lines behind it in reverse. -/
structure BlockContent where
  content : List Char := []
  ending : Option Char := none
  empty : List Char := []
  indented : Bool := false

/-- The content before the next line, whose first character may be a blank. A folded block joins two
lines by a blank, unless one of them begins with a blank or empty lines stand between them. -/
def BlockContent.joined (block : BlockContent) (folds nextIndented : Bool) : List Char :=
  block.empty ++
    (if folds && block.ending = some '\n' && !block.indented && !nextIndented then
      (if block.empty.isEmpty then ' ' :: block.content else block.content)
    else block.ending.toList ++ block.content)

/-- Reads the lines of a block on, each of them at the indentation of the block. -/
def blockLines (folds : Bool) (indent : Nat) :
    (fuel : Nat) → BlockContent → List Glyph → Option (BlockContent × List Glyph)
  | 0, block, text => some (block, text)
  | _ + 1, block, [] => some (block, [])
  | fuel + 1, block, g :: rest =>
    if g.column = indent then do
      let nextIndented := isBlank g.char
      let (line, text) := spanChars (fun c => !isBreak c) (g :: rest)
      let ending := text.head?.map Glyph.char
      let (_, empty, text) ← blockBreaks indent 0 [] (text.drop 1)
      blockLines folds indent fuel
        ⟨line.reverse ++ block.joined folds nextIndented, ending, empty, nextIndented⟩ text
    else some (block, g :: rest)

/-- Reads a block scalar from behind its first character, inside a collection indented by
`indent`. -/
def block? (folds : Bool) (indent : Int) (text : List Glyph) : Option (String × List Glyph) := do
  let (chomp, increment, text) ← blockHeader? text
  let given := match increment with
    | some n => (max indent 0).toNat + n
    | none => 0
  let (widest, empty, text) ← blockBreaks given 0 [] text
  let depth := if given = 0 then max (max widest (indent + 1).toNat) 1 else given
  let (block, rest) ← blockLines folds depth (text.length + 1) { empty := empty } text
  let content := match chomp with
    | .strip => block.content
    | .clip => block.ending.toList ++ block.content
    | .keep => block.empty ++ block.ending.toList ++ block.content
  return (String.ofList content.reverse, rest)

end ScriptTree.Yaml
