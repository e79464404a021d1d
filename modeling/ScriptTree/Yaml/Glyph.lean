/-!
# Placed characters

A YAML text as the list of its characters with their places. Line breaks of every spelling are one
character each, and a byte order mark in front is passed over.
-/

namespace ScriptTree.Yaml

/-- A character of a text with its line, its column, and its place in the whole text, all counted
from zero. -/
structure Glyph where
  char : Char
  line : Nat
  column : Nat
  index : Nat
deriving Repr

/-! ## Character classes -/

/-- Whether a character may stand in a text at all: the tabulator, the line breaks, and everything
that can be seen. -/
def isAllowed (c : Char) : Bool :=
  c = '\t' || c = '\n' || c = '\r' || ('\x20' ≤ c && c ≤ '\x7e') || c = '\u0085' ||
    ('\u00a0' ≤ c && c ≤ '\ufffd') || 0x10000 ≤ c.toNat

/-- Whether a character ends a line. -/
def isBreak (c : Char) : Bool :=
  c = '\n' || c = '\u2028' || c = '\u2029'

/-- Whether a character is a blank within a line. -/
def isBlank (c : Char) : Bool :=
  c = ' ' || c = '\t'

/-- Whether a character may stand in the name of an anchor or of a tag. -/
def isWord (c : Char) : Bool :=
  c.isAlphanum || c = '_' || c = '-'

/-! ## Placing -/

/-- Spells every line break that is not one of its own kind as a line feed. -/
def normalizeBreaks : List Char → List Char
  | '\r' :: '\n' :: rest => '\n' :: normalizeBreaks rest
  | c :: rest => (if c = '\r' || c = '\u0085' then '\n' else c) :: normalizeBreaks rest
  | [] => []

/-- Places characters from a place on. -/
def placeFrom (line column index : Nat) : List Char → List Glyph
  | [] => []
  | c :: rest =>
    ⟨c, line, column, index⟩ ::
      (if isBreak c then placeFrom (line + 1) 0 (index + 1) rest
        else placeFrom line (column + 1) (index + 1) rest)

/-- Passes over a byte order mark, which takes a column of its line. -/
def dropMark : List Glyph → List Glyph
  | g :: rest => if g.char = '\ufeff' then rest else g :: rest
  | [] => []

/-- The placed characters of a text, unless it holds a character that no text may hold. -/
def place? (text : String) : Option (List Glyph) :=
  if text.toList.all isAllowed then
    some (dropMark (placeFrom 0 0 0 (normalizeBreaks text.toList)))
  else none

/-! ## Looking ahead -/

/-- Whether a text goes on with a certain character. -/
def startsWith (c : Char) : List Glyph → Bool
  | g :: _ => g.char = c
  | [] => false

/-- Whether a text goes on with a character of a class. -/
def startsWithAny (p : Char → Bool) : List Glyph → Bool
  | g :: _ => p g.char
  | [] => false

/-- Whether a text goes on with a blank or a line break, or is at its end. -/
def atGap : List Glyph → Bool
  | g :: _ => isBlank g.char || isBreak g.char
  | [] => true

/-- Whether a text goes on with a line break, or is at its end. -/
def atLineEnd : List Glyph → Bool
  | g :: _ => isBreak g.char
  | [] => true

/-- Whether a document marker of three equal characters stands at the start of the line here. -/
def atMarker (c : Char) : List Glyph → Bool
  | a :: b :: d :: rest =>
    a.column = 0 && a.char = c && b.char = c && d.char = c && atGap rest
  | _ => false

/-- Whether one of the two document markers stands here. -/
def atDocumentMarker (text : List Glyph) : Bool :=
  atMarker '-' text || atMarker '.' text

/-- The characters at the front that belong to a class, and the rest of the text. -/
def spanChars (p : Char → Bool) : List Glyph → List Char × List Glyph
  | [] => ([], [])
  | g :: rest =>
    if p g.char then
      let (taken, rest) := spanChars p rest
      (g.char :: taken, rest)
    else ([], g :: rest)

end ScriptTree.Yaml
