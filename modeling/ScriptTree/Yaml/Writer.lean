import ScriptTree.Json.Writer
import ScriptTree.Yaml.Resolve
/-!
# YAML text

A JSON value as YAML text in blocks: an entry or item a line, two spaces a level, and a list under a
key at the indentation of the key. Empty collections are written as brackets.

A string is written plain if that reads back as the same string. Otherwise single quotes are put
around it; one with line feeds is written as a literal block; and double quotes with escapes serve
for what neither can hold.
-/

namespace ScriptTree.Yaml

/-! ## What a string holds -/

/-- Whether a character can be seen or is a line feed. -/
def isPrintable (c : Char) : Bool :=
  c = '\n' || (' ' ≤ c && c ≤ '~') || ('\u00a0' ≤ c && c ≠ '\ufeff' && c ≠ '\ufffe' && c ≠ '\uffff')

/-- Whether a character ends a line of a string. -/
def endsLine (c : Char) : Bool :=
  c = '\n' || c = '\r' || c = '\u0085' || c = '\u2028' || c = '\u2029'

/-- Whether a blank, a line break or nothing follows. -/
def gapFollows : List Char → Bool
  | [] => true
  | c :: _ => c = ' ' || c = '\t' || endsLine c

/-- Whether the first character of a string would be taken for an indicator. -/
def startsLikeIndicator : List Char → Bool
  | [] => false
  | '-' :: '-' :: '-' :: _ | '.' :: '.' :: '.' :: _ => true
  | c :: rest =>
    "#,[]\x7b\x7d&*!|>\x27\x22%@\x60".toList.contains c ||
      ((c = '?' || c = ':' || c = '-') && gapFollows rest)

/-- Whether a character behind the first one would be taken for an indicator: a colon before a gap,
or a hash behind one. -/
def holdsIndicator : List Char → Bool
  | a :: b :: rest =>
    (b = ':' && gapFollows rest) || (b = '#' && gapFollows [a]) || holdsIndicator (b :: rest)
  | _ => false

/-- Whether a blank stands next to a line break, before it or behind it. -/
def blankMeetsBreak (blankFirst : Bool) : List Char → Bool
  | a :: b :: rest =>
    (if blankFirst then a = ' ' && endsLine b else endsLine a && b = ' ') ||
      blankMeetsBreak blankFirst (b :: rest)
  | _ => false

/-- Whether a string can stand between double quotes only. -/
def needsEscapes (cs : List Char) : Bool :=
  cs.any (fun c => !isPrintable c) || blankMeetsBreak true cs

/-- Whether a string can stand without quotes, as far as its characters go. -/
def fitsPlain (cs : List Char) : Bool :=
  !startsLikeIndicator cs && !holdsIndicator cs && !cs.any endsLine &&
    cs.head? ≠ some ' ' && cs.getLast? ≠ some ' '

/-! ## Spellings of strings -/

/-- A string with the blanks of a level behind every line break, unless another one follows. -/
def indentLines (level : Nat) (broken : Bool) : List Char → List Char
  | [] => []
  | c :: rest =>
    if endsLine c then c :: indentLines level true rest
    else (if broken then List.replicate level ' ' else []) ++ c :: indentLines level false rest

/-- A string in single quotes, with quotes in it doubled. -/
def singleQuoted (level : Nat) (cs : List Char) : List Char :=
  let doubled := cs.flatMap fun c => if c = '\x27' then ['\x27', '\x27'] else [c]
  '\x27' :: (indentLines level false (doubled ++ ['\x27']))

/-- An upper-case hexadecimal number of a fixed width behind its letter. -/
def numericEscape (letter : Char) (width : Nat) (c : Char) : List Char :=
  '\\' :: letter :: Digits.padded width ((Digits.hex c.toNat).map Char.toUpper)

/-- The spelling of a character between double quotes. -/
def escapeChar (c : Char) : List Char :=
  match c with
  | '\x00' => ['\\', '0']
  | '\x07' => ['\\', 'a']
  | '\x08' => ['\\', 'b']
  | '\t' => ['\\', 't']
  | '\n' => ['\\', 'n']
  | '\x0b' => ['\\', 'v']
  | '\x0c' => ['\\', 'f']
  | '\r' => ['\\', 'r']
  | '\x1b' => ['\\', 'e']
  | '\x22' => ['\\', '\x22']
  | '\\' => ['\\', '\\']
  | '\u0085' => ['\\', 'N']
  | '\u2028' => ['\\', 'L']
  | '\u2029' => ['\\', 'P']
  | c =>
    if isPrintable c then [c]
    else if c.toNat ≤ 0xff then numericEscape 'x' 2 c
    else numericEscape 'u' 4 c

/-- A string in double quotes. -/
def doubleQuoted (cs : List Char) : List Char :=
  '\x22' :: (cs.flatMap escapeChar ++ ['\x22'])

/-- The header of a literal block: the indentation where the text begins with a blank or a line
break, and what happens to its last line breaks. -/
def literalHeader (cs : List Char) : List Char :=
  let depth := match cs with
    | c :: _ => if c = ' ' || endsLine c then ['2'] else []
    | [] => []
  let chomp := match cs.reverse with
    | a :: b :: _ => if !endsLine a then ['-'] else if endsLine b then ['+'] else []
    | [a] => if endsLine a then ['+'] else ['-']
    | [] => ['-']
  '|' :: (depth ++ chomp)

/-- A string as a literal block, without the line break behind it if the string ends in one. -/
def literal (level : Nat) (cs : List Char) : List Char :=
  literalHeader cs ++ '\n' :: indentLines level true cs

/-- The spelling of a string whose further lines stand at a level. -/
def spellString (level : Nat) (s : String) : List Char :=
  let cs := s.toList
  if cs.contains '\n' then
    if needsEscapes cs || cs.getLast? = some ' ' then doubleQuoted cs else literal level cs
  else if needsQuotes s || !fitsPlain cs || needsEscapes cs then
    if needsEscapes cs || blankMeetsBreak false cs then doubleQuoted cs
    else singleQuoted level cs
  else cs

/-- The spelling of the name of a field, which stays on one line. -/
def spellName (name : String) : List Char :=
  if name.toList.any endsLine then doubleQuoted name.toList else spellString 0 name

/-! ## Values -/

/-- The spelling of a value without items and fields. -/
def spellLeaf (level : Nat) : Json → List Char
  | .null => "null".toList
  | .bool b => if b then "true".toList else "false".toList
  | .number n => n.spell
  | .string s => spellString level s
  | .array _ => "[]".toList
  | .object _ => "\x7b\x7d".toList

/-- Puts a spelling and a line break behind it in front of `rest`; one that ends in a line break
needs no other. -/
def endLine (spelling rest : List Char) : List Char :=
  spelling ++ (if spelling.getLast?.any endsLine then rest else '\n' :: rest)

/-- A line break and the blanks of a level. -/
def newLine (level : Nat) : List Char :=
  '\n' :: List.replicate level ' '

mutual

/-- A value at a level, in front of `rest`. It stands at the start of its line, or behind the name
of a field: then a list goes on below the name, and a record two blanks further in. -/
def write (level : Nat) (named : Bool) : Json → List Char → List Char
  | .array (item :: items), rest =>
    (if named then newLine level else []) ++
      '-' :: ' ' :: write (level + 2) false item (writeItems level items rest)
  | .object ((name, value) :: fields), rest =>
    let inner := if named then level + 2 else level
    (if named then newLine inner else []) ++
      (spellName name ++ ':' :: write inner true value (writeFields inner fields rest))
  | leaf, rest =>
    if named then ' ' :: endLine (spellLeaf (level + 2) leaf) rest
    else endLine (spellLeaf level leaf) rest

/-- The items of a list after its first one. -/
def writeItems (level : Nat) : List Json → List Char → List Char
  | [], rest => rest
  | item :: items, rest =>
    List.replicate level ' ' ++
      '-' :: ' ' :: write (level + 2) false item (writeItems level items rest)

/-- The fields of a record after its first one. -/
def writeFields (level : Nat) : List (String × Json) → List Char → List Char
  | [], rest => rest
  | (name, value) :: fields, rest =>
    List.replicate level ' ' ++
      (spellName name ++ ':' :: write level true value (writeFields level fields rest))

end

/-- The text of a value. -/
def render (value : Json) : String :=
  String.ofList (write 0 false value [])

end ScriptTree.Yaml
