import ScriptTree.Json.Basic
/-!
# JSON text

Two layouts of the same text: the compact one, without blanks, and the indented one, with two
spaces a level. Both write the fields of an object in the order in which they stand.

The compact writer puts a value in front of a given rest of the text, so that the text of a list
is built from right to left and what follows a value can be named in statements about it.
-/

namespace ScriptTree.Json

/-! ## Strings and numbers -/

/-- The letters that stand behind a backslash for single characters. -/
def escapes : List (Char × Char) :=
  [('\x22', '\x22'), ('\\', '\\'), ('\x08', 'b'), ('\x0c', 'f'), ('\n', 'n'), ('\r', 'r'),
    ('\t', 't')]

/-- The spelling of one character inside quotes: quote and backslash are escaped, and so are the
characters below the blank, by their number where they have no letter. -/
def escapeChar (c : Char) : List Char :=
  match escapes.lookup c with
  | some letter => ['\\', letter]
  | none =>
    if c.toNat < 32 then '\\' :: 'u' :: Digits.padded 4 (Digits.hex c.toNat) else [c]

/-- The characters of a string, escaped, in front of `rest`. -/
def escape : List Char → List Char → List Char
  | [], rest => rest
  | c :: cs, rest => escapeChar c ++ escape cs rest

/-- A string in quotes, in front of `rest`. -/
def quote (s : String) (rest : List Char) : List Char :=
  '\x22' :: escape s.toList ('\x22' :: rest)

/-- The spelling of a number. -/
def Number.spell : Number → List Char
  | .int n => Digits.integer n
  | .float d => d.spell

/-! ## Compact layout -/

mutual

/-- A value without blanks, in front of `rest`. -/
def write : Json → List Char → List Char
  | .null, rest => 'n' :: 'u' :: 'l' :: 'l' :: rest
  | .bool true, rest => 't' :: 'r' :: 'u' :: 'e' :: rest
  | .bool false, rest => 'f' :: 'a' :: 'l' :: 's' :: 'e' :: rest
  | .number n, rest => n.spell ++ rest
  | .string s, rest => quote s rest
  | .array [], rest => '[' :: ']' :: rest
  | .array (item :: items), rest => '[' :: write item (writeItems items rest)
  | .object [], rest => '{' :: '}' :: rest
  | .object ((name, value) :: fields), rest =>
    '{' :: quote name (':' :: write value (writeFields fields rest))

/-- The values of an array after its first one, with the closing bracket. -/
def writeItems : List Json → List Char → List Char
  | [], rest => ']' :: rest
  | item :: items, rest => ',' :: write item (writeItems items rest)

/-- The fields of an object after its first one, with the closing brace. -/
def writeFields : List (String × Json) → List Char → List Char
  | [], rest => '}' :: rest
  | (name, value) :: fields, rest =>
    ',' :: quote name (':' :: write value (writeFields fields rest))

end

/-- The text of a value without blanks. -/
def compact (value : Json) : String :=
  String.ofList (write value [])

/-! ## Indented layout -/

/-- A line break and the blanks of a level, in front of `rest`. -/
def newline (level : Nat) (rest : List Char) : List Char :=
  '\n' :: (List.replicate (2 * level) ' ' ++ rest)

mutual

/-- A value with every item and field on a line of its own, in front of `rest`; empty arrays and
objects stay on one line. -/
def indent (level : Nat) : Json → List Char → List Char
  | .array (item :: items), rest =>
    '[' :: newline (level + 1) (indent (level + 1) item (indentItems level items rest))
  | .object ((name, value) :: fields), rest =>
    '{' :: newline (level + 1)
      (quote name (':' :: ' ' :: indent (level + 1) value (indentFields level fields rest)))
  | .array [], rest => '[' :: ']' :: rest
  | .object [], rest => '{' :: '}' :: rest
  | .null, rest => write .null rest
  | .bool b, rest => write (.bool b) rest
  | .number n, rest => write (.number n) rest
  | .string s, rest => write (.string s) rest

/-- The values of an array after its first one, with the closing bracket. -/
def indentItems (level : Nat) : List Json → List Char → List Char
  | [], rest => newline level (']' :: rest)
  | item :: items, rest =>
    ',' :: newline (level + 1) (indent (level + 1) item (indentItems level items rest))

/-- The fields of an object after its first one, with the closing brace. -/
def indentFields (level : Nat) : List (String × Json) → List Char → List Char
  | [], rest => newline level ('}' :: rest)
  | (name, value) :: fields, rest =>
    ',' :: newline (level + 1)
      (quote name (':' :: ' ' :: indent (level + 1) value (indentFields level fields rest)))

end

/-- The text of a value with two spaces of indentation a level. -/
def pretty (value : Json) : String :=
  String.ofList (indent 0 value [])

end ScriptTree.Json
