import ScriptTree.Command
/-!
# Arguments of the command line

The words behind the name of the program: a command, options with a value, and flags, in any order.
-/

namespace ScriptTree

/-- What the words of a command line say. -/
structure Arguments where
  command : Option String := none
  catalogPath : Option String := none
  cacheOrigin : Option UInt32 := none
  input : Option String := none
  out : Option String := none
  category : Option String := none
  cached : Bool := false

namespace Arguments

/-- Takes one option with its value. -/
def withOption (arguments : Arguments) (name value : String) : Option Arguments :=
  match name with
  | "--catalog" => some { arguments with catalogPath := some value }
  | "--cache-origin" =>
    (Settings.origin? value).map fun origin => { arguments with cacheOrigin := some origin }
  | "--input" | "-i" => some { arguments with input := some value }
  | "--out" | "-o" => some { arguments with out := some value }
  | "--category" => some { arguments with category := some value }
  | _ => none

/-- Takes one flag; those that ask for more messages are passed over. -/
def withFlag (arguments : Arguments) (name : String) : Option Arguments :=
  match name with
  | "--cached" => some { arguments with cached := true }
  | "--verbose" | "-v" | "--debug" => some arguments
  | _ => none

/-- The name and the value of an option in one word, `--name=value`. -/
def joined? (word : String) : Option (String × String) :=
  let (name, rest) := word.toList.span (· ≠ '=')
  match word.startsWith "--", rest with
  | true, _ :: value => some (String.ofList name, String.ofList value)
  | _, _ => none

/-- Takes the words one by one. -/
def readFrom? (arguments : Arguments) : List String → Option Arguments
  | [] => some arguments
  | word :: rest =>
    if !word.startsWith "-" then
      if arguments.command.isSome then none
      else readFrom? { arguments with command := some word } rest
    else
      match joined? word, arguments.withFlag word, rest with
      | some (name, value), _, rest =>
        (arguments.withOption name value).bind fun arguments => readFrom? arguments rest
      | none, some arguments, rest => readFrom? arguments rest
      | none, none, value :: rest =>
        (arguments.withOption word value).bind fun arguments => readFrom? arguments rest
      | none, none, [] => none

/-- What the words of a command line say, if they say something. -/
def read? (words : List String) : Option Arguments :=
  readFrom? {} words

/-- The command that is asked for; all but the one that prints the catalog need an input. -/
def command? (arguments : Arguments) : Option Command :=
  match arguments.command, arguments.input with
  | some "markup", some _ => some (.markup arguments.cached)
  | some "validate", some _ => some .validate
  | some "roundtrip", some _ => some .roundtrip
  | some "explain", some _ => some .explain
  | some "catalog", _ => some (.catalog arguments.category)
  | _, _ => none

/-- The settings of the environment with those of the command line in their place. -/
def settings (arguments : Arguments) (environment : Settings) : Settings :=
  environment.override arguments.catalogPath arguments.cacheOrigin

end Arguments

end ScriptTree
