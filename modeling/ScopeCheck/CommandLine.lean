import ScopeCheck.Config.Basic

/-!
# Command line

`CommandLine.parse` reads the arguments of the program, `CommandLine.execute` does what they ask
for.

* Three arguments name the grammar, the fixture and the expectations.
* Options may stand between them, up to an argument `--`.  Each may be given once; its value
  follows in the same argument or in the next one, and does not start with a dash there.
-/

namespace ScopeCheck.CommandLine

/-- The arguments of a check. -/
structure Arguments where
  /-- The arguments that are no options, the latest first. -/
  plain : List String
  /-- The directory with the grammars that others mention. -/
  grammars : Option String
  /-- A file with settings. -/
  config : Option String
  deriving DecidableEq, Inhabited, Repr

/-- What the user asks for. -/
inductive Command
  | help
  | version
  /-- Nothing that can be understood. -/
  | misuse
  | check (invocation : RunInputs) (grammars config : Option String)
  deriving DecidableEq, Inhabited, Repr

/-- An option with a value. -/
inductive Valued
  | grammars
  | config
  deriving DecidableEq, Inhabited, Repr

/-- What an option means. -/
inductive Meaning
  | help
  | version
  /-- An option whose value follows, or is the next argument. -/
  | valued (option : Valued) (value : Option String)
  | unknown

/-- The meaning of an option that is a word, from behind its dashes. -/
def longOption (cs : List Char) : Meaning :=
  let name := String.ofList (cs.takeWhile (· ≠ '='))
  let value := match cs.dropWhile (· ≠ '=') with
    | [] => none
    | _ :: value => some (String.ofList value)
  match name, value with
  | "help", none => .help
  | "version", none => .version
  | "grammars", value => .valued .grammars value
  | "config", value => .valued .config value
  | _, _ => .unknown

/-- The value that follows a letter. -/
def letterValue : List Char → Option String
  | [] => none
  | '=' :: value => some (String.ofList value)
  | value => some (String.ofList value)

/-- The meaning of an option that is a letter, from behind its dash. -/
def shortOption : List Char → Meaning
  | 'h' :: _ => .help
  | 'V' :: _ => .version
  | 'g' :: value => .valued .grammars (letterValue value)
  | 'c' :: value => .valued .config (letterValue value)
  | _ => .unknown

/-- The meaning of an argument, if it is an option. -/
def meaning? (argument : String) : Option Meaning :=
  match argument.toList with
  | '-' :: '-' :: cs => some (longOption cs)
  | '-' :: c :: cs => some (shortOption (c :: cs))
  | _ => none

/-- Gives a value to an option that has none. -/
def setOption (a : Arguments) (value : String) : Valued → Option Arguments
  | .grammars => if a.grammars.isNone then some { a with grammars := some value } else none
  | .config => if a.config.isNone then some { a with config := some value } else none

/-- Adds an argument that is no option. -/
def addPlain (a : Arguments) (value : String) : Option Arguments :=
  if a.plain.length < 3 then some { a with plain := value :: a.plain } else none

/-- The command, when all arguments have been read. -/
def conclude (a : Arguments) : Command :=
  match a.plain with
  | [expectations, fixture, grammar] => .check ⟨grammar, fixture, expectations⟩ a.grammars a.config
  | _ => .misuse

/-- Reads arguments.  `pending` is an option that waits for its value, and `options` says whether
there may still be options. -/
def parseFrom (a : Arguments) (pending : Option Valued) (options : Bool) :
    List String → Command
  | [] => if pending.isSome then .misuse else conclude a
  | argument :: rest =>
    match pending with
    | some option =>
      if (meaning? argument).isSome then .misuse
      else
        match setOption a argument option with
        | some a => parseFrom a none options rest
        | none => .misuse
    | none =>
      if options && argument = "--" then parseFrom a none false rest
      else
        match if options then meaning? argument else none with
        | none =>
          match addPlain a argument with
          | some a => parseFrom a none options rest
          | none => .misuse
        | some .help => .help
        | some .version => .version
        | some .unknown => .misuse
        | some (.valued option none) => parseFrom a (some option) options rest
        | some (.valued option (some value)) =>
          match setOption a value option with
          | some a => parseFrom a none options rest
          | none => .misuse

/-- Reads the arguments of the program. -/
def parse (arguments : List String) : Command := parseFrom ⟨[], none, none⟩ none true arguments

/-- How the program is used. -/
def usage : String :=
  "Check the scopes a TextMate grammar assigns to a sample file

Usage: tmcheck [OPTIONS] <grammar> <fixture> <expectations>

Arguments:
  <grammar>       Path to the grammar (.tmLanguage.json, or .yaml/.yml)
  <fixture>       Sample source file to tokenize
  <expectations>  Expectation file with a checks[] list

Options:
  -g, --grammars <DIR>  Directory of embedded grammars named <scope>.tmLanguage.json
  -c, --config <FILE>   TOML file layered over the built-in defaults
  -h, --help            Print help
  -V, --version         Print version
"

/-- The name of the program and its version. -/
def versionText : String := "tmcheck 0.1.0\n"

/-- What the program does: how it ends, and what it writes. -/
structure Execution where
  exitCode : Nat
  out : String
  err : String
  deriving DecidableEq, Inhabited, Repr

/-- The configuration of a check. -/
def configure (files : Files) (grammars config : Option String) : Except ConfigError Config :=
  Config.ofLayers files config.toList
    (grammars.toList.map fun d => (⟨"grammars", [.key "directory"]⟩, .text none d))

/-- Checks a fixture. -/
def check {ρ : Type} (engine : RegexEngine ρ) (files : Files) (programDirectory : String)
    (i : RunInputs) (grammars config : Option String) : Execution :=
  match configure files grammars config with
  | .error e => ⟨1, "", "Configuration error: " ++ e.message ++ "\n"⟩
  | .ok c =>
    let settings := c.runSettings (some (c.grammarDirectory programDirectory))
    let r := run engine files settings i ⟨.unlimited, .unlimited⟩
    let out := r.outputs.out.text
    let err := r.outputs.err.text
    match r.outcome with
    | .error e => ⟨1, out, err ++ e.message ++ "\n"⟩
    | .ok [] => ⟨0, out, err⟩
    | .ok _ => ⟨1, out, err⟩

/-- Does what the user asks for. -/
def execute {ρ : Type} (engine : RegexEngine ρ) (files : Files) (programDirectory : String) :
    Command → Execution
  | .help => ⟨0, usage, ""⟩
  | .version => ⟨0, versionText, ""⟩
  | .misuse => ⟨2, "", usage⟩
  | .check i grammars config => check engine files programDirectory i grammars config

/-- The paths of the grammars that are mentioned, as far as the files are known. -/
def grammarPaths (files : Files) (programDirectory : String) (i : RunInputs)
    (grammars config : Option String) : List String :=
  match configure files grammars config with
  | .error _ => []
  | .ok c =>
    let directory := c.grammarDirectory programDirectory
    match FileGrammars.openAt files i.grammar (some directory) c.suffix with
    | .error _ => []
    | .ok g => (g.provider.gatherFrom g.scopeName).requests.tail.map (g.pathFor directory)

/-- The paths that a command looks at, as far as the files are known. -/
def paths (files : Files) (programDirectory : String) : Command → List String
  | .check i grammars config =>
    config.toList ++ config.toList.map (· ++ ".toml") ++
      [i.grammar, i.fixture, i.expectations] ++
      grammarPaths files programDirectory i grammars config
  | _ => []

end ScopeCheck.CommandLine
