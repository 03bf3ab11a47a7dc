import Highlight.Arguments
import Highlight.Production

/-!
The program from its arguments to its exit code. Its arguments come first, then the settings, then
the languages; until all three are accepted no file is written.
-/

namespace Highlight

def Settings.defaultFile : Text := "sbsyntax.toml".toList

/-- Reads a settings file. A file that is named must exist; the default one need not. -/
def Settings.load {m : Type → Type} [Monad m] (host : Host m) : (file : Option Text) →
    ExceptT Error m Settings
  | some path => do
    Settings.read (← host.readInput path)
  | none => do
    match ← host.read Settings.defaultFile with
    | .ok text => Settings.read text
    | .error .missing => return {}
    | .error .unusable => throw .inputOutput

structure Outcome where
  code : Nat
  output : Text := []
  errors : Text := []
  deriving DecidableEq, Repr

namespace Program

def versionText : Text := "sbsyntax 0.4.0\n".toList

def usage : Text := "Usage: sbsyntax [OPTIONS] [languages]...\n".toList

def helpText : Text := Text.join ['\n'] <| List.map String.toList [
  "Generate TextMate grammars for SBSS and SBML",
  "",
  "Usage: sbsyntax [OPTIONS] [languages]...",
  "",
  "Arguments:",
  "  [languages]...  Languages to generate (default: all configured)",
  "",
  "Options:",
  "  -c, --config <FILE>        Configuration file (default: ./sbsyntax.toml if present)",
  "  -t, --templates <DIR>      Directory holding the templates",
  "  -o, --syntaxes <DIR>       Output directory for grammars",
  "      --languages-dir <DIR>  Output directory for editor configurations",
  "      --strict <CONTEXT>     Flag unknown values of known attributes in a pair context [possible values: list, group, inline-list]",
  "      --lenient <CONTEXT>    Accept any value in a pair context [possible values: list, group, inline-list]",
  "      --list                 List available languages and exit",
  "  -v, --verbose...           More output (-vv for debug)",
  "  -q, --quiet                Only report errors",
  "  -h, --help                 Print help",
  "  -V, --version              Print version",
  ""]

def ArgumentFault.message : ArgumentFault → Text
  | .unknown => "unexpected argument found".toList
  | .invalidValue => "a value is missing or invalid".toList
  | .conflict => "an argument cannot be used with another, or more than once".toList
  | .tooManyValues => "a flag takes no value".toList
  | .help => helpText
  | .version => versionText

/-- Help and version are answers; every other fault is an error of usage. -/
def refuse : ArgumentFault → Outcome
  | .help => { code := 0, output := helpText }
  | .version => { code := 0, output := versionText }
  | fault =>
    { code := 2
      errors := "error: ".toList ++ ArgumentFault.message fault ++ "\n\n".toList ++ usage }

variable {m : Type → Type} [Monad m]

/-- Loads the settings, and lists the languages or makes their documents. -/
def serve (host : Host m) (arguments : Arguments) : ExceptT Error m Text := do
  let settings ← Settings.load host arguments.config
  let production ← (Production.ofSettings (arguments.applyTo settings) : Except Error Production)
  if arguments.list then
    return production.generator.names.flatMap (· ++ ['\n'])
  discard (production.run host arguments.requested)
  return []

def run (host : Host m) (arguments : List Text) : m Outcome := do
  match Arguments.read arguments with
  | .error fault => return refuse fault
  | .ok arguments =>
    match ← (serve (host.upTo arguments.level) arguments).run with
    | .ok output => return { code := 0, output := output }
    | .error e => return { code := 1, errors := "Error: ".toList ++ e.message ++ ['\n'] }

end Program
end Highlight
