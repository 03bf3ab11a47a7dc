import Highlight.Log
import Highlight.Settings

/-!
The command line. Arguments are taken up from left to right; an option without a value waits for the
next plain argument, and is checked when something else that is known follows. `applyTo` puts what
the arguments say above the settings.
-/

namespace Highlight

inductive Setting
  | config
  | templates
  | syntaxes
  | configurations
  | strict
  | lenient
  deriving DecidableEq, Repr

inductive Flag
  | list
  | verbose
  | quiet
  | help
  | version
  deriving DecidableEq, Repr

inductive Switch
  | setting (s : Setting)
  | flag (f : Flag)
  deriving DecidableEq, Repr

inductive ArgumentFault
  | unknown
  | invalidValue
  | conflict
  | tooManyValues
  | help
  | version
  deriving DecidableEq, Repr

/-- Long names; an option has to be spelled out. -/
def Switch.ofName? (name : Text) : Option Switch :=
  ([("config".toList, .setting .config), ("templates".toList, .setting .templates),
    ("syntaxes".toList, .setting .syntaxes), ("languages-dir".toList, .setting .configurations),
    ("strict".toList, .setting .strict), ("lenient".toList, .setting .lenient),
    ("list".toList, .flag .list), ("verbose".toList, .flag .verbose),
    ("quiet".toList, .flag .quiet), ("help".toList, .flag .help),
    ("version".toList, .flag .version)].find? (·.1 = name)).map (·.2)

def Switch.ofLetter? : Char → Option Switch
  | 'c' => some (.setting .config)
  | 't' => some (.setting .templates)
  | 'o' => some (.setting .syntaxes)
  | 'v' => some (.flag .verbose)
  | 'q' => some (.flag .quiet)
  | 'h' => some (.flag .help)
  | 'V' => some (.flag .version)
  | _ => none

structure Arguments where
  requested : List Text := []
  config : Option Text := none
  templates : Option Text := none
  syntaxes : Option Text := none
  configurations : Option Text := none
  strict : List PairContext := []
  lenient : List PairContext := []
  list : Bool := false
  verbosity : Nat := 0
  quiet : Bool := false
  deriving DecidableEq, Repr

namespace Arguments

def once (earlier : Bool) (next : Arguments) : Except ArgumentFault Arguments :=
  if earlier then .error .conflict else .ok next

def context (name : Text) : Except ArgumentFault PairContext :=
  match PairContext.ofName? name with
  | some context => .ok context
  | none => .error .invalidValue

def store (a : Arguments) (setting : Setting) (value : Text) : Except ArgumentFault Arguments :=
  match setting with
  | .config => once a.config.isSome { a with config := some value }
  | .templates => once a.templates.isSome { a with templates := some value }
  | .syntaxes => once a.syntaxes.isSome { a with syntaxes := some value }
  | .configurations => once a.configurations.isSome { a with configurations := some value }
  | .strict => (context value).map fun c => { a with strict := a.strict ++ [c] }
  | .lenient => (context value).map fun c => { a with lenient := a.lenient ++ [c] }

def raise (a : Arguments) : Flag → Except ArgumentFault Arguments
  | .list => once a.list { a with list := true }
  | .verbose => .ok { a with verbosity := a.verbosity + 1 }
  | .quiet => once a.quiet { a with quiet := true }
  | .help => .error .help
  | .version => .error .version

/-- The arguments taken up so far, and the option that has not been checked yet. -/
structure Progress where
  found : Arguments := {}
  pending : Option (Setting × Option Text) := none
  plainOnly : Bool := false

namespace Progress

/-- Checks the waiting option, which must have got a value. -/
def settle (p : Progress) : Except ArgumentFault Progress :=
  match p.pending with
  | none => .ok p
  | some (_, none) => .error .invalidValue
  | some (setting, some value) =>
    (p.found.store setting value).map fun found => { p with found := found, pending := none }

def takeFlag (p : Progress) (flag : Flag) : Except ArgumentFault Progress := do
  let p ← p.settle
  return { p with found := ← p.found.raise flag }

def takeSetting (p : Progress) (setting : Setting) :
    (attached : Option Text) → Except ArgumentFault Progress
  | some value => do
    let p ← p.settle
    return { p with found := ← p.found.store setting value }
  | none => do
    let p ← p.settle
    return { p with pending := some (setting, none) }

def takePlain (p : Progress) (argument : Text) : Except ArgumentFault Progress := do
  let p ← p.settle
  return { p with found := { p.found with requested := p.found.requested ++ [argument] } }

def takeLong (p : Progress) (name : Text) (attached : Option Text) :
    Except ArgumentFault Progress :=
  match Switch.ofName? name with
  | none => .error .unknown
  | some (.setting setting) => p.takeSetting setting attached
  | some (.flag flag) => if attached.isSome then .error .tooManyValues else p.takeFlag flag

/-- Letters behind one hyphen. What follows the letter of an option is its value, in which a leading
equals sign does not count. -/
def takeLetters (p : Progress) : Text → Except ArgumentFault Progress
  | [] => .ok p
  | c :: letters =>
    match Switch.ofLetter? c with
    | none => .error .unknown
    | some (.flag flag) => do takeLetters (← p.takeFlag flag) letters
    | some (.setting setting) =>
      match letters with
      | [] => p.takeSetting setting none
      | '=' :: value => p.takeSetting setting (some value)
      | value => p.takeSetting setting (some value)

def takeWord (p : Progress) (argument : Text) : Except ArgumentFault Progress :=
  match p.pending with
  | some (setting, none) => .ok { p with pending := some (setting, some argument) }
  | _ => p.takePlain argument

def take (p : Progress) (argument : Text) : Except ArgumentFault Progress :=
  if p.plainOnly then p.takePlain argument
  else
    match argument with
    | ['-', '-'] => .ok { p with plainOnly := true }
    | '-' :: '-' :: option =>
      p.takeLong (option.takeWhile (· ≠ '='))
        (if '=' ∈ option then some ((option.dropWhile (· ≠ '=')).tail) else none)
    | '-' :: c :: letters => p.takeLetters (c :: letters)
    | argument => p.takeWord argument

end Progress

/-- Reads the command line. Quiet and verbose contradict each other. -/
def read (arguments : List Text) : Except ArgumentFault Arguments := do
  let p ← (← arguments.foldlM Progress.take {}).settle
  if p.found.quiet && p.found.verbosity ≠ 0 then .error .conflict else return p.found

def level (a : Arguments) : Log.Level :=
  if a.quiet then .error
  else
    match a.verbosity with
    | 0 => .warn
    | 1 => .info
    | _ => .debug

/-- Settings with what the arguments say above them; where both words name a context, lenient wins.
-/
def applyTo (a : Arguments) (settings : Settings) : Settings :=
  { settings with
    templates := a.templates.getD settings.templates
    syntaxes := a.syntaxes.getD settings.syntaxes
    configurations := a.configurations.getD settings.configurations
    validation := a.lenient.foldl (·.set · .lenient)
      (a.strict.foldl (·.set · .strict) settings.validation) }

end Arguments
end Highlight
