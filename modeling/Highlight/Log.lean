import Highlight.Terminal

/-!
Reports of what happens during a run, from errors down to details for debugging.
-/

namespace Highlight.Log

inductive Level
  | error
  | warn
  | info
  | debug
  deriving DecidableEq, Repr

/-- How much a level lets through; each lets through what the one before it does. -/
def Level.rank : Level → Nat
  | error => 0
  | warn => 1
  | info => 2
  | debug => 3

def Level.name : Level → Text
  | error => "ERROR".toList
  | warn => "WARN".toList
  | info => "INFO".toList
  | debug => "DEBUG".toList

inductive Origin
  | driver
  | generator
  | synthesis
  | template
  deriving DecidableEq, Repr

def Origin.name : Origin → Text
  | driver => "sbsyntax::driver".toList
  | generator => "sbsyntax::syntax::generator".toList
  | synthesis => "sbsyntax::syntax::synth".toList
  | template => "sbsyntax::syntax::template".toList

structure Entry where
  level : Level
  origin : Origin
  text : Text
  deriving DecidableEq, Repr

def Entry.isShown (threshold : Level) (entry : Entry) : Bool :=
  entry.level.rank ≤ threshold.rank

def indent (text : Text) : Text :=
  text.flatMap fun c => if c = '\n' then "\n    ".toList else [c]

/-- The line of an entry, as a file shows it: its level in a column of five, its origin, its text.
-/
def Entry.line (entry : Entry) : Text :=
  Terminal.shown <| '[' ::
    (entry.level.name ++ List.replicate (5 - entry.level.name.length) ' ' ++
      ' ' :: entry.origin.name ++ "] ".toList ++ indent entry.text ++ ['\n'])

end Highlight.Log
