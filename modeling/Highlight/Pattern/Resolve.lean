import Highlight.Pattern.Matcher

/-!
From the shape of a pattern to its matcher. Flags change what the parts behind them mean; at the end
of a group those from before it hold again.
-/

namespace Highlight.Pattern

open Unicode

structure Modes where
  ignoreCase : Bool := false
  multiLine : Bool := false
  dotAll : Bool := false
  swapGreed : Bool := false
  unicode : Bool := true
  crlf : Bool := false
  deriving DecidableEq, Repr

namespace Modes

def set (modes : Modes) : Flag × Bool → Modes
  | (.ignoreCase, on) => { modes with ignoreCase := on }
  | (.multiLine, on) => { modes with multiLine := on }
  | (.dotAll, on) => { modes with dotAll := on }
  | (.swapGreed, on) => { modes with swapGreed := on }
  | (.unicode, on) => { modes with unicode := on }
  | (.crlf, on) => { modes with crlf := on }
  | (.verbose, _) => modes

def apply (modes : Modes) (flags : Flags) : Modes := flags.foldl set modes

def place (modes : Modes) : Assertion → Place
  | .textStart => .start
  | .textEnd => .finish
  | .lineStart => if modes.multiLine then .lineStart modes.crlf else .start
  | .lineEnd => if modes.multiLine then .lineEnd modes.crlf else .finish
  | kind => .word kind modes.unicode

/-- A set with the members' counterparts in the other case, without Unicode mode only for ASCII
letters. -/
def foldCase (modes : Modes) (s : CharSet) : CharSet :=
  if !modes.ignoreCase then s
  else if modes.unicode then Unicode.foldCase s
  else
    let lower := s.intersection (.range 97 122)
    let upper := s.intersection (.range 65 90)
    .unionAll [s, ⟨lower.ranges.map fun range => (range.1 - 32, range.2 - 32)⟩,
      ⟨upper.ranges.map fun range => (range.1 + 32, range.2 + 32)⟩]

end Modes

def Shorthand.members (unicode : Bool) : Shorthand → CharSet
  | digit => if unicode then categories "nd" else codePoints "30-39"
  | space => if unicode then listed "wspace" else codePoints "9-D 20"
  | word => if unicode then wordCharacters else codePoints "30-39 41-5A 5F 61-7A"

/-- The characters that a full stop stands for. -/
def dotMembers (modes : Modes) : CharSet :=
  if modes.dotAll then .full
  else if modes.crlf then (codePoints "A D").complement
  else (codePoints "A").complement

def Atom.members (modes : Modes) : Atom → CharSet
  | literal c _ => .singleton c
  | dot => dotMembers modes
  | assertion _ => .empty
  | shorthand negated kind => (kind.members modes.unicode).negateIf negated
  | property negated name => (modes.foldCase (name.set?.getD .empty)).negateIf negated

mutual

/-- The characters of a set as it is written. Case is ignored before anything is negated or
compared. -/
def ClassSet.members (modes : Modes) : ClassSet → CharSet
  | empty => .empty
  | atom a => a.members modes
  | range (.literal first _) (.literal last _) => .range first.toNat last.toNat
  | range _ _ => .empty
  | ascii negated s => (modes.foldCase s).negateIf negated
  | bracketed negated set => (modes.foldCase (set.members modes)).negateIf negated
  | union items => .unionAll (ClassSet.allMembers modes items)
  | binary op left right =>
    let left := modes.foldCase (left.members modes)
    let right := modes.foldCase (right.members modes)
    match op with
    | .intersection => left.intersection right
    | .difference => left.difference right
    | .symmetricDifference => left.symmetricDifference right

def ClassSet.allMembers (modes : Modes) : List ClassSet → List CharSet
  | [] => []
  | item :: items => item.members modes :: allMembers modes items

end

def Atom.matcher (modes : Modes) : Atom → Matcher
  | literal c _ =>
    if modes.ignoreCase && (if modes.unicode then hasCase c else c.isAlpha) then
      .ofSet (!modes.unicode) (modes.foldCase (.singleton c))
    else .text [c]
  | assertion kind => .place (modes.place kind)
  | a => .ofSet (!modes.unicode) (a.members modes)

mutual

/-- The matcher of a part, and the flags that hold behind it. -/
def Node.matcher (modes : Modes) : Node → Matcher × Modes
  | empty => (.empty, modes)
  | flags set => (.empty, modes.apply set)
  | atom a => (a.matcher modes, modes)
  | bracketed negated set =>
    (.ofSet (!modes.unicode) ((modes.foldCase (set.members modes)).negateIf negated), modes)
  | repetition body greedy least most =>
    let (m, modes) := body.matcher modes
    (.repeated (greedy != modes.swapGreed) least most m, modes)
  | group (.capture index _) body => (.capture index (body.matcher modes).1, modes)
  | group (.plain own) body => ((body.matcher (modes.apply own)).1, modes)
  | alternation branches =>
    let (ms, modes) := Node.matchers modes branches
    (.ofBranches ms, modes)
  | concat parts =>
    let (ms, modes) := Node.matchers modes parts
    (.ofParts ms, modes)

def Node.matchers (modes : Modes) : List Node → List Matcher × Modes
  | [] => ([], modes)
  | node :: nodes =>
    let (m, modes) := node.matcher modes
    let (ms, modes) := matchers modes nodes
    (m :: ms, modes)

end

end Highlight.Pattern
