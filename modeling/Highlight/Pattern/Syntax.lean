import Highlight.Pattern.Property

/-!
The shape of a pattern. A pattern that can be read is a tree; on it are defined the nesting depth,
whether every part may be used with or without Unicode mode, and the highest capture group.
-/

namespace Highlight.Pattern

inductive Fault
  | unopenedGroup
  | unclosedGroup
  | unclosedClass
  | missingOperand
  | badCount
  | badFlags
  | lookAround
  | badGroupName
  | duplicateGroupName
  | badEscape
  | badRange
  | badBoundary
  | tooDeep
  | notAllowed
  | tooLarge
  deriving DecidableEq, Repr

inductive Flag
  | ignoreCase
  | multiLine
  | dotAll
  | swapGreed
  | unicode
  | crlf
  | verbose
  deriving DecidableEq, Repr

def Flag.ofLetter? : Char → Option Flag
  | 'i' => some .ignoreCase
  | 'm' => some .multiLine
  | 's' => some .dotAll
  | 'U' => some .swapGreed
  | 'u' => some .unicode
  | 'R' => some .crlf
  | 'x' => some .verbose
  | _ => none

/-- Flags that are switched on or off, each at most once. -/
abbrev Flags := List (Flag × Bool)

def Flags.setting (flag : Flag) (flags : Flags) : Option Bool :=
  (flags.find? (·.1 = flag)).map (·.2)

inductive Assertion
  | lineStart
  | lineEnd
  | textStart
  | textEnd
  | boundary
  | notBoundary
  | wordStart
  | wordEnd
  | wordStartHalf
  | wordEndHalf
  deriving DecidableEq, Repr

inductive Shorthand
  | digit
  | space
  | word
  deriving DecidableEq, Repr

def Shorthand.ofLetter? (c : Char) : Option Shorthand :=
  if c.toLower = 'd' then some .digit
  else if c.toLower = 's' then some .space
  else if c.toLower = 'w' then some .word
  else none

/-- The smallest parts of a pattern. A literal written `\xHH` may stand for a byte. -/
inductive Atom
  | literal (c : Char) (byte : Bool)
  | dot
  | assertion (kind : Assertion)
  | shorthand (negated : Bool) (kind : Shorthand)
  | property (negated : Bool) (name : Property)
  deriving DecidableEq, Repr

inductive SetOperator
  | intersection
  | difference
  | symmetricDifference
  deriving DecidableEq, Repr

inductive ClassSet
  | empty
  | atom (a : Atom)
  | range (first last : Atom)
  | ascii (negated : Bool) (members : CharSet)
  | bracketed (negated : Bool) (set : ClassSet)
  | union (items : List ClassSet)
  | binary (op : SetOperator) (left right : ClassSet)

inductive GroupKind
  | capture (index : Nat) (name : Option Text)
  | plain (flags : Flags)
  deriving DecidableEq, Repr

inductive Node
  | empty
  | flags (set : Flags)
  | atom (a : Atom)
  | bracketed (negated : Bool) (set : ClassSet)
  | repetition (body : Node) (greedy : Bool) (least : Nat) (most : Option Nat)
  | group (kind : GroupKind) (body : Node)
  | alternation (branches : List Node)
  | concat (parts : List Node)

def ClassSet.ofItems : List ClassSet → ClassSet
  | [] => .empty
  | [item] => item
  | items => .union items

def Node.ofParts : List Node → Node
  | [] => .empty
  | [part] => part
  | parts => .concat parts

def Node.ofBranches : List Node → Node
  | [branch] => branch
  | branches => .alternation branches

mutual

def ClassSet.depth : ClassSet → Nat
  | empty | atom _ | range _ _ | ascii _ _ => 0
  | bracketed _ set => set.depth + 1
  | union items => ClassSet.depths items + 1
  | binary _ left right => max left.depth right.depth + 1

def ClassSet.depths : List ClassSet → Nat
  | [] => 0
  | item :: items => max item.depth (depths items)

end

mutual

def Node.depth : Node → Nat
  | empty | flags _ | atom _ => 0
  | bracketed _ set => set.depth + 1
  | repetition body _ _ _ => body.depth + 1
  | group _ body => body.depth + 1
  | alternation branches => Node.depths branches + 1
  | concat parts => Node.depths parts + 1

def Node.depths : List Node → Nat
  | [] => 0
  | node :: nodes => max node.depth (depths nodes)

end

/-- Whether a part may be used outside of a class: without Unicode mode nothing may match a part of
a character that takes several bytes. -/
def Atom.isAllowed (unicode : Bool) : Atom → Bool
  | literal c byte => unicode || !byte || c.toNat < 128
  | dot => unicode
  | assertion _ => true
  | shorthand negated _ => unicode || !negated
  | property _ name => unicode && name.isKnown

def Atom.isAllowedInClass (unicode : Bool) : Atom → Bool
  | literal c _ => unicode || c.toNat < 128
  | a => a.isAllowed unicode

mutual

def ClassSet.isAllowed (unicode : Bool) : ClassSet → Bool
  | empty => true
  | atom a => a.isAllowedInClass unicode
  | range first last => first.isAllowedInClass unicode && last.isAllowedInClass unicode
  | ascii negated _ => unicode || !negated
  | bracketed negated set => (unicode || !negated) && set.isAllowed unicode
  | union items => ClassSet.areAllowed unicode items
  | binary _ left right => left.isAllowed unicode && right.isAllowed unicode

def ClassSet.areAllowed (unicode : Bool) : List ClassSet → Bool
  | [] => true
  | item :: items => item.isAllowed unicode && areAllowed unicode items

end

def GroupKind.flags : GroupKind → Flags
  | capture _ _ => []
  | plain flags => flags

mutual

/-- Unicode mode after a part that was entered in a given mode, if everything in it is allowed.
Flags set inside a group end with the group, and carry over from one branch to the next. -/
def Node.unicodeAfter? (unicode : Bool) : Node → Option Bool
  | empty => some unicode
  | flags set => some ((set.setting .unicode).getD unicode)
  | atom a => if a.isAllowed unicode then some unicode else none
  | bracketed negated set =>
    if (unicode || !negated) && set.isAllowed unicode then some unicode else none
  | repetition body _ _ _ => body.unicodeAfter? unicode
  | group kind body =>
    (body.unicodeAfter? ((kind.flags.setting .unicode).getD unicode)).map fun _ => unicode
  | alternation branches => Node.allUnicodeAfter? unicode branches
  | concat parts => Node.allUnicodeAfter? unicode parts

def Node.allUnicodeAfter? (unicode : Bool) : List Node → Option Bool
  | [] => some unicode
  | node :: nodes =>
    match node.unicodeAfter? unicode with
    | some after => allUnicodeAfter? after nodes
    | none => none

end

def GroupKind.index : GroupKind → Nat
  | capture index _ => index
  | plain _ => 0

mutual

/-- The highest capture group. What is repeated at most zero times has none. -/
def Node.captures : Node → Nat
  | empty | flags _ | atom _ | bracketed _ _ => 0
  | repetition body _ _ most => if most = some 0 then 0 else body.captures
  | group kind body => max kind.index body.captures
  | alternation branches => Node.allCaptures branches
  | concat parts => Node.allCaptures parts

def Node.allCaptures : List Node → Nat
  | [] => 0
  | node :: nodes => max node.captures (allCaptures nodes)

end

end Highlight.Pattern
