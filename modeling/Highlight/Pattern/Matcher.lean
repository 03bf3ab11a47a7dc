import Highlight.Pattern.Syntax
import Highlight.Unicode.Fold

/-!
What a pattern asks of a text once flags, escapes and classes are worked out. The constructors with
names of operations keep matchers simple: neighbouring texts are one text, alternatives of single
characters are one set, and what repeats nothing is left out.
-/

namespace Highlight.Pattern

inductive Place
  | start
  | finish
  | lineStart (crlf : Bool)
  | lineEnd (crlf : Bool)
  | word (kind : Assertion) (unicode : Bool)
  deriving DecidableEq, Repr

/-- Sets of `ascii` were written without Unicode mode. -/
inductive Matcher
  | empty
  | text (t : Text)
  | members (s : CharSet) (ascii : Bool)
  | place (p : Place)
  | repetition (greedy : Bool) (least : Nat) (most : Option Nat) (body : Matcher)
  | capture (index : Nat) (body : Matcher)
  | concat (parts : List Matcher)
  | alternation (branches : List Matcher)

namespace Matcher

mutual

def same : Matcher → Matcher → Bool
  | empty, empty => true
  | text t, text u => t = u
  | members s a, members t b => s = t && a = b
  | place p, place q => p = q
  | repetition g l m x, repetition g' l' m' y => g = g' && l = l' && m = m' && same x y
  | capture i x, capture j y => i = j && same x y
  | concat xs, concat ys => allSame xs ys
  | alternation xs, alternation ys => allSame xs ys
  | _, _ => false

def allSame : List Matcher → List Matcher → Bool
  | [], [] => true
  | x :: xs, y :: ys => same x y && allSame xs ys
  | _, _ => false

end

mutual

def weight : Matcher → Nat
  | empty | text _ | members _ _ | place _ => 1
  | repetition _ _ _ body => body.weight + 1
  | capture _ body => body.weight + 1
  | concat parts => weights parts + 1
  | alternation branches => weights branches + 1

def weights : List Matcher → Nat
  | [] => 0
  | m :: ms => m.weight + weights ms

end

mutual

def isVacant : Matcher → Bool
  | empty | place _ => true
  | text _ | members _ _ => false
  | repetition _ _ _ body => body.isVacant
  | capture _ body => body.isVacant
  | concat parts => areVacant parts
  | alternation branches => areVacant branches

def areVacant : List Matcher → Bool
  | [] => true
  | m :: ms => m.isVacant && areVacant ms

end

mutual

/-- Whether every text that matches has characters; nothing is known where nothing matches. -/
def consumes? : Matcher → Option Bool
  | empty | place _ => some false
  | text _ => some true
  | members s _ => if s.isEmpty then none else some true
  | repetition _ least _ body => body.consumes?.map (· && 0 < least)
  | capture _ body => body.consumes?
  | concat parts => someConsumes? parts
  | alternation branches => allConsume? branches

def someConsumes? : List Matcher → Option Bool
  | [] => some false
  | m :: ms =>
    match m.consumes?, someConsumes? ms with
    | some a, some b => some (a || b)
    | _, _ => none

def allConsume? : List Matcher → Option Bool
  | [] => some true
  | m :: ms =>
    match m.consumes?, allConsume? ms with
    | some a, some b => some (a && b)
    | _, _ => none

end

mutual

def beginsAt (p : Place) : Matcher → Bool
  | empty | text _ | members _ _ => false
  | place q => p = q
  | repetition _ least _ body => 0 < least && body.beginsAt p
  | capture _ body => body.beginsAt p
  | concat parts => someBeginsAt p parts
  | alternation branches => allBeginAt p branches

/-- Of parts in a row, those count that stand before the first characters. -/
def someBeginsAt (p : Place) : List Matcher → Bool
  | [] => false
  | m :: ms => m.beginsAt p || (m.isVacant && someBeginsAt p ms)

def allBeginAt (p : Place) : List Matcher → Bool
  | [] => true
  | m :: ms => m.beginsAt p && allBeginAt p ms

end

mutual

def endsAt (p : Place) : Matcher → Bool
  | empty | text _ | members _ _ => false
  | place q => p = q
  | repetition _ least _ body => 0 < least && body.endsAt p
  | capture _ body => body.endsAt p
  | concat parts => someEndsAt p parts
  | alternation branches => allEndAt p branches

def someEndsAt (p : Place) : List Matcher → Bool
  | [] => false
  | m :: ms => someEndsAt p ms || (m.endsAt p && areVacant ms)

def allEndAt (p : Place) : List Matcher → Bool
  | [] => true
  | m :: ms => m.endsAt p && allEndAt p ms

end

/-- One of a set of characters. A set of one is a text. -/
def ofSet (ascii : Bool) (s : CharSet) : Matcher :=
  match s.single? with
  | some n => .text [Char.ofNat n]
  | none => if s.isEmpty then .members s true else .members s ascii

def parts : Matcher → List Matcher
  | empty => []
  | concat parts => parts
  | m => [m]

def branches : Matcher → List Matcher
  | alternation branches => branches
  | m => [m]

/-- Puts texts that follow each other together. -/
def joinTexts : List Matcher → List Matcher
  | [] => []
  | m :: ms =>
    match m, joinTexts ms with
    | text t, text u :: ms => text (t ++ u) :: ms
    | m, ms => m :: ms

def ofParts (ms : List Matcher) : Matcher :=
  match joinTexts (ms.flatMap parts) with
  | [] => empty
  | [m] => m
  | ms => concat ms

def charSet? : Matcher → Option CharSet
  | text [c] => some (.singleton c)
  | members s _ => some s
  | _ => none

def commonLength : List Matcher → List Matcher → Nat
  | x :: xs, y :: ys => if same x y then commonLength xs ys + 1 else 0
  | _, _ => 0

def sharedLength : List Matcher → Nat
  | concat xs :: rest =>
    rest.foldl (fun n m =>
      match m with
      | concat ys => min n (commonLength xs ys)
      | _ => 0) xs.length
  | _ => 0

/-- One of several matchers. What all begin with is taken out in front; each time less is left, so
that `fuel` need not exceed the weight. -/
def ofBranchesWithin : (fuel : Nat) → List Matcher → Matcher
  | 0, ms => alternation ms
  | fuel + 1, ms =>
    match ms.flatMap branches with
    | [] => members .empty true
    | [m] => m
    | ms =>
      match ms.mapM charSet? with
      | some sets => ofSet false (.unionAll sets)
      | none =>
        match sharedLength ms with
        | 0 => alternation ms
        | n =>
          let front := (ms.head?.map fun m => m.parts.take n).getD []
          ofParts (front ++ [ofBranchesWithin fuel (ms.map fun m => ofParts (m.parts.drop n))])

def ofBranches (ms : List Matcher) : Matcher := ofBranchesWithin (weights ms + 1) ms

/-- A repetition. What matches nothing but the empty text is not repeated. -/
def repeated (greedy : Bool) (least : Nat) (most : Option Nat) (body : Matcher) : Matcher :=
  let (least, most) :=
    if body.isVacant then (min least 1, some ((most.map (min 1)).getD 1)) else (least, most)
  if least = 0 && most = some 0 then empty
  else if least = 1 && most = some 1 then body
  else repetition greedy least most body

end Matcher
end Highlight.Pattern
