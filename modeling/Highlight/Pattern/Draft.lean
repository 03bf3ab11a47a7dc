import Highlight.Pattern.Escape

/-!
Patterns under construction. A draft is a list of parts; its capture groups are numbered in the
order in which they open, and each is marked with the slot that it fills, so that whoever writes a
draft asks for the group of a slot and need not count.
-/

namespace Highlight.Pattern

/-- A part of a draft. What is embedded comes with the number of groups in it. -/
inductive Draft (σ : Type)
  | raw (source : Text)
  | literal (text : Text)
  | embed (fragment : Text) (groups : Nat)
  | alternative
  | capture (slot : σ) (body : List (Draft σ))
  | group (body : List (Draft σ))

namespace Draft

variable {σ : Type}

mutual

def source : Draft σ → Text
  | raw text => text
  | literal text => escape text
  | embed fragment _ => "(?:".toList ++ fragment ++ [')']
  | alternative => ['|']
  | capture _ body => '(' :: (sources body ++ [')'])
  | group body => "(?:".toList ++ sources body ++ [')']

def sources : List (Draft σ) → Text
  | [] => []
  | part :: parts => source part ++ sources parts

end

mutual

def groups : Draft σ → Nat
  | raw _ | literal _ | alternative => 0
  | embed _ count => count
  | capture _ body => allGroups body + 1
  | group body => allGroups body

def allGroups : List (Draft σ) → Nat
  | [] => 0
  | part :: parts => groups part + allGroups parts

end

mutual

/-- The slots of a part with their groups, `before` groups standing ahead of it. A capture is listed
behind the captures inside of it. -/
def slots (before : Nat) : Draft σ → List (σ × Nat)
  | raw _ | literal _ | embed _ _ | alternative => []
  | capture slot body => allSlots (before + 1) body ++ [(slot, before + 1)]
  | group body => allSlots before body

def allSlots (before : Nat) : List (Draft σ) → List (σ × Nat)
  | [] => []
  | part :: parts => slots before part ++ allSlots (before + groups part) parts

end

end Draft
end Highlight.Pattern
