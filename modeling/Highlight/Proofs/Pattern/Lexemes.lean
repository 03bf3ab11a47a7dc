import Highlight.Pattern.Class
import Highlight.Proofs.Outcome
import Highlight.Proofs.Pattern.HeaderLookahead

/-!
The lexemes of a pattern: where escapes, bracketed classes, comments and the openings of groups end,
whatever they mean and whether or not the pattern can be read. All that has to be known on the way
is whether verbose mode is on. A scan of a text tells at which places capture groups open, and
leaves a text whose last lexeme has no end.
-/

namespace Highlight.Pattern

/-- How many characters follow a letter behind a backslash, unless a code in braces does: the digits
of a code point, or the letter of a property. -/
def codeLength? (c : Char) : Option Nat :=
  if c = 'x' then some 2
  else if c = 'u' then some 4
  else if c = 'U' then some 8
  else if c = 'p' || c = 'P' then some 1
  else none

def pastCode? (verbose : Bool) (count : Nat) (text : Text) : Option Text :=
  match skip verbose text with
  | [] => none
  | c :: rest =>
    if c = '\x7b' then (braced? verbose rest).map Prod.snd
    else (takeFixed? verbose count (c :: rest)).map Prod.snd

def pastEscape? (verbose : Bool) : Text → Option Text
  | [] => none
  | c :: text =>
    match codeLength? c with
    | some count => pastCode? verbose count text
    | none => some text

theorem length_of_pastCode? {verbose : Bool} {count : Nat} {text rest : Text}
    (h : pastCode? verbose count text = some rest) : rest.length ≤ text.length := by
  have hskip := length_skip_le verbose text
  unfold pastCode? at h
  split at h
  · cases h
  · next c inner hinner =>
    rw [hinner] at hskip
    split at h
    · obtain ⟨⟨code, after⟩, hbraced, rfl⟩ := Option.map_eq_some_iff.1 h
      have hlt := length_of_braced? hbraced
      rw [List.length_cons] at hskip
      dsimp only
      omega
    · obtain ⟨⟨code, after⟩, htake, rfl⟩ := Option.map_eq_some_iff.1 h
      exact Nat.le_trans (length_of_takeFixed? htake) hskip

theorem length_of_pastEscape? {verbose : Bool} {text rest : Text}
    (h : pastEscape? verbose text = some rest) : rest.length < text.length := by
  cases text with
  | nil => cases h
  | cons c text =>
      refine Nat.lt_succ_of_le ?_
      simp only [pastEscape?] at h
      split at h
      · exact length_of_pastCode? h
      · cases h
        exact Nat.le_refl _

def pastClassAtom? (verbose : Bool) : Text → Option Text
  | [] => none
  | c :: text => if c = '\\' then pastEscape? verbose text else some text

def pastClassItem? (verbose : Bool) (text : Text) : Option Text :=
  match pastClassAtom? verbose text with
  | none => none
  | some rest =>
    match skip verbose rest with
    | [] => none
    | c :: tail =>
      if c ≠ '-' || peek? verbose tail = some ']' || peek? verbose tail = some '-' then
        some (c :: tail)
      else pastClassAtom? verbose (skip verbose tail)

def pastBracket? (verbose : Bool) (text : Text) : Option Text :=
  (openClass verbose text).toOption.map fun opened => opened.2.2

/-- One step inside of a class: how many brackets are open behind it, and what follows it. -/
def pastClassPart? (verbose : Bool) (depth : Nat) : Text → Option (Nat × Text)
  | [] => none
  | c :: text =>
    if c = '[' then (pastBracket? verbose text).map fun rest => (depth + 1, rest)
    else if c = ']' then some (depth - 1, text)
    else
      match setOperator? (c :: text) with
      | some (_, rest) => some (depth, rest)
      | none => (pastClassItem? verbose (c :: text)).map fun rest => (depth, rest)

theorem pastBracket?_eq_some_iff {verbose : Bool} {text rest : Text} :
    pastBracket? verbose text = some rest ↔
      ∃ negated items, openClass verbose text = .ok (negated, items, rest) := by
  rw [pastBracket?]
  cases openClass verbose text with
  | error fault => exact ⟨nofun, nofun⟩
  | ok opened =>
      obtain ⟨negated, items, after⟩ := opened
      constructor
      · intro h
        cases h
        exact ⟨negated, items, rfl⟩
      · rintro ⟨_, _, ⟨⟩⟩
        rfl

theorem length_of_pastClassAtom? {verbose : Bool} {text rest : Text}
    (h : pastClassAtom? verbose text = some rest) : rest.length < text.length := by
  cases text with
  | nil => cases h
  | cons c text =>
      simp only [pastClassAtom?] at h
      split at h
      · exact Nat.lt_succ_of_lt (length_of_pastEscape? h)
      · cases h
        exact Nat.lt_succ_self _

theorem length_of_pastClassItem? {verbose : Bool} {text rest : Text}
    (h : pastClassItem? verbose text = some rest) : rest.length < text.length := by
  unfold pastClassItem? at h
  split at h
  · cases h
  · next first hfirst =>
    have hatom := length_of_pastClassAtom? hfirst
    have hskip := length_skip_le verbose first
    split at h
    · cases h
    · next c tail htail =>
      rw [htail, List.length_cons] at hskip
      split at h
      · cases h
        rw [List.length_cons]
        omega
      · have hlast := length_of_pastClassAtom? h
        have hle := length_skip_le verbose tail
        omega

theorem length_of_pastBracket? {verbose : Bool} {text rest : Text}
    (h : pastBracket? verbose text = some rest) : rest.length ≤ text.length := by
  obtain ⟨negated, items, hopen⟩ := pastBracket?_eq_some_iff.1 h
  exact length_of_openClass hopen

theorem length_of_pastClassPart? {verbose : Bool} {depth next : Nat} {text rest : Text}
    (h : pastClassPart? verbose depth text = some (next, rest)) : rest.length < text.length := by
  cases text with
  | nil => cases h
  | cons c text =>
      simp only [pastClassPart?] at h
      split at h
      · obtain ⟨after, hafter, heq⟩ := Option.map_eq_some_iff.1 h
        cases heq
        exact Nat.lt_succ_of_le (length_of_pastBracket? hafter)
      split at h
      · cases h
        exact Nat.lt_succ_self _
      split at h
      · next hop =>
        cases h
        exact length_of_setOperator? hop
      · obtain ⟨after, hitem, heq⟩ := Option.map_eq_some_iff.1 h
        cases heq
        exact length_of_pastClassItem? hitem

def pastBrackets? (verbose : Bool) (depth : Nat) (text : Text) : Option Text :=
  match _h : pastClassPart? verbose depth (skip verbose text) with
  | none => none
  | some (0, rest) => some rest
  | some (depth + 1, rest) => pastBrackets? verbose (depth + 1) rest
termination_by text.length
decreasing_by
  exact Nat.lt_of_lt_of_le (length_of_pastClassPart? (by assumption)) (length_skip_le verbose text)

theorem pastBrackets?_of_closed {verbose : Bool} {depth : Nat} {text rest : Text}
    (h : pastClassPart? verbose depth (skip verbose text) = some (0, rest)) :
    pastBrackets? verbose depth text = some rest := by
  rw [pastBrackets?]
  split
  · next heq => cases h.symm.trans heq
  · next heq =>
      cases h.symm.trans heq
      rfl
  · next heq => cases h.symm.trans heq

theorem pastBrackets?_of_open {verbose : Bool} {depth next : Nat} {text rest : Text}
    (h : pastClassPart? verbose depth (skip verbose text) = some (next + 1, rest)) :
    pastBrackets? verbose depth text = pastBrackets? verbose (next + 1) rest := by
  rw [pastBrackets?]
  split
  · next heq => cases h.symm.trans heq
  · next heq => cases h.symm.trans heq
  · next heq =>
      cases h.symm.trans heq
      rfl

def pastClass? (verbose : Bool) (text : Text) : Option Text :=
  (pastBracket? verbose text).bind (pastBrackets? verbose 1)

theorem length_of_pastBrackets? {verbose : Bool} {depth : Nat} {text rest : Text}
    (h : pastBrackets? verbose depth text = some rest) : rest.length < text.length := by
  fun_induction pastBrackets? verbose depth text with
  | case1 => cases h
  | case2 depth text rest' hpart =>
      cases h
      exact Nat.lt_of_lt_of_le (length_of_pastClassPart? hpart) (length_skip_le verbose text)
  | case3 depth text depth' rest' hpart ih =>
      have hlt := length_of_pastClassPart? hpart
      have hle := length_skip_le verbose text
      have hrest := ih h
      omega

theorem length_of_pastClass? {verbose : Bool} {text rest : Text}
    (h : pastClass? verbose text = some rest) : rest.length < text.length := by
  obtain ⟨inner, hopen, hclose⟩ := Option.bind_eq_some_iff.1 h
  exact Nat.lt_of_lt_of_le (length_of_pastBrackets? hclose) (length_of_pastBracket? hopen)

/-- What an opening parenthesis begins: a capture group, another group with what it says of verbose
mode, or no group but a setting for the rest of the group around it. -/
inductive Opening
  | capture
  | group (setting : Option Bool)
  | setting (setting : Option Bool)
  deriving DecidableEq

def Opening.captures : Opening → Bool
  | capture => true
  | group _ | setting _ => false

def pastFlags? : (on : Bool) → (seen : Option Bool) → Text → Option (Opening × Text)
  | _, _, [] => none
  | on, seen, c :: text =>
    if c = ':' then some (.group seen, text)
    else if c = ')' then some (.setting seen, text)
    else if c = '-' then pastFlags? false seen text
    else if c = 'x' then pastFlags? on (some on) text
    else pastFlags? on seen text

/-- What follows an opening parenthesis, up to the body of the group. Only a group that is not named
and has no question mark, or one that is named, captures. -/
def opening? (verbose : Bool) (text : Text) : Option (Opening × Text) :=
  match skip verbose text with
  | '?' :: inner =>
    if isLookAround ('?' :: inner) then some (.group none, inner)
    else
      match afterName? ('?' :: inner) with
      | some name => (cutAt? ['>'] name).map fun (_, rest) => (.capture, rest)
      | none => pastFlags? true none inner
  | _ => some (.capture, text)

theorem length_of_pastFlags? {on : Bool} {seen : Option Bool} {text rest : Text} {opening : Opening}
    (h : pastFlags? on seen text = some (opening, rest)) : rest.length ≤ text.length := by
  fun_induction pastFlags? on seen text with
  | case1 => cases h
  | case2 | case3 =>
      cases h
      exact Nat.le_succ _
  | case4 on seen text _ _ ih | case5 on seen text _ _ _ ih | case6 on seen c text _ _ _ _ ih =>
      exact Nat.le_succ_of_le (ih h)

theorem length_of_afterName? {text rest : Text} (h : afterName? text = some rest) :
    rest.length ≤ text.length := by
  rcases Option.or_eq_some_iff.1 h with hname | ⟨-, hname⟩ <;>
    rw [Text.after?_eq_some_iff.1 hname, List.length_append] <;> omega

theorem length_of_opening? {verbose : Bool} {text rest : Text} {opening : Opening}
    (h : opening? verbose text = some (opening, rest)) : rest.length ≤ text.length := by
  have hskip := length_skip_le verbose text
  unfold opening? at h
  split at h
  · next inner hinner =>
    rw [hinner, List.length_cons] at hskip
    split at h
    · cases h
      omega
    · split at h
      · next name hname =>
        obtain ⟨⟨front, after⟩, hcut, heq⟩ := Option.map_eq_some_iff.1 h
        cases heq
        have hle := length_of_cutAt? hcut
        have hname := length_of_afterName? hname
        rw [List.length_cons] at hname
        omega
      · have hle := length_of_pastFlags? h
        omega
  · cases h
    exact Nat.le_refl _

theorem opening?_of_ne {verbose : Bool} {text : Text} (h : (skip verbose text).head? ≠ some '?') :
    opening? verbose text = some (.capture, text) := by
  rw [opening?]
  split
  · next heq => exact absurd (congrArg List.head? heq) h
  · rfl

def pastComment? : Text → Option Text
  | [] => none
  | c :: text => if c = '\n' then some text else pastComment? text

theorem length_of_pastComment? {text rest : Text} (h : pastComment? text = some rest) :
    rest.length ≤ text.length := by
  fun_induction pastComment? text with
  | case1 => cases h
  | case2 text =>
      cases h
      exact Nat.le_succ _
  | case3 c text _ ih => exact Nat.le_succ_of_le (ih h)

/-- The characters with which a lexeme of more than one character may begin, and the one that closes
a group. -/
def isSpecial (c : Char) : Bool := c ∈ "\\[()#".toList

theorem isSpecial_of_isBlank {c : Char} (hc : isBlank c = true) : isSpecial c = false := by
  have hspecial : ∀ d ∈ "\\[()#".toList, isBlank d = false := forall_mem_of_all (by decide)
  refine Bool.eq_false_iff.2 fun h => ?_
  cases (hspecial c (of_decide_eq_true h)).symm.trans hc

/-- Whether verbose mode is on, and whether it was on around the groups that are open. Around all of
these it was off. -/
structure Mode where
  verbose : Bool
  outer : List Bool
  deriving DecidableEq

namespace Mode

def initial : Mode := ⟨false, []⟩

/-- Remembers a setting, unless it would be no news: it is off around all groups anyway. -/
def remember (verbose : Bool) : List Bool → List Bool
  | [] => if verbose then [true] else []
  | outer => verbose :: outer

def enter (mode : Mode) (verbose : Bool) : Mode := ⟨verbose, remember mode.verbose mode.outer⟩

def leave (mode : Mode) : Mode := ⟨mode.outer.headD false, mode.outer.tail⟩

def take (mode : Mode) : Opening → Mode
  | .capture => mode.enter mode.verbose
  | .group setting => mode.enter (setting.getD mode.verbose)
  | .setting setting => { mode with verbose := setting.getD mode.verbose }

/-- The lexeme at the start of a text: whether it opens a capture group, the mode behind it, and
what follows it. -/
def lexeme? (mode : Mode) : Text → Option (Bool × Mode × Text)
  | [] => none
  | c :: text =>
    if c = '\\' then (pastEscape? mode.verbose text).map fun rest => (false, mode, rest)
    else if c = '[' then (pastClass? mode.verbose text).map fun rest => (false, mode, rest)
    else if c = '(' then
      (opening? mode.verbose text).map fun (opening, rest) =>
        (opening.captures, mode.take opening, rest)
    else if c = ')' then some (false, mode.leave, text)
    else if mode.verbose && c = '#' then (pastComment? text).map fun rest => (false, mode, rest)
    else some (false, mode, text)

inductive Lexeme (mode : Mode) : Text → Bool → Mode → Text → Prop
  | escape {text rest : Text} (h : pastEscape? mode.verbose text = some rest) :
      Lexeme mode ('\\' :: text) false mode rest
  | bracketed {text rest : Text} (h : pastClass? mode.verbose text = some rest) :
      Lexeme mode ('[' :: text) false mode rest
  | opens {text rest : Text} {opening : Opening}
      (h : opening? mode.verbose text = some (opening, rest)) :
      Lexeme mode ('(' :: text) opening.captures (mode.take opening) rest
  | closes {rest : Text} : Lexeme mode (')' :: rest) false mode.leave rest
  | comment {text rest : Text} (hverbose : mode.verbose = true)
      (h : pastComment? text = some rest) : Lexeme mode ('#' :: text) false mode rest
  | plain {c : Char} {rest : Text} (hc : isSpecial c = true → c = '#' ∧ mode.verbose = false) :
      Lexeme mode (c :: rest) false mode rest

variable {mode next : Mode} {text rest : Text} {captures : Bool}

theorem lexeme_of_lexeme? (h : mode.lexeme? text = some (captures, next, rest)) :
    Lexeme mode text captures next rest := by
  cases text with
  | nil => cases h
  | cons c text =>
      simp only [lexeme?] at h
      split at h
      · next hc =>
          subst hc
          obtain ⟨after, hafter, heq⟩ := Option.map_eq_some_iff.1 h
          cases heq
          exact .escape hafter
      next hslash =>
      split at h
      · next hc =>
          subst hc
          obtain ⟨after, hafter, heq⟩ := Option.map_eq_some_iff.1 h
          cases heq
          exact .bracketed hafter
      next hbracket =>
      split at h
      · next hc =>
          subst hc
          obtain ⟨⟨opening, after⟩, hafter, heq⟩ := Option.map_eq_some_iff.1 h
          cases heq
          exact .opens hafter
      next hopen =>
      split at h
      · next hc =>
          subst hc
          cases h
          exact .closes
      next hclose =>
      split at h
      · next hc =>
          obtain ⟨hverbose, hhash⟩ := Bool.and_eq_true_iff.1 hc
          obtain rfl := of_decide_eq_true hhash
          obtain ⟨after, hafter, heq⟩ := Option.map_eq_some_iff.1 h
          cases heq
          exact .comment hverbose hafter
      · next hc =>
          cases h
          refine .plain fun hspecial => ?_
          have hhash : c = '#' := by
            simpa [isSpecial, hslash, hbracket, hopen, hclose] using hspecial
          exact ⟨hhash, by simpa [hhash] using hc⟩

theorem lexeme?_of_lexeme (h : Lexeme mode text captures next rest) :
    mode.lexeme? text = some (captures, next, rest) := by
  cases h with
  | escape h | bracketed h | opens h => exact Option.map_eq_some_iff.2 ⟨_, h, rfl⟩
  | closes => rfl
  | comment hverbose h =>
      rw [lexeme?, hverbose]
      exact Option.map_eq_some_iff.2 ⟨_, h, rfl⟩
  | @plain c rest hc =>
      have hne {d : Char} (hd : isSpecial d = true) (hhash : d ≠ '#') : c ≠ d := by
        rintro rfl
        exact hhash (hc hd).1
      have hcomment : (mode.verbose && decide (c = '#')) = false := by
        by_cases hhash : c = '#'
        · rw [(hc (by rw [hhash]; rfl)).2, Bool.false_and]
        · simp [hhash]
      simp only [lexeme?, hne (by decide : isSpecial '\\' = true) (by decide),
        hne (by decide : isSpecial '[' = true) (by decide),
        hne (by decide : isSpecial '(' = true) (by decide),
        hne (by decide : isSpecial ')' = true) (by decide), hcomment, Bool.false_eq_true, if_false]

theorem length_of_lexeme? (h : mode.lexeme? text = some (captures, next, rest)) :
    rest.length < text.length := by
  cases lexeme_of_lexeme? h with
  | escape h => exact Nat.lt_succ_of_lt (length_of_pastEscape? h)
  | bracketed h => exact Nat.lt_succ_of_lt (length_of_pastClass? h)
  | opens h => exact Nat.lt_succ_of_le (length_of_opening? h)
  | comment _ h => exact Nat.lt_succ_of_le (length_of_pastComment? h)
  | closes | plain => exact Nat.lt_succ_self _

end Mode

/-- What a scan finds: the places at which capture groups open, and the mode at the end of the text,
unless its last lexeme has no end. -/
structure Scan where
  openings : List Nat
  mode? : Option Mode
  deriving DecidableEq

/-- The scan of a text in front of which stand `n` more characters, with capture groups at the given
places. -/
def Scan.after (places : List Nat) (n : Nat) (scan : Scan) : Scan :=
  ⟨places ++ scan.openings.map (n + ·), scan.mode?⟩

theorem Scan.after_zero (scan : Scan) : scan.after [] 0 = scan := by
  simp [after]

theorem Scan.after_after (scan : Scan) (first second : List Nat) (m n : Nat) :
    (scan.after second n).after first m =
      scan.after (first ++ second.map (m + ·)) (m + n) := by
  simp only [after, List.map_append, List.append_assoc, List.map_map, Scan.mk.injEq, and_true]
  congr 2
  exact List.map_congr_left fun place _ => (Nat.add_assoc m n place).symm

namespace Mode

def scan (mode : Mode) (text : Text) : Scan :=
  match _h : mode.lexeme? text with
  | none => ⟨[], if text.isEmpty then some mode else none⟩
  | some (captures, next, rest) =>
    (scan next rest).after (if captures then [0] else []) (text.length - rest.length)
termination_by text.length
decreasing_by exact length_of_lexeme? (by assumption)

variable {mode next : Mode} {text rest : Text} {captures : Bool}

theorem scan_nil (mode : Mode) : mode.scan [] = ⟨[], some mode⟩ := by
  rw [scan]
  rfl

theorem scan_of_none (hne : text ≠ []) (h : mode.lexeme? text = none) :
    mode.scan text = ⟨[], none⟩ := by
  rw [scan]
  split
  · rw [List.isEmpty_eq_false_iff.2 hne]
    rfl
  · next heq => cases h.symm.trans heq

theorem scan_of_some (h : mode.lexeme? text = some (captures, next, rest)) :
    mode.scan text =
      (next.scan rest).after (if captures then [0] else []) (text.length - rest.length) := by
  rw [scan]
  split
  · next heq => cases h.symm.trans heq
  · next heq =>
      cases h.symm.trans heq
      rfl

end Mode

end Highlight.Pattern
