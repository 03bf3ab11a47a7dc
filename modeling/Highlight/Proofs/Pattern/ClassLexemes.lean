import Highlight.Proofs.Pattern.LexemeLookahead

/-!
Escapes and classes end where their lexemes end. What the reader of patterns takes up of an escape
or of a bracketed class, with all that it checks on the way, is what the lexical rules make of it,
but for the kind of a boundary, which the reader takes up with the escape in front.
-/

namespace Highlight.Pattern

variable {verbose : Bool} {text rest : Text} {a : Atom}

theorem pastCode?_of_readHex {count : Nat} (hcount : count ≠ 0)
    (h : readHex verbose count text = .ok (a, rest)) :
    pastCode? verbose count text = some rest := by
  rw [readHex] at h
  split at h
  · next inner hinner =>
      split at h
      · next hbraced =>
          split at h <;> cases h
          simp only [pastCode?, hinner, if_true, hbraced, Option.map_some]
      · cases h
  · next hplain =>
      split at h
      · next digits after htake =>
          split at h <;> cases h
          cases hskip : skip verbose text with
          | nil =>
              obtain ⟨n, rfl⟩ := Nat.exists_eq_succ_of_ne_zero hcount
              rw [hskip] at htake
              cases htake
          | cons c inner =>
              have hc : c ≠ '\x7b' := by
                rintro rfl
                exact hplain inner hskip
              rw [hskip] at htake
              simp only [pastCode?, hskip, hc, if_false, htake, Option.map_some]
      · cases h

theorem pastCode?_of_readProperty {negated : Bool}
    (h : readProperty verbose negated text = .ok (a, rest)) :
    pastCode? verbose 1 text = some rest := by
  rw [readProperty] at h
  split at h
  · cases h
  · next c inner hinner =>
      split at h
      · next hc =>
          split at h
          · next hbraced =>
              cases h
              simp only [pastCode?, hinner, hc, if_true, hbraced, Option.map_some]
          · cases h
      · next hc =>
          split at h <;> cases h
          simp only [pastCode?, hinner, hc, if_false, takeFixed?, if_true, Option.map_some]

/-- Behind `\b` there may be a kind of boundary in braces, which is no part of the lexeme. -/
theorem pastEscape?_of_readEscape (h : readEscape verbose text = .ok (a, rest)) :
    pastEscape? verbose text = some rest ∨
      (∃ kind, a = .assertion kind) ∧ ∃ inner name,
        pastEscape? verbose text = some ('\x7b' :: inner) ∧
        braced? verbose inner = some (name, rest) ∧ (boundaryOf? name).isSome := by
  cases text with
  | nil => cases h
  | cons c text =>
      simp only [readEscape] at h
      split at h
      · next hc =>
          subst hc
          exact .inl (pastCode?_of_readHex (by decide) h)
      next hx =>
      split at h
      · next hc =>
          subst hc
          exact .inl (pastCode?_of_readHex (by decide) h)
      next hu =>
      split at h
      · next hc =>
          subst hc
          exact .inl (pastCode?_of_readHex (by decide) h)
      next hU =>
      split at h
      · next hc =>
          subst hc
          exact .inl (pastCode?_of_readProperty h)
      next hp =>
      split at h
      · next hc =>
          subst hc
          exact .inl (pastCode?_of_readProperty h)
      next hP =>
      have hpast : pastEscape? verbose (c :: text) = some text := by
        simp [pastEscape?, codeLength?, hx, hu, hU, hp, hP]
      rw [hpast]
      split at h
      · simp only [readBoundary] at h
        split at h
        · next inner =>
            split at h
            · cases h
            · split at h
              · split at h
                · next hbraced =>
                    split at h <;> cases h
                    next hkind =>
                      exact .inr ⟨⟨_, rfl⟩, inner, _, rfl, hbraced,
                        Option.isSome_iff_exists.2 ⟨_, hkind⟩⟩
                · cases h
              · cases h
                exact .inl rfl
        · cases h
          exact .inl rfl
      split at h
      · cases h
        exact .inl rfl
      split at h <;> cases h <;> exact .inl rfl

theorem pastClassAtom?_of_readClassAtom (h : readClassAtom verbose text = .ok (a, rest))
    (ha : ∀ kind, a ≠ .assertion kind) : pastClassAtom? verbose text = some rest := by
  cases text with
  | nil => cases h
  | cons c text =>
      simp only [readClassAtom] at h
      simp only [pastClassAtom?]
      split at h
      · next hc =>
          rw [if_pos hc]
          exact (pastEscape?_of_readEscape h).resolve_right fun hkind =>
            hkind.1.elim fun kind heq => ha kind heq
      · next hc =>
          cases h
          rw [if_neg hc]

theorem not_assertion_of_ofAtom {item : ClassSet} (h : ClassSet.ofAtom a = .ok item)
    (kind : Assertion) : a ≠ .assertion kind := by
  rintro rfl
  cases h

theorem not_assertion_of_ofRange {b : Atom} {item : ClassSet} (h : ClassSet.ofRange a b = .ok item)
    (kind : Assertion) : a ≠ .assertion kind ∧ b ≠ .assertion kind := by
  constructor
  · rintro rfl
    cases h
  · rintro rfl
    cases a <;> cases h

theorem pastClassItem?_of_readClassItem {item : ClassSet}
    (h : readClassItem verbose text = .ok (item, rest)) :
    pastClassItem? verbose text = some rest := by
  simp only [readClassItem, bind, Except.bind] at h
  split at h
  · cases h
  · next first hfirst =>
      obtain ⟨a, middle⟩ := first
      dsimp only at h
      rw [pastClassItem?]
      split at h
      · cases h
      · next c tail hskip =>
          split at h
          · next hend =>
              split at h <;> cases h
              next hitem =>
                rw [pastClassAtom?_of_readClassAtom hfirst (not_assertion_of_ofAtom hitem)]
                simp only [hskip, hend, if_true]
          · next hend =>
              split at h
              · cases h
              · next last hlast =>
                  split at h <;> cases h
                  next hitem =>
                    have hkind := not_assertion_of_ofRange hitem
                    rw [pastClassAtom?_of_readClassAtom hfirst fun kind => (hkind kind).1]
                    simp only [hskip, hend]
                    exact pastClassAtom?_of_readClassAtom hlast fun kind => (hkind kind).2

/-- A character that is an item of its own in a class, whatever the mode, unless a hyphen follows.
-/
def isItem (c : Char) : Bool := c.isLower || c = ':' || c = '^'

theorem ne_of_isItem {c : Char} (hc : isItem c = true) {d : Char}
    (hd : d ∈ "[]\\-#&~".toList) : c ≠ d := by
  have hinert : ∀ d ∈ "[]\\-#&~".toList, isItem d = false := forall_mem_of_all (by decide)
  rintro rfl
  cases (hinert c hd).symm.trans hc

theorem isBlank_of_isItem {c : Char} (hc : isItem c = true) : isBlank c = false := by
  rw [isItem, Bool.or_eq_true, Bool.or_eq_true, decide_eq_true_eq, decide_eq_true_eq] at hc
  rcases hc with (hlower | rfl) | rfl
  · obtain ⟨hlow, hhigh⟩ := Bool.and_eq_true_iff.1 hlower
    have hleast : 97 ≤ c.toNat := of_decide_eq_true hlow
    have hmost : c.toNat ≤ 122 := of_decide_eq_true hhigh
    simp [isBlank]
    omega
  · rfl
  · rfl

theorem skip_of_isItem {c : Char} (hc : isItem c = true ∨ c = ']') (text : Text) :
    skip verbose (c :: text) = c :: text := by
  have hplain : isBlank c = false ∧ c ≠ '#' := by
    rcases hc with hc | rfl
    · exact ⟨isBlank_of_isItem hc, ne_of_isItem hc (by decide)⟩
    · decide
  cases verbose with
  | false => rfl
  | true => simp only [skip, skipFrom, hplain.1, hplain.2, Bool.false_eq_true, if_true, if_false]

theorem pastClassPart?_of_isItem {c d : Char} (hc : isItem c = true)
    (hd : isItem d = true ∨ d = ']') (depth : Nat) (text : Text) :
    pastClassPart? verbose depth (c :: d :: text) = some (depth, d :: text) := by
  have hne {e : Char} (he : e ∈ "[]\\-#&~".toList) : c ≠ e := ne_of_isItem hc he
  have hhyphen : d ≠ '-' := by
    rcases hd with hd | rfl
    · exact ne_of_isItem hd (by decide)
    · decide
  have hop : setOperator? (c :: d :: text) = none := by
    have hand := hne (by decide : '&' ∈ _)
    have hminus := hne (by decide : '-' ∈ _)
    have htilde := hne (by decide : '~' ∈ _)
    unfold setOperator?
    split <;> simp_all
  have hitem : pastClassItem? verbose (c :: d :: text) = some (d :: text) := by
    have hatom : pastClassAtom? verbose (c :: d :: text) = some (d :: text) :=
      if_neg (hne (by decide))
    simp only [pastClassItem?, hatom, skip_of_isItem hd, hhyphen, ne_eq, not_false_eq_true,
      decide_true, Bool.true_or, if_true]
  simp only [pastClassPart?, hne (by decide : '[' ∈ _), hne (by decide : ']' ∈ _), if_false, hop,
    hitem, Option.map_some]

theorem pastBrackets?_of_isItem {front : Text} (hfront : ∀ c ∈ front, isItem c = true)
    (depth : Nat) (rest : Text) :
    pastBrackets? verbose (depth + 2) (front ++ ']' :: rest) =
      pastBrackets? verbose (depth + 1) rest := by
  induction front with
  | nil =>
      apply pastBrackets?_of_open
      rw [List.nil_append, skip_of_isItem (.inr rfl)]
      rfl
  | cons c front ih =>
      obtain ⟨hc, hfront⟩ := List.forall_mem_cons.1 hfront
      rw [← ih hfront]
      apply pastBrackets?_of_open
      rw [List.cons_append, skip_of_isItem (.inl hc)]
      cases front with
      | nil => exact pastClassPart?_of_isItem hc (.inr rfl) _ _
      | cons d front =>
          exact pastClassPart?_of_isItem hc (.inl (hfront d List.mem_cons_self)) _ _

theorem eq_of_cutAt? {d : Char} {front : Text} (h : cutAt? [d] text = some (front, rest)) :
    text = front ++ d :: rest := by
  induction text generalizing front with
  | nil => cases h
  | cons c text ih =>
      rw [cutAt?_cons] at h
      split at h
      · next hc =>
          cases h
          rw [hc, List.nil_append]
      · obtain ⟨⟨f, r⟩, hr, heq⟩ := Option.map_eq_some_iff.1 h
        cases heq
        rw [ih hr, List.cons_append]

set_option maxRecDepth 2000 in
theorem all_names_isItem :
    ((Unicode.Table.entries asciiClassTable).all fun entry =>
      (Unicode.Table.names entry).all fun name => name.all isItem) = true := by
  rw [Unicode.Table.entries, show asciiClassTable = String.ofList _ from rfl, String.toList_ofList]
  decide +kernel

theorem isItem_of_find? {name : Text} {members : CharSet}
    (h : Unicode.Table.find? asciiClassTable name = some members) :
    ∀ c ∈ name, isItem c = true := by
  obtain ⟨entry, hentry, -⟩ := Option.map_eq_some_iff.1 h
  rw [Unicode.Table.lookup?] at hentry
  have hname := List.find?_some hentry
  have hnames := List.all_eq_true.1 all_names_isItem entry (List.mem_of_find?_eq_some hentry)
  exact List.all_eq_true.1 (List.all_eq_true.1 hnames name (of_decide_eq_true hname))

theorem pastBrackets?_of_asciiClass? {after : Text} {negated : Bool} {members : CharSet}
    (depth : Nat) (hskip : skip verbose text = '[' :: after)
    (h : asciiClass? after = some (negated, members, rest)) :
    pastBrackets? verbose (depth + 1) text = pastBrackets? verbose (depth + 1) rest := by
  obtain ⟨inner, name, rfl, -, hcut, hfound⟩ := asciiClass?_eq_some_iff.1 h
  have hname := isItem_of_find? hfound
  obtain ⟨caret, hcaret, hinner⟩ : ∃ caret : Text, (∀ c ∈ caret, isItem c = true) ∧
      inner = caret ++ dropCaret inner := by
    by_cases hhead : inner.head? = some '^'
    · obtain ⟨after, rfl⟩ := List.head?_eq_some_iff.1 hhead
      exact ⟨['^'], by simp [isItem], rfl⟩
    · exact ⟨[], nofun, (if_neg hhead).symm⟩
  have htext : ':' :: inner = (':' :: (caret ++ name ++ [':'])) ++ ']' :: rest := by
    rw [hinner, eq_of_cutAt? hcut]
    simp
  have hfront : ∀ c ∈ ':' :: (caret ++ name ++ [':']), isItem c = true := by
    simp only [List.mem_cons, List.mem_append, List.not_mem_nil, or_false]
    rintro c (rfl | (hc | hc) | rfl)
    · rfl
    · exact hcaret c hc
    · exact hname c hc
    · rfl
  have hopen : pastBracket? verbose (':' :: inner) = some (':' :: inner) := by
    have hskip : skip verbose (':' :: inner) = ':' :: inner := skip_of_isItem (.inl rfl) inner
    have hhyphens : takeHyphens verbose (':' :: inner) = ([], ':' :: inner) := by
      rw [takeHyphens_of_ne_hyphen, hskip]
      rw [hskip]
      nofun
    have hcaret : dropCaret (':' :: inner) = ':' :: inner := rfl
    refine pastBracket?_eq_some_iff.2 ⟨false, [], openClass_eq_ok_iff.2 ⟨?_, .inr ⟨?_, ?_, ?_⟩⟩⟩
    · rw [hskip]
      rfl
    · rw [hskip, hcaret, hhyphens]
    · exact List.cons_ne_nil _ _
    · simp
  rw [← pastBrackets?_of_isItem hfront depth rest, ← htext]
  apply pastBrackets?_of_open
  simp only [hskip, pastClassPart?, if_true, hopen, Option.map_some]

def brackets : List ClassFrame → Nat
  | [] => 0
  | .bracket _ _ :: frames => brackets frames + 1
  | .operation _ _ :: frames => brackets frames

/-- What is open in a class is open inside of its first bracket. -/
def Grounded (frames : List ClassFrame) : Prop :=
  ∃ front outer negated, frames = front ++ [.bracket outer negated]

theorem Grounded.cons {frames : List ClassFrame} (h : Grounded frames) (frame : ClassFrame) :
    Grounded (frame :: frames) := by
  obtain ⟨front, outer, negated, rfl⟩ := h
  exact ⟨frame :: front, outer, negated, rfl⟩

theorem Grounded.exists_brackets {frames : List ClassFrame} (h : Grounded frames) :
    ∃ n, brackets frames = n + 1 := by
  obtain ⟨front, outer, negated, rfl⟩ := h
  induction front with
  | nil => exact ⟨0, rfl⟩
  | cons frame front ih =>
      obtain ⟨n, hn⟩ := ih
      cases frame with
      | bracket outer' negated' => exact ⟨n + 1, congrArg (· + 1) hn⟩
      | operation op left => exact ⟨n, hn⟩

/-- An operation may wait in front of the brackets; it is no bracket. -/
theorem brackets_settle {state : ClassState} {set : ClassSet} {frames : List ClassFrame}
    (hgrounded : Grounded state.frames) (h : state.settle = (set, frames)) :
    Grounded frames ∧ brackets frames = brackets state.frames := by
  obtain ⟨stack, items⟩ := state
  cases stack with
  | nil =>
      obtain ⟨front, outer, negated, heq⟩ := hgrounded
      cases front <;> cases heq
  | cons frame stack =>
      cases frame with
      | bracket outer negated =>
          cases h
          exact ⟨hgrounded, rfl⟩
      | operation op left =>
          cases h
          obtain ⟨front, outer, negated, heq⟩ := hgrounded
          cases front with
          | nil => cases heq
          | cons first front =>
              cases heq
              exact ⟨⟨front, outer, negated, rfl⟩, rfl⟩

theorem pastClassPart?_of_item {item : ClassSet} {c : Char} (depth : Nat) (hopen : c ≠ '[')
    (hclose : c ≠ ']') (hop : setOperator? (c :: text) = none)
    (h : readClassItem verbose (c :: text) = .ok (item, rest)) :
    pastClassPart? verbose depth (c :: text) = some (depth, rest) := by
  simp only [pastClassPart?, hopen, hclose, if_false, hop, pastClassItem?_of_readClassItem h,
    Option.map_some]

theorem pastClassPart?_of_operator {op : SetOperator} {c : Char} (depth : Nat) (hopen : c ≠ '[')
    (hclose : c ≠ ']') (hop : setOperator? (c :: text) = some (op, rest)) :
    pastClassPart? verbose depth (c :: text) = some (depth, rest) := by
  simp only [pastClassPart?, hopen, hclose, if_false, hop]

namespace ClassStep

def Grounded : ClassStep → Prop
  | more next => Pattern.Grounded next.frames
  | done _ _ => True

def past? (verbose : Bool) (rest : Text) : ClassStep → Option Text
  | more next => pastBrackets? verbose (brackets next.frames) rest
  | done _ _ => some rest

end ClassStep

/-- A step inside of a class ends where its part ends, and knows how many brackets are open there.
-/
theorem pastBrackets?_of_stepClass {state : ClassState} {step : ClassStep}
    (hgrounded : Grounded state.frames)
    (h : stepClass verbose state (skip verbose text) = .ok (step, rest)) :
    step.Grounded ∧
      pastBrackets? verbose (brackets state.frames) text = step.past? verbose rest := by
  generalize hinner : skip verbose text = inner at h
  obtain ⟨depth, hdepth⟩ := hgrounded.exists_brackets
  simp only [stepClass, bind, Except.bind] at h
  split at h
  · cases h
  · next after =>
      split at h
      · next hascii =>
          cases h
          refine ⟨hgrounded, ?_⟩
          rw [ClassStep.past?, hdepth]
          exact pastBrackets?_of_asciiClass? depth hinner hascii
      · split at h <;> cases h
        next opened hopen =>
          refine ⟨hgrounded.cons _, ?_⟩
          have hcount : brackets (.bracket state.items opened.1 :: state.frames) = depth + 2 :=
            congrArg (· + 1) hdepth
          rw [ClassStep.past?, hcount, hdepth]
          apply pastBrackets?_of_open
          have hpast : pastBracket? verbose after = some opened.2.2 :=
            pastBracket?_eq_some_iff.2 ⟨opened.1, opened.2.1, hopen⟩
          simp only [hinner, pastClassPart?, if_true, hpast, Option.map_some]
  · next after =>
      have hpart : pastClassPart? verbose (brackets state.frames) (skip verbose text) =
          some (depth, after) := by
        rw [hinner, hdepth]
        rfl
      split at h
      · next hsettle =>
          cases h
          obtain ⟨-, hcount⟩ := brackets_settle hgrounded hsettle
          rw [hdepth] at hcount
          obtain rfl : depth = 0 := (Nat.succ.inj hcount).symm
          exact ⟨trivial, pastBrackets?_of_closed hpart⟩
      · next set outer negated frames hframes hsettle =>
          cases h
          obtain ⟨hinside, hcount⟩ := brackets_settle hgrounded hsettle
          have hleft : Grounded frames := by
            obtain ⟨front, outer', negated', heq⟩ := hinside
            cases front with
            | nil => exact absurd (List.cons.inj heq).2 hframes
            | cons frame front => exact ⟨front, outer', negated', (List.cons.inj heq).2⟩
          have hdepth' : brackets frames = depth := by
            rw [hdepth] at hcount
            exact Nat.succ.inj hcount
          obtain ⟨n, hn⟩ := hleft.exists_brackets
          refine ⟨hleft, ?_⟩
          rw [ClassStep.past?, hn]
          apply pastBrackets?_of_open
          rw [hpart, ← hdepth', hn]
      · cases h
  · next hnil hopen hclose =>
      obtain ⟨c, inner, rfl⟩ := List.exists_cons_of_ne_nil hnil
      have hc : c ≠ '[' := by
        rintro rfl
        exact hopen inner rfl
      have hc' : c ≠ ']' := by
        rintro rfl
        exact hclose inner rfl
      split at h
      · next op after hop =>
          cases h
          have hsettle : state.settle = (state.settle.1, state.settle.2) := rfl
          obtain ⟨hinside, hcount⟩ := brackets_settle hgrounded hsettle
          refine ⟨hinside.cons _, ?_⟩
          have hsame : brackets (.operation op state.settle.1 :: state.settle.2) = depth + 1 :=
            hcount.trans hdepth
          rw [ClassStep.past?, hsame, hdepth]
          apply pastBrackets?_of_open
          rw [hinner]
          exact pastClassPart?_of_operator _ hc hc' hop
      · next hop =>
          split at h <;> cases h
          next hitem =>
            refine ⟨hgrounded, ?_⟩
            rw [ClassStep.past?, hdepth]
            apply pastBrackets?_of_open
            rw [hinner]
            exact pastClassPart?_of_item _ hc hc' hop hitem

theorem pastBrackets?_of_runClass {state : ClassState} {negated : Bool} {set : ClassSet}
    (hgrounded : Grounded state.frames)
    (h : runClass verbose state text = .ok (negated, set, rest)) :
    pastBrackets? verbose (brackets state.frames) text = some rest := by
  fun_induction runClass verbose state text with
  | case1 => cases h
  | case2 state text negated' set' rest' hstep =>
      cases h
      exact (pastBrackets?_of_stepClass hgrounded hstep).2
  | case3 state text next rest' hstep ih =>
      obtain ⟨hnext, hpast⟩ := pastBrackets?_of_stepClass hgrounded hstep
      rw [hpast]
      exact ih hnext h

theorem pastClass?_of_readClass {negated : Bool} {set : ClassSet}
    (h : readClass verbose text = .ok (negated, set, rest)) :
    pastClass? verbose text = some rest := by
  simp only [readClass, bind, Except.bind] at h
  split at h
  · cases h
  · next hopen =>
      exact Option.bind_eq_some_iff.2 ⟨_, pastBracket?_eq_some_iff.2 ⟨_, _, hopen⟩,
        pastBrackets?_of_runClass ⟨[], _, _, rfl⟩ h⟩

end Highlight.Pattern
