import Highlight.Proofs.Pair.KnownText

/-!
The groups of a known attribute's pattern. The grammar was read alone in a group of its own; here it
stands deeper, behind four groups and with more text behind it. Its tree is the same in both places
up to the numbers of its groups, unless it ends in a comment that draws in what follows.
-/

namespace Highlight.Fragment

open Pattern

variable {name grammar separator terminators front more : Text} {pair : PairGrammar}
  {a : Attribute} {inner : Node}

def classFront : Text := ")[ \\t]*(?:$|[".toList

def classTail (pair : PairGrammar) (rest : Text) : Text :=
  classFront ++ (pair.classBody ++ ']' :: rest)

/-- What stands in the group of a grammar whose comment draws in the parenthesis behind it. -/
def drawnIn (grammar : Text) (pair : PairGrammar) : Text := wrap grammar ++ classTail pair []

theorem behind_eq_classTail : behind pair = classTail pair
    (')' :: ((['|'] ++ '(' :: (pair.residual ++ [')'])) ++ [')', ')'])) := by
  have hbound : ')' :: pair.bound = classFront ++ (pair.classBody ++ [']', ')']) := by
    change ')' :: ("[ \\t]*(?:$|[".toList ++ pair.classBody ++ "])".toList) = _
    rw [List.append_assoc]
    rfl
  rw [behind, boundText, List.append_assoc, ← List.cons_append, hbound, classTail]
  simp only [List.append_assoc, List.cons_append, List.nil_append]

theorem skipFrom_classTail (h : pair.terminators = front ++ '\n' :: more) (hfront : '\n' ∉ front)
    (rest : Text) :
    skipFrom true (classTail pair rest) = skipFrom false (escape more ++ ']' :: rest) := by
  have hbody : pair.classBody = escape front ++ '\n' :: escape more := by
    rw [PairGrammar.classBody, h, escape_append, escape_cons_of_not_isMeta (by decide)]
    rfl
  have hahead : '\n' ∉ classFront ++ escape front := by
    rw [List.mem_append, not_or]
    exact ⟨by decide, not_mem_escape (by decide) hfront⟩
  rw [classTail, hbody]
  simp only [List.append_assoc, List.cons_append]
  rw [← List.append_assoc, skipFrom_comment hahead]

theorem head?_skipFrom_escape (text rest : Text) :
    (skipFrom false (escape text ++ ']' :: rest)).head? ≠ some '?' := by
  induction text with
  | nil => exact nofun
  | cons c text ih =>
      by_cases hc : isMeta c
      · rw [escape_cons_of_isMeta hc]
        exact nofun
      · rw [escape_cons_of_not_isMeta hc]
        have hhash : c ≠ '#' := fun heq => hc (heq ▸ rfl)
        have hquestion : c ≠ '?' := fun heq => hc (heq ▸ rfl)
        by_cases hblank : isBlank c
        · simpa [skipFrom, hblank] using ih
        · simpa [skipFrom, hblank, hhash] using hquestion

theorem newline_not_mem_residual (h : '\n' ∉ pair.terminators) : '\n' ∉ pair.residual := by
  have hbody : '\n' ∉ pair.classBody := not_mem_escape (by decide) h
  simp [PairGrammar.residual, hbody]

theorem inert_classTail {rest : Text} (hrest : '\n' ∈ rest → '\n' ∈ pair.terminators) :
    Inert (classTail pair rest) where
  closing := ⟨_, rfl⟩
  colon := by
    intro name after h
    obtain ⟨r, hr⟩ : ∃ r, classTail pair rest = ")[ \\t]*(?".toList ++ ':' :: '$' :: r := ⟨_, rfl⟩
    rw [hr, cutAt?_append_of_eq_none _ (by decide), cutAt?_cons] at h
    cases h
    exact nofun
  lazy := by
    by_cases hline : '\n' ∈ pair.terminators
    · obtain ⟨front, more, heq, hfront⟩ := List.eq_append_cons_of_mem hline
      rw [skipFrom_classTail heq hfront]
      exact head?_skipFrom_escape more rest
    · have hbody : '\n' ∉ pair.classBody := not_mem_escape (by decide) hline
      have hahead : '\n' ∉ classFront := by decide
      have hnone : '\n' ∉ classTail pair rest := by
        simp only [classTail, List.mem_append, List.mem_cons, not_or]
        exact ⟨hahead, hbody, by decide, fun h => hline (hrest h)⟩
      rw [skipFrom_comment_eq_nil hnone]
      exact nofun

theorem newline_not_mem_behind (h : '\n' ∉ pair.terminators) : '\n' ∉ behind pair := by
  have hbody : '\n' ∉ pair.classBody := not_mem_escape (by decide) h
  have hfront : '\n' ∉ classFront := by decide
  rw [behind_eq_classTail, classTail]
  simp [hbody, hfront, newline_not_mem_residual h]

theorem inert_behind : Inert (behind pair) := by
  rw [behind_eq_classTail]
  refine inert_classTail fun h => Decidable.byContradiction fun hline => ?_
  simp [newline_not_mem_residual hline] at h

theorem run_known (a : Attribute) (pair : PairGrammar) :
    run .initial (wrap (known a pair).rule.pattern) =
      run (State.initial.within 4 (around a.name pair)) (wrap a.grammar ++ behind pair) := by
  rw [wrap_known]
  exact run_ahead nofun

theorem map_shift_leftover (k : Nat) (more : Text) :
    (leftover more).map (Node.shift k) = leftover more := by
  simp [leftover, Function.comp_def, Node.literal, Node.shift]

theorem lastIndices_leftover (more : Text) : Node.lastIndices (leftover more) = 0 := by
  have hliterals (text : Text) : Node.lastIndices (text.map .literal) = 0 := by
    induction text with
    | nil => rfl
    | cons c text ih =>
        rw [List.map_cons, Node.lastIndices, ih]
        rfl
  rw [leftover, Node.lastIndices_append, hliterals]
  rfl

theorem lastIndex_pushAll_leftover (row : Row) (more : Text) :
    (row.pushAll (leftover more)).close.lastIndex = row.close.lastIndex := by
  rw [Row.lastIndex_close, Row.lastIndex_close, Row.pushAll_eq]
  simp only [Row.lastIndex, Node.lastIndices_append, Node.lastIndices_reverse,
    lastIndices_leftover, Nat.zero_max]

section Last

variable {last : State}

theorem groups_within (h : last.groups = []) (k : Nat) (outer : List OpenGroup) :
    (last.within k outer).groups = outer := by
  simp [State.within, h]

theorem run_known_of_plain (hterminators : pair.terminators ≠ []) (hgroups : last.groups = [])
    (hrun : ∀ k outer tail, Inert tail →
      run (State.initial.within k outer) (wrap a.grammar ++ tail) = run (last.within k outer) tail) :
    run .initial (wrap (known a pair).rule.pattern) = .ok (knownTree a.name pair
      (.concat [captured 4 (last.row.close.shift 4), gap, lineEndOr pair.terminators])
      (last.captures + 5)) := by
  have haround := groups_within hgroups 4 (around a.name pair)
  rw [run_known, hrun _ _ _ inert_behind, run_behind hterminators haround, Row.shift_close]
  rfl

variable (hgroups : last.groups = []) (hverbose : last.verbose = true)
  (hrun : ∀ k outer tail, Inert tail →
    run (State.initial.within k outer) (wrap a.grammar ++ tail) =
      run (last.within k outer) (skipFrom true tail))

include hgroups hrun in
/-- A comment that goes on to the end of the pattern leaves groups open. -/
theorem run_known_of_swallowed (hline : '\n' ∉ pair.terminators) :
    run .initial (wrap (known a pair).rule.pattern) = .error .unclosedGroup := by
  have haround := groups_within hgroups 4 (around a.name pair)
  rw [run_known, hrun _ _ _ inert_behind, skipFrom_comment_eq_nil (newline_not_mem_behind hline),
    run_of_skip_eq_nil (skip_nil _)]
  exact finish_of_open haround

include hgroups hverbose hrun

/-- A comment that a terminator ends: the parenthesis behind the class closes the group. -/
theorem run_known_of_drawnIn (hterminators : pair.terminators ≠ [])
    (h : pair.terminators = front ++ '\n' :: more) (hfront : '\n' ∉ front) :
    run .initial (wrap (known a pair).rule.pattern) = .ok (knownTree a.name pair
      (captured 4 ((last.row.pushAll (leftover more)).close.shift 4)) (last.captures + 5)) := by
  have haround := groups_within hgroups 4 (around a.name pair)
  have hverbose' : (last.within 4 (around a.name pair)).verbose = true := hverbose
  rw [run_known, hrun _ _ _ inert_behind, behind_eq_classTail, skipFrom_classTail h hfront,
    run_skipFrom hverbose']
  refine (run_commented hterminators hverbose' haround).trans ?_
  rw [Row.shift_close, Row.shift_pushAll, map_shift_leftover]
  rfl

theorem run_drawnIn (h : pair.terminators = front ++ '\n' :: more) (hfront : '\n' ∉ front) :
    run .initial (drawnIn a.grammar pair) = .ok (last.row.pushAll (leftover more)).close := by
  have hzero : State.initial.within 0 [] = .initial := rfl
  have hverbose' : (last.within 0 []).verbose = true := hverbose
  have hrow : (last.within 0 []).row = last.row := last.row.shift_zero
  rw [drawnIn, ← hzero, hrun _ _ _ (inert_classTail fun h => absurd h List.not_mem_nil),
    skipFrom_classTail h hfront, run_skipFrom hverbose', run_leftover hverbose', hrow,
    run_of_skip_eq_nil (skip_nil _)]
  exact finish_of_closed (groups_within hgroups 0 [])

end Last

/-- How the pattern of a known attribute is read, by what its grammar ends in. -/
inductive Reading (a : Attribute) (pair : PairGrammar) (inner : Node) : Prop
  | plain (hplain : ¬EndsInComment (wrap a.grammar))
      (hrun : run .initial (wrap (known a pair).rule.pattern) = .ok (knownTree a.name pair
        (.concat [captured 4 (inner.shift 4), gap, lineEndOr pair.terminators])
        (inner.lastIndex + 5)))
  | swallowed (hcomment : EndsInComment (wrap a.grammar)) (hline : '\n' ∉ pair.terminators)
      (hrun : run .initial (wrap (known a pair).rule.pattern) = .error .unclosedGroup)
  | drawnIn {body : Node} (hcomment : EndsInComment (wrap a.grammar))
      (hline : '\n' ∈ pair.terminators)
      (hbody : run .initial (drawnIn a.grammar pair) = .ok body)
      (hindex : body.lastIndex = inner.lastIndex)
      (hrun : run .initial (wrap (known a pair).rule.pattern) = .ok (knownTree a.name pair
        (captured 4 (body.shift 4)) (inner.lastIndex + 5)))

theorem reading (hterminators : pair.terminators ≠ [])
    (h : run .initial (wrap a.grammar) = .ok inner) : Reading a pair inner := by
  obtain ⟨last, hgroups, rfl, hcaptures, hrest⟩ := run_initial_append h
  obtain ⟨hplain, hrun⟩ | ⟨hcomment, hverbose, hrun⟩ := hrest
  · have hknown := run_known_of_plain hterminators hgroups hrun
    rw [hcaptures] at hknown
    exact .plain hplain hknown
  · by_cases hline : '\n' ∈ pair.terminators
    · obtain ⟨front, more, heq, hfront⟩ := List.eq_append_cons_of_mem hline
      have hknown := run_known_of_drawnIn hgroups hverbose hrun hterminators heq hfront
      rw [hcaptures] at hknown
      exact .drawnIn hcomment hline (run_drawnIn hgroups hverbose hrun heq hfront)
        (lastIndex_pushAll_leftover _ _) hknown
    · exact .swallowed hcomment hline (run_known_of_swallowed hgroups hrun hline)

end Highlight.Fragment
