import Highlight.Proofs.Attribute
import Highlight.Proofs.Pair.KnownGroups

/-!
The residual group of a known attribute. Its recorded number adds the groups that were counted in
the grammar alone, its number in the pattern adds every group that the grammar opens; the pattern
can be read at all unless a comment or the nesting limit gets in the way.
-/

namespace Highlight

theorem PairGrammar.make_eq_ok_iff {pair : PairGrammar} {separator terminators : Text} :
    make separator terminators = .ok pair ↔
      separator ≠ [] ∧ terminators ≠ [] ∧ (∀ c ∈ terminators, c ∉ separator) ∧
        pair = ⟨separator, terminators⟩ := by
  rw [make]
  by_cases hseparator : separator = []
  · simp [hseparator]
  by_cases hterminators : terminators = []
  · simp [hseparator, hterminators]
  cases hfind : terminators.find? (· ∈ separator) with
  | some c =>
      have hshared : ¬∀ c ∈ terminators, c ∉ separator := fun hall =>
        hall c (List.mem_of_find?_eq_some hfind) (by simpa using List.find?_some hfind)
      simp [hseparator, hterminators, hshared]
  | none =>
      have hapart : ∀ c ∈ terminators, c ∉ separator := by simpa using hfind
      rw [if_neg (by simpa using hseparator), if_neg (by simpa using hterminators)]
      constructor
      · intro h
        cases h
        exact ⟨hseparator, hterminators, hapart, rfl⟩
      · rintro ⟨-, -, -, rfl⟩
        rfl

namespace Fragment

open Pattern

variable {name grammar separator terminators : Text} {pair : PairGrammar} {a : Attribute}
  {inner : Node} {n : Nat}

theorem read_of_make (h : Attribute.make name grammar = .ok a) :
    a.grammar = grammar ∧ ∃ inner, read (wrap grammar) = .ok inner ∧ a.groups = inner.captures := by
  obtain ⟨-, groups, hgroups, rfl⟩ := Attribute.make_eq_ok_iff.1 h
  obtain ⟨inner, hread, -, rfl⟩ := countGroups_eq_ok_iff.1 hgroups
  exact ⟨rfl, inner, hread, rfl⟩

theorem terminators_of_make (h : PairGrammar.make separator terminators = .ok pair) :
    pair = ⟨separator, terminators⟩ ∧ pair.terminators ≠ [] := by
  obtain ⟨-, hterminators, -, rfl⟩ := PairGrammar.make_eq_ok_iff.1 h
  exact ⟨rfl, hterminators⟩

theorem slot_residual (a : Attribute) (pair : PairGrammar) :
    (known a pair).slot .residual = 5 + a.groups := by
  simp [known, ofDraft, knownDraft, pairDraft, Draft.allSlots, Draft.slots, Draft.allGroups,
    Draft.groups, slot, slot?]
  omega

theorem captures_captured_le (body : Node) :
    (captured 4 (body.shift 4)).captures ≤ body.lastIndex + 4 := by
  have hbody := (body.shift 4).captures_le_lastIndex
  have hshift := body.lastIndex_shift_le 4
  simp only [captured, Node.captures, GroupKind.index]
  omega

theorem captures_plain_le (inner : Node) (text : Text) :
    (Node.concat [captured 4 (inner.shift 4), gap, lineEndOr text]).captures ≤
      inner.lastIndex + 4 := by
  have hinner := captures_captured_le inner
  simp only [Node.captures, Node.allCaptures, gap, lineEndOr, GroupKind.index]
  simpa using hinner

theorem depth_plain (inner : Node) (text : Text) :
    inner.depth + 2 ≤ (Node.concat [captured 4 (inner.shift 4), gap, lineEndOr text]).depth ∧
      (Node.concat [captured 4 (inner.shift 4), gap, lineEndOr text]).depth ≤
        max (inner.depth + 2) 5 := by
  have hgap : gap.depth = 3 := rfl
  have hset := depth_literals_le text
  simp only [Node.depth, Node.depths, hgap, lineEndOr, captured, Node.depth_shift]
  omega

theorem unicodeAfter?_plain (h : (inner.unicodeAfter? true).isSome) (text : Text) :
    (Node.concat [captured 4 (inner.shift 4), gap, lineEndOr text]).unicodeAfter? true =
      some true := by
  obtain ⟨after, hafter⟩ := Option.isSome_iff_exists.1 h
  have hinner : (captured 4 (inner.shift 4)).unicodeAfter? true = some true := by
    simp [captured, Node.unicodeAfter?, Node.unicodeAfter?_shift, hafter, GroupKind.flags,
      Flags.setting]
  have hgap : gap.unicodeAfter? true = some true := rfl
  have hend : (lineEndOr text).unicodeAfter? true = some true := by
    simp [lineEndOr, Node.unicodeAfter?, Node.allUnicodeAfter?, isAllowed_literals, Atom.isAllowed,
      GroupKind.flags, Flags.setting]
  simp only [Node.unicodeAfter?, Node.allUnicodeAfter?, hinner, hgap, hend]

theorem unicodeAfter?_drawnIn (body : Node) :
    (captured 4 (body.shift 4)).unicodeAfter? true = (body.unicodeAfter? true).map fun _ => true := by
  simp [captured, Node.unicodeAfter?, Node.unicodeAfter?_shift, GroupKind.flags, Flags.setting]

theorem groups?_eq_some_iff_of_run {fragment : Text} {node : Node}
    (h : run .initial (wrap fragment) = .ok node) :
    groups? fragment = some n ↔
      node.depth ≤ depthLimit ∧ (node.unicodeAfter? true).isSome ∧ node.captures = n := by
  rw [groups?_eq_some_iff]
  constructor
  · intro hall
    obtain ⟨other, hread, hn⟩ := hall
    obtain ⟨hrun, hdepth, hallowed⟩ := read_eq_ok_iff.1 hread
    cases h.symm.trans hrun
    exact ⟨hdepth, hallowed, hn⟩
  · intro hall
    obtain ⟨hdepth, hallowed, hn⟩ := hall
    exact ⟨node, read_eq_ok_iff.2 ⟨h, hdepth, hallowed⟩, hn⟩

theorem groups?_of_plain (hread : read (wrap a.grammar) = .ok inner)
    (hrun : run .initial (wrap (known a pair).rule.pattern) = .ok (knownTree a.name pair
      (.concat [captured 4 (inner.shift 4), gap, lineEndOr pair.terminators])
      (inner.lastIndex + 5))) :
    groups? (known a pair).rule.pattern = some n ↔
      n = 5 + inner.lastIndex ∧ inner.depth + 6 ≤ depthLimit := by
  obtain ⟨-, -, hallowed⟩ := read_eq_ok_iff.1 hread
  have hunicode := unicodeAfter?_plain hallowed pair.terminators
  obtain ⟨hdepth, hdepth'⟩ := depth_plain inner pair.terminators
  have hcaptures := captures_plain_le inner pair.terminators
  rw [groups?_eq_some_iff_of_run hrun, depth_knownTree, captures_knownTree (by omega) (by omega),
    unicodeAfter?_knownTree (by rw [hunicode]; nofun), hunicode]
  simp only [depthLimit, Option.isSome_some, true_and]
  omega

theorem groups?_of_drawnIn {body : Node} (hbody : run .initial (drawnIn a.grammar pair) = .ok body)
    (hindex : body.lastIndex = inner.lastIndex)
    (hrun : run .initial (wrap (known a pair).rule.pattern) = .ok (knownTree a.name pair
      (captured 4 (body.shift 4)) (inner.lastIndex + 5))) :
    groups? (known a pair).rule.pattern = some n ↔
      n = 5 + inner.lastIndex ∧ read (drawnIn a.grammar pair) = .ok body ∧
        body.depth + 5 ≤ depthLimit := by
  have hunicode := unicodeAfter?_drawnIn body
  have hcaptures := captures_captured_le body
  have hdepth : (captured 4 (body.shift 4)).depth = body.depth + 1 := by
    simp only [captured, Node.depth, Node.depth_shift]
  rw [groups?_eq_some_iff_of_run hrun, depth_knownTree, captures_knownTree (by omega) (by omega),
    unicodeAfter?_knownTree (by rw [hunicode]; cases body.unicodeAfter? true <;> simp), hunicode,
    hdepth, read_eq_ok_iff, Option.isSome_map]
  simp only [depthLimit]
  constructor
  · intro hall
    obtain ⟨hlimit, hallowed, rfl⟩ := hall
    exact ⟨by omega, ⟨hbody, by omega, hallowed⟩, by omega⟩
  · intro hall
    obtain ⟨rfl, ⟨-, -, hallowed⟩, hlimit⟩ := hall
    exact ⟨by omega, hallowed, by omega⟩

/-- The groups of a known attribute's pattern, and when it has any. -/
theorem groups?_known_iff (hterminators : pair.terminators ≠ [])
    (hread : read (wrap a.grammar) = .ok inner) :
    groups? (known a pair).rule.pattern = some n ↔
      n = 5 + inner.lastIndex ∧
        (¬EndsInComment (wrap a.grammar) ∧ inner.depth + 6 ≤ depthLimit ∨
          EndsInComment (wrap a.grammar) ∧ '\n' ∈ pair.terminators ∧
            ∃ body, read (drawnIn a.grammar pair) = .ok body ∧ body.depth + 5 ≤ depthLimit) := by
  obtain ⟨hinner, -, -⟩ := read_eq_ok_iff.1 hread
  cases reading hterminators hinner with
  | plain hplain hrun => simp [groups?_of_plain hread hrun, hplain]
  | swallowed hcomment hline hrun =>
      have hnone : ¬groups? (known a pair).rule.pattern = some n := by
        rw [groups?_eq_some_iff]
        intro hall
        obtain ⟨node, hnode, -⟩ := hall
        cases hrun.symm.trans (read_eq_ok_iff.1 hnode).1
      simp [hnone, hcomment, hline]
  | drawnIn hcomment hline hbody hindex hrun =>
      rw [groups?_of_drawnIn hbody hindex hrun]
      constructor
      · intro hall
        obtain ⟨hn, hdrawn, hdepth⟩ := hall
        exact ⟨hn, .inr ⟨hcomment, hline, _, hdrawn, hdepth⟩⟩
      · intro hall
        obtain ⟨hn, ⟨hplain, -⟩ | ⟨-, -, other, hdrawn, hdepth⟩⟩ := hall
        · exact absurd hcomment hplain
        · cases hbody.symm.trans (read_eq_ok_iff.1 hdrawn).1
          exact ⟨hn, hdrawn, hdepth⟩

/-- The residual group of an accepted attribute is the last group of the pattern, and it has the
number that is recorded for it just where the highest group of the grammar is one that counts: not
one in a part that is repeated zero times. -/
theorem residual_slot_eq_groups_iff (ha : Attribute.make name grammar = .ok a)
    (hpair : PairGrammar.make separator terminators = .ok pair) :
    ∃ inner, read (wrap grammar) = .ok inner ∧
      (known a pair).slot .residual = 5 + inner.captures ∧
      ∀ n, groups? (known a pair).rule.pattern = some n →
        n = 5 + inner.lastIndex ∧
          (n = (known a pair).slot .residual ↔ inner.captures = inner.lastIndex) := by
  obtain ⟨rfl, inner, hread, hgroups⟩ := read_of_make ha
  obtain ⟨-, hterminators⟩ := terminators_of_make hpair
  refine ⟨inner, hread, by rw [slot_residual, hgroups], fun n hn => ?_⟩
  obtain ⟨rfl, -⟩ := (groups?_known_iff hterminators hread).1 hn
  rw [slot_residual, hgroups]
  omega

/-- A grammar whose only group is repeated zero times: the residual group is the sixth of the
pattern, and the fifth is recorded. -/
theorem residual_slot_of_zero_repetition :
    ∃ a pair inner, Attribute.make "a".toList "(a)\x7b0\x7d".toList = .ok a ∧
      PairGrammar.make ":".toList ";".toList = .ok pair ∧
      groups? (known a pair).rule.pattern = some 6 ∧ (known a pair).slot .residual = 5 ∧
      read (wrap "(a)\x7b0\x7d".toList) = .ok inner ∧ inner.captures ≠ inner.lastIndex := by
  have ha : Attribute.make "a".toList "(a)\x7b0\x7d".toList =
      .ok ⟨"a".toList, "(a)\x7b0\x7d".toList, 0⟩ := ok_of_toOption (by decide +kernel)
  have hpair : PairGrammar.make ":".toList ";".toList = .ok ⟨":".toList, ";".toList⟩ := rfl
  obtain ⟨inner, hread, hslot, hgroups⟩ := residual_slot_eq_groups_iff ha hpair
  have hsix : groups? (known ⟨"a".toList, "(a)\x7b0\x7d".toList, 0⟩
      ⟨":".toList, ";".toList⟩).rule.pattern = some 6 := by decide +kernel
  have hfive := slot_residual ⟨"a".toList, "(a)\x7b0\x7d".toList, 0⟩ ⟨":".toList, ";".toList⟩
  refine ⟨_, _, inner, ha, hpair, hsix, hfive, hread, fun heq => ?_⟩
  have hbad := (hgroups 6 hsix).2.2 heq
  rw [hfive] at hbad
  cases hbad

/-- The pattern of an accepted attribute can be read just where its grammar, six levels deeper, is
within the nesting limit; and, if the grammar ends in a comment, where a line end among the
terminators ends the comment again and what it has drawn in can be read. -/
theorem known_pattern_accepted_iff (ha : Attribute.make name grammar = .ok a)
    (hpair : PairGrammar.make separator terminators = .ok pair) :
    ∃ inner, read (wrap grammar) = .ok inner ∧
      ((∃ n, groups? (known a pair).rule.pattern = some n) ↔
        ¬EndsInComment (wrap grammar) ∧ inner.depth + 6 ≤ depthLimit ∨
          EndsInComment (wrap grammar) ∧ '\n' ∈ terminators ∧
            ∃ body, read (drawnIn grammar pair) = .ok body ∧ body.depth + 5 ≤ depthLimit) := by
  obtain ⟨rfl, inner, hread, -⟩ := read_of_make ha
  obtain ⟨rfl, hterminators⟩ := terminators_of_make hpair
  refine ⟨inner, hread, ?_⟩
  simp only [groups?_known_iff hterminators hread]
  exact ⟨fun ⟨_, _, h⟩ => h, fun h => ⟨_, rfl, h⟩⟩

/-- A grammar that closes its group and opens a comment: it is accepted, and its pattern is not. -/
theorem known_pattern_of_open_comment :
    ∃ a pair, Attribute.make "a".toList "a)(?x)#".toList = .ok a ∧
      PairGrammar.make ":".toList ";".toList = .ok pair ∧
      ¬∃ n, groups? (known a pair).rule.pattern = some n := by
  have ha : Attribute.make "a".toList "a)(?x)#".toList =
      .ok ⟨"a".toList, "a)(?x)#".toList, 0⟩ := ok_of_toOption (by decide +kernel)
  have hpair : PairGrammar.make ":".toList ";".toList = .ok ⟨":".toList, ";".toList⟩ := rfl
  obtain ⟨inner, -, haccepted⟩ := known_pattern_accepted_iff ha hpair
  refine ⟨_, _, ha, hpair, fun h => ?_⟩
  obtain ⟨hplain, -⟩ | ⟨-, hline, -⟩ := haccepted.1 h
  · have hcomment : (run .initial (wrap "a)(?x)#".toList ++ [')'])).toOption.isSome := by
      decide +kernel
    obtain ⟨node, hnode⟩ := Option.isSome_iff_exists.1 hcomment
    exact hplain ⟨node, ok_of_toOption hnode⟩
  · revert hline
    decide

end Fragment

end Highlight
