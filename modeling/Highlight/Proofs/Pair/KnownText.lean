import Highlight.Proofs.Pair.KnownTree
import Highlight.Proofs.Pattern.Embedding

/-!
Reading the pattern of a known attribute. The text ahead of the grammar and the text behind it are
read by themselves; `run_ahead` and `run_behind` are the two halves of the reading, with
the grammar between them.
-/

namespace Highlight.Fragment

open Pattern

variable {name : Text} {pair : PairGrammar}

theorem reads_spaces : Reads "\\s*".toList 0 fun _ row => row.push spaces :=
  Reads.star (Reads.escaped fun _ => rfl) fun _ _ => rfl

theorem reads_quotes {q : Char} (hq : ¬isMeta q) :
    Reads ([q] ++ (('[' :: (['^'] ++ ([q] ++ [']'])) ++ ['*']) ++ [q])) 0 fun _ row =>
      row.pushAll [.literal q, others [q], .literal q] := by
  have hne : q ∉ ['^', '-', ']'] := by
    intro hmem
    have hmeta : ∀ d ∈ ['^', '-', ']'], isMeta d := forall_mem_of_all (by decide)
    exact hq (hmeta q hmem)
  have hquestion : [q].head? ≠ some '?' := by
    rintro h
    cases h
    exact hq (by decide)
  have hliteral : Reads [q] 0 fun _ row => row.push (.literal q) :=
    Reads.atom (ofChar_of_not_isMeta hq)
  have hclass : Reads ('[' :: (['^'] ++ ([q] ++ [']'])) ++ ['*']) 0 fun _ row =>
      row.push (others [q]) :=
    Reads.star (Reads.bracketed true
      (ReadsItems.plain (isPlainItem_of_not_isMeta hq)) (List.cons_ne_nil _ _)
      (by simpa using hne)) fun _ _ => rfl
  exact hliteral.append (hclass.append hliteral hquestion) (by simp)

theorem reads_quoted : Reads quotedPattern 0 fun _ row =>
    (row.pushAll [.literal '"', others ['"'], .literal '"']).alternate.pushAll
      [.literal '\'', others ['\''], .literal '\''] :=
  (reads_quotes (q := '"') (by decide)).append
    (Reads.alternate.append (reads_quotes (q := '\'') (by decide)) (by decide)) (by decide)

theorem reads_reference : Reads referencePattern 0 fun _ row =>
    row.pushAll [.literal '$', .bracketed false (.union [capitals, .literal '_']),
      .repetition (.bracketed false (.union [capitals, digits, .literal '_'])) true 0 none] := by
  have hcapitals : ReadsItems "A-Z".toList [capitals] :=
    ReadsItems.range (by decide) (by decide) (by decide)
  have hdigits : ReadsItems "0-9".toList [digits] :=
    ReadsItems.range (by decide) (by decide) (by decide)
  have hline : ReadsItems ['_'] [.literal '_'] := ReadsItems.plain (by decide)
  have hdollar : Reads "\\$".toList 0 fun _ row => row.push (.literal '$') :=
    Reads.escaped fun _ => rfl
  have hfirst : Reads "[A-Z_]".toList 0 fun _ row =>
      row.push (.bracketed false (.union [capitals, .literal '_'])) :=
    Reads.bracketed false (hcapitals.append hline (by decide)) (by decide)
      (forall_mem_of_all_option (by decide))
  have hmore : Reads "[A-Z0-9_]*".toList 0 fun _ row => row.push
      (.repetition (.bracketed false (.union [capitals, digits, .literal '_'])) true 0 none) :=
    Reads.star (Reads.bracketed false
      (hcapitals.append (hdigits.append hline (by decide)) (by decide)) (by decide)
      (forall_mem_of_all_option (by decide)))
      fun _ _ => rfl
  exact hdollar.append (hfirst.append hmore (by decide)) (by decide)

theorem reads_terminators (negated : Bool) (h : pair.terminators ≠ []) :
    Reads ('[' :: ((if negated then ['^'] else []) ++ (pair.classBody ++ [']']))) 0 fun _ row =>
      row.push (.bracketed negated (.ofItems (pair.terminators.map .literal))) := by
  refine Reads.bracketed negated (ReadsItems.escape _) (escape_ne_nil h) ?_
  intro c hc hmem
  have hspecial : ∀ d ∈ ['^', '-', ']'], isMeta d ∧ d ≠ '\\' :=
    forall_mem_of_all (by decide)
  obtain ⟨hmeta, hslash⟩ := hspecial c hmem
  exact head?_escape_ne hmeta hslash pair.terminators hc

theorem reads_residual (h : pair.terminators ≠ []) :
    Reads pair.residual 0 fun _ row => row.push (others pair.terminators) := by
  have hclass := Reads.star (reads_terminators true h) fun _ _ => rfl
  have htext : pair.residual = '[' :: (['^'] ++ (pair.classBody ++ [']'])) ++ ['*'] := by
    simp [PairGrammar.residual]
  rw [htext]
  exact hclass

theorem reads_bound (h : pair.terminators ≠ []) :
    Reads pair.bound 0 fun _ row => row.pushAll [gap, lineEndOr pair.terminators] := by
  have hgap : Reads "[ \\t]*".toList 0 fun _ row => row.push gap :=
    Reads.star (Reads.bracketed false
      ((ReadsItems.plain (by decide)).append (ReadsItems.escaped fun _ => rfl) (by decide))
      (by decide) (forall_mem_of_all_option (by decide))) fun _ _ => rfl
  have hend : Reads ['$'] 0 fun _ row => row.push (.atom (.assertion .lineEnd)) :=
    Reads.atom rfl
  have hchoice : Reads
      ("(?:".toList ++ (['$'] ++ (['|'] ++ '[' :: ([] ++ (pair.classBody ++ [']'])))) ++ [')']) 0
      fun _ row => row.push (lineEndOr pair.terminators) :=
    (hend.append (Reads.alternate.append (reads_terminators false h) (by simp)) (by simp)).group
  have htext : pair.bound = "[ \\t]*".toList ++
      ("(?:".toList ++ (['$'] ++ (['|'] ++ '[' :: ([] ++ (pair.classBody ++ [']'])))) ++ [')']) := by
    have hfront : "[ \\t]*(?:$|[".toList =
      "[ \\t]*".toList ++ ("(?:".toList ++ ['$', '|', '[']) := by decide
    have hback : "])".toList = [']', ')'] := rfl
    change "[ \\t]*(?:$|[".toList ++ pair.classBody ++ "])".toList = _
    rw [hfront, hback]
    simp only [List.append_assoc, List.nil_append, List.cons_append]
  rw [htext]
  exact hgap.append hchoice (by simp)

def nameText (name : Text) (pair : PairGrammar) : Text :=
  '(' :: (escape name ++ [')']) ++ ("\\s*".toList ++ (escape pair.separator ++ "\\s*".toList))

def nameRow (name : Text) (pair : PairGrammar) : Row :=
  Row.empty.pushAll
    ([captured 1 (.ofParts (name.map .literal)), spaces] ++
      (pair.separator.map .literal ++ [spaces]))

def quotedText : Text :=
  '(' :: (quotedPattern ++ [')']) ++ (['|'] ++ ('(' :: (referencePattern ++ [')']) ++ ['|']))

def quotedRow : Row :=
  ((Row.empty.push (captured 2 (.alternation [quotes '"', quotes '\'']))).alternate.push
    (captured 3 dollarName)).alternate

def boundText (pair : PairGrammar) : Text :=
  pair.bound ++ (['|'] ++ '(' :: (pair.residual ++ [')']))

def behind (pair : PairGrammar) : Text := ')' :: (boundText pair ++ [')', ')'])

theorem reads_name : Reads (nameText name pair) 1 fun n row =>
    row.pushAll ([captured (n + 1) (.ofParts (name.map .literal)), spaces] ++
      (pair.separator.map .literal ++ [spaces])) := by
  have hname := (Reads.escape name).capture (head?_escape_ne (by decide) (by decide) name)
  have hseparator := (Reads.escape pair.separator).append reads_spaces (by decide)
  have hhead : (escape pair.separator ++ "\\s*".toList).head? ≠ some '?' := by
    have hne := head?_escape_ne (c := '?') (by decide) (by decide) pair.separator
    cases hcase : escape pair.separator with
    | nil => decide
    | cons c text =>
        rw [hcase] at hne
        exact hne
  refine (hname.append (reads_spaces.append hseparator hhead) (by simp)).congr fun n row => ?_
  rw [Row.pushAll_append, Row.pushAll_append, Row.close_pushAll]
  rfl

theorem reads_quotedText : Reads quotedText 2 fun n row =>
    ((row.push (captured (n + 1) (.alternation [quotes '"', quotes '\'']))).alternate.push
      (captured (n + 2) dollarName)).alternate := by
  have hquoted := reads_quoted.capture (by decide)
  have hreference := reads_reference.capture (by decide)
  exact hquoted.append (Reads.alternate.append (hreference.append Reads.alternate (by decide))
    (by simp)) (by simp)

theorem reads_boundText (h : pair.terminators ≠ []) : Reads (boundText pair) 1 fun n row =>
    (row.pushAll [gap, lineEndOr pair.terminators]).alternate.push
      (captured (n + 1) (others pair.terminators)) := by
  have hresidual := (reads_residual h).capture (by simp [PairGrammar.residual])
  exact (reads_bound h).append (Reads.alternate.append hresidual (by simp)) (by simp)

/-- The groups that are open where the grammar stands. -/
def around (name : Text) (pair : PairGrammar) : List OpenGroup :=
  [⟨.capture 4 none, quotedRow, false⟩, ⟨.plain [], nameRow name pair, false⟩,
    ⟨.plain [], .empty, false⟩]

theorem pattern_foldl_capture (kind : FragmentKind) (slots : List (PairSlot × Nat)) (rule : Rule) :
    (slots.foldl (fun rule (slot, group) => rule.capture group (tagOf kind slot)) rule).pattern =
      rule.pattern := by
  induction slots generalizing rule with
  | nil => rfl
  | cons slot slots ih => exact ih _

theorem pattern_ofDraft (kind : FragmentKind) (draft : List (Draft PairSlot)) :
    (ofDraft kind draft).rule.pattern = Draft.sources draft :=
  pattern_foldl_capture kind _ _

/-- The pattern of a known attribute, cut around its grammar. -/
theorem wrap_known (a : Attribute) (pair : PairGrammar) :
    wrap (known a pair).rule.pattern =
      "(?:".toList ++ (nameText a.name pair ++ ("(?:".toList ++
        (quotedText ++ '(' :: (wrap a.grammar ++ behind pair)))) := by
  rw [known, pattern_ofDraft]
  simp only [wrap, knownDraft, pairDraft, Draft.sources, Draft.source, List.cons_append,
    List.nil_append, List.append_nil, List.append_assoc, nameText, quotedText, behind, boundText]

theorem run_ahead {rest : Text} (hrest : rest.head? ≠ some '?') :
    run .initial ("(?:".toList ++ (nameText name pair ++ ("(?:".toList ++
      (quotedText ++ '(' :: rest)))) = run (State.initial.within 4 (around name pair)) rest := by
  let outer := (State.initial.enter (.plain [])).grown 1 fun n row =>
    row.pushAll ([captured (n + 1) (.ofParts (name.map .literal)), spaces] ++
      (pair.separator.map .literal ++ [spaces]))
  let inner := (outer.enter (.plain [])).grown 2 fun n row =>
    ((row.push (captured (n + 1) (.alternation [quotes '"', quotes '\'']))).alternate.push
      (captured (n + 2) dollarName)).alternate
  calc run .initial ("(?:".toList ++ (nameText name pair ++ ("(?:".toList ++
          (quotedText ++ '(' :: rest))))
      = run (State.initial.enter (.plain [])) (nameText name pair ++ ("(?:".toList ++
          (quotedText ++ '(' :: rest))) := run_openGroup rfl _
    _ = run outer ("(?:".toList ++ (quotedText ++ '(' :: rest)) := reads_name _ _ rfl (by simp)
    _ = run (outer.enter (.plain [])) (quotedText ++ '(' :: rest) := run_openGroup rfl _
    _ = run inner ('(' :: rest) := reads_quotedText _ _ rfl (by simp)
    _ = run inner.capturing rest := run_openCapture rfl hrest

/-- The group of the grammar is closed, further alternatives are read, and the pattern ends. -/
theorem run_alternatives {state : State} {text : Text} {count : Nat} {build : Nat → Row → Row}
    (h : Reads text count build) (hgroups : state.groups = around name pair) :
    run state (')' :: (text ++ [')', ')'])) = .ok (.group (.plain [])
      ((nameRow name pair).push (.group (.plain [])
        (build state.captures (quotedRow.push (captured 4 state.row.close))).close)).close) := by
  let pattern : OpenGroup := ⟨.plain [], .empty, false⟩
  let values : OpenGroup := ⟨.plain [], nameRow name pair, false⟩
  let valid := state.leaving ⟨.capture 4 none, quotedRow, false⟩ [values, pattern]
  let read := valid.grown count build
  let last := (read.leaving values [pattern]).leaving pattern []
  have hvalues : read.groups = [values, pattern] := rfl
  have hpattern : (read.leaving values [pattern]).groups = [pattern] := rfl
  calc run state (')' :: (text ++ [')', ')']))
      = run valid (text ++ [')', ')']) := run_closeGroup hgroups
    _ = run read [')', ')'] := h valid _ rfl (by simp)
    _ = run (read.leaving values [pattern]) [')'] := run_closeGroup hvalues
    _ = run last [] := run_closeGroup hpattern
    _ = .ok _ := run_of_skip_eq_nil rfl

theorem nameRow_push_close (value : Node) :
    ((nameRow name pair).push value).close =
      .concat ([captured 1 (.ofParts (name.map .literal)), spaces] ++
        (pair.separator.map .literal ++ [spaces, value])) := by
  have hpush : (nameRow name pair).push value = Row.empty.pushAll
      ([captured 1 (.ofParts (name.map .literal)), spaces] ++
        (pair.separator.map .literal ++ [spaces, value])) := by
    simp only [nameRow, Row.pushAll_append]
    rfl
  rw [hpush, Row.close_pushAll]
  rfl

theorem run_behind {state : State} (hterminators : pair.terminators ≠ [])
    (hgroups : state.groups = around name pair) :
    run state (behind pair) = .ok (knownTree name pair
      (.concat [captured 4 state.row.close, gap, lineEndOr pair.terminators])
      (state.captures + 1)) := by
  rw [behind, run_alternatives (reads_boundText hterminators) hgroups, nameRow_push_close]
  rfl

def commented (pair : PairGrammar) (more : Text) : Text :=
  escape more ++ ']' :: ')' :: ((['|'] ++ '(' :: (pair.residual ++ [')'])) ++ [')', ')'])

/-- The literals that are left of a class's end in verbose mode. -/
def leftover (more : Text) : List Node :=
  (more.filter (!isBlank ·)).map .literal ++ [.literal ']']

theorem run_bracket {state : State} (rest : Text) :
    run state (']' :: rest) = run (state.push (.literal ']')) rest := by
  have hskip : skip state.verbose (']' :: rest) = ']' :: rest := by cases state.verbose <;> rfl
  exact run_of_takes hskip (.atom rfl)

theorem run_leftover {state : State} {more rest : Text} (hverbose : state.verbose = true) :
    run state (escape more ++ ']' :: rest) =
      run { state with row := state.row.pushAll (leftover more) } rest := by
  rw [run_escape_verbose hverbose, run_bracket]
  simp only [leftover, Row.pushAll_append]
  rfl

theorem run_commented {state : State} {more : Text} (hterminators : pair.terminators ≠ [])
    (hverbose : state.verbose = true) (hgroups : state.groups = around name pair) :
    run state (commented pair more) = .ok (knownTree name pair
      (captured 4 (state.row.pushAll (leftover more)).close) (state.captures + 1)) := by
  have hresidual : Reads (['|'] ++ '(' :: (pair.residual ++ [')'])) 1 fun n row =>
      row.alternate.push (captured (n + 1) (others pair.terminators)) :=
    Reads.alternate.append ((reads_residual hterminators).capture (by simp [PairGrammar.residual]))
      (by simp)
  let read : State := { state with row := state.row.pushAll (leftover more) }
  have hread : read.groups = around name pair := hgroups
  rw [commented, run_leftover hverbose]
  refine (run_alternatives hresidual hread).trans ?_
  rw [nameRow_push_close]
  rfl

end Highlight.Fragment
