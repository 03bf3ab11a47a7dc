import Mathlib.Data.List.TakeWhile
import Highlight.Proofs.Pattern.ClassLexemes
import Highlight.Proofs.Pattern.Embedding

/-!
A scan finds the groups that are read. Whatever a step of the reader takes up ends where its lexeme
ends, or at the end of further lexemes that open nothing; so a pattern that can be read has as many
capture groups as a scan of it finds.
-/

namespace Highlight.Pattern

variable {verbose : Bool} {text rest : Text}

theorem cutAt?_of_takeName? {atStart : Bool} {name : Text}
    (h : takeName? atStart text = some (name, rest)) : cutAt? ['>'] text = some (name, rest) := by
  induction text generalizing atStart name with
  | nil => cases h
  | cons c text ih =>
      rw [cutAt?_cons]
      simp only [takeName?] at h
      split at h
      · next hc =>
          split at h <;> cases h
          rw [if_pos hc.symm]
      · next hc =>
          split at h
          · obtain ⟨⟨n, r⟩, hr, heq⟩ := Option.map_eq_some_iff.1 h
            cases heq
            rw [if_neg (Ne.symm hc), ih hr, Option.map_some]
          · cases h

theorem setting_append {seen : Flags} {flag : Flag} (on : Bool)
    (hseen : seen.any (·.1 = flag) = false) :
    Flags.setting .verbose (seen ++ [(flag, on)]) =
      if flag = .verbose then some on else Flags.setting .verbose seen := by
  rw [Flags.setting, Flags.setting, List.find?_append]
  by_cases hflag : flag = .verbose
  · subst hflag
    have hnone : seen.find? (·.1 = .verbose) = none :=
      List.find?_eq_none.2 (List.any_eq_false.1 hseen)
    rw [hnone]
    rfl
  · have hlast : [(flag, on)].find? (·.1 = .verbose) = none :=
      List.find?_eq_none.2 (by simpa using hflag)
    rw [hlast, Option.or_none, if_neg hflag]

theorem pastFlags?_of_readFlags {on dangling : Bool} {seen set : Flags} {c : Char}
    (h : readFlags on dangling seen text = .ok (set, c, rest)) :
    pastFlags? on (Flags.setting .verbose seen) text =
      some (if c = ':' then .group (set.setting .verbose) else .setting (set.setting .verbose),
        rest) := by
  induction text generalizing on dangling seen with
  | nil => cases h
  | cons d text ih =>
      simp only [readFlags] at h
      simp only [pastFlags?]
      split at h
      · next hend =>
          split at h <;> cases h
          split
          · rfl
          · next hcolon =>
              have hclose : c = ')' := by simpa [hcolon] using hend
              rw [if_pos hclose]
      next hend =>
      obtain ⟨hcolon, hclose⟩ : d ≠ ':' ∧ d ≠ ')' := by simpa using hend
      rw [if_neg hcolon, if_neg hclose]
      split at h
      · next hhyphen =>
          rw [if_pos hhyphen]
          split at h
          · exact ih h
          · cases h
      next hhyphen =>
      rw [if_neg hhyphen]
      split at h
      · cases h
      · next flag hflag =>
          split at h
          · cases h
          · next hseen =>
              have hnext := ih h
              rw [setting_append on (Bool.eq_false_iff.2 hseen)] at hnext
              by_cases hx : d = 'x'
              · subst hx
                cases hflag
                exact hnext
              · have hne : flag ≠ .verbose := by
                  rintro rfl
                  unfold Flag.ofLetter? at hflag
                  split at hflag <;> cases hflag
                  exact hx rfl
                rw [if_neg hne] at hnext
                rw [if_neg hx]
                exact hnext

def Header.opening : Header → Opening
  | .flags set => .setting (set.setting .verbose)
  | .plain set => .group (set.setting .verbose)
  | .unnamed | .named _ => .capture

theorem opening?_of_readHeader {header : Header}
    (h : readHeader verbose text = .ok (header, rest)) :
    ∃ rest', opening? verbose text = some (header.opening, rest') ∧
      (rest' = rest ∨ header = .unnamed ∧ rest = skip verbose rest') := by
  by_cases hhead : (skip verbose text).head? = some '?'
  · obtain ⟨inner, hinner⟩ := List.head?_eq_some_iff.1 hhead
    refine ⟨rest, ?_, .inl rfl⟩
    simp only [readHeader, opening?, hinner, ← afterName?.eq_1] at h ⊢
    by_cases hlook : isLookAround ('?' :: inner) = true
    · rw [if_pos hlook] at h
      cases h
    · rw [if_neg hlook] at h ⊢
      cases hname : afterName? ('?' :: inner) with
      | some name =>
          rw [hname] at h
          dsimp only at h ⊢
          split at h <;> cases h
          next htake => rw [cutAt?_of_takeName? htake, Option.map_some, Header.opening]
      | none =>
          rw [hname] at h
          dsimp only at h ⊢
          split at h
          · cases h
          · next set c after hflags =>
              have hpast : pastFlags? true none inner =
                  some (if c = ':' then .group (set.setting .verbose)
                    else .setting (set.setting .verbose), after) :=
                pastFlags?_of_readFlags hflags
              split at h
              · next hc =>
                  cases h
                  rw [if_pos hc] at hpast
                  exact hpast
              · next hc =>
                  split at h <;> cases h
                  rw [if_neg hc] at hpast
                  exact hpast
  · rw [readHeader_unnamed hhead] at h
    cases h
    exact ⟨text, opening?_of_ne hhead, .inr ⟨rfl, rfl⟩⟩

theorem pastComment?_of_bracedFrom? {name : Text}
    (h : bracedFrom? verbose true text = some (name, rest)) :
    ∃ after, pastComment? text = some after ∧
      bracedFrom? verbose false after = some (name, rest) := by
  induction text with
  | nil => cases h
  | cons c text ih =>
      by_cases hc : c = '\n'
      · subst hc
        exact ⟨text, rfl, h⟩
      · have hinside : bracedFrom? verbose (c ≠ '\n') text = some (name, rest) := h
        simp only [hc, ne_eq, not_false_eq_true, decide_true] at hinside
        obtain ⟨after, hafter, h⟩ := ih hinside
        exact ⟨after, (if_neg hc).trans hafter, h⟩

namespace Mode

variable {mode next : Mode} {captures : Bool} {c : Char}

/-- How many capture groups a scan finds. -/
def groups (mode : Mode) (text : Text) : Nat := (mode.scan text).openings.length

theorem groups_nil (mode : Mode) : mode.groups [] = 0 := by
  rw [groups, scan_nil]
  rfl

theorem groups_of_lexeme (h : Lexeme mode text captures next rest) :
    mode.groups text = captures.toNat + next.groups rest := by
  rw [groups, scan_of_some (lexeme?_of_lexeme h), Scan.after, List.length_append, List.length_map]
  cases captures <;> rfl

theorem groups_of_quiet (h : Lexeme mode text false next rest) :
    mode.groups text = next.groups rest :=
  (groups_of_lexeme h).trans (Nat.zero_add _)

theorem groups_plain (hc : isSpecial c = true → c = '#' ∧ mode.verbose = false) (text : Text) :
    mode.groups (c :: text) = mode.groups text :=
  groups_of_quiet (.plain hc)

theorem groups_skip (mode : Mode) (text : Text) :
    mode.groups (skip mode.verbose text) = mode.groups text := by
  rcases mode.scan_skip text with ⟨n, hn⟩ | ⟨hnil, hnone⟩
  · rw [groups, groups, hn, Scan.after, List.nil_append, List.length_map]
  · rw [hnil, groups_nil, groups, hnone]
    rfl

theorem groups_dropLazy (mode : Mode) (text : Text) :
    mode.groups (dropLazy text) = mode.groups text := by
  unfold dropLazy
  split
  · exact (groups_plain (fun h => absurd h (by decide)) _).symm
  · rfl

theorem groups_braced {name : Text} (h : braced? mode.verbose text = some (name, rest))
    (hname : ∀ c ∈ name, isSpecial c = false) : mode.groups text = mode.groups rest := by
  have hplain {c : Char} (hc : isSpecial c = false) : isSpecial c = true →
      c = '#' ∧ mode.verbose = false := by
    rw [hc]
    nofun
  induction hlength : text.length using Nat.strongRecOn generalizing text name with
  | ind length ih =>
  subst hlength
  cases text with
  | nil => cases h
  | cons c text =>
      simp only [braced?, bracedFrom?] at h
      split at h
      · next hblank =>
          have hspecial := isSpecial_of_isBlank (Bool.and_eq_true_iff.1 hblank).2
          rw [groups_plain (hplain hspecial), ih text.length (Nat.lt_succ_self _) h hname rfl]
      split at h
      · next hhash =>
          obtain ⟨hverbose, hc⟩ := Bool.and_eq_true_iff.1 hhash
          obtain rfl : c = '#' := of_decide_eq_true hc
          obtain ⟨after, hafter, h⟩ := pastComment?_of_bracedFrom? h
          have hle := length_of_pastComment? hafter
          rw [groups_of_quiet (.comment hverbose hafter),
            ih after.length (Nat.lt_succ_of_le hle) h hname rfl]
      split at h
      · next hc =>
          subst hc
          cases h
          exact groups_plain (hplain (by decide)) _
      · obtain ⟨⟨i, r⟩, hr, heq⟩ := Option.map_eq_some_iff.1 h
        cases heq
        obtain ⟨hc, hname⟩ := List.forall_mem_cons.1 hname
        rw [groups_plain (hplain hc), ih text.length (Nat.lt_succ_self _) hr hname rfl]

def ofState (state : State) : Mode :=
  ⟨state.verbose, (state.groups.map (·.verbose)).foldr remember []⟩

theorem leave_remember (verbose inside : Bool) (outer : List Bool) :
    leave ⟨inside, remember verbose outer⟩ = ⟨verbose, outer⟩ := by
  cases outer with
  | nil => cases verbose <;> rfl
  | cons first outer => rfl

end Mode

theorem eq_of_ofChar {c : Char} :
    (Symbol.ofChar c = .openGroup → c = '(') ∧ (Symbol.ofChar c = .closeGroup → c = ')') ∧
      (Symbol.ofChar c = .openClass → c = '[') ∧ (Symbol.ofChar c = .escape → c = '\\') := by
  have hite {p q : Prop} {inst : Decidable p} {symbol a b : Symbol} (ha : p → a = symbol → q)
      (hb : b = symbol → q) : (if p then a else b) = symbol → q := by
    split
    · next hp => exact ha hp
    · exact hb
  unfold Symbol.ofChar
  refine ⟨?_, ?_, ?_, ?_⟩
  all_goals
    iterate 12
      refine hite (fun hc h => ?_) ?_
      · first | exact hc | cases h
    nofun

/-- What stands at the start of a text behind blanks and comments, and is read as nothing of note,
is a lexeme by itself. -/
theorem isSpecial_of_ofChar {c : Char}
    (hc : Symbol.ofChar c ∉ [.openGroup, .closeGroup, .openClass, .escape])
    (hskip : skip verbose (c :: text) = c :: text) (h : isSpecial c = true) :
    c = '#' ∧ verbose = false := by
  have hspecial : c = '\\' ∨ c = '[' ∨ c = '(' ∨ c = ')' ∨ c = '#' := by
    simpa [isSpecial] using h
  rcases hspecial with rfl | rfl | rfl | rfl | rfl
  · exact absurd (by simp [Symbol.ofChar]) hc
  · exact absurd (by simp [Symbol.ofChar]) hc
  · exact absurd (by simp [Symbol.ofChar]) hc
  · exact absurd (by simp [Symbol.ofChar]) hc
  · refine ⟨rfl, Bool.eq_false_iff.2 ?_⟩
    rintro rfl
    have hlonger := congrArg List.length hskip
    have hle := length_skipFrom_le true text
    rw [show skip true ('#' :: text) = skipFrom true text from rfl, List.length_cons] at hlonger
    omega

theorem isSpecial_of_times? {count : Nat} (h : times? text = some count) :
    ∀ c ∈ text, isSpecial c = false := by
  have hdigit {c : Char} (hc : c.isDigit = true) : isSpecial c = false := by
    have hspecial : ∀ d ∈ "\\[()#".toList, d.isDigit = false := forall_mem_of_all (by decide)
    refine Bool.eq_false_iff.2 fun h => ?_
    cases (hspecial c (of_decide_eq_true h)).symm.trans hc
  have htrim {front : Text} {c : Char} (hmem : c ∈ front) :
      isBlank c = true ∨ c ∈ front.dropWhile isBlank := by
    rw [← List.takeWhile_append_dropWhile (p := isBlank) (l := front), List.mem_append] at hmem
    exact hmem.imp_left List.mem_takeWhile_imp
  simp only [times?] at h
  split at h
  · cases h
  · next hdigits =>
      simp only [Bool.or_eq_true, Bool.not_eq_true', not_or, Bool.not_eq_false,
        List.all_eq_true] at hdigits
      intro c hc
      rcases htrim hc with hblank | hc
      · exact isSpecial_of_isBlank hblank
      · rcases htrim (List.mem_reverse.2 hc) with hblank | hc
        · exact isSpecial_of_isBlank hblank
        · exact hdigit (hdigits.2 c (List.mem_reverse.2 hc))

theorem isSpecial_of_bounds? {inner : Text} {bounds : Nat × Option Nat}
    (h : bounds? inner = some bounds) : ∀ c ∈ inner, isSpecial c = false := by
  have hjoin {front back : Text} (hcut : cutAt? [','] inner = some (front, back))
      (hfront : ∀ c ∈ front, isSpecial c = false) (hback : ∀ c ∈ back, isSpecial c = false) :
      ∀ c ∈ inner, isSpecial c = false := by
    rw [eq_of_cutAt? hcut]
    simp only [List.mem_append, List.mem_cons]
    rintro c (hc | rfl | hc)
    · exact hfront c hc
    · rfl
    · exact hback c hc
  rw [bounds?] at h
  split at h
  · obtain ⟨count, hcount, -⟩ := Option.map_eq_some_iff.1 h
    exact isSpecial_of_times? hcount
  · next hcut =>
      obtain ⟨count, hcount, -⟩ := Option.map_eq_some_iff.1 h
      exact hjoin hcut (isSpecial_of_times? hcount) nofun
  · next hcut =>
      split at h
      · next hleast hmost =>
          exact hjoin hcut (isSpecial_of_times? hleast) (isSpecial_of_times? hmost)
      · cases h

theorem isSpecial_of_boundaryOf? {name : Text} (h : (boundaryOf? name).isSome) :
    ∀ c ∈ name, isSpecial c = false := by
  rw [boundaryOf?] at h
  iterate 4
    split at h
    · next heq =>
        rw [heq]
        exact forall_mem_of_all (by decide)
  cases h

theorem ofState_of_openGroup {state next : State} {header : Header}
    (h : state.openGroup header = .ok next) :
    Mode.ofState next = (Mode.ofState state).take header.opening ∧
      next.captures = state.captures + header.opening.captures.toNat := by
  cases header with
  | flags set | plain set | unnamed =>
      cases h
      exact ⟨rfl, rfl⟩
  | named name =>
      simp only [State.openGroup] at h
      split at h <;> cases h
      exact ⟨rfl, rfl⟩

theorem ofState_of_closeGroup {state next : State} (h : state.closeGroup = .ok next) :
    Mode.ofState next = (Mode.ofState state).leave ∧ next.captures = state.captures := by
  rw [State.closeGroup] at h
  split at h
  · cases h
  · next group groups hgroups =>
      cases h
      refine ⟨?_, rfl⟩
      rw [Mode.ofState, Mode.ofState, hgroups]
      exact (Mode.leave_remember _ _ _).symm

theorem groups_of_repeated {state next : State} {least : Nat} {most : Option Nat}
    (h : state.repeated least most text = .ok (next, rest)) :
    state.captures + (Mode.ofState state).groups text =
      next.captures + (Mode.ofState next).groups rest := by
  obtain ⟨greedy, row, -, -, rfl, rfl⟩ := State.repeated_eq_ok_iff.1 h
  exact congrArg _ (Mode.groups_dropLazy _ text).symm

/-- A step opens the groups that a scan finds in what it takes up. -/
theorem groups_of_takes {state next : State} (hskip : skip state.verbose text = text)
    (h : State.Takes state text next rest) :
    state.captures + (Mode.ofState state).groups text =
      next.captures + (Mode.ofState next).groups rest := by
  have hplain {c : Char} {inner : Text} (htext : text = c :: inner)
      (hc : Symbol.ofChar c ∉ [.openGroup, .closeGroup, .openClass, .escape]) :
      (Mode.ofState state).groups (c :: inner) = (Mode.ofState state).groups inner :=
    Mode.groups_plain (isSpecial_of_ofChar hc (htext ▸ hskip)) inner
  cases h with
  | @group c inner rest header next hc hheader hopen =>
      obtain rfl := eq_of_ofChar.1 hc
      obtain ⟨rest', hopening, hrest⟩ := opening?_of_readHeader hheader
      obtain ⟨hmode, hcaptures⟩ := ofState_of_openGroup hopen
      have hlexeme : Mode.Lexeme (Mode.ofState state) ('(' :: inner) header.opening.captures
          (Mode.ofState next) rest' := hmode ▸ .opens hopening
      have hgroups : (Mode.ofState next).groups rest' = (Mode.ofState next).groups rest := by
        rcases hrest with rfl | ⟨rfl, rfl⟩
        · rfl
        · cases hopen
          exact (Mode.groups_skip _ rest').symm
      rw [Mode.groups_of_lexeme hlexeme, hcaptures, hgroups, Nat.add_assoc]
  | @close c rest next hc hclose =>
      obtain rfl := eq_of_ofChar.2.1 hc
      obtain ⟨hmode, hcaptures⟩ := ofState_of_closeGroup hclose
      rw [Mode.groups_of_quiet .closes, ← hmode, hcaptures]
  | @alternate c rest hc => exact congrArg _ (hplain rfl (by simp [hc]))
  | @bracketed c inner rest negated set hc hclass =>
      obtain rfl := eq_of_ofChar.2.2.1 hc
      exact congrArg _ (Mode.groups_of_quiet (.bracketed (pastClass?_of_readClass hclass)))
  | @repeated c inner rest least most next hc hnext =>
      rw [hplain rfl (by simp [hc]), groups_of_repeated hnext]
  | @counted c inner rest next hc hnext =>
      rw [hplain rfl (by simp [hc])]
      rw [State.readCounted] at hnext
      split at hnext
      · cases hnext
      · next braces after hbraced =>
          split at hnext
          · cases hnext
          · next least most hbounds =>
              have hverbose : (Mode.ofState state).verbose = state.verbose := rfl
              rw [Mode.groups_braced hbraced (isSpecial_of_bounds? hbounds), ← Mode.groups_skip,
                hverbose, groups_of_repeated hnext]
  | @escape c inner rest a hc hescape =>
      obtain rfl := eq_of_ofChar.2.2.2 hc
      have hlexeme {after : Text} (hafter : pastEscape? state.verbose inner = some after) :
          (Mode.ofState state).groups ('\\' :: inner) = (Mode.ofState state).groups after :=
        Mode.groups_of_quiet (.escape hafter)
      rcases pastEscape?_of_readEscape hescape with hpast | ⟨-, braces, name, hpast, hbraced, hkind⟩
      · exact congrArg _ (hlexeme hpast)
      · rw [hlexeme hpast, Mode.groups_plain (fun h => absurd h (by decide)),
          Mode.groups_braced hbraced (isSpecial_of_boundaryOf? hkind)]
        rfl
  | @atom c rest a hc => exact congrArg _ (hplain rfl (by simp [hc]))

/-- A pattern that can be read has the capture groups that a scan of it finds. -/
theorem lastIndex_of_run {state : State} {node : Node} (hnumbered : state.Numbered)
    (h : run state text = .ok node) :
    node.lastIndex = state.captures + (Mode.ofState state).groups text := by
  fun_induction run state text with
  | case1 state text hempty =>
      have hnil := List.isEmpty_iff.1 hempty
      have hcount : (Mode.ofState state).groups text = 0 := by
        have hmode : skip (Mode.ofState state).verbose text = [] := hnil
        rw [← Mode.groups_skip, hmode, Mode.groups_nil]
      rw [hcount]
      rw [State.finish] at h
      split at h <;> cases h
      next hgroups =>
        rw [State.Numbered, hgroups] at hnumbered
        rw [Row.lastIndex_close, ← hnumbered]
        exact (Nat.max_zero _).symm
  | case2 => cases h
  | case3 state text hempty next rest hstep ih =>
      have htakes := State.takes_of_step hstep
      have hidem : skip state.verbose (skip state.verbose text) = skip state.verbose text := by
        cases state.verbose with
        | false => rfl
        | true => exact skipFrom_idem false text
      have hmode : (Mode.ofState state).verbose = state.verbose := rfl
      rw [ih (hnumbered.step hstep) h, ← groups_of_takes hidem htakes, ← hmode, Mode.groups_skip]

end Highlight.Pattern
