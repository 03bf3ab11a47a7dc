import Highlight.Proofs.Pattern.ClassLookahead
import Highlight.Proofs.Pattern.Lexemes

/-!
How far a scan looks ahead. A lexeme that has an end is the same lexeme in every longer text, but
for an opening parenthesis at the very end of a text, which a question mark behind it would make
part of a longer opening.
-/

namespace Highlight.Pattern

variable {verbose : Bool} {text rest : Text}

theorem pastCode?_append {count : Nat} (tail : Text)
    (h : pastCode? verbose count text = some rest) :
    pastCode? verbose count (text ++ tail) = some (rest ++ tail) := by
  have hne : skip verbose text ≠ [] := by
    intro hnil
    rw [pastCode?, hnil] at h
    cases h
  rw [pastCode?] at h ⊢
  rw [skip_append tail hne]
  generalize skip verbose text = inner at h hne
  cases inner with
  | nil => exact absurd rfl hne
  | cons c inner =>
      simp only [List.cons_append] at h ⊢
      split at h
      · next hc =>
          obtain ⟨⟨code, after⟩, hbraced, rfl⟩ := Option.map_eq_some_iff.1 h
          rw [if_pos hc]
          exact Option.map_eq_some_iff.2 ⟨_, braced?_append tail hbraced, rfl⟩
      · next hc =>
          obtain ⟨⟨code, after⟩, htake, rfl⟩ := Option.map_eq_some_iff.1 h
          rw [if_neg hc]
          exact Option.map_eq_some_iff.2 ⟨_, takeFixed?_append tail htake, rfl⟩

theorem pastEscape?_append (tail : Text) (h : pastEscape? verbose text = some rest) :
    pastEscape? verbose (text ++ tail) = some (rest ++ tail) := by
  cases text with
  | nil => cases h
  | cons c text =>
      simp only [List.cons_append, pastEscape?] at h ⊢
      split at h
      · exact pastCode?_append tail h
      · cases h
        rfl

theorem pastClassAtom?_append (tail : Text) (h : pastClassAtom? verbose text = some rest) :
    pastClassAtom? verbose (text ++ tail) = some (rest ++ tail) := by
  cases text with
  | nil => cases h
  | cons c text =>
      simp only [List.cons_append, pastClassAtom?] at h ⊢
      split at h
      · next hslash =>
          rw [if_pos hslash]
          exact pastEscape?_append tail h
      · next hslash =>
          cases h
          rw [if_neg hslash]

theorem pastClassItem?_append (tail : Text) (h : pastClassItem? verbose text = some rest) :
    pastClassItem? verbose (text ++ tail) = some (rest ++ tail) := by
  simp only [pastClassItem?] at h ⊢
  split at h
  · cases h
  · next first hfirst =>
      rw [pastClassAtom?_append tail hfirst]
      dsimp only
      split at h
      · cases h
      · next c after hskip =>
          have hne : skip verbose first ≠ [] := by rw [hskip]; exact List.cons_ne_nil _ _
          rw [skip_append tail hne, hskip]
          simp only [List.cons_append]
          by_cases hc : c = '-'
          · subst hc
            cases hpeek : peek? verbose after with
            | none =>
                simp [hpeek, skip_eq_nil_of_peek? hpeek, pastClassAtom?] at h
            | some d =>
                rw [hpeek] at h
                rw [peek?_append tail hpeek]
                split at h
                · next hend =>
                    cases h
                    rw [if_pos hend]
                    rfl
                · next hend =>
                    have hafter : skip verbose after ≠ [] := by
                      intro hnil
                      rw [hnil] at h
                      cases h
                    rw [if_neg hend, skip_append tail hafter, pastClassAtom?_append tail h]
          · simp only [hc, ne_eq, not_false_eq_true, decide_true, Bool.true_or, if_true] at h ⊢
            cases h
            rfl

theorem pastBracket?_append (tail : Text) (h : pastBracket? verbose text = some rest) :
    pastBracket? verbose (text ++ tail) = some (rest ++ tail) := by
  obtain ⟨negated, items, hopen⟩ := pastBracket?_eq_some_iff.1 h
  exact pastBracket?_eq_some_iff.2 ⟨negated, items, openClass_append tail hopen⟩

theorem exists_cons_of_pastClassItem? {c : Char}
    (h : pastClassItem? verbose (c :: text) = some rest) :
    ∃ d inner, text = d :: inner := by
  cases text with
  | cons d inner => exact ⟨d, inner, rfl⟩
  | nil =>
      have hatom : pastClassAtom? verbose [c] = if c = '\\' then none else some [] := rfl
      rw [pastClassItem?, hatom] at h
      split at h
      · cases h
      · next hsome =>
          split at hsome <;> cases hsome
          rw [skip_nil] at h
          cases h

theorem pastClassPart?_append {depth next : Nat} (tail : Text)
    (h : pastClassPart? verbose depth text = some (next, rest)) :
    pastClassPart? verbose depth (text ++ tail) = some (next, rest ++ tail) := by
  cases text with
  | nil => cases h
  | cons c text =>
      simp only [List.cons_append, pastClassPart?] at h ⊢
      split at h
      · next hc =>
          obtain ⟨after, hopen, heq⟩ := Option.map_eq_some_iff.1 h
          cases heq
          rw [if_pos hc, pastBracket?_append tail hopen, Option.map_some]
      next hopen =>
      rw [if_neg hopen]
      split at h
      · next hc =>
          cases h
          rw [if_pos hc]
      next hclose =>
      rw [if_neg hclose]
      split at h
      · next hop =>
          cases h
          rw [← List.cons_append, setOperator?_append tail hop]
      · next hop =>
          obtain ⟨after, hitem, heq⟩ := Option.map_eq_some_iff.1 h
          cases heq
          obtain ⟨d, inner, rfl⟩ := exists_cons_of_pastClassItem? hitem
          rw [← List.cons_append, setOperator?_cons_cons_append tail hop,
            pastClassItem?_append tail hitem]
          rfl

theorem pastBrackets?_append {depth : Nat} (tail : Text)
    (h : pastBrackets? verbose depth text = some rest) :
    pastBrackets? verbose depth (text ++ tail) = some (rest ++ tail) := by
  have hlong {depth : Nat} {text rest : Text} {next : Nat}
      (hpart : pastClassPart? verbose depth (skip verbose text) = some (next, rest)) :
      pastClassPart? verbose depth (skip verbose (text ++ tail)) = some (next, rest ++ tail) := by
    have hne : skip verbose text ≠ [] := by
      intro hnil
      rw [hnil] at hpart
      cases hpart
    rw [skip_append tail hne]
    exact pastClassPart?_append tail hpart
  fun_induction pastBrackets? verbose depth text with
  | case1 => cases h
  | case2 depth text rest' hpart =>
      cases h
      exact pastBrackets?_of_closed (hlong hpart)
  | case3 depth text next rest' hpart ih =>
      rw [pastBrackets?_of_open (hlong hpart)]
      exact ih h

theorem pastClass?_append (tail : Text) (h : pastClass? verbose text = some rest) :
    pastClass? verbose (text ++ tail) = some (rest ++ tail) := by
  obtain ⟨inner, hopen, hclose⟩ := Option.bind_eq_some_iff.1 h
  exact Option.bind_eq_some_iff.2
    ⟨_, pastBracket?_append tail hopen, pastBrackets?_append tail hclose⟩

theorem isLookAround_append_of_eq_true (tail : Text) (h : isLookAround text = true) :
    isLookAround (text ++ tail) = true := by
  obtain ⟨mark, hmem, hmark⟩ := List.any_eq_true.1 h
  obtain ⟨after, hafter⟩ := Option.isSome_iff_exists.1 hmark
  exact List.any_eq_true.2 ⟨mark, hmem, Option.isSome_iff_exists.2 ⟨_, after?_append tail hafter⟩⟩

theorem pastFlags?_append {on : Bool} {seen : Option Bool} {opening : Opening} (tail : Text)
    (h : pastFlags? on seen text = some (opening, rest)) :
    pastFlags? on seen (text ++ tail) = some (opening, rest ++ tail) := by
  fun_induction pastFlags? on seen text with
  | case1 => cases h
  | case2 on seen text =>
      cases h
      rfl
  | case3 on seen text =>
      cases h
      rfl
  | case4 on seen text _ _ ih => exact ih h
  | case5 on seen text _ _ _ ih => exact ih h
  | case6 on seen c text hcolon hclose hhyphen hx ih =>
      simp only [List.cons_append, pastFlags?, hcolon, hclose, hhyphen, hx, if_false]
      exact ih h

theorem afterName?_append_of_eq_none {d : Char} (tail : Text) (hd : d = 'P' → text ≠ [])
    (h : afterName? ('?' :: d :: text) = none) :
    afterName? ('?' :: d :: (text ++ tail)) = none := by
  by_cases hp : d = 'P'
  · subst hp
    cases text with
    | nil => exact absurd rfl (hd rfl)
    | cons e text =>
        have he : '<' ≠ e := by
          rintro rfl
          cases h
        simp [afterName?, Text.after?, he]
  · refine afterName?_of_ne ?_ hp _
    rintro rfl
    cases h

/-- An opening has its end in the text, or is a parenthesis alone, behind which no question mark may
come to stand. -/
theorem opening?_append {opening : Opening} {tail : Text}
    (h : opening? verbose text = some (opening, rest))
    (hquestion : skip verbose text = [] → (skip verbose (text ++ tail)).head? ≠ some '?') :
    opening? verbose (text ++ tail) = some (opening, rest ++ tail) := by
  by_cases hhead : (skip verbose text).head? = some '?'
  · obtain ⟨inner, hinner⟩ := List.head?_eq_some_iff.1 hhead
    have hne : skip verbose text ≠ [] := by rw [hinner]; exact List.cons_ne_nil _ _
    simp only [opening?, skip_append tail hne, hinner, List.cons_append] at h ⊢
    split at h
    · next hlook =>
        cases h
        rw [← List.cons_append, isLookAround_append_of_eq_true tail hlook]
        rfl
    · next hlook =>
        cases inner with
        | nil => cases h
        | cons d inner =>
        cases hname : afterName? ('?' :: d :: inner) with
        | some name =>
            rw [hname] at h
            obtain ⟨⟨front, after⟩, hcut, heq⟩ := Option.map_eq_some_iff.1 h
            cases heq
            have hd : d = '<' → inner ≠ [] := by
              rintro rfl rfl
              cases hname
              cases hcut
            have hlong := afterName?_append tail hname
            simp only [List.cons_append] at hlong ⊢
            rw [isLookAround_append tail hd (by simpa using hlook)]
            simp only [Bool.false_eq_true, if_false, hlong, cutAt?_append tail hcut,
              Option.map_some]
        | none =>
            rw [hname] at h
            have hd : d = 'P' → inner ≠ [] := by
              rintro rfl rfl
              cases h
            have hangle : d ≠ '<' := by
              rintro rfl
              cases hname
            have hlong := pastFlags?_append tail h
            simp only [List.cons_append] at hlong ⊢
            rw [isLookAround_append tail (fun heq => absurd heq hangle) (by simpa using hlook)]
            simp only [Bool.false_eq_true, if_false, afterName?_append_of_eq_none tail hd hname,
              hlong]
  · rw [opening?_of_ne hhead] at h
    cases h
    refine opening?_of_ne ?_
    by_cases hnil : skip verbose text = []
    · exact hquestion hnil
    · rw [skip_append tail hnil]
      cases hskip : skip verbose text with
      | nil => exact absurd hskip hnil
      | cons c after =>
          rw [hskip] at hhead
          exact hhead

theorem pastComment?_append (tail : Text) (h : pastComment? text = some rest) :
    pastComment? (text ++ tail) = some (rest ++ tail) := by
  fun_induction pastComment? text with
  | case1 => cases h
  | case2 text =>
      cases h
      rfl
  | case3 c text hc ih =>
      rw [List.cons_append, pastComment?, if_neg hc]
      exact ih h

theorem skipFrom_of_pastComment? (h : pastComment? text = some rest) :
    skipFrom true text = skipFrom false rest := by
  fun_induction pastComment? text with
  | case1 => cases h
  | case2 text =>
      cases h
      rfl
  | case3 c text hc ih =>
      have hskip : skipFrom true (c :: text) = skipFrom (c ≠ '\n') text := rfl
      simp only [hskip, hc, ne_eq, not_false_eq_true, decide_true]
      exact ih h

theorem skipFrom_of_pastComment?_eq_none (h : pastComment? text = none) :
    skipFrom true text = [] := by
  fun_induction pastComment? text with
  | case1 => rfl
  | case2 text => cases h
  | case3 c text hc ih =>
      have hskip : skipFrom true (c :: text) = skipFrom (c ≠ '\n') text := rfl
      simp only [hskip, hc, ne_eq, not_false_eq_true, decide_true]
      exact ih h

namespace Mode

variable {mode next last : Mode} {captures : Bool}

theorem verbose_of_captures (h : Lexeme mode text captures next rest)
    (hcaptures : captures = true) :
    next.verbose = mode.verbose := by
  cases h with
  | escape | bracketed | closes | comment | plain => cases hcaptures
  | @opens text rest opening h =>
      cases opening with
      | capture => rfl
      | group setting | setting setting => cases hcaptures

theorem lexeme_append {tail : Text} (h : Lexeme mode text captures next rest)
    (hquestion : captures = true → skip mode.verbose rest = [] →
      (skip mode.verbose (rest ++ tail)).head? ≠ some '?') :
    Lexeme mode (text ++ tail) captures next (rest ++ tail) := by
  cases h with
  | escape h => exact .escape (pastEscape?_append tail h)
  | bracketed h => exact .bracketed (pastClass?_append tail h)
  | @opens text rest opening h =>
      refine .opens (opening?_append h fun hnil => ?_)
      have hcapture : opening? mode.verbose text = some (.capture, text) :=
        opening?_of_ne (by simp [hnil])
      rw [hcapture] at h
      cases h
      exact hquestion rfl hnil
  | closes => exact .closes
  | comment hverbose h => exact .comment hverbose (pastComment?_append tail h)
  | plain hc => exact .plain hc

theorem lexeme?_comment (hverbose : mode.verbose = true) (text : Text) :
    mode.lexeme? ('#' :: text) = (pastComment? text).map fun rest => (false, mode, rest) := by
  rw [lexeme?, hverbose]
  rfl

theorem scan_plain {c : Char} (hc : isSpecial c = true → c = '#' ∧ mode.verbose = false)
    (text : Text) : mode.scan (c :: text) = (mode.scan text).after [] 1 := by
  rw [scan_of_some (lexeme?_of_lexeme (.plain hc)), List.length_cons, Nat.add_sub_cancel_left]
  rfl

theorem scan_skip (mode : Mode) (text : Text) :
    (∃ n, mode.scan text = (mode.scan (skip mode.verbose text)).after [] n) ∨
      skip mode.verbose text = [] ∧ mode.scan text = ⟨[], none⟩ := by
  cases hverbose : mode.verbose with
  | false => exact .inl ⟨0, (Scan.after_zero _).symm⟩
  | true =>
      induction hlength : text.length using Nat.strongRecOn generalizing text with
      | ind length ih =>
      subst hlength
      cases text with
      | nil => exact .inl ⟨0, (Scan.after_zero _).symm⟩
      | cons c text =>
          have hbehind {rest : Text} (hshorter : rest.length < (c :: text).length)
              (hscan : ∃ n, mode.scan (c :: text) = (mode.scan rest).after [] n)
              (hskip : skip true (c :: text) = skip true rest) :
              (∃ n, mode.scan (c :: text) =
                  (mode.scan (skip true (c :: text))).after [] n) ∨
                skip true (c :: text) = [] ∧ mode.scan (c :: text) = ⟨[], none⟩ := by
            obtain ⟨m, hm⟩ := hscan
            rw [hskip, hm]
            rcases ih rest.length hshorter rest rfl with ⟨n, hn⟩ | ⟨hnil, hnone⟩
            · rw [hn, Scan.after_after]
              exact .inl ⟨m + n, rfl⟩
            · rw [hnone]
              exact .inr ⟨hnil, rfl⟩
          by_cases hblank : isBlank c = true
          · refine hbehind (Nat.lt_succ_self _) ⟨1, scan_plain ?_ text⟩ ?_
            · rw [isSpecial_of_isBlank hblank]
              nofun
            · simp only [skip, skipFrom, hblank, if_true]
          · by_cases hhash : c = '#'
            · subst hhash
              have hlexeme := lexeme?_comment hverbose text
              cases hcomment : pastComment? text with
              | none =>
                  rw [hcomment] at hlexeme
                  exact .inr ⟨skipFrom_of_pastComment?_eq_none hcomment,
                    scan_of_none (List.cons_ne_nil _ _) hlexeme⟩
              | some rest =>
                  rw [hcomment] at hlexeme
                  exact hbehind (Nat.lt_succ_of_le (length_of_pastComment? hcomment))
                    ⟨_, scan_of_some hlexeme⟩ (skipFrom_of_pastComment? hcomment)
            · have hskip : skip true (c :: text) = c :: text := by
                simp only [skip, skipFrom, hblank, hhash, Bool.false_eq_true, if_true, if_false]
              rw [hskip]
              exact .inl ⟨0, (Scan.after_zero _).symm⟩

theorem mode?_scan_of_skip_eq_nil (h : skip mode.verbose text = [])
    (hlast : (mode.scan text).mode? = some last) : last = mode := by
  rcases mode.scan_skip text with ⟨n, hn⟩ | ⟨-, hnone⟩
  · rw [hn, h, scan_nil] at hlast
    exact (Option.some.inj hlast).symm
  · rw [hnone] at hlast
    cases hlast

/-- A text whose lexemes all have an end, and in which verbose mode is off at the end, is scanned by
itself; but an opening parenthesis that it ends with must not be continued. -/
theorem scan_append {tail : Text} (hlast : (mode.scan text).mode? = some last)
    (hquiet : last.verbose = false)
    (hquestion : (mode.scan text).openings = [] ∨ tail.head? ≠ some '?') :
    mode.scan (text ++ tail) = (last.scan tail).after (mode.scan text).openings text.length := by
  induction hlength : text.length using Nat.strongRecOn generalizing text mode with
  | ind length ih =>
  subst hlength
  cases hlexeme : mode.lexeme? text with
  | none =>
      by_cases hnil : text = []
      · subst hnil
        rw [scan_nil] at hlast ⊢
        cases hlast
        exact (Scan.after_zero _).symm
      · rw [scan_of_none hnil hlexeme] at hlast
        cases hlast
  | some found =>
      obtain ⟨captures, next, rest⟩ := found
      have hscan := scan_of_some hlexeme
      have hlonger := length_of_lexeme? hlexeme
      have hnext : (next.scan rest).mode? = some last := by
        rw [hscan] at hlast
        exact hlast
      have hrest : (next.scan rest).openings = [] ∨ tail.head? ≠ some '?' := by
        refine hquestion.imp_left fun hnone => ?_
        rw [hscan] at hnone
        exact List.map_eq_nil_iff.1 (List.append_eq_nil_iff.1 hnone).2
      have hlong : mode.lexeme? (text ++ tail) = some (captures, next, rest ++ tail) := by
        have hfound := lexeme_of_lexeme? hlexeme
        refine lexeme?_of_lexeme (lexeme_append hfound fun hcaptures hskip => ?_)
        subst hcaptures
        have hhead : tail.head? ≠ some '?' := hquestion.resolve_left fun hnone => by
          rw [hscan] at hnone
          cases hnone
        -- behind the last parenthesis of a text verbose mode is off, so that nothing is passed over
        have hverbose : mode.verbose = false := by
          rw [← verbose_of_captures hfound rfl] at hskip ⊢
          rw [← mode?_scan_of_skip_eq_nil hskip hnext]
          exact hquiet
        rw [hverbose] at hskip ⊢
        obtain rfl : rest = [] := hskip
        exact hhead
      have hused : (text ++ tail).length - (rest ++ tail).length = text.length - rest.length := by
        rw [List.length_append, List.length_append, Nat.add_sub_add_right]
      rw [scan_of_some hlong, ih rest.length hlonger hnext hrest rfl, Scan.after_after, hscan,
        hused, Nat.sub_add_cancel (Nat.le_of_lt hlonger)]
      rfl

end Mode

end Highlight.Pattern
