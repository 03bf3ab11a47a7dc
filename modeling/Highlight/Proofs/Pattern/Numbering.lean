import Highlight.Pattern.Draft
import Highlight.Proofs.Pattern.Escaped
import Highlight.Proofs.Pattern.GroupCount
import Highlight.Proofs.Pattern.Parts

/-!
Captures are numbered by where they stand. Each capture call of a draft writes a parenthesis of its
own, and the number that it is given is one more than the number of capture groups that open in
front of that parenthesis in the source. What is put into a draft as it is has to be lexically
complete for this: nothing in it may be left open, neither by what it begins nor by what it switches
on.
-/

namespace Highlight.Pattern

variable {text front body back : Text}

/-- The places at which capture groups open. -/
def openings (text : Text) : List Nat := (Mode.initial.scan text).openings

/-- All lexemes have an end, and verbose mode is off at the end. -/
def isWhole (text : Text) : Bool := (Mode.initial.scan text).mode? = some .initial

namespace Mode

theorem lt_length_of_mem_openings {mode : Mode} {place : Nat}
    (h : place ∈ (mode.scan text).openings) : place < text.length := by
  fun_induction Mode.scan mode text generalizing place with
  | case1 => cases h
  | case2 mode text captures next rest hlexeme ih =>
      have hlonger := length_of_lexeme? hlexeme
      rw [Scan.after, List.mem_append] at h
      rcases h with h | h
      · cases captures with
        | true =>
            obtain rfl := List.mem_singleton.1 h
            omega
        | false => cases h
      · obtain ⟨inner, hinner, rfl⟩ := List.mem_map.1 h
        have hlt := ih hinner
        omega

theorem scan_of_front {mode next : Mode} {captures : Bool} {tail : Text}
    (h : Lexeme mode (front ++ tail) captures next tail) :
    mode.scan (front ++ tail) =
      (next.scan tail).after (if captures then [0] else []) front.length := by
  rw [scan_of_some (lexeme?_of_lexeme h), List.length_append, Nat.add_sub_cancel_right]

end Mode

/-- Whatever follows the text, it is scanned by itself. -/
def Apart (text : Text) : Prop :=
  ∀ tail, Mode.initial.scan (text ++ tail) =
    (Mode.initial.scan tail).after (openings text) text.length

theorem apart_of_places {places : List Nat}
    (h : ∀ tail, Mode.initial.scan (text ++ tail) =
      (Mode.initial.scan tail).after places text.length) :
    Apart text ∧ openings text = places := by
  have hplaces : openings text = places := by
    have hnil := h []
    rw [List.append_nil, Mode.scan_nil] at hnil
    rw [openings, hnil, Scan.after, List.map_nil, List.append_nil]
  refine ⟨fun tail => ?_, hplaces⟩
  rw [hplaces, h]

theorem openings_nil : openings [] = [] := by
  rw [openings, Mode.scan_nil]

theorem apart_nil : Apart [] := by
  intro tail
  rw [openings_nil]
  exact (Scan.after_zero _).symm

theorem Apart.openings_append (h : Apart front) (back : Text) :
    openings (front ++ back) = openings front ++ (openings back).map (front.length + ·) :=
  congrArg Scan.openings (h back)

theorem Apart.append (hfront : Apart front) (hback : Apart back) : Apart (front ++ back) := by
  intro tail
  rw [List.append_assoc, hfront, hback, Scan.after_after, hfront.openings_append,
    List.length_append]

theorem scan_append_of_isWhole {tail : Text} (h : isWhole text = true)
    (hquestion : openings text = [] ∨ tail.head? ≠ some '?') :
    Mode.initial.scan (text ++ tail) =
      (Mode.initial.scan tail).after (openings text) text.length :=
  Mode.scan_append (of_decide_eq_true h) rfl hquestion

theorem apart_of_isWhole (h : isWhole text = true) (hnone : openings text = []) : Apart text :=
  fun _ => scan_append_of_isWhole h (.inl hnone)

theorem apart_singleton {c : Char} (hc : isSpecial c = false) : Apart [c] ∧ openings [c] = [] := by
  apply apart_of_places
  intro tail
  apply Mode.scan_plain
  rw [hc]
  nofun

theorem apart_backslash {c : Char} (hc : codeLength? c = none) :
    Apart ['\\', c] ∧ openings ['\\', c] = [] := by
  apply apart_of_places
  intro tail
  have hpast : pastEscape? Mode.initial.verbose (c :: tail) = some tail := by
    rw [pastEscape?, hc]
  have hlexeme : Mode.Lexeme .initial (['\\', c] ++ tail) false .initial tail := .escape hpast
  exact Mode.scan_of_front hlexeme

theorem codeLength?_of_isMeta {c : Char} (hc : isMeta c) : codeLength? c = none := by
  have hmeta : ∀ d ∈ "\\.+*?()|[]\x7b\x7d^$#&-~".toList, codeLength? d = none :=
    forall_mem_of_all (by decide)
  exact hmeta c (of_decide_eq_true hc)

theorem isMeta_of_isSpecial {c : Char} (hc : isSpecial c = true) : isMeta c = true := by
  have hspecial : ∀ d ∈ "\\[()#".toList, isMeta d = true := forall_mem_of_all (by decide)
  exact hspecial c (of_decide_eq_true hc)

theorem apart_escape (text : Text) : Apart (escape text) ∧ openings (escape text) = [] := by
  induction text with
  | nil => exact ⟨apart_nil, openings_nil⟩
  | cons c text ih =>
      have hchar : Apart (escapeChar c) ∧ openings (escapeChar c) = [] := by
        by_cases hc : isMeta c
        · rw [escapeChar, if_pos hc]
          exact apart_backslash (codeLength?_of_isMeta hc)
        · rw [escapeChar, if_neg hc]
          exact apart_singleton (Bool.eq_false_iff.2 fun h => hc (isMeta_of_isSpecial h))
      have hcons : escape (c :: text) = escapeChar c ++ escape text := rfl
      rw [hcons, hchar.1.openings_append, hchar.2, ih.2]
      exact ⟨hchar.1.append ih.1, rfl⟩

/-- The text is scanned by itself if a parenthesis follows that closes what is around it. -/
def Closable (text : Text) : Prop :=
  ∀ tail, Mode.initial.scan (text ++ ')' :: tail) =
    (Mode.initial.scan (')' :: tail)).after (openings text) text.length

theorem Apart.closable (h : Apart text) : Closable text := fun _ => h _

theorem closable_of_isWhole (h : isWhole text = true) : Closable text :=
  fun _ => scan_append_of_isWhole h (.inr (by simp))

theorem apart_of_parentheses {mark : Text} {captures : Bool}
    (hmark : ∀ tail, Mode.Lexeme .initial (mark ++ (body ++ ')' :: tail)) captures .initial
      (body ++ ')' :: tail))
    (hbody : Closable body) :
    Apart (mark ++ body ++ [')']) ∧ openings (mark ++ body ++ [')']) =
      (if captures then [0] else []) ++ (openings body).map (mark.length + ·) := by
  apply apart_of_places
  intro tail
  have hclose : Mode.Lexeme .initial ([')'] ++ tail) false .initial tail := .closes
  calc
    Mode.initial.scan (mark ++ body ++ [')'] ++ tail)
        = Mode.initial.scan (mark ++ (body ++ ')' :: tail)) := by simp
    _ = (((Mode.initial.scan tail).after [] 1).after (openings body) body.length).after
          (if captures then [0] else []) mark.length := by
      rw [Mode.scan_of_front (hmark tail), hbody]
      exact congrArg (fun scan => (Scan.after _ _ scan).after _ _) (Mode.scan_of_front hclose)
    _ = _ := by
      rw [Scan.after_after, Scan.after_after]
      simp [Nat.add_assoc]

theorem apart_wrap (hbody : Closable body) :
    Apart (wrap body) ∧ openings (wrap body) = (openings body).map (3 + ·) :=
  have hmark (tail : Text) : Mode.Lexeme .initial ("(?:".toList ++ (body ++ ')' :: tail)) false
      .initial (body ++ ')' :: tail) := Mode.lexeme_of_lexeme? rfl
  apart_of_parentheses hmark hbody

theorem apart_captured (hquestion : body.head? ≠ some '?') (hbody : Closable body) :
    Apart (['('] ++ body ++ [')']) ∧
      openings (['('] ++ body ++ [')']) = 0 :: (openings body).map (1 + ·) := by
  have hopening (tail : Text) : opening? Mode.initial.verbose (body ++ ')' :: tail) =
      some (.capture, body ++ ')' :: tail) := by
    apply opening?_of_ne
    cases body with
    | nil =>
        intro h
        cases h
    | cons c body => exact hquestion
  have hmark (tail : Text) : Mode.Lexeme .initial (['('] ++ (body ++ ')' :: tail)) true .initial
      (body ++ ')' :: tail) := .opens (hopening tail)
  exact apart_of_parentheses hmark hbody

namespace Draft

variable {σ : Type}

mutual

/-- All that is put into a draft as it is must be whole; raw text must open no capture group, and
what is embedded must open as many as are declared; and no body of a capture may begin with a
question mark, which would make its parenthesis part of a longer opening. -/
def isSelfContained : Draft σ → Bool
  | raw text => isWhole text && openings text = []
  | embed fragment count => isWhole fragment && (openings fragment).length = count
  | literal _ | alternative => true
  | capture _ body => (sources body).head? ≠ some '?' && areSelfContained body
  | group body => areSelfContained body

def areSelfContained : List (Draft σ) → Bool
  | [] => true
  | part :: parts => isSelfContained part && areSelfContained parts

end

mutual

/-- A part is scanned by itself, and opens as many groups as are counted. -/
theorem apart_source : (part : Draft σ) → isSelfContained part = true →
    Apart (source part) ∧ (openings (source part)).length = groups part
  | .raw text, h => by
      simp only [isSelfContained, Bool.and_eq_true, decide_eq_true_eq] at h
      exact ⟨apart_of_isWhole h.1 h.2, congrArg List.length h.2⟩
  | .literal text, _ => ⟨(apart_escape text).1, congrArg List.length (apart_escape text).2⟩
  | .embed fragment count, h => by
      simp only [isSelfContained, Bool.and_eq_true, decide_eq_true_eq] at h
      have hwrap := apart_wrap (closable_of_isWhole h.1)
      have hcount : (openings (wrap fragment)).length = count := by
        rw [hwrap.2, List.length_map, h.2]
      exact ⟨hwrap.1, hcount⟩
  | .alternative, _ => by
      have hbar : Apart ['|'] ∧ openings ['|'] = [] := apart_singleton rfl
      exact ⟨hbar.1, congrArg List.length hbar.2⟩
  | .capture slot body, h => by
      simp only [isSelfContained, Bool.and_eq_true, decide_eq_true_eq] at h
      obtain ⟨hbody, hcount⟩ := apart_sources body h.2
      obtain ⟨happart, hopenings⟩ := apart_captured h.1 hbody.closable
      refine ⟨happart, ?_⟩
      have hlength := congrArg List.length hopenings
      rw [List.length_cons, List.length_map, hcount] at hlength
      exact hlength
  | .group body, h => by
      obtain ⟨hbody, hcount⟩ := apart_sources body h
      obtain ⟨happart, hopenings⟩ := apart_wrap hbody.closable
      refine ⟨happart, ?_⟩
      have hlength := congrArg List.length hopenings
      rw [List.length_map, hcount] at hlength
      exact hlength

theorem apart_sources : (parts : List (Draft σ)) → areSelfContained parts = true →
    Apart (sources parts) ∧ (openings (sources parts)).length = allGroups parts
  | [], _ => ⟨apart_nil, congrArg List.length openings_nil⟩
  | part :: parts, h => by
      simp only [areSelfContained, Bool.and_eq_true] at h
      obtain ⟨hpart, hcount⟩ := apart_source part h.1
      obtain ⟨hparts, hcounts⟩ := apart_sources parts h.2
      refine ⟨hpart.append hparts, ?_⟩
      rw [sources, hpart.openings_append, List.length_append, List.length_map, hcount, hcounts,
        allGroups]

end

/-- A capture call: what it captures for which slot, the number it is given, and the place of its
parenthesis. -/
structure Call (σ : Type) where
  slot : σ
  body : List (Draft σ)
  index : Nat
  place : Nat

namespace Call

variable {call outer inner : Call σ} {groups places : Nat}

/-- What the call writes. -/
def written (call : Call σ) : Text := source (.capture call.slot call.body)

def stop (call : Call σ) : Nat := call.place + call.written.length

def shift (groups places : Nat) (call : Call σ) : Call σ :=
  { call with index := groups + call.index, place := places + call.place }

/-- The parentheses of one call stand around those of another. -/
def Encloses (outer inner : Call σ) : Prop := outer.place < inner.place ∧ inner.stop < outer.stop

/-- The call has written its text at its place, where a capture group opens, and its number is one
more than the number of capture groups that open in front. -/
structure Numbered (source : Text) (call : Call σ) : Prop where
  stands : call.written <+: source.drop call.place
  opens : call.place ∈ openings source
  index : call.index = (openings source).countP (· < call.place) + 1

end Call

mutual

/-- The calls of a part, one inside of another before the other, as if nothing stood ahead. -/
def calls : Draft σ → List (Call σ)
  | raw _ | literal _ | embed _ _ | alternative => []
  | capture slot body => (allCalls body).map (.shift 1 1) ++ [⟨slot, body, 1, 0⟩]
  | group body => (allCalls body).map (.shift 0 3)

def allCalls : List (Draft σ) → List (Call σ)
  | [] => []
  | part :: parts =>
    calls part ++ (allCalls parts).map (.shift (groups part) (source part).length)

end

mutual

/-- The calls are those whose numbers the draft gives out, in the same order. -/
theorem map_calls (before : Nat) : (part : Draft σ) →
    (calls part).map (fun call => (call.slot, before + call.index)) = slots before part
  | .raw _ | .literal _ | .embed _ _ | .alternative => rfl
  | .capture slot body => by
      rw [calls, slots, ← map_allCalls (before + 1) body]
      simp [Call.shift, Function.comp_def, Nat.add_assoc]
  | .group body => by
      rw [calls, slots, ← map_allCalls before body]
      simp [Call.shift, Function.comp_def]

theorem map_allCalls (before : Nat) : (parts : List (Draft σ)) →
    (allCalls parts).map (fun call => (call.slot, before + call.index)) = allSlots before parts
  | [] => rfl
  | part :: parts => by
      rw [allCalls, allSlots, ← map_calls before part, ← map_allCalls (before + groups part) parts]
      simp [Call.shift, Function.comp_def, Nat.add_assoc]

end

/-- A piece stands in a text behind so many capture groups and at such a place, and what opens in
the piece by itself opens there in the text. -/
structure Stands (piece source : Text) (groups place : Nat) : Prop where
  split : ∃ front back, source = front ++ piece ++ back ∧ front.length = place
  opens : ∃ before behind,
    openings source = before ++ (openings piece).map (place + ·) ++ behind ∧
      before.length = groups ∧ (∀ opening ∈ before, opening < place) ∧
        ∀ opening ∈ behind, place + piece.length ≤ opening

theorem Stands.left (h : Apart front) (back : Text) : Stands front (front ++ back) 0 0 where
  split := ⟨[], back, rfl, rfl⟩
  opens := by
    refine ⟨[], (openings back).map (front.length + ·), ?_, rfl, nofun, ?_⟩
    · simpa using h.openings_append back
    · simp

theorem Stands.right (h : Apart front) (back : Text) :
    Stands back (front ++ back) (openings front).length front.length where
  split := ⟨front, [], by simp, rfl⟩
  opens := by
    refine ⟨openings front, [], ?_, rfl, fun _ => Mode.lt_length_of_mem_openings, nofun⟩
    rw [List.append_nil, h.openings_append]

theorem Stands.captured (hquestion : body.head? ≠ some '?') (h : Apart body) :
    Stands body (['('] ++ body ++ [')']) 1 1 where
  split := ⟨['('], [')'], rfl, rfl⟩
  opens := by
    refine ⟨[0], [], ?_, rfl, by simp, nofun⟩
    rw [(apart_captured hquestion h.closable).2, List.append_nil, List.singleton_append]

theorem Stands.wrap (h : Apart body) : Stands body (wrap body) 0 3 where
  split := ⟨"(?:".toList, [')'], rfl, rfl⟩
  opens := by
    refine ⟨[], [], ?_, rfl, nofun, nofun⟩
    rw [(apart_wrap h.closable).2, List.append_nil, List.nil_append]

namespace Call

variable {source piece : Text} {call outer inner : Call σ} {groups place : Nat}

theorem place_lt_stop (call : Call σ) : call.place < call.stop :=
  Nat.lt_add_of_pos_right (Nat.succ_pos _)

theorem shift_zero (call : Call σ) : call.shift 0 0 = call := by
  simp [shift]

theorem place_shift (call : Call σ) : (call.shift groups place).place = place + call.place := rfl

theorem stop_shift (call : Call σ) : (call.shift groups place).stop = place + call.stop :=
  Nat.add_assoc _ _ _

theorem Numbered.stop_le (h : call.Numbered source) : call.stop ≤ source.length := by
  have hplace := Mode.lt_length_of_mem_openings h.opens
  have hle := h.stands.length_le
  rw [List.length_drop] at hle
  rw [stop]
  omega

theorem Numbered.shift (hstands : Stands piece source groups place) (h : call.Numbered piece) :
    (call.shift groups place).Numbered source := by
  obtain ⟨⟨front, back, rfl, rfl⟩, before, behind, hopenings, rfl, hbefore, hbehind⟩ := hstands
  have hplace := Mode.lt_length_of_mem_openings h.opens
  refine ⟨?_, ?_, ?_⟩
  · have hdrop : (front ++ piece ++ back).drop (front.length + call.place) =
        piece.drop call.place ++ back := by
      rw [List.append_assoc, List.drop_length_add_append,
        List.drop_append_of_le_length (Nat.le_of_lt hplace)]
    rw [Call.shift, hdrop]
    exact h.stands.trans (List.prefix_append _ _)
  · rw [hopenings]
    simp [Call.shift, h.opens]
  · have hahead : before.countP (· < front.length + call.place) = before.length :=
      List.countP_eq_length.2 fun opening hmem =>
        decide_eq_true (Nat.lt_add_right _ (hbefore opening hmem))
    have hin : ((openings piece).map (front.length + ·)).countP (· < front.length + call.place) =
        (openings piece).countP (· < call.place) := by
      simp [List.countP_map, Function.comp_def]
    have hbeyond : behind.countP (· < front.length + call.place) = 0 :=
      List.countP_eq_zero.2 fun opening hmem hlt => by
        have hle := hbehind opening hmem
        have hlt := of_decide_eq_true hlt
        omega
    rw [hopenings, List.countP_append, List.countP_append, Call.shift, hahead, hin, hbeyond,
      h.index]
    rfl

theorem Numbered.index_lt (houter : outer.Numbered source) (hinner : inner.Numbered source)
    (h : outer.place < inner.place) : outer.index < inner.index := by
  obtain ⟨front, back, hopenings⟩ := List.append_of_mem houter.opens
  have hmono (openings : List Nat) :
      openings.countP (· < outer.place) ≤ openings.countP (· < inner.place) :=
    List.countP_mono_left fun opening _ hlt =>
      decide_eq_true (Nat.lt_trans (of_decide_eq_true hlt) h)
  have hfront := hmono front
  have hback := hmono back
  rw [houter.index, hinner.index, hopenings, List.countP_append, List.countP_append,
    List.countP_cons_of_neg (by simp), List.countP_cons_of_pos (by simpa using h)]
  omega

end Call

/-- All calls are numbered, and of two calls the later one stands around the earlier one, or behind
it. -/
structure Numbering (source : Text) (calls : List (Call σ)) : Prop where
  numbered : ∀ call ∈ calls, call.Numbered source
  nested : calls.Pairwise fun earlier later =>
    later.Encloses earlier ∨ earlier.stop ≤ later.place

namespace Numbering

variable {source piece : Text} {calls : List (Call σ)} {groups place : Nat}

theorem nil (source : Text) : Numbering source ([] : List (Call σ)) := ⟨nofun, List.Pairwise.nil⟩

theorem shift (hstands : Stands piece source groups place) (h : Numbering piece calls) :
    Numbering source (calls.map (.shift groups place)) where
  numbered := by
    intro call hmem
    obtain ⟨inner, hinner, rfl⟩ := List.mem_map.1 hmem
    exact (h.numbered inner hinner).shift hstands
  nested := by
    refine List.pairwise_map.2 (h.nested.imp fun hnested => ?_)
    simp only [Call.Encloses, Call.place_shift, Call.stop_shift] at hnested ⊢
    omega

theorem append {calls' : List (Call σ)} {back : Text} (happart : Apart source)
    (h : Numbering source calls) (h' : Numbering back calls') :
    Numbering (source ++ back)
      (calls ++ calls'.map (.shift (openings source).length source.length)) := by
  have hleft : Numbering (source ++ back) calls := by
    have hshift := h.shift (Stands.left happart back)
    rwa [List.map_congr_left fun call _ => call.shift_zero, List.map_id'] at hshift
  have hright := h'.shift (Stands.right happart back)
  constructor
  · intro call hmem
    exact (List.mem_append.1 hmem).elim (hleft.numbered call) (hright.numbered call)
  · refine List.pairwise_append.2 ⟨hleft.nested, hright.nested, ?_⟩
    intro earlier hearlier later hlater
    obtain ⟨call, -, rfl⟩ := List.mem_map.1 hlater
    exact .inr (Nat.le_trans (h.numbered earlier hearlier).stop_le (Nat.le_add_right _ _))

theorem capture {body : List (Draft σ)} (slot : σ) (hquestion : (sources body).head? ≠ some '?')
    (happart : Apart (sources body)) (h : Numbering (sources body) calls) :
    Numbering (Draft.source (.capture slot body))
      (calls.map (.shift 1 1) ++ [⟨slot, body, 1, 0⟩]) := by
  have hinner : Numbering (Draft.source (.capture slot body)) (calls.map (.shift 1 1)) :=
    h.shift (Stands.captured hquestion happart)
  have hopens : openings (Draft.source (.capture slot body)) =
      0 :: (openings (sources body)).map (1 + ·) :=
    (apart_captured hquestion happart.closable).2
  constructor
  · intro call hmem
    rcases List.mem_append.1 hmem with hmem | hmem
    · exact hinner.numbered call hmem
    · obtain rfl := List.mem_singleton.1 hmem
      refine ⟨List.prefix_rfl, ?_, ?_⟩
      · rw [hopens]
        exact List.mem_cons_self
      · simp
  · refine List.pairwise_append.2 ⟨hinner.nested, List.pairwise_singleton _ _, ?_⟩
    intro earlier hearlier later hlater
    obtain ⟨call, hcall, rfl⟩ := List.mem_map.1 hearlier
    obtain rfl := List.mem_singleton.1 hlater
    have hstop := (h.numbered call hcall).stop_le
    refine .inl ⟨Nat.add_pos_left Nat.one_pos _, ?_⟩
    rw [Call.stop_shift]
    simp only [Call.stop, Call.written, Draft.source, List.length_cons, List.length_append]
      at hstop ⊢
    omega

theorem index_nodup (h : Numbering source calls) : (calls.map Call.index).Nodup := by
  refine List.pairwise_map.2 (h.nested.imp_of_mem fun hearlier hlater hnested => ?_)
  have hearlier := h.numbered _ hearlier
  have hlater := h.numbered _ hlater
  rcases hnested with hencloses | hbehind
  · exact (hlater.index_lt hearlier hencloses.1).ne'
  · exact (hearlier.index_lt hlater (Nat.lt_of_lt_of_le (Call.place_lt_stop _) hbehind)).ne

end Numbering

mutual

theorem numbering_calls : (part : Draft σ) → isSelfContained part = true →
    Numbering (source part) (calls part)
  | .raw _, _ | .literal _, _ | .embed _ _, _ | .alternative, _ => .nil _
  | .capture slot body, h => by
      simp only [isSelfContained, Bool.and_eq_true, decide_eq_true_eq] at h
      exact .capture slot h.1 (apart_sources body h.2).1 (numbering_allCalls body h.2)
  | .group body, h => (numbering_allCalls body h).shift (Stands.wrap (apart_sources body h).1)

theorem numbering_allCalls : (parts : List (Draft σ)) → areSelfContained parts = true →
    Numbering (sources parts) (allCalls parts)
  | [], _ => .nil _
  | part :: parts, h => by
      simp only [areSelfContained, Bool.and_eq_true] at h
      obtain ⟨happart, hgroups⟩ := apart_source part h.1
      have hcalls := (numbering_calls part h.1).append happart (numbering_allCalls parts h.2)
      rwa [hgroups] at hcalls

end

theorem allSlots_append (before : Nat) (front back : List (Draft σ)) :
    allSlots before (front ++ back) =
      allSlots before front ++ allSlots (before + allGroups front) back := by
  induction front generalizing before with
  | nil => rfl
  | cons part front ih =>
      rw [List.cons_append, allSlots, allSlots, ih, allGroups, List.append_assoc, Nat.add_assoc]

/-- Each capture of a draft is given the number of its group: one more than the number of groups
that open in front of its own parenthesis. The numbers differ, a capture has a smaller one than
those that it encloses, and the next one follows the number of groups in the whole source, which is
the highest number of a group when the source is read. -/
theorem captures_numbered_by_place (parts : List (Draft σ)) (h : areSelfContained parts = true) :
    (allCalls parts).map (fun call => (call.slot, call.index)) = allSlots 0 parts ∧
      (∀ call ∈ allCalls parts, call.Numbered (sources parts)) ∧
      ((allSlots 0 parts).map Prod.snd).Nodup ∧
      ((allCalls parts).Pairwise fun earlier later =>
        later.Encloses earlier ∨ earlier.stop ≤ later.place) ∧
      (∀ outer ∈ allCalls parts, ∀ inner ∈ allCalls parts, outer.Encloses inner →
        outer.index < inner.index) ∧
      (∀ slot body, allSlots 0 (parts ++ [.capture slot body]) =
        allSlots 0 parts ++ allSlots ((openings (sources parts)).length + 1) body ++
          [(slot, (openings (sources parts)).length + 1)]) ∧
      ∀ node, run .initial (sources parts) = .ok node →
        node.lastIndex = (openings (sources parts)).length := by
  have hcalls := numbering_allCalls parts h
  have hslots : (allCalls parts).map (fun call => (call.slot, call.index)) = allSlots 0 parts := by
    rw [← map_allCalls 0 parts]
    simp
  refine ⟨hslots, hcalls.numbered, ?_, hcalls.nested, ?_, ?_, ?_⟩
  · rw [← hslots, List.map_map]
    exact hcalls.index_nodup
  · intro outer houter inner hinner hencloses
    exact (hcalls.numbered outer houter).index_lt (hcalls.numbered inner hinner) hencloses.1
  · intro slot body
    rw [allSlots_append, (apart_sources parts h).2, Nat.zero_add]
    simp [allSlots, slots]
  · intro node hnode
    rw [lastIndex_of_run State.numbered_initial hnode]
    exact Nat.zero_add _

/-- Parentheses that open no group, in a class, behind a backslash and in a literal, with a group
that one raw text opens and another one closes. -/
def aroundEmbedded : List (Draft Nat) :=
  [.raw "(?:[(]".toList, .capture 0 [.literal "(?".toList], .alternative, .raw "\\()".toList,
    .capture 1 [.capture 2 [.embed "(x)|(y)".toList 2]], .group [.capture 3 [.raw "z".toList]]]

theorem captures_numbered_around_embedded :
    areSelfContained aroundEmbedded = true ∧
      sources aroundEmbedded = "(?:[(](\\(\\?)|\\()(((?:(x)|(y))))(?:(z))".toList ∧
      allSlots 0 aroundEmbedded = [(0, 1), (2, 3), (1, 2), (3, 6)] ∧
      (∀ call ∈ allCalls aroundEmbedded, call.Numbered (sources aroundEmbedded)) ∧
      ((allSlots 0 aroundEmbedded).map Prod.snd).Nodup ∧
      ∃ node, run .initial (sources aroundEmbedded) = .ok node ∧ node.lastIndex = 6 := by
  have hself : areSelfContained aroundEmbedded = true := by decide +kernel
  obtain ⟨-, hnumbered, hnodup, -, -, -, hread⟩ := captures_numbered_by_place aroundEmbedded hself
  have hruns : (run .initial (sources aroundEmbedded)).toOption.isSome = true := by decide +kernel
  have hcount : (openings (sources aroundEmbedded)).length = 6 := by decide +kernel
  cases hnode : run .initial (sources aroundEmbedded) with
  | error fault =>
      rw [hnode] at hruns
      cases hruns
  | ok node =>
      exact ⟨hself, by decide +kernel, rfl, hnumbered, hnodup, node, rfl,
        (hread node hnode).trans hcount⟩

end Draft

end Highlight.Pattern
