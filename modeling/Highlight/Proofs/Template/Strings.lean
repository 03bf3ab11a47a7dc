import Highlight.Proofs.Template.Document
import Highlight.Proofs.Template.Leftover

/-!
Slots of templates that are JSON documents. A template is cut at quotes without regard to JSON; in a
document a quote opens a string, closes one or stands behind a backslash. So its slots are the
strings that are a placeholder altogether, and those that end in a placeholder behind an escaped
quote.
-/

namespace Highlight

open Json

variable {text rest name : Text}

def slotName? (text : Text) : Option Text :=
  let name := (text.drop 2).dropLast.dropLast
  if text = slotToken name ∧ isPlaceholderName name = true ∧ stylePrefix.isPrefixOf name = false then
    some name
  else none

theorem slotName?_eq_some_iff : slotName? text = some name ↔
    text = slotToken name ∧ isPlaceholderName name = true ∧ stylePrefix.isPrefixOf name = false := by
  constructor
  · intro h
    obtain ⟨hname, heq⟩ := Option.ite_none_right_eq_some.1 h
    cases heq
    exact hname
  · rintro ⟨rfl, hname⟩
    have hinner : ((slotToken name).drop 2).dropLast.dropLast = name := by
      simp [slotToken, TokenShape.spell, TokenShape.any]
    rw [slotName?, hinner]
    exact if_pos ⟨rfl, hname⟩

def lastSlot? : Text → Option Text
  | [] => none
  | c :: text => if c = '"' then (slotName? text).or (lastSlot? text) else lastSlot? text

theorem isTokenChar_slotToken (hname : isPlaceholderName name = true) :
    ∀ c ∈ slotToken name, isTokenChar c = true := by
  obtain ⟨hfirst, hspent⟩ := isPlaceholderName_iff.1 hname
  have hread := TokenShape.read?_spell_append (t := TokenShape.any) ⟨[], rfl⟩ hfirst hspent []
  exact TokenShape.isTokenChar_spell solid_any hread

theorem quote_not_mem_slotToken (hname : isPlaceholderName name = true) :
    '"' ∉ slotToken name := by
  intro hmem
  cases isTokenChar_slotToken hname _ hmem

theorem slotName?_of_mem (h : '"' ∈ text) : slotName? text = none := by
  refine Option.eq_none_iff_forall_ne_some.2 fun name hname => ?_
  obtain ⟨rfl, hname, -⟩ := slotName?_eq_some_iff.1 hname
  exact quote_not_mem_slotToken hname h

theorem lastSlot?_append_of_not_mem {front : Text} (h : '"' ∉ front) (text : Text) :
    lastSlot? (front ++ text) = lastSlot? text := by
  induction front with
  | nil => rfl
  | cons c front ih =>
      rw [List.mem_cons, not_or] at h
      rw [List.cons_append, lastSlot?, if_neg (Ne.symm h.1), ih h.2]

theorem lastSlot?_of_not_mem (h : '"' ∉ text) : lastSlot? text = none := by
  have happend := lastSlot?_append_of_not_mem h []
  rwa [List.append_nil, lastSlot?] at happend

theorem lastSlot?_eq_some_iff : lastSlot? text = some name ↔
    (∃ front, text = front ++ '"' :: slotToken name) ∧ isPlaceholderName name = true ∧
      stylePrefix.isPrefixOf name = false := by
  induction text with
  | nil => simp [lastSlot?]
  | cons c text ih =>
      by_cases hc : c = '"'
      · rw [lastSlot?, if_pos hc, Option.or_eq_some_iff, slotName?_eq_some_iff, ih, hc]
        constructor
        · rintro (⟨rfl, hname⟩ | ⟨-, ⟨front, rfl⟩, hname⟩)
          · exact ⟨⟨[], rfl⟩, hname⟩
          · exact ⟨⟨'"' :: front, rfl⟩, hname⟩
        · rintro ⟨⟨front, heq⟩, hname⟩
          cases front with
          | nil =>
              cases heq
              exact .inl ⟨rfl, hname⟩
          | cons d front =>
              cases heq
              exact .inr ⟨slotName?_of_mem (by simp), ⟨front, rfl⟩, hname⟩
      · rw [lastSlot?, if_neg hc, ih]
        refine and_congr_left fun _ => ⟨?_, ?_⟩
        · rintro ⟨front, rfl⟩
          exact ⟨c :: front, rfl⟩
        · rintro ⟨front, heq⟩
          cases front with
          | nil =>
              cases heq
              exact absurd rfl hc
          | cons d front =>
              cases heq
              exact ⟨front, rfl⟩

namespace Template

def slotOf? : Piece → Option Text
  | .char _ => none
  | .token name => if stylePrefix.isPrefixOf name then none else some name

theorem slots_addText (s : Text) (segments : List Segment) :
    (Template.mk (addText s segments)).slots = (Template.mk segments).slots := by
  match segments with
  | [] => rfl
  | .slot _ :: _ => rfl
  | .text _ :: _ => rfl

theorem slots_ofText (text : Text) :
    (ofText text).slots = (TokenShape.quoted.scan text).filterMap slotOf? := by
  rw [ofText]
  induction TokenShape.quoted.scan text with
  | nil => rfl
  | cons piece pieces ih =>
      rw [List.foldr_cons, List.filterMap_cons, ← ih]
      cases piece with
      | char c => exact slots_addText [c] _
      | token name =>
          unfold addPiece slotOf?
          dsimp only
          split
          · exact slots_addText _ _
          · rfl

theorem slots_char {c : Char} (h : TokenShape.quoted.read? (c :: text) = none) :
    (ofText (c :: text)).slots = (ofText text).slots := by
  rw [slots_ofText, slots_ofText, TokenShape.scan_of_none h]
  rfl

theorem slots_token (h : TokenShape.quoted.read? text = some (name, rest)) :
    (ofText text).slots = (slotName? (slotToken name)).toList ++ (ofText rest).slots := by
  have hname : isPlaceholderName name = true :=
    isPlaceholderName_iff.2 (TokenShape.name_of_read? h)
  rw [slots_ofText, slots_ofText, TokenShape.scan_of_some h, List.filterMap_cons]
  by_cases hstyle : stylePrefix.isPrefixOf name = true
  · have hnone : slotName? (slotToken name) = none := by
      refine Option.eq_none_iff_forall_ne_some.2 fun other hother => ?_
      obtain ⟨heq, -, hslot⟩ := slotName?_eq_some_iff.1 hother
      have hother : name = other := List.append_cancel_left (List.append_cancel_right heq)
      rw [hother, hslot] at hstyle
      cases hstyle
    rw [slotOf?, if_pos hstyle, hnone]
    rfl
  · have hsome : slotName? (slotToken name) = some name :=
      slotName?_eq_some_iff.2 ⟨rfl, hname, Bool.eq_false_iff.2 hstyle⟩
    rw [slotOf?, if_neg hstyle, hsome]
    rfl

theorem slots_append_of_not_mem {front : Text} (h : '"' ∉ front) (text : Text) :
    (ofText (front ++ text)).slots = (ofText text).slots := by
  induction front with
  | nil => rfl
  | cons c front ih =>
      rw [List.mem_cons, not_or] at h
      have hread : TokenShape.quoted.read? (c :: (front ++ text)) = none := by
        have hopening : Text.after? TokenShape.quoted.opening (c :: (front ++ text)) = none :=
          if_neg h.1
        simp only [TokenShape.read?, hopening]
      rw [List.cons_append, slots_char hread, ih h.2]

end Template

namespace Json

theorem exists_not_mem_of_unit? {unit : Nat} (h : unit? text = some (unit, rest)) :
    ∃ used, text = used ++ rest ∧ '"' ∉ used := by
  simp only [unit?] at h
  split at h
  · next a b c d text =>
      split at h
      · next ha hb hc hd =>
          cases h
          refine ⟨[a, b, c, d], rfl, ?_⟩
          simp [(isSome_digitValue? ha).1.symm, (isSome_digitValue? hb).1.symm,
            (isSome_digitValue? hc).1.symm, (isSome_digitValue? hd).1.symm]
      · cases h
  · cases h

theorem exists_not_mem_of_unitChar? {c : Char} (h : unitChar? text = some (c, rest)) :
    ∃ used, text = used ++ rest ∧ '"' ∉ used := by
  rw [unitChar?] at h
  split at h
  · cases h
  · next unit after hunit =>
      obtain ⟨lead, rfl, hlead⟩ := exists_not_mem_of_unit? hunit
      split at h
      · split at h
        · next after =>
            split at h
            · next trail after htrail =>
                obtain ⟨used, rfl, hused⟩ := exists_not_mem_of_unit? htrail
                split at h
                · simp only [Option.some.injEq, Prod.mk.injEq] at h
                  obtain ⟨-, rfl⟩ := h
                  exact ⟨lead ++ '\\' :: 'u' :: used, by simp, by simp [hlead, hused]⟩
                · cases h
            · cases h
        · cases h
      · split at h
        · cases h
        · simp only [Option.some.injEq, Prod.mk.injEq] at h
          obtain ⟨-, rfl⟩ := h
          exact ⟨lead, rfl, hlead⟩

theorem IsEscape.quote_or_not_mem {used : Text} {c : Char} (h : IsEscape used c) :
    used = ['"'] ∨ '"' ∉ used := by
  cases used with
  | nil => cases h.read []
  | cons d used =>
      have hread := h.read []
      rw [List.append_nil] at hread
      simp only [escape?] at hread
      split at hread
      · next hd =>
          refine .inr ?_
          rw [List.mem_cons, hd, not_or]
          obtain ⟨digits, heq, hdigits⟩ := exists_not_mem_of_unitChar? hread
          rw [heq, List.append_nil]
          exact ⟨by decide, hdigits⟩
      · have hsingle : used = [] := by
          iterate 6
            split at hread
            · cases hread
              rfl
          cases hread
        rw [hsingle, List.mem_singleton]
        exact (em (d = '"')).imp (congrArg ([·])) Ne.symm

variable {s t : Text}

/-- From a quote in a string, a placeholder reaches up to the end of the string or nowhere. -/
theorem Spells.read?_quote (h : Spells s t) {after : Text} :
    TokenShape.quoted.read? ('"' :: (s ++ '"' :: rest)) = some (name, after) ↔
      s = slotToken name ∧ after = rest ∧ isPlaceholderName name = true := by
  constructor
  · intro hread
    obtain ⟨-, hspelled⟩ := TokenShape.eq_spell_of_read? hread
    have hname : isPlaceholderName name = true :=
      isPlaceholderName_iff.2 (TokenShape.name_of_read? hread)
    have hplain : Spells (slotToken name) (slotToken name) := by
      have hspells := Spells.append_plain
        (fun c hc => isPlain_of_isTokenChar (isTokenChar_slotToken hname c hc)) .nil
      rwa [List.append_nil] at hspells
    have htail : s ++ '"' :: rest = slotToken name ++ '"' :: after := by
      rw [spell_quoted, List.cons_append, List.append_assoc, List.singleton_append] at hspelled
      exact (List.cons.inj hspelled).2
    -- both texts are strings up to their first quotes that are not escaped
    have htaken := h.takeSpelling? rest
    rw [htail, hplain.takeSpelling?] at htaken
    cases htaken
    exact ⟨rfl, rfl, hname⟩
  · rintro ⟨rfl, rfl, hname⟩
    obtain ⟨hfirst, hspent⟩ := isPlaceholderName_iff.1 hname
    have hread := TokenShape.read?_spell_append (t := TokenShape.quoted) ⟨['"'], rfl⟩ hfirst hspent
      after
    rwa [spell_quoted, List.cons_append, List.append_assoc, List.singleton_append] at hread

theorem read?_closing (h : rest.head? ≠ some '_') :
    TokenShape.quoted.read? ('"' :: rest) = none := by
  have hopening : Text.after? TokenShape.quoted.opening ('"' :: rest) = none := by
    cases rest with
    | nil => rfl
    | cons c rest =>
        have hfirst : Text.after? ['_', '_'] (c :: rest) = none :=
          if_neg fun heq => h (congrArg some heq.symm)
        exact (if_pos rfl).trans hfirst
  simp only [TokenShape.read?, hopening]

/-- From a quote in a string on, the slots are those behind it, if there are more of them, or the
one that it opens. -/
theorem Spells.slots_quote (h : Spells s t)
    (hinner : (Template.ofText (s ++ '"' :: rest)).slots =
      (lastSlot? s).toList ++ (Template.ofText rest).slots) :
    (Template.ofText ('"' :: (s ++ '"' :: rest))).slots =
      (lastSlot? ('"' :: s)).toList ++ (Template.ofText rest).slots := by
  rw [lastSlot?, if_pos rfl]
  cases hread : TokenShape.quoted.read? ('"' :: (s ++ '"' :: rest)) with
  | some pair =>
      obtain ⟨name, after⟩ := pair
      obtain ⟨rfl, rfl, hname⟩ := h.read?_quote.1 hread
      rw [Template.slots_token hread, lastSlot?_of_not_mem (quote_not_mem_slotToken hname),
        Option.or_none]
  | none =>
      have hnone : slotName? s = none := by
        refine Option.eq_none_iff_forall_ne_some.2 fun name hname => ?_
        obtain ⟨hspelled, hname, -⟩ := slotName?_eq_some_iff.1 hname
        cases hread.symm.trans (h.read?_quote.2 ⟨hspelled, rfl, hname⟩)
      rw [Template.slots_char hread, hinner, hnone, Option.none_or]

/-- Inside a string, slots begin at escaped quotes. -/
theorem Spells.slots_append (h : Spells s t) (hrest : rest.head? ≠ some '_') :
    (Template.ofText (s ++ '"' :: rest)).slots =
      (lastSlot? s).toList ++ (Template.ofText rest).slots := by
  induction h with
  | nil => exact Template.slots_char (read?_closing hrest)
  | @plain c s t hc h ih =>
      have hnot : '"' ∉ [c] := by simpa using hc.not_quote.symm
      rw [← List.singleton_append, List.append_assoc, Template.slots_append_of_not_mem hnot, ih,
        lastSlot?_append_of_not_mem hnot]
  | @escape used s t c hused h ih =>
      have hbackslash : '"' ∉ ['\\'] := by decide
      rw [← List.singleton_append, List.append_assoc, List.append_assoc,
        Template.slots_append_of_not_mem hbackslash, lastSlot?_append_of_not_mem hbackslash]
      rcases hused.quote_or_not_mem with rfl | hnot
      · exact h.slots_quote ih
      · rw [Template.slots_append_of_not_mem hnot, lastSlot?_append_of_not_mem hnot, ih]

/-- The slot that a string is. -/
def Token.wholeSlot? : Token → Option Text
  | string spelling => slotName? spelling
  | _ => none

/-- The slot that a string ends in, behind the quote that opens it or behind an escaped one. -/
def Token.endSlot? : Token → Option Text
  | string spelling => lastSlot? ('"' :: spelling)
  | _ => none

theorem Lexes.slots {tokens : List Token} (h : Lexes text tokens) :
    (Template.ofText text).slots = tokens.filterMap Token.endSlot? := by
  induction h with
  | nil =>
      rw [Template.slots_ofText, TokenShape.scan]
      rfl
  | @space c text tokens hc h ih =>
      have hnot : '"' ∉ [c] := by
        rw [List.mem_singleton]
        rintro rfl
        cases hc
      rw [← List.singleton_append, Template.slots_append_of_not_mem hnot, ih]
  | @token token rest tokens hwell hfollows h ih =>
      cases token with
      | string spelling =>
          obtain ⟨t, hspells⟩ := hwell
          have hinner := hspells.slots_append h.head?_ne
          rw [Token.spelling_string_append, hspells.slots_quote hinner, ih]
          have hend : (Token.string spelling).endSlot? = lastSlot? ('"' :: spelling) := rfl
          rw [← hend]
          cases hslot : (Token.string spelling).endSlot? with
          | none => rw [List.filterMap_cons_none hslot, Option.toList_none, List.nil_append]
          | some name => rw [List.filterMap_cons_some hslot, Option.toList_some, List.singleton_append]
      | _ =>
          have hnot := Token.not_mem_spelling (.inl rfl) hwell fun s heq => by cases heq
          rw [Template.slots_append_of_not_mem hnot, ih, List.filterMap_cons_none rfl]

theorem Token.endSlot?_string (spelling : Text) :
    (Token.string spelling).endSlot? = (slotName? spelling).or (lastSlot? spelling) := by
  rw [endSlot?, lastSlot?, if_pos rfl]

theorem Token.endSlot?_of_wholeSlot? {token : Token} (h : token.wholeSlot? = some name) :
    token.endSlot? = some name := by
  cases token with
  | string spelling =>
      have hname : slotName? spelling = some name := h
      rw [endSlot?_string, hname, Option.some_or]
  | _ => cases h

/-- Any other string that ends in a slot has an escaped quote in front of it. -/
theorem Token.endSlot?_eq_wholeSlot?_iff {token : Token} : token.endSlot? = token.wholeSlot? ↔
    ∀ front name, token = .string (front ++ '"' :: slotToken name) →
      isPlaceholderName name = true → stylePrefix.isPrefixOf name = true := by
  cases token with
  | string spelling =>
      have hwhole : (Token.string spelling).wholeSlot? = slotName? spelling := rfl
      rw [endSlot?_string, hwhole]
      constructor
      · intro h front name heq hname
        cases heq
        by_contra hstyle
        have hlast : lastSlot? (front ++ '"' :: slotToken name) = some name :=
          lastSlot?_eq_some_iff.2 ⟨⟨front, rfl⟩, hname, Bool.eq_false_iff.2 hstyle⟩
        rw [slotName?_of_mem (by simp), hlast] at h
        cases h
      · intro h
        have hlast : lastSlot? spelling = none := by
          refine Option.eq_none_iff_forall_ne_some.2 fun name hname => ?_
          obtain ⟨⟨front, rfl⟩, hname, hslot⟩ := lastSlot?_eq_some_iff.1 hname
          rw [h front name rfl hname] at hslot
          cases hslot
        rw [hlast, Option.or_none]
  | _ => exact iff_of_true rfl fun front name heq => by cases heq

end Json

namespace Template

theorem filterMap_eq_iff_of_le {α β : Type} {f g : α → Option β}
    (h : ∀ x y, g x = some y → f x = some y) {list : List α} :
    list.filterMap f = list.filterMap g ↔ ∀ x ∈ list, f x = g x := by
  refine ⟨fun heq => ?_, List.filterMap_congr⟩
  induction list with
  | nil => exact nofun
  | cons x list ih =>
      rw [List.forall_mem_cons]
      cases hg : g x with
      | some y =>
          have hf := h x y hg
          rw [List.filterMap_cons_some hf, List.filterMap_cons_some hg] at heq
          exact ⟨hf, ih (List.cons.inj heq).2⟩
      | none =>
          cases hf : f x with
          | none =>
              rw [List.filterMap_cons_none hf, List.filterMap_cons_none hg] at heq
              exact ⟨rfl, ih heq⟩
          | some y =>
              have hle : (list.filterMap g).length ≤ (list.filterMap f).length := by
                rw [List.length_filterMap_eq_countP, List.length_filterMap_eq_countP]
                refine List.countP_mono_left fun x _ hsome => ?_
                obtain ⟨y, hy⟩ := Option.isSome_iff_exists.1 hsome
                rw [h x y hy, Option.isSome_some]
              rw [List.filterMap_cons_some hf, List.filterMap_cons_none hg] at heq
              rw [← heq, List.length_cons] at hle
              exact absurd hle (Nat.not_succ_le_self _)

/-- The slots of a document, in order, are the strings that end in a slot; these are slots
altogether just when no string has an escaped quote and a slot behind it at its end. -/
theorem slots_of_document {limit : Nat} {value : Json}
    (hdocument : Json.readWithin? limit text = some value) :
    ∃ tokens, Json.tokens? text = some tokens ∧
      (ofText text).slots = tokens.filterMap Token.endSlot? ∧
      ((ofText text).slots = tokens.filterMap Token.wholeSlot? ↔
        ∀ front name, .string (front ++ '"' :: slotToken name) ∈ tokens →
          isPlaceholderName name = true → stylePrefix.isPrefixOf name = true) := by
  obtain ⟨tokens, htokens, -⟩ := Option.bind_eq_some_iff.1 hdocument
  have hslots := (tokens?_eq_some_iff.1 htokens).slots
  refine ⟨tokens, htokens, hslots, ?_⟩
  rw [hslots, filterMap_eq_iff_of_le fun token name => Token.endSlot?_of_wholeSlot?]
  constructor
  · intro h front name hmem
    exact Token.endSlot?_eq_wholeSlot?_iff.1 (h _ hmem) front name rfl
  · intro h token hmem
    refine Token.endSlot?_eq_wholeSlot?_iff.2 fun front name heq => h front name ?_
    rwa [← heq]

/-- A string with an escaped quote in front of a slot, a whole slot and a style tag. -/
theorem slots_of_document_quoted : ∃ tokens,
    Json.tokens? "[\"\\\"__A__\", \"__B__\", \"__STYLE_C__\"]".toList = some tokens ∧
    (ofText "[\"\\\"__A__\", \"__B__\", \"__STYLE_C__\"]".toList).slots =
      tokens.filterMap Token.endSlot? ∧
    tokens.filterMap Token.endSlot? = ["A".toList, "B".toList] ∧
    tokens.filterMap Token.wholeSlot? = ["B".toList] := by
  have hread :
      (Json.readWithin? 1 "[\"\\\"__A__\", \"__B__\", \"__STYLE_C__\"]".toList).isSome := by
    decide +kernel
  obtain ⟨value, hdocument⟩ := Option.isSome_iff_exists.1 hread
  obtain ⟨tokens, htokens, hslots, -⟩ := slots_of_document hdocument
  have hknown : some tokens = some [.openArray, .string "\\\"__A__".toList, .comma,
      .string "__B__".toList, .comma, .string "__STYLE_C__".toList, .closeArray] :=
    htokens.symm.trans (by decide +kernel)
  cases hknown
  exact ⟨_, htokens, hslots, by decide +kernel, by decide +kernel⟩

end Template

end Highlight
