import Highlight.Proofs.Json.Outline
import Highlight.Proofs.Style

/-!
Resolution of style tags in JSON text. A tag lies inside a string and is no part of an escape, and a
classification holds nothing that a string would have to escape, so that the text keeps its tokens
and only strings change.
-/

namespace Highlight

open Json

theorem isPlain_of_isScopeChar {c : Char} (h : isScopeChar c = true) : IsPlain c := by
  have hcontrol : ∀ n < 0x20, isScopeChar (Char.ofNat n) = false := by decide
  refine ⟨?_, ?_, fun hc => ?_⟩
  · intro heq
    subst heq
    cases h
  · intro heq
    subst heq
    cases h
  · have hfalse := hcontrol c.toNat hc
    rw [Char.ofNat_toNat, h] at hfalse
    cases hfalse

theorem isPlain_of_isTokenChar {c : Char} (h : isTokenChar c = true) : IsPlain c := by
  apply isPlain_of_isScopeChar
  have hscope : isScopeChar c = (((c.isUpper || c.isLower || c.isDigit) || c = '_' || c = '-') ||
      (c = '.' || c = ' ')) := rfl
  have htoken : isTokenChar c = ((c.isUpper || c.isDigit) || c = '_') := rfl
  rw [htoken, Bool.or_eq_true, Bool.or_eq_true] at h
  rw [hscope]
  rcases h with (h | h) | h
  · simp only [h, Bool.true_or]
  · simp only [h, Bool.or_true, Bool.true_or]
  · simp only [h, Bool.or_true, Bool.true_or]

namespace Json.Spells

variable {m : StyleMap} {front s t out : Text}

theorem append_plain (hfront : ∀ c ∈ front, IsPlain c) (h : Spells s t) :
    Spells (front ++ s) (front ++ t) := by
  induction front with
  | nil => exact h
  | cons c front ih =>
      exact .plain (hfront c List.mem_cons_self)
        (ih fun d hd => hfront d (List.mem_cons_of_mem _ hd))

theorem of_append (hfront : '\\' ∉ front) (h : Spells (front ++ s) t) : ∃ t', Spells s t' := by
  induction front generalizing t with
  | nil => exact ⟨t, h⟩
  | cons c front ih =>
      rw [List.mem_cons, not_or] at hfront
      generalize htext : c :: front ++ s = text at h
      cases h with
      | nil => cases htext
      | plain hc h =>
          rw [List.cons_append, List.cons.injEq] at htext
          exact ih hfront.2 (htext.2 ▸ h)
      | escape hused h =>
          rw [List.cons_append, List.cons.injEq] at htext
          exact absurd htext.1.symm hfront.1

theorem resolve (hm : m.Scoped) {s t out : Text} (h : Spells s t) (hout : m.resolve s = .ok out) :
    ∃ t', Spells out t' := by
  induction hlength : s.length using Nat.strongRecOn generalizing s t out with
  | ind length ih =>
  subst hlength
  cases htag : TokenShape.style.read? s with
  | some found =>
      obtain ⟨name, rest⟩ := found
      obtain ⟨classification, after, hmapped, hafter, rfl⟩ :=
        (StyleMap.resolve_tag_eq_ok_iff htag).1 hout
      have hsolid : '\\' ∉ TokenShape.style.spell name := by
        intro hmem
        cases TokenShape.isTokenChar_spell solid_style htag _ hmem
      obtain ⟨t1, hrest⟩ : ∃ t1, Spells rest t1 := by
        rw [(TokenShape.eq_spell_of_read? htag).2] at h
        exact h.of_append hsolid
      obtain ⟨t2, hresolved⟩ := ih rest.length (TokenShape.length_of_read? htag) hrest hafter rfl
      have hplain : ∀ c ∈ classification, IsPlain c :=
        fun c hc => isPlain_of_isScopeChar (hm name classification hmapped c hc)
      exact ⟨_, hresolved.append_plain hplain⟩
  | none =>
      cases h with
      | nil =>
          cases StyleMap.resolve_nil.symm.trans hout
          exact ⟨[], .nil⟩
      | plain hc h =>
          rw [StyleMap.resolve_cons_of_none htag, map_eq_ok_iff] at hout
          obtain ⟨after, hafter, rfl⟩ := hout
          obtain ⟨t1, hresolved⟩ := ih _ (Nat.lt_succ_self _) h hafter rfl
          exact ⟨_, .plain hc hresolved⟩
      | @escape used s t c hused h =>
          have hsolid : '_' ∉ '\\' :: used := by simpa using hused.solid
          rw [← List.cons_append, StyleMap.resolve_append_of_not_mem hsolid, map_eq_ok_iff] at hout
          obtain ⟨after, hafter, rfl⟩ := hout
          have hshorter : s.length < ('\\' :: (used ++ s)).length := by
            rw [List.length_cons, List.length_append]
            omega
          obtain ⟨t1, hresolved⟩ := ih s.length hshorter h hafter rfl
          exact ⟨_, .escape hused hresolved⟩

end Json.Spells

def StyleMap.resolveToken (m : StyleMap) : Token → Except Error Token
  | .string spelling => (m.resolve spelling).map Token.string
  | token => .ok token

namespace Json.Lexes

variable {m : StyleMap} {text out : Text} {tokens : List Token}

/-- A resolved text falls into the same tokens, resolved one by one. -/
theorem resolve (hm : m.Scoped) (h : Lexes text tokens) (hout : m.resolve text = .ok out) :
    ∃ resolved, tokens.map m.resolveToken = resolved.map .ok ∧ Lexes out resolved := by
  induction h generalizing out with
  | nil =>
      cases StyleMap.resolve_nil.symm.trans hout
      exact ⟨[], rfl, .nil⟩
  | @space c text tokens hc h ih =>
      have hsolid : c ≠ '_' := by
        intro heq
        subst heq
        cases hc
      rw [StyleMap.resolve_cons_of_none (TokenShape.style_read?_of_ne hsolid text),
        map_eq_ok_iff] at hout
      obtain ⟨after, hafter, rfl⟩ := hout
      obtain ⟨resolved, hresolved, hlexes⟩ := ih hafter
      exact ⟨resolved, hresolved, .space hc hlexes⟩
  | @token token rest tokens hwell hfollows h ih =>
      by_cases hstring : ∃ spelling, token = .string spelling
      · obtain ⟨spelling, rfl⟩ := hstring
        obtain ⟨t, ht⟩ := hwell
        rw [Token.spelling_string_append,
          StyleMap.resolve_cons_of_none (TokenShape.style_read?_of_ne (by decide) _),
          map_eq_ok_iff] at hout
        obtain ⟨inner, hinner, rfl⟩ := hout
        obtain ⟨first, last, hfirst, hlast, rfl⟩ := (StyleMap.resolve_break_eq_ok_iff rfl).1 hinner
        obtain ⟨resolved, hresolved, hlexes⟩ := ih hlast
        obtain ⟨t', ht'⟩ := ht.resolve hm hfirst
        have htoken : m.resolveToken (.string spelling) = .ok (.string first) :=
          map_eq_ok_iff.2 ⟨first, hfirst, rfl⟩
        refine ⟨.string first :: resolved, ?_, ?_⟩
        · rw [List.map_cons, List.map_cons, htoken, hresolved]
        · rw [← Token.spelling_string_append]
          exact .token ⟨t', ht'⟩ trivial hlexes
      · have hsolid := token.solid_spelling hwell fun s heq => hstring ⟨s, heq⟩
        rw [StyleMap.resolve_append_of_not_mem hsolid, map_eq_ok_iff] at hout
        obtain ⟨after, hafter, rfl⟩ := hout
        obtain ⟨resolved, hresolved, hlexes⟩ := ih hafter
        have htoken : m.resolveToken token = .ok token := by
          cases token with
          | string s => exact absurd ⟨s, rfl⟩ hstring
          | _ => rfl
        have hnext := hfollows.of_head? (StyleMap.head?_resolve hafter h.head?_ne)
        exact ⟨token :: resolved, by rw [List.map_cons, List.map_cons, htoken, hresolved],
          .token hwell hnext hlexes⟩

end Json.Lexes

/-- Resolved tokens have the outline that they had. -/
theorem run_resolveToken {m : StyleMap} {tokens resolved : List Token}
    (h : tokens.map m.resolveToken = resolved.map .ok) (outline : Outline) :
    outline.run resolved = outline.run tokens := by
  induction tokens generalizing resolved outline with
  | nil => rw [List.map_eq_nil_iff.1 h.symm]
  | cons token tokens ih =>
      obtain ⟨first, rest, rfl, hfirst, hrest⟩ := List.map_eq_cons_iff.1 h.symm
      have hstep : outline.step first = outline.step token := by
        cases token with
        | string s =>
            obtain ⟨t, -, rfl⟩ := map_eq_ok_iff.1 hfirst.symm
            exact outline.step_string t s
        | _ =>
            cases hfirst
            rfl
      simp only [Outline.run, hstep, ih hrest.symm]

end Highlight
