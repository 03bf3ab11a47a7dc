import Highlight.Proofs.Json.Number
import Highlight.Proofs.Json.String

/-!
Cutting a text into tokens. `Lexes` is the grammar that `tokens?` follows: spaces and spelled tokens
in any order, of which only numbers look at what comes next. A text may be cut wherever no number
reaches over the cut.
-/

namespace Highlight.Json

namespace Token

def spelling : Token → Text
  | openArray => ['[']
  | closeArray => [']']
  | openObject => ['\x7b']
  | closeObject => ['\x7d']
  | comma => [',']
  | colon => [':']
  | null => "null".toList
  | bool true => "true".toList
  | bool false => "false".toList
  | number n => n.spelling
  | string spelling => '"' :: (spelling ++ ['"'])

def WellFormed : Token → Prop
  | number n => n.WellFormed ∧ n.inRange = true
  | string spelling => ∃ s, Spells spelling s
  | _ => True

def Follows : Token → Text → Prop
  | number n, rest => n.Follows rest
  | _, _ => True

variable {token : Token} {text rest rest' : Text}

theorem Follows.of_head? (h : token.Follows rest) (hhead : rest'.head? = rest.head?) :
    token.Follows rest' := by
  cases token with
  | number n => exact Numeral.Follows.of_head? h hhead
  | _ => trivial

theorem spelling_string_append (spelling rest : Text) :
    (string spelling).spelling ++ rest = '"' :: (spelling ++ '"' :: rest) := by
  simp only [Token.spelling, List.cons_append, List.append_assoc, List.nil_append]

theorem read?_spelling (hwell : token.WellFormed) (hfollows : token.Follows rest) :
    read? (token.spelling ++ rest) = some (token, rest) := by
  cases token with
  | number n =>
      have hread := Numeral.read?_spelling hwell.1 hfollows
      obtain ⟨c, more, hspelling, hc⟩ := Numeral.exists_cons_spelling hwell.1
      have hquote : c ≠ '"' := by
        intro heq
        subst heq
        rcases hc with hc | hc <;> cases hc
      have hnumber : (decide (c = '-') || c.isDigit) = true := by simpa using hc
      rw [hspelling, List.cons_append] at hread
      rw [spelling, hspelling, List.cons_append]
      simp only [read?, hquote, hnumber, hread, hwell.2, if_true, if_false]
  | string spelling =>
      obtain ⟨s, hs⟩ := hwell
      rw [spelling_string_append]
      simp only [read?, hs.takeSpelling?, decode?_eq_some_iff.2 hs, Option.isSome_some, if_true]
  | bool value => cases value <;> rfl
  | _ => rfl

theorem of_read? (h : read? text = some (token, rest)) :
    text = token.spelling ++ rest ∧ token.WellFormed ∧ token.Follows rest := by
  cases text with
  | nil => cases h
  | cons c text =>
      simp only [read?] at h
      split at h
      · next hquote =>
          split at h
          · next hspelling =>
              split at h
              · next hdecoded =>
                  cases h
                  obtain ⟨s, hs⟩ := Option.isSome_iff_exists.1 hdecoded
                  refine ⟨?_, ⟨s, decode?_eq_some_iff.1 hs⟩, trivial⟩
                  rw [hquote, eq_of_takeSpelling? hspelling, spelling, List.cons_append,
                    List.append_assoc, List.singleton_append]
              · cases h
          · cases h
      split at h
      · split at h
        · next hnumber =>
            split at h
            · next hrange =>
                cases h
                obtain ⟨htext, hwell, hfollows⟩ := Numeral.of_read? hnumber
                exact ⟨htext, ⟨hwell, hrange⟩, hfollows⟩
            · cases h
        · cases h
      · obtain ⟨⟨word, other⟩, hmem, h⟩ := List.exists_of_findSome?_eq_some h
        obtain ⟨after, hafter, h⟩ := Option.map_eq_some_iff.1 h
        cases h
        rw [Text.after?_eq_some_iff] at hafter
        simp only [fixed, List.mem_cons, List.not_mem_nil, or_false, Prod.mk.injEq] at hmem
        rcases hmem with ⟨rfl, rfl⟩ | ⟨rfl, rfl⟩ | ⟨rfl, rfl⟩ | ⟨rfl, rfl⟩ | ⟨rfl, rfl⟩ |
          ⟨rfl, rfl⟩ | ⟨rfl, rfl⟩ | ⟨rfl, rfl⟩ | ⟨rfl, rfl⟩ <;> exact ⟨hafter, trivial, trivial⟩

/-- A token is read off a text just when it stands there and is not carried on. -/
theorem read?_eq_some_iff : read? text = some (token, rest) ↔
    text = token.spelling ++ rest ∧ token.WellFormed ∧ token.Follows rest := by
  constructor
  · exact of_read?
  · intro hall
    obtain ⟨rfl, hwell, hfollows⟩ := hall
    exact read?_spelling hwell hfollows

theorem exists_cons_spelling (hwell : token.WellFormed) :
    ∃ c more, token.spelling = c :: more ∧ isSpace c = false ∧ c ≠ '_' := by
  cases token with
  | number n =>
      obtain ⟨c, more, hspelling, hc⟩ := Numeral.exists_cons_spelling hwell.1
      refine ⟨c, more, hspelling, ?_⟩
      rcases hc with rfl | hc
      · exact ⟨rfl, by decide⟩
      · have hne {d : Char} (hd : d.isDigit = false) : c ≠ d := by
          intro heq
          subst heq
          rw [hd] at hc
          cases hc
        refine ⟨?_, hne rfl⟩
        simp only [isSpace, Bool.or_eq_false_iff, decide_eq_false_iff_not]
        exact ⟨⟨⟨hne rfl, hne rfl⟩, hne rfl⟩, hne rfl⟩
  | string spelling => exact ⟨'"', _, rfl, rfl, by decide⟩
  | bool value =>
      cases value with
      | true => exact ⟨'t', _, rfl, rfl, by decide⟩
      | false => exact ⟨'f', _, rfl, rfl, by decide⟩
  | _ => exact ⟨_, _, rfl, rfl, by decide⟩

theorem not_mem_spelling {c : Char} (hc : c = '"' ∨ c = '_') (hwell : token.WellFormed)
    (hstring : ∀ s, token ≠ string s) : c ∉ token.spelling := by
  cases token with
  | number n =>
      intro hmem
      have hnumber := Numeral.isNumberChar_of_mem_spelling hwell.1 _ hmem
      rcases hc with rfl | rfl <;> cases hnumber
  | string s => exact absurd rfl (hstring s)
  | bool value => cases value <;> rcases hc with rfl | rfl <;> decide
  | _ => rcases hc with rfl | rfl <;> decide

theorem solid_spelling (hwell : token.WellFormed) (hstring : ∀ s, token ≠ string s) :
    '_' ∉ token.spelling := not_mem_spelling (.inr rfl) hwell hstring

end Token

inductive Lexes : Text → List Token → Prop
  | nil : Lexes [] []
  | space {c : Char} {text : Text} {tokens : List Token} (hc : isSpace c = true)
      (h : Lexes text tokens) : Lexes (c :: text) tokens
  | token {token : Token} {rest : Text} {tokens : List Token} (hwell : token.WellFormed)
      (hfollows : token.Follows rest) (h : Lexes rest tokens) :
      Lexes (token.spelling ++ rest) (token :: tokens)

variable {text front back : Text} {tokens : List Token}

theorem tokens?_nil : tokens? [] = some [] := by rw [tokens?]; rfl

theorem tokens?_space {c : Char} (hc : isSpace c = true) (text : Text) :
    tokens? (c :: text) = tokens? text := by
  have hdrop : (c :: text).dropWhile isSpace = text.dropWhile isSpace :=
    List.dropWhile_cons_of_pos hc
  rw [tokens?.eq_def, hdrop, ← tokens?.eq_def]

theorem tokens?_token {token : Token} {rest : Text} (hwell : token.WellFormed)
    (hfollows : token.Follows rest) :
    tokens? (token.spelling ++ rest) = (tokens? rest).map (token :: ·) := by
  obtain ⟨c, more, hspelling, hc, -⟩ := token.exists_cons_spelling hwell
  have hread := Token.read?_spelling hwell hfollows
  have hdrop : (token.spelling ++ rest).dropWhile isSpace = token.spelling ++ rest := by
    rw [hspelling]
    exact List.dropWhile_cons_of_neg (by simp [hc])
  rw [tokens?, hdrop, if_neg]
  · split
    · next heq =>
        cases hread.symm.trans heq
        rfl
    · next heq => cases hread.symm.trans heq
  · rw [hspelling]
    exact Bool.false_ne_true

theorem lexes_of_dropWhile (h : Lexes (text.dropWhile isSpace) tokens) : Lexes text tokens := by
  induction text with
  | nil => exact h
  | cons c text ih =>
      by_cases hc : isSpace c = true
      · rw [List.dropWhile_cons_of_pos hc] at h
        exact .space hc (ih h)
      · rwa [List.dropWhile_cons_of_neg hc] at h

theorem tokens?_eq_some_iff : tokens? text = some tokens ↔ Lexes text tokens := by
  constructor
  · intro h
    fun_induction tokens? text generalizing tokens with
    | case1 text hempty =>
        cases h
        apply lexes_of_dropWhile
        rw [List.isEmpty_iff.1 hempty]
        exact .nil
    | case2 text hne token rest hread ih =>
        obtain ⟨more, hmore, rfl⟩ := Option.map_eq_some_iff.1 h
        obtain ⟨htext, hwell, hfollows⟩ := Token.of_read? hread
        apply lexes_of_dropWhile
        rw [htext]
        exact .token hwell hfollows (ih hmore)
    | case3 => cases h
  · intro h
    induction h with
    | nil => exact tokens?_nil
    | space hc h ih => rw [tokens?_space hc, ih]
    | token hwell hfollows h ih => rw [tokens?_token hwell hfollows, ih, Option.map_some]

/-- No number reaches from one text into the other. -/
def Apart (front back : Text) : Prop :=
  (∀ c ∈ front.getLast?, Numeral.isNumberChar c = false) ∨
    ∀ c ∈ back.head?, Numeral.isNumberChar c = false

theorem Apart.of_append {rest : Text} (h : Apart (front ++ rest) back) : Apart rest back := by
  rcases h with h | h
  · refine .inl fun c hc => h c ?_
    rw [List.getLast?_append, Option.mem_def.1 hc]
    rfl
  · exact .inr h

theorem Token.Follows.append {token : Token} {rest : Text} (hwell : token.WellFormed)
    (h : token.Follows rest) (happart : Apart (token.spelling ++ rest) back) :
    token.Follows (rest ++ back) := by
  cases rest with
  | cons c rest => exact h.of_head? rfl
  | nil =>
      rw [List.append_nil] at happart
      rw [List.nil_append]
      cases token with
      | number n =>
          refine n.follows_of_head? (happart.resolve_left fun hlast => ?_)
          have hmem := List.getLast_mem (Numeral.spelling_ne_nil hwell.1)
          have hnumber := hlast _ (List.getLast?_eq_some_getLast (Numeral.spelling_ne_nil hwell.1))
          rw [Numeral.isNumberChar_of_mem_spelling hwell.1 _ hmem] at hnumber
          cases hnumber
      | _ => trivial

/-- The tokens of a text that is cut between two numbers or elsewhere. -/
theorem tokens?_append (h : tokens? front = some tokens) (happart : Apart front back) :
    tokens? (front ++ back) = (tokens? back).map (tokens ++ ·) := by
  rw [tokens?_eq_some_iff] at h
  induction h with
  | nil => simp
  | space hc h ih =>
      have hrest : Apart ([_] ++ _) back := happart
      rw [List.cons_append, tokens?_space hc, ih hrest.of_append]
  | token hwell hfollows h ih =>
      rw [List.append_assoc, tokens?_token hwell (hfollows.append hwell happart),
        ih happart.of_append, Option.map_map]
      rfl

theorem Lexes.wellFormed (h : Lexes text tokens) : ∀ token ∈ tokens, token.WellFormed := by
  induction h with
  | nil => nofun
  | space hc h ih => exact ih
  | token hwell hfollows h ih =>
      intro token hmem
      rcases List.mem_cons.1 hmem with rfl | hmem
      · exact hwell
      · exact ih token hmem

theorem Lexes.head?_ne (h : Lexes text tokens) : text.head? ≠ some '_' := by
  cases h with
  | nil => exact nofun
  | space hc h =>
      intro heq
      cases heq
      cases hc
  | @token token rest tokens hwell hfollows h =>
      obtain ⟨c, more, hspelling, -, hc⟩ := token.exists_cons_spelling hwell
      rw [hspelling]
      exact fun heq => hc (Option.some.inj heq)

end Highlight.Json
