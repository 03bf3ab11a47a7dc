import Highlight.Proofs.Json.Outline

/-!
Printed values. The tokens of a value are what the reader finds in its printed form, whatever stands
behind it, and they take the place of one value in a document.
-/

namespace Highlight.Json

mutual

def tokens : Json → List Token
  | null => [.null]
  | bool value => [.bool value]
  | number spelling =>
    match Numeral.read? spelling with
    | some (n, _) => [.number n]
    | none => []
  | string s => [.string (escape s)]
  | array items =>
    .openArray :: (List.intercalate [.comma] (itemTokens items) ++ [.closeArray])
  | object fields =>
    .openObject :: (List.intercalate [.comma] (fieldTokens fields) ++ [.closeObject])

def itemTokens : List Json → List (List Token)
  | [] => []
  | item :: items => tokens item :: itemTokens items

def fieldTokens : List (Text × Json) → List (List Token)
  | [] => []
  | (key, value) :: fields =>
    (.string (escape key) :: .colon :: tokens value) :: fieldTokens fields

end

/-- The text is read as the tokens, whatever stands behind it. -/
def Prints (text : Text) (tokens : List Token) : Prop :=
  ∀ rest, tokens? (text ++ rest) = (tokens? rest).map (tokens ++ ·)

namespace Prints

variable {text front back : Text} {tokens xs ys : List Token}

theorem tokens?_eq (h : Prints text tokens) : tokens? text = some tokens := by
  have hnil := h []
  rwa [List.append_nil, tokens?_nil, Option.map_some, List.append_nil] at hnil

theorem append (hfront : Prints front xs) (hback : Prints back ys) :
    Prints (front ++ back) (xs ++ ys) := by
  intro rest
  rw [List.append_assoc, hfront, hback, Option.map_map]
  congr 1
  funext zs
  exact (List.append_assoc xs ys zs).symm

theorem spaces (h : ∀ c ∈ text, isSpace c = true) : Prints text [] := by
  intro rest
  induction text with
  | nil => simp
  | cons c text ih =>
      rw [List.cons_append, tokens?_space (h c List.mem_cons_self)]
      exact ih fun d hd => h d (List.mem_cons_of_mem _ hd)

theorem token (token : Token) (hwell : token.WellFormed)
    (hnumber : ∀ n, token ≠ .number n) : Prints token.spelling [token] := by
  intro rest
  refine tokens?_token hwell ?_
  cases token with
  | number n => exact absurd rfl (hnumber n)
  | _ => trivial

theorem comma : Prints [','] [.comma] := token .comma trivial fun _ => nofun

theorem colon : Prints [':'] [.colon] := token .colon trivial fun _ => nofun

theorem openObject : Prints ['\x7b'] [.openObject] := token .openObject trivial fun _ => nofun

theorem closeObject : Prints ['\x7d'] [.closeObject] := token .closeObject trivial fun _ => nofun

theorem quote (s : Text) : Prints (quote s) [.string (escape s)] := by
  have hwell : (Token.string (escape s)).WellFormed := ⟨s, spells_escape s⟩
  exact token _ hwell fun _ => nofun

theorem join {α : Type} {separator : Text} {between : List Token}
    (hseparator : Prints separator between) {write : α → Text} {spell : α → List Token}
    {list : List α} (h : ∀ x ∈ list, Prints (write x) (spell x)) :
    Prints (Text.join separator (list.map write)) (List.intercalate between (list.map spell)) := by
  induction list with
  | nil => exact spaces nofun
  | cons x list ih =>
      have hfirst := h x List.mem_cons_self
      have hrest := ih fun y hy => h y (List.mem_cons_of_mem _ hy)
      cases list with
      | nil => simpa only [Text.join, List.map, List.intercalate_singleton] using hfirst
      | cons y list =>
          simp only [Text.join, List.map, List.intercalate_cons_cons]
          exact (hfirst.append hseparator).append hrest

theorem newline (level : Nat) : Prints (newline level) [] := by
  refine spaces fun c hc => ?_
  rcases List.mem_cons.1 hc with rfl | hc
  · rfl
  · rw [List.eq_of_mem_replicate hc]
    rfl

theorem block {α : Type} {left right : Token} {l r : Char} (hleft : Prints [l] [left])
    (hright : Prints [r] [right]) (level : Nat) {write : α → Text} {spell : α → List Token}
    {list : List α} (h : ∀ x ∈ list, Prints (write x) (spell x)) :
    Prints (block l r level (list.map write))
      (left :: (List.intercalate [.comma] (list.map spell) ++ [right])) := by
  have hcomma : Prints (',' :: Json.newline (level + 1)) [.comma] :=
    comma.append (newline (level + 1))
  rw [Json.block]
  split
  · next hempty =>
      rw [List.isEmpty_iff, List.map_eq_nil_iff] at hempty
      rw [hempty]
      exact hleft.append hright
  · have hitems := ((newline (level + 1)).append (join hcomma h)).append (newline level)
    rw [List.append_nil] at hitems
    exact hleft.append (hitems.append hright)

end Prints

theorem prettyFields_eq_map (level : Nat) (fields : List (Text × Json)) :
    prettyFields level fields =
      fields.map fun field => quote field.1 ++ ':' :: ' ' :: pretty level field.2 := by
  induction fields with
  | nil => rfl
  | cons field fields ih => rw [prettyFields, ih, List.map_cons]

theorem fieldTokens_eq_map (fields : List (Text × Json)) :
    fieldTokens fields =
      fields.map fun field => .string (escape field.1) :: .colon :: field.2.tokens := by
  induction fields with
  | nil => rfl
  | cons field fields ih => rw [fieldTokens, ih, List.map_cons]

/-- The tokens take the place of one value. -/
def TakesPlace (tokens : List Token) : Prop :=
  ∀ around due, due = .value ∨ due = .firstItem →
    Outline.run ⟨around, due⟩ tokens = some ⟨around, .after⟩

theorem run_intercalate {around : List Bracket} {first next : Due}
    (hcomma : Outline.step ⟨around, .after⟩ .comma = some ⟨around, next⟩)
    {parts : List (List Token)} (hne : parts ≠ [])
    (h : ∀ part ∈ parts, ∀ due, due = first ∨ due = next →
      Outline.run ⟨around, due⟩ part = some ⟨around, .after⟩) :
    ∀ due, due = first ∨ due = next →
      Outline.run ⟨around, due⟩ (List.intercalate [.comma] parts) = some ⟨around, .after⟩ := by
  induction parts with
  | nil => exact absurd rfl hne
  | cons part parts ih =>
      intro due hdue
      have hpart := h part List.mem_cons_self due hdue
      cases parts with
      | nil => rwa [List.intercalate_singleton]
      | cons second parts =>
          have hrest := ih (List.cons_ne_nil _ _) (fun part hmem => h part (List.mem_cons_of_mem _ hmem))
            next (.inr rfl)
          rw [List.intercalate_cons_cons, List.append_assoc, Outline.run_append, hpart]
          simp only [Option.bind_some, List.singleton_append, Outline.run, hcomma, hrest]

structure Printed (value : Json) : Prop where
  prints : ∀ level, Prints (value.pretty level) value.tokens
  takesPlace : TakesPlace value.tokens

theorem printed_string (s : Text) : Printed (.string s) := by
  refine ⟨fun level => ?_, ?_⟩
  · rw [pretty, tokens]
    exact .quote s
  · rintro around due (rfl | rfl) <;> rfl

theorem takesPlace_object {fields : List (Text × Json)}
    (h : ∀ field ∈ fields, TakesPlace field.2.tokens) : TakesPlace (tokens (.object fields)) := by
  intro around due hdue
  have hopen : Outline.step ⟨around, due⟩ .openObject = some ⟨.object :: around, .firstKey⟩ := by
    rcases hdue with rfl | rfl <;> rfl
  rw [tokens, Outline.run, hopen, Option.bind_some, fieldTokens_eq_map]
  by_cases hne : fields = []
  · rw [hne]
    rfl
  · let spell (field : Text × Json) : List Token :=
      .string (escape field.1) :: .colon :: field.2.tokens
    have hfields : ∀ part ∈ fields.map spell, ∀ due, due = .firstKey ∨ due = .key →
        Outline.run ⟨.object :: around, due⟩ part = some ⟨.object :: around, .after⟩ := by
      intro part hpart due hdue
      obtain ⟨field, hmem, rfl⟩ := List.mem_map.1 hpart
      have hvalue := h field hmem (.object :: around) .value (.inl rfl)
      rcases hdue with rfl | rfl <;> exact hvalue
    have hrun := run_intercalate rfl (by simpa using hne) hfields .firstKey (.inl rfl)
    rw [Outline.run_append, hrun]
    rfl

theorem printed_object {fields : List (Text × Json)} (h : ∀ field ∈ fields, Printed field.2) :
    Printed (.object fields) := by
  refine ⟨fun level => ?_, takesPlace_object fun field hmem => (h field hmem).takesPlace⟩
  rw [pretty, tokens, prettyFields_eq_map, fieldTokens_eq_map]
  refine Prints.block .openObject .closeObject level fun field hmem => ?_
  have hcolon : Prints [':', ' '] [.colon] :=
    Prints.colon.append (.spaces (forall_mem_of_all (by decide)))
  exact (Prints.quote field.1).append (hcolon.append ((h field hmem).prints (level + 1)))

end Highlight.Json
