import Highlight.Proofs.Rule

/-!
What fills a slot, as tokens: the objects of its rules with commas between them, or one string.
-/

namespace Highlight

open Json

namespace Content

def tokens : Content → List Token
  | rules list => List.intercalate [.comma] (list.map fun rule => rule.toJson.tokens)
  | text s => [.string (Json.escape s)]

theorem prints_render (content : Content) : Prints content.render content.tokens := by
  cases content with
  | text s => exact .quote s
  | rules list =>
      have hcomma : Prints ",\n".toList [.comma] := Prints.comma.append (.newline 0)
      exact .join hcomma fun rule _ => rule.legible_toJson.prints 0

theorem head?_render {content : Content} (h : content ≠ .rules []) :
    ∃ c rest, content.render = c :: rest ∧ Numeral.isNumberChar c = false := by
  cases content with
  | text s => exact ⟨'"', _, rfl, rfl⟩
  | rules list =>
      cases list with
      | nil => exact absurd rfl h
      | cons rule list =>
          obtain ⟨rest, hrest⟩ : ∃ rest, rule.pretty = '\x7b' :: rest := by
            unfold Rule.pretty Rule.toJson
            rw [Json.pretty, block]
            split <;> exact ⟨_, rfl⟩
          refine ⟨'\x7b', List.intercalate ",\n".toList (rest :: list.map Rule.pretty), ?_, rfl⟩
          rw [render, Text.join, List.map_cons, hrest, List.intercalate_cons_cons_left]

theorem run_rules {list : List Rule} (hne : list ≠ []) (around : List Bracket) {due : Due}
    (hdue : due = .value ∨ due = .firstItem) :
    Outline.run ⟨.array :: around, due⟩ (rules list).tokens = some ⟨.array :: around, .after⟩ := by
  refine run_intercalate rfl (by simpa using hne) (fun part hpart due hdue => ?_) due hdue.symm
  obtain ⟨rule, -, rfl⟩ := List.mem_map.1 hpart
  exact rule.legible_toJson.takesPlace _ due hdue.symm

end Content

end Highlight
