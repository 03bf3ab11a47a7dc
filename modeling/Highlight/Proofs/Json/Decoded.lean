import Highlight.Proofs.Json.Printed

/-!
Reading values back. What a reader makes of the tokens of a value does not hang on what is open
around them, as long as enough may still be opened; so both written forms of a value are read as the
value itself.
-/

namespace Highlight.Json

theorem ReadState.run_append (limit : Nat) (state : ReadState) (tokens more : List Token) :
    state.run limit (tokens ++ more) =
      (state.run limit tokens).bind fun state => state.run limit more := by
  induction tokens generalizing state with
  | nil => rfl
  | cons token tokens ih =>
      simp only [List.cons_append, run]
      cases state.step limit token with
      | none => rfl
      | some next => exact ih next

/-- Wherever a value is due its tokens are read as the value, and at most `depth` arrays and objects
are open at once on the way. -/
def Reads (depth : Nat) (value : Json) : Prop :=
  ∀ limit frames expect, expect = .value ∨ expect = .firstItem → frames.length + depth ≤ limit →
    ReadState.run limit ⟨frames, expect⟩ value.tokens = some ⟨frames, .after value⟩

namespace Reads

variable {depth depth' limit : Nat} {frames : List Frame} {fields : List (Text × Json)}
  {value : Json} {expect : Expect}

theorem mono (hle : depth ≤ depth') (h : Reads depth value) : Reads depth' value :=
  fun limit frames expect hexpect hlimit => h limit frames expect hexpect (by omega)

theorem string (s : Text) : Reads 0 (.string s) := by
  intro limit frames expect hexpect hlimit
  have hspelling := decode?_eq_some_iff.2 (spells_escape s)
  have hstart : ReadState.startValue limit ⟨frames, expect⟩ (.string (escape s)) =
      some ⟨frames, .after (.string s)⟩ := by
    simp only [ReadState.startValue, hspelling, Option.map_some]
  rcases hexpect with rfl | rfl
  · simp only [tokens, ReadState.run, ReadState.step, hstart, Option.bind_some]
  · simp only [tokens, ReadState.run, ReadState.step, reduceCtorEq, if_false, hstart,
      Option.bind_some]

theorem run_field (done : List (Text × Json)) (last key : Text) (h : Reads depth value)
    (hlimit : frames.length + 1 + depth ≤ limit)
    (hexpect : expect = .firstKey ∨ expect = .key) :
    ReadState.run limit ⟨.object done last :: frames, expect⟩
        (.string (escape key) :: .colon :: value.tokens) =
      some ⟨.object done key :: frames, .after value⟩ := by
  have hkey : ReadState.step limit ⟨.object done last :: frames, expect⟩ (.string (escape key)) =
      some ⟨.object done key :: frames, .colon⟩ := by
    have hspelling := decode?_eq_some_iff.2 (spells_escape key)
    rcases hexpect with rfl | rfl
    · simp only [ReadState.step, reduceCtorEq, if_false, ReadState.startKey, hspelling]
    · simp only [ReadState.step, ReadState.startKey, hspelling]
  have hcolon : ReadState.step limit ⟨.object done key :: frames, .colon⟩ .colon =
      some ⟨.object done key :: frames, .value⟩ := rfl
  simp only [ReadState.run, hkey, hcolon, Option.bind_some]
  exact h limit _ .value (.inl rfl) hlimit

theorem run_fields (done : List (Text × Json)) (last : Text) (hne : fields ≠ [])
    (h : ∀ field ∈ fields, Reads depth field.2)
    (hlimit : frames.length + 1 + depth ≤ limit) (hexpect : expect = .firstKey ∨ expect = .key) :
    ReadState.run limit ⟨.object done last :: frames, expect⟩
        (List.intercalate [.comma] (fieldTokens fields) ++ [.closeObject]) =
      some ⟨frames, .after (.object (done.reverse ++ fields))⟩ := by
  induction fields generalizing done last expect with
  | nil => exact absurd rfl hne
  | cons field fields ih =>
      obtain ⟨key, value⟩ := field
      obtain ⟨hvalue, hfields⟩ := List.forall_mem_cons.1 h
      have hfield := run_field done last key hvalue hlimit hexpect
      cases fields with
      | nil =>
          rw [fieldTokens, fieldTokens, List.intercalate_singleton, ReadState.run_append, hfield,
            Option.bind_some]
          have hclose : ReadState.step limit ⟨.object done key :: frames, .after value⟩
              .closeObject = some ⟨frames, .after (.object ((key, value) :: done).reverse)⟩ := rfl
          simp only [ReadState.run, hclose, Option.bind_some, List.reverse_cons]
      | cons second fields =>
          have hcomma : ReadState.step limit ⟨.object done key :: frames, .after value⟩ .comma =
              some ⟨.object ((key, value) :: done) key :: frames, .key⟩ := rfl
          have hrest := ih ((key, value) :: done) key (List.cons_ne_nil _ _) hfields (.inr rfl)
          obtain ⟨part, parts, hparts⟩ : ∃ part parts,
              fieldTokens (second :: fields) = part :: parts := ⟨_, _, rfl⟩
          rw [hparts, List.reverse_cons, List.append_assoc] at hrest
          rw [fieldTokens, hparts, List.intercalate_cons_cons, List.append_assoc,
            List.append_assoc, ReadState.run_append, hfield, Option.bind_some,
            List.singleton_append, ReadState.run, hcomma, Option.bind_some]
          exact hrest

theorem object (h : ∀ field ∈ fields, Reads depth field.2) :
    Reads (depth + 1) (.object fields) := by
  intro limit frames expect hexpect hlimit
  have hopen : ReadState.step limit ⟨frames, expect⟩ .openObject =
      some ⟨.object [] [] :: frames, .firstKey⟩ := by
    have hlt : frames.length < limit := by omega
    rcases hexpect with rfl | rfl
    · exact if_pos hlt
    · exact if_pos hlt
  rw [tokens, ReadState.run, hopen, Option.bind_some]
  by_cases hne : fields = []
  · rw [hne]
    rfl
  · exact run_fields [] [] hne h (by omega) (.inl rfl)

end Reads

theorem compactFields_eq_map (fields : List (Text × Json)) :
    compactFields fields = fields.map fun field => quote field.1 ++ ':' :: compact field.2 := by
  induction fields with
  | nil => rfl
  | cons field fields ih => rw [compactFields, ih, List.map_cons]

/-- Either written form of the value is read as its tokens, and those as the value. -/
structure Legible (depth : Nat) (value : Json) : Prop extends Printed value where
  compact : Prints value.compact value.tokens
  reads : Reads depth value

namespace Legible

variable {depth depth' limit : Nat} {fields : List (Text × Json)} {value : Json}

theorem mono (hle : depth ≤ depth') (h : Legible depth value) : Legible depth' value :=
  ⟨h.toPrinted, h.compact, h.reads.mono hle⟩

theorem string (s : Text) : Legible 0 (.string s) where
  toPrinted := printed_string s
  compact := by
    rw [Json.compact, tokens]
    exact .quote s
  reads := .string s

theorem object (h : ∀ field ∈ fields, Legible depth field.2) :
    Legible (depth + 1) (.object fields) where
  toPrinted := printed_object fun field hmem => (h field hmem).toPrinted
  compact := by
    have hfields := Prints.join .comma fun field hmem =>
      (Prints.quote field.1).append (Prints.colon.append (h field hmem).compact)
    rw [Json.compact, tokens, compactFields_eq_map, fieldTokens_eq_map]
    exact Prints.openObject.append (hfields.append .closeObject)
  reads := .object fun field hmem => (h field hmem).reads

theorem ofTokens?_eq (h : Legible depth value) (hlimit : depth ≤ limit) :
    ofTokens? limit value.tokens = some value := by
  have hrun := h.reads limit [] .value (.inl rfl) (by simpa using hlimit)
  rw [ofTokens?, ReadState.initial, hrun, Option.bind_some, ReadState.result?]

theorem read?_compact (h : Legible depth value) (hdepth : depth ≤ nestingLimit) :
    read? value.compact = some value := by
  rw [read?, readWithin?, h.compact.tokens?_eq, Option.bind_some, h.ofTokens?_eq hdepth]

theorem read?_pretty (h : Legible depth value) (hdepth : depth ≤ nestingLimit) (level : Nat) :
    read? (value.pretty level) = some value := by
  rw [read?, readWithin?, (h.prints level).tokens?_eq, Option.bind_some, h.ofTokens?_eq hdepth]

end Legible

end Highlight.Json
