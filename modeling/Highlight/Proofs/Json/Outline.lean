import Highlight.Json.Reader
import Highlight.Proofs.Json.Lexer

/-!
The outline of a document: which arrays and objects are open around a place in it, and what is due
there. The reader of values moves through outlines as through its own states, so whether tokens make
up a document does not depend on how its strings and numbers are spelled.
-/

namespace Highlight.Json

inductive Bracket
  | array
  | object
  deriving DecidableEq

/-- What may come next, without the value that came before. -/
inductive Due
  | value
  | firstItem
  | firstKey
  | key
  | colon
  | after
  deriving DecidableEq

structure Outline where
  around : List Bracket
  due : Due
  deriving DecidableEq

def Frame.bracket : Frame → Bracket
  | array _ => .array
  | object _ _ => .object

def Expect.due : Expect → Due
  | value => .value
  | firstItem => .firstItem
  | firstKey => .firstKey
  | key => .key
  | colon => .colon
  | after _ => .after

def ReadState.outline (state : ReadState) : Outline :=
  ⟨state.frames.map Frame.bracket, state.expect.due⟩

namespace Outline

def initial : Outline := ⟨[], .value⟩

def close (outline : Outline) (bracket : Bracket) : Option Outline :=
  match outline.around with
  | [] => none
  | inner :: around => if inner = bracket then some ⟨around, .after⟩ else none

def startValue (outline : Outline) : Token → Option Outline
  | .openArray => some ⟨.array :: outline.around, .firstItem⟩
  | .openObject => some ⟨.object :: outline.around, .firstKey⟩
  | .null | .bool _ | .number _ | .string _ => some ⟨outline.around, .after⟩
  | _ => none

def startKey (outline : Outline) : Token → Option Outline
  | .string _ => if outline.around.head? = some .object then some ⟨outline.around, .colon⟩ else none
  | _ => none

def afterValue (outline : Outline) : Token → Option Outline
  | .comma =>
    match outline.around with
    | [] => none
    | .array :: _ => some ⟨outline.around, .value⟩
    | .object :: _ => some ⟨outline.around, .key⟩
  | .closeArray => outline.close .array
  | .closeObject => outline.close .object
  | _ => none

def step (outline : Outline) (token : Token) : Option Outline :=
  match outline.due with
  | .value => outline.startValue token
  | .firstItem =>
    if token = .closeArray then outline.close .array else outline.startValue token
  | .firstKey =>
    if token = .closeObject then outline.close .object else outline.startKey token
  | .key => outline.startKey token
  | .colon => if token = .colon then some ⟨outline.around, .value⟩ else none
  | .after => outline.afterValue token

def run (outline : Outline) : List Token → Option Outline
  | [] => some outline
  | token :: tokens => (outline.step token).bind fun outline => run outline tokens

variable {outline : Outline} {tokens more : List Token}

theorem run_append (outline : Outline) (tokens more : List Token) :
    outline.run (tokens ++ more) = (outline.run tokens).bind fun outline => outline.run more := by
  induction tokens generalizing outline with
  | nil => rfl
  | cons token tokens ih =>
      simp only [List.cons_append, run]
      cases outline.step token with
      | none => rfl
      | some next => exact ih next

theorem step_string (outline : Outline) (s t : Text) :
    outline.step (.string s) = outline.step (.string t) := by
  obtain ⟨around, due⟩ := outline
  cases due <;> rfl

theorem length_around_close {outline' : Outline} {bracket : Bracket}
    (h : outline.close bracket = some outline') :
    outline'.around.length ≤ outline.around.length := by
  obtain ⟨around, due⟩ := outline
  cases around with
  | nil => cases h
  | cons inner around =>
      simp only [close] at h
      split at h
      · cases h
        exact Nat.le_succ _
      · cases h

theorem length_around_step {outline' : Outline} {token : Token}
    (h : outline.step token = some outline') :
    outline'.around.length ≤ outline.around.length + 1 := by
  have hvalue (h : outline.startValue token = some outline') :
      outline'.around.length ≤ outline.around.length + 1 := by
    cases token <;> cases h
    all_goals simp only [List.length_cons, Nat.le_refl, Nat.le_add_right]
  have hkey (h : outline.startKey token = some outline') :
      outline'.around.length ≤ outline.around.length + 1 := by
    cases token with
    | string s =>
        simp only [startKey] at h
        split at h
        · cases h
          exact Nat.le_succ _
        · cases h
    | _ => cases h
  have hclose {bracket : Bracket} (h : outline.close bracket = some outline') :
      outline'.around.length ≤ outline.around.length + 1 :=
    Nat.le_succ_of_le (length_around_close h)
  simp only [step] at h
  split at h
  · exact hvalue h
  · split at h
    · exact hclose h
    · exact hvalue h
  · split at h
    · exact hclose h
    · exact hkey h
  · exact hkey h
  · split at h
    · cases h
      exact Nat.le_succ _
    · cases h
  · cases token with
    | comma =>
        simp only [afterValue] at h
        split at h
        · cases h
        all_goals
          cases h
          exact Nat.le_succ _
    | closeArray | closeObject => exact hclose h
    | _ => cases h

end Outline

namespace ReadState

variable {limit limit' : Nat} {state state' : ReadState} {token : Token} {tokens : List Token}

theorem outline_startValue (hwell : token.WellFormed) (hlimit : state.frames.length < limit) :
    (state.startValue limit token).map outline = state.outline.startValue token := by
  cases token with
  | openArray | openObject =>
      simp only [startValue, openFrame, if_pos hlimit]
      rfl
  | string spelling =>
      obtain ⟨s, hs⟩ := hwell
      simp only [startValue, decode?_eq_some_iff.2 hs]
      rfl
  | _ => rfl

theorem outline_startKey (hwell : token.WellFormed) :
    (state.startKey token).map outline = state.outline.startKey token := by
  obtain ⟨frames, expect⟩ := state
  cases token with
  | string spelling =>
      obtain ⟨s, hs⟩ := hwell
      simp only [startKey, decode?_eq_some_iff.2 hs]
      cases frames with
      | nil => rfl
      | cons frame frames => cases frame <;> rfl
  | _ => rfl

theorem outline_afterValue (value : Json) :
    (state.afterValue value token).map outline = state.outline.afterValue token := by
  obtain ⟨frames, expect⟩ := state
  cases token with
  | comma | closeArray | closeObject =>
      cases frames with
      | nil => rfl
      | cons frame frames => cases frame <;> rfl
  | _ => rfl

/-- Within the limit a reader moves through its outlines. -/
theorem outline_step (hwell : token.WellFormed) (hlimit : state.frames.length < limit) :
    (state.step limit token).map outline = state.outline.step token := by
  obtain ⟨frames, expect⟩ := state
  cases expect with
  | value => exact outline_startValue hwell hlimit
  | firstItem =>
      by_cases hclose : token = .closeArray
      · subst hclose
        cases frames with
        | nil => rfl
        | cons frame frames => cases frame <;> rfl
      · simp only [step, ReadState.outline, Expect.due, Outline.step, if_neg hclose]
        exact outline_startValue hwell hlimit
  | firstKey =>
      by_cases hclose : token = .closeObject
      · subst hclose
        cases frames with
        | nil => rfl
        | cons frame frames => cases frame <;> rfl
      · simp only [step, ReadState.outline, Expect.due, Outline.step, if_neg hclose]
        exact outline_startKey hwell
  | key => exact outline_startKey hwell
  | colon =>
      by_cases hcolon : token = .colon
      · subst hcolon
        rfl
      · simp only [step, ReadState.outline, Expect.due, Outline.step, if_neg hcolon]
        rfl
  | after value => exact outline_afterValue value

theorem step_mono (hle : limit ≤ limit') (h : state.step limit token = some state') :
    state.step limit' token = some state' := by
  have hopen {frame : Frame} {expect : Expect}
      (h : state.openFrame limit frame expect = some state') :
      state.openFrame limit' frame expect = some state' := by
    simp only [openFrame] at h ⊢
    split at h
    · next hlt => rwa [if_pos (Nat.lt_of_lt_of_le hlt hle)]
    · cases h
  have hvalue (h : state.startValue limit token = some state') :
      state.startValue limit' token = some state' := by
    cases token with
    | openArray | openObject => exact hopen h
    | _ => exact h
  simp only [step] at h ⊢
  split at h
  · exact hvalue h
  · split at h
    · next hclose => rwa [if_pos hclose]
    · next hclose =>
        rw [if_neg hclose]
        exact hvalue h
  all_goals exact h

theorem run_mono (hle : limit ≤ limit') (h : state.run limit tokens = some state') :
    state.run limit' tokens = some state' := by
  induction tokens generalizing state with
  | nil => exact h
  | cons token tokens ih =>
      obtain ⟨next, hstep, hrun⟩ := Option.bind_eq_some_iff.1 h
      exact Option.bind_eq_some_iff.2 ⟨next, step_mono hle hstep, ih hrun⟩

theorem outline_run (hwell : ∀ token ∈ tokens, token.WellFormed)
    (hlimit : state.frames.length + tokens.length ≤ limit) :
    (state.run limit tokens).map outline = state.outline.run tokens := by
  induction tokens generalizing state with
  | nil => rfl
  | cons token tokens ih =>
      have htoken := hwell token List.mem_cons_self
      have htokens {other : Token} (hmem : other ∈ tokens) := hwell other (List.mem_cons_of_mem _ hmem)
      rw [List.length_cons] at hlimit
      have hstep := outline_step htoken (show state.frames.length < limit by omega)
      rw [Outline.run, run, ← hstep]
      cases hnext : state.step limit token with
      | none => rfl
      | some next =>
          rw [hnext] at hstep
          have hlength := Outline.length_around_step hstep.symm
          simp only [ReadState.outline, List.length_map] at hlength
          exact ih (fun _ => htokens) (by omega)

theorem outline_run_initial (hwell : ∀ token ∈ tokens, token.WellFormed)
    (hlimit : tokens.length ≤ limit) :
    (initial.run limit tokens).map outline = Outline.initial.run tokens :=
  outline_run hwell (Nat.le_trans (Nat.le_of_eq (Nat.zero_add _)) hlimit)

theorem outline_of_run (hwell : ∀ token ∈ tokens, token.WellFormed)
    (h : initial.run limit tokens = some state) :
    Outline.initial.run tokens = some state.outline := by
  have hrun := run_mono (Nat.le_max_left limit tokens.length) h
  have houtline := outline_run_initial hwell (Nat.le_max_right limit tokens.length)
  rw [← houtline, hrun]
  rfl

theorem isSome_result?_iff : state.result?.isSome ↔ state.outline = ⟨[], .after⟩ := by
  obtain ⟨frames, expect⟩ := state
  cases frames with
  | nil => cases expect <;> simp [result?, ReadState.outline, Expect.due]
  | cons frame frames => simp [result?, ReadState.outline]

end ReadState

variable {tokens : List Token}

/-- Well-formed tokens make up a document, however deep, if nothing is open or due in the end. -/
theorem isSome_ofTokens?_iff (hwell : ∀ token ∈ tokens, token.WellFormed) :
    (∃ limit, (ofTokens? limit tokens).isSome) ↔
      Outline.initial.run tokens = some ⟨[], .after⟩ := by
  constructor
  · intro hall
    obtain ⟨limit, h⟩ := hall
    obtain ⟨value, hvalue⟩ := Option.isSome_iff_exists.1 h
    obtain ⟨state, hrun, hresult⟩ := Option.bind_eq_some_iff.1 hvalue
    have hclosed := ReadState.isSome_result?_iff.1 (Option.isSome_of_mem hresult)
    rw [ReadState.outline_of_run hwell hrun, hclosed]
  · intro h
    rw [← ReadState.outline_run_initial hwell (Nat.le_refl _)] at h
    obtain ⟨state, hrun, hclosed⟩ := Option.map_eq_some_iff.1 h
    refine ⟨tokens.length, ?_⟩
    rw [ofTokens?, hrun]
    exact ReadState.isSome_result?_iff.2 hclosed

/-- Behind the tokens an array is open, and nothing else inside of it. -/
def InArray (tokens : List Token) : Prop :=
  ∃ limit items frames expect,
    ReadState.initial.run limit tokens = some ⟨.array items :: frames, expect⟩

theorem InArray.outline (hwell : ∀ token ∈ tokens, token.WellFormed) (h : InArray tokens) :
    ∃ around due, Outline.initial.run tokens = some ⟨.array :: around, due⟩ := by
  obtain ⟨limit, items, frames, expect, hrun⟩ := h
  exact ⟨_, _, ReadState.outline_of_run hwell hrun⟩

end Highlight.Json
