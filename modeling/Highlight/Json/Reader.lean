import Highlight.Json
import Highlight.Json.Token

/-!
Reading JSON values from tokens. The reader keeps a stack of the arrays and objects that are open,
no more of them than a limit, and knows what may come next.
-/

namespace Highlight.Json

/-- An array or object that is still open; items and fields are kept latest first. An object keeps
the latest key. -/
inductive Frame
  | array (items : List Json)
  | object (fields : List (Text × Json)) (key : Text)

/-- What may come next: a value, the first item or the end of an array, the first key or the end of
an object, a further key, a colon, or what follows a finished value. -/
inductive Expect
  | value
  | firstItem
  | firstKey
  | key
  | colon
  | after (value : Json)

structure ReadState where
  frames : List Frame
  expect : Expect

namespace ReadState

def initial : ReadState := ⟨[], .value⟩

def openFrame (limit : Nat) (state : ReadState) (frame : Frame) (expect : Expect) :
    Option ReadState :=
  if state.frames.length < limit then some ⟨frame :: state.frames, expect⟩ else none

def startValue (limit : Nat) (state : ReadState) : Token → Option ReadState
  | .openArray => state.openFrame limit (.array []) .firstItem
  | .openObject => state.openFrame limit (.object [] []) .firstKey
  | .null => some { state with expect := .after .null }
  | .bool b => some { state with expect := .after (.bool b) }
  | .number n => some { state with expect := .after (.number n.spelling) }
  | .string spelling => (decode? spelling).map fun s => { state with expect := .after (.string s) }
  | _ => none

def startKey (state : ReadState) : Token → Option ReadState
  | .string spelling =>
    match state.frames, decode? spelling with
    | .object fields _ :: frames, some key => some ⟨.object fields key :: frames, .colon⟩
    | _, _ => none
  | _ => none

def afterValue (state : ReadState) (value : Json) : Token → Option ReadState
  | .comma =>
    match state.frames with
    | .array items :: frames => some ⟨.array (value :: items) :: frames, .value⟩
    | .object fields key :: frames => some ⟨.object ((key, value) :: fields) key :: frames, .key⟩
    | [] => none
  | .closeArray =>
    match state.frames with
    | .array items :: frames => some ⟨frames, .after (.array (value :: items).reverse)⟩
    | _ => none
  | .closeObject =>
    match state.frames with
    | .object fields key :: frames =>
      some ⟨frames, .after (.object ((key, value) :: fields).reverse)⟩
    | _ => none
  | _ => none

def step (limit : Nat) (state : ReadState) (token : Token) : Option ReadState :=
  match state.expect with
  | .value => state.startValue limit token
  | .firstItem =>
    if token = .closeArray then
      match state.frames with
      | .array _ :: frames => some ⟨frames, .after (.array [])⟩
      | _ => none
    else state.startValue limit token
  | .firstKey =>
    if token = .closeObject then
      match state.frames with
      | .object _ _ :: frames => some ⟨frames, .after (.object [])⟩
      | _ => none
    else state.startKey token
  | .key => state.startKey token
  | .colon => if token = .colon then some { state with expect := .value } else none
  | .after value => state.afterValue value token

def run (limit : Nat) (state : ReadState) : List Token → Option ReadState
  | [] => some state
  | token :: tokens => (state.step limit token).bind fun state => run limit state tokens

def result? (state : ReadState) : Option Json :=
  match state.frames, state.expect with
  | [], .after value => some value
  | _, _ => none

end ReadState

/-- The value that tokens spell, with at most `limit` arrays and objects open at once. -/
def ofTokens? (limit : Nat) (tokens : List Token) : Option Json :=
  (ReadState.initial.run limit tokens).bind ReadState.result?

def readWithin? (limit : Nat) (text : Text) : Option Json := (tokens? text).bind (ofTokens? limit)

def nestingLimit : Nat := 127

def read? (text : Text) : Option Json := readWithin? nestingLimit text

end Highlight.Json
