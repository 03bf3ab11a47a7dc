import Mathlib.Data.List.TakeWhile
import Highlight.Arguments
import Highlight.Proofs.Outcome

/-!
What a command line says: options with their values, flags and languages, one after the other.
`Says` tells how they may be spelled, without any reading; reading takes up just these, in order.
-/

namespace Highlight

inductive Occurrence
  | setting (s : Setting) (value : Text)
  | flag (f : Flag)
  | language (name : Text)
  deriving DecidableEq, Repr

def IsWord (argument : Text) : Prop := ∀ c letters, argument ≠ '-' :: c :: letters

inductive SaysLetters : Text → List Occurrence → Option Setting → Prop
  | done : SaysLetters [] [] none
  | flag {c : Char} {f : Flag} {letters : Text} {said : List Occurrence} {waiting : Option Setting}
      (hc : Switch.ofLetter? c = some (.flag f)) (more : SaysLetters letters said waiting) :
      SaysLetters (c :: letters) (.flag f :: said) waiting
  | waiting {c : Char} {s : Setting} (hc : Switch.ofLetter? c = some (.setting s)) :
      SaysLetters [c] [] (some s)
  | equals {c : Char} {s : Setting} (hc : Switch.ofLetter? c = some (.setting s)) (value : Text) :
      SaysLetters (c :: '=' :: value) [.setting s value] none
  | attached {c d : Char} {s : Setting} (hc : Switch.ofLetter? c = some (.setting s))
      (hd : d ≠ '=') (value : Text) : SaysLetters (c :: d :: value) [.setting s (d :: value)] none

theorem ne_hyphen_of_said {c : Char} {letters : Text} {said : List Occurrence}
    {waiting : Option Setting} (h : SaysLetters (c :: letters) said waiting) : c ≠ '-' := by
  rintro rfl
  cases h <;> contradiction

inductive SaysOne : Text → List Occurrence → Option Setting → Prop
  | word {argument : Text} (h : IsWord argument) : SaysOne argument [.language argument] none
  | flag {name : Text} {f : Flag} (h : Switch.ofName? name = some (.flag f)) :
      SaysOne ('-' :: '-' :: name) [.flag f] none
  | waiting {name : Text} {s : Setting} (h : Switch.ofName? name = some (.setting s)) :
      SaysOne ('-' :: '-' :: name) [] (some s)
  | attached {name : Text} {s : Setting} (h : Switch.ofName? name = some (.setting s))
      (value : Text) : SaysOne ('-' :: '-' :: (name ++ '=' :: value)) [.setting s value] none
  | letters {c : Char} {letters : Text} {said : List Occurrence} {waiting : Option Setting}
      (h : SaysLetters (c :: letters) said waiting) : SaysOne ('-' :: c :: letters) said waiting

/-- What arguments say. A word behind an option without a value is its value; behind two hyphens by
themselves there are only languages. -/
inductive Says : List Text → List Occurrence → Prop
  | done : Says [] []
  | plain (names : List Text) : Says (['-', '-'] :: names) (names.map .language)
  | complete {argument : Text} {rest : List Text} {said later : List Occurrence}
      (h : SaysOne argument said none) (more : Says rest later) :
      Says (argument :: rest) (said ++ later)
  | valued {argument word : Text} {rest : List Text} {said later : List Occurrence} {s : Setting}
      (h : SaysOne argument said (some s)) (hword : IsWord word) (more : Says rest later) :
      Says (argument :: word :: rest) (said ++ .setting s word :: later)

namespace Switch

variable {name : Text} {switch : Switch}

theorem spelling_of_ofName? (h : ofName? name = some switch) : name ≠ [] ∧ '=' ∉ name := by
  obtain ⟨entry, hfind, -⟩ := Option.map_eq_some_iff.1 h
  have hname : entry.1 = name := by simpa using List.find?_some hfind
  subst hname
  exact forall_mem_of_all (p := fun entry : Text × Switch => entry.1 ≠ [] ∧ '=' ∉ entry.1)
    (by decide) entry (List.mem_of_find?_eq_some hfind)

end Switch

namespace Arguments

variable {a : Arguments} {said later : List Occurrence}

def record (a : Arguments) : Occurrence → Except ArgumentFault Arguments
  | .setting s value => a.store s value
  | .flag f => a.raise f
  | .language name => .ok { a with requested := a.requested ++ [name] }

def collect (a : Arguments) (said : List Occurrence) : Except ArgumentFault Arguments :=
  said.foldlM record a

theorem collect_append (a : Arguments) (said later : List Occurrence) :
    a.collect (said ++ later) = a.collect said >>= (·.collect later) :=
  List.foldlM_append

theorem collect_append_cons (a : Arguments) (said : List Occurrence) (o : Occurrence)
    (later : List Occurrence) :
    a.collect (said ++ o :: later) = a.collect (said ++ [o]) >>= (·.collect later) := by
  rw [List.append_cons, collect_append]

theorem collect_singleton {o : Occurrence} : a.collect [o] = a.record o := by
  rw [collect, List.foldlM_cons]
  exact bind_pure _

namespace Progress

variable {p : Progress} {argument name letters value word : Text} {arguments : List Text}
  {s : Setting} {f : Flag} {waiting : Option Setting} {c d : Char}

/-- The option that waits for a value. -/
def waiting? (p : Progress) : Option Setting :=
  match p.pending with
  | some (s, none) => some s
  | _ => none

def unstored (p : Progress) : List Occurrence :=
  match p.pending with
  | some (s, some value) => [.setting s value]
  | _ => []

/-- Everything is checked, apart from an option that waits for a value. -/
def reach (p : Progress) (waiting : Option Setting) (found : Arguments) : Progress :=
  { p with found := found, pending := waiting.map (·, none) }

theorem settle_eq (h : p.waiting? = none) :
    p.settle = (p.found.collect p.unstored).map (p.reach none) := by
  obtain ⟨found, pending, plainOnly⟩ := p
  obtain _ | ⟨s, _ | value⟩ := pending
  · rfl
  · cases h
  · have hrecord := collect_singleton (a := found) (o := .setting s value)
    exact congrArg (Except.map _) hrecord.symm

theorem settle_record (h : p.waiting? = none) (o : Occurrence) :
    (do
      let q ← p.settle
      return { q with found := ← q.found.record o } : Except ArgumentFault Progress) =
      (p.found.collect (p.unstored ++ [o])).map (p.reach none) := by
  rw [settle_eq h, collect_append p.found]
  cases p.found.collect p.unstored with
  | error fault => rfl
  | ok found =>
      change found.record o >>= (fun next => pure (p.reach none next)) =
        (found.collect [o]).map (p.reach none)
      rw [collect_singleton]
      cases found.record o <;> rfl

theorem takeFlag_eq (h : p.waiting? = none) (f : Flag) :
    p.takeFlag f = (p.found.collect (p.unstored ++ [.flag f])).map (p.reach none) :=
  settle_record h (.flag f)

theorem takeSetting_some (h : p.waiting? = none) (s : Setting) (value : Text) :
    p.takeSetting s (some value) =
      (p.found.collect (p.unstored ++ [.setting s value])).map (p.reach none) :=
  settle_record h (.setting s value)

theorem takePlain_eq (h : p.waiting? = none) (argument : Text) :
    p.takePlain argument =
      (p.found.collect (p.unstored ++ [.language argument])).map (p.reach none) :=
  settle_record h (.language argument)

theorem takeSetting_none (h : p.waiting? = none) (s : Setting) :
    p.takeSetting s none = (p.found.collect p.unstored).map (p.reach (some s)) := by
  rw [takeSetting, settle_eq h]
  cases p.found.collect p.unstored <;> rfl

theorem takeLetters_flag (hc : Switch.ofLetter? c = some (.flag f)) :
    p.takeLetters (c :: letters) = p.takeFlag f >>= (·.takeLetters letters) := by
  rw [takeLetters, hc]

theorem takeLetters_last (hc : Switch.ofLetter? c = some (.setting s)) :
    p.takeLetters [c] = p.takeSetting s none := by
  simp only [takeLetters, hc]

theorem takeLetters_equals (hc : Switch.ofLetter? c = some (.setting s)) :
    p.takeLetters (c :: '=' :: value) = p.takeSetting s (some value) := by
  simp only [takeLetters, hc]

theorem takeLetters_attached (hc : Switch.ofLetter? c = some (.setting s)) (hd : d ≠ '=') :
    p.takeLetters (c :: d :: value) = p.takeSetting s (some (d :: value)) := by
  simp only [takeLetters, hc]
  split
  · next heq => cases heq
  · next heq => exact absurd (List.cons.inj heq).1 hd
  · rfl

theorem takeLetters_of_said (h : SaysLetters letters said waiting) (hp : p.waiting? = none)
    (hdone : letters = [] → p.pending = none) :
    p.takeLetters letters = (p.found.collect (p.unstored ++ said)).map (p.reach waiting) := by
  induction h generalizing p with
  | done =>
      obtain ⟨found, pending, plainOnly⟩ := p
      cases hdone rfl
      rfl
  | flag hc more ih =>
      rename_i f _ said _
      rw [takeLetters_flag hc, takeFlag_eq hp, collect_append_cons _ _ _ said]
      -- What was pending is checked by now, so the letters may end here.
      cases p.found.collect (p.unstored ++ [.flag f]) with
      | error fault => rfl
      | ok found => exact ih (p := p.reach none found) rfl fun _ => rfl
  | waiting hc => rw [takeLetters_last hc, takeSetting_none hp, List.append_nil]
  | equals hc value => rw [takeLetters_equals hc, takeSetting_some hp]
  | attached hc hd value => rw [takeLetters_attached hc hd, takeSetting_some hp]

theorem take_plain (hplain : p.plainOnly = true) : p.take argument = p.takePlain argument :=
  if_pos hplain

theorem take_word (hplain : p.plainOnly = false) (h : IsWord argument) :
    p.take argument = p.takeWord argument := by
  rw [take, if_neg (by simp [hplain])]
  · exact h '-' []
  · exact h '-'
  · exact h

theorem take_letters (hplain : p.plainOnly = false) (hc : c ≠ '-') :
    p.take ('-' :: c :: letters) = p.takeLetters (c :: letters) := by
  rw [take, if_neg (by simp [hplain])]
  · exact fun heq => absurd heq hc
  · exact fun heq => absurd heq hc

theorem take_long (hplain : p.plainOnly = false) (hname : name ≠ []) :
    p.take ('-' :: '-' :: name) = p.takeLong (name.takeWhile (· ≠ '='))
      (if '=' ∈ name then some (name.dropWhile (· ≠ '=')).tail else none) := by
  rw [take, if_neg (by simp [hplain])]
  exact hname

theorem take_attached (hplain : p.plainOnly = false) (hname : '=' ∉ name) (value : Text) :
    p.take ('-' :: '-' :: (name ++ '=' :: value)) = p.takeLong name (some value) := by
  have hpart : ∀ c ∈ name, decide (c ≠ '=') = true := fun c hc =>
    decide_eq_true fun heq => hname (heq ▸ hc)
  rw [take_long hplain (by simp), if_pos (by simp), List.takeWhile_append_of_pos hpart,
    List.dropWhile_append_of_pos hpart]
  simp

theorem take_unattached (hplain : p.plainOnly = false) (hne : name ≠ []) (hname : '=' ∉ name) :
    p.take ('-' :: '-' :: name) = p.takeLong name none := by
  have hpart : ∀ c ∈ name, decide (c ≠ '=') = true := fun c hc =>
    decide_eq_true fun heq => hname (heq ▸ hc)
  rw [take_long hplain hne, if_neg hname, List.takeWhile_eq_self_iff.2 hpart]

theorem take_flag (hplain : p.plainOnly = false) (h : Switch.ofName? name = some (.flag f)) :
    p.take ('-' :: '-' :: name) = p.takeFlag f := by
  obtain ⟨hne, hname⟩ := Switch.spelling_of_ofName? h
  rw [take_unattached hplain hne hname, takeLong, h]
  rfl

theorem take_setting (hplain : p.plainOnly = false) (h : Switch.ofName? name = some (.setting s)) :
    p.take ('-' :: '-' :: name) = p.takeSetting s none := by
  obtain ⟨hne, hname⟩ := Switch.spelling_of_ofName? h
  rw [take_unattached hplain hne hname, takeLong, h]

theorem take_setting_attached (hplain : p.plainOnly = false)
    (h : Switch.ofName? name = some (.setting s)) (value : Text) :
    p.take ('-' :: '-' :: (name ++ '=' :: value)) = p.takeSetting s (some value) := by
  rw [take_attached hplain (Switch.spelling_of_ofName? h).2, takeLong, h]

theorem takeWord_eq (h : p.waiting? = none) : p.takeWord argument = p.takePlain argument := by
  obtain ⟨found, pending, plainOnly⟩ := p
  obtain _ | ⟨s, _ | value⟩ := pending
  · rfl
  · cases h
  · rfl

theorem takeWord_waiting (hp : p.waiting? = some s) :
    p.takeWord argument = .ok { p with pending := some (s, some argument) } := by
  obtain ⟨found, pending, plainOnly⟩ := p
  obtain _ | ⟨s, _ | value⟩ := pending
  · cases hp
  · cases hp
    rfl
  · cases hp

theorem take_of_said (h : SaysOne argument said waiting) (hp : p.waiting? = none)
    (hplain : p.plainOnly = false) :
    p.take argument = (p.found.collect (p.unstored ++ said)).map (p.reach waiting) := by
  cases h with
  | word h => rw [take_word hplain h, takeWord_eq hp, takePlain_eq hp]
  | flag h => rw [take_flag hplain h, takeFlag_eq hp]
  | waiting h => rw [take_setting hplain h, takeSetting_none hp, List.append_nil]
  | attached h value => rw [take_setting_attached hplain h, takeSetting_some hp]
  | letters h =>
      rw [take_letters hplain (ne_hyphen_of_said h)]
      exact takeLetters_of_said h hp fun heq => by cases heq

/-- Takes up arguments, and checks what is left over. -/
def run (p : Progress) (arguments : List Text) : Except ArgumentFault Arguments :=
  (arguments.foldlM take p >>= settle).map Progress.found

theorem run_cons : p.run (argument :: arguments) = p.take argument >>= (·.run arguments) := by
  rw [run, List.foldlM_cons]
  cases p.take argument <;> rfl

theorem run_nil (h : p.waiting? = none) : p.run [] = p.found.collect p.unstored := by
  change p.settle.map Progress.found = _
  rw [settle_eq h]
  cases p.found.collect p.unstored <;> rfl

theorem run_cons_of_reach (htake : p.take argument = (p.found.collect said).map (p.reach none))
    (hrest : ∀ found, ((p.reach none found).run arguments) = found.collect later) :
    p.run (argument :: arguments) = p.found.collect (said ++ later) := by
  rw [run_cons, htake, collect_append]
  cases p.found.collect said with
  | error fault => rfl
  | ok found => exact hrest found

theorem run_plain (hplain : p.plainOnly = true) (hp : p.waiting? = none) (names : List Text) :
    p.run names = p.found.collect (p.unstored ++ names.map .language) := by
  induction names generalizing p with
  | nil => rw [run_nil hp, List.map_nil, List.append_nil]
  | cons name names ih =>
      have htake : p.take name =
          (p.found.collect (p.unstored ++ [.language name])).map (p.reach none) := by
        rw [take_plain hplain, takePlain_eq hp]
      rw [List.map_cons, List.append_cons]
      exact run_cons_of_reach htake fun found => ih (p := p.reach none found) hplain rfl

/-- Reading takes up what a command line says, in order. -/
theorem run_of_said (h : Says arguments said) (hp : p.waiting? = none)
    (hplain : p.plainOnly = false) :
    p.run arguments = p.found.collect (p.unstored ++ said) := by
  induction h generalizing p with
  | done => rw [run_nil hp, List.append_nil]
  | plain names =>
      have htake : p.take ['-', '-'] = .ok { p with plainOnly := true } := by
        rw [take, if_neg (by simp [hplain])]
      rw [run_cons, htake]
      exact run_plain (p := { p with plainOnly := true }) rfl hp names
  | complete h more ih =>
      rw [← List.append_assoc]
      exact run_cons_of_reach (take_of_said h hp hplain) fun found =>
        ih (p := p.reach none found) rfl hplain
  | valued h hword more ih =>
      rename_i argument word rest said later s
      rw [run_cons, take_of_said h hp hplain, ← List.append_assoc,
        collect_append _ (p.unstored ++ said)]
      cases p.found.collect (p.unstored ++ said) with
      | error fault => rfl
      | ok found =>
          change (p.reach (some s) found).run (word :: rest) = _
          rw [run_cons, take_word (p := p.reach (some s) found) hplain hword, takeWord_waiting rfl]
          exact ih (p := { p.reach none found with pending := some (s, some word) }) rfl hplain

theorem says_of_takeLetters {p' : Progress} (h : p.takeLetters letters = .ok p') :
    ∃ said waiting, SaysLetters letters said waiting := by
  induction letters generalizing p with
  | nil => exact ⟨[], none, .done⟩
  | cons c letters ih =>
      rw [takeLetters] at h
      split at h
      · cases h
      · next f hc =>
          obtain ⟨next, -, hnext⟩ := bind_eq_ok_iff.1 h
          obtain ⟨said, waiting, hsaid⟩ := ih hnext
          exact ⟨_, _, .flag hc hsaid⟩
      · next s hc =>
          obtain _ | ⟨d, value⟩ := letters
          · exact ⟨_, _, .waiting hc⟩
          · by_cases hd : d = '='
            · exact hd ▸ ⟨_, _, .equals hc value⟩
            · exact ⟨_, _, .attached hc hd value⟩

theorem says_of_take {p' : Progress} (h : p.take argument = .ok p') (hplain : p.plainOnly = false)
    (hne : argument ≠ ['-', '-']) : ∃ said waiting, SaysOne argument said waiting := by
  by_cases hword : IsWord argument
  · exact ⟨_, _, .word hword⟩
  obtain ⟨c, letters, rfl⟩ : ∃ c letters, argument = '-' :: c :: letters := by
    simpa [IsWord] using hword
  by_cases hc : c = '-'
  · subst hc
    by_cases hequals : '=' ∈ letters
    · obtain ⟨name, value, rfl, hname⟩ := List.eq_append_cons_of_mem hequals
      rw [take_attached hplain hname, takeLong] at h
      split at h
      · cases h
      · next hsetting => exact ⟨_, _, .attached hsetting value⟩
      · cases h
    · rw [take_unattached hplain (fun heq => hne (by rw [heq])) hequals, takeLong] at h
      split at h
      · cases h
      · next hsetting => exact ⟨_, _, .waiting hsetting⟩
      · next hflag => exact ⟨_, _, .flag hflag⟩
  · rw [take_letters hplain hc] at h
    obtain ⟨said, waiting, hsaid⟩ := says_of_takeLetters h
    exact ⟨said, waiting, .letters hsaid⟩

theorem settle_waiting (hp : p.waiting? = some s) : p.settle = .error .invalidValue := by
  obtain ⟨found, pending, plainOnly⟩ := p
  obtain _ | ⟨s, _ | value⟩ := pending
  · cases hp
  · rfl
  · cases hp

theorem takeFlag_waiting (hp : p.waiting? = some s) (f : Flag) :
    p.takeFlag f = .error .invalidValue := by
  rw [takeFlag, settle_waiting hp]
  rfl

theorem takeSetting_waiting (hp : p.waiting? = some s) (next : Setting) (attached : Option Text) :
    p.takeSetting next attached = .error .invalidValue := by
  cases attached <;> (rw [takeSetting, settle_waiting hp]; rfl)

theorem takeLetters_waiting (hp : p.waiting? = some s)
    (h : SaysLetters (c :: letters) said waiting) :
    p.takeLetters (c :: letters) = .error .invalidValue := by
  cases h with
  | flag hc more =>
      rw [takeLetters_flag hc, takeFlag_waiting hp]
      rfl
  | waiting hc => rw [takeLetters_last hc, takeSetting_waiting hp]
  | equals hc value => rw [takeLetters_equals hc, takeSetting_waiting hp]
  | attached hc hd value => rw [takeLetters_attached hc hd, takeSetting_waiting hp]

theorem isWord_of_take {p' : Progress} (h : p.take argument = .ok p') (hp : p.waiting? = some s)
    (hplain : p.plainOnly = false) (hne : argument ≠ ['-', '-']) : IsWord argument := by
  obtain ⟨said, waiting, hsaid⟩ := says_of_take h hplain hne
  cases hsaid with
  | word hword => exact hword
  | flag hname =>
      rw [take_flag hplain hname, takeFlag_waiting hp] at h
      cases h
  | waiting hname =>
      rw [take_setting hplain hname, takeSetting_waiting hp] at h
      cases h
  | attached hname value =>
      rw [take_setting_attached hplain hname, takeSetting_waiting hp] at h
      cases h
  | letters hletters =>
      rw [take_letters hplain (ne_hyphen_of_said hletters), takeLetters_waiting hp hletters] at h
      cases h

theorem run_waiting_plain (hplain : p.plainOnly = true) (hp : p.waiting? = some s)
    (names : List Text) : p.run names = .error .invalidValue := by
  cases names with
  | nil =>
      change p.settle.map Progress.found = _
      rw [settle_waiting hp]
      rfl
  | cons name names =>
      rw [run_cons, take_plain hplain, takePlain, settle_waiting hp]
      rfl

/-- A line that is read to its end says something; a waiting option has its value in front of that.
-/
theorem says_of_run (h : p.run arguments = .ok a) (hplain : p.plainOnly = false) :
    (p.waiting? = none → ∃ said, Says arguments said) ∧
      ∀ s, p.waiting? = some s →
        ∃ word rest said, arguments = word :: rest ∧ IsWord word ∧ Says rest said := by
  induction arguments generalizing p with
  | nil =>
      refine ⟨fun _ => ⟨[], .done⟩, fun s hp => ?_⟩
      change p.settle.map Progress.found = _ at h
      rw [settle_waiting hp] at h
      cases h
  | cons argument arguments ih =>
      rw [run_cons] at h
      obtain ⟨next, htake, hrest⟩ := bind_eq_ok_iff.1 h
      by_cases hne : argument = ['-', '-']
      · subst hne
        refine ⟨fun _ => ⟨_, .plain arguments⟩, fun s hp => ?_⟩
        rw [take, if_neg (by simp [hplain])] at htake
        cases htake
        have hstuck := run_waiting_plain (p := { p with plainOnly := true }) rfl hp arguments
        cases hstuck.symm.trans hrest
      constructor
      · intro hp
        obtain ⟨said, waiting, hsaid⟩ := says_of_take htake hplain hne
        rw [take_of_said hsaid hp hplain] at htake
        obtain ⟨found, -, rfl⟩ := map_eq_ok_iff.1 htake
        obtain ⟨hready, hwaiting⟩ := ih hrest hplain
        cases waiting with
        | none =>
            obtain ⟨later, hlater⟩ := hready rfl
            exact ⟨_, .complete hsaid hlater⟩
        | some s =>
            obtain ⟨word, rest, later, rfl, hword, hlater⟩ := hwaiting s rfl
            exact ⟨_, .valued hsaid hword hlater⟩
      · intro s hp
        have hword := isWord_of_take htake hp hplain hne
        rw [take_word hplain hword, takeWord_waiting hp] at htake
        cases htake
        obtain ⟨said, hsaid⟩ := (ih hrest hplain).1 rfl
        exact ⟨argument, arguments, said, rfl, hword, hsaid⟩

end Progress

variable {arguments : List Text}

theorem read_of_said (h : Says arguments said) : read arguments =
    collect {} said >>= fun a =>
      if a.quiet && a.verbosity ≠ 0 then .error .conflict else .ok a := by
  have hrun := Progress.run_of_said (p := {}) h rfl rfl
  rw [show collect {} said = Progress.run {} arguments from hrun.symm, Progress.run, read]
  cases arguments.foldlM Progress.take {} with
  | error fault => rfl
  | ok p =>
      change p.settle >>= _ = p.settle.map Progress.found >>= _
      cases p.settle <;> rfl

theorem says_of_read (h : read arguments = .ok a) : ∃ said, Says arguments said := by
  have hrun : ∃ found, Progress.run {} arguments = .ok found := by
    obtain ⟨p, hfold, h⟩ := bind_eq_ok_iff.1 h
    obtain ⟨settled, hsettle, -⟩ := bind_eq_ok_iff.1 h
    refine ⟨settled.found, ?_⟩
    rw [Progress.run, hfold]
    exact congrArg (Except.map _) hsettle
  obtain ⟨found, hfound⟩ := hrun
  exact (Progress.says_of_run hfound rfl).1 rfl

end Arguments

end Highlight
