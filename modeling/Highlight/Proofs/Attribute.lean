import Highlight.Attribute
import Highlight.Proofs.History

/-!
Tables of attributes after any calls, those that fail included. A table is the record of the calls
that succeeded, in their order and without a name twice; `add_eq_ok_iff` and `add_eq_error_iff` say
which calls these are, and what is wrong with the others.
-/

namespace Highlight

namespace Words

variable {w : Words} {joint c : Char} {text first : Text} {words : List Text}

def Spent (w : Words) (text : Text) : Prop := (w.split text).2 = []

theorem spent_cons_iff : w.Spent (c :: text) ↔
    (w.isLetter c = true ∨ w.isJoint c = true ∧ text.head?.any w.isLetter = true) ∧
      w.Spent text := by
  simp only [Spent, split, Bool.or_eq_true, Bool.and_eq_true]
  split
  · next h => exact (and_iff_right h).symm
  · next h => exact iff_of_false nofun fun hall => h hall.1

def AreLetters (w : Words) (words : List Text) : Prop :=
  ∀ word ∈ words, word ≠ [] ∧ ∀ c ∈ word, w.isLetter c = true

theorem spent_join (hjoint : w.isJoint joint = true) (hfirst : ∀ c ∈ first, w.isLetter c = true)
    (hwords : w.AreLetters words) : w.Spent (Text.join [joint] (first :: words)) := by
  induction words generalizing first with
  | nil =>
      rw [Text.join, List.intercalate_singleton]
      induction first with
      | nil => rfl
      | cons c first ih =>
          obtain ⟨hc, hfirst⟩ := List.forall_mem_cons.1 hfirst
          exact spent_cons_iff.2 ⟨.inl hc, ih hfirst⟩
  | cons word words ih =>
      obtain ⟨⟨hne, hword⟩, hwords⟩ := List.forall_mem_cons.1 hwords
      have hrest : w.Spent (Text.join [joint] (word :: words)) := ih hword hwords
      rw [Text.join, List.intercalate_cons_cons, ← Text.join]
      induction first with
      | nil =>
          obtain ⟨c, word, rfl⟩ := List.exists_cons_of_ne_nil hne
          refine spent_cons_iff.2 ⟨.inr ⟨hjoint, ?_⟩, hrest⟩
          have hhead : (Text.join [joint] ((c :: word) :: words)).head? = some c := by
            cases words <;> rfl
          exact hhead ▸ hword c List.mem_cons_self
      | cons c first ih =>
          obtain ⟨hc, hfirst⟩ := List.forall_mem_cons.1 hfirst
          exact spent_cons_iff.2 ⟨.inl hc, ih hfirst⟩

theorem exists_join_of_spent (hjoint : ∀ c, w.isJoint c = true → c = joint)
    (hletter : w.isLetter joint = false) (h : w.Spent text) :
    ∃ first words, (∀ c ∈ first, w.isLetter c = true) ∧ w.AreLetters words ∧
      text = Text.join [joint] (first :: words) := by
  induction text with
  | nil => exact ⟨[], [], nofun, nofun, rfl⟩
  | cons c text ih =>
      obtain ⟨hc, hrest⟩ := spent_cons_iff.1 h
      obtain ⟨first, words, hfirst, hwords, rfl⟩ := ih hrest
      rcases hc with hc | ⟨hc, hhead⟩
      · refine ⟨c :: first, words, List.forall_mem_cons.2 ⟨hc, hfirst⟩, hwords, ?_⟩
        cases words <;> rfl
      · obtain rfl := hjoint c hc
        have hne : first ≠ [] := by
          rintro rfl
          cases words with
          | nil => cases hhead
          | cons word words => exact Bool.false_ne_true (hletter.symm.trans hhead)
        exact ⟨[], first :: words, nofun, List.forall_mem_cons.2 ⟨⟨hne, hfirst⟩, hwords⟩, rfl⟩

theorem spells_iff (hjoint : ∀ c, w.isJoint c = true ↔ c = joint)
    (hletter : w.isLetter joint = false) : w.spells text = true ↔
      ∃ words, words ≠ [] ∧ w.AreLetters words ∧ text = Text.join [joint] words := by
  rw [spells, Bool.and_eq_true, List.isEmpty_iff, ← Spent]
  constructor
  · rintro ⟨hhead, hspent⟩
    obtain ⟨first, words, hfirst, hwords, rfl⟩ :=
      exists_join_of_spent (fun c => (hjoint c).1) hletter hspent
    have hne : first ≠ [] := by
      rintro rfl
      cases words with
      | nil => cases hhead
      | cons word words => exact Bool.false_ne_true (hletter.symm.trans hhead)
    exact ⟨_, List.cons_ne_nil _ _, List.forall_mem_cons.2 ⟨⟨hne, hfirst⟩, hwords⟩, rfl⟩
  · rintro ⟨words, hne, hwords, rfl⟩
    obtain ⟨first, words, rfl⟩ := List.exists_cons_of_ne_nil hne
    obtain ⟨⟨hne, hfirst⟩, hwords⟩ := List.forall_mem_cons.1 hwords
    refine ⟨?_, spent_join ((hjoint joint).2 rfl) hfirst hwords⟩
    obtain ⟨c, first, rfl⟩ := List.exists_cons_of_ne_nil hne
    have hhead : (Text.join [joint] ((c :: first) :: words)).head? = some c := by
      cases words <;> rfl
    exact hhead ▸ hfirst c List.mem_cons_self

end Words

def IsHyphenated (name : Text) : Prop :=
  ∃ words : List Text, words ≠ [] ∧ (∀ word ∈ words, word ≠ [] ∧ ∀ c ∈ word, 'a' ≤ c ∧ c ≤ 'z') ∧
    name = Text.join ['-'] words

theorem isHyphenated_iff {name : Text} :
    IsHyphenated name ↔ Words.hyphenated.spells name = true := by
  have hjoint : ∀ c, Words.hyphenated.isJoint c = true ↔ c = '-' := fun c => decide_eq_true_iff
  have hletter : ∀ c, Words.hyphenated.isLetter c = true ↔ 'a' ≤ c ∧ c ≤ 'z' := fun c =>
    Bool.and_eq_true_iff.trans (and_congr decide_eq_true_iff decide_eq_true_iff)
  rw [Words.spells_iff hjoint rfl, IsHyphenated]
  simp only [Words.AreLetters, hletter]

namespace Attribute

variable {name grammar : Text} {a : Attribute}

theorem make_eq_ok_iff : make name grammar = .ok a ↔
    Words.hyphenated.spells name = true ∧ ∃ groups, Pattern.countGroups grammar = .ok groups ∧
      a = ⟨name, grammar, groups⟩ := by
  rw [make]
  cases hname : Words.hyphenated.spells name with
  | false => simp
  | true =>
      cases hgroups : Pattern.countGroups grammar with
      | error fault => simp
      | ok groups => simp [eq_comm]

/-- An attribute is what a name and a grammar describe, both of them in order. -/
structure Records (a : Attribute) (pair : Text × Text) : Prop where
  name : a.name = pair.1
  grammar : a.grammar = pair.2
  hyphenated : IsHyphenated a.name
  groups : Pattern.countGroups a.grammar = .ok a.groups

theorem make_eq_ok_iff_records : make name grammar = .ok a ↔ a.Records (name, grammar) := by
  rw [make_eq_ok_iff, ← isHyphenated_iff]
  constructor
  · rintro ⟨hname, groups, hgroups, rfl⟩
    exact ⟨rfl, rfl, hname, hgroups⟩
  · obtain ⟨own, pattern, groups⟩ := a
    rintro ⟨rfl, rfl, hname, hgroups⟩
    exact ⟨hname, groups, hgroups, rfl⟩

theorem make_eq_error_iff {e : Error} : make name grammar = .error e ↔
    ¬IsHyphenated name ∧ e = .invalidAttributeName name ∨
      IsHyphenated name ∧ (∃ fault, Pattern.countGroups grammar = .error fault) ∧
        e = .invalidAttributeGrammar name := by
  rw [make, isHyphenated_iff]
  cases hname : Words.hyphenated.spells name with
  | false => simp [eq_comm]
  | true =>
      cases hgroups : Pattern.countGroups grammar with
      | error fault => simp [eq_comm]
      | ok groups => simp

end Attribute

namespace AttributeTable

variable {table table' : AttributeTable} {name grammar : Text} {a : Attribute} {e : Error}
  {pair : Text × Text} {pairs : List (Text × Text)}

theorem contains_iff : table.contains name = true ↔ name ∈ table.names := by
  simp [contains, get?, names, List.find?_isSome]

theorem add_eq_ok_iff : table.add name grammar = .ok table' ↔
    name ∉ table.names ∧ ∃ a : Attribute, a.Records (name, grammar) ∧
      table' = ⟨table.attributes ++ [a]⟩ := by
  simp only [← contains_iff, ← Attribute.make_eq_ok_iff_records, add]
  cases table.contains name with
  | true => simp
  | false =>
      cases Attribute.make name grammar with
      | error e => simp
      | ok a => simp [eq_comm]

theorem add_eq_error_iff : table.add name grammar = .error e ↔
    name ∈ table.names ∧ e = .duplicateAttribute name ∨
      name ∉ table.names ∧ (¬IsHyphenated name ∧ e = .invalidAttributeName name ∨
        IsHyphenated name ∧ (∃ fault, Pattern.countGroups grammar = .error fault) ∧
          e = .invalidAttributeGrammar name) := by
  rw [← contains_iff, ← Attribute.make_eq_error_iff, add]
  cases table.contains name with
  | true => simp [eq_comm]
  | false =>
      cases Attribute.make name grammar with
      | error other => simp
      | ok a => simp

def addPair (table : AttributeTable) (pair : Text × Text) : Except Error AttributeTable :=
  table.add pair.1 pair.2

/-- The table that calls lead to, those that fail included. -/
def ofHistory (pairs : List (Text × Text)) : AttributeTable := afterCalls addPair empty pairs

/-- The pairs that are added, in order. -/
def added (pairs : List (Text × Text)) : List (Text × Text) := successes addPair empty pairs

theorem nodup_of_addPair (h : table.names.Nodup) (hadd : table.addPair pair = .ok table') :
    table'.names.Nodup := by
  obtain ⟨hnew, a, ha, rfl⟩ := add_eq_ok_iff.1 hadd
  rw [names, List.map_append, List.nodup_append]
  refine ⟨h, List.pairwise_singleton _ _, fun first hfirst other hother => ?_⟩
  rintro rfl
  rw [List.map_singleton, List.mem_singleton, ha.name] at hother
  exact hnew (hother ▸ hfirst)

theorem nodup_names_ofHistory (pairs : List (Text × Text)) : (ofHistory pairs).names.Nodup := by
  have hempty : empty.names.Nodup := List.Pairwise.nil
  exact afterCalls_induction (p := fun table : AttributeTable => table.names.Nodup)
    (fun _ _ _ => nodup_of_addPair) hempty pairs

/-- What calls leave of a table is the table with a record of those that succeeded. -/
theorem exists_attributes_afterCalls (table : AttributeTable) (pairs : List (Text × Text)) :
    ∃ new, (afterCalls addPair table pairs).attributes = table.attributes ++ new ∧
      List.Forall₂ Attribute.Records new (successes addPair table pairs) := by
  induction pairs generalizing table with
  | nil => exact ⟨[], (List.append_nil _).symm, .nil⟩
  | cons pair pairs ih =>
      rw [afterCalls_cons]
      cases h : table.addPair pair with
      | error e =>
          rw [afterCall_of_error h, successes_of_error h]
          exact ih table
      | ok next =>
          obtain ⟨-, a, ha, hnext⟩ := add_eq_ok_iff.1 h
          obtain ⟨new, hattributes, hnew⟩ := ih next
          rw [afterCall_of_ok h, successes_of_ok h]
          refine ⟨a :: new, ?_, .cons ha hnew⟩
          rw [hattributes, hnext, List.append_assoc, List.singleton_append]

theorem records_ofHistory (pairs : List (Text × Text)) :
    List.Forall₂ Attribute.Records (ofHistory pairs).attributes (added pairs) := by
  obtain ⟨new, hattributes, hnew⟩ := exists_attributes_afterCalls empty pairs
  have heq : (ofHistory pairs).attributes = new := hattributes
  exact heq ▸ hnew

theorem exists_records_of_mem (h : a ∈ (ofHistory pairs).attributes) : ∃ pair, a.Records pair := by
  have hall : List.Forall₂ (fun (a : Attribute) pair => (∃ pair, a.Records pair) ∧ a.Records pair)
      (ofHistory pairs).attributes (added pairs) :=
    (records_ofHistory pairs).imp fun _ pair hrecords => ⟨⟨pair, hrecords⟩, hrecords⟩
  exact ((List.forall₂_and_left _ _).1 hall).1 a h

theorem find?_grammar_iff {attributes : List Attribute}
    (h : List.Forall₂ Attribute.Records attributes pairs) :
    (attributes.find? (·.name = name)).map (·.grammar) = some grammar ↔
      FirstOf (·.1 = name) pairs (name, grammar) := by
  induction h with
  | nil => exact iff_of_false nofun firstOf_nil
  | @cons a pair attributes pairs ha hall ih =>
      rw [firstOf_cons, List.find?_cons]
      by_cases hname : pair.1 = name
      · obtain ⟨first, other⟩ := pair
        obtain rfl : first = name := hname
        simp [ha.name, ha.grammar, eq_comm]
      · simp [ha.name, hname, ih]

theorem get?_ofHistory_iff :
    ((ofHistory pairs).get? name).map (·.grammar) = some grammar ↔
      FirstOf (·.1 = name) (added pairs) (name, grammar) :=
  find?_grammar_iff (records_ofHistory pairs)

theorem addAll_eq_foldlM (table : AttributeTable) (pairs : List (Text × Text)) :
    table.addAll pairs = pairs.foldlM addPair table := by
  induction pairs generalizing table with
  | nil => rfl
  | cons pair pairs ih =>
      rw [List.foldlM_cons, addAll, addPair]
      cases table.add pair.1 pair.2 with
      | error e => rfl
      | ok next => exact ih next

theorem ofHistory_snoc_of_ok (h : (ofHistory pairs).add name grammar = .ok table) :
    ofHistory (pairs ++ [(name, grammar)]) = table := by
  rw [ofHistory, afterCalls_append]
  exact afterCall_of_ok h

theorem ofHistory_snoc_of_error (h : (ofHistory pairs).add name grammar = .error e) :
    ofHistory (pairs ++ [(name, grammar)]) = ofHistory pairs := by
  rw [ofHistory, afterCalls_append]
  exact afterCall_of_error h

/-- After any calls a table holds the attributes of the calls that succeeded, in their order, and no
name twice. The next call succeeds where its name is new and lower case words with hyphens between
them, and its grammar can be counted; of what is wrong otherwise, a name that is there is reported
ahead of a bad one, a bad name ahead of a bad grammar, and the table stays as it is. Looking up a
name finds the first grammar that was added for it. A list of pairs makes the table that its calls
lead to if all of them succeed, and otherwise the error of the first that fails. -/
theorem table_ofHistory (pairs : List (Text × Text)) :
    List.Forall₂ Attribute.Records (ofHistory pairs).attributes (added pairs) ∧
      (ofHistory pairs).names.Nodup ∧
      (∀ name grammar,
        (∀ table, (ofHistory pairs).add name grammar = .ok table ↔
          name ∉ (ofHistory pairs).names ∧ IsHyphenated name ∧
            ∃ groups, Pattern.countGroups grammar = .ok groups ∧
              table = ⟨(ofHistory pairs).attributes ++ [⟨name, grammar, groups⟩]⟩ ∧
              table = ofHistory (pairs ++ [(name, grammar)])) ∧
        (∀ e, (ofHistory pairs).add name grammar = .error e ↔
          ofHistory (pairs ++ [(name, grammar)]) = ofHistory pairs ∧
            (name ∈ (ofHistory pairs).names ∧ e = .duplicateAttribute name ∨
              name ∉ (ofHistory pairs).names ∧
                (¬IsHyphenated name ∧ e = .invalidAttributeName name ∨
                  IsHyphenated name ∧ (∃ fault, Pattern.countGroups grammar = .error fault) ∧
                    e = .invalidAttributeGrammar name))) ∧
        (((ofHistory pairs).get? name).map (·.grammar) = some grammar ↔
          FirstOf (·.1 = name) (added pairs) (name, grammar))) ∧
      (∀ table, ofPairs pairs = .ok table ↔ added pairs = pairs ∧ ofHistory pairs = table) ∧
      ∀ e, ofPairs pairs = .error e ↔ ∃ before pair after, pairs = before ++ pair :: after ∧
        added before = before ∧ (ofHistory before).add pair.1 pair.2 = .error e := by
  refine ⟨records_ofHistory pairs, nodup_names_ofHistory pairs,
    fun name grammar => ⟨fun table => ?_, fun e => ?_, get?_ofHistory_iff⟩, fun table => ?_,
    fun e => ?_⟩
  · constructor
    · intro hadd
      obtain ⟨hnew, ⟨own, pattern, groups⟩, ⟨rfl, rfl, hname, hgroups⟩, htable⟩ :=
        add_eq_ok_iff.1 hadd
      exact ⟨hnew, hname, groups, hgroups, htable, (ofHistory_snoc_of_ok hadd).symm⟩
    · rintro ⟨hnew, hname, groups, hgroups, htable, -⟩
      exact add_eq_ok_iff.2 ⟨hnew, _, ⟨rfl, rfl, hname, hgroups⟩, htable⟩
  · rw [← add_eq_error_iff]
    exact (and_iff_right_of_imp ofHistory_snoc_of_error).symm
  · rw [ofPairs, addAll_eq_foldlM]
    exact foldlM_eq_ok_iff
  · rw [ofPairs, addAll_eq_foldlM]
    exact foldlM_eq_error_iff

/-- A name again with a grammar that is bad as well, and a name that is not in lower case. -/
example : ofHistory [("pack".toList, "yes|no".toList), ("pack".toList, "(".toList),
      ("Font".toList, "x".toList), ("clear".toList, "(none|left)".toList)] =
    ⟨[⟨"pack".toList, "yes|no".toList, 0⟩, ⟨"clear".toList, "(none|left)".toList, 1⟩]⟩ := by
  decide +kernel

end AttributeTable

end Highlight
