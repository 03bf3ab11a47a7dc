import Highlight.Proofs.CharSet
import Highlight.Proofs.Pair.GenericRule

/-!
What texts become when they are put into patterns. A quoted text is read back unit by unit, a
backslash standing for the character behind it; in a class the terminators of a pair stand for
themselves and for nothing else, whatever characters they are.
-/

namespace Highlight

namespace Pattern

variable {c : Char} {special text written : Text} {modes : Modes} {count : Nat}
  {build : Nat → Row → Row}

structure Glyph where
  char : Char
  escaped : Bool
  deriving DecidableEq, Repr

/-- A text unit by unit; a backslash takes the next character with it, and must have one. -/
def glyphs? : Text → Option (List Glyph)
  | [] => some []
  | ['\\'] => none
  | '\\' :: c :: text => (glyphs? text).map (⟨c, true⟩ :: ·)
  | c :: text => (glyphs? text).map (⟨c, false⟩ :: ·)

theorem glyphs?_escaped (c : Char) (text : Text) :
    glyphs? ('\\' :: c :: text) = (glyphs? text).map (⟨c, true⟩ :: ·) := by
  rw [glyphs?]

theorem glyphs?_plain (hc : c ≠ '\\') (text : Text) :
    glyphs? (c :: text) = (glyphs? text).map (⟨c, false⟩ :: ·) := by
  rw [glyphs?]
  · exact fun heq => absurd heq hc
  · exact fun _ _ heq => absurd heq hc

theorem glyphs?_escape (text : Text) :
    glyphs? (escape text) = some (text.map fun c => ⟨c, isMeta c⟩) := by
  induction text with
  | nil => rfl
  | cons c text ih =>
      cases hc : isMeta c with
      | true =>
          rw [escape_cons_of_isMeta hc, List.map_cons, hc, List.cons_append, List.singleton_append,
            glyphs?_escaped, ih]
          rfl
      | false =>
          have hslash : c ≠ '\\' := by
            rintro rfl
            cases hc
          rw [escape_cons_of_not_isMeta (Bool.not_eq_true _ ▸ hc), List.map_cons, hc,
            List.singleton_append, glyphs?_plain hslash, ih]
          rfl

/-- A text in writing that is read back unit by unit, with no special character by itself. -/
def Quotes (special written text : Text) : Prop :=
  ∃ glyphs, glyphs? written = some glyphs ∧ glyphs.map Glyph.char = text ∧
    ∀ g ∈ glyphs, g.char ∈ special → g.escaped = true

theorem quotes_escape (h : ∀ c ∈ special, isMeta c = true) (text : Text) :
    Quotes special (escape text) text := by
  refine ⟨_, glyphs?_escape text, ?_, ?_⟩
  · rw [List.map_map]
    exact List.map_id text
  · intro g hg hspecial
    obtain ⟨c, -, rfl⟩ := List.mem_map.1 hg
    exact h c hspecial

def classSpecials : Text := "][^-&~\\".toList

def specials : Text := "\\.+*?()|[]\x7b\x7d^$#&-~".toList

theorem allMembers_literals (modes : Modes) (text : Text) :
    ClassSet.allMembers modes (text.map .literal) = text.map .singleton := by
  induction text with
  | nil => rfl
  | cons c text ih => exact congrArg (CharSet.singleton c :: ·) ih

theorem contains_unionAll_singletons :
    (CharSet.unionAll (text.map .singleton)).contains c = true ↔ c ∈ text := by
  rw [CharSet.contains_unionAll]
  constructor
  · rintro ⟨s, hs, hc⟩
    obtain ⟨d, hd, rfl⟩ := List.mem_map.1 hs
    exact CharSet.contains_singleton.1 hc ▸ hd
  · intro hc
    exact ⟨_, List.mem_map_of_mem hc, CharSet.contains_singleton.2 rfl⟩

theorem spaced_unionAll_singletons (text : Text) :
    CharSet.Spaced (CharSet.unionAll (text.map .singleton)).ranges := by
  refine CharSet.spaced_ofRanges fun range hrange => ?_
  obtain ⟨s, hs, hrange⟩ := List.mem_flatMap.1 hrange
  obtain ⟨c, -, rfl⟩ := List.mem_map.1 hs
  cases List.mem_singleton.1 hrange
  exact Nat.le_refl _

/-- The literals of a class stand for themselves, in normal form. -/
theorem members_literals (modes : Modes) (text : Text) :
    CharSet.Spaced ((ClassSet.ofItems (text.map .literal)).members modes).ranges ∧
      ∀ c, ((ClassSet.ofItems (text.map .literal)).members modes).contains c = true ↔ c ∈ text := by
  match text with
  | [] => exact ⟨⟨nofun, .nil⟩, fun c => by simp [ClassSet.ofItems, ClassSet.members,
      CharSet.empty, CharSet.contains, CharSet.containsCode]⟩
  | [d] =>
      refine ⟨⟨?_, List.pairwise_singleton _ _⟩, fun c => ?_⟩
      · intro range hrange
        cases List.mem_singleton.1 hrange
        exact Nat.le_refl _
      · exact CharSet.contains_singleton.trans List.mem_singleton.symm
  | d :: e :: text =>
      have hmembers : (ClassSet.ofItems ((d :: e :: text).map .literal)).members modes =
          .unionAll ((d :: e :: text).map .singleton) :=
        congrArg CharSet.unionAll (allMembers_literals modes (d :: e :: text))
      rw [hmembers]
      exact ⟨spaced_unionAll_singletons _, fun c => contains_unionAll_singletons⟩

theorem contains_class (hcase : modes.ignoreCase = false) (text : Text) (c : Char) :
    (((ClassSet.bracketed true (.ofItems (text.map .literal))).members modes).contains c = true ↔
        c ∉ text) ∧
      (((ClassSet.bracketed false (.ofItems (text.map .literal))).members modes).contains c = true ↔
        c ∈ text) := by
  obtain ⟨hspaced, hmembers⟩ := members_literals modes text
  have hfold (s : CharSet) : modes.foldCase s = s := by simp [Modes.foldCase, hcase]
  simp only [ClassSet.members, hfold, CharSet.negateIf, if_true, Bool.false_eq_true, if_false,
    CharSet.contains_complement hspaced, hmembers, iff_self, and_self]

theorem Reads.run_initial (h : Reads text count build) :
    run .initial text = .ok (build 0 .empty).close := by
  have hread := h .initial [] rfl (by simp)
  rw [List.append_nil] at hread
  rw [hread, run_of_skip_eq_nil rfl]
  rfl

end Pattern

namespace PairGrammar

open Pattern

variable {pair : PairGrammar}

theorem read_residual (h : pair.terminators ≠ []) :
    read pair.residual = .ok (.repetition
      (.bracketed true (.ofItems (pair.terminators.map .literal))) true 0 none) := by
  have hdepth := Fragment.depth_others_le pair.terminators
  have hunicode := Fragment.unicodeAfter?_others pair.terminators
  refine read_eq_ok_iff.2 ⟨(Fragment.reads_residual h).run_initial, ?_, ?_⟩
  · exact Nat.le_trans hdepth (by decide)
  · exact Option.isSome_iff_exists.2 ⟨_, hunicode⟩

theorem read_bound (h : pair.terminators ≠ []) :
    read pair.bound = .ok (.concat [Fragment.gap, .group (.plain []) (.alternation
      [.atom (.assertion .lineEnd),
        .bracketed false (.ofItems (pair.terminators.map .literal))])]) := by
  have hset := Fragment.depth_literals_le pair.terminators
  have hallowed := Fragment.isAllowed_literals pair.terminators
  have hgap : Fragment.gap.unicodeAfter? true = some true := rfl
  have hdepth : Fragment.gap.depth = 3 := rfl
  refine read_eq_ok_iff.2 ⟨(Fragment.reads_bound h).run_initial, ?_, ?_⟩
  · simp only [Node.depth, Node.depths, hdepth, depthLimit]
    omega
  · simp [Node.unicodeAfter?, Node.allUnicodeAfter?, hgap, hallowed, Atom.isAllowed,
      GroupKind.flags, Flags.setting]

end PairGrammar

namespace Fragment

open Pattern

variable {pair : PairGrammar} {separator terminators : Text}

theorem pattern_known (a : Attribute) (pair : PairGrammar) : (known a pair).rule.pattern =
    "(".toList ++ escape a.name ++ ")\\s*".toList ++ escape pair.separator ++
      "\\s*(?:(".toList ++ quotedPattern ++ ")|(".toList ++ referencePattern ++
      ")|((?:".toList ++ a.grammar ++ "))".toList ++ pair.bound ++ "|(".toList ++ pair.residual ++
      "))".toList := by
  rw [known, pattern_ofDraft]
  simp [knownDraft, pairDraft, Draft.sources, Draft.source]

theorem pattern_generic (pair : PairGrammar) : (generic pair).rule.pattern =
    "(".toList ++ namePattern ++ ")\\s*".toList ++ escape pair.separator ++
      "\\s*(?:(".toList ++ quotedPattern ++ ")|(".toList ++ referencePattern ++ ")|(".toList ++
      pair.residual ++ "))".toList := by
  rw [generic, pattern_ofDraft]
  simp [genericDraft, pairDraft, Draft.sources, Draft.source]

/-- Names, separators and terminators are quoted exactly. The text between the brackets of the two
classes of a pair is read back as its terminators, with nothing special by itself; the patterns
around the brackets are read as a class that accepts just the terminators and one that excludes just
them, and none of them is in the separator. In the rules of attributes, the texts at the places of
the name and the separator are read back as these, with nothing special by itself. -/
theorem quoted_exactly (h : PairGrammar.make separator terminators = .ok pair) (a : Attribute) :
    (∃ body, pair.residual = "[^".toList ++ body ++ "]*".toList ∧
      pair.bound = "[ \\t]*(?:$|[".toList ++ body ++ "])".toList ∧
      Quotes classSpecials body terminators) ∧
    (∃ set, read pair.residual = .ok (.repetition (.bracketed true set) true 0 none) ∧
      read pair.bound = .ok (.concat [gap, .group (.plain []) (.alternation
        [.atom (.assertion .lineEnd), .bracketed false set])]) ∧
      ∀ modes : Modes, modes.ignoreCase = false → ∀ c,
        (((ClassSet.bracketed true set).members modes).contains c = true ↔ c ∉ terminators) ∧
        (((ClassSet.bracketed false set).members modes).contains c = true ↔ c ∈ terminators)) ∧
    (∀ c ∈ terminators, c ∉ separator) ∧
    ∃ nameText separatorText, Quotes specials nameText a.name ∧
      Quotes specials separatorText separator ∧
      (known a pair).rule.pattern =
        "(".toList ++ nameText ++ ")\\s*".toList ++ separatorText ++ "\\s*(?:(".toList ++
          quotedPattern ++ ")|(".toList ++ referencePattern ++ ")|((?:".toList ++ a.grammar ++
          "))".toList ++ pair.bound ++ "|(".toList ++ pair.residual ++ "))".toList ∧
      (generic pair).rule.pattern =
        "(".toList ++ namePattern ++ ")\\s*".toList ++ separatorText ++ "\\s*(?:(".toList ++
          quotedPattern ++ ")|(".toList ++ referencePattern ++ ")|(".toList ++ pair.residual ++
          "))".toList := by
  obtain ⟨-, hterminators, hapart, rfl⟩ := PairGrammar.make_eq_ok_iff.1 h
  refine ⟨⟨_, rfl, rfl, quotes_escape ?_ terminators⟩,
    ⟨_, PairGrammar.read_residual hterminators, PairGrammar.read_bound hterminators,
      fun modes hcase c => contains_class hcase terminators c⟩, hapart,
    ⟨_, _, quotes_escape ?_ a.name, quotes_escape ?_ separator, pattern_known a _,
      pattern_generic _⟩⟩
  · exact forall_mem_of_all (by decide)
  · exact forall_mem_of_all (by decide)
  · exact forall_mem_of_all (by decide)

/-- Terminators that would negate a class, close it, make a range or combine classes. -/
theorem quoted_exactly_of_class_characters : ∃ pair,
    PairGrammar.make "a.b".toList "^]z-x&&~~[\\--".toList = .ok pair ∧
    (∃ body, pair.bound = "[ \\t]*(?:$|[".toList ++ body ++ "])".toList ∧
      Quotes classSpecials body "^]z-x&&~~[\\--".toList) ∧
    ∃ set, read pair.residual = .ok (.repetition (.bracketed true set) true 0 none) ∧
      ((ClassSet.bracketed true set).members {}).contains 'y' = true ∧
      ((ClassSet.bracketed true set).members {}).contains '-' = false := by
  have hmake : PairGrammar.make "a.b".toList "^]z-x&&~~[\\--".toList =
      .ok ⟨"a.b".toList, "^]z-x&&~~[\\--".toList⟩ := rfl
  obtain ⟨⟨body, -, hbound, hbody⟩, ⟨set, hread, -, hmembers⟩, -⟩ :=
    quoted_exactly hmake ⟨"x-y".toList, "1".toList, 0⟩
  refine ⟨_, hmake, ⟨body, hbound, hbody⟩, set, hread, ?_, ?_⟩
  · exact (hmembers {} rfl 'y').1.2 (by decide)
  · exact Bool.eq_false_iff.2 fun hin => (hmembers {} rfl '-').1.1 hin (by decide)

end Fragment

end Highlight
