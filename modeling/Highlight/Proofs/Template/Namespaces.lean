import Highlight.Proofs.Style.Resolution
import Highlight.Proofs.Template.Leftover
import Highlight.Proofs.Template.Split
import Highlight.Template.Compose

/-!
The two namespaces of placeholders. A name is a slot's or begins like a style tag, and no token of
the one kind contains a token of the other; so slots and style tags that were accepted never
collide. What takes a template apart, what holds the content of slots and what resolves style tags
go by the same division: a quoted placeholder is looked after by one of them.
-/

namespace Highlight

open TokenShape (style quoted)

variable {name tag text : Text}

theorem Text.has_iff {piece text : Text} : has piece text = true ↔ piece <:+: text := by
  induction text with
  | nil => rw [has, List.isEmpty_iff, List.infix_nil]
  | cons c text ih =>
      rw [has, Bool.or_eq_true, List.isPrefixOf_iff_prefix, ih, List.infix_cons_iff]

def IsSlot (name : Text) : Prop :=
  isPlaceholderName name = true ∧ stylePrefix.isPrefixOf name = false

theorem exists_tag_of_isPrefixOf (hname : isPlaceholderName name = true)
    (h : stylePrefix.isPrefixOf name = true) :
    ∃ tag, Words.upper.spells tag = true ∧ name = stylePrefix ++ tag := by
  obtain ⟨tag, rfl⟩ := List.isPrefixOf_iff_prefix.1 h
  exact ⟨tag, isPlaceholderName_stylePrefix_iff.1 hname, rfl⟩

/-- The token of a slot and a style tag do not contain each other: the one would have to be the
other, and a slot's name does not begin like a style tag. -/
theorem IsSlot.apart (h : IsSlot name) (htag : Words.upper.spells tag = true) :
    ¬style.spell tag <:+: slotToken name ∧ ¬slotToken name <:+: style.spell tag := by
  have hstyle := isPlaceholderName_stylePrefix_iff.2 htag
  have hne : name ≠ stylePrefix ++ tag := by
    rintro rfl
    cases (List.isPrefixOf_iff_prefix.2 (List.prefix_append stylePrefix tag)).symm.trans h.2
  rw [spell_style]
  exact ⟨fun hinfix => hne (eq_of_infix_slotToken hstyle h.1 hinfix).symm,
    fun hinfix => hne (eq_of_infix_slotToken h.1 hstyle hinfix)⟩

theorem StyleMap.mem_placeholders_iff {m : StyleMap} : text ∈ m.placeholders ↔
    ∃ tag classification, m.classification tag = some classification ∧ text = style.spell tag := by
  simp only [placeholders, List.mem_map, Dictionary.mem_keys_iff, exists_and_right, eq_comm]
  rfl

theorem StyleMap.checked_ofHistory (pairs : List (Text × Text)) : (ofHistory pairs).Checked :=
  afterCalls_induction (fun _ _ _ hm h => Checked.insert hm h) checked_empty pairs

namespace Substitutions

variable {s s' : Substitutions} {content : Content} {pair : Text × Content}

theorem insert_eq_ok_iff : s.insert name content = .ok s' ↔
    IsSlot name ∧ s' = ⟨s.entries.insert name content⟩ := by
  rw [Substitutions.insert, IsSlot]
  cases isPlaceholderName name with
  | false => simp
  | true =>
      cases stylePrefix.isPrefixOf name with
      | true => simp
      | false => simp [eq_comm]

theorem exists_insert_iff : (∃ s', s.insert name content = .ok s') ↔ IsSlot name := by
  simp only [insert_eq_ok_iff, exists_and_left, exists_eq, and_true]

def insertPair (s : Substitutions) (pair : Text × Content) : Except Error Substitutions :=
  s.insert pair.1 pair.2

def ofHistory (pairs : List (Text × Content)) : Substitutions := afterCalls insertPair empty pairs

def Checked (s : Substitutions) : Prop := ∀ name ∈ s.names, IsSlot name

theorem Checked.insertPair (hs : s.Checked) (h : s.insertPair pair = .ok s') : s'.Checked := by
  obtain ⟨hpair, rfl⟩ := insert_eq_ok_iff.1 h
  intro name hmem
  obtain ⟨content, hfound⟩ := Dictionary.mem_keys_iff.1 hmem
  rw [Dictionary.get?_insert] at hfound
  split at hfound
  · next heq => exact heq ▸ hpair
  · exact hs name (Dictionary.mem_keys_iff.2 ⟨content, hfound⟩)

theorem checked_ofHistory (pairs : List (Text × Content)) : (ofHistory pairs).Checked :=
  afterCalls_induction (fun _ _ _ hs h => hs.insertPair h) nofun pairs

end Substitutions

theorem collision?_eq_none_iff {slots styles : List Text} : collision? slots styles = none ↔
    ∀ slot ∈ slots, ∀ tag ∈ styles, ¬tag <:+: slot ∧ ¬slot <:+: tag := by
  simp only [collision?, List.findSome?_eq_none_iff, Option.map_eq_none_iff, List.find?_eq_none,
    Bool.or_eq_true, Text.has_iff, not_or]

namespace Compositor

variable {m : StyleMap} {s : Substitutions} {c : Compositor}

/-- The token of a slot and a style tag of which neither contains the other. -/
def TokensApart (m : StyleMap) (s : Substitutions) : Prop :=
  ∀ name ∈ s.names, ∀ tag ∈ m.placeholders, ¬tag <:+: slotToken name ∧ ¬slotToken name <:+: tag

theorem make_eq_ok_iff : make m s = .ok c ↔ TokensApart m s ∧ c = ⟨m, s⟩ := by
  have hcollision : collision? (s.names.map slotToken) m.placeholders = none ↔ TokensApart m s := by
    rw [collision?_eq_none_iff, List.forall_mem_map]
    rfl
  rw [make, ← hcollision]
  cases collision? (s.names.map slotToken) m.placeholders with
  | none => simp [eq_comm]
  | some pair => simp

theorem tokensApart_of_checked (hm : m.Checked) (hs : s.Checked) : TokensApart m s := by
  intro name hmem text htext
  obtain ⟨tag, classification, hmapped, rfl⟩ := StyleMap.mem_placeholders_iff.1 htext
  exact (hs name hmem).apart (Bool.and_eq_true_iff.1 (hm tag classification hmapped).1).2

theorem make_of_checked (hm : m.Checked) (hs : s.Checked) : make m s = .ok ⟨m, s⟩ :=
  make_eq_ok_iff.2 ⟨tokensApart_of_checked hm hs, rfl⟩

/-- Whatever was tried to insert into a map and into the content of slots, no token of a slot and no
style tag contain each other, and a compositor can be made of the two. -/
theorem make_ofHistory (tags : List (Text × Text)) (contents : List (Text × Content)) :
    TokensApart (.ofHistory tags) (.ofHistory contents) ∧
      collision? ((Substitutions.ofHistory contents).names.map slotToken)
        (StyleMap.ofHistory tags).placeholders = none ∧
      make (.ofHistory tags) (.ofHistory contents) = .ok ⟨.ofHistory tags, .ofHistory contents⟩ := by
  have hapart : TokensApart (.ofHistory tags) (.ofHistory contents) :=
    tokensApart_of_checked (StyleMap.checked_ofHistory tags)
      (Substitutions.checked_ofHistory contents)
  refine ⟨hapart, ?_, make_eq_ok_iff.2 ⟨hapart, rfl⟩⟩
  rw [collision?_eq_none_iff, List.forall_mem_map]
  exact hapart

end Compositor

namespace Template

theorem ofText_quoted (h : isPlaceholderName name = true) :
    (ofText (quoted.spell name)).segments =
      if stylePrefix.isPrefixOf name then [.text (quoted.spell name)] else [.slot name] := by
  obtain ⟨hfirst, hspent⟩ := isPlaceholderName_iff.1 h
  have hread := TokenShape.read?_spell_append (t := quoted) ⟨['"'], rfl⟩ hfirst hspent []
  rw [List.append_nil] at hread
  rw [ofText, TokenShape.scan_of_some hread, TokenShape.scan]
  rfl

theorem ofText_quoted_eq_slot_iff :
    (ofText (quoted.spell name)).segments = [.slot name] ↔ IsSlot name := by
  constructor
  · intro h
    exact name_of_slot (h ▸ List.mem_singleton_self (Segment.slot name))
  · rintro ⟨hname, hprefix⟩
    rw [ofText_quoted hname, hprefix]
    rfl

end Template

namespace StyleMap

variable {m : StyleMap} {classification : Text}

theorem quoted_stylePrefix (tag : Text) :
    quoted.spell (stylePrefix ++ tag) = '"' :: (style.spell tag ++ ['"']) := by
  rw [spell_quoted, spell_style]

theorem resolve_quoted_of_mapped (htag : Words.upper.spells tag = true)
    (h : m.classification tag = some classification) :
    m.resolve (quoted.spell (stylePrefix ++ tag)) = .ok ('"' :: (classification ++ ['"'])) := by
  have hread := TokenShape.style_read?_eq_some_iff.2 ⟨htag, Eq.refl (style.spell tag ++ ['"'])⟩
  rw [quoted_stylePrefix, resolve_cons_of_none (TokenShape.style_read?_of_ne (by decide) _),
    resolve_of_mapped hread h, resolve_of_not_mem (by decide)]
  rfl

theorem resolve_quoted_of_unmapped (htag : Words.upper.spells tag = true)
    (h : m.classification tag = none) :
    m.resolve (quoted.spell (stylePrefix ++ tag)) =
      .error (.unresolvedPlaceholder (slotToken (stylePrefix ++ tag))) := by
  have hread := TokenShape.style_read?_eq_some_iff.2 ⟨htag, Eq.refl (style.spell tag ++ ['"'])⟩
  rw [quoted_stylePrefix, resolve_cons_of_none (TokenShape.style_read?_of_ne (by decide) _),
    resolve_of_unmapped hread h]
  rfl

end StyleMap

/-- A quoted placeholder that is left to the resolution of style tags: it stays in the text of a
template, and there it gives way to a classification as a whole, or else is the error. -/
structure IsInline (name : Text) : Prop where
  text : (Template.ofText (quoted.spell name)).segments = [.text (quoted.spell name)]
  resolve : ∃ tag, name = stylePrefix ++ tag ∧ ∀ m : StyleMap,
    (∀ classification, m.classification tag = some classification →
      m.resolve (quoted.spell name) = .ok ('"' :: (classification ++ ['"']))) ∧
    (m.classification tag = none →
      m.resolve (quoted.spell name) = .error (.unresolvedPlaceholder (slotToken name)))

theorem isInline_of_isPrefixOf (hname : isPlaceholderName name = true)
    (h : stylePrefix.isPrefixOf name = true) : IsInline name := by
  constructor
  · rw [Template.ofText_quoted hname, h]
    rfl
  · obtain ⟨tag, htag, rfl⟩ := exists_tag_of_isPrefixOf hname h
    exact ⟨tag, rfl, fun m => ⟨fun _ => StyleMap.resolve_quoted_of_mapped htag,
      StyleMap.resolve_quoted_of_unmapped htag⟩⟩

/-- Content is accepted for a name just where the quoted placeholder of that name is a slot by
itself; every slot of a template can be given content; and a placeholder that begins like a style
tag is left in the text and resolved or refused there, so that none is overlooked. -/
theorem quoted_looked_after (name : Text) :
    (∀ (s : Substitutions) (content : Content), (∃ s', s.insert name content = .ok s') ↔
      (Template.ofText (quoted.spell name)).segments = [.slot name]) ∧
    (∀ text, name ∈ (Template.ofText text).slots → ∀ (s : Substitutions) (content : Content),
      ∃ s', s.insert name content = .ok s' ∧ s'.get? name = some content) ∧
    (isPlaceholderName name = true → stylePrefix.isPrefixOf name = true → IsInline name) ∧
    (isPlaceholderName name = true →
      (Template.ofText (quoted.spell name)).segments = [.slot name] ∨ IsInline name) := by
  refine ⟨fun s content => ?_, fun text hmem s content => ?_, isInline_of_isPrefixOf,
    fun hname => ?_⟩
  · rw [Substitutions.exists_insert_iff, Template.ofText_quoted_eq_slot_iff]
  · have hslot : IsSlot name := Template.name_of_slot (Template.mem_slots_iff.1 hmem)
    refine ⟨_, Substitutions.insert_eq_ok_iff.2 ⟨hslot, rfl⟩, ?_⟩
    rw [Substitutions.get?, Dictionary.get?_insert, if_pos rfl]
  · cases hprefix : stylePrefix.isPrefixOf name with
    | false => exact .inl (Template.ofText_quoted_eq_slot_iff.2 ⟨hname, hprefix⟩)
    | true => exact .inr (isInline_of_isPrefixOf hname hprefix)

end Highlight
