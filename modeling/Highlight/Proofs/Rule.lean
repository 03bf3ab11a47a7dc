import Highlight.Proofs.Dictionary
import Highlight.Proofs.Json.Decoded
import Highlight.Proofs.Path
import Highlight.Template.Content
import Mathlib.Data.List.Induction

/-!
Rules as they are written. A rule is made from a pattern by calls that style the whole match or one
capture group; either written form of it is read back as one object, whose fields tell the pattern
and the tags of all calls, so that no two rules are written alike.
-/

namespace Highlight

theorem Text.ofNat_injective {m n : Nat} (h : Text.ofNat m = Text.ofNat n) : m = n := by
  calc
    m = Nat.ofDigitChars 10 (Text.ofNat m) 0 := Nat.ofDigitChars_ten_toDigits.symm
    _ = Nat.ofDigitChars 10 (Text.ofNat n) 0 := by rw [h]
    _ = n := Nat.ofDigitChars_ten_toDigits

namespace StyleTag

variable {tag other : StyleTag} {tags others : List StyleTag}

theorem ofName?_name (tag : StyleTag) : ofName? tag.name = some tag := by cases tag <;> rfl

theorem placeholder_injective (h : tag.placeholder = other.placeholder) : tag = other := by
  have hname : tag.name = other.name := List.append_cancel_left (List.append_cancel_right h)
  have hfound := ofName?_name tag
  rw [hname, ofName?_name] at hfound
  exact (Option.some.inj hfound).symm

theorem placeholder_ne_nil (tag : StyleTag) : tag.placeholder ≠ [] := List.cons_ne_nil _ _

/-- No blank stands in a placeholder, so that blanks tell several of them apart. -/
theorem split_placeholders (h : tags ≠ []) :
    Text.split ' ' (placeholders tags) = tags.map placeholder := by
  refine Text.split_join (by simpa using h) fun piece hpiece => ?_
  obtain ⟨tag, -, rfl⟩ := List.mem_map.1 hpiece
  cases tag <;> decide

theorem placeholders_injective (h : placeholders tags = placeholders others) : tags = others := by
  have hsplit := congrArg (Text.split ' ') h
  cases tags with
  | nil =>
      cases others with
      | nil => rfl
      | cons other others =>
          rw [split_placeholders (List.cons_ne_nil _ _)] at hsplit
          exact absurd (List.cons.inj hsplit).1.symm other.placeholder_ne_nil
  | cons tag tags =>
      rw [split_placeholders (List.cons_ne_nil _ _)] at hsplit
      cases others with
      | nil => exact absurd (List.cons.inj hsplit).1 tag.placeholder_ne_nil
      | cons other others =>
          rw [split_placeholders (List.cons_ne_nil _ _)] at hsplit
          exact List.map_injective_iff.2 (fun _ _ => placeholder_injective) hsplit

end StyleTag

namespace Rule

open Json (Legible)

/-- A call that styles the whole match, or one capture group. -/
inductive Call
  | named (tag : StyleTag)
  | capture (index : Nat) (tag : StyleTag)

def Call.matchTag? : Call → Option StyleTag
  | named tag => some tag
  | capture _ _ => none

def Call.groupTag? (index : Nat) : Call → Option StyleTag
  | named _ => none
  | capture other tag => if other = index then some tag else none

def apply (rule : Rule) : Call → Rule
  | .named tag => rule.named tag
  | .capture index tag => rule.capture index tag

/-- The rule that calls make of a pattern. -/
def ofCalls (pattern : Text) (calls : List Call) : Rule := calls.foldl apply (ofPattern pattern)

/-- The tags that calls give to the whole match, in order. -/
def matchTags (calls : List Call) : List StyleTag := calls.filterMap Call.matchTag?

/-- The tags that calls give to one group, in order. -/
def groupTags (calls : List Call) (index : Nat) : List StyleTag :=
  calls.filterMap (Call.groupTag? index)

def listed? (tags : List StyleTag) : Option (List StyleTag) :=
  if tags = [] then none else some tags

theorem getD_listed? (tags : List StyleTag) : (listed? tags).getD [] = tags := by
  cases tags <;> rfl

theorem listed?_append (tags : List StyleTag) (tag : StyleTag) :
    listed? (tags ++ [tag]) = some (tags ++ [tag]) := if_neg (by simp)

theorem listed?_eq_some_iff {tags others : List StyleTag} :
    listed? tags = some others ↔ tags ≠ [] ∧ others = tags := by
  cases tags with
  | nil => simp [listed?]
  | cons tag tags => simp [listed?, eq_comm]

variable {pattern : Text} {calls : List Call} {call : Call} {index : Nat} {tag : StyleTag}

theorem ofCalls_append (pattern : Text) (calls : List Call) (call : Call) :
    ofCalls pattern (calls ++ [call]) = (ofCalls pattern calls).apply call :=
  List.foldl_append

theorem pattern_ofCalls (pattern : Text) (calls : List Call) :
    (ofCalls pattern calls).pattern = pattern := by
  induction calls using List.reverseRecOn with
  | nil => rfl
  | append_singleton calls call ih =>
      rw [ofCalls_append]
      cases call <;> exact ih

theorem tags_ofCalls (pattern : Text) (calls : List Call) :
    (ofCalls pattern calls).tags = listed? (matchTags calls) := by
  induction calls using List.reverseRecOn with
  | nil => rfl
  | append_singleton calls call ih =>
      rw [ofCalls_append, matchTags, List.filterMap_append]
      cases call with
      | named tag =>
          have hnamed : ((ofCalls pattern calls).apply (.named tag)).tags =
              some ((ofCalls pattern calls).tags.getD [] ++ [tag]) := rfl
          rw [hnamed, ih, getD_listed?]
          exact (listed?_append _ tag).symm
      | capture index tag =>
          rw [List.filterMap_cons_none rfl, List.filterMap_nil, List.append_nil]
          exact ih

theorem get?_captures_ofCalls (pattern : Text) (calls : List Call) (index : Nat) :
    (ofCalls pattern calls).captures.get? index = listed? (groupTags calls index) := by
  induction calls using List.reverseRecOn with
  | nil => rfl
  | append_singleton calls call ih =>
      rw [ofCalls_append, groupTags, List.filterMap_append]
      cases call with
      | named tag =>
          rw [List.filterMap_cons_none rfl, List.filterMap_nil, List.append_nil]
          exact ih
      | capture other tag =>
          have hcapture : ((ofCalls pattern calls).apply (.capture other tag)).captures.get? index =
              if other = index then
                some (((ofCalls pattern calls).captures.get? other).getD [] ++ [tag])
              else (ofCalls pattern calls).captures.get? index := Dictionary.get?_insert _ _ _ _
          rw [hcapture]
          by_cases heq : other = index
          · have htag : Call.groupTag? index (.capture other tag) = some tag := if_pos heq
            rw [List.filterMap_cons_some htag, List.filterMap_nil, if_pos heq, heq, ih,
              getD_listed?]
            exact (listed?_append _ tag).symm
          · have htag : Call.groupTag? index (.capture other tag) = none := if_neg heq
            rw [if_neg heq, List.filterMap_cons_none htag, List.filterMap_nil, List.append_nil]
            exact ih

theorem matchTags_ne_nil_iff : matchTags calls ≠ [] ↔ ∃ tag, .named tag ∈ calls := by
  rw [matchTags, ne_eq, List.filterMap_eq_nil_iff]
  push Not
  constructor
  · rintro ⟨call, hmem, hsome⟩
    cases call with
    | named tag => exact ⟨tag, hmem⟩
    | capture index tag => exact absurd rfl hsome
  · rintro ⟨tag, hmem⟩
    exact ⟨.named tag, hmem, Option.some_ne_none tag⟩

theorem groupTags_ne_nil_iff : groupTags calls index ≠ [] ↔ ∃ tag, .capture index tag ∈ calls := by
  rw [groupTags, ne_eq, List.filterMap_eq_nil_iff]
  push Not
  constructor
  · rintro ⟨call, hmem, hsome⟩
    cases call with
    | named tag => exact absurd rfl hsome
    | capture other tag =>
        by_cases heq : other = index
        · exact ⟨tag, heq ▸ hmem⟩
        · exact absurd (if_neg heq) hsome
  · rintro ⟨tag, hmem⟩
    refine ⟨.capture index tag, hmem, ?_⟩
    rw [Call.groupTag?, if_pos rfl]
    exact Option.some_ne_none tag

/-- The entries for groups: one for each group that a call styles, with all its tags. -/
theorem mem_entries_captures_ofCalls {tags : List StyleTag} :
    (index, tags) ∈ (ofCalls pattern calls).captures.entries ↔
      (∃ tag, .capture index tag ∈ calls) ∧ tags = groupTags calls index := by
  rw [Dictionary.mem_entries_iff, get?_captures_ofCalls, listed?_eq_some_iff, groupTags_ne_nil_iff]

theorem entries_captures_ofCalls (pattern : Text) (calls : List Call) :
    (ofCalls pattern calls).captures.entries =
      (ofCalls pattern calls).captures.keys.map fun index => (index, groupTags calls index) := by
  rw [Dictionary.keys, List.map_map]
  refine (List.map_id _).symm.trans (List.map_congr_left fun entry hmem => ?_)
  exact Prod.ext rfl (mem_entries_captures_ofCalls.1 hmem).2

theorem mem_keys_captures_ofCalls :
    index ∈ (ofCalls pattern calls).captures.keys ↔ ∃ tag, .capture index tag ∈ calls := by
  rw [Dictionary.keys, List.mem_map]
  constructor
  · rintro ⟨⟨index, tags⟩, hmem, rfl⟩
    exact (mem_entries_captures_ofCalls.1 hmem).1
  · intro h
    exact ⟨(index, groupTags calls index), mem_entries_captures_ofCalls.2 ⟨h, rfl⟩, rfl⟩

theorem entries_captures_ne_nil_iff : (ofCalls pattern calls).captures.entries ≠ [] ↔
    ∃ index tag, .capture index tag ∈ calls := by
  rw [entries_captures_ofCalls, ne_eq, List.map_eq_nil_iff, List.eq_nil_iff_forall_not_mem]
  push Not
  exact exists_congr fun _ => mem_keys_captures_ofCalls

def nameFields : Option (List StyleTag) → List (Text × Json)
  | some tags => [("name".toList, .string (StyleTag.placeholders tags))]
  | none => []

def fields (rule : Rule) : List (Text × Json) :=
  nameFields rule.tags ++ ("match".toList, .string rule.pattern) ::
    (if rule.captures.isEmpty then []
     else [("captures".toList, .object (rule.captures.entries.map captureField))])

theorem toJson_eq (rule : Rule) : rule.toJson = .object rule.fields := rfl

theorem keys_fields (rule : Rule) : (rule.fields.map Prod.fst).Sublist
    ["name".toList, "match".toList, "captures".toList] := by
  rw [fields, List.map_append]
  have hname : ((nameFields rule.tags).map Prod.fst).Sublist ["name".toList] := by
    cases rule.tags with
    | none => exact List.nil_sublist _
    | some tags => exact .refl _
  refine hname.append (.cons_cons _ ?_)
  split
  · exact List.nil_sublist _
  · exact .refl _

variable {rule : Rule} {key : Text} {value : Json}

theorem mem_fields_iff : (key, value) ∈ rule.fields ↔
    (key = "name".toList ∧ ∃ tags, rule.tags = some tags ∧
      value = .string (StyleTag.placeholders tags)) ∨
    (key = "match".toList ∧ value = .string rule.pattern) ∨
    (key = "captures".toList ∧ rule.captures.entries ≠ [] ∧
      value = .object (rule.captures.entries.map captureField)) := by
  rw [fields, List.mem_append, List.mem_cons, Prod.mk.injEq]
  refine or_congr ?_ (or_congr .rfl ?_)
  · cases htags : rule.tags with
    | none => simp [nameFields]
    | some tags => simp [nameFields]
  · rw [Dictionary.isEmpty]
    split
    · next hempty => simp [List.isEmpty_iff.1 hempty]
    · next hne => simpa using fun _ _ => by simpa using hne

theorem name_mem_fields_iff : ("name".toList, value) ∈ rule.fields ↔
    ∃ tags, rule.tags = some tags ∧ value = .string (StyleTag.placeholders tags) := by
  simp [mem_fields_iff]

theorem match_mem_fields_iff :
    ("match".toList, value) ∈ rule.fields ↔ value = .string rule.pattern := by
  simp [mem_fields_iff]

theorem captures_mem_fields_iff : ("captures".toList, value) ∈ rule.fields ↔
    rule.captures.entries ≠ [] ∧ value = .object (rule.captures.entries.map captureField) := by
  simp [mem_fields_iff]

theorem captureField_injective : Function.Injective captureField := by
  rintro ⟨index, tags⟩ ⟨index', tags'⟩ h
  simp only [captureField, Prod.mk.injEq, Json.object.injEq, List.cons.injEq, Json.string.injEq,
    true_and, and_true] at h
  rw [Text.ofNat_injective h.1, StyleTag.placeholders_injective h.2]

theorem tags_eq_some_iff {tags : List StyleTag} : rule.tags = some tags ↔
    ("name".toList, .string (StyleTag.placeholders tags)) ∈ rule.fields := by
  rw [name_mem_fields_iff]
  constructor
  · intro h
    exact ⟨tags, h, rfl⟩
  · rintro ⟨tags', htags', heq⟩
    rw [StyleTag.placeholders_injective (Json.string.inj heq), htags']

theorem entries_eq_of_fields_eq {rule' : Rule} (h : rule.fields = rule'.fields)
    (hne : rule.captures.entries ≠ []) : rule.captures.entries = rule'.captures.entries := by
  have hmem := captures_mem_fields_iff.2 ⟨hne, rfl⟩
  rw [h, captures_mem_fields_iff] at hmem
  exact List.map_injective_iff.2 captureField_injective (Json.object.inj hmem.2)

theorem toJson_injective : Function.Injective toJson := by
  intro rule rule' h
  have hfields : rule.fields = rule'.fields := Json.object.inj h
  have hpattern : rule.pattern = rule'.pattern := by
    have hmem : ("match".toList, .string rule.pattern) ∈ rule.fields :=
      match_mem_fields_iff.2 rfl
    rw [hfields] at hmem
    exact Json.string.inj (match_mem_fields_iff.1 hmem)
  have htags : rule.tags = rule'.tags := Option.ext fun tags => by
    rw [tags_eq_some_iff, tags_eq_some_iff, hfields]
  have hentries : rule.captures.entries = rule'.captures.entries := by
    by_cases hne : rule.captures.entries = []
    · by_cases hne' : rule'.captures.entries = []
      · rw [hne, hne']
      · exact (entries_eq_of_fields_eq hfields.symm hne').symm
    · exact entries_eq_of_fields_eq hfields hne
  obtain ⟨tags, pattern, ⟨entries, hascending⟩⟩ := rule
  obtain ⟨tags', pattern', ⟨entries', hascending'⟩⟩ := rule'
  cases htags
  cases hpattern
  cases hentries
  rfl

def nameField (capture : Nat × Text) : Text × Json :=
  (Text.ofNat capture.1, .object [("name".toList, .string capture.2)])

/-- An object with the fields of a rule, whatever the names are. -/
def layout (name : Option Text) (pattern : Text) (captures : List (Nat × Text)) : Json :=
  .object ((name.map fun name => ("name".toList, Json.string name)).toList ++
    ("match".toList, .string pattern) ::
      if captures.isEmpty then [] else [("captures".toList, .object (captures.map nameField))])

theorem toJson_eq_layout (rule : Rule) : rule.toJson =
    layout (rule.tags.map StyleTag.placeholders) rule.pattern
      (rule.captures.entries.map fun entry => (entry.1, StyleTag.placeholders entry.2)) := by
  have hfields : rule.captures.entries.map captureField =
      (rule.captures.entries.map fun entry => (entry.1, StyleTag.placeholders entry.2)).map
        nameField := by
    rw [List.map_map]
    rfl
  rw [toJson_eq, fields, layout, hfields, List.isEmpty_map, Dictionary.isEmpty]
  cases rule.tags <;> rfl

theorem legible_layout (name : Option Text) (pattern : Text) (captures : List (Nat × Text)) :
    Legible 3 (layout name pattern captures) := by
  have hname (name : Text) : Legible 1 (.object [("name".toList, .string name)]) := by
    refine .object fun field hmem => ?_
    rw [List.mem_singleton.1 hmem]
    exact .string name
  refine .object fun field hmem => ?_
  rcases List.mem_append.1 hmem with hmem | hmem
  · obtain ⟨name, -, rfl⟩ := Option.map_eq_some_iff.1 (Option.mem_toList.1 hmem)
    exact (Legible.string name).mono (Nat.zero_le 2)
  · rcases List.mem_cons.1 hmem with rfl | hmem
    · exact (Legible.string pattern).mono (Nat.zero_le 2)
    · split at hmem
      · cases hmem
      · rw [List.mem_singleton.1 hmem]
        refine .object fun entry hentry => ?_
        obtain ⟨capture, -, rfl⟩ := List.mem_map.1 hentry
        exact hname capture.2

theorem legible_toJson (rule : Rule) : Legible 3 rule.toJson := by
  rw [toJson_eq_layout]
  exact legible_layout _ _ _

/-- What the fields of a rule tell of the pattern and the calls that it was made with: the key of a
group is its number in decimal, and groups stand in the order of their numbers. -/
structure Describes (pattern : Text) (calls : List Call) (fields : List (Text × Json)) : Prop where
  keys : (fields.map Prod.fst).Sublist ["name".toList, "match".toList, "captures".toList]
  pattern : ("match".toList, .string pattern) ∈ fields
  name : ∀ value, ("name".toList, value) ∈ fields ↔
    (∃ tag, .named tag ∈ calls) ∧ value = .string (StyleTag.placeholders (matchTags calls))
  captures : ∀ value, ("captures".toList, value) ∈ fields ↔
    (∃ index tag, .capture index tag ∈ calls) ∧ ∃ indices : List Nat,
      indices.Pairwise (· < ·) ∧ (∀ index, index ∈ indices ↔ ∃ tag, .capture index tag ∈ calls) ∧
      value = .object (indices.map fun index => (Text.ofNat index,
        .object [("name".toList, .string (StyleTag.placeholders (groupTags calls index)))]))

theorem describes_ofCalls (pattern : Text) (calls : List Call) :
    Describes pattern calls (ofCalls pattern calls).fields where
  keys := keys_fields _
  pattern := match_mem_fields_iff.2 (by rw [pattern_ofCalls])
  name value := by
    rw [name_mem_fields_iff, tags_ofCalls, ← matchTags_ne_nil_iff]
    constructor
    · rintro ⟨tags, htags, rfl⟩
      obtain ⟨hne, rfl⟩ := listed?_eq_some_iff.1 htags
      exact ⟨hne, rfl⟩
    · rintro ⟨hne, rfl⟩
      exact ⟨_, listed?_eq_some_iff.2 ⟨hne, rfl⟩, rfl⟩
  captures value := by
    let keys := (ofCalls pattern calls).captures.keys
    have hascending : keys.Pairwise (· < ·) :=
      List.pairwise_map.2 (ofCalls pattern calls).captures.ascending
    have hvalue : (ofCalls pattern calls).captures.entries.map captureField =
        keys.map fun index => captureField (index, groupTags calls index) := by
      rw [entries_captures_ofCalls, List.map_map]
      rfl
    rw [captures_mem_fields_iff, entries_captures_ne_nil_iff, hvalue]
    refine and_congr_right fun _ => ⟨?_, ?_⟩
    · rintro rfl
      exact ⟨keys, hascending, fun _ => mem_keys_captures_ofCalls, rfl⟩
    · rintro ⟨indices, hindices, hmem, rfl⟩
      have heq : indices = keys := hindices.eq_of_mem_iff hascending fun index => by
        rw [hmem, mem_keys_captures_ofCalls]
      rw [heq]
      rfl

/-- Both written forms of a rule are read as one object, which describes the calls that made it; no
two rules share a written form, and a string is read back from what it puts into a slot. -/
theorem rendered_reads_back :
    (∀ pattern calls, ∃ fields, Describes pattern calls fields ∧
      Json.read? (ofCalls pattern calls).compact = some (.object fields) ∧
      Json.read? (ofCalls pattern calls).pretty = some (.object fields)) ∧
    compact.Injective ∧ pretty.Injective ∧
    ∀ s, Json.read? (Content.text s).render = some (.string s) := by
  have hcompact (rule : Rule) : Json.read? rule.compact = some rule.toJson :=
    rule.legible_toJson.read?_compact (by decide)
  have hpretty (rule : Rule) : Json.read? rule.pretty = some rule.toJson :=
    rule.legible_toJson.read?_pretty (by decide) 0
  refine ⟨fun pattern calls => ?_, fun rule rule' h => ?_, fun rule rule' h => ?_, fun s => ?_⟩
  · exact ⟨_, describes_ofCalls pattern calls, hcompact _, hpretty _⟩
  · have hread := hcompact rule
    rw [h, hcompact] at hread
    exact toJson_injective (Option.some.inj hread).symm
  · have hread := hpretty rule
    rw [h, hpretty] at hread
    exact toJson_injective (Option.some.inj hread).symm
  · exact (Legible.string s).read?_compact (Nat.zero_le _)

end Rule

end Highlight
