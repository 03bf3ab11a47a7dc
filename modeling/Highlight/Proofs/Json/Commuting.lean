import Highlight.Proofs.Rule
import Highlight.Proofs.Json.Resolved
import Highlight.Proofs.Tokenless
import Mathlib.Data.Option.Defs

/-!
Resolving style tags and writing JSON commute. No tag is made or hidden by the escapes of a string,
no classification has to be escaped, and no tag reaches over what a value is written with around its
texts; so a written value is resolved as the value is, text by text, and fails with the same tag.
-/

namespace Highlight

namespace StyleMap

variable {m : StyleMap} {b : Char} {front rest more name text : Text}

/-- Resolution is cut at a character that is in no tag, also where it fails. -/
theorem resolve_append_break (hb : isTokenChar b = false) (front rest : Text) :
    m.resolve (front ++ b :: rest) = (do
      let first ← m.resolve front
      let last ← m.resolve rest
      return first ++ b :: last) := by
  simp only [resolve, TokenShape.scan_append_break solid_style hb, resolvePieces_append,
    resolvePieces, resolvePiece, bind, Except.bind]
  cases m.resolvePieces (TokenShape.style.scan front) with
  | error e => rfl
  | ok first => cases m.resolvePieces (TokenShape.style.scan rest) <;> rfl

theorem resolve_join (hb : isTokenChar b = false) (hmore : '_' ∉ more) (texts : List Text) :
    m.resolve (Text.join (b :: more) texts) =
      (texts.mapM m.resolve).map (Text.join (b :: more)) := by
  induction texts with
  | nil => exact resolve_nil
  | cons first texts ih =>
      cases texts with
      | nil =>
          rw [Text.join, List.intercalate_singleton, List.mapM_cons, List.mapM_nil]
          cases m.resolve first with
          | error e => rfl
          | ok first => exact congrArg Except.ok List.intercalate_singleton.symm
      | cons second texts =>
          have hjoin (first second : Text) (texts : List Text) :
              Text.join (b :: more) (first :: second :: texts) =
                first ++ b :: (more ++ Text.join (b :: more) (second :: texts)) := by
            rw [Text.join, List.intercalate_cons_cons, List.append_assoc]
            rfl
          have hsplit : (first :: second :: texts).mapM m.resolve = (do
              let head ← m.resolve first
              let rest ← (second :: texts).mapM m.resolve
              return head :: rest) := List.mapM_cons
          rw [hjoin, resolve_append_break hb, resolve_append_of_not_mem hmore, ih, hsplit]
          cases m.resolve first with
          | error e => rfl
          | ok first =>
              cases hrest : (second :: texts).mapM m.resolve with
              | error e => rfl
              | ok rest =>
                  obtain ⟨second, texts, rfl, -, -⟩ :=
                    List.map_eq_cons_iff.1 (mapM_eq_ok_iff.1 hrest).symm
                  exact congrArg Except.ok (hjoin first second texts).symm

theorem read?_escape_of_none {c : Char} (hc : Json.escapeChar c = [c])
    (hread : TokenShape.style.read? (c :: text) = none) :
    TokenShape.style.read? (c :: Json.escape text) = none := by
  have hescape : Json.escape (c :: text) = c :: Json.escape text := by
    rw [Json.escape_cons, hc, List.singleton_append]
  refine Option.eq_none_iff_forall_ne_some.2 fun ⟨name, rest⟩ hescaped => ?_
  obtain ⟨after, hafter⟩ := Tokenless.exists_append_of_escape
    (TokenShape.isTokenChar_spell solid_style hescaped)
    (hescape.trans (TokenShape.eq_spell_of_read? hescaped).2)
  obtain ⟨hfirst, hspent⟩ := TokenShape.name_of_read? hescaped
  rw [hafter, TokenShape.read?_spell_append ⟨[], rfl⟩ hfirst hspent] at hread
  cases hread

theorem escape_of_read? (hread : TokenShape.style.read? text = some (name, rest)) :
    TokenShape.style.read? (Json.escape text) = some (name, Json.escape rest) := by
  obtain ⟨hfirst, hspent⟩ := TokenShape.name_of_read? hread
  have hplain : ∀ c ∈ TokenShape.style.spell name, Json.IsPlain c := fun c hc =>
    isPlain_of_isTokenChar (TokenShape.isTokenChar_spell solid_style hread c hc)
  rw [(TokenShape.eq_spell_of_read? hread).2, Json.escape_append, Json.escape_of_isPlain hplain]
  exact TokenShape.read?_spell_append ⟨[], rfl⟩ hfirst hspent _

/-- The inside of a string is resolved as its text is. -/
theorem resolve_escape (hm : m.Scoped) (text : Text) :
    m.resolve (Json.escape text) = (m.resolve text).map Json.escape := by
  have hcopied {c : Char} {text : Text}
      (ih : m.resolve (Json.escape text) = (m.resolve text).map Json.escape) :
      (m.resolve (Json.escape text)).map (Json.escapeChar c ++ ·) =
        ((m.resolve text).map (c :: ·)).map Json.escape := by
    rw [ih]
    cases m.resolve text <;> rfl
  fun_induction TokenShape.scan TokenShape.style text with
  | case1 =>
      have hnil : Json.escape [] = [] := rfl
      rw [hnil, resolve_nil]
      rfl
  | case2 c text name rest hread ih =>
      have hescaped := escape_of_read? hread
      cases hmapped : m.classification name with
      | none =>
          rw [resolve_of_unmapped hread hmapped, resolve_of_unmapped hescaped hmapped]
          rfl
      | some classification =>
          have hplain : ∀ c ∈ classification, Json.IsPlain c :=
            fun c hc => isPlain_of_isScopeChar (hm name classification hmapped c hc)
          rw [resolve_of_mapped hread hmapped, resolve_of_mapped hescaped hmapped, ih]
          cases m.resolve rest with
          | error e => rfl
          | ok rest =>
              refine congrArg Except.ok ?_
              rw [Json.escape_append, Json.escape_of_isPlain hplain]
  | case3 c text hread ih =>
      rw [resolve_cons_of_none hread, ← hcopied ih, Json.escape_cons]
      rcases Json.escapeChar_cases c with ⟨-, hc⟩ | ⟨used, hused, hc⟩
      · rw [hc, List.singleton_append, resolve_cons_of_none (read?_escape_of_none hc hread)]
        rfl
      · have hsolid : '_' ∉ '\\' :: used := by simpa using hused.solid
        rw [hc, resolve_append_of_not_mem hsolid]

theorem resolve_quote (hm : m.Scoped) (text : Text) :
    m.resolve (Json.quote text) = (m.resolve text).map Json.quote := by
  have hopening : TokenShape.style.read? (Json.quote text) = none :=
    TokenShape.style_read?_of_ne (by decide) _
  rw [Json.quote] at hopening ⊢
  rw [resolve_cons_of_none hopening, resolve_append_break rfl, resolve_nil, resolve_escape hm]
  cases m.resolve text <;> rfl

mutual

/-- A value with the tags in its texts resolved, in the order in which they are written. -/
def resolveValue (m : StyleMap) : Json → Except Error Json
  | .null => .ok .null
  | .bool value => .ok (.bool value)
  | .number spelling => (m.resolve spelling).map Json.number
  | .string text => (m.resolve text).map Json.string
  | .array items => (resolveItems m items).map Json.array
  | .object fields => (resolveFields m fields).map Json.object

def resolveItems (m : StyleMap) : List Json → Except Error (List Json)
  | [] => .ok []
  | item :: items => do
    let first ← resolveValue m item
    let rest ← resolveItems m items
    return first :: rest

def resolveFields (m : StyleMap) : List (Text × Json) → Except Error (List (Text × Json))
  | [] => .ok []
  | (key, value) :: fields => do
    let key ← m.resolve key
    let value ← resolveValue m value
    let rest ← resolveFields m fields
    return (key, value) :: rest

end

theorem not_mem_newline (level : Nat) : '_' ∉ Json.newline level := by
  simp [Json.newline, List.mem_replicate]

theorem resolve_block {left right : Char} (hleft : isTokenChar left = false)
    (hright : isTokenChar right = false) (level : Nat) (items : List Text) :
    m.resolve (Json.block left right level items) =
      (items.mapM m.resolve).map (Json.block left right level) := by
  have hne {b : Char} (hb : isTokenChar b = false) : '_' ≠ b := by
    intro heq
    cases heq ▸ hb
  cases items with
  | nil => exact resolve_of_not_mem (by simp [hne hleft, hne hright] : '_' ∉ [left, right])
  | cons first items =>
      have hblock (first : Text) (items : List Text) :
          Json.block left right level (first :: items) = left :: (Json.newline (level + 1) ++
            (Text.join (',' :: Json.newline (level + 1)) (first :: items) ++
              '\n' :: (List.replicate (2 * level) ' ' ++ [right]))) := by
        simp [Json.block, Json.newline]
      have hend : '_' ∉ List.replicate (2 * level) ' ' ++ [right] := by
        simp [List.mem_replicate, hne hright]
      rw [hblock, resolve_cons_of_none (TokenShape.style_read?_of_ne (hne hleft).symm _),
        resolve_append_of_not_mem (not_mem_newline _), resolve_append_break rfl,
        resolve_join rfl (not_mem_newline _), resolve_of_not_mem hend]
      cases hresolved : (first :: items).mapM m.resolve with
      | error e => rfl
      | ok resolved =>
          obtain ⟨first, items, rfl, -, -⟩ :=
            List.map_eq_cons_iff.1 (mapM_eq_ok_iff.1 hresolved).symm
          exact congrArg Except.ok (hblock first items).symm

mutual

theorem resolve_pretty (hm : m.Scoped) (level : Nat) (value : Json) :
    m.resolve (value.pretty level) = (m.resolveValue value).map (Json.pretty level) := by
  cases value with
  | null => exact resolve_of_not_mem (by decide : '_' ∉ "null".toList)
  | bool value =>
      cases value with
      | true => exact resolve_of_not_mem (by decide : '_' ∉ "true".toList)
      | false => exact resolve_of_not_mem (by decide : '_' ∉ "false".toList)
  | number spelling =>
      rw [Json.pretty, resolveValue]
      cases m.resolve spelling <;> rfl
  | string text =>
      rw [Json.pretty, resolveValue, resolve_quote hm]
      cases m.resolve text <;> rfl
  | array items =>
      rw [Json.pretty, resolveValue, resolve_block rfl rfl, resolve_prettyItems hm]
      cases m.resolveItems items <;> rfl
  | object fields =>
      rw [Json.pretty, resolveValue, resolve_block rfl rfl, resolve_prettyFields hm]
      cases m.resolveFields fields <;> rfl

theorem resolve_prettyItems (hm : m.Scoped) (level : Nat) (items : List Json) :
    (Json.prettyItems level items).mapM m.resolve =
      (m.resolveItems items).map (Json.prettyItems level) := by
  cases items with
  | nil => rfl
  | cons item items =>
      rw [Json.prettyItems, List.mapM_cons, resolveItems, resolve_pretty hm,
        resolve_prettyItems hm]
      cases m.resolveValue item with
      | error e => rfl
      | ok first => cases m.resolveItems items <;> rfl

theorem resolve_prettyFields (hm : m.Scoped) (level : Nat) (fields : List (Text × Json)) :
    (Json.prettyFields level fields).mapM m.resolve =
      (m.resolveFields fields).map (Json.prettyFields level) := by
  cases fields with
  | nil => rfl
  | cons field fields =>
      obtain ⟨key, value⟩ := field
      have hblank : TokenShape.style.read? (' ' :: value.pretty level) = none :=
        TokenShape.style_read?_of_ne (by decide) _
      rw [Json.prettyFields, List.mapM_cons, resolveFields, resolve_append_break rfl,
        resolve_quote hm, resolve_cons_of_none hblank, resolve_pretty hm, resolve_prettyFields hm]
      cases m.resolve key with
      | error e => rfl
      | ok key =>
          cases m.resolveValue value with
          | error e => rfl
          | ok value => cases m.resolveFields fields <;> rfl

end

def Names (m : StyleMap) (tags : List StyleTag) (text : Text) : Prop :=
  ∃ classifications, List.Forall₂ (fun tag classification =>
      m.classification tag.name = some classification) tags classifications ∧
    text = Text.join [' '] classifications

theorem resolve_placeholder_eq_ok_iff {tag : StyleTag} :
    m.resolve tag.placeholder = .ok text ↔ m.classification tag.name = some text :=
  resolve_spell_eq_ok_iff tag.spells_name

theorem resolve_placeholders_eq_ok_iff {tags : List StyleTag} :
    m.resolve (StyleTag.placeholders tags) = .ok text ↔ m.Names tags text := by
  rw [StyleTag.placeholders, resolve_join rfl (by decide), map_eq_ok_iff]
  refine exists_congr fun classifications => and_congr ?_ eq_comm
  rw [mapM_eq_ok_iff_forall₂, List.forall₂_map_left_iff]
  simp only [resolve_placeholder_eq_ok_iff]

theorem resolve_ofNat (n : Nat) : m.resolve (Text.ofNat n) = .ok (Text.ofNat n) := by
  refine resolve_of_not_mem fun hmem => ?_
  cases Nat.isDigit_of_mem_toDigits (by decide) (by decide) hmem

def resolveName (m : StyleMap) (capture : Nat × Text) : Except Error (Nat × Text) :=
  (m.resolve capture.2).map (Prod.mk capture.1)

theorem resolveFields_map_nameField (captures : List (Nat × Text)) :
    m.resolveFields (captures.map Rule.nameField) =
      (captures.mapM m.resolveName).map (List.map Rule.nameField) := by
  have hkey : m.resolve "name".toList = .ok "name".toList := resolve_of_not_mem (by decide)
  induction captures with
  | nil => rfl
  | cons capture captures ih =>
      rw [List.map_cons, Rule.nameField, resolveFields, resolve_ofNat, resolveValue, resolveFields,
        hkey, resolveValue, resolveFields, ih, List.mapM_cons, resolveName]
      cases m.resolve capture.2 with
      | error e => rfl
      | ok name => cases captures.mapM m.resolveName <;> rfl

theorem resolveValue_layout (name : Option Text) (pattern : Text) (captures : List (Nat × Text)) :
    m.resolveValue (Rule.layout name pattern captures) = (do
      let name ← name.mapM m.resolve
      let pattern ← m.resolve pattern
      let captures ← captures.mapM m.resolveName
      return Rule.layout name pattern captures) := by
  have hkey {key : Text} (h : '_' ∉ key) : m.resolve key = .ok key := resolve_of_not_mem h
  have hlast : m.resolveFields (if captures.isEmpty then [] else
        [("captures".toList, .object (captures.map Rule.nameField))]) =
      (captures.mapM m.resolveName).map fun names => if names.isEmpty then [] else
        [("captures".toList, .object (names.map Rule.nameField))] := by
    cases captures with
    | nil => rfl
    | cons capture captures =>
        rw [List.isEmpty_cons, if_neg (by decide), resolveFields, hkey (by decide), resolveValue,
          resolveFields_map_nameField, resolveFields]
        cases hnames : (capture :: captures).mapM m.resolveName with
        | error e => rfl
        | ok names =>
            obtain ⟨first, rest, rfl, -, -⟩ :=
              List.map_eq_cons_iff.1 (mapM_eq_ok_iff.1 hnames).symm
            rfl
  have hfields : m.resolveFields (("match".toList, .string pattern) ::
        if captures.isEmpty then [] else
          [("captures".toList, .object (captures.map Rule.nameField))]) = (do
      let pattern ← m.resolve pattern
      let names ← captures.mapM m.resolveName
      return ("match".toList, .string pattern) :: if names.isEmpty then [] else
        [("captures".toList, .object (names.map Rule.nameField))]) := by
    rw [resolveFields, hkey (by decide), resolveValue, hlast]
    cases m.resolve pattern with
    | error e => rfl
    | ok pattern => cases captures.mapM m.resolveName <;> rfl
  rw [Rule.layout, resolveValue]
  cases name with
  | none =>
      rw [Option.map_none, Option.toList_none, List.nil_append, hfields]
      cases m.resolve pattern with
      | error e => rfl
      | ok pattern => cases captures.mapM m.resolveName <;> rfl
  | some name =>
      have hname : (some name).mapM m.resolve = (m.resolve name).map some := rfl
      rw [Option.map_some, Option.toList_some, List.singleton_append, resolveFields,
        hkey (by decide), resolveValue, hfields, hname]
      cases m.resolve name with
      | error e => rfl
      | ok name =>
          cases m.resolve pattern with
          | error e => rfl
          | ok pattern => cases captures.mapM m.resolveName <;> rfl

theorem mapM_resolve_eq_ok_iff {tags : Option (List StyleTag)} {name : Option Text} :
    (tags.map StyleTag.placeholders).mapM m.resolve = .ok name ↔ Option.Rel m.Names tags name := by
  cases tags with
  | none =>
      cases name with
      | none => exact iff_of_true rfl .none
      | some name => exact iff_of_false nofun nofun
  | some tags =>
      have hmap : ((some tags).map StyleTag.placeholders).mapM m.resolve =
          (m.resolve (StyleTag.placeholders tags)).map some := rfl
      rw [hmap, map_eq_ok_iff]
      simp only [resolve_placeholders_eq_ok_iff]
      constructor
      · rintro ⟨name, hname, rfl⟩
        exact .some hname
      · rintro ⟨hname⟩
        exact ⟨_, hname, rfl⟩

theorem mapM_resolveName_eq_ok_iff {entries : List (Nat × List StyleTag)}
    {captures : List (Nat × Text)} :
    (entries.map fun entry => (entry.1, StyleTag.placeholders entry.2)).mapM m.resolveName =
      .ok captures ↔
    List.Forall₂ (fun entry capture => capture.1 = entry.1 ∧ m.Names entry.2 capture.2)
      entries captures := by
  rw [mapM_eq_ok_iff_forall₂, List.forall₂_map_left_iff]
  have hentry (entry : Nat × List StyleTag) (capture : Nat × Text) :
      m.resolveName (entry.1, StyleTag.placeholders entry.2) = .ok capture ↔
        capture.1 = entry.1 ∧ m.Names entry.2 capture.2 := by
    rw [resolveName, map_eq_ok_iff]
    simp only [resolve_placeholders_eq_ok_iff]
    constructor
    · rintro ⟨name, hname, rfl⟩
      exact ⟨rfl, hname⟩
    · rintro ⟨hindex, hname⟩
      exact ⟨_, hname, Prod.ext hindex.symm rfl⟩
  simp only [hentry]

/-- Resolving what is written is writing what is resolved. The string for a text is resolved to the
string for the resolved text, or fails as the text does. A rule is resolved where its tags and the
tags in its pattern are mapped, and what comes out is read as the rule with its pattern resolved and
with classifications in the place of tags. -/
theorem resolve_rendered {pairs : List (Text × Text)} {m : StyleMap}
    (h : StyleMap.ofPairs pairs = .ok m) :
    (∀ text, m.resolve (Json.quote text) = (m.resolve text).map Json.quote) ∧
    ∀ (rule : Rule) (out : Text), m.resolve rule.pretty = .ok out ↔
      ∃ name pattern captures, Option.Rel m.Names rule.tags name ∧
        m.resolve rule.pattern = .ok pattern ∧
        List.Forall₂ (fun entry capture => capture.1 = entry.1 ∧ m.Names entry.2 capture.2)
          rule.captures.entries captures ∧
        out = (Rule.layout name pattern captures).pretty 0 ∧
        Json.read? out = some (Rule.layout name pattern captures) := by
  have hm := scoped_of_ofPairs h
  refine ⟨resolve_quote hm, fun rule out => ?_⟩
  have hread (name : Option Text) (pattern : Text) (captures : List (Nat × Text)) :
      Json.read? ((Rule.layout name pattern captures).pretty 0) =
        some (Rule.layout name pattern captures) :=
    (Rule.legible_layout name pattern captures).read?_pretty (by decide) 0
  rw [Rule.pretty, resolve_pretty hm, Rule.toJson_eq_layout, resolveValue_layout, map_eq_ok_iff]
  simp only [bind_eq_ok_iff, mapM_resolve_eq_ok_iff, mapM_resolveName_eq_ok_iff]
  constructor
  · rintro ⟨_, ⟨name, hname, pattern, hpattern, captures, hcaptures, ⟨⟩⟩, rfl⟩
    exact ⟨name, pattern, captures, hname, hpattern, hcaptures, rfl, hread _ _ _⟩
  · rintro ⟨name, pattern, captures, hname, hpattern, hcaptures, rfl, -⟩
    exact ⟨_, ⟨name, hname, pattern, hpattern, captures, hcaptures, rfl⟩, rfl⟩

/-- Tags beside characters that a string escapes, and a group with two tags. -/
theorem resolve_rendered_beside_escapes :
    ∃ m, StyleMap.ofPairs
        [("PROP_NAME".toList, "x.y".toList), ("INVALID".toList, "a b".toList)] = .ok m ∧
      m.resolve (Json.quote "\"\\__STYLE_INVALID__\n".toList) =
        .ok (Json.quote "\"\\a b\n".toList) ∧
      m.resolve ((((Rule.ofPattern "\\s__STYLE_INVALID__".toList).named .invalid).capture 2
          .propName).capture 2 .invalid).pretty =
        .ok ((Rule.layout (some "a b".toList) "\\sa b".toList [(2, "x.y a b".toList)]).pretty 0) := by
  let m : StyleMap := ⟨(Dictionary.empty.insert "PROP_NAME".toList "x.y".toList).insert
    "INVALID".toList "a b".toList⟩
  have hm : StyleMap.ofPairs
      [("PROP_NAME".toList, "x.y".toList), ("INVALID".toList, "a b".toList)] = .ok m := rfl
  obtain ⟨hquote, hrule⟩ := resolve_rendered hm
  refine ⟨m, hm, ?_, ?_⟩
  · have htext : m.resolve "\"\\__STYLE_INVALID__\n".toList = .ok "\"\\a b\n".toList :=
      ok_of_toOption (by decide +kernel)
    rw [hquote, htext]
    rfl
  · have hpattern : m.resolve "\\s__STYLE_INVALID__".toList = .ok "\\sa b".toList :=
      ok_of_toOption (by decide +kernel)
    exact (hrule _ _).2 ⟨_, _, _, .some ⟨["a b".toList], .cons rfl .nil, rfl⟩, hpattern,
      .cons ⟨rfl, ["x.y".toList, "a b".toList], .cons rfl (.cons rfl .nil), rfl⟩ .nil, rfl,
      (Rule.legible_layout _ _ _).read?_pretty (by decide) 0⟩

end StyleMap

end Highlight
