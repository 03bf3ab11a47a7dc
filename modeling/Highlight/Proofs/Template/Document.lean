import Highlight.Proofs.Template.Slots

/-!
Composition of JSON documents. The outline of a document is the same before and after its slots are
filled, for rules take the place of one item of an array and a text that of one string; resolving
style tags changes nothing but the spelling of strings.
-/

namespace Highlight.Compositor

open Json

variable {c : Compositor} {template : Template} {tokens filled : List Token}

theorem due_of_step_string {around : List Bracket} {due : Due} {s : Text} {next : Outline}
    (h : Outline.step ⟨.array :: around, due⟩ (.string s) = some next) :
    (due = .value ∨ due = .firstItem) ∧ next = ⟨.array :: around, .after⟩ := by
  cases due with
  | value =>
      cases h
      exact ⟨.inl rfl, rfl⟩
  | firstItem =>
      cases h
      exact ⟨.inr rfl, rfl⟩
  | _ => cases h

/-- Content takes the place of its slot. -/
theorem run_content {content : Content} {outline next : Outline} {s : Text}
    (hne : content ≠ .rules [])
    (harray : ∀ list, content = .rules list → outline.around.head? = some .array)
    (h : outline.step (.string s) = some next) : outline.run content.tokens = some next := by
  cases content with
  | text t =>
      rw [outline.step_string s (Json.escape t)] at h
      exact Option.bind_eq_some_iff.2 ⟨next, h, rfl⟩
  | rules list =>
      obtain ⟨around, due⟩ := outline
      obtain ⟨around, rfl⟩ := List.head?_eq_some_iff.1 (harray list rfl)
      obtain ⟨hdue, rfl⟩ := due_of_step_string h
      exact Content.run_rules (by simpa using hne) around hdue

/-- A filled template has the outline of the template: what stands ahead of each slot decides that
its content fits there. -/
theorem Fills.run_eq (hc : c.Substantial) (hfits : c.Fits template)
    (halternating : Alternating template.segments)
    (hnames : ∀ name, .slot name ∈ template.segments → ∀ c ∈ name, isTokenChar c = true)
    {before after : List Segment} {ahead ahead' : List Token} {outline last : Outline}
    (hafter : c.Fills after tokens filled) (hbefore : c.Fills before ahead ahead')
    (hsegments : template.segments = before ++ after)
    (hahead : Outline.initial.run ahead = some outline) (h : outline.run tokens = some last) :
    outline.run filled = some last := by
  induction hafter generalizing before ahead ahead' outline with
  | nil => exact h
  | @text s between tokens filled segments hs hafter ih =>
      rw [Outline.run_append] at h ⊢
      obtain ⟨next, hnext, h⟩ := Option.bind_eq_some_iff.1 h
      have hfront := hbefore.append (.text hs .nil)
      rw [List.append_nil] at hfront
      rw [hnext, Option.bind_some]
      refine ih hfront (by simp [hsegments]) ?_ h
      rw [Outline.run_append, hahead]
      exact hnext
  | @slot name content tokens filled segments hcontent hafter ih =>
      obtain ⟨next, hnext, h⟩ := Option.bind_eq_some_iff.1 h
      have hfront := hbefore.append (.slot hcontent .nil)
      have hne : content ≠ .rules [] := fun heq => hc name (heq ▸ hcontent)
      have harray : ∀ list, content = .rules list → outline.around.head? = some .array := by
        rintro list rfl
        obtain ⟨other, hother, hplace⟩ := hfits before name segments hsegments
        rw [hsegments] at halternating hnames
        have htokens := hbefore.tokens?_spell (alternating_front halternating)
          fun name hmem => hnames name (List.mem_append_left _ hmem)
        cases htokens.symm.trans hother
        have hwell := (tokens?_eq_some_iff.1 hother).wellFormed
        obtain ⟨around, due, hplace⟩ := (hplace list hcontent).outline hwell
        cases hahead.symm.trans hplace
        rfl
      rw [Outline.run_append, run_content hne harray hnext, Option.bind_some]
      refine ih hfront (by simp [hsegments]) ?_ h
      rw [Outline.run_append, hahead, Option.bind_some, Outline.run, hnext]
      rfl

theorem fill_of_compose {out : Text} (h : c.compose template = .ok out) :
    ∃ document, c.fill template.segments = .ok document ∧ c.styles.resolve document = .ok out := by
  obtain ⟨-, document, hfill, hresolve, -⟩ := compose_eq_ok_iff.1 h
  exact ⟨document, hfill, hresolve⟩

/-- A document whose slots are strings can be filled token by token. -/
theorem exists_fills_of_fits {text document : Text} {all : List Token}
    (hfits : c.Fits (.ofText text)) (hall : tokens? text = some all)
    (hfill : c.fill (Template.ofText text).segments = .ok document) :
    ∃ filled, c.Fills (Template.ofText text).segments all filled := by
  have halternating := alternating_ofText text
  have hnames (name : Text) (hmem : .slot name ∈ (Template.ofText text).segments) :=
    Template.isTokenChar_slot hmem
  rw [← Template.spell_ofText text] at hall
  have htexts : ∀ s, .text s ∈ (Template.ofText text).segments →
      ∃ between, tokens? s = some between := by
    intro s hmem
    obtain ⟨before, after, hsegments⟩ := List.append_of_mem hmem
    exact exists_tokens?_text hfits halternating hall hnames hsegments
  obtain ⟨tokens, filled, hfills⟩ := exists_fills hfill htexts
  cases hall.symm.trans (hfills.tokens?_spell halternating hnames)
  exact ⟨filled, hfills⟩

/-- Composition keeps a document a document. Its tokens are those of the template with every slot
replaced by its content, rules by their objects and a text by one string, and with the style tags in
strings resolved. -/
theorem compose_document {pairs : List (Text × Text)} {text out : Text} {limit : Nat} {value : Json}
    (hstyles : StyleMap.ofPairs pairs = .ok c.styles)
    (hdocument : Json.readWithin? limit text = some value) (hc : c.Substantial)
    (hfits : c.Fits (.ofText text)) (hout : c.compose (.ofText text) = .ok out) :
    ∃ tokens filled resolved, tokens? text = some tokens ∧
      c.Fills (Template.ofText text).segments tokens filled ∧
      filled.map c.styles.resolveToken = resolved.map .ok ∧
      tokens? out = some resolved ∧ ∃ limit, (Json.readWithin? limit out).isSome := by
  have halternating := alternating_ofText text
  have hnames (name : Text) (hmem : .slot name ∈ (Template.ofText text).segments) :=
    Template.isTokenChar_slot hmem
  obtain ⟨all, hall, hread⟩ := Option.bind_eq_some_iff.1 hdocument
  obtain ⟨document, hfill, hresolve⟩ := fill_of_compose hout
  obtain ⟨filled, hfills⟩ := exists_fills_of_fits hfits hall hfill
  have hfilled := hfills.tokens?_fill hc halternating hfill
  obtain ⟨resolved, hresolved, hlexes⟩ :=
    (tokens?_eq_some_iff.1 hfilled).resolve (StyleMap.scoped_of_ofPairs hstyles) hresolve
  have hclosed := (isSome_ofTokens?_iff (tokens?_eq_some_iff.1 hall).wellFormed).1
    ⟨limit, Option.isSome_of_mem hread⟩
  have hrun := hfills.run_eq hc hfits halternating hnames .nil rfl rfl hclosed
  rw [← run_resolveToken hresolved] at hrun
  obtain ⟨limit', hvalid⟩ := (isSome_ofTokens?_iff hlexes.wellFormed).2 hrun
  have hlexed := tokens?_eq_some_iff.2 hlexes
  refine ⟨all, filled, resolved, hall, hfills, hresolved, hlexed, limit', ?_⟩
  rw [Json.readWithin?, hlexed]
  exact hvalid

/-- A rule as the item of an inner array, and a style tag beside it. -/
theorem compose_document_of_rule :
    ∃ (c : Compositor) (tokens filled resolved : List Token),
      tokens? "[[\"__R__\"], \"__STYLE_PROP_NAME__\"]".toList = some tokens ∧
      c.Fills (Template.ofText "[[\"__R__\"], \"__STYLE_PROP_NAME__\"]".toList).segments
        tokens filled ∧
      filled.map c.styles.resolveToken = resolved.map .ok ∧
      tokens? "[[\x7b\n  \"name\": \"x.y\",\n  \"match\": \"a\"\n\x7d], \"x.y\"]".toList =
        some resolved := by
  let rule := (Rule.ofPattern "a".toList).named .propName
  let c : Compositor := ⟨⟨Dictionary.empty.insert "PROP_NAME".toList "x.y".toList⟩,
    ⟨Dictionary.empty.insert "R".toList (.rules [rule])⟩⟩
  have hstyles : StyleMap.ofPairs [("PROP_NAME".toList, "x.y".toList)] = .ok c.styles := rfl
  have hread : (Json.readWithin? 2 "[[\"__R__\"], \"__STYLE_PROP_NAME__\"]".toList).isSome := by
    decide +kernel
  obtain ⟨value, hdocument⟩ := Option.isSome_iff_exists.1 hread
  have hc : c.Substantial := substantial_single _ _ fun heq => by cases heq
  have hsegments : (Template.ofText "[[\"__R__\"], \"__STYLE_PROP_NAME__\"]".toList).segments =
      [.text "[[".toList, .slot "R".toList, .text "], \"__STYLE_PROP_NAME__\"]".toList] := by
    decide +kernel
  have hfits : c.Fits (.ofText "[[\"__R__\"], \"__STYLE_PROP_NAME__\"]".toList) := by
    intro before name after h
    rw [hsegments] at h
    cases before with
    | nil => cases h
    | cons first before =>
        cases before with
        | nil =>
            cases h
            exact ⟨[.openArray, .openArray], by decide +kernel,
              fun _ _ => ⟨2, [], [.array []], .firstItem, rfl⟩⟩
        | cons second before =>
            cases before with
            | nil => cases h
            | cons third before => simp at h
  have hout : c.compose (.ofText "[[\"__R__\"], \"__STYLE_PROP_NAME__\"]".toList) =
      .ok "[[\x7b\n  \"name\": \"x.y\",\n  \"match\": \"a\"\n\x7d], \"x.y\"]".toList :=
    ok_of_toOption (by decide +kernel)
  obtain ⟨tokens, filled, resolved, htokens, hfills, hresolved, hlexed, -⟩ :=
    compose_document hstyles hdocument hc hfits hout
  exact ⟨c, tokens, filled, resolved, htokens, hfills, hresolved, hlexed⟩

end Highlight.Compositor
