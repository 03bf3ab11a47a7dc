import Highlight.Proofs.Template.Pieces

/-!
Composition by pieces. The document is filled, resolved and searched as a whole; the outcome is what
comes of filling, resolving and searching every piece alone, and an error is the first in the order
unused content, slot without content, style tag without classification, token left over.
-/

namespace Highlight.Compositor

variable {c : Compositor} {template : Template} {segments : List Segment} {name out : Text}
  {e : Error}

/-- Content that the template has no slot for. -/
def Unused (c : Compositor) (template : Template) (name : Text) : Prop :=
  name ∈ c.substitutions.names ∧ name ∉ template.slots

/-- What a document is, piece by piece: the content has slots, the slots have content, every piece
alone resolves its style tags, and no piece is left with a token in it. -/
structure Piecewise (c : Compositor) (template : Template) (out : Text) : Prop where
  used : ∀ name, ¬c.Unused template name
  pieces : ∃ pieces resolved : List Text,
    template.segments.map c.piece? = pieces.map some ∧
    pieces.map c.styles.resolve = resolved.map .ok ∧
    (∀ piece ∈ resolved, TokenShape.any.first? piece = none) ∧
    out = resolved.flatten

/-- What goes wrong first. -/
inductive FirstFault (c : Compositor) (template : Template) : Error → Prop
  | unused {name : Text} (hname : c.Unused template name)
      (hleast : ∀ other, c.Unused template other → other = name ∨ name < other) :
      FirstFault c template (.malformedTemplate (.missingSlot (slotToken name)))
  | unfilled {name : Text} (hused : ∀ name, ¬c.Unused template name)
      (hname : FirstOf (c.piece? · = none) template.segments (.slot name)) :
      FirstFault c template (.unresolvedPlaceholder (slotToken name))
  | unmapped {pieces : List Text} {tag : Text} (hused : ∀ name, ¬c.Unused template name)
      (hpieces : template.segments.map c.piece? = pieces.map some)
      (htag : FirstOf c.styles.Unmapped (pieces.flatMap TokenShape.style.scan) (.token tag)) :
      FirstFault c template (.unresolvedPlaceholder (TokenShape.style.spell tag))
  | leftover {pieces resolved : List Text} {name : Text}
      (hused : ∀ name, ¬c.Unused template name)
      (hpieces : template.segments.map c.piece? = pieces.map some)
      (hresolved : pieces.map c.styles.resolve = resolved.map .ok)
      (hname : FirstOf Piece.IsToken (resolved.flatMap TokenShape.any.scan) (.token name)) :
      FirstFault c template (.unresolvedPlaceholder (slotToken name))

theorem hasSlot_iff : template.hasSlot name = true ↔ name ∈ template.slots := decide_eq_true_iff

theorem find?_eq_some_iff_least {p : Text → Bool} {names : List Text}
    (h : names.Pairwise (· < ·)) : names.find? p = some name ↔
      (name ∈ names ∧ p name = true) ∧
        ∀ other, other ∈ names ∧ p other = true → other = name ∨ name < other := by
  induction names with
  | nil => simp
  | cons first names ih =>
      obtain ⟨hfirst, hrest⟩ := List.pairwise_cons.1 h
      by_cases hp : p first = true
      · rw [List.find?_cons_of_pos hp, Option.some.injEq]
        constructor
        · intro heq
          subst heq
          refine ⟨⟨List.mem_cons_self, hp⟩, fun other hother => ?_⟩
          rcases List.mem_cons.1 hother.1 with rfl | hmem
          · exact .inl rfl
          · exact .inr (hfirst other hmem)
        · intro hall
          obtain ⟨⟨hmem, -⟩, hleast⟩ := hall
          rcases List.mem_cons.1 hmem with rfl | hmem
          · rfl
          · have hlt := hfirst name hmem
            rcases hleast first ⟨List.mem_cons_self, hp⟩ with heq | hgt
            · exact heq
            · exact absurd (KeyOrder.trans hlt hgt) (List.lt_irrefl first)
      · have hne {other : Text} (hother : p other = true) : other ≠ first :=
          fun heq => hp (heq ▸ hother)
        rw [List.find?_cons_of_neg hp, ih hrest]
        constructor
        · intro hall
          obtain ⟨⟨hmem, hname⟩, hleast⟩ := hall
          refine ⟨⟨List.mem_cons_of_mem _ hmem, hname⟩, fun other hother => ?_⟩
          have hmem' := (List.mem_cons.1 hother.1).resolve_left (hne hother.2)
          exact hleast other ⟨hmem', hother.2⟩
        · intro hall
          obtain ⟨⟨hmem, hname⟩, hleast⟩ := hall
          refine ⟨⟨(List.mem_cons.1 hmem).resolve_left (hne hname), hname⟩, fun other hother => ?_⟩
          exact hleast other ⟨List.mem_cons_of_mem _ hother.1, hother.2⟩

theorem unused_iff : c.Unused template name ↔
    name ∈ c.substitutions.names ∧ (!template.hasSlot name) = true := by
  rw [Unused, ← hasSlot_iff, Bool.not_eq_true', Bool.not_eq_true]

theorem unused?_eq_none_iff : c.unused? template = none ↔ ∀ name, ¬c.Unused template name := by
  simp only [unused?, List.find?_eq_none, unused_iff, not_and]

theorem unused?_eq_some_iff : c.unused? template = some name ↔
    c.Unused template name ∧ ∀ other, c.Unused template other → other = name ∨ name < other := by
  have hascending : c.substitutions.names.Pairwise (· < ·) :=
    List.pairwise_map.2 c.substitutions.entries.ascending
  simp only [unused?, find?_eq_some_iff_least hascending, unused_iff]

theorem fillSegment_of_some {segment : Segment} {piece : Text} (h : c.piece? segment = some piece) :
    c.fillSegment segment = .ok piece := by
  cases segment with
  | text s =>
      cases h
      rfl
  | slot name =>
      obtain ⟨content, hcontent, rfl⟩ := Option.map_eq_some_iff.1 h
      simp only [fillSegment, hcontent]

theorem fillSegment_of_none {segment : Segment} (h : c.piece? segment = none) :
    ∃ name, segment = .slot name ∧
      c.fillSegment segment = .error (.unresolvedPlaceholder (slotToken name)) := by
  cases segment with
  | text s => cases h
  | slot name =>
      have hcontent : c.substitutions.get? name = none := Option.map_eq_none_iff.1 h
      exact ⟨name, rfl, by simp only [fillSegment, hcontent]⟩

theorem fillSegment_eq_ok_iff {segment : Segment} {piece : Text} :
    c.fillSegment segment = .ok piece ↔ c.piece? segment = some piece := by
  refine ⟨fun h => ?_, fillSegment_of_some⟩
  cases hpiece : c.piece? segment with
  | none =>
      obtain ⟨name, -, hfill⟩ := fillSegment_of_none hpiece
      cases hfill.symm.trans h
  | some other =>
      cases (fillSegment_of_some hpiece).symm.trans h
      rfl

theorem fill_eq_ok_iff : c.fill segments = .ok out ↔
    ∃ pieces : List Text, segments.map c.piece? = pieces.map some ∧ out = pieces.flatten := by
  induction segments generalizing out with
  | nil =>
      constructor
      · intro h
        cases h
        exact ⟨[], rfl, rfl⟩
      · intro hall
        obtain ⟨pieces, hpieces, rfl⟩ := hall
        rw [List.map_eq_nil_iff.1 hpieces.symm]
        rfl
  | cons segment segments ih =>
      simp only [fill, bind_eq_ok_iff, fillSegment_eq_ok_iff]
      constructor
      · intro hall
        obtain ⟨piece, hpiece, rest, hrest, hout⟩ := hall
        cases hout
        obtain ⟨pieces, hpieces, rfl⟩ := ih.1 hrest
        exact ⟨piece :: pieces, by rw [List.map_cons, hpiece, hpieces, List.map_cons], rfl⟩
      · intro hall
        obtain ⟨pieces, hpieces, rfl⟩ := hall
        obtain ⟨first, rest, rfl, hfirst, hrest⟩ := List.map_eq_cons_iff.1 hpieces.symm
        exact ⟨first, hfirst.symm, rest.flatten, ih.2 ⟨rest, hrest.symm, rfl⟩, rfl⟩

theorem fill_eq_error_iff : c.fill segments = .error e ↔
    ∃ name, FirstOf (c.piece? · = none) segments (.slot name) ∧
      e = .unresolvedPlaceholder (slotToken name) := by
  induction segments with
  | nil => simp [fill, firstOf_nil]
  | cons segment segments ih =>
      cases hpiece : c.piece? segment with
      | none =>
          obtain ⟨name, rfl, hfill⟩ := fillSegment_of_none hpiece
          simp only [fill, hfill, bind, Except.bind, Except.error.injEq, firstOf_cons, hpiece,
            true_and, not_true_eq_false, false_and, or_false, Segment.slot.injEq, exists_eq_left]
          exact eq_comm
      | some piece =>
          simp only [fill, fillSegment_of_some hpiece, bind, Except.bind, firstOf_cons, hpiece,
            reduceCtorEq, false_and, not_false_eq_true, true_and, false_or, ← ih]
          cases c.fill segments with
          | error other => rfl
          | ok rest => simp [pure, Except.pure]

theorem first?_flatten_eq_none_iff {resolved : List Text} (h : Spaced resolved) :
    TokenShape.any.first? resolved.flatten = none ↔
      ∀ piece ∈ resolved, TokenShape.any.first? piece = none := by
  simp only [TokenShape.first?_eq_none_iff, h.scan_flatten solid_any, List.mem_flatMap,
    forall_exists_index, and_imp]
  exact ⟨fun h piece hpiece stretch hmem => h stretch piece hpiece hmem,
    fun h stretch piece hpiece hmem => h piece hpiece stretch hmem⟩

theorem compose_of_unused (h : c.unused? template = some name) :
    c.compose template = .error (.malformedTemplate (.missingSlot (slotToken name))) := by
  simp only [compose, h]

theorem compose_of_unfilled (hused : c.unused? template = none)
    (h : c.fill template.segments = .error e) : c.compose template = .error e := by
  simp only [compose, hused, h, bind, Except.bind]

theorem compose_of_unmapped {filled : Text} (hused : c.unused? template = none)
    (hfilled : c.fill template.segments = .ok filled) (h : c.styles.resolve filled = .error e) :
    c.compose template = .error e := by
  simp only [compose, hused, hfilled, h, bind, Except.bind]

theorem compose_of_leftover {filled resolved : Text} (hused : c.unused? template = none)
    (hfilled : c.fill template.segments = .ok filled)
    (hresolved : c.styles.resolve filled = .ok resolved)
    (h : TokenShape.any.first? resolved = some name) :
    c.compose template = .error (.unresolvedPlaceholder (slotToken name)) := by
  simp only [compose, hused, hfilled, hresolved, h, bind, Except.bind]

theorem compose_of_resolved {filled resolved : Text} (hused : c.unused? template = none)
    (hfilled : c.fill template.segments = .ok filled)
    (hresolved : c.styles.resolve filled = .ok resolved)
    (h : TokenShape.any.first? resolved = none) : c.compose template = .ok resolved := by
  simp only [compose, hused, hfilled, hresolved, h, bind, Except.bind]
  rfl

/-- What composition gives is the filled template with its tags resolved, and holds no token. -/
theorem compose_eq_ok_iff : c.compose template = .ok out ↔ c.unused? template = none ∧
    ∃ document, c.fill template.segments = .ok document ∧
      c.styles.resolve document = .ok out ∧ TokenShape.any.first? out = none := by
  constructor
  · intro h
    rw [compose] at h
    split at h
    · cases h
    · next hused =>
        obtain ⟨document, hfill, h⟩ := bind_eq_ok_iff.1 h
        obtain ⟨resolved, hresolve, h⟩ := bind_eq_ok_iff.1 h
        split at h
        · cases h
        · next hfirst =>
            cases h
            exact ⟨hused, document, hfill, hresolve, hfirst⟩
  · intro hall
    obtain ⟨hused, document, hfill, hresolve, hfirst⟩ := hall
    exact compose_of_resolved hused hfill hresolve hfirst

theorem piecewise_or_firstFault (hc : c.Substantial) (h : Alternating template.segments) :
    (∃ out, c.compose template = .ok out ∧ c.Piecewise template out) ∨
      ∃ e, c.compose template = .error e ∧ c.FirstFault template e := by
  cases hunused : c.unused? template with
  | some name =>
      obtain ⟨hname, hleast⟩ := unused?_eq_some_iff.1 hunused
      exact .inr ⟨_, compose_of_unused hunused, .unused hname hleast⟩
  | none =>
      have hused := unused?_eq_none_iff.1 hunused
      cases hfill : c.fill template.segments with
      | error e =>
          obtain ⟨name, hname, rfl⟩ := fill_eq_error_iff.1 hfill
          exact .inr ⟨_, compose_of_unfilled hunused hfill, .unfilled hused hname⟩
      | ok filled =>
          obtain ⟨pieces, hpieces, rfl⟩ := fill_eq_ok_iff.1 hfill
          have hspaced := spaced_of_alternating hc h hpieces
          cases hresolve : c.styles.resolve pieces.flatten with
          | error e =>
              have htag := hresolve
              rw [StyleMap.resolve, hspaced.scan_flatten solid_style,
                StyleMap.resolvePieces_eq_error_iff] at htag
              obtain ⟨tag, htag, rfl⟩ := htag
              exact .inr ⟨_, compose_of_unmapped hunused hfill hresolve,
                .unmapped hused hpieces htag⟩
          | ok out =>
              obtain ⟨resolved, hresolved, rfl⟩ := hspaced.resolve_flatten_eq_ok_iff.1 hresolve
              have hspaced' := hspaced.resolve hresolved
              cases hfirst : TokenShape.any.first? resolved.flatten with
              | some name =>
                  have hname := hfirst
                  rw [TokenShape.first?_eq_some_iff, hspaced'.scan_flatten solid_any] at hname
                  exact .inr ⟨_, compose_of_leftover hunused hfill hresolve hfirst,
                    .leftover hused hpieces hresolved hname⟩
              | none =>
                  have hnone := (first?_flatten_eq_none_iff hspaced').1 hfirst
                  exact .inl ⟨_, compose_of_resolved hunused hfill hresolve hfirst, hused, pieces,
                    resolved, hpieces, hresolved, hnone, rfl⟩

theorem compose_of_piecewise (hc : c.Substantial) (h : Alternating template.segments)
    (hpiecewise : c.Piecewise template out) : c.compose template = .ok out := by
  obtain ⟨hused, pieces, resolved, hpieces, hresolved, hnone, rfl⟩ := hpiecewise
  have hspaced := spaced_of_alternating hc h hpieces
  exact compose_of_resolved (unused?_eq_none_iff.2 hused)
    (fill_eq_ok_iff.2 ⟨pieces, hpieces, rfl⟩)
    (hspaced.resolve_flatten_eq_ok_iff.2 ⟨resolved, hresolved, rfl⟩)
    ((first?_flatten_eq_none_iff (hspaced.resolve hresolved)).2 hnone)

theorem compose_of_firstFault (hc : c.Substantial) (h : Alternating template.segments)
    (hfault : c.FirstFault template e) : c.compose template = .error e := by
  cases hfault with
  | unused hname hleast => exact compose_of_unused (unused?_eq_some_iff.2 ⟨hname, hleast⟩)
  | unfilled hused hname =>
      exact compose_of_unfilled (unused?_eq_none_iff.2 hused) (fill_eq_error_iff.2 ⟨_, hname, rfl⟩)
  | unmapped hused hpieces htag =>
      have hspaced := spaced_of_alternating hc h hpieces
      refine compose_of_unmapped (unused?_eq_none_iff.2 hused)
        (fill_eq_ok_iff.2 ⟨_, hpieces, rfl⟩) ?_
      rw [StyleMap.resolve, hspaced.scan_flatten solid_style,
        StyleMap.resolvePieces_eq_error_iff]
      exact ⟨_, htag, rfl⟩
  | leftover hused hpieces hresolved hname =>
      have hspaced := spaced_of_alternating hc h hpieces
      refine compose_of_leftover (unused?_eq_none_iff.2 hused)
        (fill_eq_ok_iff.2 ⟨_, hpieces, rfl⟩)
        (hspaced.resolve_flatten_eq_ok_iff.2 ⟨_, hresolved, rfl⟩) ?_
      rw [TokenShape.first?_eq_some_iff, (hspaced.resolve hresolved).scan_flatten solid_any]
      exact hname

/-- Composition is piecewise and its errors are exact: it gives a document just where every piece
alone goes well, and that document is the pieces in order; otherwise it fails with what goes wrong
first. -/
theorem compose_piecewise (hc : c.Substantial) (text : Text) :
    (∀ out, c.compose (.ofText text) = .ok out ↔ c.Piecewise (.ofText text) out) ∧
      ∀ e, c.compose (.ofText text) = .error e ↔ c.FirstFault (.ofText text) e := by
  have halternating := alternating_ofText text
  constructor
  · intro out
    refine ⟨fun hout => ?_, compose_of_piecewise hc halternating⟩
    rcases piecewise_or_firstFault hc halternating with ⟨other, hother, h⟩ | ⟨e, he, -⟩
    · cases hout.symm.trans hother
      exact h
    · cases hout.symm.trans he
  · intro e
    refine ⟨fun he => ?_, compose_of_firstFault hc halternating⟩
    rcases piecewise_or_firstFault hc halternating with ⟨out, hout, -⟩ | ⟨other, hother, h⟩
    · cases he.symm.trans hout
    · cases he.symm.trans hother
      exact h

/-- A slot filled with a text that holds a style tag, and the tag itself beside it. -/
theorem compose_piecewise_of_slot :
    ∃ c : Compositor, c.Substantial ∧
      c.Piecewise (.ofText "[\"__S__\", \"__STYLE_A__\"]".toList)
        "[\"x.y, x.y\", \"x.y\"]".toList := by
  let c : Compositor := ⟨⟨Dictionary.empty.insert "A".toList "x.y".toList⟩,
    ⟨Dictionary.empty.insert "S".toList (.text "__STYLE_A__, __STYLE_A__".toList)⟩⟩
  have hc : c.Substantial := substantial_single _ _ fun heq => by cases heq
  have hout : c.compose (.ofText "[\"__S__\", \"__STYLE_A__\"]".toList) =
      .ok "[\"x.y, x.y\", \"x.y\"]".toList := ok_of_toOption (by decide +kernel)
  exact ⟨c, hc, ((compose_piecewise hc _).1 _).1 hout⟩

end Highlight.Compositor
