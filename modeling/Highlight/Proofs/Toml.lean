import Mathlib.Data.List.Nodup
import Highlight.Proofs.Outcome
import Highlight.Toml.Document

/-!
Settings files define nothing twice. Distinct keys are kept by every change that a statement makes,
at whatever depth, and values are read with distinct keys; so what a file says of a key is the one
entry for it.
-/

namespace Highlight.Toml

inductive Item.Distinct : Item → Prop
  | string (s : Text) : Distinct (.string s)
  | scalar : Distinct .scalar
  | array {items : List Item} (h : ∀ item ∈ items, item.Distinct) : Distinct (.array items)
  | inline {entries : List (Text × Item)} (hkeys : (entries.map Prod.fst).Nodup)
      (h : ∀ entry ∈ entries, entry.2.Distinct) : Distinct (.inline entries)
  | table {origin : Origin} {entries : List (Text × Item)} (hkeys : (entries.map Prod.fst).Nodup)
      (h : ∀ entry ∈ entries, entry.2.Distinct) : Distinct (.table origin entries)
  | tables {list : List (List (Text × Item))}
      (hkeys : ∀ entries ∈ list, (entries.map Prod.fst).Nodup)
      (h : ∀ entries ∈ list, ∀ entry ∈ entries, entry.2.Distinct) : Distinct (.tables list)

namespace Entries

/-- Keys of their own, and items that have them too. -/
structure Distinct (entries : Entries) : Prop where
  keys : (entries.map Prod.fst).Nodup
  items : ∀ entry ∈ entries, entry.2.Distinct

variable {entries inner last : Entries} {list : List Entries} {item : Item} {key step : Text}
  {path : List Text} {origin : Origin} {extensible : Bool} {act : Entries → Option Entries}

theorem Distinct.nil : Distinct [] := ⟨.nil, nofun⟩

theorem Distinct.inline (h : entries.Distinct) : (Item.inline entries).Distinct :=
  .inline h.keys h.items

theorem Distinct.table (h : entries.Distinct) : (Item.table origin entries).Distinct :=
  .table h.keys h.items

theorem distinct_tables_iff : (Item.tables list).Distinct ↔ ∀ entries ∈ list, entries.Distinct := by
  constructor
  · rintro (_ | _ | _ | _ | _ | ⟨hkeys, h⟩) entries hmem
    exact ⟨hkeys entries hmem, h entries hmem⟩
  · intro h
    exact .tables (fun entries hmem => (h entries hmem).keys) fun entries hmem =>
      (h entries hmem).items

theorem distinct_of_table (h : (Item.table origin entries).Distinct) : entries.Distinct := by
  obtain _ | _ | _ | _ | ⟨hkeys, h⟩ | _ := h
  exact ⟨hkeys, h⟩

theorem distinct_of_inline (h : (Item.inline entries).Distinct) : entries.Distinct := by
  obtain _ | _ | _ | ⟨hkeys, h⟩ | _ | _ := h
  exact ⟨hkeys, h⟩

theorem get?_eq_none_iff : entries.get? key = none ↔ key ∉ entries.map Prod.fst := by
  rw [get?, Option.map_eq_none_iff, List.find?_eq_none, List.mem_map, not_exists]
  refine forall_congr' fun entry => ?_
  rw [decide_eq_true_eq, not_and]

theorem mem_of_get? (h : entries.get? key = some item) : (key, item) ∈ entries := by
  obtain ⟨entry, hfind, rfl⟩ := Option.map_eq_some_iff.1 h
  have hkey : entry.1 = key := by simpa using List.find?_some hfind
  exact hkey ▸ List.mem_of_find?_eq_some hfind

theorem Distinct.get?_eq_some_iff (h : entries.Distinct) :
    entries.get? key = some item ↔ (key, item) ∈ entries := by
  refine ⟨mem_of_get?, fun hmem => ?_⟩
  cases hget : entries.get? key with
  | none => exact absurd (List.mem_map_of_mem hmem) (get?_eq_none_iff.1 hget)
  | some other =>
      have hsame := List.inj_on_of_nodup_map h.keys (mem_of_get? hget) hmem rfl
      exact congrArg (fun entry => some entry.2) hsame

theorem Distinct.get? (h : entries.Distinct) (hget : entries.get? key = some item) :
    item.Distinct := h.items _ (mem_of_get? hget)

theorem mem_keys_put {other : Text} :
    other ∈ (entries.put key item).map Prod.fst ↔ other = key ∨ other ∈ entries.map Prod.fst := by
  induction entries with
  | nil => simp [put]
  | cons entry entries ih =>
      rw [put]
      split
      · next heq => simp [heq]
      · rw [List.map_cons, List.mem_cons, ih, List.map_cons, List.mem_cons, or_left_comm]

theorem Distinct.put (h : entries.Distinct) (hitem : item.Distinct) :
    (entries.put key item).Distinct := by
  induction entries with
  | nil => exact ⟨List.pairwise_singleton _ _, List.forall_mem_singleton.2 hitem⟩
  | cons entry entries ih =>
      obtain ⟨hkey, hkeys⟩ := List.nodup_cons.1 h.keys
      obtain ⟨hfirst, hrest⟩ := List.forall_mem_cons.1 h.items
      rw [Entries.put]
      split
      · next heq =>
          exact ⟨List.nodup_cons.2 ⟨heq ▸ hkey, hkeys⟩, List.forall_mem_cons.2 ⟨hitem, hrest⟩⟩
      · next hne =>
          obtain ⟨hkeys', hitems'⟩ := ih ⟨hkeys, hrest⟩
          refine ⟨List.nodup_cons.2 ⟨fun hmem => ?_, hkeys'⟩,
            List.forall_mem_cons.2 ⟨hfirst, hitems'⟩⟩
          exact (mem_keys_put.1 hmem).elim hne hkey

theorem Distinct.putLast (h : entries.Distinct) (hlist : (Item.tables list).Distinct)
    (hlast : last.Distinct) : (entries.putLast step list last).Distinct := by
  refine h.put (distinct_tables_iff.2 fun inner hmem => ?_)
  rcases List.mem_append.1 hmem with hmem | hmem
  · exact distinct_tables_iff.1 hlist inner (List.dropLast_subset list hmem)
  · cases List.mem_singleton.1 hmem
    exact hlast

theorem distinct_of_getLast? (hlist : (Item.tables list).Distinct)
    (hlast : list.getLast? = some last) : last.Distinct :=
  distinct_tables_iff.1 hlist last (List.mem_of_getLast? hlast)

theorem Distinct.snoc (h : entries.Distinct) (hitem : item.Distinct)
    (hnew : key ∉ entries.map Prod.fst) : (entries ++ [(key, item)]).Distinct := by
  constructor
  · rw [List.map_append, List.nodup_append]
    refine ⟨h.keys, List.pairwise_singleton _ _, fun first hfirst other hother => ?_⟩
    rintro rfl
    cases List.mem_singleton.1 hother
    exact hnew hfirst
  · intro entry hmem
    rcases List.mem_append.1 hmem with hmem | hmem
    · exact h.items entry hmem
    · cases List.mem_singleton.1 hmem
      exact hitem

theorem Distinct.define (h : entries.Distinct) (hitem : item.Distinct)
    (hdefine : define key item path extensible entries = some inner) : inner.Distinct := by
  induction path generalizing extensible entries inner with
  | nil =>
      rw [Entries.define] at hdefine
      split at hdefine
      · next hnew =>
          cases hdefine
          obtain ⟨-, hnone⟩ := Bool.and_eq_true_iff.1 hnew
          exact h.snoc hitem (get?_eq_none_iff.1 (Option.isNone_iff_eq_none.1 hnone))
      · cases hdefine
  | cons step path ih =>
      rw [Entries.define] at hdefine
      split at hdefine
      · obtain ⟨below, hbelow, rfl⟩ := Option.map_eq_some_iff.1 hdefine
        exact h.put (ih .nil hbelow).table
      · cases hdefine
      · next below _ hget =>
          obtain ⟨next, hnext, rfl⟩ := Option.map_eq_some_iff.1 hdefine
          exact h.put (ih (distinct_of_table (h.get? hget)) hnext).table
      · next list hget =>
          obtain ⟨last, hlast, hdefine⟩ := Option.bind_eq_some_iff.1 hdefine
          obtain ⟨next, hnext, rfl⟩ := Option.map_eq_some_iff.1 hdefine
          have hlist := h.get? hget
          exact h.putLast hlist (ih (distinct_of_getLast? hlist hlast) hnext)
      · cases hdefine

/-- A change of the table that a path leads to keeps keys distinct in all tables, if it does so in
that one. -/
theorem Distinct.change (hact : ∀ entries inner : Entries, entries.Distinct →
      act entries = some inner → inner.Distinct) (h : entries.Distinct)
    (hchange : entries.change act path = some inner) : inner.Distinct := by
  induction path generalizing entries inner with
  | nil => exact hact entries inner h hchange
  | cons step path ih =>
      rw [Entries.change] at hchange
      split at hchange
      · obtain ⟨below, hbelow, rfl⟩ := Option.map_eq_some_iff.1 hchange
        exact h.put (ih .nil hbelow).table
      · next below hget =>
          obtain ⟨next, hnext, rfl⟩ := Option.map_eq_some_iff.1 hchange
          exact h.put (ih (distinct_of_table (h.get? hget)) hnext).table
      · next list hget =>
          obtain ⟨last, hlast, hchange⟩ := Option.bind_eq_some_iff.1 hchange
          obtain ⟨next, hnext, rfl⟩ := Option.map_eq_some_iff.1 hchange
          have hlist := h.get? hget
          exact h.putLast hlist (ih (distinct_of_getLast? hlist hlast) hnext)
      · cases hchange

theorem Distinct.openTable (h : entries.Distinct) (hopen : entries.openTable key = some inner) :
    inner.Distinct := by
  rw [Entries.openTable] at hopen
  split at hopen
  · cases hopen
    exact h.put Distinct.nil.table
  · next below hget =>
      cases hopen
      exact h.put (distinct_of_table (h.get? hget)).table
  · cases hopen

theorem Distinct.openNext (h : entries.Distinct) (hopen : entries.openNext key = some inner) :
    inner.Distinct := by
  rw [Entries.openNext] at hopen
  split at hopen
  · cases hopen
    exact h.put (distinct_tables_iff.2 (List.forall_mem_singleton.2 .nil))
  · next list hget =>
      cases hopen
      refine h.put (distinct_tables_iff.2 fun entries hmem => ?_)
      rcases List.mem_append.1 hmem with hmem | hmem
      · exact distinct_tables_iff.1 (h.get? hget) entries hmem
      · cases List.mem_singleton.1 hmem
        exact .nil
  · cases hopen

end Entries

/-- All that a reader may read has a property. -/
def Reader.Yields {α : Type} (reader : Reader α) (p : α → Prop) : Prop :=
  ∀ text a rest, reader text = some (a, rest) → p a

namespace Reader.Yields

variable {α β : Type} {reader : Reader α} {next : α → Reader β} {p : α → Prop} {q : β → Prop}
  {step : Reader (Option α)} {a : α}

theorem bind (h : reader.Yields p) (hnext : ∀ a, p a → (next a).Yields q) :
    (reader >>= next).Yields q := by
  intro text b rest hread
  obtain ⟨⟨a, between⟩, ha, hb⟩ := Option.bind_eq_some_iff.1 hread
  exact hnext a (h text a between ha) between b rest hb

theorem after (hnext : ∀ a, (next a).Yields q) : (reader >>= next).Yields q :=
  bind (p := fun _ => True) (fun _ _ _ _ => trivial) fun a _ => hnext a

theorem pure (h : p a) : (Pure.pure a : Reader α).Yields p := by
  intro text b rest hread
  cases hread
  exact h

theorem upTo (h : step.Yields fun read => ∀ a ∈ read, p a) (count : Nat) :
    (Reader.upTo step count).Yields fun list => ∀ a ∈ list, p a := by
  induction count with
  | zero => exact fun _ _ _ hread => by cases hread
  | succ count ih =>
      refine h.bind fun read hread => ?_
      cases read with
      | none => exact pure nofun
      | some a =>
          exact ih.bind fun list hlist => pure (List.forall_mem_cons.2 ⟨hread a rfl, hlist⟩)

theorem many (h : step.Yields fun read => ∀ a ∈ read, p a) :
    (Reader.many step).Yields fun list => ∀ a ∈ list, p a :=
  after fun _ => upTo h _

theorem lift {outcome : Option α} (h : ∀ a ∈ outcome, p a) :
    (liftM outcome : Reader α).Yields p := by
  intro text a rest hread
  obtain ⟨found, hfound, heq⟩ := Option.bind_eq_some_iff.1 hread
  cases heq
  exact h _ hfound

theorem foldlM {list : List β} {f : α → β → Reader α}
    (hf : ∀ a b, p a → q b → (f a b).Yields p) (hlist : ∀ b ∈ list, q b) (ha : p a) :
    (list.foldlM f a).Yields p := by
  induction list generalizing a with
  | nil => exact pure ha
  | cons b list ih =>
      obtain ⟨hb, hrest⟩ := List.forall_mem_cons.1 hlist
      rw [List.foldlM_cons]
      exact (hf a b ha hb).bind fun next hnext => ih hrest hnext

end Reader.Yields

open Reader (Yields)

theorem yields_pair {reader : Reader Item} (h : reader.Yields Item.Distinct) :
    (pair reader).Yields fun read => read.2.2.Distinct :=
  .after fun _ => .after fun _ => .after fun _ => h.bind fun _ hitem => .pure hitem

theorem yields_arrayItems {reader : Reader Item} (h : reader.Yields Item.Distinct) :
    (arrayItems reader).Yields fun items => ∀ item ∈ items, item.Distinct := by
  refine .after fun _ => .many (.after fun closed => ?_)
  cases closed with
  | true => exact .pure nofun
  | false =>
      refine h.bind fun item hitem => .after fun _ => .after fun comma => ?_
      cases comma with
      | true => exact .after fun _ => .pure fun a ha => by cases ha; exact hitem
      | false =>
        exact .after fun _ => .after fun _ => .pure fun a ha => by cases ha; exact hitem

theorem yields_inlineEntries {reader : Reader Item} (h : reader.Yields Item.Distinct) :
    (inlineEntries reader).Yields Entries.Distinct := by
  refine .after fun _ => .after fun closed => ?_
  cases closed with
  | true => exact .pure .nil
  | false =>
      refine (yields_pair h).bind fun first hfirst => .after fun _ => ?_
      refine (Yields.many (p := fun read => read.2.2.Distinct) ?_).bind fun more hmore => ?_
      · refine .after fun closed => ?_
        cases closed with
        | true => exact .pure nofun
        | false =>
            refine .after fun _ => (yields_pair h).bind fun read hread => .after fun _ => ?_
            exact .pure fun a ha => by cases ha; exact hread
      · have hall : ∀ read ∈ first :: more, read.2.2.Distinct :=
          List.forall_mem_cons.2 ⟨hfirst, hmore⟩
        exact .foldlM (fun entries read hentries hread =>
          .lift fun inner hinner => hentries.define hread hinner) hall .nil

theorem yields_leaf : value.leaf.Yields Item.Distinct := by
  refine .after fun next => ?_
  split
  · exact .after fun s => .pure (.string s)
  · exact .after fun s => .pure (.string s)
  · exact .after fun _ => .pure .scalar

theorem yields_value (levels : Nat) : (value levels).Yields Item.Distinct := by
  induction levels with
  | zero => exact yields_leaf
  | succ levels ih =>
      refine .after fun bracket => ?_
      cases bracket with
      | true => exact (yields_arrayItems ih).bind fun items hitems => .pure (.array hitems)
      | false =>
          refine .after fun brace => ?_
          cases brace with
          | true =>
              exact (yields_inlineEntries ih).bind fun entries hentries => .pure hentries.inline
          | false => exact yields_leaf

def Statement.Distinct : Statement → Prop
  | .table _ _ | .next _ _ => True
  | .pair _ _ item => item.Distinct

theorem yields_statement : statement.Yields fun read => ∀ s ∈ read, s.Distinct := by
  refine .after fun _ => .after fun next => ?_
  have htable (read : Statement) (h : read.Distinct) :
      (pure (some read) : Reader (Option Statement)).Yields fun read => ∀ s ∈ read, s.Distinct :=
    .pure fun s hs => by cases hs; exact h
  split
  · exact .after fun _ => .pure nofun
  · exact .after fun _ => .pure nofun
  · exact .after fun _ => .pure nofun
  · exact .after fun _ => .pure nofun
  · refine .after fun double => ?_
    cases double with
    | true => exact .after fun _ => .after fun _ => .after fun _ => htable _ trivial
    | false =>
        exact .after fun _ => .after fun _ => .after fun _ => .after fun _ => htable _ trivial
  · exact (yields_pair (yields_value _)).bind fun read hread => .after fun _ => htable _ hread

theorem yields_statements : statements.Yields fun list => ∀ s ∈ list, s.Distinct := by
  refine .after fun _ => ?_
  refine (Yields.many (p := fun line : Option Statement => ∀ s ∈ line, s.Distinct) ?_).bind
    fun lines hlines => .pure fun s hs => ?_
  · refine .after fun ended => ?_
    cases ended with
    | true => exact .pure nofun
    | false =>
        exact yields_statement.bind fun line hline => .pure fun a ha => by cases ha; exact hline
  · obtain ⟨line, hline, hs⟩ := List.mem_filterMap.1 hs
    exact hlines line hline s hs

theorem Progress.distinct_of_extend {p p' : Progress} {s : Statement} (h : p.entries.Distinct)
    (hs : s.Distinct) (hextend : p.extend s = some p') : p'.entries.Distinct := by
  cases s with
  | table path name =>
      obtain ⟨entries, hchange, rfl⟩ := Option.map_eq_some_iff.1 hextend
      exact h.change (fun _ _ hentries => hentries.openTable) hchange
  | next path name =>
      obtain ⟨entries, hchange, rfl⟩ := Option.map_eq_some_iff.1 hextend
      exact h.change (fun _ _ hentries => hentries.openNext) hchange
  | pair path name item =>
      obtain ⟨entries, hchange, rfl⟩ := Option.map_eq_some_iff.1 hextend
      exact h.change (fun _ _ hentries hdefine => hentries.define hs hdefine) hchange

theorem Progress.distinct_of_foldlM {p p' : Progress} {list : List Statement}
    (h : p.entries.Distinct) (hlist : ∀ s ∈ list, s.Distinct)
    (hfold : list.foldlM Progress.extend p = some p') : p'.entries.Distinct := by
  induction list generalizing p with
  | nil =>
      cases hfold
      exact h
  | cons s list ih =>
      obtain ⟨hs, hrest⟩ := List.forall_mem_cons.1 hlist
      obtain ⟨next, hnext, hfold⟩ := Option.bind_eq_some_iff.1 hfold
      exact ih (distinct_of_extend h hs hnext) hrest hfold

/-- Nothing is defined twice in a settings file that can be read. -/
theorem distinct_of_read? {text : Text} {entries : Entries} (h : read? text = some entries) :
    entries.Distinct := by
  obtain ⟨⟨list, rest⟩, hlist, h⟩ := Option.bind_eq_some_iff.1 h
  obtain ⟨p, hfold, h⟩ := Option.bind_eq_some_iff.1 h
  cases h
  exact Progress.distinct_of_foldlM .nil (yields_statements text list rest hlist) hfold

end Highlight.Toml
