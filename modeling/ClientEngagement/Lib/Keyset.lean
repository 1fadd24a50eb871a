import ClientEngagement.Lib.KeyOrder
import ClientEngagement.Lib.Runs

/-!
# Reading a changing table page by page

A page holds the rows past a key, in the order of their keys, as far as a limit (`page`). A `Pager` is a
table read in this way, with a text for the key to go on from, and a `Walk` a reader who follows those
texts while the table changes. Whatever changes, the keys a reader is given increase, and when the walk
ends no key is missing that was there at every fetch (`Covered`). Where rows keep their keys (`Keyed`),
the same holds of the rows of every walk (`Keyed.walk_kept`): none is returned twice
(`Keyed.Kept.names_nodup`), and none is left out (`Keyed.Kept.complete`).
-/

namespace ClientEngagement.Keyset

variable {α κ : Type*} [LinearOrder κ]

/-! ## One page -/

/-- The rows past a key, one more than the limit at most. -/
def fetched (key : α → κ) (limit : ℕ) (after : Option κ) (rows : List α) : List α :=
  (sortBy key (rows.filter fun row => decide (∀ k ∈ after, k < key row))).take (limit + 1)

/-- The page, and its last row where there are more. -/
def page (key : α → κ) (limit : ℕ) (after : Option κ) (rows : List α) : List α × Option α :=
  if limit < (fetched key limit after rows).length then
    ((fetched key limit after rows).take limit, ((fetched key limit after rows).take limit).getLast?)
  else (fetched key limit after rows, none)

/-- What a page has to be. -/
structure IsPage (key : α → κ) (after : Option κ) (rows given : List α) (next : Option α) : Prop where
  increasing : given.Pairwise fun a b => key a < key b
  past : ∀ row ∈ given, row ∈ rows ∧ ∀ k ∈ after, k < key row
  /-- What is past the key is on the page, or past its last row. -/
  full : ∀ row ∈ rows, (∀ k ∈ after, k < key row) → row ∈ given ∨ ∃ last, next = some last ∧ key last < key row
  tail : ∀ last ∈ next, given.getLast? = some last

section Page

variable {key : α → κ} {limit : ℕ} {after : Option κ} {rows : List α}

/-- A page cuts the sorted rows in two. -/
lemma page_cut (key : α → κ) (after : Option κ) (rows : List α) (pos : 0 < limit) :
    ∃ rest, sortBy key (rows.filter fun row => decide (∀ k ∈ after, k < key row)) =
        (page key limit after rows).1 ++ rest ∧
      ((page key limit after rows).2 = none ∧ rest = [] ∨
        ∃ last, (page key limit after rows).2 = some last ∧ (page key limit after rows).1.getLast? = some last) := by
  rw [page]
  split_ifs with more
  · rw [fetched, List.take_take, min_eq_left (Nat.le_succ limit)]
    refine ⟨_, (List.take_append_drop limit _).symm, .inr ?_⟩
    rw [fetched, List.length_take] at more
    have filled : (sortBy key (rows.filter fun row => decide (∀ k ∈ after, k < key row))).take limit ≠ [] := by
      rw [← List.length_pos_iff, List.length_take]
      omega
    exact ⟨_, List.getLast?_eq_some_getLast filled, List.getLast?_eq_some_getLast filled⟩
  · rw [fetched, List.length_take] at more
    refine ⟨[], ?_, .inl ⟨rfl, rfl⟩⟩
    rw [List.append_nil, fetched, List.take_of_length_le (by omega)]

lemma sorted_increasing (after : Option κ) (distinct : (rows.map key).Nodup) :
    (sortBy key (rows.filter fun row => decide (∀ k ∈ after, k < key row))).Pairwise fun a b => key a < key b := by
  have keys : ((sortBy key (rows.filter fun row => decide (∀ k ∈ after, k < key row))).map key).Nodup := by
    rw [((sortBy_perm key _).map key).nodup_iff]
    exact distinct.sublist (List.filter_sublist.map key)
  rw [List.nodup_iff_pairwise_ne, List.pairwise_map] at keys
  exact (sortBy_pairwise key _).imp₂ (fun _ _ le ne => lt_of_le_of_ne le ne) keys

lemma page_isPage (pos : 0 < limit) (distinct : (rows.map key).Nodup) :
    IsPage key after rows (page key limit after rows).1 (page key limit after rows).2 := by
  obtain ⟨rest, cut, more⟩ := page_cut key after rows pos
  have sorted := sorted_increasing after distinct
  have mem_sorted {row : α} : row ∈ (page key limit after rows).1 ++ rest ↔ row ∈ rows ∧ ∀ k ∈ after, k < key row := by
    rw [← cut, mem_sortBy, List.mem_filter, decide_eq_true_eq]
  rw [cut, List.pairwise_append] at sorted
  obtain ⟨increasing, _, before⟩ := sorted
  constructor
  · exact increasing
  · intro row here
    exact mem_sorted.mp (List.mem_append_left rest here)
  · intro row mem past
    rcases List.mem_append.mp (mem_sorted.mpr ⟨mem, past⟩) with here | later
    · exact .inl here
    · rcases more with ⟨_, rfl⟩ | ⟨last, next, tail⟩
      · cases later
      · exact .inr ⟨last, next, before last (List.mem_of_getLast? tail) row later⟩
  · intro last next
    rcases more with ⟨done, _⟩ | ⟨last', same, tail⟩
    · rw [Option.mem_def.mp next] at done
      cases done
    · obtain rfl := Option.some_inj.mp ((Option.mem_def.mp next).symm.trans same)
      exact tail

/-- The last row has the greatest key. -/
lemma IsPage.le_last {given : List α} {next : Option α} (is : IsPage key after rows given next) {last row : α}
    (more : last ∈ next) (here : row ∈ given) : key row ≤ key last := by
  obtain ⟨before, eq⟩ := List.getLast?_eq_some_iff.mp (is.tail last more)
  have increasing := is.increasing
  rw [eq] at here increasing
  rcases List.mem_append.mp here with early | tail
  · exact le_of_lt ((List.pairwise_append.mp increasing).2.2 row early last List.mem_cons_self)
  · rw [List.mem_singleton.mp tail]

end Page

/-! ## Walks -/

/-- A table read in pages; a row's key is written into a text and read from it. -/
structure Pager (τ α κ ε : Type*) [LinearOrder κ] where
  /-- The rows that satisfy the filters. -/
  rows : τ → List α
  key : α → κ
  encode : α → String
  decode : String → Except ε κ
  decode_encode : ∀ row, decode (encode row) = .ok (key row)

variable {τ ℓ ε μ : Type*}

/-- One page and the text for the next. -/
def Pager.fetch (pager : Pager τ α κ ε) (table : τ) (cursor : Option String) (limit : ℕ) :
    Except ε (List α × Option String) :=
  (cursor.mapM pager.decode).map fun after =>
    let (rows, last) := page pager.key limit after (pager.rows table)
    (rows, last.map pager.encode)

/-- How far a reader is. -/
inductive Position where
  | start
  | after (cursor : String)
  | finished

/-- What is asked for next; nothing after the end. -/
def Position.cursor : Position → Option (Option String)
  | .start => some none
  | .after cursor => some (some cursor)
  | .finished => none

def Position.next : Option String → Position
  | some cursor => .after cursor
  | none => .finished

/-- A page as it was fetched. -/
structure Fetch (τ α : Type*) where
  table : τ
  page : List α
  next : Option String

structure Walk (τ α : Type*) where
  table : τ
  position : Position := .start
  fetches : List (Fetch τ α) := []

/-- The rows the reader was given. -/
def Walk.returned (w : Walk τ α) : List α := w.fetches.flatMap Fetch.page

inductive Move (ℓ μ : Type*) where
  | change (label : ℓ)
  | fetch (limit : μ)

/-- The table changes or the reader fetches the next page. -/
inductive WalkStep (fetch : τ → Option String → μ → Except ε (List α × Option String)) (change : τ → ℓ → τ → Prop)
    (w : Walk τ α) : Move ℓ μ → Walk τ α → Prop where
  | change {label table} (changed : change w.table label table) :
      WalkStep fetch change w (.change label) { w with table := table }
  | fetch {cursor limit page next} (asked : w.position.cursor = some cursor)
      (given : fetch w.table cursor limit = .ok (page, next)) :
      WalkStep fetch change w (.fetch limit)
        { w with position := .next next, fetches := w.fetches ++ [⟨w.table, page, next⟩] }

section Walks

variable (pager : Pager τ α κ ε)

/-- The keys up to a position. -/
def Behind : Position → κ → Prop
  | .start, _ => False
  | .after cursor, k => ∃ last, pager.decode cursor = .ok last ∧ k ≤ last
  | .finished, _ => True

/-- A key that was there at every fetch. -/
def Steady (fetches : List (Fetch τ α)) (k : κ) : Prop := ∀ f ∈ fetches, k ∈ (pager.rows f.table).map pager.key

/-- What the pages up to a position are. -/
structure Covered (w : Walk τ α) : Prop where
  increasing : w.returned.Pairwise fun a b => pager.key a < pager.key b
  behind : ∀ row ∈ w.returned, Behind pager w.position (pager.key row)
  complete : ∀ k, Steady pager w.fetches k → Behind pager w.position k → k ∈ w.returned.map pager.key
  present : ∀ f ∈ w.fetches, ∀ row ∈ f.page, row ∈ pager.rows f.table
  readable : ∀ cursor, w.position = .after cursor → ∃ k, pager.decode cursor = .ok k
  lasts : ∀ f ∈ w.fetches, ∀ cursor, f.next = some cursor →
    ∃ last, f.page.getLast? = some last ∧ cursor = pager.encode last
  begun : w.position = .finished → w.fetches ≠ []

variable {pager}

lemma Covered.start (table : τ) : Covered pager (Walk.mk (α := α) table .start []) where
  increasing := .nil
  behind _ mem := by cases mem
  complete _ _ behind := behind.elim
  present _ mem := by cases mem
  readable _ same := by cases same
  lasts _ mem := by cases mem
  begun same := by cases same

/-- A change of the table is nothing to the pages already fetched. -/
lemma Covered.change {w : Walk τ α} (covered : Covered pager w) (table : τ) :
    Covered pager { w with table := table } :=
  ⟨covered.increasing, covered.behind, covered.complete, covered.present, covered.readable, covered.lasts,
    covered.begun⟩

/-- What a fetch gives is a page after the key it was asked for. -/
lemma Pager.isPage_fetch {table : τ} {cursor next : Option String} {limit : ℕ} {given : List α} (pos : 0 < limit)
    (distinct : ((pager.rows table).map pager.key).Nodup)
    (fetched : pager.fetch table cursor limit = .ok (given, next)) :
    ∃ after last, cursor.mapM pager.decode = .ok after ∧ IsPage pager.key after (pager.rows table) given last ∧
      next = last.map pager.encode := by
  rw [Pager.fetch] at fetched
  cases read : cursor.mapM pager.decode with
  | error e =>
    rw [read] at fetched
    cases fetched
  | ok after =>
    rw [read] at fetched
    have both := Except.ok.inj fetched
    rw [← (Prod.mk.inj both).1, ← (Prod.mk.inj both).2]
    exact ⟨after, _, rfl, page_isPage pos distinct, rfl⟩

/-- The key a reader goes on from. -/
lemma behind_iff {position : Position} {cursor : Option String} {after : Option κ}
    (asked : position.cursor = some cursor) (read : cursor.mapM pager.decode = .ok after) (k : κ) :
    Behind pager position k ↔ ∃ last ∈ after, k ≤ last := by
  cases position with
  | start =>
    obtain rfl := Option.some_inj.mp asked
    obtain rfl := Except.ok.inj read
    exact ⟨nofun, nofun⟩
  | after text =>
    obtain rfl := Option.some_inj.mp asked
    rw [Option.mapM_some] at read
    cases decoded : pager.decode text with
    | error e =>
      rw [decoded] at read
      cases read
    | ok key =>
      rw [decoded] at read
      obtain rfl := Except.ok.inj read
      constructor
      · rintro ⟨last, same, le⟩
        obtain rfl := Except.ok.inj (decoded.symm.trans same)
        exact ⟨_, rfl, le⟩
      · rintro ⟨last, mem, le⟩
        obtain rfl := Option.some_inj.mp mem
        exact ⟨key, decoded, le⟩
  | finished => cases asked

lemma behind_next (last : Option α) (k : κ) :
    Behind pager (.next (last.map pager.encode)) k ↔ ∀ row ∈ last, k ≤ pager.key row := by
  cases last with
  | none => exact ⟨nofun, fun _ => trivial⟩
  | some row =>
    constructor
    · rintro ⟨key, decoded, le⟩ other mem
      obtain rfl := Option.some_inj.mp mem
      obtain rfl := Except.ok.inj ((pager.decode_encode row).symm.trans decoded)
      exact le
    · intro le
      exact ⟨_, pager.decode_encode row, le row rfl⟩

/-- The next page goes on where the reader is. -/
lemma Covered.fetch {w : Walk τ α} (covered : Covered pager w) {cursor next : Option String} {limit : ℕ}
    {given : List α} (pos : 0 < limit) (distinct : ((pager.rows w.table).map pager.key).Nodup)
    (asked : w.position.cursor = some cursor) (fetched : pager.fetch w.table cursor limit = .ok (given, next)) :
    Covered pager { w with position := .next next, fetches := w.fetches ++ [⟨w.table, given, next⟩] } := by
  obtain ⟨after, last, read, is, rfl⟩ := Pager.isPage_fetch pos distinct fetched
  have later {row : α} (here : row ∈ given) : ∀ old ∈ w.returned, pager.key old < pager.key row := by
    intro old returned
    obtain ⟨k, mem, le⟩ := (behind_iff asked read _).mp (covered.behind old returned)
    exact lt_of_le_of_lt le ((is.past row here).2 k mem)
  have returned : Walk.returned { w with
      position := .next (last.map pager.encode)
      fetches := w.fetches ++ [⟨w.table, given, last.map pager.encode⟩] } = w.returned ++ given := by
    rw [Walk.returned, Walk.returned, List.flatMap_append, List.flatMap_singleton]
  constructor
  · rw [returned, List.pairwise_append]
    exact ⟨covered.increasing, is.increasing, fun old mem row here => later here old mem⟩
  · rw [returned]
    intro row mem
    rw [behind_next]
    intro end_ more
    rcases List.mem_append.mp mem with old | here
    · exact le_of_lt (later (List.mem_of_getLast? (is.tail end_ more)) row old)
    · exact is.le_last more here
  · rw [returned]
    intro k steady behind
    rw [behind_next] at behind
    rw [List.map_append, List.mem_append]
    by_cases old : Behind pager w.position k
    · exact .inl (covered.complete k (fun f mem => steady f (List.mem_append_left _ mem)) old)
    · obtain ⟨row, mem, rfl⟩ := List.mem_map.mp (steady _ (List.mem_append_right _ List.mem_cons_self))
      have past : ∀ k ∈ after, k < pager.key row := by
        intro k here
        by_contra not_past
        exact old ((behind_iff asked read _).mpr ⟨k, here, not_lt.mp not_past⟩)
      rcases is.full row mem past with here | ⟨end_, more, lt⟩
      · exact .inr (List.mem_map_of_mem here)
      · exact absurd (behind end_ more) (not_le.mpr lt)
  · intro f mem
    rcases List.mem_append.mp mem with old | new
    · exact covered.present f old
    · obtain rfl := List.mem_singleton.mp new
      exact fun row here => (is.past row here).1
  · intro text same
    cases last with
    | none => cases same
    | some end_ =>
      obtain rfl := Position.after.inj same
      exact ⟨_, pager.decode_encode end_⟩
  · intro f mem
    rcases List.mem_append.mp mem with old | new
    · exact covered.lasts f old
    · obtain rfl := List.mem_singleton.mp new
      intro text same
      obtain ⟨end_, more, rfl⟩ := Option.map_eq_some_iff.mp same
      exact ⟨end_, is.tail end_ more, rfl⟩
  · intro _ empty
    exact List.cons_ne_nil _ _ (List.append_eq_nil_iff.mp empty).2

/-- The text a reader goes on from is always understood. -/
lemma Covered.can_fetch {w : Walk τ α} (covered : Covered pager w) {cursor : Option String}
    (asked : w.position.cursor = some cursor) (limit : ℕ) : ∃ given, pager.fetch w.table cursor limit = .ok given := by
  obtain ⟨after, read⟩ : ∃ after, cursor.mapM pager.decode = .ok after := by
    cases position : w.position with
    | start =>
      rw [position] at asked
      obtain rfl := Option.some_inj.mp asked
      exact ⟨none, rfl⟩
    | after text =>
      rw [position] at asked
      obtain rfl := Option.some_inj.mp asked
      obtain ⟨k, decoded⟩ := covered.readable text position
      refine ⟨some k, ?_⟩
      rw [Option.mapM_some, decoded]
      rfl
    | finished =>
      rw [position] at asked
      cases asked
  rw [Pager.fetch, read]
  exact ⟨_, rfl⟩

/-- The rows have names and keep their keys, whatever changes: `assigned` says which name has which key. -/
structure Keyed {ι : Type*} (pager : Pager τ α κ ε) (change : τ → ℓ → τ → Prop) (name : α → ι) where
  sound : τ → Prop
  assigned : τ → ι → κ → Prop
  keeps : ∀ s l t, sound s → change s l t → sound t
  grows : ∀ s l t, sound s → change s l t → ∀ i k, assigned s i k → assigned t i k
  distinct : ∀ s, sound s → ((pager.rows s).map pager.key).Nodup
  row : ∀ s, sound s → ∀ row ∈ pager.rows s, assigned s (name row) (pager.key row)
  one : ∀ s, sound s → ∀ i k k', assigned s i k → assigned s i k' → k = k'
  separates : ∀ a b, pager.key a = pager.key b → name a = name b

section Run

variable {ι : Type*} {change : τ → ℓ → τ → Prop} {name : α → ι} (keyed : Keyed pager change name)
  {fetch : τ → Option String → μ → Except ε (List α × Option String)}

/-- Every row that was there at a fetch still has its key. -/
structure Keyed.Kept (w : Walk τ α) : Prop where
  sound : keyed.sound w.table
  covered : Covered pager w
  assigned : ∀ f ∈ w.fetches, ∀ row ∈ pager.rows f.table, keyed.assigned w.table (name row) (pager.key row)

variable (pages : ∀ table cursor limit, ∃ size, 0 < size ∧ fetch table cursor limit = pager.fetch table cursor size)
include pages

lemma Keyed.Kept.step {w w' : Walk τ α} {move : Move ℓ μ} (kept : keyed.Kept w)
    (st : WalkStep fetch change w move w') : keyed.Kept w' := by
  cases st with
  | change changed =>
    refine ⟨keyed.keeps _ _ _ kept.sound changed, kept.covered.change _, ?_⟩
    intro f mem row here
    exact keyed.grows _ _ _ kept.sound changed _ _ (kept.assigned f mem row here)
  | @fetch cursor limit given next asked fetched =>
    obtain ⟨size, pos, same⟩ := pages w.table cursor limit
    rw [same] at fetched
    refine ⟨kept.sound, kept.covered.fetch pos (keyed.distinct _ kept.sound) asked fetched, ?_⟩
    intro f mem row here
    rcases List.mem_append.mp mem with old | new
    · exact kept.assigned f old row here
    · obtain rfl := List.mem_singleton.mp new
      exact keyed.row _ kept.sound row here

/-- The pages of every walk are in order and leave nothing out. -/
theorem Keyed.walk_kept {s : τ} {w : Walk τ α} {moves : List (Move ℓ μ)} (sound : keyed.sound s)
    (r : Run (WalkStep fetch change) ⟨s, .start, []⟩ moves w) : keyed.Kept w := by
  apply r.invariant keyed.Kept ⟨sound, Covered.start s, fun f mem => by cases mem⟩
  intro w move w' kept st
  exact kept.step keyed pages st

omit pages

section Names

variable {keyed} {w : Walk τ α} (kept : keyed.Kept w)
include kept

lemma Keyed.Kept.returned_assigned {row : α} (mem : row ∈ w.returned) :
    keyed.assigned w.table (name row) (pager.key row) := by
  obtain ⟨f, fetched, here⟩ := List.mem_flatMap.mp mem
  exact kept.assigned f fetched row (kept.covered.present f fetched row here)

/-- No row is returned twice. -/
theorem Keyed.Kept.names_nodup : (w.returned.map name).Nodup := by
  rw [List.nodup_iff_pairwise_ne, List.pairwise_map]
  apply kept.covered.increasing.imp_of_mem
  intro a b here there less same
  have other := kept.returned_assigned there
  rw [← same] at other
  exact absurd (keyed.one _ kept.sound _ _ _ (kept.returned_assigned here) other) (ne_of_lt less)

/-- When the walk has ended, every row was returned that was there at every fetch. -/
theorem Keyed.Kept.complete (finished : w.position = .finished) {i : ι}
    (steady : ∀ f ∈ w.fetches, i ∈ (pager.rows f.table).map name) : i ∈ w.returned.map name := by
  obtain ⟨first, more, fetches⟩ := List.exists_cons_of_ne_nil (kept.covered.begun finished)
  have first_mem : first ∈ w.fetches := fetches ▸ List.mem_cons_self
  obtain ⟨row, here, rfl⟩ := List.mem_map.mp (steady first first_mem)
  have assigned := kept.assigned first first_mem row here
  have same_key : Steady pager w.fetches (pager.key row) := by
    intro f mem
    obtain ⟨other, there, same⟩ := List.mem_map.mp (steady f mem)
    have key := kept.assigned f mem other there
    rw [same] at key
    rw [keyed.one _ kept.sound _ _ _ assigned key]
    exact List.mem_map_of_mem there
  have behind : Behind pager w.position (pager.key row) := by
    rw [finished]
    trivial
  obtain ⟨other, returned, key⟩ := List.mem_map.mp (kept.covered.complete _ same_key behind)
  rw [← keyed.separates _ _ key]
  exact List.mem_map_of_mem returned

end Names

end Run

end Walks

end ClientEngagement.Keyset
