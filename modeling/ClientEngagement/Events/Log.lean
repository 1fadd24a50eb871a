import ClientEngagement.Lib.Dict
import ClientEngagement.Lib.Json
import ClientEngagement.Lib.Runs

/-!
# The events of a run

Model of `RunEventLog` and `record_event` (`agents/events.py`) for one run. A recorder claims a place in memory
and queues its event, a thread of the log's own writes what is queued in batches, each in one transaction;
`record_event` takes the place after the highest one it can see, on its caller's session. Both put rows under
one unique constraint. `LogStep` is a step of any of them, and `tells_all` says when nothing that was recorded
is lost.
-/

namespace ClientEngagement.Events

abbrev Ordinal := ℕ
abbrev ThreadId := ℕ
abbrev Detail := List (String × Json)

/-- A row of `agent_event`, under its ordinal. -/
structure AgentEvent where
  kind : String
  detail : Detail

/-- One event, waiting its turn to be written. -/
structure PendingEvent where
  ordinal : Ordinal
  kind : String
  detail : Detail

/-- What decides how an event is stored: what its detail reads as once rendered, none where that raises; whether
    the outbound scan finds a leak; whether the table takes the kind and the value. -/
structure Storing where
  rendered : Detail → Option Detail
  leaks : Detail → Bool
  accepted : String → Detail → Bool

def storedDetail (storing : Storing) (detail : Detail) : Option Detail :=
  (storing.rendered detail).map fun rendered =>
    if storing.leaks rendered then [("withheld", .bool true)] else rendered

/-- The row of an event, if it can be stored. -/
def rowOf (storing : Storing) (kind : String) (detail : Detail) : Option AgentEvent :=
  ((storedDetail storing detail).filter (storing.accepted kind)).map fun detail => ⟨kind, detail⟩

/-- An event somebody recorded: by whom, and the place it was given. -/
structure Recorded where
  thread : ThreadId
  ordinal : Ordinal
  kind : String
  detail : Detail

def writeBatchSize : ℕ := 50

structure LogState where
  rows : Dict Ordinal AgentEvent := .empty
  /-- The next place, in memory. -/
  next : Ordinal := 1
  /-- The calls of `record` between the claim and the queue. -/
  claimed : List (ThreadId × PendingEvent) := []
  /-- The queue; none is what `close` puts. -/
  queue : List (Option PendingEvent) := []
  batch : List PendingEvent := []
  stopped : Bool := false
  /-- The highest place a call of `record_event` saw. -/
  looked : Dict ThreadId Ordinal := .empty
  /-- The rows of the outside sessions that are not committed. -/
  uncommitted : List (ThreadId × Ordinal × AgentEvent) := []
  /-- What was recorded and not rolled back, in order. -/
  recorded : List Recorded := []

def LogState.closed (s : LogState) : Bool := s.stopped || s.queue.any Option.isNone

/-- The rows a session sees, its own among them. -/
def LogState.highest (s : LogState) (thread : ThreadId) : Ordinal :=
  ((s.rows.keys ++ (s.uncommitted.filter (·.1 = thread)).map (·.2.1)).max?).getD 0

/-- A batch is one transaction: all of it, or nothing. -/
def writeBatch (storing : Storing) (rows : Dict Ordinal AgentEvent) (batch : List PendingEvent) :
    Dict Ordinal AgentEvent :=
  match batch.mapM fun p => (rowOf storing p.kind p.detail).map fun row => (p.ordinal, row) with
  | none => rows
  | some entries =>
    if (rows.keys ++ entries.map Prod.fst).Nodup then
      entries.foldl (fun rows entry => rows.set entry.1 entry.2) rows
    else rows

/-- The row goes in unless it cannot be stored or its place is taken: then the savepoint is rolled back. -/
def insertRow (storing : Storing) (s : LogState) (thread : ThreadId) (ordinal : Ordinal) (kind : String)
    (detail : Detail) : List (ThreadId × Ordinal × AgentEvent) :=
  match rowOf storing kind detail with
  | none => s.uncommitted
  | some row =>
    if s.rows.contains ordinal ∨ ordinal ∈ s.uncommitted.map (·.2.1) then s.uncommitted
    else s.uncommitted ++ [(thread, ordinal, row)]

inductive LogLabel where
  | claim (thread : ThreadId) (kind : String) (detail : Detail)
  | put (thread : ThreadId)
  | close
  | take (count : ℕ)
  | write
  | stop
  | look (thread : ThreadId)
  | insert (thread : ThreadId) (kind : String) (detail : Detail)
  | commit (thread : ThreadId)
  | rollback (thread : ThreadId)

/-- A row with a place that another session has taken and not committed waits for that session. -/
inductive LogStep (storing : Storing) (s : LogState) : LogLabel → LogState → Prop where
  | claim {thread kind detail} (idle : thread ∉ s.claimed.map Prod.fst) :
      LogStep storing s (.claim thread kind detail)
        { s with
          next := s.next + 1
          claimed := s.claimed ++ [(thread, ⟨s.next, kind, detail⟩)]
          recorded := s.recorded ++ [⟨thread, s.next, kind, detail⟩] }
  | put {thread p before after} (here : s.claimed = before ++ (thread, p) :: after) :
      LogStep storing s (.put thread) { s with claimed := before ++ after, queue := s.queue ++ [some p] }
  | close (opened : s.closed = false) :
      LogStep storing s .close { s with queue := s.queue ++ [none] }
  | take {events rest} (idle : s.batch = []) (queued : s.queue = events.map some ++ rest)
      (size : events.length ≤ writeBatchSize) (running : s.stopped = false) :
      LogStep storing s (.take events.length) { s with batch := events, queue := rest }
  | write (unblocked : ∀ p ∈ s.batch, p.ordinal ∉ s.uncommitted.map (·.2.1)) :
      LogStep storing s .write { s with rows := writeBatch storing s.rows s.batch, batch := [] }
  | stop {rest} (idle : s.batch = []) (queued : s.queue = none :: rest) :
      LogStep storing s .stop { s with stopped := true, queue := rest }
  | look {thread} :
      LogStep storing s (.look thread) { s with looked := s.looked.set thread (s.highest thread) }
  | insert {thread kind detail highest} (saw : s.looked.get? thread = some highest)
      (unblocked : ∀ row ∈ s.uncommitted, row.2.1 = highest + 1 → row.1 = thread) :
      LogStep storing s (.insert thread kind detail)
        { s with
          looked := s.looked.erase thread
          uncommitted := insertRow storing s thread (highest + 1) kind detail
          recorded := s.recorded ++ [⟨thread, highest + 1, kind, detail⟩] }
  | commit {thread} :
      LogStep storing s (.commit thread)
        { s with
          rows := ((s.uncommitted.filter (·.1 = thread)).map (·.2)).foldl
            (fun rows entry => rows.set entry.1 entry.2) s.rows
          uncommitted := s.uncommitted.filter (·.1 ≠ thread) }
  | rollback {thread} :
      LogStep storing s (.rollback thread)
        { s with
          uncommitted := s.uncommitted.filter (·.1 ≠ thread)
          recorded := s.recorded.filter fun event =>
            (event.thread, event.ordinal) ∉ (s.uncommitted.filter (·.1 = thread)).map fun row =>
              (row.1, row.2.1) }

/-! ## What is told -/

def Recorded.row (storing : Storing) (event : Recorded) : Option AgentEvent :=
  rowOf storing event.kind event.detail

def PendingEvent.row (storing : Storing) (p : PendingEvent) : Option AgentEvent :=
  rowOf storing p.kind p.detail

/-- What was recorded and can be stored. -/
def LogState.tellable (storing : Storing) (s : LogState) : List Recorded :=
  s.recorded.filter fun event => (event.row storing).isSome

/-- The log has stopped, and no recorder is under way. -/
structure LogState.AfterClose (s : LogState) : Prop where
  stopped : s.stopped = true
  claimed : s.claimed = []
  uncommitted : s.uncommitted = []

/-- Nothing is lost: each event that can be stored is stored, once, under a place of its own, the events of a
    thread in its order, and nothing else was added to the rows there were. -/
structure Told (storing : Storing) (before : Dict Ordinal AgentEvent) (s : LogState) : Prop where
  stored : ∀ event ∈ s.tellable storing, s.rows.get? event.ordinal = event.row storing
  unique : ((s.tellable storing).map Recorded.ordinal).Nodup
  ordered : (s.tellable storing).Pairwise fun a b => a.thread = b.thread → a.ordinal < b.ordinal
  only : ∀ ordinal row, s.rows.get? ordinal = some row → before.get? ordinal = some row ∨
    ∃ event ∈ s.tellable storing, event.ordinal = ordinal ∧ event.row storing = some row

/-- The events on their way to the table through the log. -/
def LogState.pending (s : LogState) : List PendingEvent :=
  s.claimed.map Prod.snd ++ s.queue.reduceOption ++ s.batch

/-- The places taken by what is stored or can be. -/
def LogState.inUse (storing : Storing) (s : LogState) : List Ordinal :=
  (s.pending.filter fun p => (p.row storing).isSome).map PendingEvent.ordinal ++
    (s.uncommitted.map (·.2.1) ++ s.rows.keys)

/-- The condition on the steps: the place an event takes is above all those in use, nothing is queued once the
    log is closed, and no batch holds both events that can be stored and events that cannot. -/
def Orderly (storing : Storing) (s : LogState) : LogLabel → Prop
  | .claim _ kind detail => (rowOf storing kind detail).isSome = true → ∀ o ∈ s.inUse storing, o < s.next
  | .insert thread kind detail => (rowOf storing kind detail).isSome = true →
      ∀ highest, s.looked.get? thread = some highest → ∀ o ∈ s.inUse storing, o < highest + 1
  | .put _ => s.closed = false
  | .write => (∀ p ∈ s.batch, (p.row storing).isSome = true) ∨ ∀ p ∈ s.batch, p.row storing = none
  | _ => True

/-- A log that was just opened, over whatever rows there are. -/
structure LogState.Opened (s : LogState) : Prop where
  next : 0 < s.next
  claimed : s.claimed = []
  queue : s.queue = []
  batch : s.batch = []
  stopped : s.stopped = false
  uncommitted : s.uncommitted = []
  recorded : s.recorded = []

variable {storing : Storing} {before : Dict Ordinal AgentEvent} {s t : LogState} {ls : List LogLabel}

/-- Where an event that can be stored is. -/
def Located (storing : Storing) (s : LogState) (event : Recorded) : Prop :=
  (∃ p ∈ s.pending, p = ⟨event.ordinal, event.kind, event.detail⟩) ∨
    (∃ row, event.row storing = some row ∧ (event.thread, event.ordinal, row) ∈ s.uncommitted) ∨
      s.rows.get? event.ordinal = event.row storing

/-- What `close` puts is the last of the queue. -/
def EndsWithClose (queue : List (Option PendingEvent)) : Prop :=
  ∀ ahead behind, queue = ahead ++ none :: behind → behind = []

structure Accounted (storing : Storing) (before : Dict Ordinal AgentEvent) (s : LogState) : Prop where
  distinct : (s.inUse storing).Nodup
  located : ∀ event ∈ s.tellable storing, Located storing s event
  rising : (s.tellable storing).Pairwise fun a b => a.ordinal < b.ordinal
  pendingFrom : ∀ p ∈ s.pending, (p.row storing).isSome = true →
    ∃ event ∈ s.recorded, p = ⟨event.ordinal, event.kind, event.detail⟩
  uncommittedFrom : ∀ thread ordinal row, (thread, ordinal, row) ∈ s.uncommitted →
    ∃ event ∈ s.recorded, event.thread = thread ∧ event.ordinal = ordinal ∧ event.row storing = some row
  rowsFrom : ∀ ordinal row, s.rows.get? ordinal = some row → before.get? ordinal = some row ∨
    ∃ event ∈ s.recorded, event.ordinal = ordinal ∧ event.row storing = some row
  queued : EndsWithClose s.queue
  ended : s.stopped = true → s.queue = [] ∧ s.batch = []

lemma mem_tellable {event : Recorded} : event ∈ s.tellable storing ↔
    event ∈ s.recorded ∧ (event.row storing).isSome = true := List.mem_filter

lemma mem_inUse {o : Ordinal} : o ∈ s.inUse storing ↔
    (∃ p ∈ s.pending, (p.row storing).isSome = true ∧ p.ordinal = o) ∨
      o ∈ s.uncommitted.map (·.2.1) ∨ o ∈ s.rows.keys := by
  rw [LogState.inUse, List.mem_append, List.mem_append, List.mem_map]
  apply or_congr_left
  constructor
  · rintro ⟨p, mem, rfl⟩
    exact ⟨p, (List.mem_filter.mp mem).1, (List.mem_filter.mp mem).2, rfl⟩
  · rintro ⟨p, mem, stored, rfl⟩
    exact ⟨p, List.mem_filter.mpr ⟨mem, stored⟩, rfl⟩

lemma Located.inUse {event : Recorded} (located : Located storing s event)
    (stored : (event.row storing).isSome = true) : event.ordinal ∈ s.inUse storing := by
  rw [mem_inUse]
  rcases located with ⟨p, mem, rfl⟩ | ⟨row, _, mem⟩ | found
  · exact .inl ⟨_, mem, stored, rfl⟩
  · exact .inr (.inl (List.mem_map.mpr ⟨_, mem, rfl⟩))
  · obtain ⟨row, same⟩ := Option.isSome_iff_exists.mp stored
    exact .inr (.inr (s.rows.mem_keys_iff.mpr ⟨row, found.trans same⟩))

/-! ### A step that moves events on -/

/-- The same events are on their way, and nothing else changes. -/
lemma Accounted.moved (acc : Accounted storing before s) (pending : t.pending.Perm s.pending)
    (uncommitted : t.uncommitted = s.uncommitted) (rows : t.rows = s.rows)
    (recorded : t.recorded = s.recorded)
    (queued : EndsWithClose t.queue)
    (ended : t.stopped = true → t.queue = [] ∧ t.batch = []) : Accounted storing before t where
  distinct := by
    have perm : (t.inUse storing).Perm (s.inUse storing) := by
      rw [LogState.inUse, LogState.inUse, uncommitted, rows]
      exact ((pending.filter _).map _).append_right _
    exact perm.nodup_iff.mpr acc.distinct
  located := by
    intro event mem
    rw [LogState.tellable, recorded] at mem
    rw [Located, uncommitted, rows]
    exact (acc.located event mem).imp_left fun ⟨p, there, same⟩ => ⟨p, pending.mem_iff.mpr there, same⟩
  rising := by
    rw [LogState.tellable, recorded]
    exact acc.rising
  pendingFrom := by
    intro p mem
    rw [recorded]
    exact acc.pendingFrom p (pending.mem_iff.mp mem)
  uncommittedFrom := by
    rw [uncommitted, recorded]
    exact acc.uncommittedFrom
  rowsFrom := by
    rw [rows, recorded]
    exact acc.rowsFrom
  queued := queued
  ended := ended

/-! ### A step that takes a place -/

/-- A new event that is above all those there are. -/
lemma rising_append {event : Recorded} (acc : Accounted storing before s)
    (above : (event.row storing).isSome = true → ∀ o ∈ s.inUse storing, o < event.ordinal)
    (recorded : t.recorded = s.recorded ++ [event]) :
    (t.tellable storing).Pairwise fun a b => a.ordinal < b.ordinal := by
  rw [LogState.tellable, recorded, List.filter_append]
  refine List.pairwise_append.mpr ⟨acc.rising, ?_, ?_⟩
  · exact (List.pairwise_singleton _ _).filter _
  · intro old mem new mem'
    obtain ⟨here, stored⟩ := List.mem_filter.mp mem'
    cases List.mem_singleton.mp here
    exact above stored old.ordinal ((acc.located old mem).inUse (List.mem_filter.mp mem).2)

lemma Accounted.records {event : Recorded} (acc : Accounted storing before s)
    (recorded : t.recorded = s.recorded ++ [event])
    (above : (event.row storing).isSome = true → ∀ o ∈ s.inUse storing, o < event.ordinal)
    (rows : t.rows = s.rows)
    (pending : ∀ p ∈ t.pending, p ∈ s.pending ∨ p = ⟨event.ordinal, event.kind, event.detail⟩)
    (pendingKept : ∀ p ∈ s.pending, p ∈ t.pending)
    (uncommitted : ∀ row ∈ t.uncommitted, row ∈ s.uncommitted ∨
      row.1 = event.thread ∧ row.2.1 = event.ordinal ∧ event.row storing = some row.2.2)
    (uncommittedKept : ∀ row ∈ s.uncommitted, row ∈ t.uncommitted)
    (here : (event.row storing).isSome = true → Located storing t event)
    (distinct : (t.inUse storing).Nodup) (queue : t.queue = s.queue) (batch : t.batch = s.batch)
    (stopped : t.stopped = s.stopped) : Accounted storing before t where
  distinct := distinct
  located := by
    intro old mem
    obtain ⟨mem, stored⟩ := mem_tellable.mp mem
    rw [recorded] at mem
    rcases List.mem_append.mp mem with mem | mem
    · rcases acc.located old (mem_tellable.mpr ⟨mem, stored⟩) with ⟨p, there, same⟩ | ⟨row, same, there⟩ | found
      · exact .inl ⟨p, pendingKept p there, same⟩
      · exact .inr (.inl ⟨row, same, uncommittedKept _ there⟩)
      · rw [← rows] at found
        exact .inr (.inr found)
    · cases List.mem_singleton.mp mem
      exact here stored
  rising := rising_append acc above recorded
  pendingFrom := by
    intro p mem stored
    rw [recorded]
    rcases pending p mem with mem | same
    · obtain ⟨old, there, same⟩ := acc.pendingFrom p mem stored
      exact ⟨old, List.mem_append_left _ there, same⟩
    · exact ⟨event, List.mem_append_right _ (List.mem_singleton.mpr rfl), same⟩
  uncommittedFrom := by
    intro thread ordinal row mem
    rw [recorded]
    rcases uncommitted _ mem with mem | ⟨by_, place, stored⟩
    · obtain ⟨old, there, same⟩ := acc.uncommittedFrom thread ordinal row mem
      exact ⟨old, List.mem_append_left _ there, same⟩
    · exact ⟨event, List.mem_append_right _ (List.mem_singleton.mpr rfl), by_.symm, place.symm, stored⟩
  rowsFrom := by
    intro ordinal row found
    rw [rows] at found
    rw [recorded]
    apply (acc.rowsFrom ordinal row found).imp_right
    rintro ⟨old, there, same⟩
    exact ⟨old, List.mem_append_left _ there, same⟩
  queued := by
    rw [queue]
    exact acc.queued
  ended := by
    rw [queue, batch, stopped]
    exact acc.ended

lemma Accounted.claim {thread : ThreadId} {kind : String} {detail : Detail} (acc : Accounted storing before s)
    (above : Orderly storing s (.claim thread kind detail))
    (st : LogStep storing s (.claim thread kind detail) t) : Accounted storing before t := by
  have recorded : t.recorded = s.recorded ++ [⟨thread, s.next, kind, detail⟩] := by cases st; rfl
  have perm : t.pending.Perm (⟨s.next, kind, detail⟩ :: s.pending) := by
    have claimed : t.claimed.map Prod.snd = s.claimed.map Prod.snd ++ [⟨s.next, kind, detail⟩] := by
      cases st
      simp
    have others : t.queue = s.queue ∧ t.batch = s.batch := by cases st; exact ⟨rfl, rfl⟩
    rw [LogState.pending, LogState.pending, claimed, others.1, others.2]
    simp only [List.append_assoc, List.singleton_append]
    exact List.perm_middle
  have uncommitted : t.uncommitted = s.uncommitted := by cases st; rfl
  have rows : t.rows = s.rows := by cases st; rfl
  apply acc.records recorded above rows
  case pending =>
    intro p mem
    exact (List.mem_cons.mp (perm.mem_iff.mp mem)).symm
  case pendingKept =>
    intro p mem
    exact perm.mem_iff.mpr (List.mem_cons_of_mem _ mem)
  case uncommitted =>
    rw [uncommitted]
    exact fun row mem => .inl mem
  case uncommittedKept =>
    rw [uncommitted]
    exact fun row mem => mem
  case here =>
    intro _
    exact .inl ⟨_, perm.mem_iff.mpr List.mem_cons_self, rfl⟩
  case distinct =>
    have inUse : (t.inUse storing).Perm
        (((PendingEvent.mk s.next kind detail :: s.pending).filter fun p => (p.row storing).isSome).map
          PendingEvent.ordinal ++ (s.uncommitted.map (·.2.1) ++ s.rows.keys)) := by
      rw [LogState.inUse, uncommitted, rows]
      exact ((perm.filter _).map _).append_right _
    rw [inUse.nodup_iff, List.filter_cons]
    split
    case isTrue stored =>
      refine List.nodup_cons.mpr ⟨?_, acc.distinct⟩
      intro taken
      exact lt_irrefl _ (above stored _ taken)
    case isFalse => exact acc.distinct
  case queue => cases st; rfl
  case batch => cases st; rfl
  case stopped => cases st; rfl

/-- A row whose place is above all in use goes in. -/
lemma insertRow_above {thread : ThreadId} {kind : String} {detail : Detail} {ordinal : Ordinal} {row : AgentEvent}
    (stored : rowOf storing kind detail = some row) (above : ∀ o ∈ s.inUse storing, o < ordinal) :
    insertRow storing s thread ordinal kind detail = s.uncommitted ++ [(thread, ordinal, row)] := by
  have free : ordinal ∉ s.inUse storing := fun taken => lt_irrefl _ (above _ taken)
  rw [mem_inUse, not_or, not_or] at free
  have notStored : ¬ s.rows.contains ordinal = true := by
    rw [Dict.contains_iff]
    exact free.2.2
  rw [insertRow, stored]
  exact if_neg (not_or.mpr ⟨notStored, free.2.1⟩)

lemma Accounted.insert {thread : ThreadId} {kind : String} {detail : Detail} (acc : Accounted storing before s)
    (orderly : Orderly storing s (.insert thread kind detail))
    (st : LogStep storing s (.insert thread kind detail) t) : Accounted storing before t := by
  obtain ⟨highest, above, uncommitted, recorded⟩ : ∃ highest,
      ((rowOf storing kind detail).isSome = true → ∀ o ∈ s.inUse storing, o < highest + 1) ∧
      t.uncommitted = insertRow storing s thread (highest + 1) kind detail ∧
      t.recorded = s.recorded ++ [⟨thread, highest + 1, kind, detail⟩] := by
    cases st with
    | insert saw _ => exact ⟨_, fun stored => orderly stored _ saw, rfl, rfl⟩
  have rows : t.rows = s.rows := by cases st; rfl
  have pending : t.pending = s.pending := by cases st; rfl
  have added : t.uncommitted = s.uncommitted ∧ rowOf storing kind detail = none ∨ ∃ row,
      t.uncommitted = s.uncommitted ++ [(thread, highest + 1, row)] ∧ rowOf storing kind detail = some row := by
    cases stored : rowOf storing kind detail with
    | none =>
      refine .inl ⟨?_, rfl⟩
      rw [uncommitted, insertRow, stored]
    | some row =>
      refine .inr ⟨row, ?_, rfl⟩
      rw [uncommitted]
      exact insertRow_above stored (above (by rw [stored]; rfl))
  apply acc.records recorded above rows
  case pending => exact fun p mem => .inl (pending ▸ mem)
  case pendingKept => exact fun p mem => pending ▸ mem
  case uncommitted =>
    intro new mem
    rcases added with ⟨same, _⟩ | ⟨row, more, stored⟩
    · exact .inl (same ▸ mem)
    · rw [more] at mem
      rcases List.mem_append.mp mem with mem | mem
      · exact .inl mem
      · cases List.mem_singleton.mp mem
        exact .inr ⟨rfl, rfl, stored⟩
  case uncommittedKept =>
    intro old mem
    rcases added with ⟨same, _⟩ | ⟨row, more, _⟩
    · exact same ▸ mem
    · exact more ▸ List.mem_append_left _ mem
  case here =>
    intro some
    rcases added with ⟨_, unstored⟩ | ⟨row, more, stored⟩
    · rw [Recorded.row, unstored] at some
      cases some
    · exact .inr (.inl ⟨row, stored, more ▸ List.mem_append_right _ (List.mem_singleton.mpr rfl)⟩)
  case distinct =>
    rcases added with ⟨same, _⟩ | ⟨row, more, stored⟩
    · rw [LogState.inUse, pending, same, rows]
      exact acc.distinct
    · have perm : (t.inUse storing).Perm ((highest + 1) :: s.inUse storing) := by
        rw [LogState.inUse, LogState.inUse, pending, more, rows, List.map_append, List.append_assoc,
          ← List.append_assoc, ← List.append_assoc _ (s.uncommitted.map _)]
        exact List.perm_middle
      refine perm.nodup_iff.mpr (List.nodup_cons.mpr ⟨?_, acc.distinct⟩)
      intro taken
      exact lt_irrefl _ (above (by rw [stored]; rfl) _ taken)
  case queue => cases st; rfl
  case batch => cases st; rfl
  case stopped => cases st; rfl

/-! ### A step that stores what is on its way -/

lemma Accounted.stores (acc : Accounted storing before s) (entries : List (Ordinal × AgentEvent))
    (items : t.rows.items = s.rows.items ++ entries) (recorded : t.recorded = s.recorded)
    (inUse : (t.inUse storing).Perm (s.inUse storing))
    (pending : ∀ p ∈ t.pending, p ∈ s.pending) (uncommitted : ∀ row ∈ t.uncommitted, row ∈ s.uncommitted)
    (entriesFrom : ∀ ordinal row, (ordinal, row) ∈ entries →
      (∃ p ∈ s.pending, p.ordinal = ordinal ∧ p.row storing = some row) ∨
        ∃ thread, (thread, ordinal, row) ∈ s.uncommitted)
    (pendingTo : ∀ p ∈ s.pending, ∀ row, p.row storing = some row → p ∈ t.pending ∨ (p.ordinal, row) ∈ entries)
    (uncommittedTo : ∀ row ∈ s.uncommitted, row ∈ t.uncommitted ∨ row.2 ∈ entries)
    (queued : EndsWithClose t.queue) (ended : t.stopped = true → t.queue = [] ∧ t.batch = []) :
    Accounted storing before t where
  distinct := inUse.nodup_iff.mpr acc.distinct
  located := by
    have entered : ∀ ordinal row, (ordinal, row) ∈ entries → t.rows.get? ordinal = some row := by
      intro ordinal row mem
      rw [← Dict.mem_items_iff, items]
      exact List.mem_append_right _ mem
    intro event mem
    rw [LogState.tellable, recorded] at mem
    obtain ⟨row, same⟩ := Option.isSome_iff_exists.mp (mem_tellable.mp mem).2
    rcases acc.located event mem with ⟨p, there, rfl⟩ | ⟨row', same', there⟩ | found
    · rcases pendingTo _ there row same with there | entry
      · exact .inl ⟨_, there, rfl⟩
      · exact .inr (.inr ((entered _ _ entry).trans same.symm))
    · rcases uncommittedTo _ there with there | entry
      · exact .inr (.inl ⟨row', same', there⟩)
      · exact .inr (.inr ((entered _ _ entry).trans same'.symm))
    · refine .inr (.inr ?_)
      rw [same] at found ⊢
      rw [← Dict.mem_items_iff, items]
      exact List.mem_append_left _ (s.rows.mem_items_iff.mpr found)
  rising := by
    rw [LogState.tellable, recorded]
    exact acc.rising
  pendingFrom := by
    intro p mem
    rw [recorded]
    exact acc.pendingFrom p (pending p mem)
  uncommittedFrom := by
    intro thread ordinal row mem
    rw [recorded]
    exact acc.uncommittedFrom thread ordinal row (uncommitted _ mem)
  rowsFrom := by
    intro ordinal row found
    rw [← Dict.mem_items_iff, items] at found
    rw [recorded]
    rcases List.mem_append.mp found with old | entry
    · exact acc.rowsFrom ordinal row (s.rows.mem_items_iff.mp old)
    · right
      rcases entriesFrom ordinal row entry with ⟨p, there, rfl, stored⟩ | ⟨thread, there⟩
      · obtain ⟨event, mem, rfl⟩ := acc.pendingFrom p there (by rw [stored]; rfl)
        exact ⟨event, mem, rfl, stored⟩
      · obtain ⟨event, mem, _, place, stored⟩ := acc.uncommittedFrom thread ordinal row there
        exact ⟨event, mem, place, stored⟩
  queued := queued
  ended := ended

/-- The entries of a batch that can be stored. -/
def entriesOf (storing : Storing) (batch : List PendingEvent) : List (Ordinal × AgentEvent) :=
  batch.filterMap fun p => (p.row storing).map fun row => (p.ordinal, row)

lemma mem_entriesOf {batch : List PendingEvent} {ordinal : Ordinal} {row : AgentEvent} :
    (ordinal, row) ∈ entriesOf storing batch ↔
      ∃ p ∈ batch, p.ordinal = ordinal ∧ p.row storing = some row := by
  rw [entriesOf, List.mem_filterMap]
  constructor
  · rintro ⟨p, mem, same⟩
    obtain ⟨row', stored, pair⟩ := Option.map_eq_some_iff.mp same
    cases pair
    exact ⟨p, mem, rfl, stored⟩
  · rintro ⟨p, mem, rfl, stored⟩
    refine ⟨p, mem, ?_⟩
    rw [stored, Option.map_some]

lemma keys_entriesOf (batch : List PendingEvent) : (entriesOf storing batch).map Prod.fst =
    (batch.filter fun p => (p.row storing).isSome).map PendingEvent.ordinal := by
  induction batch with
  | nil => rfl
  | cons p batch ih =>
    rw [entriesOf] at ih ⊢
    cases stored : p.row storing with
    | none => rw [List.filterMap_cons, List.filter_cons, stored, Option.map_none, ih]; rfl
    | some row => rw [List.filterMap_cons, List.filter_cons, stored, Option.map_some, List.map_cons, ih]; rfl

/-- A batch of events that can all be stored, or that can all not be, stores what can be. -/
lemma items_writeBatch {rows : Dict Ordinal AgentEvent} {batch : List PendingEvent}
    (pure : (∀ p ∈ batch, (p.row storing).isSome = true) ∨ ∀ p ∈ batch, p.row storing = none)
    (free : (rows.keys ++ (entriesOf storing batch).map Prod.fst).Nodup) :
    (writeBatch storing rows batch).items = rows.items ++ entriesOf storing batch := by
  rcases pure with all | all
  · have whole : (batch.mapM fun p => (rowOf storing p.kind p.detail).map fun row => (p.ordinal, row)) =
        some (entriesOf storing batch) := by
      clear free
      induction batch with
      | nil => rfl
      | cons p batch ih =>
        obtain ⟨row, stored⟩ := Option.isSome_iff_exists.mp (all p List.mem_cons_self)
        rw [PendingEvent.row] at stored
        have entries : entriesOf storing (p :: batch) = (p.ordinal, row) :: entriesOf storing batch := by
          rw [entriesOf, List.filterMap_cons, PendingEvent.row, stored]
          rfl
        rw [List.mapM_cons, ih fun q mem => all q (List.mem_cons_of_mem _ mem), entries, stored]
        rfl
    rw [writeBatch, whole]
    dsimp only
    rw [if_pos free]
    apply Dict.items_foldl_set
    rw [List.map_append]
    exact free
  · have nothing : entriesOf storing batch = [] := by
      rw [entriesOf, List.filterMap_eq_nil_iff]
      intro p mem
      rw [all p mem, Option.map_none]
    rw [nothing, List.append_nil]
    cases batch with
    | nil => simp [writeBatch, Dict.keys_nodup]
    | cons p batch =>
      have unstored : rowOf storing p.kind p.detail = none := all p List.mem_cons_self
      rw [writeBatch, List.mapM_cons, unstored]
      rfl

lemma Accounted.write (acc : Accounted storing before s) (pure : Orderly storing s .write)
    (st : LogStep storing s .write t) : Accounted storing before t := by
  have rows : t.rows = writeBatch storing s.rows s.batch := by cases st; rfl
  have recorded : t.recorded = s.recorded := by cases st; rfl
  have uncommitted : t.uncommitted = s.uncommitted := by cases st; rfl
  have queue : t.queue = s.queue := by cases st; rfl
  have pending : s.pending = t.pending ++ s.batch := by
    cases st
    simp [LogState.pending]
  have inUse : (s.inUse storing).Perm ((t.pending.filter fun p => (p.row storing).isSome).map PendingEvent.ordinal
      ++ (s.uncommitted.map (·.2.1) ++ (s.rows.keys ++ (entriesOf storing s.batch).map Prod.fst))) := by
    rw [LogState.inUse, pending, List.filter_append, List.map_append, keys_entriesOf, List.append_assoc,
      ← List.append_assoc (s.uncommitted.map _)]
    exact List.perm_append_comm.append_left _
  have items : t.rows.items = s.rows.items ++ entriesOf storing s.batch := by
    rw [rows]
    apply items_writeBatch pure
    exact (inUse.nodup_iff.mp acc.distinct).of_append_right.of_append_right
  apply acc.stores _ items recorded
  case inUse =>
    have keys : t.rows.keys = s.rows.keys ++ (entriesOf storing s.batch).map Prod.fst := by
      rw [Dict.keys, items, List.map_append, Dict.keys]
    rw [LogState.inUse, uncommitted, keys]
    exact inUse.symm
  case pending =>
    intro p mem
    rw [pending]
    exact List.mem_append_left _ mem
  case uncommitted =>
    rw [uncommitted]
    exact fun row mem => mem
  case entriesFrom =>
    intro ordinal row mem
    obtain ⟨p, there, place, stored⟩ := mem_entriesOf.mp mem
    refine .inl ⟨p, ?_, place, stored⟩
    rw [pending]
    exact List.mem_append_right _ there
  case pendingTo =>
    intro p mem row stored
    rw [pending] at mem
    exact (List.mem_append.mp mem).imp_right fun there => mem_entriesOf.mpr ⟨p, there, rfl, stored⟩
  case uncommittedTo =>
    rw [uncommitted]
    exact fun row mem => .inl mem
  case queued =>
    rw [queue]
    exact acc.queued
  case ended =>
    cases st
    exact fun stopped => ⟨(acc.ended stopped).1, rfl⟩

lemma Accounted.commit {thread : ThreadId} (acc : Accounted storing before s)
    (st : LogStep storing s (.commit thread) t) : Accounted storing before t := by
  have rows : t.rows = ((s.uncommitted.filter (·.1 = thread)).map (·.2)).foldl
      (fun rows entry => rows.set entry.1 entry.2) s.rows := by cases st; rfl
  have recorded : t.recorded = s.recorded := by cases st; rfl
  have uncommitted : t.uncommitted = s.uncommitted.filter (·.1 ≠ thread) := by cases st; rfl
  have queue : t.queue = s.queue := by cases st; rfl
  have pending : t.pending = s.pending := by cases st; rfl
  have split : ((s.uncommitted.filter (·.1 ≠ thread)) ++ s.uncommitted.filter (·.1 = thread)).Perm
      s.uncommitted := by
    have perm := List.filter_append_perm (fun row => decide (row.1 = thread)) s.uncommitted
    simp only [← decide_not] at perm
    exact List.perm_append_comm.trans perm
  have inUse : (s.inUse storing).Perm ((s.pending.filter fun p => (p.row storing).isSome).map PendingEvent.ordinal
      ++ ((s.uncommitted.filter (·.1 ≠ thread)).map (·.2.1) ++
        (s.rows.keys ++ ((s.uncommitted.filter (·.1 = thread)).map (·.2)).map Prod.fst))) := by
    rw [LogState.inUse]
    apply List.Perm.append_left
    rw [← List.append_assoc]
    refine ((split.map (·.2.1)).symm.append_right s.rows.keys).trans ?_
    rw [List.map_append, List.append_assoc, List.append_assoc, List.map_map]
    exact List.perm_append_comm.append_left _
  have items : t.rows.items = s.rows.items ++ (s.uncommitted.filter (·.1 = thread)).map (·.2) := by
    rw [rows]
    apply Dict.items_foldl_set
    rw [List.map_append]
    exact (inUse.nodup_iff.mp acc.distinct).of_append_right.of_append_right
  apply acc.stores _ items recorded
  case inUse =>
    have keys : t.rows.keys =
        s.rows.keys ++ ((s.uncommitted.filter (·.1 = thread)).map (·.2)).map Prod.fst := by
      rw [Dict.keys, items, List.map_append, Dict.keys]
    rw [LogState.inUse, pending, uncommitted, keys]
    exact inUse.symm
  case pending =>
    rw [pending]
    exact fun p mem => mem
  case uncommitted =>
    rw [uncommitted]
    exact fun row mem => (List.mem_filter.mp mem).1
  case entriesFrom =>
    intro ordinal row mem
    obtain ⟨⟨by_, entry⟩, there, same⟩ := List.mem_map.mp mem
    cases same
    exact .inr ⟨by_, (List.mem_filter.mp there).1⟩
  case pendingTo =>
    rw [pending]
    exact fun p mem row _ => .inl mem
  case uncommittedTo =>
    intro row mem
    exact (List.mem_append.mp (split.mem_iff.mpr mem)).imp (uncommitted ▸ ·) (List.mem_map_of_mem ·)
  case queued =>
    rw [queue]
    exact acc.queued
  case ended =>
    cases st
    exact acc.ended

/-! ### A step back -/

lemma Accounted.rollback {thread : ThreadId} (acc : Accounted storing before s)
    (st : LogStep storing s (.rollback thread) t) : Accounted storing before t := by
  have rows : t.rows = s.rows := by cases st; rfl
  have recorded : t.recorded = s.recorded.filter fun event =>
      (event.thread, event.ordinal) ∉ (s.uncommitted.filter (·.1 = thread)).map fun row => (row.1, row.2.1) := by
    cases st
    rfl
  have uncommitted : t.uncommitted = s.uncommitted.filter (·.1 ≠ thread) := by cases st; rfl
  have queue : t.queue = s.queue := by cases st; rfl
  have pending : t.pending = s.pending := by cases st; rfl
  have others := List.nodup_append.mp acc.distinct
  have keeps : ∀ event, event ∈ t.recorded ↔ event ∈ s.recorded ∧
      ∀ row, (event.thread, event.ordinal, row) ∈ s.uncommitted → event.thread ≠ thread := by
    intro event
    rw [recorded, List.mem_filter]
    simp only [decide_eq_true_eq, List.mem_map, List.mem_filter, Prod.mk.injEq, not_exists, not_and]
    constructor
    · rintro ⟨mem, out⟩
      exact ⟨mem, fun row there own => out _ ⟨there, own⟩ rfl rfl⟩
    · rintro ⟨mem, out⟩
      refine ⟨mem, ?_⟩
      rintro ⟨by_, place, row⟩ ⟨there, own⟩ rfl rfl
      exact out row there own
  have sub : (t.tellable storing).Sublist (s.tellable storing) := by
    rw [LogState.tellable, LogState.tellable, recorded]
    exact (List.filter_sublist).filter _
  have subUse : (t.inUse storing).Sublist (s.inUse storing) := by
    rw [LogState.inUse, LogState.inUse, pending, uncommitted, rows]
    exact ((List.filter_sublist.map _).append_right _).append_left _
  constructor
  case distinct => exact acc.distinct.sublist subUse
  case located =>
    intro event mem
    rw [Located, pending, uncommitted, rows]
    rcases acc.located event (sub.subset mem) with there | ⟨row, same, there⟩ | found
    · exact .inl there
    · refine .inr (.inl ⟨row, same, List.mem_filter.mpr ⟨there, ?_⟩⟩)
      exact decide_eq_true (((keeps event).mp (mem_tellable.mp mem).1).2 row there)
    · exact .inr (.inr found)
  case rising => exact acc.rising.sublist sub
  case pendingFrom =>
    intro p mem stored
    rw [pending] at mem
    obtain ⟨event, there, rfl⟩ := acc.pendingFrom p mem stored
    refine ⟨event, (keeps event).mpr ⟨there, ?_⟩, rfl⟩
    intro row held
    exact absurd rfl (others.2.2 event.ordinal
      (List.mem_map.mpr ⟨_, List.mem_filter.mpr ⟨mem, stored⟩, rfl⟩) event.ordinal
      (List.mem_append_left _ (List.mem_map.mpr ⟨_, held, rfl⟩)))
  case uncommittedFrom =>
    intro by_ ordinal row mem
    rw [uncommitted, List.mem_filter] at mem
    obtain ⟨event, there, rfl, rfl, stored⟩ := acc.uncommittedFrom by_ ordinal row mem.1
    exact ⟨event, (keeps event).mpr ⟨there, fun _ _ => of_decide_eq_true mem.2⟩, rfl, rfl, stored⟩
  case rowsFrom =>
    intro ordinal row found
    rw [rows] at found
    apply (acc.rowsFrom ordinal row found).imp_right
    rintro ⟨event, there, rfl, stored⟩
    refine ⟨event, (keeps event).mpr ⟨there, ?_⟩, rfl, stored⟩
    intro row' held
    exact absurd rfl ((List.nodup_append.mp others.2.1).2.2 event.ordinal
      (List.mem_map.mpr ⟨_, held, rfl⟩) event.ordinal (s.rows.mem_keys_iff.mpr ⟨row, found⟩))
  case queued =>
    rw [queue]
    exact acc.queued
  case ended =>
    cases st
    exact acc.ended

/-! ### The run -/

lemma endsWithClose_of_open {queue : List (Option PendingEvent)} (opened : none ∉ queue) : EndsWithClose queue := by
  rintro ahead behind rfl
  exact absurd (List.mem_append_right _ List.mem_cons_self) opened

lemma not_mem_of_not_closed (opened : s.closed = false) : none ∉ s.queue := by
  intro mem
  rw [LogState.closed, Bool.or_eq_false_iff, List.any_eq_false] at opened
  exact opened.2 none mem rfl

lemma not_stopped_of_not_closed (opened : s.closed = false) : s.stopped = false := by
  rw [LogState.closed, Bool.or_eq_false_iff] at opened
  exact opened.1

lemma Accounted.put {thread : ThreadId} (acc : Accounted storing before s) (opened : s.closed = false)
    (st : LogStep storing s (.put thread) t) : Accounted storing before t := by
  cases st with
  | @put _ p ahead behind here =>
    apply acc.moved
    case pending =>
      rw [LogState.pending, LogState.pending, here]
      simp only [List.map_append, List.map_cons, List.reduceOption_append, List.reduceOption_singleton,
        List.append_assoc]
      apply List.Perm.append_left
      rw [← List.append_assoc, ← List.append_assoc, List.cons_append, ← List.append_assoc _ _ s.batch]
      rw [← List.cons_append]
      apply List.Perm.append_right
      exact List.perm_append_comm
    case uncommitted => rfl
    case rows => rfl
    case recorded => rfl
    case queued =>
      apply endsWithClose_of_open
      rw [List.mem_append, List.mem_singleton]
      exact not_or.mpr ⟨not_mem_of_not_closed opened, nofun⟩
    case ended =>
      intro stopped
      rw [not_stopped_of_not_closed opened] at stopped
      cases stopped

lemma Accounted.close (acc : Accounted storing before s) (st : LogStep storing s .close t) :
    Accounted storing before t := by
  cases st with
  | close opened =>
    apply acc.moved
    case pending =>
      rw [LogState.pending, LogState.pending, List.reduceOption_append]
      simp
    case uncommitted => rfl
    case rows => rfl
    case recorded => rfl
    case queued =>
      intro ahead behind same
      rcases List.eq_nil_or_concat behind with rfl | ⟨behind, last, rfl⟩
      · rfl
      · have same : s.queue ++ [none] = (ahead ++ none :: behind) ++ [last] := by simpa using same
        have queue := (List.append_inj' same rfl).1
        have mem : none ∈ s.queue := queue ▸ List.mem_append_right _ List.mem_cons_self
        exact absurd mem (not_mem_of_not_closed opened)
    case ended =>
      intro stopped
      rw [not_stopped_of_not_closed opened] at stopped
      cases stopped

lemma reduceOption_map_some (events : List PendingEvent) : (events.map some).reduceOption = events := by
  rw [List.reduceOption, List.filterMap_map]
  exact List.filterMap_some

lemma Accounted.take {count : ℕ} (acc : Accounted storing before s) (st : LogStep storing s (.take count) t) :
    Accounted storing before t := by
  cases st with
  | @take events rest idle queued size running =>
    apply acc.moved
    case pending =>
      rw [LogState.pending, LogState.pending, queued, idle, List.reduceOption_append, reduceOption_map_some,
        List.append_nil, List.append_assoc]
      exact List.perm_append_comm.append_left _
    case uncommitted => rfl
    case rows => rfl
    case recorded => rfl
    case queued =>
      rintro ahead behind rfl
      apply acc.queued (events.map some ++ ahead)
      rw [queued, List.append_assoc]
    case ended =>
      intro stopped
      rw [running] at stopped
      cases stopped

lemma Accounted.stop (acc : Accounted storing before s) (st : LogStep storing s .stop t) :
    Accounted storing before t := by
  cases st with
  | @stop rest idle queued =>
    have nothing : rest = [] := acc.queued [] rest queued
    apply acc.moved
    case pending =>
      rw [LogState.pending, LogState.pending, queued, nothing]
      rfl
    case uncommitted => rfl
    case rows => rfl
    case recorded => rfl
    case queued =>
      rw [nothing]
      exact endsWithClose_of_open List.not_mem_nil
    case ended => exact fun _ => ⟨nothing, idle⟩

lemma Accounted.step {l : LogLabel} (acc : Accounted storing before s)
    (st : Guarded (Orderly storing) (LogStep storing) s l t) : Accounted storing before t := by
  obtain ⟨orderly, st⟩ := st
  cases l with
  | claim thread kind detail => exact acc.claim orderly st
  | put thread => exact acc.put orderly st
  | close => exact acc.close st
  | take count => exact acc.take st
  | write => exact acc.write orderly st
  | stop => exact acc.stop st
  | look thread =>
    cases st
    exact acc.moved (.refl _) rfl rfl rfl acc.queued acc.ended
  | insert thread kind detail => exact acc.insert orderly st
  | commit thread => exact acc.commit st
  | rollback thread => exact acc.rollback st

lemma LogState.Opened.accounted (opened : s.Opened) : Accounted storing s.rows s := by
  have pending : s.pending = [] := by
    rw [LogState.pending, opened.claimed, opened.queue, opened.batch]
    rfl
  have tellable : s.tellable storing = [] := by
    rw [LogState.tellable, opened.recorded]
    rfl
  constructor
  case distinct =>
    rw [LogState.inUse, pending, opened.uncommitted]
    exact s.rows.keys_nodup
  case located => simp [tellable]
  case rising => simp [tellable]
  case pendingFrom => simp [pending]
  case uncommittedFrom => simp [opened.uncommitted]
  case rowsFrom => exact fun ordinal row found => .inl found
  case queued =>
    apply endsWithClose_of_open
    simp [opened.queue]
  case ended =>
    rw [opened.stopped]
    exact nofun

lemma Accounted.told (acc : Accounted storing before s) (after : s.AfterClose) : Told storing before s := by
  have pending : s.pending = [] := by
    rw [LogState.pending, after.claimed, (acc.ended after.stopped).1, (acc.ended after.stopped).2]
    rfl
  constructor
  case stored =>
    intro event mem
    rcases acc.located event mem with ⟨p, there, _⟩ | ⟨row, _, there⟩ | found
    · rw [pending] at there
      cases there
    · rw [after.uncommitted] at there
      cases there
    · exact found
  case unique => exact List.pairwise_map.mpr (acc.rising.imp ne_of_lt)
  case ordered =>
    apply acc.rising.imp
    intro a b below _
    exact below
  case only =>
    intro ordinal row found
    apply (acc.rowsFrom ordinal row found).imp_right
    rintro ⟨event, mem, place, stored⟩
    exact ⟨event, mem_tellable.mpr ⟨mem, by rw [stored]; rfl⟩, place, stored⟩

/-- Whoever records and whenever, after close nothing is lost, as long as the places taken do not collide and no
    batch mixes what can be stored with what cannot. -/
theorem tells_all (storing : Storing) (s t : LogState) (ls : List LogLabel) (opened : s.Opened)
    (run : Run (Guarded (Orderly storing) (LogStep storing)) s ls t) (after : t.AfterClose) :
    Told storing s.rows t :=
  (run.invariant (Accounted storing s.rows) opened.accounted fun _ _ _ acc st => acc.step st).told after

/-- Every detail is stored as it is. -/
def storingAll : Storing := ⟨some, fun _ => false, fun _ _ => true⟩

/-- A log with one event stored. -/
def begun : LogState :=
  { rows := ⟨[(1, ⟨"run_started", []⟩)], by decide⟩
    next := 2
    recorded := [⟨0, 1, "run_started", []⟩] }

lemma run_begun : Run (Guarded (Orderly storingAll) (LogStep storingAll)) {}
    [.claim 0 "run_started" [], .put 0, .take 1, .write] begun := by
  have run : ∃ t : LogState, Run (Guarded (Orderly storingAll) (LogStep storingAll)) {}
      [.claim 0 "run_started" [], .put 0, .take 1, .write] t ∧ t = begun := by
    refine ⟨_, .snoc (.snoc (.snoc (.snoc .nil ⟨?free, .claim ?idle⟩)
      ⟨?opened, @LogStep.put _ _ 0 ⟨1, "run_started", []⟩ [] [] rfl⟩)
      ⟨trivial, @LogStep.take _ _ [⟨1, "run_started", []⟩] [] rfl rfl (by decide) rfl⟩)
      ⟨?pure, .write ?unblocked⟩, rfl⟩
    case free =>
      intro _ o mem
      cases mem
    case idle => exact List.not_mem_nil
    case opened => rfl
    case pure => exact .inl (List.forall_mem_singleton.mpr rfl)
    case unblocked => exact fun _ _ => List.not_mem_nil
  obtain ⟨t, run, rfl⟩ := run
  exact run

/-- A finding decided after the run. -/
theorem tells_all_decidedLater : ∃ t : LogState,
    t.rows.items = [(1, ⟨"run_started", []⟩), (2, ⟨"insight_updated", []⟩)] ∧ Told storingAll .empty t := by
  have run : ∃ t : LogState, Run (Guarded (Orderly storingAll) (LogStep storingAll)) begun
      [.close, .stop, .look 1, .insert 1 "insight_updated" [], .commit 1] t ∧
      t = { rows := ⟨[(1, ⟨"run_started", []⟩), (2, ⟨"insight_updated", []⟩)], by decide⟩
            next := 2
            stopped := true
            recorded := [⟨0, 1, "run_started", []⟩, ⟨1, 2, "insight_updated", []⟩] } := by
    refine ⟨_, .snoc (.snoc (.snoc (.snoc (.snoc .nil ⟨trivial, .close rfl⟩) ⟨trivial, .stop rfl rfl⟩)
      ⟨trivial, .look⟩) ⟨?above, @LogStep.insert _ _ 1 "insight_updated" [] 1 rfl ?alone⟩)
      ⟨trivial, .commit⟩, rfl⟩
    case above =>
      intro _ highest saw o mem
      cases saw
      have one : o ∈ [1] := mem
      rw [List.mem_singleton.mp one]
      exact Nat.lt_succ_self 1
    case alone => exact fun _ mem => absurd mem List.not_mem_nil
  obtain ⟨t, run, rfl⟩ := run
  exact ⟨_, rfl, tells_all _ _ _ _ ⟨Nat.one_pos, rfl, rfl, rfl, rfl, rfl, rfl⟩ (run_begun.append run) ⟨rfl, rfl, rfl⟩⟩

/-- A finding settled inside the run has the place the log gives next. -/
def settledInside : LogState :=
  { begun with
    rows := ⟨[(1, ⟨"run_started", []⟩), (2, ⟨"insight_updated", []⟩)], by decide⟩
    recorded := [⟨0, 1, "run_started", []⟩, ⟨1, 2, "insight_updated", []⟩] }

lemma run_settledInside : Run (LogStep storingAll) begun
    [.look 1, .insert 1 "insight_updated" [], .commit 1] settledInside := by
  have run : ∃ t : LogState, Run (LogStep storingAll) begun
      [.look 1, .insert 1 "insight_updated" [], .commit 1] t ∧ t = settledInside := by
    refine ⟨_, .snoc (.snoc (.snoc .nil .look) (@LogStep.insert _ _ 1 "insight_updated" [] 1 rfl ?alone)) .commit,
      rfl⟩
    case alone => exact fun _ mem => absurd mem List.not_mem_nil
  obtain ⟨t, run, rfl⟩ := run
  exact run

/-- Two more events, one batch. -/
def batched : LogState :=
  { settledInside with
    next := 4
    batch := [⟨2, "step_started", []⟩, ⟨3, "warning", []⟩]
    recorded := [⟨0, 1, "run_started", []⟩, ⟨1, 2, "insight_updated", []⟩, ⟨0, 2, "step_started", []⟩,
      ⟨0, 3, "warning", []⟩] }

lemma run_batched : Run (LogStep storingAll) settledInside
    [.claim 0 "step_started" [], .put 0, .claim 0 "warning" [], .put 0, .take 2] batched := by
  have run : ∃ t : LogState, Run (LogStep storingAll) settledInside
      [.claim 0 "step_started" [], .put 0, .claim 0 "warning" [], .put 0, .take 2] t ∧ t = batched := by
    refine ⟨_, .snoc (.snoc (.snoc (.snoc (.snoc .nil (.claim ?idle))
      (@LogStep.put _ _ 0 ⟨2, "step_started", []⟩ [] [] rfl)) (.claim ?idle'))
      (@LogStep.put _ _ 0 ⟨3, "warning", []⟩ [] [] rfl))
      (@LogStep.take _ _ [⟨2, "step_started", []⟩, ⟨3, "warning", []⟩] [] rfl rfl (by decide) rfl), rfl⟩
    case idle => exact List.not_mem_nil
    case idle' => exact List.not_mem_nil
  obtain ⟨t, run, rfl⟩ := run
  exact run

/-- The batch violates the constraint, and all of it is lost. -/
lemma run_lost : Run (LogStep storingAll) batched [.write, .close, .stop]
    { batched with
      batch := []
      stopped := true } := by
  have run : ∃ t : LogState, Run (LogStep storingAll) batched [.write, .close, .stop] t ∧
      t = { batched with
            batch := []
            stopped := true } := by
    refine ⟨_, .snoc (.snoc (.snoc .nil (.write ?unblocked)) (.close rfl)) (.stop rfl rfl), rfl⟩
    case unblocked => exact fun _ _ => List.not_mem_nil
  obtain ⟨t, run, rfl⟩ := run
  exact run

theorem batch_lost : ¬ ∀ (storing : Storing) (s t : LogState) (ls : List LogLabel), s.Opened →
    Run (LogStep storing) s ls t → t.AfterClose → Told storing s.rows t := by
  intro claim
  have run := ((run_begun.of_guarded.append run_settledInside).append run_batched).append run_lost
  have told := claim storingAll {} _ _ ⟨Nat.one_pos, rfl, rfl, rfl, rfl, rfl, rfl⟩ run ⟨rfl, rfl, rfl⟩
  have stored := told.stored ⟨0, 3, "warning", []⟩ (mem_tellable.mpr ⟨by simp [batched], rfl⟩)
  cases stored

end ClientEngagement.Events
