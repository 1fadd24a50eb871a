import ClientEngagement.Events.Progress
import ClientEngagement.Lib.KeyOrder
import ClientEngagement.Lib.MapM

/-!
# Watching a run

Model of `stream_run_events` (`services/agent_event_stream.py`) for one watcher of one run, while the run's
events and its state are being committed. A connection reads a page of the rows after its cursor, sends each with
its ordinal as the id, then the progress; once a page is not full it reads the run's state. The watcher may lose
the connection after any message and comes back with the last id it received. `misses_nothing` says when what it
has received before the end of a finished run is all that was stored as the log closed.
-/

namespace ClientEngagement.Events

def running : String := "running"

def eventPageLimit : ℕ := 500

inductive Message where
  | activity (ordinal : Ordinal) (event : AgentEvent)
  | progress (place : Ordinal) (counted : RunProgress)
  | finish (lastOrdinal : Ordinal) (state : String)
  | keepalive

/-- The place in the run a message carries. -/
def Message.place : Message → Option Ordinal
  | .activity ordinal _ => some ordinal
  | .progress place _ => some place
  | .finish lastOrdinal _ => some lastOrdinal
  | .keepalive => none

/-- The `id` line of the frame. -/
def Message.id (message : Message) : Option String := message.place.map Nat.repr

def eventMessage (event : Ordinal × AgentEvent) : Message := .activity event.1 event.2

def Message.activity? : Message → Option (Ordinal × AgentEvent)
  | .activity ordinal event => some (ordinal, event)
  | _ => none

def Message.progress? : Message → Option RunProgress
  | .progress _ counted => some counted
  | _ => none

/-- An end that reports a finished state. -/
def Message.reportsFinished : Message → Bool
  | .finish _ state => state ≠ running
  | _ => false

def activities (messages : List Message) : List (Ordinal × AgentEvent) := messages.filterMap Message.activity?

def lastProgress (messages : List Message) : Option RunProgress :=
  (messages.filterMap Message.progress?).getLast?

def lastEventId (received : List Message) : Option String := (received.filterMap Message.id).getLast?

def resumePoint (after : Ordinal) (lastEventId : Option String) : Ordinal :=
  match lastEventId with
  | none => after
  | some text =>
    if text = "" then after
    else match text.toInt? with
      | none => after
      | some place => (max 0 place).toNat

/-- The rows of the run, in order. -/
def ordered (rows : Dict Ordinal AgentEvent) : List (Ordinal × AgentEvent) := sortBy Prod.fst rows.items

def upTo (rows : Dict Ordinal AgentEvent) (place : Ordinal) : List (Ordinal × AgentEvent) :=
  (ordered rows).filter (·.1 ≤ place)

def eventsUpTo (rows : Dict Ordinal AgentEvent) (ordinal : Ordinal) : List (Ordinal × AgentEvent) :=
  if ordinal = 0 then [] else upTo rows ordinal

def listRunEvents (rows : Dict Ordinal AgentEvent) (after : Ordinal) : List (Ordinal × AgentEvent) :=
  ((ordered rows).filter (after < ·.1)).take eventPageLimit

/-- Where the stream is: about to read a page, about to read the run's state, or at its end. -/
inductive Phase where
  | polling
  | looking
  | ended
deriving DecidableEq

structure Connection where
  cursor : Ordinal
  walk : Tally
  /-- Sent and not received. -/
  outbox : List Message
  phase : Phase

structure WatchState where
  log : LogState := {}
  /-- The state of the run. -/
  state : String := running
  received : List Message := []
  connection : Option Connection := none
  /-- What was stored as the log closed. -/
  atClose : Option (Dict Ordinal AgentEvent) := none

def WatchState.finished (s : WatchState) : Bool := s.received.getLast?.any Message.reportsFinished

variable (repr : Json → String)

def Connection.opened (rows : Dict Ordinal AgentEvent) (after : Ordinal) : Connection :=
  let walk := Tally.walk repr {} (eventsUpTo rows after)
  { cursor := after, walk := walk, outbox := [.progress after walk.progress], phase := .polling }

def Connection.poll (c : Connection) (rows : Dict Ordinal AgentEvent) : Connection :=
  match listRunEvents rows c.cursor with
  | [] => { c with phase := .looking }
  | event :: more =>
    let events := event :: more
    let cursor := (events.getLast (List.cons_ne_nil _ _)).1
    let walk := c.walk.walk repr events
    { cursor := cursor
      walk := walk
      outbox := c.outbox ++ events.map eventMessage ++ [.progress cursor walk.progress]
      phase := if events.length = eventPageLimit then .polling else .looking }

/-- `waited` and `quiet` say whether the stream has been open, or silent, for as long as the settings allow. -/
def Connection.look (c : Connection) (state : String) (waited quiet : Bool) : Connection :=
  if state ≠ running ∨ waited then
    { c with outbox := c.outbox ++ [.finish c.cursor state], phase := .ended }
  else { c with outbox := c.outbox ++ (if quiet then [.keepalive] else []), phase := .polling }

inductive WatchLabel where
  | log (label : LogLabel)
  | move (state : String)
  | connect
  | poll
  | look (waited quiet : Bool)
  | receive
  | drop

inductive WatchStep (storing : Storing) (s : WatchState) : WatchLabel → WatchState → Prop where
  | log {label log} (st : LogStep storing s.log label log) :
      WatchStep storing s (.log label)
        { s with
          log := log
          atClose := if log.stopped && !s.log.stopped then some log.rows else s.atClose }
  | move {state} : WatchStep storing s (.move state) { s with state := state }
  | connect (off : s.connection = none) (going : s.finished = false) :
      WatchStep storing s .connect
        { s with connection := some (.opened repr s.log.rows (resumePoint 0 (lastEventId s.received))) }
  | poll {c} (on : s.connection = some c) (phase : c.phase = .polling) :
      WatchStep storing s .poll { s with connection := some (c.poll repr s.log.rows) }
  | look {c waited quiet} (on : s.connection = some c) (phase : c.phase = .looking) :
      WatchStep storing s (.look waited quiet) { s with connection := some (c.look s.state waited quiet) }
  | receive {c message rest} (on : s.connection = some c) (sent : c.outbox = message :: rest)
      (going : s.finished = false) :
      WatchStep storing s .receive
        { s with
          received := s.received ++ [message]
          connection := some { c with outbox := rest } }
  | drop : WatchStep storing s .drop { s with connection := none }

/-- What the watcher has received, once it was told that the run is over, is what was stored as the log closed. -/
def MissesNothing (s : WatchState) : Prop :=
  s.finished = true → ∀ closing, s.atClose = some closing →
    activities s.received = ordered closing ∧ lastProgress s.received = some (progressFrom repr (ordered closing))

/-- The place the watcher has reached. -/
def WatchState.reached (s : WatchState) : Ordinal :=
  match s.connection with
  | some c => c.cursor
  | none => resumePoint 0 (lastEventId s.received)

/-- The condition on the steps: while the watcher is there, no row is stored behind it, and none by another session
    once the log has closed; and when it reads that the run is over, the log has closed and nothing was stored
    since it read its page. -/
def InTime (s : WatchState) : WatchLabel → Prop
  | .log .write => s.finished = false → ∀ p ∈ s.log.batch, s.reached < p.ordinal
  | .log (.commit thread) => s.finished = false → ∀ row ∈ s.log.uncommitted, row.1 = thread →
      s.reached < row.2.1 ∧ s.log.stopped = false
  | .look _ _ => s.state ≠ running → s.log.stopped = true ∧ ∀ o ∈ s.log.rows.keys, o ≤ s.reached
  | _ => True

/-- Nobody has watched yet. -/
structure WatchState.Fresh (s : WatchState) : Prop where
  log : s.log.Opened
  positive : ∀ o ∈ s.log.rows.keys, 0 < o
  received : s.received = []
  connection : s.connection = none
  atClose : s.atClose = none

variable {storing : Storing} {repr : Json → String} {rows rows' : Dict Ordinal AgentEvent}
  {atClose atClose' : Option (Dict Ordinal AgentEvent)} {s t : WatchState} {ls : List WatchLabel}
  {messages more : List Message} {message : Message}

/-! ## The rows in order -/

lemma ordered_rising (rows : Dict Ordinal AgentEvent) : (ordered rows).Pairwise fun a b => a.1 < b.1 := by
  have distinct : ((ordered rows).map Prod.fst).Nodup :=
    ((sortBy_perm Prod.fst rows.items).map Prod.fst).nodup_iff.mpr rows.nodup
  have weak : (ordered rows).Pairwise fun a b => a.1 ≤ b.1 := sortBy_pairwise Prod.fst rows.items
  exact (weak.and (List.pairwise_map.mp distinct)).imp fun ⟨le, ne⟩ => lt_of_le_of_ne le ne

lemma mem_ordered {entry : Ordinal × AgentEvent} : entry ∈ ordered rows ↔ rows.get? entry.1 = some entry.2 := by
  rw [ordered, mem_sortBy]
  exact rows.mem_items_iff

lemma ordered_eq_append (place : Ordinal) :
    ordered rows = upTo rows place ++ (ordered rows).filter (place < ·.1) := by
  have rising := ordered_rising rows
  rw [upTo]
  generalize ordered rows = entries at rising
  induction entries with
  | nil => rfl
  | cons entry later ih =>
    obtain ⟨above, rising⟩ := List.pairwise_cons.mp rising
    rw [List.filter_cons, List.filter_cons]
    by_cases le : entry.1 ≤ place
    · rw [if_pos (decide_eq_true le), if_neg (by simpa using le), List.cons_append, ← ih rising]
    · have all : ∀ other ∈ later, place < other.1 := fun other mem => (not_le.mp le).trans (above other mem)
      have none : later.filter (·.1 ≤ place) = [] := by
        rw [List.filter_eq_nil_iff]
        intro other mem
        simpa using all other mem
      have whole : later.filter (place < ·.1) = later := by
        rw [List.filter_eq_self]
        intro other mem
        simpa using all other mem
      rw [if_neg (by simpa using le), if_pos (by simpa using le), none, whole, List.nil_append]

/-- The rows up to one of them. -/
lemma upTo_of_split {before after : List (Ordinal × AgentEvent)} {entry : Ordinal × AgentEvent}
    (split : ordered rows = before ++ entry :: after) : upTo rows entry.1 = before ++ [entry] := by
  have rising := ordered_rising rows
  rw [split] at rising
  obtain ⟨_, later, below⟩ := List.pairwise_append.mp rising
  have kept : before.filter (·.1 ≤ entry.1) = before := by
    rw [List.filter_eq_self]
    intro other mem
    exact decide_eq_true (below other mem entry List.mem_cons_self).le
  have dropped : after.filter (·.1 ≤ entry.1) = [] := by
    rw [List.filter_eq_nil_iff]
    intro other mem
    simpa using (List.pairwise_cons.mp later).1 other mem
  rw [upTo, split, List.filter_append, List.filter_cons, kept, dropped]
  simp

lemma upTo_eq_ordered {place : Ordinal} (all : ∀ o ∈ rows.keys, o ≤ place) : upTo rows place = ordered rows := by
  rw [upTo, List.filter_eq_self]
  intro entry mem
  exact decide_eq_true (all _ (rows.mem_keys_iff.mpr ⟨_, mem_ordered.mp mem⟩))

/-- What is stored after a place does not show up to it. -/
lemma upTo_congr {place : Ordinal} (same : ∀ o, o ≤ place → rows'.get? o = rows.get? o) :
    upTo rows' place = upTo rows place := by
  apply List.Perm.eq_of_pairwise _ ((ordered_rising rows').filter _) ((ordered_rising rows).filter _)
  · apply (List.perm_ext_iff_of_nodup _ _).mpr
    · intro entry
      rw [List.mem_filter, List.mem_filter, mem_ordered, mem_ordered]
      apply and_congr_left
      intro le
      rw [same _ (of_decide_eq_true le)]
    · exact ((ordered_rising rows').imp fun lt eq => absurd (congrArg Prod.fst eq) lt.ne).filter _
    · exact ((ordered_rising rows).imp fun lt eq => absurd (congrArg Prod.fst eq) lt.ne).filter _
  · intro a b _ _ lt gt
    exact absurd gt lt.asymm

lemma eventsUpTo_eq (positive : ∀ o ∈ rows.keys, 0 < o) (place : Ordinal) :
    eventsUpTo rows place = upTo rows place := by
  rw [eventsUpTo]
  split
  case isTrue zero =>
    symm
    rw [upTo, List.filter_eq_nil_iff]
    intro entry mem
    have above := positive _ (rows.mem_keys_iff.mpr ⟨_, mem_ordered.mp mem⟩)
    rw [zero, decide_eq_true_eq, not_le]
    exact above
  case isFalse => rfl

/-! ## The messages -/

def places (messages : List Message) : List Ordinal := messages.filterMap Message.place

lemma lastEventId_eq (messages : List Message) : lastEventId messages = (places messages).getLast?.map Nat.repr := by
  have ids : messages.filterMap Message.id = (places messages).map Nat.repr := by
    rw [places, List.map_filterMap]
    rfl
  rw [lastEventId, ids, List.getLast?_map]

/-- The last id received is the place the watcher comes back with. -/
lemma resumePoint_lastEventId (messages : List Message) :
    resumePoint 0 (lastEventId messages) = (places messages).getLast?.getD 0 := by
  rw [lastEventId_eq]
  cases (places messages).getLast? with
  | none => rfl
  | some place =>
    rw [Option.map_some, resumePoint]
    simp only [if_neg Nat.repr_ne_empty, Nat.toInt?_repr]
    simp

/-- A message fits what was sent before it: an activity is the next row, a progress counts the rows sent, and an
    end comes when nothing is missing. -/
def Faithful (repr : Json → String) (rows : Dict Ordinal AgentEvent)
    (atClose : Option (Dict Ordinal AgentEvent)) (before : List Message) : Message → Prop
  | .activity ordinal event => activities before ++ [(ordinal, event)] = upTo rows ordinal
  | .progress place counted => activities before = upTo rows place ∧ counted = progressFrom repr (upTo rows place)
  | .finish lastOrdinal state => activities before = upTo rows lastOrdinal ∧
      (state ≠ running → ∃ closing, atClose = some closing ∧ activities before = ordered closing ∧
        lastProgress before = some (progressFrom repr (ordered closing)))
  | .keepalive => True

def AllFaithful (repr : Json → String) (rows : Dict Ordinal AgentEvent)
    (atClose : Option (Dict Ordinal AgentEvent)) (messages : List Message) : Prop :=
  ∀ before message after, messages = before ++ message :: after → Faithful repr rows atClose before message

lemma AllFaithful.initial (all : AllFaithful repr rows atClose (messages ++ more)) :
    AllFaithful repr rows atClose messages := by
  rintro before message after rfl
  apply all before message (after ++ more)
  rw [List.append_assoc, List.cons_append]

lemma AllFaithful.append (all : AllFaithful repr rows atClose messages)
    (next : ∀ before message after, more = before ++ message :: after →
      Faithful repr rows atClose (messages ++ before) message) :
    AllFaithful repr rows atClose (messages ++ more) := by
  intro before message after split
  rcases List.append_eq_append_iff.mp split with ⟨early, rfl, rest⟩ | ⟨late, whole, rest⟩
  · exact next early message after rest
  · cases late with
    | nil =>
      rw [List.append_nil] at whole
      rw [← whole]
      have here := next [] message after rest.symm
      rwa [List.append_nil] at here
    | cons first late =>
      obtain ⟨rfl, _⟩ := List.cons.inj rest
      exact all before message late whole

lemma AllFaithful.snoc (all : AllFaithful repr rows atClose messages)
    (next : Faithful repr rows atClose messages message) :
    AllFaithful repr rows atClose (messages ++ [message]) := by
  apply all.append
  intro before message' after split
  obtain ⟨rfl, rfl, rfl⟩ : before = [] ∧ message = message' ∧ after = [] := by
    cases before with
    | nil => simpa using split
    | cons _ before => simp at split
  rw [List.append_nil]
  exact next

/-- What was sent is what was stored up to the last place. -/
lemma AllFaithful.caughtUp (all : AllFaithful repr rows atClose messages) (positive : ∀ o ∈ rows.keys, 0 < o) :
    activities messages = upTo rows ((places messages).getLast?.getD 0) := by
  induction messages using List.reverseRecOn with
  | nil =>
    rw [← eventsUpTo_eq positive]
    rfl
  | append_singleton before message ih =>
    have here := all before message [] rfl
    have acts : activities (before ++ [message]) = activities before ++ message.activity?.toList := by
      rw [activities, List.filterMap_append]
      cases message <;> rfl
    have ends : places (before ++ [message]) = places before ++ message.place.toList := by
      rw [places, List.filterMap_append]
      cases message <;> rfl
    rw [acts, ends]
    cases message with
    | activity ordinal event => simpa [Message.activity?, Message.place, Faithful] using here
    | progress place counted => simpa [Message.activity?, Message.place] using here.1
    | finish lastOrdinal state => simpa [Message.activity?, Message.place] using here.1
    | keepalive => simpa [Message.activity?, Message.place] using ih all.initial

lemma Faithful.mono {before : List Message} (here : Faithful repr rows atClose before message)
    (same : ∀ place, message.place = some place → upTo rows' place = upTo rows place)
    (closing : ∀ closing, atClose = some closing → atClose' = some closing) :
    Faithful repr rows' atClose' before message := by
  cases message with
  | activity ordinal event =>
    rw [Faithful, same ordinal rfl]
    exact here
  | progress place counted =>
    rw [Faithful, same place rfl]
    exact here
  | finish lastOrdinal state =>
    rw [Faithful, same lastOrdinal rfl]
    refine ⟨here.1, fun done => ?_⟩
    obtain ⟨stored, closed, told⟩ := here.2 done
    exact ⟨stored, closing stored closed, told⟩
  | keepalive => trivial

/-! ## The invariant -/

/-- All that was sent and may still be received. -/
def WatchState.sent (s : WatchState) : List Message :=
  match s.connection with
  | some c => s.received ++ c.outbox
  | none => s.received

/-- What holds while the watcher has not been told that the run is over. -/
structure Watched (repr : Json → String) (s : WatchState) : Prop where
  positive : ∀ o ∈ s.log.rows.keys, 0 < o
  faithful : AllFaithful repr s.log.rows s.atClose s.sent
  rising : (places s.sent).Pairwise (· ≤ ·)
  place : (places s.sent).getLast?.getD 0 = s.reached
  walked : ∀ c, s.connection = some c → c.walk = Tally.walk repr {} (upTo s.log.rows c.cursor) ∧
    lastProgress s.sent = some c.walk.progress
  opened : s.log.stopped = false → s.atClose = none
  closed : s.log.stopped = true → s.atClose = some s.log.rows ∧ s.log.batch = []

/-- What holds from then on. -/
def Complete (repr : Json → String) (s : WatchState) : Prop :=
  s.log.stopped = true ∧ ∃ closing, s.atClose = some closing ∧ activities s.received = ordered closing ∧
    lastProgress s.received = some (progressFrom repr (ordered closing))

structure WatchInv (repr : Json → String) (s : WatchState) : Prop where
  watched : s.finished = false → Watched repr s
  complete : s.finished = true → Complete repr s

lemma Watched.caughtUp (w : Watched repr s) : activities s.sent = upTo s.log.rows s.reached := by
  rw [← w.place]
  exact w.faithful.caughtUp w.positive

lemma le_getLast {places : List ℕ} (rising : places.Pairwise (· ≤ ·)) :
    ∀ place ∈ places, place ≤ places.getLast?.getD 0 := by
  induction places using List.reverseRecOn with
  | nil => exact fun place mem => absurd mem List.not_mem_nil
  | append_singleton before last _ =>
    intro place mem
    rw [List.getLast?_concat, Option.getD_some]
    rcases List.mem_append.mp mem with mem | mem
    · exact (List.pairwise_append.mp rising).2.2 place mem last (List.mem_singleton.mpr rfl)
    · exact (List.mem_singleton.mp mem).le

lemma Watched.le_reached (w : Watched repr s) : ∀ place ∈ places s.sent, place ≤ s.reached := by
  rw [← w.place]
  exact le_getLast w.rising

lemma places_append : places (messages ++ more) = places messages ++ places more := List.filterMap_append

lemma activities_append : activities (messages ++ more) = activities messages ++ activities more :=
  List.filterMap_append

/-- A message that is about the place reached. -/
lemma rising_snoc (message : Message) {reached : Ordinal} (rising : (places messages).Pairwise (· ≤ ·))
    (last : (places messages).getLast?.getD 0 ≤ reached) (place : message.place = some reached) :
    (places (messages ++ [message])).Pairwise (· ≤ ·) ∧
      (places (messages ++ [message])).getLast?.getD 0 = reached := by
  have ends : places (messages ++ [message]) = places messages ++ [reached] := by
    rw [places_append, places, places, List.filterMap_cons, place]
    rfl
  rw [ends]
  constructor
  · apply List.pairwise_append.mpr ⟨rising, List.pairwise_singleton _ _, ?_⟩
    intro earlier mem later here
    rw [List.mem_singleton.mp here]
    exact (le_getLast rising earlier mem).trans last
  · rw [List.getLast?_concat, Option.getD_some]

/-! ### The steps of the log -/

lemma rows_step {l : LogLabel} {log log' : LogState} (st : LogStep storing log l log') :
    ∃ entries : List (Ordinal × AgentEvent),
      log'.rows = entries.foldl (fun rows entry => rows.set entry.1 entry.2) log.rows ∧
      ∀ entry ∈ entries, (l = .write ∧ ∃ p ∈ log.batch, p.ordinal = entry.1) ∨
        ∃ thread, l = .commit thread ∧ (thread, entry) ∈ log.uncommitted := by
  cases st with
  | write unblocked =>
    dsimp only
    rw [writeBatch]
    split
    case h_1 => exact ⟨[], rfl, fun _ mem => absurd mem List.not_mem_nil⟩
    case h_2 entries whole =>
      split
      case isTrue =>
        refine ⟨entries, rfl, fun entry mem => .inl ⟨rfl, ?_⟩⟩
        obtain ⟨p, here, same⟩ := exists_of_mapM_eq_some whole entry mem
        obtain ⟨row, _, rfl⟩ := Option.map_eq_some_iff.mp same
        exact ⟨p, here, rfl⟩
      case isFalse => exact ⟨[], rfl, fun _ mem => absurd mem List.not_mem_nil⟩
  | @commit thread =>
    refine ⟨_, rfl, fun entry mem => .inr ⟨thread, rfl, ?_⟩⟩
    obtain ⟨row, here, rfl⟩ := List.mem_map.mp mem
    obtain ⟨here, own⟩ := List.mem_filter.mp here
    rw [← of_decide_eq_true own]
    exact here
  | claim _ | put _ | close _ | take _ _ _ _ | stop _ _ | look | insert _ _ | rollback =>
    exact ⟨[], rfl, fun _ mem => absurd mem List.not_mem_nil⟩

lemma stopped_step {l : LogLabel} {log log' : LogState} (st : LogStep storing log l log')
    (stopped : log.stopped = true) : log'.stopped = true := by
  cases st <;> first | exact stopped | rfl

lemma batch_step {l : LogLabel} {log log' : LogState} (st : LogStep storing log l log')
    (closed : log.stopped = true → log.batch = []) : log'.stopped = true → log'.batch = [] := by
  cases st with
  | write _ => exact fun _ => rfl
  | stop idle _ => exact fun _ => idle
  | take _ _ _ going =>
    intro stopped
    rw [going] at stopped
    cases stopped
  | claim _ | put _ | close _ | look | insert _ _ | commit | rollback => exact closed

lemma WatchInv.log {l : LogLabel} {log : LogState} (inv : WatchInv repr s) (inTime : InTime s (.log l))
    (st : LogStep storing s.log l log) :
    WatchInv repr { s with
      log := log
      atClose := if log.stopped && !s.log.stopped then some log.rows else s.atClose } := by
  constructor
  case complete =>
    intro finished
    obtain ⟨stopped, closing, closed, told⟩ := inv.complete finished
    refine ⟨stopped_step st stopped, closing, ?_, told⟩
    rw [stopped, Bool.not_true, Bool.and_false, if_neg Bool.false_ne_true]
    exact closed
  case watched =>
    intro going
    replace going : s.finished = false := going
    have w := inv.watched going
    obtain ⟨entries, rows, from_⟩ := rows_step st
    have ahead : ∀ entry ∈ entries, s.reached < entry.1 ∧ s.log.stopped = false := by
      intro entry mem
      rcases from_ entry mem with ⟨rfl, p, here, place⟩ | ⟨thread, rfl, here⟩
      · refine ⟨place ▸ inTime going p here, ?_⟩
        rw [← Bool.not_eq_true]
        intro stopped
        rw [(w.closed stopped).2] at here
        cases here
      · exact inTime going _ here rfl
    have agree : ∀ o, o ≤ s.reached → log.rows.get? o = s.log.rows.get? o := by
      intro o le
      rw [rows]
      apply Dict.get?_foldl_set_of_not_mem
      intro mem
      obtain ⟨entry, here, rfl⟩ := List.mem_map.mp mem
      exact absurd (ahead entry here).1 le.not_gt
    have same : s.log.stopped = true → log.rows = s.log.rows := by
      intro stopped
      cases entries with
      | nil => exact rows
      | cons entry _ =>
        have going := (ahead entry List.mem_cons_self).2
        rw [stopped] at going
        cases going
    constructor
    case positive =>
      intro o mem
      by_cases above : o ≤ s.reached
      · obtain ⟨row, found⟩ := log.rows.mem_keys_iff.mp mem
        exact w.positive o (s.log.rows.mem_keys_iff.mpr ⟨row, (agree o above).symm.trans found⟩)
      · exact (Nat.zero_le _).trans_lt (not_le.mp above)
    case faithful =>
      intro before message after split
      apply (w.faithful before message after split).mono
      · intro place here
        apply upTo_congr
        intro o le
        have mem : place ∈ places s.sent :=
          List.mem_filterMap.mpr ⟨message, split ▸ List.mem_append_right _ List.mem_cons_self, here⟩
        exact agree o (le.trans (w.le_reached place mem))
      · intro closing closed
        have stopped : s.log.stopped = true := by
          by_contra running
          rw [w.opened (Bool.not_eq_true _ ▸ running)] at closed
          cases closed
        rw [stopped, Bool.not_true, Bool.and_false, if_neg Bool.false_ne_true]
        exact closed
    case rising => exact w.rising
    case place => exact w.place
    case walked =>
      intro c on
      have reached : s.reached = c.cursor := by
        replace on : s.connection = some c := on
        rw [WatchState.reached, on]
      refine ⟨?_, (w.walked c on).2⟩
      rw [upTo_congr fun o le => agree o (reached ▸ le)]
      exact (w.walked c on).1
    case opened =>
      intro opened
      replace opened : log.stopped = false := opened
      dsimp only
      rw [opened, Bool.false_and, if_neg Bool.false_ne_true]
      apply w.opened
      rw [← Bool.not_eq_true]
      intro stopped
      rw [stopped_step st stopped] at opened
      cases opened
    case closed =>
      intro stopped
      replace stopped : log.stopped = true := stopped
      refine ⟨?_, batch_step st (fun stopped => (w.closed stopped).2) stopped⟩
      dsimp only
      rw [stopped, Bool.true_and]
      cases before : s.log.stopped with
      | false => rfl
      | true =>
        rw [same before]
        exact (w.closed before).1

/-! ### The steps of the stream -/

lemma WatchState.reached_of_on {c : Connection} (on : s.connection = some c) : s.reached = c.cursor := by
  rw [WatchState.reached, on]

lemma WatchState.sent_of_on {c : Connection} (on : s.connection = some c) : s.sent = s.received ++ c.outbox := by
  rw [WatchState.sent, on]

/-- A step of the connection: what is stored and what was received stay. -/
lemma WatchInv.connected {c : Connection} (inv : WatchInv repr s)
    (next : s.finished = false → Watched repr { s with connection := some c }) :
    WatchInv repr { s with connection := some c } :=
  ⟨next, inv.complete⟩

/-- What was sent, the place reached and the walk are all that counts. -/
lemma Watched.same (w : Watched repr s) (log : t.log = s.log) (atClose : t.atClose = s.atClose)
    (sent : t.sent = s.sent) (reached : t.reached = s.reached)
    (walks : ∀ c, t.connection = some c → ∃ c', s.connection = some c' ∧ c'.walk = c.walk ∧ c'.cursor = c.cursor) :
    Watched repr t where
  positive := by
    rw [log]
    exact w.positive
  faithful := by
    rw [log, atClose, sent]
    exact w.faithful
  rising := by
    rw [sent]
    exact w.rising
  place := by
    rw [sent, reached]
    exact w.place
  walked := by
    intro c here
    obtain ⟨c', on, walk, cursor⟩ := walks c here
    rw [log, sent, ← walk, ← cursor]
    exact w.walked c' on
  opened := by
    rw [log, atClose]
    exact w.opened
  closed := by
    rw [log, atClose]
    exact w.closed

lemma Watched.connect (w : Watched repr s) (off : s.connection = none) :
    Watched repr { s with
      connection := some (.opened repr s.log.rows (resumePoint 0 (lastEventId s.received))) } := by
  have received : s.sent = s.received := by rw [WatchState.sent, off]
  have reached : s.reached = resumePoint 0 (lastEventId s.received) := by rw [WatchState.reached, off]
  have caught := w.caughtUp
  have place := w.place
  have rising := w.rising
  rw [received, reached] at caught place
  rw [received] at rising
  have shown (counted : RunProgress) :=
    rising_snoc (.progress (resumePoint 0 (lastEventId s.received)) counted) rising place.le rfl
  constructor
  case positive => exact w.positive
  case faithful =>
    apply (received ▸ w.faithful).snoc
    refine ⟨caught, ?_⟩
    rw [eventsUpTo_eq w.positive, progressFrom]
  case rising => exact (shown _).1
  case place => exact (shown _).2
  case walked =>
    intro c here
    cases here
    refine ⟨?_, ?_⟩
    · rw [Connection.opened]
      exact congrArg (Tally.walk repr {}) (eventsUpTo_eq w.positive _)
    · rw [lastProgress, WatchState.sent, List.filterMap_append]
      exact List.getLast?_concat
  case opened => exact w.opened
  case closed => exact w.closed

lemma activities_eventMessage (events : List (Ordinal × AgentEvent)) :
    activities (events.map eventMessage) = events := by
  rw [activities, List.filterMap_map]
  exact List.filterMap_some

lemma places_eventMessage (events : List (Ordinal × AgentEvent)) :
    places (events.map eventMessage) = events.map Prod.fst := by
  rw [places, List.filterMap_map]
  exact congrFun List.filterMap_eq_map events

lemma progress_eventMessage (events : List (Ordinal × AgentEvent)) :
    (events.map eventMessage).filterMap Message.progress? = [] := by
  rw [List.filterMap_map, List.filterMap_eq_nil_iff]
  exact fun _ _ => rfl

/-- A page is the next rows of the run. -/
lemma exists_page (rows : Dict Ordinal AgentEvent) (cursor : Ordinal) :
    ∃ later, ordered rows = upTo rows cursor ++ listRunEvents rows cursor ++ later := by
  refine ⟨((ordered rows).filter (cursor < ·.1)).drop eventPageLimit, ?_⟩
  rw [listRunEvents, List.append_assoc, List.take_append_drop]
  exact ordered_eq_append cursor

/-- A page and the progress after it. -/
lemma Watched.page {c : Connection} {init : List (Ordinal × AgentEvent)} {last : Ordinal × AgentEvent}
    (w : Watched repr s) (on : s.connection = some c)
    (page : listRunEvents s.log.rows c.cursor = init ++ [last]) (phase : Phase) :
    Watched repr { s with
      connection := some
        { cursor := last.1
          walk := c.walk.walk repr (init ++ [last])
          outbox := c.outbox ++ (init ++ [last]).map eventMessage ++
            [.progress last.1 (c.walk.walk repr (init ++ [last])).progress]
          phase := phase } } := by
  obtain ⟨later, split⟩ := exists_page s.log.rows c.cursor
  rw [page] at split
  have caught : activities s.sent = upTo s.log.rows c.cursor := by
    rw [w.caughtUp, WatchState.reached_of_on on]
  have whole : upTo s.log.rows last.1 = upTo s.log.rows c.cursor ++ (init ++ [last]) := by
    have here : ordered s.log.rows = (upTo s.log.rows c.cursor ++ init) ++ last :: later := by
      rw [split]
      simp only [List.append_assoc, List.singleton_append]
    rw [upTo_of_split here, List.append_assoc]
  have walked : c.walk.walk repr (init ++ [last]) = Tally.walk repr {} (upTo s.log.rows last.1) := by
    rw [(w.walked c on).1, ← Tally.walk_append, whole]
  have sent : ∀ counted, s.received ++ (c.outbox ++ (init ++ [last]).map eventMessage ++ [.progress last.1 counted]) =
      s.sent ++ (init ++ [last]).map eventMessage ++ [.progress last.1 counted] := by
    intro counted
    rw [WatchState.sent_of_on on]
    simp only [List.append_assoc]
  have above : ∀ event ∈ init ++ [last], c.cursor < event.1 := by
    intro event mem
    rw [← page, listRunEvents] at mem
    exact of_decide_eq_true (List.mem_filter.mp (List.mem_of_mem_take mem)).2
  have rows := ordered_rising s.log.rows
  rw [split] at rows
  have ascending := (List.pairwise_append.mp (List.pairwise_append.mp rows).1).2.1
  have faithful : AllFaithful repr s.log.rows s.atClose (s.sent ++ (init ++ [last]).map eventMessage) := by
    apply w.faithful.append
    intro before message after here
    obtain ⟨early, rest, parts, rfl, there⟩ := List.map_eq_append_iff.mp here
    obtain ⟨event, late, rfl, rfl, _⟩ := List.map_eq_cons_iff.mp there
    have next : ordered s.log.rows = (upTo s.log.rows c.cursor ++ early) ++ event :: (late ++ later) := by
      rw [split, parts]
      simp only [List.append_assoc, List.cons_append]
    rw [eventMessage, Faithful, activities_append, activities_eventMessage, caught, upTo_of_split next]
  have rising : (places (s.sent ++ (init ++ [last]).map eventMessage)).Pairwise (· ≤ ·) := by
    rw [places_append, places_eventMessage]
    apply List.pairwise_append.mpr ⟨w.rising, ?_, ?_⟩
    · exact List.pairwise_map.mpr (ascending.imp fun lt => le_of_lt lt)
    · intro place mem ordinal here
      obtain ⟨event, sent, rfl⟩ := List.mem_map.mp here
      have le := w.le_reached place mem
      rw [WatchState.reached_of_on on] at le
      exact le.trans (above event sent).le
  have ends : (places (s.sent ++ (init ++ [last]).map eventMessage)).getLast?.getD 0 ≤ last.1 := by
    rw [places_append, places_eventMessage, List.map_append, List.map_singleton, ← List.append_assoc,
      List.getLast?_concat]
    exact le_refl _
  have shown (counted : RunProgress) := rising_snoc (.progress last.1 counted) rising ends rfl
  constructor
  case positive => exact w.positive
  case faithful =>
    rw [WatchState.sent_of_on rfl, sent]
    apply faithful.snoc
    refine ⟨?_, ?_⟩
    · rw [activities_append, activities_eventMessage, caught, whole]
    · rw [walked, progressFrom]
  case rising =>
    rw [WatchState.sent_of_on rfl, sent]
    exact (shown _).1
  case place =>
    rw [WatchState.sent_of_on rfl, sent]
    exact (shown _).2
  case walked =>
    intro c' here
    cases here
    refine ⟨walked, ?_⟩
    rw [WatchState.sent_of_on rfl, sent, lastProgress, List.filterMap_append]
    exact List.getLast?_concat
  case opened => exact w.opened
  case closed => exact w.closed

lemma Watched.poll {c : Connection} (w : Watched repr s) (on : s.connection = some c) :
    Watched repr { s with connection := some (c.poll repr s.log.rows) } := by
  rw [Connection.poll]
  split
  case h_1 nothing =>
    apply w.same
    case log => rfl
    case atClose => rfl
    case sent => exact (WatchState.sent_of_on on).symm
    case reached => exact (WatchState.reached_of_on on).symm
    case walks =>
      intro c' here
      cases here
      exact ⟨c, on, rfl, rfl⟩
  case h_2 event more page =>
    have parts := List.dropLast_append_getLast (List.cons_ne_nil event more)
    rw [← parts] at page
    have next := w.page on page (if (event :: more).length = eventPageLimit then .polling else .looking)
    rw [parts] at next
    exact next

/-- A message that says nothing, or that it is the end. -/
lemma Watched.tells {c : Connection} (w : Watched repr s) (on : s.connection = some c) (said : List Message)
    (phase : Phase) (fits : ∀ before message after, said = before ++ message :: after →
      Faithful repr s.log.rows s.atClose (s.sent ++ before) message)
    (place : places said = [] ∨ places said = [c.cursor]) (none : said.filterMap Message.progress? = []) :
    Watched repr { s with
      connection := some { c with
        outbox := c.outbox ++ said
        phase := phase } } := by
  have sent : s.received ++ (c.outbox ++ said) = s.sent ++ said := by
    rw [WatchState.sent_of_on on, List.append_assoc]
  have reached := WatchState.reached_of_on on
  have ends : (places (s.sent ++ said)).Pairwise (· ≤ ·) ∧ (places (s.sent ++ said)).getLast?.getD 0 = c.cursor := by
    rw [places_append]
    rcases place with quiet | here
    · rw [quiet, List.append_nil]
      exact ⟨w.rising, w.place.trans reached⟩
    · rw [here]
      refine ⟨List.pairwise_append.mpr ⟨w.rising, List.pairwise_singleton _ _, ?_⟩, ?_⟩
      · intro earlier mem last there
        rw [List.mem_singleton.mp there, ← reached]
        exact w.le_reached earlier mem
      · rw [List.getLast?_concat, Option.getD_some]
  constructor
  case positive => exact w.positive
  case faithful =>
    rw [WatchState.sent_of_on rfl, sent]
    exact w.faithful.append fits
  case rising =>
    rw [WatchState.sent_of_on rfl, sent]
    exact ends.1
  case place =>
    rw [WatchState.sent_of_on rfl, sent]
    exact ends.2
  case walked =>
    intro c' here
    cases here
    refine ⟨(w.walked c on).1, ?_⟩
    rw [WatchState.sent_of_on rfl, sent, lastProgress, List.filterMap_append, none, List.append_nil]
    exact (w.walked c on).2
  case opened => exact w.opened
  case closed => exact w.closed

lemma Watched.look {c : Connection} {waited quiet : Bool} (w : Watched repr s) (on : s.connection = some c)
    (inTime : InTime s (.look waited quiet)) :
    Watched repr { s with connection := some (c.look s.state waited quiet) } := by
  have reached := WatchState.reached_of_on on
  rw [Connection.look]
  split
  case isTrue =>
    apply w.tells on
    case fits =>
      intro before message after split
      obtain ⟨rfl, rfl, rfl⟩ : before = [] ∧ message = .finish c.cursor s.state ∧ after = [] := by
        cases before with
        | nil => simpa using split.symm
        | cons _ before => simp at split
      rw [List.append_nil]
      refine ⟨w.caughtUp.trans (reached ▸ rfl), fun done => ?_⟩
      obtain ⟨stopped, all⟩ := inTime done
      have whole := upTo_eq_ordered all
      refine ⟨s.log.rows, (w.closed stopped).1, w.caughtUp.trans whole, ?_⟩
      rw [(w.walked c on).2, progressFrom, (w.walked c on).1, ← reached, whole]
    case place => exact .inr rfl
    case none => rfl
  case isFalse =>
    apply w.tells on
    case fits =>
      intro before message after split
      cases quiet with
      | false => simp at split
      | true =>
        obtain ⟨rfl, rfl, rfl⟩ : before = [] ∧ message = .keepalive ∧ after = [] := by
          cases before with
          | nil => simpa using split.symm
          | cons _ before => simp at split
        trivial
    case place => cases quiet <;> exact .inl rfl
    case none => cases quiet <;> rfl

/-! ### The steps of the watcher -/

lemma WatchInv.receive {c : Connection} {message : Message} {rest : List Message} (inv : WatchInv repr s)
    (on : s.connection = some c) (queued : c.outbox = message :: rest) (going : s.finished = false) :
    WatchInv repr { s with
      received := s.received ++ [message]
      connection := some { c with outbox := rest } } := by
  have w := inv.watched going
  have sent : s.sent = s.received ++ [message] ++ rest := by
    rw [WatchState.sent_of_on on, queued, List.append_assoc, List.singleton_append]
  constructor
  case watched =>
    intro _
    apply w.same
    case log => rfl
    case atClose => rfl
    case sent => exact sent.symm
    case reached => exact (WatchState.reached_of_on on).symm
    case walks =>
      intro c' here
      cases here
      exact ⟨c, on, rfl, rfl⟩
  case complete =>
    intro finished
    have last : message.reportsFinished = true := by
      rw [WatchState.finished, List.getLast?_concat] at finished
      exact finished
    have fits : Faithful repr s.log.rows s.atClose s.received message := by
      apply w.faithful s.received message rest
      rw [sent, List.append_assoc, List.singleton_append]
    cases message with
    | finish lastOrdinal state =>
      obtain ⟨closing, closed, acts, told⟩ := fits.2 (of_decide_eq_true last)
      refine ⟨?_, closing, closed, ?_, ?_⟩
      · by_contra opened
        rw [w.opened (Bool.not_eq_true _ ▸ opened)] at closed
        cases closed
      · rw [activities_append, acts]
        exact List.append_nil _
      · rw [lastProgress, List.filterMap_append]
        exact (congrArg List.getLast? (List.append_nil _)).trans told
    | activity _ _ => cases last
    | progress _ _ => cases last
    | keepalive => cases last

lemma WatchInv.drop (inv : WatchInv repr s) : WatchInv repr { s with connection := none } := by
  refine ⟨fun going => ?_, inv.complete⟩
  have w := inv.watched going
  obtain ⟨unreceived, sent⟩ : ∃ unreceived, s.sent = s.received ++ unreceived := by
    rw [WatchState.sent]
    split
    · exact ⟨_, rfl⟩
    · exact ⟨[], (List.append_nil _).symm⟩
  have rising := w.rising
  rw [sent, places_append] at rising
  constructor
  case positive => exact w.positive
  case faithful => exact (sent ▸ w.faithful).initial
  case rising => exact (List.pairwise_append.mp rising).1
  case place => exact (resumePoint_lastEventId s.received).symm
  case walked =>
    intro c here
    cases here
  case opened => exact w.opened
  case closed => exact w.closed

lemma WatchInv.step {l : WatchLabel} (inv : WatchInv repr s)
    (st : Guarded InTime (WatchStep repr storing) s l t) : WatchInv repr t := by
  obtain ⟨inTime, st⟩ := st
  cases st with
  | log st => exact inv.log inTime st
  | move => exact ⟨fun going => { inv.watched going with }, inv.complete⟩
  | connect off going => exact inv.connected fun going => (inv.watched going).connect off
  | poll on _ => exact inv.connected fun going => (inv.watched going).poll on
  | look on _ => exact inv.connected fun going => (inv.watched going).look on inTime
  | receive on queued going => exact inv.receive on queued going
  | drop => exact inv.drop

lemma WatchState.Fresh.inv (fresh : s.Fresh) : WatchInv repr s := by
  have sent : s.sent = [] := by rw [WatchState.sent, fresh.connection]; exact fresh.received
  constructor
  case watched =>
    intro _
    constructor
    case positive => exact fresh.positive
    case faithful =>
      intro before message after split
      rw [sent] at split
      simp at split
    case rising =>
      rw [sent]
      exact List.Pairwise.nil
    case place =>
      rw [sent, WatchState.reached, fresh.connection]
      dsimp only
      rw [fresh.received]
      rfl
    case walked =>
      intro c here
      rw [fresh.connection] at here
      cases here
    case opened => exact fun _ => fresh.atClose
    case closed =>
      intro stopped
      rw [fresh.log.stopped] at stopped
      cases stopped
  case complete =>
    intro finished
    rw [WatchState.finished, fresh.received] at finished
    cases finished

/-- In whatever order events and states are committed and whenever the connection is lost, a watcher who is told
    that the run is over has received each event that was stored as the log closed, once and in order, and the
    progress over all of them, as long as nothing is stored behind it and the run is over last. -/
theorem misses_nothing (repr : Json → String) (storing : Storing) (s t : WatchState) (ls : List WatchLabel)
    (fresh : s.Fresh) (run : Run (Guarded InTime (WatchStep repr storing)) s ls t) : MissesNothing repr t := by
  have inv : WatchInv repr t := run.invariant (WatchInv repr) fresh.inv fun _ _ _ inv st => inv.step st
  intro finished closing closed
  obtain ⟨_, stored, same, told⟩ := inv.complete finished
  cases closed.symm.trans same
  exact told

/-- How a value without a text of its own is written does not matter here. -/
def noRepr : Json → String := fun _ => ""

/-- What a watcher receives of a run with one event. -/
def watched (state : String) : List Message :=
  [.progress 0 (Tally.progress {}), .activity 1 ⟨"run_started", []⟩,
    .progress 1 (progressFrom noRepr [(1, ⟨"run_started", []⟩)]), .finish 1 state]

lemma run_watched (guard : WatchState → WatchLabel → Prop) (log : LogState) (state : String)
    (atClose : Option (Dict Ordinal AgentEvent)) (rows : log.rows = begun.rows) (done : state ≠ running)
    (connects : ∀ s, guard s .connect) (polls : ∀ s, guard s .poll) (receives : ∀ s, guard s .receive)
    (looks : ∀ s : WatchState, s.log = log → s.reached = 1 → guard s (.look false false)) :
    Run (Guarded guard (WatchStep noRepr storingAll)) { log := log, state := state, atClose := atClose }
      [.connect, .poll, .look false false, .receive, .receive, .receive, .receive]
      { log := log
        state := state
        received := watched state
        connection := some ⟨1, Tally.walk noRepr {} [(1, ⟨"run_started", []⟩)], [], .ended⟩
        atClose := atClose } := by
  have connected : Connection.opened noRepr log.rows (resumePoint 0 (lastEventId [])) =
      ⟨0, {}, [.progress 0 (Tally.progress {})], .polling⟩ := by
    rw [rows]
    rfl
  have polled : Connection.poll noRepr ⟨0, {}, [.progress 0 (Tally.progress {})], .polling⟩ log.rows =
      ⟨1, Tally.walk noRepr {} [(1, ⟨"run_started", []⟩)], (watched state).take 3, .looking⟩ := by
    rw [rows]
    rfl
  have looked : Connection.look ⟨1, Tally.walk noRepr {} [(1, ⟨"run_started", []⟩)], (watched state).take 3, .looking⟩
      state false false = ⟨1, Tally.walk noRepr {} [(1, ⟨"run_started", []⟩)], watched state, .ended⟩ :=
    if_pos (.inl done)
  let going (received : List Message) (c : Connection) : WatchState :=
    { log := log, state := state, received := received, connection := some c, atClose := atClose }
  have connect : WatchStep noRepr storingAll { log := log, state := state, atClose := atClose } .connect
      (going [] ⟨0, {}, [.progress 0 (Tally.progress {})], .polling⟩) := by
    rw [← connected]
    exact .connect rfl rfl
  have poll : WatchStep noRepr storingAll (going [] ⟨0, {}, [.progress 0 (Tally.progress {})], .polling⟩) .poll
      (going [] ⟨1, Tally.walk noRepr {} [(1, ⟨"run_started", []⟩)], (watched state).take 3, .looking⟩) := by
    rw [← polled]
    exact .poll rfl rfl
  have look : WatchStep noRepr storingAll
      (going [] ⟨1, Tally.walk noRepr {} [(1, ⟨"run_started", []⟩)], (watched state).take 3, .looking⟩)
      (.look false false)
      (going [] ⟨1, Tally.walk noRepr {} [(1, ⟨"run_started", []⟩)], watched state, .ended⟩) := by
    rw [← looked]
    exact .look rfl rfl
  have receive (received rest : List Message) (message : Message)
      (more : (received.getLast?.any Message.reportsFinished) = false) :
      Guarded guard (WatchStep noRepr storingAll)
        (going received ⟨1, Tally.walk noRepr {} [(1, ⟨"run_started", []⟩)], message :: rest, .ended⟩) .receive
        (going (received ++ [message]) ⟨1, Tally.walk noRepr {} [(1, ⟨"run_started", []⟩)], rest, .ended⟩) :=
    ⟨receives _, @WatchStep.receive noRepr storingAll (going received _) _ _ _ rfl rfl more⟩
  exact .snoc (.snoc (.snoc (.snoc (.snoc (.snoc (.snoc .nil ⟨connects _, connect⟩) ⟨polls _, poll⟩)
    ⟨looks _ rfl rfl, look⟩) (receive [] _ _ rfl)) (receive ((watched state).take 1) _ _ rfl))
    (receive ((watched state).take 2) _ _ rfl)) (receive ((watched state).take 3) _ _ rfl)

lemma run_begins : Run (Guarded InTime (WatchStep noRepr storingAll)) {}
    [.log (.claim 0 "run_started" []), .log (.put 0), .log (.take 1), .log .write] { log := begun } := by
  have run : ∃ t : WatchState, Run (Guarded InTime (WatchStep noRepr storingAll)) {}
      [.log (.claim 0 "run_started" []), .log (.put 0), .log (.take 1), .log .write] t ∧ t = { log := begun } := by
    refine ⟨_, .snoc (.snoc (.snoc (.snoc .nil ⟨trivial, .log (.claim ?idle)⟩)
      ⟨trivial, .log (@LogStep.put _ _ 0 ⟨1, "run_started", []⟩ [] [] rfl)⟩)
      ⟨trivial, .log (@LogStep.take _ _ [⟨1, "run_started", []⟩] [] rfl rfl (by decide) rfl)⟩)
      ⟨?ahead, .log (.write ?unblocked)⟩, rfl⟩
    case idle => exact List.not_mem_nil
    case ahead => exact fun _ => List.forall_mem_singleton.mpr Nat.one_pos
    case unblocked => exact fun _ _ => List.not_mem_nil
  obtain ⟨t, run, rfl⟩ := run
  exact run

lemma fresh_empty : WatchState.Fresh {} :=
  ⟨⟨Nat.one_pos, rfl, rfl, rfl, rfl, rfl, rfl⟩, fun _ mem => absurd mem List.not_mem_nil, rfl, rfl, rfl⟩

/-- The run is over after its log has closed. -/
theorem misses_nothing_overLast : ∃ t : WatchState, t.finished = true ∧ t.atClose = some begun.rows ∧
    activities t.received = [(1, ⟨"run_started", []⟩)] ∧ MissesNothing noRepr t := by
  have ends : ∃ t : WatchState, Run (Guarded InTime (WatchStep noRepr storingAll)) { log := begun }
      [.log .close, .log .stop, .move "completed"] t ∧
      t = { log := { begun with stopped := true }
            state := "completed"
            atClose := some begun.rows } :=
    ⟨_, .snoc (.snoc (.snoc .nil ⟨trivial, .log (.close rfl)⟩) ⟨trivial, .log (.stop rfl rfl)⟩)
      ⟨trivial, .move⟩, rfl⟩
  obtain ⟨t, ends, rfl⟩ := ends
  have inTime : ∀ s : WatchState, s.log = { begun with stopped := true } → s.reached = 1 →
      InTime s (.look false false) := by
    intro s log reached _
    rw [log, reached]
    exact ⟨rfl, fun o mem => (List.mem_singleton.mp mem).le⟩
  have watches := run_watched InTime { begun with stopped := true } "completed" (some begun.rows) rfl (by decide)
    (fun _ => trivial) (fun _ => trivial) (fun _ => trivial) inTime
  exact ⟨_, rfl, rfl, rfl, misses_nothing _ _ _ _ _ fresh_empty ((run_begins.append ends).append watches)⟩

/-- The state is committed before the last event is recorded. -/
lemma run_overFirst : ∃ t : WatchState, Run (WatchStep noRepr storingAll)
    { log := begun
      state := "completed"
      received := watched "completed"
      connection := some ⟨1, Tally.walk noRepr {} [(1, ⟨"run_started", []⟩)], [], .ended⟩ }
    [.log (.claim 0 "run_completed" []), .log (.put 0), .log (.take 1), .log .write, .log .close, .log .stop] t ∧
    t.received = watched "completed" ∧ ∃ closing : Dict Ordinal AgentEvent, t.atClose = some closing ∧
      closing.items = [(1, ⟨"run_started", []⟩), (2, ⟨"run_completed", []⟩)] := by
  refine ⟨_, .snoc (.snoc (.snoc (.snoc (.snoc (.snoc .nil (.log (.claim ?idle)))
    (.log (@LogStep.put _ _ 0 ⟨2, "run_completed", []⟩ [] [] rfl)))
    (.log (@LogStep.take _ _ [⟨2, "run_completed", []⟩] [] rfl rfl (by decide) rfl)))
    (.log (.write ?unblocked))) (.log (.close rfl))) (.log (.stop rfl rfl)), rfl, _, rfl, rfl⟩
  case idle => exact List.not_mem_nil
  case unblocked => exact fun _ _ => List.not_mem_nil

theorem last_event_missed : ¬ ∀ (repr : Json → String) (storing : Storing) (s t : WatchState) (ls : List WatchLabel),
    s.Fresh → Run (WatchStep repr storing) s ls t → MissesNothing repr t := by
  intro claim
  have moves : Run (WatchStep noRepr storingAll) { log := begun } [.move "completed"]
      { log := begun, state := "completed" } := .single .move
  have watches := run_watched (fun _ _ => True) begun "completed" none rfl (by decide) (fun _ => trivial)
    (fun _ => trivial) (fun _ => trivial) fun _ _ _ => trivial
  obtain ⟨t, later, received, closing, closed, items⟩ := run_overFirst
  have run := ((run_begins.of_guarded.append moves).append watches.of_guarded).append later
  have finished : t.finished = true := by
    rw [WatchState.finished, received]
    rfl
  have told := (claim _ _ _ t _ fresh_empty run finished closing closed).1
  have rows : ordered closing = [(1, ⟨"run_started", []⟩), (2, ⟨"run_completed", []⟩)] := by
    rw [ordered, items]
    rfl
  rw [rows, received] at told
  cases told

end ClientEngagement.Events
