import ClientEngagement.Events.Stream
import ClientEngagement.Insights.Answers
import ClientEngagement.Proposals.RunProposal

/-!
# The progress and the tables

Model of an intelligence run (`agents/intelligence.py`) as far as it is counted: its groups write findings in
sessions of their own (`insight_tools.py`, `lifecycle_tools.py`) and say so in the run's log, which no session
takes back; findings are decided in other sessions (`insight_state.py`). `progress_agrees` says when
the progress counted from the events is what the tables hold.
-/

namespace ClientEngagement.Events
open Insights (InsightId InsightState)
open Proposals (ProposalId ProposalStatus)

abbrev RunId := ℕ
abbrev GroupName := String

/-- Where the investigation of a group is. -/
inductive GroupPhase where
  | running
  | committed
  | done
  | failed
deriving DecidableEq

/-- What a finding's event says of it besides its id. -/
structure Finding where
  kind : String
  groupName : String
  clientCount : ℤ
  confidence : String

structure ProposalRow where
  runId : Option RunId
  status : ProposalStatus

structure RunWorld where
  log : LogState := {}
  /-- The findings of the run that are committed. -/
  insights : Dict InsightId InsightState := .empty
  /-- The findings written in a group's session. -/
  written : List (GroupName × InsightId) := []
  /-- The last id the sequence gave. -/
  lastInsight : InsightId := 0
  groups : Dict GroupName GroupPhase := .empty
  /-- The finding a session has loaded, and the state it has seen. -/
  loaded : Dict ThreadId (InsightId × InsightState) := .empty
  /-- The moves of the sessions that are not committed. -/
  moved : List (ThreadId × InsightId × InsightState) := []
  /-- The move a session has flushed and not yet told the log. -/
  untold : Dict ThreadId (InsightId × InsightState × InsightState) := .empty
  proposals : Dict ProposalId ProposalRow := .empty

def startedDetail (name : GroupName) : Detail :=
  [("stage", .str groupStarted), ("group_name", .str name)]

def doneDetail (name : GroupName) (outcome : String) (insightCount : ℤ) : Detail :=
  [("stage", .str groupDone), ("group_name", .str name), ("outcome", .str outcome),
    ("insight_count", .num insightCount)]

def createdDetail (id : InsightId) (finding : Finding) : Detail :=
  [("insight_id", .num id), ("insight_kind", .str finding.kind), ("group_name", .str finding.groupName),
    ("client_count", .num finding.clientCount), ("confidence", .str finding.confidence)]

def movedKind (toState : InsightState) : String :=
  if toState = .dismissed then insightDismissed else insightUpdated

def movedDetail (id : InsightId) (fromState toState : InsightState) (decidedByAPerson : Bool) : Detail :=
  [("insight_id", .num id), ("change", .str stateChange), ("from_state", .str fromState.text),
    ("to_state", .str toState.text), ("decided_by_a_person", .bool decidedByAPerson)]

/-- An event that is not counted. -/
structure Quiet (row : AgentEvent) : Prop where
  notCreated : row.kind ≠ insightCreated
  notDismissed : row.kind ≠ insightDismissed
  notMoved : row.kind = insightUpdated → Detail.carries row.detail "change" stateChange = false
  notNeeded : row.kind ≠ approvalNeeded
  notGiven : row.kind ≠ approvalGiven
  notDone : row.kind = runStatus → Detail.carries row.detail "stage" groupDone = false

/-- The steps of the log itself. -/
def LogLabel.inner : LogLabel → Bool
  | .put _ | .close | .take _ | .write | .stop | .look _ => true
  | .claim .. | .insert .. | .commit _ | .rollback _ => false

inductive RunLabel where
  | log (label : LogLabel)
  | say (thread : ThreadId) (kind : String) (detail : Detail)
  | begin (thread : ThreadId) (name : GroupName)
  | write (thread : ThreadId) (name : GroupName) (id : InsightId) (finding : Finding)
  | commitGroup (name : GroupName)
  | done (thread : ThreadId) (name : GroupName) (outcome : String) (insightCount : ℤ)
  | fail (name : GroupName)
  | load (thread : ThreadId) (id : InsightId)
  | move (thread : ThreadId) (toState : InsightState)
  | tell (thread : ThreadId) (decidedByAPerson : Bool)
  | settle (thread : ThreadId)
  | abandon (thread : ThreadId)
  | propose (id : ProposalId)
  | decide (id : ProposalId) (toStatus : ProposalStatus)

/-- The state of a finding as a session sees it: its own moves first. -/
def RunWorld.stateFor (s : RunWorld) (thread : ThreadId) (id : InsightId) : Option InsightState :=
  (((s.moved.filter fun move => move.1 = thread ∧ move.2.1 = id).getLast?).map (·.2.2)).or (s.insights.get? id)

inductive RunWorldStep (storing : Storing) (run : RunId) (s : RunWorld) : RunLabel → RunWorld → Prop where
  | log {label log} (inner : label.inner = true) (st : LogStep storing s.log label log) :
      RunWorldStep storing run s (.log label) { s with log := log }
  -- whatever else the run says: its steps, its tool calls, the facts, what failed
  | say {thread kind detail log} (quiet : Quiet ⟨kind, detail⟩)
      (st : LogStep storing s.log (.claim thread kind detail) log) :
      RunWorldStep storing run s (.say thread kind detail) { s with log := log }
  | begin {thread name log} (new : s.groups.get? name = none)
      (st : LogStep storing s.log (.claim thread runStatus (startedDetail name)) log) :
      RunWorldStep storing run s (.begin thread name)
        { s with
          log := log
          groups := s.groups.set name .running }
  -- the row is flushed, then the event is recorded
  | write {thread name id finding log} (running : s.groups.get? name = some .running) (drawn : s.lastInsight < id)
      (st : LogStep storing s.log (.claim thread insightCreated (createdDetail id finding)) log) :
      RunWorldStep storing run s (.write thread name id finding)
        { s with
          log := log
          lastInsight := id
          written := s.written ++ [(name, id)] }
  | commitGroup {name} (running : s.groups.get? name = some .running) :
      RunWorldStep storing run s (.commitGroup name)
        { s with
          insights := (s.written.filter (·.1 = name)).foldl (fun rows row => rows.set row.2 .new) s.insights
          written := s.written.filter (·.1 ≠ name)
          groups := s.groups.set name .committed }
  | done {thread name outcome insightCount log} (committed : s.groups.get? name = some .committed)
      (st : LogStep storing s.log (.claim thread runStatus (doneDetail name outcome insightCount)) log) :
      RunWorldStep storing run s (.done thread name outcome insightCount)
        { s with
          log := log
          groups := s.groups.set name .done }
  | fail {name} (running : s.groups.get? name = some .running) :
      RunWorldStep storing run s (.fail name)
        { s with
          written := s.written.filter (·.1 ≠ name)
          groups := s.groups.set name .failed }
  | load {thread id state} (found : s.stateFor thread id = some state) :
      RunWorldStep storing run s (.load thread id) { s with loaded := s.loaded.set thread (id, state) }
  -- `transition_insight` checks the state it has loaded; the row is locked by whoever moved it
  | move {thread id fromState toState} (loaded : s.loaded.get? thread = some (id, fromState))
      (allowed : toState ∈ Insights.allowedTransitions fromState) (here : id ∈ s.insights.keys)
      (unlocked : ∀ other state, (other, id, state) ∈ s.moved → other = thread)
      (told : s.untold.get? thread = none) :
      RunWorldStep storing run s (.move thread toState)
        { s with
          loaded := s.loaded.set thread (id, toState)
          moved := s.moved ++ [(thread, id, toState)]
          untold := s.untold.set thread (id, fromState, toState) }
  | tell {thread id fromState toState person log} (untold : s.untold.get? thread = some (id, fromState, toState))
      (st : LogStep storing s.log
        (.insert thread (movedKind toState) (movedDetail id fromState toState person)) log) :
      RunWorldStep storing run s (.tell thread person)
        { s with
          log := log
          untold := s.untold.erase thread }
  | settle {thread log} (told : s.untold.get? thread = none) (st : LogStep storing s.log (.commit thread) log) :
      RunWorldStep storing run s (.settle thread)
        { s with
          log := log
          insights := (s.moved.filter (·.1 = thread)).foldl (fun rows move => rows.set move.2.1 move.2.2) s.insights
          moved := s.moved.filter (·.1 ≠ thread) }
  | abandon {thread log} (st : LogStep storing s.log (.rollback thread) log) :
      RunWorldStep storing run s (.abandon thread)
        { s with
          log := log
          moved := s.moved.filter (·.1 ≠ thread)
          untold := s.untold.erase thread }
  -- no tool of an intelligence run writes a proposal
  | propose {id proposal} (new : s.proposals.get? id = none) (other : proposal.runId ≠ some run) :
      RunWorldStep storing run s (.propose id) { s with proposals := s.proposals.set id proposal }
  | decide {id proposal toStatus} (found : s.proposals.get? id = some proposal)
      (allowed : toStatus ∈ Proposals.allowedTransitions proposal.status) :
      RunWorldStep storing run s (.decide id toStatus)
        { s with
          proposals := s.proposals.set id { proposal with status := toStatus } }

/-! ## What agrees -/

def runProgress (repr : Json → String) (rows : Dict Ordinal AgentEvent) : RunProgress :=
  progressFrom repr (ordered rows)

/-- The groups that did not fail. -/
def RunWorld.lookedAt (s : RunWorld) : ℕ := (s.groups.items.filter fun group => group.2 ≠ .failed).length

/-- The findings nobody has decided, and the proposals of the run that wait for approval. -/
def RunWorld.waiting (s : RunWorld) (run : RunId) : ℕ :=
  (s.insights.items.filter fun row => row.2 = .new).length +
    (s.proposals.items.filter fun row => row.2.runId = some run ∧ row.2.status = .proposed).length

/-- The run's events are stored, its groups have ended, and no decision is under way. -/
structure RunWorld.Settled (s : RunWorld) : Prop where
  log : s.log.AfterClose
  groups : ∀ name phase, s.groups.get? name = some phase → phase = .done ∨ phase = .failed
  moved : s.moved = []

structure Agrees (repr : Json → String) (run : RunId) (s : RunWorld) : Prop where
  found : (runProgress repr s.log.rows).insightsFound = s.insights.items.length
  lookedAt : (runProgress repr s.log.rows).groupsLookedAt = s.lookedAt
  waiting : (runProgress repr s.log.rows).waitingOnAPerson = s.waiting run

/-- The event is stored, with what it says. -/
def Kept (storing : Storing) (kind : String) (detail : Detail) : Prop :=
  ∃ kept, rowOf storing kind detail = some ⟨kind, kept⟩ ∧ ∀ name, kept.lookup name = detail.lookup name

/-- The condition on the steps: no place taken collides and no batch is lost, an event that counts is stored with
    what it says, and a group that fails had written no finding. -/
def Steady (storing : Storing) (s : RunWorld) : RunLabel → Prop
  | .log label => Orderly storing s.log label
  | .say thread kind detail => Orderly storing s.log (.claim thread kind detail) ∧
      ∀ row, rowOf storing kind detail = some row → Quiet row
  | .begin thread name => Orderly storing s.log (.claim thread runStatus (startedDetail name)) ∧
      ∀ row, rowOf storing runStatus (startedDetail name) = some row → Quiet row
  | .write thread _ id finding => Orderly storing s.log (.claim thread insightCreated (createdDetail id finding)) ∧
      Kept storing insightCreated (createdDetail id finding)
  | .done thread name outcome insightCount =>
      Orderly storing s.log (.claim thread runStatus (doneDetail name outcome insightCount)) ∧
      Kept storing runStatus (doneDetail name outcome insightCount)
  | .tell thread person => ∀ id fromState toState, s.untold.get? thread = some (id, fromState, toState) →
      Orderly storing s.log (.insert thread (movedKind toState) (movedDetail id fromState toState person)) ∧
      Kept storing (movedKind toState) (movedDetail id fromState toState person)
  | .fail name => ∀ id, (name, id) ∉ s.written
  | _ => True

/-- The run was just started. -/
structure RunWorld.Fresh (run : RunId) (s : RunWorld) : Prop where
  log : s.log.Opened
  rows : s.log.rows = .empty
  insights : s.insights = .empty
  written : s.written = []
  groups : s.groups = .empty
  moved : s.moved = []
  untold : s.untold = .empty
  proposals : ∀ id proposal, s.proposals.get? id = some proposal → proposal.runId ≠ some run

variable {storing : Storing} {repr : Json → String} {run : RunId} {s t : RunWorld} {ls : List RunLabel}
  {row : AgentEvent} {rows : List AgentEvent}

/-! ## The story -/

/-- What was recorded and can be stored, in order. -/
def LogState.story (storing : Storing) (log : LogState) : List AgentEvent :=
  log.recorded.filterMap (Recorded.row storing)

lemma mem_story {log : LogState} : row ∈ log.story storing ↔
    ∃ event ∈ log.recorded, event.row storing = some row := List.mem_filterMap

lemma map_tellable (log : LogState) : (log.tellable storing).filterMap (Recorded.row storing) = log.story storing := by
  rw [LogState.tellable, LogState.story, List.filterMap_filter]
  apply List.filterMap_congr
  intro event _
  cases event.row storing <;> simp

/-- After close the rows are the story. -/
lemma ordered_eq_story {log : LogState} (acc : Accounted storing .empty log) (after : log.AfterClose) :
    (ordered log.rows).map Prod.snd = log.story storing := by
  have told := acc.told after
  have entries : ordered log.rows =
      (log.tellable storing).filterMap fun event => (event.row storing).map (event.ordinal, ·) := by
    have rising : ((log.tellable storing).filterMap fun event =>
        (event.row storing).map (event.ordinal, ·)).Pairwise fun a b => a.1 < b.1 := by
      apply List.pairwise_filterMap.mpr
      apply acc.rising.imp
      intro a b lt entry here entry' there
      obtain ⟨_, _, rfl⟩ := Option.map_eq_some_iff.mp here
      obtain ⟨_, _, rfl⟩ := Option.map_eq_some_iff.mp there
      exact lt
    apply List.Perm.eq_of_pairwise _ (ordered_rising log.rows) rising
    · apply (List.perm_ext_iff_of_nodup _ _).mpr
      · rintro ⟨ordinal, row⟩
        rw [mem_ordered, List.mem_filterMap]
        constructor
        · intro found
          rcases told.only ordinal row found with old | ⟨event, mem, rfl, same⟩
          · cases old
          · refine ⟨event, mem, ?_⟩
            rw [same, Option.map_some]
        · rintro ⟨event, mem, here⟩
          obtain ⟨_, same, pair⟩ := Option.map_eq_some_iff.mp here
          cases pair
          exact (told.stored event mem).trans same
      · exact (ordered_rising log.rows).imp fun lt eq => absurd (congrArg Prod.fst eq) lt.ne
      · exact rising.imp fun lt eq => absurd (congrArg Prod.fst eq) lt.ne
    · intro a b _ _ lt gt
      exact absurd gt lt.asymm
  rw [entries, List.map_filterMap, ← map_tellable]
  apply List.filterMap_congr
  intro event _
  rw [Option.map_map]
  exact Option.map_id'

lemma runProgress_eq {rows : Dict Ordinal AgentEvent} :
    runProgress repr rows = (tallyOf repr ((ordered rows).map Prod.snd)).progress := by
  rw [runProgress, progressFrom, Tally.walk, tallyOf, List.foldl_map]
  rfl

/-! ## The events that count -/

lemma Quiet.creates (quiet : Quiet row) : row.creates = none := if_neg quiet.notCreated

lemma Quiet.settles (quiet : Quiet row) : row.settles = none := by
  apply if_neg
  rintro (dismissed | ⟨updated, carries⟩)
  · exact quiet.notDismissed dismissed
  · rw [quiet.notMoved updated] at carries
    cases carries

lemma Quiet.completes (quiet : Quiet row) : row.completes repr = none := by
  apply if_neg
  rintro ⟨status, carries⟩
  rw [quiet.notDone status] at carries
  cases carries

/-- What an event says of the run, as far as it is counted. -/
structure Reports (repr : Json → String) (row : AgentEvent) (finding decided : Option ℤ)
    (group : Option GroupName) : Prop where
  creates : row.creates = finding
  settles : row.settles = decided
  completes : row.completes repr = group
  created : row.kind = insightCreated → finding.isSome = true
  approvals : row.kind ≠ approvalNeeded ∧ row.kind ≠ approvalGiven

lemma Quiet.reports (quiet : Quiet row) : Reports repr row none none none :=
  ⟨quiet.creates, quiet.settles, quiet.completes, fun created => absurd created quiet.notCreated, quiet.notNeeded,
    quiet.notGiven⟩

lemma int?_num (id : ℤ) : int? (.num id) = some id := by
  rw [int?, if_pos (by simp [Rat.isInt]), Rat.num_intCast]

lemma reports_created {id : InsightId} {finding : Finding} {kept : Detail}
    (same : ∀ name, kept.lookup name = (createdDetail id finding).lookup name) :
    Reports repr ⟨insightCreated, kept⟩ (some id) none none := by
  have lookup : kept.lookup "insight_id" = some (.num id) := (same _).trans rfl
  refine ⟨?_, if_neg ?_, if_neg ?_, fun _ => rfl, ?_, ?_⟩
  · rw [AgentEvent.creates, if_pos rfl, lookup, Option.bind_some, int?_num]
  all_goals simp [insightCreated, insightDismissed, insightUpdated, runStatus, approvalNeeded, approvalGiven]

lemma reports_done {name : GroupName} {outcome : String} {count : ℤ} {kept : Detail}
    (same : ∀ field, kept.lookup field = (doneDetail name outcome count).lookup field) :
    Reports repr ⟨runStatus, kept⟩ none none (some name) := by
  have stage : kept.lookup "stage" = some (.str groupDone) := (same _).trans rfl
  have group : kept.lookup "group_name" = some (.str name) := (same _).trans rfl
  have carries : Detail.carries kept "stage" groupDone = true := by
    rw [Detail.carries, stage]
    rfl
  refine ⟨if_neg ?_, if_neg ?_, ?_, ?_, ?_, ?_⟩
  case refine_3 =>
    rw [AgentEvent.completes, if_pos ⟨rfl, carries⟩, textOf, group]
    rfl
  all_goals simp [insightCreated, insightDismissed, insightUpdated, runStatus, approvalNeeded, approvalGiven]

lemma reports_moved {id : InsightId} {fromState toState : InsightState} {person : Bool} {kept : Detail}
    (same : ∀ name, kept.lookup name = (movedDetail id fromState toState person).lookup name) :
    Reports repr ⟨movedKind toState, kept⟩ none (some id) none := by
  have insight : kept.lookup "insight_id" = some (.num id) := (same _).trans rfl
  have change : kept.lookup "change" = some (.str stateChange) := (same _).trans rfl
  have carries : Detail.carries kept "change" stateChange = true := by
    rw [Detail.carries, change]
    rfl
  have kinds : movedKind toState = insightDismissed ∨ movedKind toState = insightUpdated := by
    rw [movedKind]
    split <;> simp
  refine ⟨if_neg ?_, ?_, if_neg ?_, ?_, ?_, ?_⟩
  case refine_2 =>
    rw [AgentEvent.settles, if_pos (kinds.imp_right fun updated => ⟨updated, carries⟩), insight, Option.bind_some,
      int?_num]
  all_goals
    rcases kinds with kind | kind <;>
      simp [kind, insightCreated, insightDismissed, insightUpdated, runStatus, approvalNeeded, approvalGiven]

/-! ## The invariant -/

/-- The event is a session's that has not committed. -/
def Held (log : LogState) (event : Recorded) : Prop :=
  (event.thread, event.ordinal) ∈ log.uncommitted.map fun row => (row.1, row.2.1)

/-- What the events say was written is what was written. -/
structure WritesTold (storing : Storing) (repr : Json → String) (log : LogState)
    (insights : Dict InsightId InsightState) (written : List (GroupName × InsightId)) (lastInsight : InsightId)
    (groups : Dict GroupName GroupPhase) : Prop where
  created : ((log.story storing).filterMap AgentEvent.creates).Perm (insights.keys ++ written.map Prod.snd)
  distinct : (insights.keys ++ written.map Prod.snd).Nodup
  drawn : ∀ id ∈ insights.keys ++ written.map Prod.snd, id ≤ lastInsight
  writing : ∀ name id, (name, id) ∈ written → groups.get? name = some .running
  done : ∀ name, (∃ row ∈ log.story storing, row.completes repr = some name) ↔ groups.get? name = some .done

/-- What the events say was decided is what was decided, a session's own moves apart. -/
structure MovesTold (storing : Storing) (log : LogState) (insights : Dict InsightId InsightState)
    (moved : List (ThreadId × InsightId × InsightState))
    (untold : Dict ThreadId (InsightId × InsightState × InsightState)) : Prop where
  settled : ∀ event ∈ log.recorded, ∀ row id, event.row storing = some row → row.settles = some id →
    (Held log event ∧ ∃ state, (event.thread, id, state) ∈ moved) ∨
      ¬ Held log event ∧ ∃ state, insights.get? id = some state ∧ state ≠ .new
  told : ∀ id state, insights.get? id = some state → state ≠ .new →
    ∃ event ∈ log.recorded, ¬ Held log event ∧ ∃ row, event.row storing = some row ∧ row.settles = some id
  moving : ∀ thread id state, (thread, id, state) ∈ moved → state ≠ .new ∧ id ∈ insights.keys ∧
    ((∃ fromState toState, untold.get? thread = some (id, fromState, toState)) ∨
      ∃ event ∈ log.recorded, event.thread = thread ∧ Held log event ∧
        ∃ row, event.row storing = some row ∧ row.settles = some id)
  flushed : ∀ thread id fromState toState, untold.get? thread = some (id, fromState, toState) →
    (thread, id, toState) ∈ moved

/-- The order of the story, and what it does not hold. -/
structure StoryTold (storing : Storing) (repr : Json → String) (log : LogState) : Prop where
  order : DecidedAfter (log.story storing)
  created : ∀ row ∈ log.story storing, row.kind = insightCreated → row.creates.isSome = true
  approvals : ∀ row ∈ log.story storing, row.kind ≠ approvalNeeded ∧ row.kind ≠ approvalGiven
  held : ∀ event ∈ log.recorded, Held log event → ∀ row, event.row storing = some row →
    row.creates = none ∧ row.completes repr = none

structure Agreeing (storing : Storing) (repr : Json → String) (run : RunId) (s : RunWorld) : Prop where
  accounted : Accounted storing .empty s.log
  story : StoryTold storing repr s.log
  writes : WritesTold storing repr s.log s.insights s.written s.lastInsight s.groups
  moves : MovesTold storing s.log s.insights s.moved s.untold
  proposals : ∀ id proposal, s.proposals.get? id = some proposal → proposal.runId ≠ some run

variable {log log' : LogState} {insights : Dict InsightId InsightState} {written : List (GroupName × InsightId)}
  {lastInsight : InsightId} {groups : Dict GroupName GroupPhase} {moved : List (ThreadId × InsightId × InsightState)}
  {untold : Dict ThreadId (InsightId × InsightState × InsightState)}

lemma story_eq (recorded : log'.recorded = log.recorded) : log'.story storing = log.story storing := by
  rw [LogState.story, recorded, LogState.story]

lemma held_eq {event : Recorded} (uncommitted : log'.uncommitted = log.uncommitted) :
    Held log' event ↔ Held log event := by
  rw [Held, uncommitted, Held]

/-! ### The log goes on -/

lemma inner_step {l : LogLabel} (inner : l.inner = true) (st : LogStep storing log l log') :
    log'.recorded = log.recorded ∧ log'.uncommitted = log.uncommitted := by
  cases st with
  | put _ | close _ | take _ _ _ _ | write _ | stop _ _ | look => exact ⟨rfl, rfl⟩
  | claim _ | insert _ _ | commit | rollback => cases inner

lemma StoryTold.same (told : StoryTold storing repr log) (recorded : log'.recorded = log.recorded)
    (uncommitted : log'.uncommitted = log.uncommitted) : StoryTold storing repr log' where
  order := by
    rw [story_eq recorded]
    exact told.order
  created := by
    rw [story_eq recorded]
    exact told.created
  approvals := by
    rw [story_eq recorded]
    exact told.approvals
  held := by
    rw [recorded]
    intro event mem held
    exact told.held event mem ((held_eq uncommitted).mp held)

lemma WritesTold.same (told : WritesTold storing repr log insights written lastInsight groups)
    (recorded : log'.recorded = log.recorded) :
    WritesTold storing repr log' insights written lastInsight groups where
  created := by
    rw [story_eq recorded]
    exact told.created
  distinct := told.distinct
  drawn := told.drawn
  writing := told.writing
  done := by
    rw [story_eq recorded]
    exact told.done

lemma MovesTold.same (told : MovesTold storing log insights moved untold) (recorded : log'.recorded = log.recorded)
    (uncommitted : log'.uncommitted = log.uncommitted) : MovesTold storing log' insights moved untold where
  settled := by
    rw [recorded]
    intro event mem row id stored settles
    rw [held_eq uncommitted]
    exact told.settled event mem row id stored settles
  told := by
    rw [recorded]
    simp only [held_eq uncommitted]
    exact told.told
  moving := by
    rw [recorded]
    simp only [held_eq uncommitted]
    exact told.moving
  flushed := told.flushed

/-! ### An event more -/

lemma story_append {event : Recorded} (recorded : log'.recorded = log.recorded ++ [event]) :
    log'.story storing = log.story storing ++ (event.row storing).toList := by
  rw [LogState.story, recorded, List.filterMap_append, LogState.story]
  cases stored : event.row storing <;> simp [stored]

lemma StoryTold.append {event : Recorded} (told : StoryTold storing repr log) (finding decided : Option ℤ)
    (group : Option GroupName) (recorded : log'.recorded = log.recorded ++ [event])
    (heldBefore : ∀ old ∈ log.recorded, (old.row storing).isSome = true → Held log' old → Held log old)
    (reports : ∀ row, event.row storing = some row → Reports repr row finding decided group ∧
      (Held log' event → finding = none ∧ group = none))
    (fresh : ∀ id, finding = some id → ∀ row ∈ log.story storing, row.settles ≠ some id) :
    StoryTold storing repr log' where
  order := by
    rw [DecidedAfter, story_append recorded]
    refine List.pairwise_append.mpr ⟨told.order, ?_, ?_⟩
    · cases event.row storing <;> simp
    · intro old mem new here id settles creates
      have row := Option.mem_toList.mp here
      exact fresh id ((reports new row).1.creates.symm.trans creates) old mem settles
  created := by
    rw [story_append recorded]
    intro row mem created
    rcases List.mem_append.mp mem with mem | here
    · exact told.created row mem created
    · have stored := (reports row (Option.mem_toList.mp here)).1
      rw [stored.creates]
      exact stored.created created
  approvals := by
    rw [story_append recorded]
    intro row mem
    rcases List.mem_append.mp mem with mem | here
    · exact told.approvals row mem
    · exact (reports row (Option.mem_toList.mp here)).1.approvals
  held := by
    rw [recorded]
    intro old mem held row stored
    rcases List.mem_append.mp mem with mem | here
    · exact told.held old mem (heldBefore old mem (Option.isSome_of_eq_some stored) held) row stored
    · rw [List.mem_singleton.mp here] at held stored
      obtain ⟨told, nothing⟩ := reports row stored
      exact ⟨told.creates.trans (nothing held).1, told.completes.trans (nothing held).2⟩

lemma MovesTold.append {event : Recorded} (told : MovesTold storing log insights moved untold)
    (recorded : log'.recorded = log.recorded ++ [event]) (uncommitted : log'.uncommitted = log.uncommitted)
    (silent : ∀ row, event.row storing = some row → row.settles = none) :
    MovesTold storing log' insights moved untold where
  settled := by
    rw [recorded]
    intro old mem row id stored settles
    rw [held_eq uncommitted]
    rcases List.mem_append.mp mem with mem | here
    · exact told.settled old mem row id stored settles
    · rw [List.mem_singleton.mp here] at stored
      rw [silent row stored] at settles
      cases settles
  told := by
    rw [recorded]
    simp only [held_eq uncommitted]
    intro id state here moved
    obtain ⟨old, mem, more⟩ := told.told id state here moved
    exact ⟨old, List.mem_append_left _ mem, more⟩
  moving := by
    rw [recorded]
    simp only [held_eq uncommitted]
    intro thread id state here
    obtain ⟨moves, key, more⟩ := told.moving thread id state here
    refine ⟨moves, key, more.imp_right ?_⟩
    rintro ⟨old, mem, rest⟩
    exact ⟨old, List.mem_append_left _ mem, rest⟩
  flushed := told.flushed

lemma claim_step {thread : ThreadId} {kind : String} {detail : Detail}
    (st : LogStep storing log (.claim thread kind detail) log') :
    log'.recorded = log.recorded ++ [⟨thread, log.next, kind, detail⟩] ∧ log'.uncommitted = log.uncommitted := by
  cases st
  exact ⟨rfl, rfl⟩

/-- The place the log gives is nobody's. -/
lemma not_held_of_orderly {thread : ThreadId} {kind : String} {detail : Detail}
    (orderly : Orderly storing log (.claim thread kind detail)) (stored : (rowOf storing kind detail).isSome = true) :
    ¬ Held log ⟨thread, log.next, kind, detail⟩ := by
  intro held
  obtain ⟨row, mem, same⟩ := List.mem_map.mp held
  have place : row.2.1 = log.next := congrArg Prod.snd same
  exact lt_irrefl _ (orderly stored _ (mem_inUse.mpr (.inr (.inl (List.mem_map.mpr ⟨row, mem, place⟩)))))

/-- The events of a group's own. -/
lemma WritesTold.append {event : Recorded} (told : WritesTold storing repr log insights written lastInsight groups)
    (recorded : log'.recorded = log.recorded ++ [event])
    (silent : ∀ row, event.row storing = some row → ∃ decided, Reports repr row none decided none) :
    WritesTold storing repr log' insights written lastInsight groups where
  created := by
    have none : (event.row storing).toList.filterMap AgentEvent.creates = [] := by
      rw [List.filterMap_eq_nil_iff]
      intro row here
      obtain ⟨decided, reports⟩ := silent row (Option.mem_toList.mp here)
      exact reports.creates
    rw [story_append recorded, List.filterMap_append, none, List.append_nil]
    exact told.created
  distinct := told.distinct
  drawn := told.drawn
  writing := told.writing
  done := by
    intro name
    rw [story_append recorded, ← told.done name]
    constructor
    · rintro ⟨row, mem, completes⟩
      rcases List.mem_append.mp mem with mem | here
      · exact ⟨row, mem, completes⟩
      · obtain ⟨decided, reports⟩ := silent row (Option.mem_toList.mp here)
        rw [reports.completes] at completes
        cases completes
    · rintro ⟨row, mem, completes⟩
      exact ⟨row, List.mem_append_left _ mem, completes⟩

/-- An event that is not counted, told by the run. -/
lemma Agreeing.say {thread : ThreadId} {kind : String} {detail : Detail} (a : Agreeing storing repr run s)
    (orderly : Orderly storing s.log (.claim thread kind detail))
    (quiet : ∀ row, rowOf storing kind detail = some row → Quiet row)
    (st : LogStep storing s.log (.claim thread kind detail) log') :
    Agreeing storing repr run { s with log := log' } := by
  obtain ⟨recorded, uncommitted⟩ := claim_step st
  constructor
  case accounted => exact a.accounted.step ⟨orderly, st⟩
  case story =>
    apply a.story.append none none none recorded (fun _ _ _ => (held_eq uncommitted).mp)
    · intro row stored
      exact ⟨(quiet row stored).reports, fun _ => ⟨rfl, rfl⟩⟩
    · exact nofun
  case writes => exact a.writes.append recorded fun row stored => ⟨none, (quiet row stored).reports⟩
  case moves => exact a.moves.append recorded uncommitted fun row stored => (quiet row stored).settles
  case proposals => exact a.proposals

lemma WritesTold.begin {name : GroupName} (told : WritesTold storing repr log insights written lastInsight groups)
    (new : groups.get? name = none) :
    WritesTold storing repr log insights written lastInsight (groups.set name .running) where
  created := told.created
  distinct := told.distinct
  drawn := told.drawn
  writing := by
    intro other id mem
    rw [Dict.get?_set]
    split
    · rfl
    · exact told.writing other id mem
  done := by
    intro other
    rw [told.done, Dict.get?_set]
    split
    case isTrue same =>
      rw [same, new]
      simp
    case isFalse => rfl

/-- A finding, and the event that says so. -/
lemma Agreeing.write {thread : ThreadId} {name : GroupName} {id : InsightId} {finding : Finding}
    (a : Agreeing storing repr run s)
    (orderly : Orderly storing s.log (.claim thread insightCreated (createdDetail id finding)))
    (kept : Kept storing insightCreated (createdDetail id finding))
    (running : s.groups.get? name = some .running) (drawn : s.lastInsight < id)
    (st : LogStep storing s.log (.claim thread insightCreated (createdDetail id finding)) log') :
    Agreeing storing repr run { s with
      log := log'
      lastInsight := id
      written := s.written ++ [(name, id)] } := by
  obtain ⟨recorded, uncommitted⟩ := claim_step st
  obtain ⟨detail, stored, same⟩ := kept
  have reports : Reports repr ⟨insightCreated, detail⟩ (some id) none none := reports_created same
  have unheard : ∀ other ∈ s.insights.keys ++ s.written.map Prod.snd, other < id :=
    fun other mem => (a.writes.drawn other mem).trans_lt drawn
  have story : log'.story storing = s.log.story storing ++ [⟨insightCreated, detail⟩] := by
    rw [story_append recorded, Recorded.row, stored]
    rfl
  constructor
  case accounted => exact a.accounted.step ⟨orderly, st⟩
  case story =>
    apply a.story.append (some id) none none recorded (fun _ _ _ => (held_eq uncommitted).mp)
    · intro row here
      cases stored.symm.trans here
      refine ⟨reports, fun held => ?_⟩
      rw [held_eq uncommitted] at held
      exact absurd held (not_held_of_orderly orderly (Option.isSome_of_eq_some stored))
    · rintro _ ⟨⟩ row mem settles
      obtain ⟨event, mem, here⟩ := mem_story.mp mem
      have known : id ∈ s.insights.keys := by
        rcases a.moves.settled event mem row id here settles with ⟨_, state, moving⟩ | ⟨_, state, found, _⟩
        · exact (a.moves.moving _ _ _ moving).2.1
        · exact s.insights.mem_keys_iff.mpr ⟨state, found⟩
      exact lt_irrefl _ (unheard id (List.mem_append_left _ known))
  case writes =>
    have ids : (s.written ++ [(name, id)]).map Prod.snd = s.written.map Prod.snd ++ [id] := by simp
    constructor
    case created =>
      have new : List.filterMap AgentEvent.creates [⟨insightCreated, detail⟩] = [id] := by
        simp [reports.creates]
      rw [story, List.filterMap_append, new, ids, ← List.append_assoc]
      exact a.writes.created.append_right _
    case distinct =>
      rw [ids, ← List.append_assoc]
      refine List.nodup_append.mpr ⟨a.writes.distinct, List.nodup_singleton _, ?_⟩
      intro other mem new here
      rw [List.mem_singleton.mp here]
      exact (unheard other mem).ne
    case drawn =>
      rw [ids, ← List.append_assoc]
      intro other mem
      rcases List.mem_append.mp mem with mem | here
      · exact (unheard other mem).le
      · exact (List.mem_singleton.mp here).le
    case writing =>
      intro other id' mem
      rcases List.mem_append.mp mem with mem | here
      · exact a.writes.writing other id' mem
      · cases List.mem_singleton.mp here
        exact running
    case done =>
      intro other
      rw [story, ← a.writes.done]
      simp only [List.mem_append, List.mem_singleton, or_and_right, exists_or, exists_eq_left, reports.completes,
        reduceCtorEq, or_false]
  case moves =>
    apply a.moves.append recorded uncommitted
    intro row here
    cases stored.symm.trans here
    exact reports.settles
  case proposals => exact a.proposals

lemma Agreeing.done {thread : ThreadId} {name : GroupName} {outcome : String} {count : ℤ}
    (a : Agreeing storing repr run s)
    (orderly : Orderly storing s.log (.claim thread runStatus (doneDetail name outcome count)))
    (kept : Kept storing runStatus (doneDetail name outcome count))
    (committed : s.groups.get? name = some .committed)
    (st : LogStep storing s.log (.claim thread runStatus (doneDetail name outcome count)) log') :
    Agreeing storing repr run { s with
      log := log'
      groups := s.groups.set name .done } := by
  obtain ⟨recorded, uncommitted⟩ := claim_step st
  obtain ⟨detail, stored, same⟩ := kept
  have reports : Reports repr ⟨runStatus, detail⟩ none none (some name) := reports_done same
  have story : log'.story storing = s.log.story storing ++ [⟨runStatus, detail⟩] := by
    rw [story_append recorded, Recorded.row, stored]
    rfl
  constructor
  case accounted => exact a.accounted.step ⟨orderly, st⟩
  case story =>
    apply a.story.append none none (some name) recorded (fun _ _ _ => (held_eq uncommitted).mp)
    · intro row here
      cases stored.symm.trans here
      refine ⟨reports, fun held => ?_⟩
      rw [held_eq uncommitted] at held
      exact absurd held (not_held_of_orderly orderly (Option.isSome_of_eq_some stored))
    · intro id unstarted
      cases unstarted
  case writes =>
    constructor
    case created =>
      have none : List.filterMap AgentEvent.creates [⟨runStatus, detail⟩] = [] := by
        simp [reports.creates]
      rw [story, List.filterMap_append, none, List.append_nil]
      exact a.writes.created
    case distinct => exact a.writes.distinct
    case drawn => exact a.writes.drawn
    case writing =>
      intro other id mem
      have running := a.writes.writing other id mem
      rw [Dict.get?_set_ne]
      · exact running
      · intro same
        rw [same, committed] at running
        cases running
    case done =>
      intro other
      rw [story, Dict.get?_set]
      simp only [List.mem_append, List.mem_singleton, or_and_right, exists_or, exists_eq_left, reports.completes,
        a.writes.done]
      split
      case isTrue same => simp [same]
      case isFalse other => simp [Ne.symm other]
  case moves =>
    apply a.moves.append recorded uncommitted
    intro row here
    cases stored.symm.trans here
    exact reports.settles
  case proposals => exact a.proposals

/-! ### A group's session ends -/

/-- The rows of one group's session, apart from the others. -/
lemma written_perm (written : List (GroupName × InsightId)) (name : GroupName) :
    ((written.filter (·.1 ≠ name)).map Prod.snd ++ (written.filter (·.1 = name)).map Prod.snd).Perm
      (written.map Prod.snd) := by
  have perm := List.filter_append_perm (fun row => decide (row.1 = name)) written
  simp only [← decide_not] at perm
  rw [← List.map_append]
  exact (List.perm_append_comm.trans perm).map Prod.snd

/-- What a commit adds. -/
lemma items_commitGroup {name : GroupName} (distinct : (insights.keys ++ written.map Prod.snd).Nodup) :
    ((written.filter (·.1 = name)).foldl (fun rows row => rows.set row.2 InsightState.new) insights).items =
      insights.items ++ (written.filter (·.1 = name)).map fun row => (row.2, .new) := by
  have fold : (written.filter (·.1 = name)).foldl (fun rows row => rows.set row.2 InsightState.new) insights =
      ((written.filter (·.1 = name)).map fun row => (row.2, InsightState.new)).foldl
        (fun rows entry => rows.set entry.1 entry.2) insights := by
    rw [List.foldl_map]
  rw [fold]
  apply Dict.items_foldl_set
  rw [List.map_append, List.map_map]
  exact distinct.sublist ((List.filter_sublist.map _).append_left _)

lemma WritesTold.commitGroup {name : GroupName}
    (told : WritesTold storing repr log insights written lastInsight groups)
    (running : groups.get? name = some .running) :
    WritesTold storing repr log
      ((written.filter (·.1 = name)).foldl (fun rows row => rows.set row.2 InsightState.new) insights)
      (written.filter (·.1 ≠ name)) lastInsight (groups.set name .committed) := by
  have keys : ((written.filter (·.1 = name)).foldl (fun rows row => rows.set row.2 InsightState.new) insights).keys =
      insights.keys ++ (written.filter (·.1 = name)).map Prod.snd := by
    rw [Dict.keys, items_commitGroup told.distinct, List.map_append, List.map_map]
    rfl
  have perm : (((written.filter (·.1 = name)).foldl (fun rows row => rows.set row.2 InsightState.new) insights).keys
      ++ (written.filter (·.1 ≠ name)).map Prod.snd).Perm (insights.keys ++ written.map Prod.snd) := by
    rw [keys, List.append_assoc]
    exact (List.perm_append_comm.trans (written_perm written name)).append_left _
  constructor
  case created => exact told.created.trans perm.symm
  case distinct => exact perm.nodup_iff.mpr told.distinct
  case drawn => exact fun id mem => told.drawn id (perm.mem_iff.mp mem)
  case writing =>
    intro other id mem
    obtain ⟨mem, ne⟩ := List.mem_filter.mp mem
    rw [Dict.get?_set_ne _ _ (of_decide_eq_true ne)]
    exact told.writing other id mem
  case done =>
    intro other
    rw [told.done, Dict.get?_set]
    split
    case isTrue same =>
      rw [same, running]
      simp
    case isFalse => rfl

lemma MovesTold.commitGroup {name : GroupName} (told : MovesTold storing log insights moved untold)
    (distinct : (insights.keys ++ written.map Prod.snd).Nodup) :
    MovesTold storing log
      ((written.filter (·.1 = name)).foldl (fun rows row => rows.set row.2 InsightState.new) insights) moved untold := by
  have found : ∀ id state,
      ((written.filter (·.1 = name)).foldl (fun rows row => rows.set row.2 InsightState.new) insights).get? id =
        some state ↔ insights.get? id = some state ∨ state = .new ∧ (name, id) ∈ written := by
    intro id state
    rw [← Dict.mem_items_iff, items_commitGroup distinct, List.mem_append, Dict.mem_items_iff]
    apply or_congr_right
    constructor
    · intro mem
      obtain ⟨row, here, same⟩ := List.mem_map.mp mem
      obtain ⟨here, own⟩ := List.mem_filter.mp here
      cases same
      rw [← of_decide_eq_true own]
      exact ⟨rfl, here⟩
    · rintro ⟨rfl, here⟩
      exact List.mem_map.mpr ⟨_, List.mem_filter.mpr ⟨here, decide_eq_true rfl⟩, rfl⟩
  constructor
  case settled =>
    intro event mem row id stored settles
    apply (told.settled event mem row id stored settles).imp_right
    rintro ⟨notHeld, state, here, moved⟩
    exact ⟨notHeld, state, (found id state).mpr (.inl here), moved⟩
  case told =>
    intro id state here moved
    rcases (found id state).mp here with here | ⟨new, _⟩
    · exact told.told id state here moved
    · exact absurd new moved
  case moving =>
    intro thread id state here
    obtain ⟨moves, key, more⟩ := told.moving thread id state here
    obtain ⟨old, there⟩ := insights.mem_keys_iff.mp key
    exact ⟨moves, Dict.mem_keys_iff _ |>.mpr ⟨old, (found id old).mpr (.inl there)⟩, more⟩
  case flushed => exact told.flushed

lemma WritesTold.fail {name : GroupName} (told : WritesTold storing repr log insights written lastInsight groups)
    (nothing : ∀ id, (name, id) ∉ written) (running : groups.get? name = some .running) :
    WritesTold storing repr log insights (written.filter (·.1 ≠ name)) lastInsight (groups.set name .failed) := by
  have same : written.filter (·.1 ≠ name) = written := by
    rw [List.filter_eq_self]
    rintro ⟨other, id⟩ mem
    apply decide_eq_true
    rintro rfl
    exact nothing id mem
  rw [same]
  constructor
  case created => exact told.created
  case distinct => exact told.distinct
  case drawn => exact told.drawn
  case writing =>
    intro other id mem
    rw [Dict.get?_set_ne]
    · exact told.writing other id mem
    · rintro rfl
      exact nothing id mem
  case done =>
    intro other
    rw [told.done, Dict.get?_set]
    split
    case isTrue same =>
      rw [same, running]
      simp
    case isFalse => rfl

/-! ### A decision -/

lemma not_new_of_allowed {fromState toState : InsightState} (allowed : toState ∈ Insights.allowedTransitions fromState) :
    toState ≠ .new := by
  rintro rfl
  cases fromState <;> simp [Insights.allowedTransitions] at allowed

lemma MovesTold.move {thread : ThreadId} {id : InsightId} {fromState toState : InsightState}
    (told : MovesTold storing log insights moved untold)
    (allowed : toState ∈ Insights.allowedTransitions fromState) (here : id ∈ insights.keys)
    (idle : untold.get? thread = none) :
    MovesTold storing log insights (moved ++ [(thread, id, toState)]) (untold.set thread (id, fromState, toState)) where
  settled := by
    intro event mem row id' stored settles
    apply (told.settled event mem row id' stored settles).imp_left
    rintro ⟨held, state, moving⟩
    exact ⟨held, state, List.mem_append_left _ moving⟩
  told := told.told
  moving := by
    intro other id' state mem
    rcases List.mem_append.mp mem with mem | new
    · obtain ⟨moves, key, more⟩ := told.moving other id' state mem
      refine ⟨moves, key, more.imp_left ?_⟩
      rintro ⟨fromState', toState', flushed⟩
      refine ⟨fromState', toState', ?_⟩
      rw [Dict.get?_set_ne]
      · exact flushed
      · rintro rfl
        rw [idle] at flushed
        cases flushed
    · cases List.mem_singleton.mp new
      exact ⟨not_new_of_allowed allowed, here, .inl ⟨fromState, toState, Dict.get?_set_self _ _ _⟩⟩
  flushed := by
    intro other id' fromState' toState' flushed
    rw [Dict.get?_set] at flushed
    split at flushed
    case isTrue same =>
      cases flushed
      rw [same]
      exact List.mem_append_right _ (List.mem_singleton.mpr rfl)
    case isFalse => exact List.mem_append_left _ (told.flushed other id' fromState' toState' flushed)

lemma Agreeing.tell {thread : ThreadId} {id : InsightId} {fromState toState : InsightState} {person : Bool}
    (a : Agreeing storing repr run s)
    (orderly : Orderly storing s.log (.insert thread (movedKind toState) (movedDetail id fromState toState person)))
    (kept : Kept storing (movedKind toState) (movedDetail id fromState toState person))
    (flushed : s.untold.get? thread = some (id, fromState, toState))
    (st : LogStep storing s.log (.insert thread (movedKind toState) (movedDetail id fromState toState person)) log') :
    Agreeing storing repr run { s with
      log := log'
      untold := s.untold.erase thread } := by
  obtain ⟨detail, stored, same⟩ := kept
  have reports : Reports repr ⟨movedKind toState, detail⟩ none (some id) none := reports_moved same
  obtain ⟨place, above, recorded, uncommitted⟩ : ∃ place, (∀ o ∈ s.log.inUse storing, o < place) ∧
      log'.recorded = s.log.recorded ++
        [⟨thread, place, movedKind toState, movedDetail id fromState toState person⟩] ∧
      log'.uncommitted = s.log.uncommitted ++ [(thread, place, ⟨movedKind toState, detail⟩)] := by
    cases st with
    | insert saw _ =>
      have above := orderly (Option.isSome_of_eq_some stored) _ saw
      exact ⟨_, above, rfl, insertRow_above stored above⟩
  have held : ∀ event, Held log' event ↔ Held s.log event ∨ event.thread = thread ∧ event.ordinal = place := by
    intro event
    rw [Held, uncommitted, List.map_append, List.mem_append, List.map_singleton, List.mem_singleton, Prod.mk.injEq]
    rfl
  have heldBefore : ∀ old ∈ s.log.recorded, (old.row storing).isSome = true → (Held log' old ↔ Held s.log old) := by
    intro old mem some
    rw [held]
    refine or_iff_left ?_
    rintro ⟨_, taken⟩
    have used := (a.accounted.located old (mem_tellable.mpr ⟨mem, some⟩)).inUse some
    exact lt_irrefl _ (taken ▸ above _ used)
  have heldNow : Held log' ⟨thread, place, movedKind toState, movedDetail id fromState toState person⟩ :=
    (held _).mpr (.inr ⟨rfl, rfl⟩)
  constructor
  case accounted => exact a.accounted.step ⟨orderly, st⟩
  case story =>
    apply a.story.append none (some id) none recorded fun old mem some => (heldBefore old mem some).mp
    · intro row here
      cases stored.symm.trans here
      exact ⟨reports, fun _ => ⟨rfl, rfl⟩⟩
    · exact nofun
  case writes =>
    apply a.writes.append recorded
    intro row here
    cases stored.symm.trans here
    exact ⟨some id, reports⟩
  case moves =>
    constructor
    case settled =>
      rw [recorded]
      intro event mem row id' here settles
      rcases List.mem_append.mp mem with mem | new
      · rw [heldBefore event mem (Option.isSome_of_eq_some here)]
        exact a.moves.settled event mem row id' here settles
      · cases List.mem_singleton.mp new
        cases stored.symm.trans here
        cases reports.settles.symm.trans settles
        exact .inl ⟨heldNow, toState, a.moves.flushed _ _ _ _ flushed⟩
    case told =>
      rw [recorded]
      intro id' state here moved
      obtain ⟨event, mem, notHeld, row, there, settles⟩ := a.moves.told id' state here moved
      refine ⟨event, List.mem_append_left _ mem, ?_, row, there, settles⟩
      rw [heldBefore event mem (Option.isSome_of_eq_some there)]
      exact notHeld
    case moving =>
      rw [recorded]
      intro other id' state mem
      obtain ⟨moves, key, more⟩ := a.moves.moving other id' state mem
      refine ⟨moves, key, ?_⟩
      by_cases own : other = thread
      · rcases more with ⟨fromState', toState', flushed'⟩ | ⟨event, there, by_, holds, row, here, settles⟩
        · rw [own, flushed] at flushed'
          cases flushed'
          exact .inr ⟨_, List.mem_append_right _ (List.mem_singleton.mpr rfl), own.symm, heldNow, _, stored,
            reports.settles⟩
        · exact .inr ⟨event, List.mem_append_left _ there, by_, (held _).mpr (.inl holds), row, here, settles⟩
      · refine more.imp ?_ ?_
        · rintro ⟨fromState', toState', flushed'⟩
          refine ⟨fromState', toState', ?_⟩
          rw [Dict.get?_erase, if_neg own]
          exact flushed'
        · rintro ⟨event, there, by_, holds, rest⟩
          exact ⟨event, List.mem_append_left _ there, by_, (held _).mpr (.inl holds), rest⟩
    case flushed =>
      intro other id' fromState' toState' flushed'
      rw [Dict.get?_erase] at flushed'
      split at flushed'
      · cases flushed'
      · exact a.moves.flushed other id' fromState' toState' flushed'
  case proposals => exact a.proposals

/-! ### A decision is committed, or taken back -/

/-- The moves of one session. -/
def applied (insights : Dict InsightId InsightState) (moved : List (ThreadId × InsightId × InsightState))
    (thread : ThreadId) : Dict InsightId InsightState :=
  (moved.filter (·.1 = thread)).foldl (fun rows move => rows.set move.2.1 move.2.2) insights

lemma get?_applied (insights : Dict InsightId InsightState) (moved : List (ThreadId × InsightId × InsightState))
    (thread : ThreadId) (id : InsightId) :
    (∃ state, (applied insights moved thread).get? id = some state ∧ (thread, id, state) ∈ moved) ∨
      (∀ state, (thread, id, state) ∉ moved) ∧ (applied insights moved thread).get? id = insights.get? id := by
  have fold : applied insights moved thread =
      ((moved.filter (·.1 = thread)).map Prod.snd).foldl (fun rows entry => rows.set entry.1 entry.2) insights := by
    rw [applied, List.foldl_map]
  rw [fold, Dict.get?_foldl_set]
  cases last : (((moved.filter (·.1 = thread)).map Prod.snd).filter fun entry => entry.1 = id).getLast? with
  | some entry =>
    left
    obtain ⟨ours, same⟩ := List.mem_filter.mp (List.mem_of_getLast? last)
    obtain ⟨move, there, rfl⟩ := List.mem_map.mp ours
    obtain ⟨here, own⟩ := List.mem_filter.mp there
    refine ⟨move.2.2, rfl, ?_⟩
    rw [← of_decide_eq_true own, ← of_decide_eq_true same]
    exact here
  | none =>
    right
    refine ⟨?_, rfl⟩
    intro state mem
    rw [List.getLast?_eq_none_iff, List.filter_eq_nil_iff] at last
    refine last (id, state) ?_ (decide_eq_true rfl)
    exact List.mem_map.mpr ⟨_, List.mem_filter.mpr ⟨mem, decide_eq_true rfl⟩, rfl⟩

lemma keys_applied {thread : ThreadId} (known : ∀ id state, (thread, id, state) ∈ moved → id ∈ insights.keys) :
    (applied insights moved thread).keys = insights.keys := by
  have fold : ∀ moves : List (ThreadId × InsightId × InsightState), ∀ insights : Dict InsightId InsightState,
      (∀ move ∈ moves, move.2.1 ∈ insights.keys) →
      (moves.foldl (fun rows move => rows.set move.2.1 move.2.2) insights).keys = insights.keys := by
    intro moves
    induction moves with
    | nil => exact fun _ _ => rfl
    | cons move moves ih =>
      intro insights known
      have same : (insights.set move.2.1 move.2.2).keys = insights.keys :=
        Dict.keys_set_of_mem (known move List.mem_cons_self)
      rw [List.foldl_cons, ih, same]
      intro other mem
      rw [same]
      exact known other (List.mem_cons_of_mem _ mem)
  apply fold
  intro move mem
  obtain ⟨mem, own⟩ := List.mem_filter.mp mem
  apply known move.2.1 move.2.2
  rw [← of_decide_eq_true own]
  exact mem

lemma held_filter {thread : ThreadId} (uncommitted : log'.uncommitted = log.uncommitted.filter (·.1 ≠ thread))
    (event : Recorded) : Held log' event ↔ Held log event ∧ event.thread ≠ thread := by
  rw [Held, Held, uncommitted]
  constructor
  · intro mem
    obtain ⟨row, mem, same⟩ := List.mem_map.mp mem
    obtain ⟨mem, other⟩ := List.mem_filter.mp mem
    refine ⟨List.mem_map.mpr ⟨row, mem, same⟩, ?_⟩
    have by_ : row.1 = event.thread := congrArg Prod.fst same
    rw [← by_]
    exact of_decide_eq_true other
  · rintro ⟨mem, other⟩
    obtain ⟨row, mem, same⟩ := List.mem_map.mp mem
    have by_ : row.1 = event.thread := congrArg Prod.fst same
    refine List.mem_map.mpr ⟨row, List.mem_filter.mpr ⟨mem, ?_⟩, same⟩
    rw [by_]
    exact decide_eq_true other

lemma WritesTold.keys {insights' : Dict InsightId InsightState}
    (told : WritesTold storing repr log insights written lastInsight groups) (keys : insights'.keys = insights.keys) :
    WritesTold storing repr log insights' written lastInsight groups where
  created := by
    rw [keys]
    exact told.created
  distinct := by
    rw [keys]
    exact told.distinct
  drawn := by
    rw [keys]
    exact told.drawn
  writing := told.writing
  done := told.done

lemma MovesTold.settle {thread : ThreadId} (told : MovesTold storing log insights moved untold)
    (recorded : log'.recorded = log.recorded) (uncommitted : log'.uncommitted = log.uncommitted.filter (·.1 ≠ thread))
    (idle : untold.get? thread = none) :
    MovesTold storing log' (applied insights moved thread) (moved.filter (·.1 ≠ thread)) untold := by
  have held := held_filter uncommitted
  constructor
  case settled =>
    rw [recorded]
    intro event mem row id stored settles
    rw [held]
    rcases get?_applied insights moved thread id with ⟨state, found, moving⟩ | ⟨none, same⟩
    · rcases told.settled event mem row id stored settles with ⟨holds, state', moving'⟩ | ⟨notHeld, _⟩
      · by_cases own : event.thread = thread
        · exact .inr ⟨fun holds => holds.2 own, state, found, (told.moving _ _ _ moving).1⟩
        · exact .inl ⟨⟨holds, own⟩, state', List.mem_filter.mpr ⟨moving', decide_eq_true own⟩⟩
      · exact .inr ⟨fun holds => notHeld holds.1, state, found, (told.moving _ _ _ moving).1⟩
    · rcases told.settled event mem row id stored settles with ⟨holds, state', moving'⟩ | ⟨notHeld, state', found, moves⟩
      · have other : event.thread ≠ thread := by
          intro own
          rw [own] at moving'
          exact none state' moving'
        exact .inl ⟨⟨holds, other⟩, state', List.mem_filter.mpr ⟨moving', decide_eq_true other⟩⟩
      · exact .inr ⟨fun holds => notHeld holds.1, state', same.trans found, moves⟩
  case told =>
    rw [recorded]
    intro id state found moves
    rcases get?_applied insights moved thread id with ⟨state', found', moving⟩ | ⟨_, same⟩
    · obtain ⟨_, _, more⟩ := told.moving thread id state' moving
      rcases more with ⟨_, _, flushed⟩ | ⟨event, mem, own, _, rest⟩
      · rw [idle] at flushed
        cases flushed
      · refine ⟨event, mem, ?_, rest⟩
        rw [held]
        exact fun holds => holds.2 own
    · obtain ⟨event, mem, notHeld, rest⟩ := told.told id state (same.symm.trans found) moves
      refine ⟨event, mem, ?_, rest⟩
      rw [held]
      exact fun holds => notHeld holds.1
  case moving =>
    rw [recorded]
    intro other id state mem
    obtain ⟨mem, ne⟩ := List.mem_filter.mp mem
    replace ne : other ≠ thread := of_decide_eq_true ne
    obtain ⟨moves, key, more⟩ := told.moving other id state mem
    refine ⟨moves, ?_, more.imp_right ?_⟩
    · rw [keys_applied fun id state mem => (told.moving thread id state mem).2.1]
      exact key
    · rintro ⟨event, mem, by_, holds, rest⟩
      refine ⟨event, mem, by_, ?_, rest⟩
      rw [held, by_]
      exact ⟨holds, ne⟩
  case flushed =>
    intro other id fromState toState flushed
    refine List.mem_filter.mpr ⟨told.flushed other id fromState toState flushed, decide_eq_true ?_⟩
    rintro rfl
    rw [idle] at flushed
    cases flushed

lemma Agreeing.settle {thread : ThreadId} (a : Agreeing storing repr run s) (idle : s.untold.get? thread = none)
    (st : LogStep storing s.log (.commit thread) log') :
    Agreeing storing repr run { s with
      log := log'
      insights := applied s.insights s.moved thread
      moved := s.moved.filter (·.1 ≠ thread) } := by
  have recorded : log'.recorded = s.log.recorded := by cases st; rfl
  have uncommitted : log'.uncommitted = s.log.uncommitted.filter (·.1 ≠ thread) := by cases st; rfl
  constructor
  case accounted => exact a.accounted.commit st
  case story =>
    constructor
    case order =>
      rw [story_eq recorded]
      exact a.story.order
    case created =>
      rw [story_eq recorded]
      exact a.story.created
    case approvals =>
      rw [story_eq recorded]
      exact a.story.approvals
    case held =>
      rw [recorded]
      intro event mem holds
      exact a.story.held event mem ((held_filter uncommitted event).mp holds).1
  case writes =>
    apply (a.writes.same recorded).keys
    exact keys_applied fun id state mem => (a.moves.moving thread id state mem).2.1
  case moves => exact a.moves.settle recorded uncommitted idle
  case proposals => exact a.proposals

/-- Events that say nothing of the kind may go. -/
lemma filterMap_filter_of_none {α β : Type*} {f : α → Option β} {keep : α → Bool} {l : List α}
    (none : ∀ a ∈ l, keep a = false → f a = none) : (l.filter keep).filterMap f = l.filterMap f := by
  induction l with
  | nil => rfl
  | cons a l ih =>
    have rest := ih fun b mem => none b (List.mem_cons_of_mem _ mem)
    rw [List.filter_cons]
    split
    · rw [List.filterMap_cons, List.filterMap_cons, rest]
    case isFalse gone =>
      rw [rest, List.filterMap_cons, none a List.mem_cons_self (by simpa using gone)]

lemma Agreeing.abandon {thread : ThreadId} (a : Agreeing storing repr run s)
    (st : LogStep storing s.log (.rollback thread) log') :
    Agreeing storing repr run { s with
      log := log'
      moved := s.moved.filter (·.1 ≠ thread)
      untold := s.untold.erase thread } := by
  have uncommitted : log'.uncommitted = s.log.uncommitted.filter (·.1 ≠ thread) := by cases st; rfl
  have held := held_filter uncommitted
  obtain ⟨keep, recorded, kept⟩ : ∃ keep : Recorded → Bool, log'.recorded = s.log.recorded.filter keep ∧
      ∀ event, keep event = true ↔ ¬ (Held s.log event ∧ event.thread = thread) := by
    have recorded : log'.recorded = s.log.recorded.filter fun event => (event.thread, event.ordinal) ∉
        (s.log.uncommitted.filter (·.1 = thread)).map fun row => (row.1, row.2.1) := by cases st; rfl
    refine ⟨_, recorded, fun event => ?_⟩
    rw [decide_eq_true_eq, Held]
    apply not_congr
    constructor
    · intro mem
      obtain ⟨row, mem, same⟩ := List.mem_map.mp mem
      obtain ⟨mem, own⟩ := List.mem_filter.mp mem
      have by_ : row.1 = event.thread := congrArg Prod.fst same
      exact ⟨List.mem_map.mpr ⟨row, mem, same⟩, by_.symm.trans (of_decide_eq_true own)⟩
    · rintro ⟨mem, own⟩
      obtain ⟨row, mem, same⟩ := List.mem_map.mp mem
      have by_ : row.1 = event.thread := congrArg Prod.fst same
      exact List.mem_map.mpr ⟨row, List.mem_filter.mpr ⟨mem, decide_eq_true (by_.trans own)⟩, same⟩
  have sub : (log'.story storing).Sublist (s.log.story storing) := by
    rw [LogState.story, recorded]
    exact List.filter_sublist.filterMap _
  -- what is taken back says of no finding that it was written, and of no group that it is done
  have silent : ∀ event ∈ s.log.recorded, keep event = false → ∀ row, event.row storing = some row →
      row.creates = none ∧ row.completes repr = none := by
    intro event mem gone row stored
    have own : Held s.log event ∧ event.thread = thread := by
      by_contra stays
      rw [(kept event).mpr stays] at gone
      cases gone
    exact a.story.held event mem own.1 row stored
  have stays : ∀ event ∈ s.log.recorded, ¬ (Held s.log event ∧ event.thread = thread) → event ∈ log'.recorded := by
    intro event mem stays
    rw [recorded]
    exact List.mem_filter.mpr ⟨mem, (kept event).mpr stays⟩
  constructor
  case accounted => exact a.accounted.rollback st
  case story =>
    constructor
    case order => exact a.story.order.sublist sub
    case created => exact fun row mem => a.story.created row (sub.subset mem)
    case approvals => exact fun row mem => a.story.approvals row (sub.subset mem)
    case held =>
      intro event mem holds
      rw [recorded] at mem
      exact a.story.held event (List.mem_filter.mp mem).1 ((held event).mp holds).1
  case writes =>
    constructor
    case created =>
      have same : (log'.story storing).filterMap AgentEvent.creates =
          (s.log.story storing).filterMap AgentEvent.creates := by
        rw [LogState.story, LogState.story, recorded, List.filterMap_filterMap, List.filterMap_filterMap]
        apply filterMap_filter_of_none
        intro event mem gone
        cases stored : event.row storing with
        | none => rfl
        | some row => exact (silent event mem gone row stored).1
      rw [same]
      exact a.writes.created
    case distinct => exact a.writes.distinct
    case drawn => exact a.writes.drawn
    case writing => exact a.writes.writing
    case done =>
      intro name
      rw [← a.writes.done]
      constructor
      · rintro ⟨row, mem, completes⟩
        exact ⟨row, sub.subset mem, completes⟩
      · rintro ⟨row, mem, completes⟩
        obtain ⟨event, mem, stored⟩ := mem_story.mp mem
        refine ⟨row, mem_story.mpr ⟨event, stays event mem ?_, stored⟩, completes⟩
        rintro ⟨holds, _⟩
        rw [(a.story.held event mem holds row stored).2] at completes
        cases completes
  case moves =>
    constructor
    case settled =>
      intro event mem row id stored settles
      rw [recorded] at mem
      obtain ⟨mem, keeps⟩ := List.mem_filter.mp mem
      rw [held]
      rcases a.moves.settled event mem row id stored settles with ⟨holds, state, moving⟩ | ⟨notHeld, more⟩
      · have other : event.thread ≠ thread := fun own => (kept event).mp keeps ⟨holds, own⟩
        exact .inl ⟨⟨holds, other⟩, state, List.mem_filter.mpr ⟨moving, decide_eq_true other⟩⟩
      · exact .inr ⟨fun holds => notHeld holds.1, more⟩
    case told =>
      intro id state found moves
      obtain ⟨event, mem, notHeld, rest⟩ := a.moves.told id state found moves
      refine ⟨event, stays event mem fun holds => notHeld holds.1, ?_, rest⟩
      rw [held]
      exact fun holds => notHeld holds.1
    case moving =>
      intro other id state mem
      obtain ⟨mem, ne⟩ := List.mem_filter.mp mem
      replace ne : other ≠ thread := of_decide_eq_true ne
      obtain ⟨moves, key, more⟩ := a.moves.moving other id state mem
      refine ⟨moves, key, more.imp ?_ ?_⟩
      · rintro ⟨fromState, toState, flushed⟩
        refine ⟨fromState, toState, ?_⟩
        rw [Dict.get?_erase, if_neg ne]
        exact flushed
      · rintro ⟨event, mem, by_, holds, rest⟩
        refine ⟨event, stays event mem fun own => ne (by_.symm.trans own.2), by_, ?_, rest⟩
        rw [held, by_]
        exact ⟨holds, ne⟩
    case flushed =>
      intro other id fromState toState flushed
      rw [Dict.get?_erase] at flushed
      split at flushed
      · cases flushed
      case isFalse ne =>
        exact List.mem_filter.mpr ⟨a.moves.flushed other id fromState toState flushed, decide_eq_true ne⟩
  case proposals => exact a.proposals

/-! ### The run -/

lemma Agreeing.step {l : RunLabel} (a : Agreeing storing repr run s)
    (st : Guarded (Steady storing) (RunWorldStep storing run) s l t) : Agreeing storing repr run t := by
  obtain ⟨steady, st⟩ := st
  cases st with
  | log inner st =>
    obtain ⟨recorded, uncommitted⟩ := inner_step inner st
    exact ⟨a.accounted.step ⟨steady, st⟩, a.story.same recorded uncommitted, a.writes.same recorded,
      a.moves.same recorded uncommitted, a.proposals⟩
  | say quiet st => exact a.say steady.1 steady.2 st
  | begin new st =>
    have said := a.say steady.1 steady.2 st
    exact ⟨said.accounted, said.story, said.writes.begin new, said.moves, said.proposals⟩
  | write running drawn st => exact a.write steady.1 steady.2 running drawn st
  | commitGroup running =>
    exact ⟨a.accounted, a.story, a.writes.commitGroup running, a.moves.commitGroup a.writes.distinct, a.proposals⟩
  | done committed st => exact a.done steady.1 steady.2 committed st
  | fail running => exact ⟨a.accounted, a.story, a.writes.fail steady running, a.moves, a.proposals⟩
  | load found => exact ⟨a.accounted, a.story, a.writes, a.moves, a.proposals⟩
  | move loaded allowed here unlocked idle =>
    exact ⟨a.accounted, a.story, a.writes, a.moves.move allowed here idle, a.proposals⟩
  | tell flushed st =>
    obtain ⟨orderly, kept⟩ := steady _ _ _ flushed
    exact a.tell orderly kept flushed st
  | settle idle st => exact a.settle idle st
  | abandon st => exact a.abandon st
  | propose new other =>
    refine ⟨a.accounted, a.story, a.writes, a.moves, ?_⟩
    intro id proposal found
    rw [Dict.get?_set] at found
    split at found
    · cases found
      exact other
    · exact a.proposals id proposal found
  | decide found allowed =>
    refine ⟨a.accounted, a.story, a.writes, a.moves, ?_⟩
    intro id proposal here
    rw [Dict.get?_set] at here
    split at here
    · cases here
      have other := a.proposals _ _ found
      exact other
    · exact a.proposals id proposal here

lemma RunWorld.Fresh.agreeing (fresh : s.Fresh run) : Agreeing storing repr run s := by
  have story : s.log.story storing = [] := by rw [LogState.story, fresh.log.recorded]; rfl
  constructor
  case accounted => exact fresh.rows ▸ fresh.log.accounted
  case story =>
    constructor
    case order =>
      rw [story]
      exact List.Pairwise.nil
    case created => simp [story]
    case approvals => simp [story]
    case held => simp [fresh.log.recorded]
  case writes =>
    rw [fresh.insights, fresh.written, fresh.groups]
    constructor
    case created => simp [story]
    case distinct => simp
    case drawn => simp
    case writing => simp
    case done => simp [story]
  case moves =>
    rw [fresh.insights, fresh.moved, fresh.untold]
    constructor
    case settled => simp [fresh.log.recorded]
    case told => simp
    case moving => simp
    case flushed => simp
  case proposals => exact fresh.proposals

lemma Agreeing.written_eq_nil (a : Agreeing storing repr run s) (settled : s.Settled) : s.written = [] := by
  rw [List.eq_nil_iff_forall_not_mem]
  rintro ⟨name, id⟩ mem
  rcases settled.groups name _ (a.writes.writing name id mem) with done | failed
  · cases done
  · cases failed

lemma Agreeing.found (a : Agreeing storing repr run s) (settled : s.Settled) :
    (tallyOf repr (s.log.story storing)).insightsFound = s.insights.items.length := by
  have created : ∀ rows : List AgentEvent,
      (∀ row ∈ rows, row.kind = insightCreated → row.creates.isSome = true) →
      (rows.filter (·.kind = insightCreated)).length = (rows.filterMap AgentEvent.creates).length := by
    intro rows all
    induction rows with
    | nil => rfl
    | cons row rows ih =>
      have rest := ih fun other mem => all other (List.mem_cons_of_mem _ mem)
      by_cases kind : row.kind = insightCreated
      · obtain ⟨id, creates⟩ := Option.isSome_iff_exists.mp (all row List.mem_cons_self kind)
        rw [List.filter_cons_of_pos (by simpa using kind), List.filterMap_cons, creates]
        exact congrArg (· + 1) rest
      · have creates : row.creates = none := if_neg kind
        rw [List.filter_cons_of_neg (by simpa using kind), List.filterMap_cons, creates]
        exact rest
  have perm := a.writes.created.length_eq
  rw [insightsFound_tallyOf, created _ a.story.created, perm, a.written_eq_nil settled]
  simp [Dict.keys]

lemma Agreeing.lookedAt (a : Agreeing storing repr run s) (settled : s.Settled) :
    (tallyOf repr (s.log.story storing)).groupsDone.card = s.lookedAt := by
  have names : (tallyOf repr (s.log.story storing)).groupsDone =
      ((s.groups.items.filter fun group => group.2 ≠ .failed).map Prod.fst).toFinset := by
    ext name
    rw [mem_groupsDone_tallyOf, a.writes.done, List.mem_toFinset, List.mem_map]
    constructor
    · intro done
      exact ⟨(name, .done), List.mem_filter.mpr ⟨s.groups.mem_items_iff.mpr done, decide_eq_true nofun⟩, rfl⟩
    · rintro ⟨⟨_, phase⟩, mem, rfl⟩
      obtain ⟨mem, ne⟩ := List.mem_filter.mp mem
      have found := s.groups.mem_items_iff.mp mem
      rcases settled.groups _ _ found with rfl | rfl
      · exact found
      · exact absurd rfl (of_decide_eq_true ne)
  rw [names, List.toFinset_card_of_nodup, List.length_map, RunWorld.lookedAt]
  exact s.groups.nodup.sublist (List.filter_sublist.map _)

lemma Agreeing.undecided (a : Agreeing storing repr run s) (settled : s.Settled) :
    (tallyOf repr (s.log.story storing)).undecidedInsights =
      ((s.insights.items.filter fun row => row.2 = .new).map Prod.fst).toFinset := by
  ext id
  have written : (∃ row ∈ s.log.story storing, row.creates = some id) ↔ id ∈ s.insights.keys := by
    rw [← List.mem_filterMap, a.writes.created.mem_iff, a.written_eq_nil settled]
    simp
  rw [mem_undecidedInsights_tallyOf a.story.order, written, List.mem_toFinset, List.mem_map]
  constructor
  · rintro ⟨key, undecided⟩
    obtain ⟨state, found⟩ := s.insights.mem_keys_iff.mp key
    have new : state = .new := by
      by_contra moves
      obtain ⟨event, mem, _, row, stored, settles⟩ := a.moves.told id state found moves
      exact undecided row (mem_story.mpr ⟨event, mem, stored⟩) settles
    exact ⟨(id, state), List.mem_filter.mpr ⟨s.insights.mem_items_iff.mpr found, decide_eq_true new⟩, rfl⟩
  · rintro ⟨⟨_, state⟩, mem, rfl⟩
    obtain ⟨mem, new⟩ := List.mem_filter.mp mem
    have found := s.insights.mem_items_iff.mp mem
    refine ⟨s.insights.mem_keys_iff.mpr ⟨state, found⟩, ?_⟩
    intro row here settles
    obtain ⟨event, mem, stored⟩ := mem_story.mp here
    rcases a.moves.settled event mem row _ stored settles with ⟨_, _, moving⟩ | ⟨_, state', found', moves⟩
    · rw [settled.moved] at moving
      cases moving
    · cases found.symm.trans found'
      exact moves (of_decide_eq_true new)

/-- Once an intelligence run's events are stored, the progress counted from them is what the tables hold, as long
    as no event that counts is lost or withheld and no group that wrote a finding fails. -/
theorem progress_agrees (repr : Json → String) (storing : Storing) (run : RunId) (s t : RunWorld) (ls : List RunLabel)
    (fresh : s.Fresh run) (r : Run (Guarded (Steady storing) (RunWorldStep storing run)) s ls t)
    (settled : t.Settled) : Agrees repr run t := by
  have a : Agreeing storing repr run t := r.invariant (Agreeing storing repr run) fresh.agreeing fun _ _ _ a st => a.step st
  have counted : runProgress repr t.log.rows = (tallyOf repr (t.log.story storing)).progress := by
    rw [runProgress_eq, ordered_eq_story a.accounted settled.log]
  constructor
  case found =>
    rw [counted]
    exact a.found settled
  case lookedAt =>
    rw [counted]
    exact a.lookedAt settled
  case waiting =>
    have none : (t.proposals.items.filter fun row => row.2.runId = some run ∧ row.2.status = .proposed) = [] := by
      rw [List.filter_eq_nil_iff]
      rintro ⟨id, proposal⟩ mem both
      exact a.proposals id proposal (t.proposals.mem_items_iff.mp mem) (of_decide_eq_true both).1
    have distinct : ((t.insights.items.filter fun row => row.2 = .new).map Prod.fst).Nodup :=
      t.insights.nodup.sublist (List.filter_sublist.map _)
    rw [counted, RunWorld.waiting, none, Tally.progress]
    dsimp only
    rw [awaitingApproval_tallyOf a.story.approvals, a.undecided settled, List.toFinset_card_of_nodup distinct,
      List.length_map]
    rfl

/-! ## A run with one group -/

def quietFinding : Finding := ⟨"risk", "gone quiet", 4, "high"⟩

/-- The group has written a finding. -/
def wroteFinding : RunWorld where
  log :=
    { next := 3
      queue := [some ⟨1, runStatus, startedDetail "gone_quiet"⟩,
        some ⟨2, insightCreated, createdDetail 7 quietFinding⟩]
      recorded := [⟨0, 1, runStatus, startedDetail "gone_quiet"⟩,
        ⟨0, 2, insightCreated, createdDetail 7 quietFinding⟩] }
  written := [("gone_quiet", 7)]
  lastInsight := 7
  groups := .ofList [("gone_quiet", .running)]

lemma kept_all (kind : String) (detail : Detail) : Kept storingAll kind detail := ⟨detail, rfl, fun _ => rfl⟩

lemma run_wroteFinding : Run (Guarded (Steady storingAll) (RunWorldStep storingAll 3)) {}
    [.begin 0 "gone_quiet", .log (.put 0), .write 0 "gone_quiet" 7 quietFinding, .log (.put 0)] wroteFinding := by
  have run : ∃ t : RunWorld, Run (Guarded (Steady storingAll) (RunWorldStep storingAll 3)) {}
      [.begin 0 "gone_quiet", .log (.put 0), .write 0 "gone_quiet" 7 quietFinding, .log (.put 0)] t ∧
      t = wroteFinding := by
    refine ⟨_, .snoc (.snoc (.snoc (.snoc .nil ⟨⟨?free, ?quiet⟩, .begin rfl (.claim ?idle)⟩)
      ⟨?opened, .log rfl (@LogStep.put _ _ 0 ⟨1, runStatus, startedDetail "gone_quiet"⟩ [] [] rfl)⟩)
      ⟨⟨?above, kept_all _ _⟩, .write rfl (by decide) (.claim ?idle')⟩)
      ⟨?opened', .log rfl (@LogStep.put _ _ 0 ⟨2, insightCreated, createdDetail 7 quietFinding⟩ [] [] rfl)⟩, rfl⟩
    case free => exact fun _ o mem => absurd mem List.not_mem_nil
    case quiet =>
      rintro row ⟨⟩
      constructor <;> simp [runStatus, insightCreated, insightDismissed, insightUpdated, approvalNeeded, approvalGiven]
      rfl
    case idle => exact List.not_mem_nil
    case above =>
      intro _ o mem
      have one : o ∈ [1] := mem
      rw [List.mem_singleton.mp one]
      decide
    case idle' => exact List.not_mem_nil
    case opened => rfl
    case opened' => rfl
  obtain ⟨t, run, rfl⟩ := run
  exact run

def toldOfGroup : List Recorded :=
  [⟨0, 1, runStatus, startedDetail "gone_quiet"⟩, ⟨0, 2, insightCreated, createdDetail 7 quietFinding⟩,
    ⟨0, 3, runStatus, doneDetail "gone_quiet" "wrote_something" 1⟩]

/-- The group is done, its events are queued. -/
def groupLookedAt : RunWorld where
  log :=
    { next := 4
      queue := toldOfGroup.map fun event => some ⟨event.ordinal, event.kind, event.detail⟩
      recorded := toldOfGroup }
  insights := .ofList [(7, .new)]
  lastInsight := 7
  groups := .ofList [("gone_quiet", .done)]

lemma run_groupLookedAt : Run (Guarded (Steady storingAll) (RunWorldStep storingAll 3)) wroteFinding
    [.commitGroup "gone_quiet", .done 0 "gone_quiet" "wrote_something" 1, .log (.put 0)] groupLookedAt := by
  have run : ∃ t : RunWorld, Run (Guarded (Steady storingAll) (RunWorldStep storingAll 3)) wroteFinding
      [.commitGroup "gone_quiet", .done 0 "gone_quiet" "wrote_something" 1, .log (.put 0)] t ∧ t = groupLookedAt := by
    refine ⟨_, .snoc (.snoc (.snoc .nil ⟨trivial, .commitGroup rfl⟩) ⟨⟨?above, kept_all _ _⟩, .done rfl (.claim ?idle)⟩)
      ⟨?opened, .log rfl (@LogStep.put _ _ 0 ⟨3, runStatus, doneDetail "gone_quiet" "wrote_something" 1⟩ [] [] rfl)⟩,
      rfl⟩
    case above =>
      intro _ o mem
      have places : o ∈ [1, 2] := mem
      simp only [List.mem_cons, List.not_mem_nil, or_false] at places
      rcases places with rfl | rfl <;> decide
    case idle => exact List.not_mem_nil
    case opened => rfl
  obtain ⟨t, run, rfl⟩ := run
  exact run

/-- The log has closed. -/
def groupStored : RunWorld :=
  { groupLookedAt with
    log :=
      { next := 4
        rows := .ofList (toldOfGroup.map fun event => (event.ordinal, ⟨event.kind, event.detail⟩))
        stopped := true
        recorded := toldOfGroup } }

lemma run_groupStored : Run (Guarded (Steady storingAll) (RunWorldStep storingAll 3)) groupLookedAt
    [.log (.take 3), .log .write, .log .close, .log .stop] groupStored := by
  have run : ∃ t : RunWorld, Run (Guarded (Steady storingAll) (RunWorldStep storingAll 3)) groupLookedAt
      [.log (.take 3), .log .write, .log .close, .log .stop] t ∧ t = groupStored := by
    refine ⟨_, .snoc (.snoc (.snoc (.snoc .nil ⟨trivial, .log rfl (@LogStep.take _ _
      (toldOfGroup.map fun event => ⟨event.ordinal, event.kind, event.detail⟩) [] rfl rfl (by decide) rfl)⟩)
      ⟨.inl ?all, .log rfl (.write ?unblocked)⟩) ⟨trivial, .log rfl (.close rfl)⟩)
      ⟨trivial, .log rfl (.stop rfl rfl)⟩, rfl⟩
    case all =>
      intro p mem
      rfl
    case unblocked => exact fun _ _ => List.not_mem_nil
  obtain ⟨t, run, rfl⟩ := run
  exact run

/-- The finding was accepted. -/
theorem progress_agrees_accepted : ∃ t : RunWorld, t.Settled ∧ t.insights.items = [(7, .accepted)] ∧
    t.log.rows.keys = [1, 2, 3, 4] ∧ Agrees noRepr 3 t := by
  have run : ∃ t : RunWorld, Run (Guarded (Steady storingAll) (RunWorldStep storingAll 3)) groupStored
      [.load 1 7, .move 1 .accepted, .log (.look 1), .tell 1 true, .settle 1] t ∧
      t = { groupStored with
            log :=
              { groupStored.log with
                rows := groupStored.log.rows.set 4 ⟨insightUpdated, movedDetail 7 .new .accepted true⟩
                recorded := toldOfGroup ++ [⟨1, 4, insightUpdated, movedDetail 7 .new .accepted true⟩] }
            insights := .ofList [(7, .accepted)]
            loaded := .ofList [(1, 7, .accepted)] } := by
    refine ⟨_, .snoc (.snoc (.snoc (.snoc (.snoc .nil ⟨trivial, @RunWorldStep.load _ _ _ 1 7 .new rfl⟩)
      ⟨trivial, .move rfl (by decide) (by decide) nofun rfl⟩) ⟨trivial, .log rfl .look⟩)
      ⟨?steady, .tell rfl (@LogStep.insert _ _ 1 _ _ 3 rfl ?alone)⟩) ⟨trivial, .settle rfl .commit⟩, rfl⟩
    case steady =>
      rintro id fromState toState ⟨⟩
      refine ⟨?_, kept_all _ _⟩
      intro _ highest saw o mem
      cases saw
      have places : o ∈ [1, 2, 3] := mem
      simp only [List.mem_cons, List.not_mem_nil, or_false] at places
      rcases places with rfl | rfl | rfl <;> decide
    case alone => exact fun _ mem => absurd mem List.not_mem_nil
  obtain ⟨t, run, same⟩ := run
  have settled : t.Settled := by
    rw [same]
    refine ⟨⟨rfl, rfl, rfl⟩, ?_, rfl⟩
    intro name phase found
    rw [← Dict.mem_items_iff] at found
    cases List.mem_singleton.mp found
    exact .inl rfl
  have fresh : RunWorld.Fresh 3 {} :=
    ⟨⟨Nat.one_pos, rfl, rfl, rfl, rfl, rfl, rfl⟩, rfl, rfl, rfl, rfl, rfl, rfl, nofun⟩
  refine ⟨t, settled, ?_, ?_, progress_agrees noRepr storingAll 3 {} t _ fresh
    (((run_wroteFinding.append run_groupLookedAt).append run_groupStored).append run) settled⟩
  · rw [same]
    rfl
  · rw [same]
    rfl

/-- The group fails after its finding was told. -/
theorem finding_rolled_back : ¬ ∀ (repr : Json → String) (storing : Storing) (run : RunId) (s t : RunWorld)
    (ls : List RunLabel), s.Fresh run → Run (RunWorldStep storing run) s ls t → t.Settled → Agrees repr run t := by
  intro claim
  have run : ∃ t : RunWorld, Run (RunWorldStep storingAll 3) wroteFinding
      [.fail "gone_quiet", .log (.take 2), .log .write, .log .close, .log .stop] t ∧
      t = { lastInsight := 7
            groups := .ofList [("gone_quiet", .failed)]
            log :=
              { next := 3
                rows := .ofList [(1, ⟨runStatus, startedDetail "gone_quiet"⟩),
                  (2, ⟨insightCreated, createdDetail 7 quietFinding⟩)]
                stopped := true
                recorded := wroteFinding.log.recorded } } := by
    refine ⟨_, .snoc (.snoc (.snoc (.snoc (.snoc .nil (.fail rfl)) (.log rfl (@LogStep.take _ _
      [⟨1, runStatus, startedDetail "gone_quiet"⟩, ⟨2, insightCreated, createdDetail 7 quietFinding⟩] [] rfl rfl
      (by decide) rfl))) (.log rfl (.write ?unblocked))) (.log rfl (.close rfl))) (.log rfl (.stop rfl rfl)), rfl⟩
    case unblocked => exact fun _ _ => List.not_mem_nil
  obtain ⟨t, run, same⟩ := run
  have settled : t.Settled := by
    rw [same]
    refine ⟨⟨rfl, rfl, rfl⟩, ?_, rfl⟩
    intro name phase found
    rw [← Dict.mem_items_iff] at found
    cases List.mem_singleton.mp found
    exact .inr rfl
  have fresh : RunWorld.Fresh 3 {} :=
    ⟨⟨Nat.one_pos, rfl, rfl, rfl, rfl, rfl, rfl⟩, rfl, rfl, rfl, rfl, rfl, rfl, nofun⟩
  have found := (claim noRepr storingAll 3 {} t _ fresh (run_wroteFinding.of_guarded.append run) settled).found
  rw [same] at found
  cases found

end ClientEngagement.Events
