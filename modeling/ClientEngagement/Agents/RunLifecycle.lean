import ClientEngagement.Lib.Dict
import ClientEngagement.Lib.Runs
import ClientEngagement.Rules.Store

/-!
# The runs of the agents

Model of `start_agent_run`, `fail_stale_runs` and `execute_agent_run` (`agents/agent_loop.py`) as sessions
over the committed rows of `agent_run`. A start looks for a book-wide run under way and inserts its own in
two statements with nothing between them; the reaper and the executor write an end state over whatever the
row holds by then. `one_run_iff` says exactly which interleavings keep one book-wide run at a time and every
end state for good.
-/

namespace ClientEngagement.Agents
open Rules (Instant)

abbrev RunId := ℤ
abbrev SessionId := ℕ

/-- `AGENT_RUN_STATES`. -/
inductive AgentRunState where
  | running
  | completed
  | failed
deriving DecidableEq

/-- `AGENT_KINDS`. -/
inductive AgentKind where
  | nightly
  | intelligence
  | action
  | chat
deriving DecidableEq

/-- `BOOK_WIDE_AGENTS`. -/
def AgentKind.isBookWide (kind : AgentKind) : Bool := kind = .nightly ∨ kind = .intelligence

structure AgentRun where
  startedAt : Instant
  agentKind : AgentKind
  state : AgentRunState := .running
  finishedAt : Option Instant := none
  failureReason : Option String := none

def AgentRun.isUnderWay (run : AgentRun) : Bool := run.agentKind.isBookWide ∧ run.state = .running

/-- Where a session is: it has selected the stale runs, on its way to a start or not; it has found no
    book-wide run under way; it executes a run, whose state it holds as it loaded it; or a step raised and
    it has loaded the run again. -/
inductive RunPhase where
  | reaping (stale : List RunId) (next : Option AgentKind)
  | swept (kind : AgentKind)
  | cleared (kind : AgentKind)
  | executing (runId : RunId) (loaded : AgentRunState)
  | failing (runId : RunId) (loaded : AgentRunState) (reason : String)

structure AgentRuns where
  runs : Dict RunId AgentRun := .empty
  sessions : Dict SessionId RunPhase := .empty

def orphaned : String := "run exceeded the maximum runtime and was treated as orphaned"

/-- `started_at < now - max_runtime_minutes`. -/
def isStale (now : Instant) (maxRuntimeMinutes : ℤ) (run : AgentRun) : Bool :=
  run.state = .running ∧ run.startedAt < now - maxRuntimeMinutes * 60000000

def staleRuns (s : AgentRuns) (now : Instant) (maxRuntimeMinutes : ℤ) : List RunId :=
  (s.runs.items.filter fun (_, run) => isStale now maxRuntimeMinutes run).map Prod.fst

/-- The columns the reaper sets. -/
def AgentRun.reaped (run : AgentRun) (now : Instant) : AgentRun :=
  { run with state := .failed, finishedAt := some now, failureReason := some orphaned }

def reap (runs : Dict RunId AgentRun) (stale : List RunId) (now : Instant) : Dict RunId AgentRun :=
  runs.mapEntries fun runId run => if runId ∈ stale then run.reaped now else run

/-- The state a session leaves: an attribute set to what was loaded is no change, so it is not written. -/
def written (loaded target current : AgentRunState) : AgentRunState :=
  if loaded = target then current else target

def AgentRun.complete (run : AgentRun) (loaded : AgentRunState) (now : Instant) : AgentRun :=
  { run with state := written loaded .completed run.state, finishedAt := some now }

def AgentRun.fail (run : AgentRun) (loaded : AgentRunState) (reason : String) (now : Instant) : AgentRun :=
  { run with
    state := written loaded .failed run.state
    finishedAt := some now
    failureReason := some reason }

/-- What a session does next, and the clock where it reads it. -/
inductive RunLabel where
  | select (session : SessionId) (now : Instant) (maxRuntimeMinutes : ℤ) (next : Option AgentKind)
  | reap (session : SessionId) (now : Instant)
  | look (session : SessionId)
  | insert (session : SessionId) (runId : RunId) (now : Instant)
  | execute (session : SessionId) (runId : RunId)
  | complete (session : SessionId) (now : Instant)
  | raise (session : SessionId) (reason : String)
  | fail (session : SessionId) (now : Instant)

def underWay (s : AgentRuns) : Bool := s.runs.items.any fun (_, run) => run.isUnderWay

/-- The session after the reaper's commit. -/
def afterReap (sessions : Dict SessionId RunPhase) (session : SessionId) :
    Option AgentKind → Dict SessionId RunPhase
  | none => sessions.erase session
  | some kind => sessions.set session (.swept kind)

inductive RunStep (s : AgentRuns) : RunLabel → AgentRuns → Prop where
  | select {sid now minutes next} (new : s.sessions.get? sid = none) :
      RunStep s (.select sid now minutes next)
        { s with sessions := s.sessions.set sid (.reaping (staleRuns s now minutes) next) }
  | reap {sid now stale next} (phase : s.sessions.get? sid = some (.reaping stale next)) :
      RunStep s (.reap sid now)
        { s with runs := reap s.runs stale now, sessions := afterReap s.sessions sid next }
  | look {sid kind} (phase : s.sessions.get? sid = some (.swept kind))
      (free : kind.isBookWide = true → underWay s = false) :
      RunStep s (.look sid) { s with sessions := s.sessions.set sid (.cleared kind) }
  -- `AgentRunInProgress`
  | refused {sid kind} (phase : s.sessions.get? sid = some (.swept kind))
      (busy : kind.isBookWide = true ∧ underWay s = true) :
      RunStep s (.look sid) { s with sessions := s.sessions.erase sid }
  | insert {sid runId now kind} (phase : s.sessions.get? sid = some (.cleared kind))
      (new : s.runs.get? runId = none) :
      RunStep s (.insert sid runId now)
        { s with
          runs := s.runs.set runId { startedAt := now, agentKind := kind }
          sessions := s.sessions.erase sid }
  | execute {sid runId run} (new : s.sessions.get? sid = none) (found : s.runs.get? runId = some run) :
      RunStep s (.execute sid runId)
        { s with sessions := s.sessions.set sid (.executing runId run.state) }
  | complete {sid now runId loaded run} (phase : s.sessions.get? sid = some (.executing runId loaded))
      (found : s.runs.get? runId = some run) :
      RunStep s (.complete sid now)
        { s with
          runs := s.runs.set runId (run.complete loaded now)
          sessions := s.sessions.erase sid }
  -- the rollback expires the run, so it is loaded again
  | raise {sid reason runId loaded run} (phase : s.sessions.get? sid = some (.executing runId loaded))
      (found : s.runs.get? runId = some run) :
      RunStep s (.raise sid reason)
        { s with sessions := s.sessions.set sid (.failing runId run.state reason) }
  | fail {sid now runId loaded reason run}
      (phase : s.sessions.get? sid = some (.failing runId loaded reason))
      (found : s.runs.get? runId = some run) :
      RunStep s (.fail sid now)
        { s with
          runs := s.runs.set runId (run.fail loaded reason now)
          sessions := s.sessions.erase sid }

/-! ## One run at a time, one end each -/

def OneBookWide (s : AgentRuns) : Prop :=
  ∀ id id' run run', s.runs.get? id = some run → s.runs.get? id' = some run' →
    run.isUnderWay = true → run'.isUnderWay = true → id = id'

/-- A run that has ended stays as it ended. -/
def EndsStay (s t : AgentRuns) : Prop :=
  ∀ id run, s.runs.get? id = some run → run.state ≠ .running →
    ∃ run', t.runs.get? id = some run' ∧ run'.state = run.state

structure RunLaw (s t : AgentRuns) : Prop where
  one : OneBookWide t
  ends : EndsStay s t

/-- Writing the state is no second end. -/
def NotEnded (loaded target : AgentRunState) (run : AgentRun) : Prop :=
  loaded = target ∨ run.state = .running ∨ run.state = target

/-- The condition on a step: nothing happened since the session looked that it would have had to see. A start
    inserts a book-wide run while none is under way, and who writes an end state finds no other end. -/
def Undisturbed (s : AgentRuns) : RunLabel → Prop
  | .reap sid _ => ∀ stale next id run, s.sessions.get? sid = some (.reaping stale next) → id ∈ stale →
      s.runs.get? id = some run → run.state ≠ .completed
  | .insert sid _ _ => ∀ kind, s.sessions.get? sid = some (.cleared kind) → kind.isBookWide = true →
      underWay s = false
  | .complete sid _ => ∀ runId loaded run, s.sessions.get? sid = some (.executing runId loaded) →
      s.runs.get? runId = some run → NotEnded loaded .completed run
  | .fail sid _ => ∀ runId loaded reason run,
      s.sessions.get? sid = some (.failing runId loaded reason) →
      s.runs.get? runId = some run → NotEnded loaded .failed run
  | _ => True

variable {s t : AgentRuns} {label : RunLabel} {ls : List RunLabel} {runId id : RunId} {run : AgentRun}

lemma underWay_iff : underWay s = true ↔ ∃ id run, s.runs.get? id = some run ∧ run.isUnderWay = true := by
  rw [underWay, List.any_eq_true]
  constructor
  · intro ⟨⟨id, run⟩, mem, open'⟩
    exact ⟨id, run, s.runs.mem_items_iff.mp mem, open'⟩
  · intro ⟨id, run, found, open'⟩
    exact ⟨(id, run), s.runs.mem_items_iff.mpr found, open'⟩

lemma isUnderWay_iff : run.isUnderWay = true ↔ run.agentKind.isBookWide = true ∧ run.state = .running := by
  rw [AgentRun.isUnderWay, decide_eq_true_eq]

/-- The table is as it was. -/
lemma RunLaw.refl (one : OneBookWide s) (same : t.runs = s.runs) : RunLaw s t where
  one := by
    rw [OneBookWide, same]
    exact one
  ends id run found _ := ⟨run, same ▸ found, rfl⟩

/-- Whatever only closes runs leaves at most one under way. -/
lemma OneBookWide.closing (one : OneBookWide s)
    (back : ∀ id run, t.runs.get? id = some run → run.isUnderWay = true →
      ∃ run', s.runs.get? id = some run' ∧ run'.isUnderWay = true) : OneBookWide t := by
  intro id id' run run' found found' open' open''
  obtain ⟨earlier, there, was⟩ := back id run found open'
  obtain ⟨earlier', there', was'⟩ := back id' run' found' open''
  exact one id id' earlier earlier' there there' was was'

/-- An end state written over a run is no second end exactly when the run had not ended otherwise. -/
lemma written_iff {loaded target current : AgentRunState} :
    (current ≠ .running → written loaded target current = current) ↔
      loaded = target ∨ current = .running ∨ current = target := by
  rw [written]
  split
  · rename_i same
    exact iff_of_true (fun _ => rfl) (.inl same)
  · rename_i other
    constructor
    · intro stays
      by_cases ended : current = .running
      · exact .inr (.inl ended)
      · exact .inr (.inr (stays ended).symm)
    · rintro (same | open' | same) ended
      · exact absurd same other
      · exact absurd open' ended
      · exact same.symm

/-- The end of one run: the law holds exactly when the run had not ended otherwise. -/
lemma ends_iff (target : AgentRunState) (run' : AgentRun) {loaded : AgentRunState} (one : OneBookWide s)
    (found : s.runs.get? runId = some run) (ended : target ≠ .running)
    (kind : run'.agentKind = run.agentKind) (state : run'.state = written loaded target run.state)
    (rows : t.runs = s.runs.set runId run') :
    NotEnded loaded target run ↔ RunLaw s t := by
  have law : EndsStay s t ↔ (run.state ≠ .running → written loaded target run.state = run.state) := by
    constructor
    · intro ends past
      obtain ⟨last, there, same⟩ := ends runId run found past
      rw [rows, Dict.get?_set_self] at there
      cases there
      rw [← state, same]
    · intro stays id row there past
      rw [rows, Dict.get?_set]
      split
      · rename_i same
        subst same
        cases found.symm.trans there
        exact ⟨run', rfl, by rw [state, stays past]⟩
      · exact ⟨row, there, rfl⟩
  rw [NotEnded, ← written_iff, ← law]
  constructor
  · intro ends
    refine ⟨one.closing ?_, ends⟩
    intro id row there open'
    rw [rows, Dict.get?_set] at there
    split at there
    · rename_i same
      subst same
      cases there
      obtain ⟨wide, running⟩ := isUnderWay_iff.mp open'
      refine ⟨run, found, isUnderWay_iff.mpr ⟨kind ▸ wide, ?_⟩⟩
      rw [state, written] at running
      split at running
      · exact running
      · exact absurd running ended
    · exact ⟨row, there, open'⟩
  · exact RunLaw.ends

/-- The reaper's commit. -/
lemma reap_iff {stale : List RunId} {now : Instant} (one : OneBookWide s)
    (rows : t.runs = reap s.runs stale now) :
    (∀ id run, id ∈ stale → s.runs.get? id = some run → run.state ≠ .completed) ↔ RunLaw s t := by
  have read : ∀ id, t.runs.get? id =
      (s.runs.get? id).map fun run => if id ∈ stale then run.reaped now else run := by
    intro id
    rw [rows, reap, Dict.get?_mapEntries]
  constructor
  · intro live
    constructor
    · apply one.closing
      intro id row there open'
      rw [read, Option.map_eq_some_iff] at there
      obtain ⟨before, found, same⟩ := there
      refine ⟨before, found, ?_⟩
      split at same
      · rw [← same] at open'
        exact absurd (isUnderWay_iff.mp open').2 nofun
      · exact same ▸ open'
    · intro id row found past
      rw [read, found, Option.map_some]
      split
      · rename_i mem
        refine ⟨_, rfl, ?_⟩
        cases state : row.state with
        | running => exact absurd state past
        | completed => exact absurd state (live id row mem found)
        | failed => rfl
      · exact ⟨row, rfl, rfl⟩
  · intro law id row mem found completed
    obtain ⟨last, there, same⟩ := law.ends id row found (by rw [completed]; decide)
    rw [read, found, Option.map_some, if_pos mem] at there
    cases there
    rw [completed] at same
    cases same

/-- The commit of a start. -/
lemma insert_iff {kind : AgentKind} {now : Instant} (one : OneBookWide s)
    (new : s.runs.get? runId = none)
    (rows : t.runs = s.runs.set runId { startedAt := now, agentKind := kind }) :
    (kind.isBookWide = true → underWay s = false) ↔ RunLaw s t := by
  have kept : ∀ id row, s.runs.get? id = some row → t.runs.get? id = some row := by
    intro id row found
    rw [rows, Dict.get?_set_ne]
    · exact found
    · intro same
      rw [same, new] at found
      cases found
  have own : t.runs.get? runId = some { startedAt := now, agentKind := kind } := by
    rw [rows, Dict.get?_set_self]
  constructor
  · intro free
    refine ⟨?_, fun id row found _ => ⟨row, kept id row found, rfl⟩⟩
    have back : ∀ id row, t.runs.get? id = some row → row.isUnderWay = true →
        id = runId ∧ kind.isBookWide = true ∨ s.runs.get? id = some row := by
      intro id row there open'
      rw [rows, Dict.get?_set] at there
      split at there
      · rename_i same
        cases there
        exact .inl ⟨same, (isUnderWay_iff.mp open').1⟩
      · exact .inr there
    have alone : kind.isBookWide = true → ∀ id row, s.runs.get? id = some row →
        row.isUnderWay ≠ true := by
      intro wide id row found open'
      have busy := underWay_iff.mpr ⟨id, row, found, open'⟩
      rw [free wide] at busy
      cases busy
    intro id id' row row' there there' open' open''
    rcases back id row there open' with ⟨first, wide⟩ | found
    · rcases back id' row' there' open'' with ⟨second, _⟩ | found'
      · rw [first, second]
      · exact absurd open'' (alone wide id' row' found')
    · rcases back id' row' there' open'' with ⟨_, wide⟩ | found'
      · exact absurd open' (alone wide id row found)
      · exact one id id' row row' found found' open' open''
  · intro law wide
    cases busy : underWay s with
    | false => rfl
    | true =>
      obtain ⟨id, row, found, open'⟩ := underWay_iff.mp busy
      have same := law.one id runId row _ (kept id row found) own open' (isUnderWay_iff.mpr ⟨wide, rfl⟩)
      rw [same, new] at found
      cases found

/-- A step keeps the law exactly when it meets the condition. -/
lemma undisturbed_iff (one : OneBookWide s) (st : RunStep s label t) :
    Undisturbed s label ↔ RunLaw s t := by
  cases st with
  | select _ => exact iff_of_true trivial (.refl one rfl)
  | look _ _ => exact iff_of_true trivial (.refl one rfl)
  | refused _ _ => exact iff_of_true trivial (.refl one rfl)
  | execute _ _ => exact iff_of_true trivial (.refl one rfl)
  | raise _ _ => exact iff_of_true trivial (.refl one rfl)
  | reap phase =>
    rw [← reap_iff one rfl]
    constructor
    · exact fun h id run mem found => h _ _ id run phase mem found
    · intro h stale next id run phase' mem found
      cases phase.symm.trans phase'
      exact h id run mem found
  | insert phase new =>
    rw [← insert_iff one new rfl]
    constructor
    · exact fun h => h _ phase
    · intro h kind phase'
      cases phase.symm.trans phase'
      exact h
  | @complete sid now runId loaded run phase found =>
    rw [← ends_iff .completed (run.complete loaded now) one found nofun rfl rfl rfl]
    constructor
    · exact fun h => h _ _ _ phase found
    · intro h runId loaded run phase' found'
      cases phase.symm.trans phase'
      cases found.symm.trans found'
      exact h
  | @fail sid now runId loaded reason run phase found =>
    rw [← ends_iff .failed (run.fail loaded reason now) one found nofun rfl rfl rfl]
    constructor
    · exact fun h => h _ _ _ _ phase found
    · intro h runId loaded reason run phase' found'
      cases phase.symm.trans phase'
      cases found.symm.trans found'
      exact h

/-- The interleavings in which at most one book-wide run is under way at any time and no end state changes
    are those in which nothing happened since a session looked that it would have had to see. -/
theorem one_run_iff (one : OneBookWide s) :
    Run (Guarded Undisturbed RunStep) s ls t ↔ Run (Respecting RunLaw RunStep) s ls t := by
  apply Run.guarded_iff_respecting one
  · exact fun _ _ _ _ _ law => law.one
  · exact fun _ _ _ => undisturbed_iff

lemma oneBookWide_start : OneBookWide {} := by
  intro id id' run run' found
  cases found

lemma nightly_undisturbed : ∃ t, Run (Guarded Undisturbed RunStep) {}
    [.select 1 0 120 (some .nightly), .reap 1 0, .look 1, .insert 1 7 5, .execute 1 7, .complete 1 90]
    t := by
  refine ⟨_, .snoc (.snoc (.snoc (.snoc (.snoc (.single ⟨trivial, .select rfl⟩)
    ⟨?empty, .reap rfl⟩) ⟨trivial, .look rfl fun _ => rfl⟩)
    ⟨fun _ _ _ => rfl, .insert rfl rfl⟩) ⟨trivial, .execute rfl rfl⟩)
    ⟨?ended, .complete rfl rfl⟩⟩
  case empty =>
    intro stale next id run phase mem
    cases phase
    cases mem
  case ended =>
    intro runId loaded run phase found
    cases phase
    cases found
    exact .inr (.inl rfl)

/-- A nightly run that starts and completes. -/
theorem one_run_nightly : ∃ t, Run (Respecting RunLaw RunStep) {}
    [.select 1 0 120 (some .nightly), .reap 1 0, .look 1, .insert 1 7 5, .execute 1 7, .complete 1 90]
    t := by
  obtain ⟨t, r⟩ := nightly_undisturbed
  exact ⟨t, (one_run_iff oneBookWide_start).mp r⟩

/-- Two starts that look before either inserts. -/
theorem two_runs_at_once : ¬ ∀ (s t : AgentRuns) (ls : List RunLabel), OneBookWide s →
    Run RunStep s ls t → Run (Respecting RunLaw RunStep) s ls t := by
  intro claim
  have r : Run RunStep {}
      [.select 1 0 120 (some .nightly), .reap 1 0, .look 1, .select 2 1 120 (some .intelligence),
        .reap 2 1, .look 2, .insert 1 7 2, .insert 2 8 3] _ :=
    .snoc (.snoc (.snoc (.snoc (.snoc (.snoc (.snoc (.single (.select rfl)) (.reap rfl))
      (.look rfl fun _ => rfl)) (.select rfl)) (.reap rfl)) (.look rfl fun _ => rfl))
      (.insert rfl rfl)) (.insert rfl rfl)
  have one := (claim _ _ _ oneBookWide_start r).invariant OneBookWide oneBookWide_start
    fun _ _ _ _ st => st.2.one
  cases one 7 8 _ _ rfl rfl rfl rfl

end ClientEngagement.Agents
