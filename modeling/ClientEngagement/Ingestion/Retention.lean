import ClientEngagement.Ingestion.Resume

/-!
# Runs and retention

Any number of pulls, the passes that flatten their raw pages (a risk run, or a transform of an ingestion
run), and `prune_raw_staging` (`retention.py`) between them. A pull trusts its cursor and a pass trusts the
state of the pull, but a prune deletes pages by the age of the run: an older completed run may still have
its pass ahead of it, and an older failed one may be resumed. `built_from_every_page` says that every pass
which ends completed has read all that was fetched for it, as long as none reads a run with a page that was
pruned and not fetched again; `flatten_whole_iff` says that this is exact.
-/

namespace ClientEngagement.Ingestion

/-! ## What is stale -/

abbrev StatusRow := RunId × IngestionStatus

/-- The completed runs, newest first; the table does not say which of two comes first that started at
    once. -/
structure Ranked (db : IngestionDb) (ranked : List StatusRow) : Prop where
  rows : ranked.Perm (db.statuses.items.filter fun row => row.2.state = .completed)
  newest : ranked.Pairwise fun row other => other.2.startedAt ≤ row.2.startedAt

def ofEndpoint (ranked : List StatusRow) (endpoint : String) : List StatusRow :=
  ranked.filter fun row => row.2.endpoint = endpoint

/-- Completed runs whose position among those of their endpoint is past `keep`. -/
def olderCompleted (ranked : List StatusRow) (keep : ℕ) : List RunId :=
  (ranked.filter fun row =>
    !(((ofEndpoint ranked row.2.endpoint).take keep).map Prod.fst).contains row.1).map Prod.fst

/-- Failed runs that started before the newest completed one of their endpoint. -/
def olderFailed (db : IngestionDb) (ranked : List StatusRow) : List RunId :=
  (db.statuses.items.filter fun row => row.2.state = .failed ∧
    (ofEndpoint ranked row.2.endpoint).head?.any fun newest =>
      row.2.startedAt < newest.2.startedAt).map Prod.fst

/-- `_stale_pull_run_ids`. -/
def stalePullRunIds (db : IngestionDb) (ranked : List StatusRow) (keep : ℕ) : List RunId :=
  olderCompleted ranked keep ++ olderFailed db ranked

def pruneRawStaging (db : IngestionDb) (ranked : List StatusRow) (keep : ℕ) : IngestionDb :=
  { db with rawStaging := db.rawStaging.filterKeys fun key =>
      !(stalePullRunIds db ranked keep).contains key.1 }

/-! ## The system -/

/-- The pages a flatten reads for a run. -/
abbrev Population := List (PageNo × Payload)

def rowsOf (db : IngestionDb) (runId : RunId) : Population :=
  db.rawStaging.items.filterMap fun row =>
    if row.1.1 = runId then some (row.1.2, row.2) else none

/-- The pulls going on, what the passes going on have read, and the passes that ended completed with what
    they read. Of the past, the pages fetched, and those pruned and not fetched again since. -/
structure RetentionState where
  db : IngestionDb := {}
  pulls : RunId → Option Attempt := fun _ => none
  populations : RunId → Option Population := fun _ => none
  completed : List (RunId × Population) := []
  fetched : Dict (RunId × PageNo) Payload := .empty
  pruned : List (RunId × PageNo) := []

inductive RetentionLabel where
  | pull (runId : RunId) (label : PullLabel)
  | flatten (runId : RunId)
  | complete (runId : RunId)
  | fail (runId : RunId)
  | prune (keep : ℕ)

/-- The page a pull has just stored. -/
def fetchedPage (attempt : Option Attempt) : PullLabel → Option (PageNo × Payload)
  | .store => attempt.bind Attempt.stored
  | _ => none

def RetentionState.record (st : RetentionState) (runId : RunId) :
    Option (PageNo × Payload) → RetentionState
  | none => st
  | some (page, payload) =>
    { st with
      fetched := st.fetched.set (runId, page) payload
      pruned := st.pruned.filter fun key => key ≠ (runId, page) }

def RetentionState.afterPull (st : RetentionState) (runId : RunId) (label : PullLabel)
    (db : IngestionDb) (attempt : Option Attempt) : RetentionState :=
  ({ st with db := db, pulls := Function.update st.pulls runId attempt }).record runId
    (fetchedPage attempt label)

def RetentionState.afterPrune (st : RetentionState) (ranked : List StatusRow) (keep : ℕ) :
    RetentionState :=
  { st with
    db := pruneRawStaging st.db ranked keep
    pruned := st.pruned ++ st.db.rawStaging.keys.filter fun key =>
      (stalePullRunIds st.db ranked keep).contains key.1 }

inductive RetentionStep (st : RetentionState) : RetentionLabel → RetentionState → Prop where
  -- each attempt may have its own worker and be answered differently
  | pull {config source runId label db attempt}
      (step : PullStep config source runId ⟨st.db, st.pulls runId⟩ label ⟨db, attempt⟩) :
      RetentionStep st (.pull runId label) (st.afterPull runId label db attempt)
  -- the pull of the run returned, or is found completed
  | flatten {runId status} (found : st.db.statuses.get? runId = some status)
      (ingested : status.state = .completed) :
      RetentionStep st (.flatten runId)
        { st with populations := Function.update st.populations runId (some (rowsOf st.db runId)) }
  | complete {runId population} (read : st.populations runId = some population) :
      RetentionStep st (.complete runId)
        { st with
          populations := Function.update st.populations runId none
          completed := st.completed ++ [(runId, population)] }
  | fail {runId} : RetentionStep st (.fail runId)
      { st with populations := Function.update st.populations runId none }
  | prune {keep ranked} (positive : 1 ≤ keep) (order : Ranked st.db ranked) :
      RetentionStep st (.prune keep) (st.afterPrune ranked keep)

/-- What is flattened has no page that was pruned and not fetched again. -/
def RetentionGuard (st : RetentionState) : RetentionLabel → Prop
  | .flatten runId => ∀ page, (runId, page) ∉ st.pruned
  | _ => True

/-- A population is all that was fetched for the run. -/
def Whole (fetched : Dict (RunId × PageNo) Payload) (runId : RunId) (population : Population) : Prop :=
  ∀ page payload, (page, payload) ∈ population ↔ fetched.get? (runId, page) = some payload

variable {config : WorkerConfig} {source : Source} {runId other : RunId} {db db' : IngestionDb}
variable {status : IngestionStatus} {attempt attempt' : Option Attempt} {label : PullLabel}
variable {ranked : List StatusRow} {keep : ℕ} {st st' : RetentionState} {page : PageNo}
variable {payload : Payload}

lemma mem_rowsOf : (page, payload) ∈ rowsOf db runId ↔
    db.rawStaging.get? (runId, page) = some payload := by
  rw [rowsOf, List.mem_filterMap, ← Dict.mem_items_iff]
  constructor
  · rintro ⟨⟨⟨run, number⟩, stored⟩, mem, same⟩
    split at same
    case isTrue mine =>
      cases same
      cases mine
      exact mem
    case isFalse => cases same
  · intro mem
    exact ⟨_, mem, if_pos rfl⟩

/-! ## What a step of a pull may change -/

lemma pullStep_rawStaging (step : PullStep config source runId ⟨db, attempt⟩ label ⟨db', attempt'⟩) :
    db'.rawStaging = match fetchedPage attempt' label with
      | none => db.rawStaging
      | some (page, payload) => db.rawStaging.set (runId, page) payload := by
  have opening : ∀ {now : ℤ}, (openRun db config.endpoint runId now).1.rawStaging = db.rawStaging := by
    intro now
    rw [openRun]
    split
    · split <;> rfl
    · rfl
  have marking : (markFailed db runId).rawStaging = db.rawStaging := by
    rw [markFailed]
    split
    · rfl
    · split
      · rfl
      · exact (setState_frame .failed).1
  cases step with
  | start _ opened => exact (congrArg (·.1.rawStaging) opened).symm.trans opening
  | again _ opened => exact (congrArg (·.1.rawStaging) opened).symm.trans opening
  | store => rfl
  | count _ _ _ counted =>
    obtain ⟨_, -, rfl⟩ := Option.map_eq_some_iff.mp counted
    rfl
  | finish => exact (setState_frame .completed).1
  | @crash _ marked =>
    cases marked with
    | true => exact marking
    | false => rfl

lemma pullStep_other (step : PullStep config source runId ⟨db, attempt⟩ label ⟨db', attempt'⟩)
    (ne : other ≠ runId) : db'.statuses.get? other = db.statuses.get? other := by
  have opening : ∀ {now : ℤ}, (openRun db config.endpoint runId now).1.statuses.get? other =
      db.statuses.get? other := by
    intro now
    rw [openRun]
    split
    · split
      · rfl
      · exact Dict.get?_set_ne _ _ ne
    · exact Dict.get?_set_ne _ _ ne
  have setting : ∀ {state : RunState}, (db.setState runId state).statuses.get? other =
      db.statuses.get? other := by
    intro state
    rw [IngestionDb.setState]
    split
    · rfl
    · exact Dict.get?_set_ne _ _ ne
  cases step with
  | start _ opened => exact (congrArg (·.1.statuses.get? other) opened).symm.trans opening
  | again _ opened => exact (congrArg (·.1.statuses.get? other) opened).symm.trans opening
  | store => rfl
  | count _ _ _ counted =>
    obtain ⟨_, -, rfl⟩ := Option.map_eq_some_iff.mp counted
    exact Dict.get?_set_ne _ _ ne
  | finish => exact setting
  | @crash _ marked =>
    cases marked with
    | false => rfl
    | true =>
      show (markFailed db runId).statuses.get? other = _
      rw [markFailed]
      split
      · rfl
      · split
        · rfl
        · exact setting

/-- A pull that is completed is only summarized. -/
lemma pullStep_completed (step : PullStep config source runId ⟨db, none⟩ label ⟨db', attempt'⟩)
    (found : db.statuses.get? runId = some status) (completed : status.state = .completed) :
    db' = db ∧ fetchedPage attempt' label = none := by
  have opening : ∀ {now : ℤ}, openRun db config.endpoint runId now = (db, status) := by
    intro now
    rw [openRun, found]
    exact if_pos completed
  cases step with
  | start _ opened unfinished =>
    rw [opening] at opened
    cases opened
    exact absurd completed unfinished
  | again _ opened =>
    rw [opening] at opened
    cases opened
    exact ⟨rfl, rfl⟩
  | store going => cases going
  | count going => cases going
  | finish going => cases going
  | crash going => cases going

/-- While a pull goes on its run is running. -/
lemma pullStep_running (step : PullStep config source runId ⟨db, attempt⟩ label ⟨db', attempt'⟩)
    (running : attempt.isSome → ∃ status, db.statuses.get? runId = some status ∧
      status.state = .running) (going' : attempt'.isSome) :
    ∃ status, db'.statuses.get? runId = some status ∧ status.state = .running := by
  cases step with
  | start _ opened unfinished =>
    rw [openRun] at opened
    split at opened
    case h_1 status found =>
      split at opened
      case isTrue completed =>
        cases opened
        exact absurd completed unfinished
      case isFalse =>
        cases opened
        exact ⟨_, Dict.get?_set_self _ _ _, rfl⟩
    case h_2 =>
      cases opened
      exact ⟨_, Dict.get?_set_self _ _ _, rfl⟩
  | again => cases going'
  | store going =>
    cases going
    exact running rfl
  | count going stored row counted =>
    cases going
    obtain ⟨status, found, running⟩ := running rfl
    cases row.symm.trans found
    obtain ⟨counted, processed, rfl⟩ := Option.map_eq_some_iff.mp counted
    exact ⟨_, Dict.get?_set_self _ _ _, (processPage_ok processed).kept.2.2.1.trans running⟩
  | finish => cases going'
  | crash => cases going'

/-! ## What every step keeps -/

/-- What is on file is what was fetched, less what was pruned since; and a pull that goes on belongs to a
    running run. -/
structure RetentionInv (st : RetentionState) : Prop where
  rows : ∀ key, st.db.rawStaging.get? key = if key ∈ st.pruned then none else st.fetched.get? key
  pruned : ∀ key ∈ st.pruned, (st.fetched.get? key).isSome
  pulling : ∀ runId, (st.pulls runId).isSome → ∃ status, st.db.statuses.get? runId = some status ∧
    status.state = .running

def IsIngested (db : IngestionDb) (runId : RunId) : Prop :=
  ∃ status, db.statuses.get? runId = some status ∧ status.state = .completed

/-- A completed pull stays one and has nothing fetched any more. -/
def Settled (st st' : RetentionState) : Prop :=
  ∀ runId, IsIngested st.db runId → IsIngested st'.db runId ∧
    ∀ page, st'.fetched.get? (runId, page) = st.fetched.get? (runId, page)

@[simp] lemma record_db (fetched : Option (PageNo × Payload)) :
    (st.record runId fetched).db = st.db := by
  cases fetched <;> rfl

@[simp] lemma record_pulls (fetched : Option (PageNo × Payload)) :
    (st.record runId fetched).pulls = st.pulls := by
  cases fetched <;> rfl

@[simp] lemma record_populations (fetched : Option (PageNo × Payload)) :
    (st.record runId fetched).populations = st.populations := by
  cases fetched <;> rfl

@[simp] lemma record_completed (fetched : Option (PageNo × Payload)) :
    (st.record runId fetched).completed = st.completed := by
  cases fetched <;> rfl

lemma record_other (fetched : Option (PageNo × Payload)) (ne : other ≠ runId) :
    (st.record runId fetched).fetched.get? (other, page) = st.fetched.get? (other, page) := by
  cases fetched with
  | none => rfl
  | some row => exact Dict.get?_set_ne _ _ fun same => ne (congrArg Prod.fst same)

lemma RetentionInv.afterPull (inv : RetentionInv st)
    (step : PullStep config source runId ⟨st.db, st.pulls runId⟩ label ⟨db, attempt⟩) :
    RetentionInv (st.afterPull runId label db attempt) := by
  have pulling : ∀ other, (Function.update st.pulls runId attempt other).isSome →
      ∃ status, db.statuses.get? other = some status ∧ status.state = .running := by
    intro other going
    by_cases same : other = runId
    · subst same
      rw [Function.update_self] at going
      exact pullStep_running step (inv.pulling other) going
    · rw [Function.update_of_ne same] at going
      rw [pullStep_other step same]
      exact inv.pulling other going
  have rawStaging := pullStep_rawStaging step
  rw [RetentionState.afterPull]
  cases fetched : fetchedPage attempt label with
  | none =>
    rw [fetched] at rawStaging
    exact ⟨fun key => (congrArg (·.get? key) rawStaging).trans (inv.rows key), inv.pruned, pulling⟩
  | some row =>
    obtain ⟨page, payload⟩ := row
    rw [fetched] at rawStaging
    refine ⟨fun key => ?_, fun key mem => ?_, pulling⟩
    · show db.rawStaging.get? key = if key ∈ st.pruned.filter fun key => key ≠ (runId, page) then none
        else (st.fetched.set (runId, page) payload).get? key
      rw [rawStaging]
      by_cases same : key = (runId, page)
      · subst same
        simp
      · rw [Dict.get?_set_ne _ _ same, Dict.get?_set_ne _ _ same, inv.rows]
        simp [same]
    · obtain ⟨mem, other⟩ := List.mem_filter.mp mem
      have other : key ≠ (runId, page) := of_decide_eq_true other
      show ((st.fetched.set (runId, page) payload).get? key).isSome
      rw [Dict.get?_set_ne _ _ other]
      exact inv.pruned key mem

lemma settled_afterPull (inv : RetentionInv st)
    (step : PullStep config source runId ⟨st.db, st.pulls runId⟩ label ⟨db, attempt⟩) :
    Settled st (st.afterPull runId label db attempt) := by
  intro other ingested
  rw [IsIngested, RetentionState.afterPull, record_db]
  by_cases same : other = runId
  · subst same
    obtain ⟨status, found, completed⟩ := ingested
    have idle : st.pulls other = none := by
      by_contra going
      obtain ⟨status', found', running⟩ := inv.pulling other (Option.ne_none_iff_isSome.mp going)
      cases found.symm.trans found'
      rw [completed] at running
      cases running
    rw [idle] at step
    obtain ⟨rfl, fetched⟩ := pullStep_completed step found completed
    rw [fetched]
    exact ⟨⟨status, found, completed⟩, fun _ => rfl⟩
  · refine ⟨?_, fun page => record_other _ same⟩
    obtain ⟨status, found, completed⟩ := ingested
    exact ⟨status, (pullStep_other step same).trans found, completed⟩

lemma RetentionInv.afterPrune (inv : RetentionInv st) : RetentionInv (st.afterPrune ranked keep) := by
  refine ⟨fun key => ?_, fun key mem => ?_, inv.pulling⟩
  · rw [RetentionState.afterPrune, pruneRawStaging]
    simp only [Dict.get?_filterKeys, List.mem_append, List.mem_filter]
    by_cases stale : (stalePullRunIds st.db ranked keep).contains key.1 = true
    · rw [stale, if_neg (by decide)]
      split
      · rfl
      case isFalse kept =>
        have absent : key ∉ st.db.rawStaging.keys := fun mem => kept (.inr ⟨mem, rfl⟩)
        rw [← Dict.get?_eq_none_iff, inv.rows, if_neg fun mem => kept (.inl mem)] at absent
        exact absent.symm
    · have fresh : key.1 ∉ stalePullRunIds st.db ranked keep := fun mem =>
        stale (List.contains_iff_mem.mpr mem)
      simp [fresh, inv.rows]
  · rcases List.mem_append.mp mem with earlier | now
    · exact inv.pruned key earlier
    · obtain ⟨payload, found⟩ := (Dict.mem_keys_iff _).mp (List.mem_filter.mp now).1
      rw [inv.rows] at found
      split at found
      · cases found
      · exact Option.isSome_iff_exists.mpr ⟨payload, found⟩

lemma RetentionStep.inv (inv : RetentionInv st) {label : RetentionLabel}
    (step : RetentionStep st label st') : RetentionInv st' ∧ Settled st st' := by
  cases step with
  | pull step => exact ⟨inv.afterPull step, settled_afterPull inv step⟩
  | flatten => exact ⟨⟨inv.rows, inv.pruned, inv.pulling⟩, fun _ ingested => ⟨ingested, fun _ => rfl⟩⟩
  | complete => exact ⟨⟨inv.rows, inv.pruned, inv.pulling⟩, fun _ ingested => ⟨ingested, fun _ => rfl⟩⟩
  | fail => exact ⟨⟨inv.rows, inv.pruned, inv.pulling⟩, fun _ ingested => ⟨ingested, fun _ => rfl⟩⟩
  | prune => exact ⟨inv.afterPrune, fun _ ingested => ⟨ingested, fun _ => rfl⟩⟩

/-- What a flatten reads of a run is all that was fetched for it exactly when none of its pages was pruned
    and not fetched again. -/
theorem flatten_whole_iff (inv : RetentionInv st) :
    Whole st.fetched runId (rowsOf st.db runId) ↔ ∀ page, (runId, page) ∉ st.pruned := by
  constructor
  · intro whole page mem
    obtain ⟨payload, found⟩ := Option.isSome_iff_exists.mp (inv.pruned _ mem)
    have stored := mem_rowsOf.mp ((whole page payload).mpr found)
    rw [inv.rows, if_pos mem] at stored
    cases stored
  · intro kept page payload
    rw [mem_rowsOf, inv.rows, if_neg (kept page)]

/-- A prune finds no run stale that is being pulled. -/
theorem pulled_not_stale (inv : RetentionInv st) (order : Ranked st.db ranked)
    (going : (st.pulls runId).isSome) : runId ∉ stalePullRunIds st.db ranked keep := by
  obtain ⟨status, found, running⟩ := inv.pulling runId going
  have states : ∀ row ∈ st.db.statuses.items, row.1 = runId → row.2.state = .running := by
    rintro ⟨_, status'⟩ mem rfl
    cases found.symm.trans ((Dict.mem_items_iff _).mp mem)
    exact running
  intro mem
  rcases List.mem_append.mp mem with completed | failed
  · obtain ⟨row, mem, same⟩ := List.mem_map.mp completed
    have mem := order.rows.mem_iff.mp (List.mem_filter.mp mem).1
    obtain ⟨mem, state⟩ := List.mem_filter.mp mem
    have state : row.2.state = .completed := of_decide_eq_true state
    rw [states row mem same] at state
    cases state
  · obtain ⟨row, mem, same⟩ := List.mem_map.mp failed
    obtain ⟨mem, state⟩ := List.mem_filter.mp mem
    have state : row.2.state = .failed := (of_decide_eq_true state).1
    rw [states row mem same] at state
    cases state

/-! ## What is left of a pull -/

variable {labels labels' : List RetentionLabel}

lemma RetentionInv.of_run (r : Run RetentionStep {} labels st) : RetentionInv st := by
  refine r.invariant RetentionInv ⟨fun _ => rfl, ?_, ?_⟩ fun _ _ _ inv step => (step.inv inv).1
  · intro key mem
    cases mem
  · intro other going
    cases going

/-- Whatever pulls, passes and prunes came before, a prune leaves the pages of a pull that goes on as they are. -/
theorem pulls_outlive_prunes (r : Run RetentionStep {} labels st) (prune : RetentionStep st (.prune keep) st')
    (going : (st.pulls runId).isSome) (page : PageNo) :
    st'.db.rawStaging.get? (runId, page) = st.db.rawStaging.get? (runId, page) := by
  have inv : RetentionInv st := .of_run r
  cases prune with
  | prune _ order =>
    have fresh : runId ∉ stalePullRunIds st.db _ keep := pulled_not_stale inv order going
    show (pruneRawStaging st.db _ keep).rawStaging.get? (runId, page) = _
    rw [pruneRawStaging, Dict.get?_filterKeys]
    simp [fresh]

/-- No step writes a page of a completed pull. -/
lemma RetentionStep.staged (inv : RetentionInv st) {label : RetentionLabel} (step : RetentionStep st label st')
    (done : IsIngested st.db runId) (stored : st'.db.rawStaging.get? (runId, page) = some payload) :
    st.db.rawStaging.get? (runId, page) = some payload := by
  cases step with
  | @pull config source other label db attempt step =>
    rw [RetentionState.afterPull, record_db] at stored
    have written := pullStep_rawStaging step
    by_cases same : runId = other
    · subst same
      obtain ⟨status, found, completed⟩ := done
      have idle : st.pulls runId = none := by
        by_contra going
        obtain ⟨status', found', running⟩ := inv.pulling runId (Option.ne_none_iff_isSome.mp going)
        cases found.symm.trans found'
        rw [completed] at running
        cases running
      rw [idle] at step
      obtain ⟨rfl, -⟩ := pullStep_completed step found completed
      exact stored
    · cases fetched : fetchedPage attempt label with
      | none =>
        rw [fetched] at written
        replace written : db.rawStaging = st.db.rawStaging := written
        replace stored : db.rawStaging.get? (runId, page) = some payload := stored
        rw [written] at stored
        exact stored
      | some row =>
        rw [fetched] at written
        have other_page : (runId, page) ≠ (other, row.1) := fun eq => same (congrArg Prod.fst eq)
        replace stored : db.rawStaging.get? (runId, page) = some payload := stored
        rw [written, Dict.get?_set_ne _ _ other_page] at stored
        exact stored
  | flatten => exact stored
  | complete => exact stored
  | fail => exact stored
  | prune =>
    replace stored : (pruneRawStaging st.db _ _).rawStaging.get? (runId, page) = some payload := stored
    rw [pruneRawStaging, Dict.get?_filterKeys] at stored
    split at stored
    · exact stored
    · cases stored

/-- Once a pull is completed it stays completed, and whatever pulls, passes and prunes follow, what is staged of it
    later was staged then, page by page and unchanged. -/
theorem completed_only_pruned (r : Run RetentionStep {} labels st) (later : Run RetentionStep st labels' st')
    (done : IsIngested st.db runId) :
    IsIngested st'.db runId ∧ ∀ page payload, st'.db.rawStaging.get? (runId, page) = some payload →
      st.db.rawStaging.get? (runId, page) = some payload := by
  have kept : RetentionInv st' ∧ IsIngested st'.db runId ∧ ∀ page payload,
      st'.db.rawStaging.get? (runId, page) = some payload → st.db.rawStaging.get? (runId, page) = some payload := by
    apply later.invariant fun now => RetentionInv now ∧ IsIngested now.db runId ∧ ∀ page payload,
      now.db.rawStaging.get? (runId, page) = some payload → st.db.rawStaging.get? (runId, page) = some payload
    · exact ⟨.of_run r, done, fun _ _ stored => stored⟩
    · rintro now label next ⟨inv, done, earlier⟩ step
      obtain ⟨inv', settled⟩ := step.inv inv
      exact ⟨inv', (settled runId done).1, fun page payload stored => earlier page payload (step.staged inv done stored)⟩
  exact kept.2

/-! ## What the passes read -/

/-- The populations read are whole, for the passes going on and for those that ended. -/
structure WholeInv (st : RetentionState) : Prop where
  reading : ∀ runId population, st.populations runId = some population →
    IsIngested st.db runId ∧ Whole st.fetched runId population
  ended : ∀ pass ∈ st.completed, IsIngested st.db pass.1 ∧ Whole st.fetched pass.1 pass.2

lemma Settled.whole (settled : Settled st st') {population : Population}
    (h : IsIngested st.db runId ∧ Whole st.fetched runId population) :
    IsIngested st'.db runId ∧ Whole st'.fetched runId population := by
  obtain ⟨ingested, same⟩ := settled runId h.1
  refine ⟨ingested, fun page payload => ?_⟩
  rw [same page]
  exact h.2 page payload

/-- A step of a pull or a prune reads nothing. -/
lemma WholeInv.settled (whole : WholeInv st) (settled : Settled st st')
    (reading : st'.populations = st.populations) (ended : st'.completed = st.completed) :
    WholeInv st' := by
  constructor
  · intro runId population read
    rw [reading] at read
    exact settled.whole (whole.reading runId population read)
  · intro pass mem
    rw [ended] at mem
    exact settled.whole (whole.ended pass mem)

lemma RetentionStep.whole (inv : RetentionInv st) (whole : WholeInv st) {label : RetentionLabel}
    (guard : RetentionGuard st label) (step : RetentionStep st label st') : WholeInv st' := by
  have settled := (step.inv inv).2
  cases step with
  | pull step =>
    exact whole.settled settled (record_populations _) (record_completed _)
  | @flatten run status found ingested =>
    refine ⟨fun runId population read => ?_, whole.ended⟩
    by_cases same : runId = run
    · subst same
      cases (Function.update_self ..).symm.trans read
      exact ⟨⟨status, found, ingested⟩, (flatten_whole_iff inv).mpr guard⟩
    · exact whole.reading runId population ((Function.update_of_ne same ..).symm.trans read)
  | @complete run population read =>
    refine ⟨fun runId population read => ?_, fun pass mem => ?_⟩
    · by_cases same : runId = run
      · subst same
        cases (Function.update_self ..).symm.trans read
      · exact whole.reading runId population ((Function.update_of_ne same ..).symm.trans read)
    · rcases List.mem_append.mp mem with earlier | now
      · exact whole.ended pass earlier
      · cases List.mem_singleton.mp now
        exact whole.reading run population read
  | @fail run =>
    refine ⟨fun runId population read => ?_, whole.ended⟩
    by_cases same : runId = run
    · subst same
      cases (Function.update_self ..).symm.trans read
    · exact whole.reading runId population ((Function.update_of_ne same ..).symm.trans read)
  | prune => exact whole.settled settled rfl rfl

/-- Every pass that ended completed has read all pages fetched for its run, over all its attempts. -/
theorem built_from_every_page {labels : List RetentionLabel}
    (r : Run (Guarded RetentionGuard RetentionStep) {} labels st) :
    ∀ pass ∈ st.completed, Whole st.fetched pass.1 pass.2 := by
  have both : RetentionInv st ∧ WholeInv st := by
    refine r.invariant (fun st => RetentionInv st ∧ WholeInv st) ?_ fun t l u h step => ?_
    · refine ⟨⟨fun _ => rfl, nofun, nofun⟩, nofun, nofun⟩
    · exact ⟨(step.2.inv h.1).1, step.2.whole h.1 h.2 step.1⟩
  exact fun pass mem => (both.2.ended pass mem).2

/-! ## Two runs of a source of one page -/

/-- A step of a worker of the source of one page. -/
lemma onePageStep (step : PullStep onePageConfig onePageSource runId ⟨st.db, st.pulls runId⟩ label
    ⟨db, attempt⟩) : RetentionStep st (.pull runId label) (st.afterPull runId label db attempt) :=
  .pull step

/-- A run fails, is resumed, and is read before a prune. -/
theorem built_from_every_page_sample : ∃ st population,
    Run (Guarded RetentionGuard RetentionStep) {}
      [.pull "run" (.start 0), .pull "run" .store, .pull "run" (.crash true), .pull "run" (.start 1),
        .pull "run" .store, .pull "run" .count, .pull "run" .finish, .flatten "run", .prune 1,
        .complete "run"] st ∧
    st.completed = [("run", population)] ∧ population.length = 1 ∧
      Whole st.fetched "run" population := by
  have r : ∃ st population, Run (Guarded RetentionGuard RetentionStep) {}
      [.pull "run" (.start 0), .pull "run" .store, .pull "run" (.crash true), .pull "run" (.start 1),
        .pull "run" .store, .pull "run" .count, .pull "run" .finish, .flatten "run", .prune 1,
        .complete "run"] st ∧ st.completed = [("run", population)] ∧ population.length = 1 := by
    refine ⟨_, _, .snoc (.snoc (.snoc (.snoc (.snoc (.snoc (.snoc (.snoc (.snoc (.snoc .nil
      ⟨trivial, onePageStep (.start rfl rfl (by decide))⟩) ⟨trivial, onePageStep (.store rfl rfl (by decide) rfl)⟩)
      ⟨trivial, onePageStep (.crash rfl)⟩) ⟨trivial, onePageStep (.start rfl rfl (by decide))⟩)
      ⟨trivial, onePageStep (.store rfl rfl (by decide) rfl)⟩)
      ⟨trivial, onePageStep (.count rfl rfl rfl rfl)⟩) ⟨trivial, onePageStep (.finish rfl rfl (.inr rfl))⟩)
      ⟨nofun, .flatten rfl rfl⟩) ⟨trivial, .prune le_rfl ⟨.refl _, List.pairwise_singleton ..⟩⟩)
      ⟨trivial, .complete rfl⟩, rfl, rfl⟩
  obtain ⟨st, population, r, completed, length⟩ := r
  refine ⟨st, population, r, completed, length, built_from_every_page r ("run", population) ?_⟩
  rw [completed]
  exact List.mem_singleton_self _

/-- A page is stored, and a prune comes by before the pull is done. -/
theorem pulls_outlive_prunes_sample : ∃ st st', Run RetentionStep {} [.pull "run" (.start 0), .pull "run" .store] st ∧
    RetentionStep st (.prune 1) st' ∧ (st.db.rawStaging.get? ("run", 1)).isSome = true ∧
      st'.db.rawStaging.get? ("run", 1) = st.db.rawStaging.get? ("run", 1) := by
  have r : ∃ st, Run RetentionStep {} [.pull "run" (.start 0), .pull "run" .store] st ∧
      (st.pulls "run").isSome = true ∧ (st.db.rawStaging.get? ("run", 1)).isSome = true ∧
        ∃ st', RetentionStep st (.prune 1) st' :=
    ⟨_, .snoc (.snoc .nil (onePageStep (.start rfl rfl (by decide))))
      (onePageStep (.store rfl rfl (by decide) rfl)), rfl, rfl,
      _, .prune le_rfl ⟨.refl _, .nil⟩⟩
  obtain ⟨st, r, going, stored, st', prune⟩ := r
  exact ⟨st, st', r, prune, stored, pulls_outlive_prunes r prune going 1⟩

/-- A completed pull, before and after a prune. -/
theorem completed_only_pruned_sample : ∃ st st', Run RetentionStep {}
      [.pull "run" (.start 0), .pull "run" .store, .pull "run" .count, .pull "run" .finish] st ∧
    Run RetentionStep st [.prune 1] st' ∧ IsIngested st'.db "run" ∧
      ∀ page payload, st'.db.rawStaging.get? ("run", page) = some payload →
        st.db.rawStaging.get? ("run", page) = some payload := by
  have r : ∃ st, Run RetentionStep {}
      [.pull "run" (.start 0), .pull "run" .store, .pull "run" .count, .pull "run" .finish] st ∧
      IsIngested st.db "run" ∧ ∃ st', RetentionStep st (.prune 1) st' :=
    ⟨_, .snoc (.snoc (.snoc (.snoc .nil (onePageStep (.start rfl rfl (by decide))))
      (onePageStep (.store rfl rfl (by decide) rfl))) (onePageStep (.count rfl rfl rfl rfl)))
      (onePageStep (.finish rfl rfl (.inr rfl))), ⟨_, rfl, rfl⟩,
      _, .prune le_rfl ⟨.refl _, List.pairwise_singleton ..⟩⟩
  obtain ⟨st, r, done, st', prune⟩ := r
  have later : Run RetentionStep st [.prune 1] st' := .snoc .nil prune
  exact ⟨st, st', r, later, completed_only_pruned r later done⟩

/-- A pass that failed after its pull is older than the next completed run when a prune comes by: resumed,
    it completes with nothing. -/
theorem pruned_before_its_pass : ∃ labels st, Run RetentionStep {} labels st ∧
    ∃ pass ∈ st.completed, ¬ Whole st.fetched pass.1 pass.2 := by
  have r : ∃ st, Run RetentionStep {}
      [.pull "a" (.start 0), .pull "a" .store, .pull "a" .count, .pull "a" .finish,
        .flatten "a", .fail "a", .pull "b" (.start 1), .pull "b" .store,
        .pull "b" .count, .pull "b" .finish, .prune 1, .flatten "a", .complete "a"]
      st ∧ st.completed.map (fun pass => (pass.1, pass.2.length)) = [("a", 0)] ∧
        (st.fetched.get? ("a", 1)).isSome = true :=
    ⟨_, .snoc (.snoc (.snoc (.snoc (.snoc (.snoc (.snoc (.snoc (.snoc (.snoc (.snoc (.snoc (.snoc .nil
      (onePageStep (.start rfl rfl (by decide)))) (onePageStep (.store rfl rfl (by decide) rfl)))
      (onePageStep (.count rfl rfl rfl rfl))) (onePageStep (.finish rfl rfl (.inr rfl))))
      (.flatten rfl rfl)) .fail) (onePageStep (.start rfl rfl (by decide))))
      (onePageStep (.store rfl rfl (by decide) rfl))) (onePageStep (.count rfl rfl rfl rfl)))
      (onePageStep (.finish rfl rfl (.inr rfl))))
      (.prune le_rfl ⟨.swap _ _ _, List.pairwise_pair.mpr (by decide)⟩)) (.flatten rfl rfl)) (.complete rfl),
      by decide, by decide⟩
  obtain ⟨st, r, completed, fetched⟩ := r
  obtain ⟨payload, fetched⟩ := Option.isSome_iff_exists.mp fetched
  have mem : ("a", 0) ∈ st.completed.map fun pass => (pass.1, pass.2.length) := by
    rw [completed]
    exact List.mem_singleton_self _
  obtain ⟨⟨_, population⟩, mem, same⟩ := List.mem_map.mp mem
  obtain ⟨rfl, empty⟩ := Prod.mk.injEq .. ▸ same
  refine ⟨_, st, r, _, mem, fun whole => ?_⟩
  have read := (whole 1 payload).mpr fetched
  rw [List.length_eq_zero_iff.mp empty] at read
  cases read

end ClientEngagement.Ingestion
