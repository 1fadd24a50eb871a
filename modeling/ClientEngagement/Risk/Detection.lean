import ClientEngagement.Risk.FaAllocation
import ClientEngagement.Risk.Routing

/-!
# Risk runs that crash and resume

Model of `RiskDetectionWorker.run` (`workers/risk_detection.py`) and `allocate_and_persist`
(`workers/fa_assignment.py`), commit by commit: an attempt opens the run, evaluates the book and commits the
advisors, commits snapshots and features together, and last marks the run completed with the changes it
found. The changes are read against the features as they stand, so an attempt that crashes after the
features' commit leaves its successor nothing to find. `resumed_as_run` says that otherwise, and when what
is on file is recomputed as it was, a resumed run is the run it would have been.
-/

namespace ClientEngagement.Risk

/-- What a run writes for one client fund, to its snapshot and to the features alike. -/
structure RiskRow where
  riskScore : ℚ
  riskBand : String
  route : Route
  queueRank : Option ℕ
deriving DecidableEq

/-- One client fund of the staged book with its composed score. -/
structure ScoredFund where
  key : FundKey
  balance : Option ℚ
  riskScore : ℚ
  riskBand : String
  sigDormant : Bool
  fundAtRisk : ℚ

/-- What stays the same however often a run is resumed: the staged pages and the scores the run's own
    configuration gives them. -/
structure RunInput where
  book : List ScoredFund
  nodup : (book.map ScoredFund.key).Nodup
  config : RiskConfig
  sourceEmails : Dict ClientId String := .empty
  normalizedEmail : String → String := id

/-- What an attempt reads anew. -/
structure RunContext where
  activeIds : List ClientId
  complaintIds : List ClientId := []
  suppressedIds : List ClientId := []
  roster : List FaRecord := []
  currentOwners : Dict ClientId FaId := .empty

/-! ## One evaluation -/

/-- The client funds that are not held out. -/
def scoredFunds (input : RunInput) (context : RunContext) : List ScoredFund :=
  input.book.filter fun fund => fund.key.1 ∈ context.activeIds

def scoredKeys (input : RunInput) (context : RunContext) : List FundKey :=
  (scoredFunds input context).map ScoredFund.key

def routable (context : RunContext) (fund : ScoredFund) : RoutableRow where
  key := fund.key
  balance := fund.balance
  riskScore := fund.riskScore
  sigDormant := fund.sigDormant
  fundAtRisk := fund.fundAtRisk
  hasOpenComplaint := fund.key.1 ∈ context.complaintIds
  suppressed := fund.key.1 ∈ context.suppressedIds

def isRouted (routes : Dict FundKey RouteResult) (route : Route) (key : FundKey) : Bool :=
  (routes.get? key).map RouteResult.route = some route

/-- One load a client, its money summed over the funds (`_client_loads`). -/
def clientLoads (funds : List ScoredFund) (routes : Dict FundKey RouteResult) : List ClientLoad :=
  let totals := funds.foldl (fun totals fund => totals.modify fund.key.1 0 (· + fund.fundAtRisk))
    (.empty : Dict ClientId ℚ)
  let inQueue := (funds.filter fun fund => isRouted routes .faCallPriority fund.key).map
    fun fund => fund.key.1
  (sortBy Prod.fst totals.items).map fun (clientId, total) =>
    { clientId := clientId, fundAtRisk := total, inCallQueue := clientId ∈ inQueue }

/-- A demoted client's calls go to the watchlist (`_demote_over_capacity`). -/
def demoteOverCapacity (routes : Dict FundKey RouteResult) (demoted : Finset ClientId) :
    Dict FundKey RouteResult :=
  routes.mapEntries fun key result =>
    if key.1 ∈ demoted ∧ result.route = .faCallPriority then
      { result with route := .faWatchlist, queueRank := none }
    else result

def allocationOf (input : RunInput) (context : RunContext) (routes : Dict FundKey RouteResult) :
    AdvisorAllocation :=
  allocateAdvisors context.roster (clientLoads (scoredFunds input context) routes)
    context.currentOwners
    (ownersFromSource input.normalizedEmail context.roster input.sourceEmails)

/-- The row written for a client fund. -/
def rowFor (routes : Dict FundKey RouteResult) (fund : ScoredFund) : Option (FundKey × RiskRow) :=
  (routes.get? fund.key).map fun result =>
    (fund.key, ⟨fund.riskScore, fund.riskBand, result.route, result.queueRank⟩)

structure Outcome where
  rows : List (FundKey × RiskRow)
  owner : Dict ClientId FaId

/-- Routes, advisors and rows of an attempt, up to what it writes. -/
def evaluate (input : RunInput) (context : RunContext) : Option Outcome :=
  (routePopulation ((scoredFunds input context).map (routable context)) input.config).bind
    fun routes =>
      let allocation := allocationOf input context routes
      ((scoredFunds input context).mapM
          (rowFor (demoteOverCapacity routes allocation.demoted))).map fun rows =>
        ⟨rows, allocation.owner⟩

/-- An entry of the audited list of changes. -/
structure Change where
  key : FundKey
  fromRoute : Option Route
  route : Route
  fromRiskBand : Option String
  riskBand : String
deriving DecidableEq

def routeIn (features : Dict FundKey RiskRow) (key : FundKey) : Option Route :=
  (features.get? key).map RiskRow.route

def changeOf (prior : Dict FundKey RiskRow) (entry : FundKey × RiskRow) : Option Change :=
  if routeIn prior entry.1 = some entry.2.route then none
  else
    some
      { key := entry.1
        fromRoute := routeIn prior entry.1
        route := entry.2.route
        fromRiskBand := (prior.get? entry.1).map RiskRow.riskBand
        riskBand := entry.2.riskBand }

/-- The changes of a run's rows against the features. -/
def changesOf (prior : Dict FundKey RiskRow) (rows : List (FundKey × RiskRow)) : List Change :=
  rows.filterMap (changeOf prior)

/-- The clients `_enroll_auto_checkin` is given. -/
def autoCheckinClients (changes : List Change) : Finset ClientId :=
  ((changes.filter fun change => change.route = .autoCheckin).map fun change =>
    change.key.1).toFinset

/-! ## A run, commit by commit -/

inductive RunState where
  | running
  | failed
  | completed
deriving DecidableEq

/-- How far the process that works on the run has come, with what it holds in memory. -/
inductive Attempt where
  | none
  | opened
  | allocated (context : RunContext) (outcome : Outcome)
  | written (context : RunContext) (outcome : Outcome) (changes : List Change)
  | finished (context : RunContext) (outcome : Outcome) (changes : List Change)

/-- The run's row, its snapshots and what it audited, and the two tables shared with other runs. -/
structure RiskTables where
  runState : Option RunState := none
  snapshots : List (FundKey × RiskRow) := []
  changed : List Change := []
  features : Dict FundKey RiskRow := .empty
  faAssignment : Dict FundKey (Option FaId) := .empty
  attempt : Attempt := .none

/-- The owners an attempt reads: of each client, the one of any of its rows. -/
structure ReadsOwners (faAssignment : Dict FundKey (Option FaId)) (clientIds : List ClientId)
    (owners : Dict ClientId FaId) : Prop where
  onFile : ∀ clientId faId, owners.get? clientId = some faId →
    clientId ∈ clientIds ∧ ∃ fund, faAssignment.get? (clientId, fund) = some (some faId)
  complete : ∀ clientId ∈ clientIds, ∀ fund faId,
    faAssignment.get? (clientId, fund) = some (some faId) → clientId ∈ owners.keys

/-- The assignment rows of a run: every scored key whose client has an owner. -/
def assignOwners (faAssignment : Dict FundKey (Option FaId)) (keys : List FundKey)
    (owner : Dict ClientId FaId) : Dict FundKey (Option FaId) :=
  (keys.filterMap fun key => (owner.get? key.1).map fun faId => (key, some faId)).foldl
    (fun table row => table.set row.1 row.2) faAssignment

section
local instance lawfulSnapshotKey : LawfulBEq FundKey := inferInstance

/-- The rows that have no snapshot in the run yet. -/
def newSnapshots (snapshots rows : List (FundKey × RiskRow)) : List (FundKey × RiskRow) :=
  rows.filter fun row => row.1 ∉ snapshots.map Prod.fst

end

def upsertFeatures (features : Dict FundKey RiskRow) (rows : List (FundKey × RiskRow)) :
    Dict FundKey RiskRow :=
  rows.foldl (fun features row => features.set row.1 row.2) features

inductive RunLabel where
  | openRun
  | allocate (context : RunContext)
  | write
  | complete
  | crash (marked : Bool)
  | reassign (key : FundKey) (faId : Option FaId)

/-- The commits of `run`, a crash at any point, and assignments changed by hand in between. -/
inductive RunStep (input : RunInput) : RiskTables → RunLabel → RiskTables → Prop where
  | openRun {s} (idle : s.attempt = .none) (resumable : s.runState ≠ some .completed) :
      RunStep input s .openRun { s with runState := some .running, attempt := .opened }
  | allocate {s context outcome} (opened : s.attempt = .opened)
      (owners : ReadsOwners s.faAssignment ((scoredKeys input context).map Prod.fst)
        context.currentOwners)
      (evaluated : evaluate input context = some outcome) :
      RunStep input s (.allocate context)
        { s with
          faAssignment := assignOwners s.faAssignment (scoredKeys input context) outcome.owner
          attempt := .allocated context outcome }
  | write {s context outcome} (allocated : s.attempt = .allocated context outcome) :
      RunStep input s .write
        { s with
          snapshots := s.snapshots ++ newSnapshots s.snapshots outcome.rows
          features := upsertFeatures s.features outcome.rows
          attempt := .written context outcome (changesOf s.features outcome.rows) }
  | complete {s context outcome changes} (written : s.attempt = .written context outcome changes) :
      RunStep input s .complete
        { s with
          runState := some .completed
          changed := changes
          attempt := .finished context outcome changes }
  | crash {s marked} (working : s.attempt ≠ .none) (unfinished : s.runState ≠ some .completed) :
      RunStep input s (.crash marked)
        { s with
          runState := some (if marked then .failed else .running)
          attempt := .none }
  | reassign {s key faId} :
      RunStep input s (.reassign key faId)
        { s with faAssignment := s.faAssignment.set key faId }

/-- The run has not started: no snapshots, nothing audited, nobody at work. -/
def RiskTables.Unstarted (s : RiskTables) : Prop :=
  s.runState = none ∧ s.snapshots = [] ∧ s.changed = [] ∧ s.attempt = .none

/-- What a run resumed any number of times leaves, had it been run at once on features `before`. -/
structure AsRun (input : RunInput) (before : Dict FundKey RiskRow) (context : RunContext)
    (changes : List Change) (s : RiskTables) : Prop where
  onceEach : (s.snapshots.map Prod.fst).Perm (scoredKeys input context)
  agrees : ∀ key row, (key, row) ∈ s.snapshots → s.features.get? key = some row
  audited : s.changed = changes
  changed : ∀ key, key ∈ s.changed.map Change.key ↔
    key ∈ scoredKeys input context ∧ routeIn s.features key ≠ routeIn before key
  enrolled : ∀ clientId, clientId ∈ autoCheckinClients changes ↔
    ∃ fund, (clientId, fund) ∈ scoredKeys input context ∧
      routeIn s.features (clientId, fund) = some .autoCheckin ∧
      routeIn before (clientId, fund) ≠ some .autoCheckin

/-- A step after which a run can still be resumed as it would have been: a crash finds no route changed
    in the features, and an attempt computes what is on file as it was computed before. -/
def Repeatable (input : RunInput) (before : Dict FundKey RiskRow) (s : RiskTables) :
    RunLabel → Prop
  | .crash _ => ∀ key, routeIn s.features key = routeIn before key
  | .allocate context => ∀ outcome, evaluate input context = some outcome →
      s.snapshots ⊆ outcome.rows
  | _ => True

/-! ## One attempt -/

variable {input : RunInput} {context : RunContext} {outcome : Outcome} {before : Dict FundKey RiskRow}
  {snapshots rows : List (FundKey × RiskRow)} {features : Dict FundKey RiskRow} {s t : RiskTables}
  {label : RunLabel} {ls : List RunLabel} {key : FundKey} {row : RiskRow}

lemma keys_of_rowFor {routes : Dict FundKey RouteResult} {funds : List ScoredFund}
    (h : funds.mapM (rowFor routes) = some rows) :
    rows.map Prod.fst = funds.map ScoredFund.key := by
  induction funds generalizing rows with
  | nil =>
    cases h
    rfl
  | cons fund funds ih =>
    rw [List.mapM_cons] at h
    obtain ⟨first, found, h⟩ := Option.bind_eq_some_iff.mp h
    obtain ⟨rest, others, same⟩ := Option.bind_eq_some_iff.mp h
    obtain ⟨result, -, entry⟩ := Option.map_eq_some_iff.mp found
    cases same
    rw [List.map_cons, List.map_cons, ih others, ← entry]

/-- An attempt has one row for each scored key. -/
lemma evaluate_keys (h : evaluate input context = some outcome) :
    outcome.rows.map Prod.fst = scoredKeys input context := by
  obtain ⟨routes, -, h⟩ := Option.bind_eq_some_iff.mp h
  obtain ⟨rows, evaluated, same⟩ := Option.map_eq_some_iff.mp h
  rw [← same]
  exact keys_of_rowFor evaluated

lemma nodup_scoredKeys : (scoredKeys input context).Nodup :=
  input.nodup.sublist (List.filter_sublist.map _)

lemma evaluate_nodup (h : evaluate input context = some outcome) :
    (outcome.rows.map Prod.fst).Nodup := by
  rw [evaluate_keys h]
  exact nodup_scoredKeys

lemma mem_changesOf : key ∈ (changesOf before rows).map Change.key ↔
    ∃ row, (key, row) ∈ rows ∧ routeIn before key ≠ some row.route := by
  simp only [changesOf, changeOf, List.mem_map, List.mem_filterMap]
  constructor
  · rintro ⟨change, ⟨entry, mem, found⟩, rfl⟩
    split at found
    · cases found
    · rename_i differs
      cases found
      exact ⟨entry.2, mem, differs⟩
  · rintro ⟨row, mem, differs⟩
    exact ⟨_, ⟨(key, row), mem, if_neg differs⟩, rfl⟩

lemma mem_autoCheckinClients {clientId : ClientId} :
    clientId ∈ autoCheckinClients (changesOf before rows) ↔
      ∃ fund row, ((clientId, fund), row) ∈ rows ∧ row.route = .autoCheckin ∧
        routeIn before (clientId, fund) ≠ some .autoCheckin := by
  simp only [autoCheckinClients, changesOf, changeOf, List.mem_toFinset, List.mem_map,
    List.mem_filter, List.mem_filterMap, decide_eq_true_eq]
  constructor
  · rintro ⟨change, ⟨⟨⟨⟨client, fund⟩, row⟩, mem, found⟩, auto⟩, rfl⟩
    split at found
    · cases found
    · rename_i differs
      cases found
      exact ⟨fund, row, mem, auto, auto ▸ differs⟩
  · rintro ⟨fund, row, mem, auto, differs⟩
    exact ⟨_, ⟨⟨((clientId, fund), row), mem, if_neg (auto ▸ differs)⟩, auto⟩, rfl⟩

/-! ## What is on file when an attempt writes -/

/-- No route of the features has changed. -/
def Quiet (before features : Dict FundKey RiskRow) : Prop :=
  ∀ key, routeIn features key = routeIn before key

/-- The features are the old ones but for the client funds with a snapshot. -/
structure OnFile (before : Dict FundKey RiskRow) (snapshots : List (FundKey × RiskRow))
    (features : Dict FundKey RiskRow) : Prop where
  once : (snapshots.map Prod.fst).Nodup
  agrees : ∀ key row, (key, row) ∈ snapshots → features.get? key = some row
  elsewhere : ∀ key, key ∉ snapshots.map Prod.fst → features.get? key = before.get? key

section Writing
variable (file : OnFile before snapshots features) (distinct : (rows.map Prod.fst).Nodup)
  (again : snapshots ⊆ rows)
include file

/-- Whatever has changed its route has done so since the run started. -/
lemma changesOf_quiet (quiet : Quiet before features) (again : snapshots ⊆ rows)
    (distinct : (rows.map Prod.fst).Nodup) : changesOf features rows = changesOf before rows := by
  apply List.filterMap_congr
  rintro ⟨key, row⟩ mem
  by_cases onFile : key ∈ snapshots.map Prod.fst
  · obtain ⟨⟨key', row'⟩, written, rfl⟩ := List.mem_map.mp onFile
    have same := List.inj_on_of_nodup_map distinct (again written) mem rfl
    have current : routeIn features key' = some row.route := by
      rw [routeIn, file.agrees key' row' written]
      cases same
      rfl
    have old : routeIn before key' = some row.route := quiet key' ▸ current
    rw [changeOf, changeOf, if_pos current, if_pos old]
  · have same := file.elsewhere key onFile
    rw [changeOf, changeOf, routeIn, routeIn, same]

omit file in
include distinct again in

lemma mem_snapshots_written {entry : FundKey × RiskRow} :
    entry ∈ snapshots ++ newSnapshots snapshots rows ↔ entry ∈ rows := by
  rw [List.mem_append, newSnapshots, List.mem_filter, decide_eq_true_eq]
  constructor
  · rintro (old | ⟨new, -⟩)
    · exact again old
    · exact new
  · intro mem
    by_cases onFile : entry.1 ∈ snapshots.map Prod.fst
    · obtain ⟨old, written, key⟩ := List.mem_map.mp onFile
      left
      rwa [← List.inj_on_of_nodup_map distinct (again written) mem key]
    · exact .inr ⟨mem, onFile⟩

include distinct again

lemma snapshots_written_perm : (snapshots ++ newSnapshots snapshots rows).Perm rows := by
  have once : ((snapshots ++ newSnapshots snapshots rows).map Prod.fst).Nodup := by
    rw [List.map_append, List.nodup_append']
    refine ⟨file.once, distinct.sublist (List.filter_sublist.map _), ?_⟩
    intro key old new
    obtain ⟨entry, kept, rfl⟩ := List.mem_map.mp new
    exact of_decide_eq_true (List.mem_filter.mp kept).2 old
  rw [List.perm_ext_iff_of_nodup (.of_map _ once) (.of_map _ distinct)]
  intro entry
  exact mem_snapshots_written distinct again

/-- Writing keeps the snapshots and the features in step. -/
lemma OnFile.write : OnFile before (snapshots ++ newSnapshots snapshots rows)
    (upsertFeatures features rows) := by
  have perm := snapshots_written_perm file distinct again
  refine ⟨(perm.map _).nodup_iff.mpr distinct, ?_, ?_⟩
  · intro key row written
    exact Dict.get?_foldl_set_of_mem distinct (perm.mem_iff.mp written)
  · intro key absent
    have unwritten : key ∉ rows.map Prod.fst := fun mem => absent ((perm.map _).mem_iff.mpr mem)
    rw [upsertFeatures, Dict.get?_foldl_set_of_not_mem unwritten]
    apply file.elsewhere
    rw [List.map_append, List.mem_append] at absent
    exact fun old => absent (.inl old)

end Writing

/-! ## Whole runs -/

/-- What an attempt that has written holds. -/
structure Wrote (input : RunInput) (before : Dict FundKey RiskRow) (context : RunContext)
    (outcome : Outcome) (changes : List Change) (snapshots : List (FundKey × RiskRow)) : Prop where
  evaluated : evaluate input context = some outcome
  all : snapshots.Perm outcome.rows
  found : changes = changesOf before outcome.rows

def AttemptSound (input : RunInput) (before : Dict FundKey RiskRow) (s : RiskTables) :
    Attempt → Prop
  | .none | .opened => s.runState ≠ some .completed ∧ Quiet before s.features
  | .allocated context outcome =>
    s.runState ≠ some .completed ∧ Quiet before s.features ∧
      evaluate input context = some outcome ∧ s.snapshots ⊆ outcome.rows
  | .written context outcome changes =>
    s.runState ≠ some .completed ∧ Wrote input before context outcome changes s.snapshots
  | .finished context outcome changes =>
    s.changed = changes ∧ Wrote input before context outcome changes s.snapshots

structure RunSound (input : RunInput) (before : Dict FundKey RiskRow) (s : RiskTables) : Prop where
  file : OnFile before s.snapshots s.features
  attempt : AttemptSound input before s s.attempt

lemma runSound_unstarted (h : s.Unstarted) : RunSound input s.features s := by
  obtain ⟨state, snapshots, -, attempt⟩ := h
  constructor
  · rw [snapshots]
    exact ⟨List.nodup_nil, nofun, fun _ _ => rfl⟩
  · rw [attempt]
    exact ⟨by rw [state]; nofun, fun _ => rfl⟩

lemma RunSound.step (inv : RunSound input before s)
    (st : Guarded (Repeatable input before) (RunStep input) s label t) :
    RunSound input before t := by
  obtain ⟨file, phase⟩ := inv
  obtain ⟨guard, st⟩ := st
  cases st with
  | openRun idle resumable =>
    rw [idle] at phase
    exact ⟨file, nofun, phase.2⟩
  | allocate opened owners evaluated =>
    rw [opened] at phase
    exact ⟨file, phase.1, phase.2, evaluated, guard _ evaluated⟩
  | write allocated =>
    rw [allocated] at phase
    obtain ⟨unfinished, quiet, evaluated, again⟩ := phase
    have distinct := evaluate_nodup evaluated
    refine ⟨file.write distinct again, unfinished, evaluated, ?_, ?_⟩
    · exact snapshots_written_perm file distinct again
    · exact changesOf_quiet file quiet again distinct
  | complete written =>
    rw [written] at phase
    exact ⟨file, rfl, phase.2⟩
  | @crash marked _ _ =>
    refine ⟨file, ?_, guard⟩
    cases marked with
    | true => nofun
    | false => nofun
  | reassign => exact ⟨file, by cases h : s.attempt <;> (rw [h] at phase; exact phase)⟩

/-- What the invariant says of a completed run. -/
lemma asRun_of_sound (inv : RunSound input before s) (completed : s.runState = some .completed) :
    ∃ context outcome changes, s.attempt = .finished context outcome changes ∧
      AsRun input before context changes s := by
  obtain ⟨file, phase⟩ := inv
  cases attempt : s.attempt with
  | none | opened | allocated _ _ | written _ _ _ =>
    rw [attempt] at phase
    exact absurd completed phase.1
  | finished context outcome changes =>
    rw [attempt] at phase
    obtain ⟨audited, evaluated, all, found⟩ := phase
    have current : ∀ key row, (key, row) ∈ outcome.rows → routeIn s.features key = some row.route := by
      intro key row mem
      rw [routeIn, file.agrees key row (all.mem_iff.mpr mem)]
      rfl
    refine ⟨context, outcome, changes, rfl, ?_, file.agrees, audited, ?_, ?_⟩
    · exact evaluate_keys evaluated ▸ all.map _
    · intro key
      rw [audited, found, mem_changesOf, ← evaluate_keys evaluated]
      constructor
      · rintro ⟨row, mem, differs⟩
        refine ⟨List.mem_map_of_mem mem, ?_⟩
        rw [current key row mem]
        exact differs.symm
      · rintro ⟨scored, differs⟩
        obtain ⟨⟨key, row⟩, mem, rfl⟩ := List.mem_map.mp scored
        rw [current key row mem] at differs
        exact ⟨row, mem, differs.symm⟩
    · intro clientId
      rw [found, mem_autoCheckinClients, ← evaluate_keys evaluated]
      constructor
      · rintro ⟨fund, row, mem, auto, differs⟩
        refine ⟨fund, List.mem_map_of_mem mem, ?_, differs⟩
        rw [current _ row mem, auto]
      · rintro ⟨fund, scored, auto, differs⟩
        obtain ⟨⟨_, row⟩, mem, rfl⟩ := List.mem_map.mp scored
        rw [current _ row mem] at auto
        exact ⟨fund, row, mem, Option.some_inj.mp auto, differs⟩

/-- A resumed run is the run it would have been, when no crash finds a changed route in the features and
    what is on file is computed again as it was. -/
theorem resumed_as_run (unstarted : s.Unstarted)
    (r : Run (Guarded (Repeatable input s.features) (RunStep input)) s ls t)
    (completed : t.runState = some .completed) :
    ∃ context outcome changes, t.attempt = .finished context outcome changes ∧
      AsRun input s.features context changes t := by
  have inv : RunSound input s.features t := by
    apply r.invariant
    · exact runSound_unstarted unstarted
    · exact fun _ _ _ => RunSound.step
  exact asRun_of_sound inv completed

/-! ## A client that is never checked in on -/

/-- A book of one client fund, at risk and worth no call. -/
def oneFund : RunInput where
  book := [⟨(5, 1), some 500, 60, "High", false, 40⟩]
  nodup := List.nodup_singleton _
  config :=
    { weights := .obj []
      thresholds := .obj [("TINY_BALANCE", .num 100), ("WORTH_A_CALL_BALANCE", .num 1000)]
      faCallCapacity := 10
      atRiskMin := 20 }

def fiveActive : RunContext where
  activeIds := [5]

def checkedIn : RiskRow := ⟨60, "High", .autoCheckin, none⟩

lemma evaluate_oneFund :
    evaluate oneFund fiveActive = some ⟨[((5, 1), checkedIn)], .empty⟩ := by
  have computed : (evaluate oneFund fiveActive).map (fun outcome => (outcome.rows, outcome.owner.items)) =
      some ([((5, 1), checkedIn)], []) := by
    decide +kernel
  obtain ⟨⟨rows, owner⟩, evaluated, same⟩ := Option.map_eq_some_iff.mp computed
  obtain ⟨rfl, noOwner⟩ := Prod.mk.inj same
  have unowned : owner = .empty := Dict.ext_items noOwner
  rw [evaluated, unowned]

/-- Without a roster nobody is assigned. -/
lemma assignOwners_empty {table : Dict FundKey (Option FaId)} {keys : List FundKey} :
    assignOwners table keys .empty = table := by
  have none_owned : keys.filterMap (fun key =>
      ((Dict.empty : Dict ClientId FaId).get? key.1).map fun faId => (key, some faId)) = [] := by
    rw [List.filterMap_eq_nil_iff]
    exact fun _ _ => rfl
  rw [assignOwners, none_owned]
  rfl

lemma allocate_oneFund {s : RiskTables} (opened : s.attempt = .opened)
    (unassigned : s.faAssignment = .empty) : RunStep oneFund s (.allocate fiveActive)
      { s with attempt := .allocated fiveActive ⟨[((5, 1), checkedIn)], .empty⟩ } := by
  have owners : ReadsOwners s.faAssignment ((scoredKeys oneFund fiveActive).map Prod.fst) .empty := by
    rw [unassigned]
    exact ⟨nofun, nofun⟩
  have st := RunStep.allocate opened owners evaluate_oneFund
  rwa [assignOwners_empty] at st

/-- A run that crashes before it writes is resumed as it would have been. -/
theorem resumed_as_run_oneFund : ∃ t ls, RunLabel.crash true ∈ ls ∧
    Run (Guarded (Repeatable oneFund .empty) (RunStep oneFund)) {} ls t ∧
    ∃ context outcome changes, t.attempt = .finished context outcome changes ∧
      AsRun oneFund .empty context changes t := by
  have none_yet : ∀ outcome, evaluate oneFund fiveActive = some outcome → [] ⊆ outcome.rows :=
    fun _ _ => List.nil_subset _
  have r : Run (Guarded (Repeatable oneFund .empty) (RunStep oneFund)) {}
      [.openRun, .allocate fiveActive, .crash true, .openRun, .allocate fiveActive, .write,
        .complete] _ :=
    .snoc (.snoc (.snoc (.snoc (.snoc (.snoc (.snoc .nil ⟨trivial, .openRun rfl nofun⟩)
      ⟨none_yet, allocate_oneFund rfl rfl⟩) ⟨fun _ => rfl, .crash nofun nofun⟩)
      ⟨trivial, .openRun rfl nofun⟩) ⟨none_yet, allocate_oneFund rfl rfl⟩) ⟨trivial, .write rfl⟩)
      ⟨trivial, .complete rfl⟩
  have unstarted : ({} : RiskTables).Unstarted := ⟨rfl, rfl, rfl, rfl⟩
  exact ⟨_, _, .tail _ (.tail _ (.head _)), r, resumed_as_run unstarted r rfl⟩

/-- Some resumed runs audit no change for a client fund whose route they did change. -/
theorem resumed_loses_change : ¬ ∀ (input : RunInput) (s t : RiskTables) (ls : List RunLabel),
    s.Unstarted → Run (RunStep input) s ls t → t.runState = some .completed →
      ∃ context outcome changes, t.attempt = .finished context outcome changes ∧
        AsRun input s.features context changes t := by
  intro claim
  have first : Run (RunStep oneFund) {} [.openRun, .allocate fiveActive, .write, .crash true] _ :=
    .snoc (.snoc (.snoc (.snoc .nil (.openRun rfl nofun)) (allocate_oneFund rfl rfl)) (.write rfl))
      (.crash nofun nofun)
  have r := (((first.snoc (.openRun rfl nofun)).snoc (allocate_oneFund rfl rfl)).snoc
    (.write rfl)).snoc (.complete rfl)
  obtain ⟨context, outcome, changes, finished, asRun⟩ := claim _ _ _ _ ⟨rfl, rfl, rfl, rfl⟩ r rfl
  cases finished
  have audited := (asRun.changed (5, 1)).mpr ⟨by decide, by decide +kernel⟩
  revert audited
  decide +kernel

end ClientEngagement.Risk
