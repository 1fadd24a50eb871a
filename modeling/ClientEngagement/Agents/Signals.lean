import ClientEngagement.Agents.SituationHistory
import ClientEngagement.Risk.History

/-!
# The signals of a night

Model of `recompute_all_signals` (`agents/signals.py`): six passes over the book, each writing one or two signals
of every client fund, with what earlier runs left merged in. After a night every client fund of the book has
the signals its row, the digests and the risk history say (`signal_of_book`).
-/

namespace ClientEngagement.Agents.Watchlist
open Situations

/-! ## What is read -/

/-- A row of `active_client_fund`, but for its key. -/
structure ActiveClientFund where
  balance : Option ℚ
  nDeposits : ℤ
  firstDepositDate : Option ℤ := none
  monthsUntilEmpty : Option ℚ := none

structure ActiveClientInteraction where
  key : FundKey
  createdAt : ℤ

structure DigestLine where
  digestRunId : ℤ
  key : FundKey
  inCallQueue : Bool

structure RiskRun where
  runId : String
  state : RunState
  startedAt : ℤ
  finishedAt : Option ℤ

/-- The book, what scoring, digests and people wrote about it, and when a day begins for the database. -/
structure Tables where
  book : Dict FundKey ActiveClientFund
  riskFeatures : Dict FundKey ClientRiskFeatures := .empty
  digestRuns : Dict ℤ ℤ := .empty
  digestLines : List DigestLine := []
  interactions : List ActiveClientInteraction := []
  riskRuns : List RiskRun := []
  riskSnapshots : List Risk.RiskSnapshot := []
  startOfDay : ℤ → ℤ := (86400 * ·)

/-! ## Routes -/

def routeSeverity : String → Option ℕ
  | "small_balance_review" => some 0
  | "monitor_only" => some 1
  | "auto_checkin" => some 2
  | "fa_watchlist" => some 3
  | "fa_call_priority" => some 4
  | _ => none

def retiredRouteNames : String → String
  | "dust_cleanup" => "small_balance_review"
  | "fa_digest_watch" => "fa_watchlist"
  | "automated_nurture" => "auto_checkin"
  | route => route

inductive RouteMove where
  | moreUrgent
  | lessUrgent
  | unchanged
deriving DecidableEq

/-- `route_direction`; a route that is not known raises. -/
def routeDirection (fromRoute : Option String) (toRoute : String) : Option (Option RouteMove) :=
  match fromRoute with
  | none => some none
  | some fromRoute => do
    let before ← routeSeverity (retiredRouteNames fromRoute)
    let after ← routeSeverity (retiredRouteNames toRoute)
    return some (if before < after then .moreUrgent else if after < before then .lessUrgent else .unchanged)

/-- The newest completed run: those that never finished come first, as the database sorts them. -/
def latestCompletedRunId (runs : List RiskRun) : Option String :=
  (minBy (fun run => toLex (run.finishedAt.elim (toLex (0, 0)) (fun time => toLex (1, -time)), -run.startedAt))
    (runs.filter fun run => run.state = .completed)).map RiskRun.runId

def routesForRun (table : List Risk.RiskSnapshot) (runId : String) : Dict FundKey (Option String) :=
  .ofList ((table.filter fun row => row.runId = runId).map fun row => (row.key, row.route))

def callListRoute : String := "fa_call_priority"

def escalates (previous : Dict FundKey (Option String)) (entry : FundKey × Option String) : Option Bool :=
  match entry.2 with
  | none => some false
  | some route =>
    if route = callListRoute then some false
    else (routeDirection (previous.get? entry.1).join route).map (· = some .moreUrgent)

/-- The client funds a run moved to a more urgent queue that is not the call list. -/
def escalatedKeys (tables : Tables) (riskRunId : Option String) : Option (List FundKey) :=
  match riskRunId.or (latestCompletedRunId tables.riskRuns) with
  | none => some []
  | some runId =>
    ((routesForRun tables.riskSnapshots runId).items.filterM
      (escalates (Risk.routesBeforeRun tables.riskSnapshots runId))).map (·.map Prod.fst)

/-! ## Calls that are waited for -/

/-- Put on a call list before the cutoff, with nothing logged since the digest. -/
def callOverdue (tables : Tables) (cutoff : ℤ) (key : FundKey) : Bool :=
  tables.digestLines.any fun line => line.key = key ∧ line.inCallQueue ∧
    (tables.digestRuns.get? line.digestRunId).any fun generatedAt => generatedAt < cutoff ∧
      !tables.interactions.any fun logged => logged.key = line.key ∧ generatedAt ≤ logged.createdAt

def callCutoff (tables : Tables) (asOf awaitingCallDays : ℤ) : ℤ := tables.startOfDay (asOf - awaitingCallDays)

def fundsHeld (book : Dict FundKey ActiveClientFund) (clientId : ℤ) : ℕ :=
  (book.keys.filter fun key => key.1 = clientId).length

/-! ## The passes -/

/-- What a pass writes for a client fund. -/
abbrev SignalPass := FundKey → ActiveClientFund → List (FactCode × Bool)

/-- `_signal_values`. -/
def signalValues (asOf windowDays : ℤ) (fund : ActiveClientFund) : List (FactCode × Bool) :=
  [(.singleDeposit, fund.nDeposits = 1),
    (.firstDepositRecent, fund.firstDepositDate.any fun first => asOf - windowDays ≤ first)]

def recomputeNewClientSignals (asOf windowDays : ℤ) : SignalPass := fun _ fund =>
  signalValues asOf windowDays fund

def recomputeFeePressureSignal (monthsUntilEmptyThreshold : ℚ) : SignalPass := fun _ fund =>
  [(.feePressureClose, fund.monthsUntilEmpty.any (· < monthsUntilEmptyThreshold) && 0 < fund.balance.getD 0)]

def recomputeSmallBalanceSignal (smallBalanceThreshold : ℚ) : SignalPass := fun _ fund =>
  [(.smallBalance, fund.balance.any (· < smallBalanceThreshold))]

def recomputeSingleFundHeldSignal (tables : Tables) : SignalPass := fun key _ =>
  [(.singleFundHeld, fundsHeld tables.book key.1 = 1)]

def recomputeCallFollowUpOverdueSignal (tables : Tables) (asOf awaitingCallDays : ℤ) : SignalPass := fun key _ =>
  let overdueKeys := tables.book.keys.filter (callOverdue tables (callCutoff tables asOf awaitingCallDays))
  [(.callFollowUpOverdue, overdueKeys.contains key)]

def recomputeRouteEscalatedSignal (escalated : List FundKey) : SignalPass := fun key _ =>
  [(.routeEscalatedThisRun, escalated.contains key)]

/-- A row of `client_signal_snapshot`, but for its id. -/
structure SignalRow where
  runId : String
  key : FundKey
  signalCode : FactCode
  isActive : Bool

structure ClientSignalState where
  isActive : Bool
  since : ℤ
  runId : String

structure SignalDb where
  snapshots : List SignalRow := []
  states : Dict (FundKey × FactCode) ClientSignalState := .empty

/-- `_STATE_SET_SQL`. -/
def signalStateSet : Dict.Writes ClientSignalState ClientSignalState where
  insert := fun excluded => excluded
  merge := fun state excluded =>
    { excluded with since := if state.isActive ≠ excluded.isActive then excluded.since else state.since }

/-- The rows of a pass over the book. -/
def passRows (tables : Tables) (runId : String) (pass : SignalPass) : List SignalRow :=
  tables.book.items.flatMap fun fund =>
    (pass fund.1 fund.2).map fun (signalCode, isActive) => ⟨runId, fund.1, signalCode, isActive⟩

def signalStateRow (asOf : ℤ) (row : SignalRow) : (FundKey × FactCode) × ClientSignalState :=
  ((row.key, row.signalCode), ⟨row.isActive, asOf, row.runId⟩)

/-- `_SignalWrites.flush`. -/
def flush (tables : Tables) (asOf : ℤ) (runId : String) (db : SignalDb) (pass : SignalPass) : SignalDb where
  snapshots := db.snapshots ++ passRows tables runId pass
  states := db.states.upsert signalStateSet ((passRows tables runId pass).map (signalStateRow asOf))

/-- `int`. -/
def truncated (value : ℚ) : ℤ := value.num.tdiv value.den

/-- The thresholds of a recompute; the new-client window is none where none is in force. -/
structure SignalThresholds where
  windowDays : Option ℚ
  monthsUntilEmpty : ℚ
  smallBalance : ℚ
  awaitingCallDays : ℤ

def signalPasses (tables : Tables) (thresholds : SignalThresholds) (asOf : ℤ) (windowDays : ℚ)
    (escalated : List FundKey) : List SignalPass :=
  [recomputeNewClientSignals asOf (truncated windowDays),
    recomputeFeePressureSignal thresholds.monthsUntilEmpty,
    recomputeSmallBalanceSignal thresholds.smallBalance,
    recomputeSingleFundHeldSignal tables,
    recomputeCallFollowUpOverdueSignal tables asOf thresholds.awaitingCallDays,
    recomputeRouteEscalatedSignal escalated]

/-- `recompute_all_signals`: one transaction, with nothing written where a pass raises. -/
def recomputeAllSignals (tables : Tables) (thresholds : SignalThresholds) (asOf : ℤ) (runId : String)
    (riskRunId : Option String) (db : SignalDb) : Option SignalDb := do
  let windowDays ← thresholds.windowDays
  let escalated ← escalatedKeys tables riskRunId
  return (signalPasses tables thresholds asOf windowDays escalated).foldl (flush tables asOf runId) db

/-! ## What a night leaves -/

variable {tables : Tables} {thresholds : SignalThresholds} {asOf : ℤ} {runId : String} {riskRunId : Option String}
  {db db' : SignalDb} {windowDays : ℚ} {escalated : List FundKey} {passes : List SignalPass} {key : FundKey}
  {fund : ActiveClientFund} {code : FactCode} {active : Bool}

/-- What the passes write for a client fund. -/
def signalsOf (passes : List SignalPass) (key : FundKey) (fund : ActiveClientFund) : List (FactCode × Bool) :=
  passes.flatMap fun pass => pass key fund

def signalCodes : List FactCode :=
  [.singleDeposit, .firstDepositRecent, .feePressureClose, .smallBalance, .singleFundHeld, .callFollowUpOverdue,
    .routeEscalatedThisRun]

lemma codes_signalsOf :
    (signalsOf (signalPasses tables thresholds asOf windowDays escalated) key fund).map Prod.fst = signalCodes :=
  rfl

lemma states_flush : (passes.foldl (flush tables asOf runId) db).states = db.states.upsert signalStateSet
    ((passes.flatMap (passRows tables runId)).map (signalStateRow asOf)) := by
  induction passes generalizing db with
  | nil => rfl
  | cons pass passes ih =>
    rw [List.foldl_cons, ih, List.flatMap_cons, List.map_append, Dict.upsert, Dict.upsert, List.foldl_append]
    rfl

/-- Rows that agree on a signal leave it as they have it. -/
lemma isActive_upsert {rows : List ((FundKey × FactCode) × ClientSignalState)}
    {states : Dict (FundKey × FactCode) ClientSignalState} {k : FundKey × FactCode}
    (agree : ∀ row ∈ rows, row.1 = k → row.2.isActive = active) (mem : k ∈ rows.map Prod.fst) :
    ((states.upsert signalStateSet rows).get? k).map ClientSignalState.isActive = some active := by
  induction rows generalizing states with
  | nil => cases mem
  | cons row rows ih =>
    rw [Dict.upsert_cons]
    by_cases later : k ∈ rows.map Prod.fst
    · exact ih (fun row among => agree row (List.mem_cons_of_mem _ among)) later
    · rw [Dict.get?_upsert_of_not_mem later]
      cases List.mem_cons.mp mem with
      | inl same =>
        rw [same, Dict.get?_set_self, Option.map_some, ← agree row (List.mem_cons_self ..) same.symm]
        cases states.get? row.1 <;> rfl
      | inr listed => exact absurd listed later

/-- After a night a client fund of the book has its signals. -/
theorem signal_of_book (ran : recomputeAllSignals tables thresholds asOf runId riskRunId db = some db') :
    ∃ windowDays escalated, thresholds.windowDays = some windowDays ∧
      escalatedKeys tables riskRunId = some escalated ∧
      ∀ key fund code active, tables.book.get? key = some fund →
        (code, active) ∈ signalsOf (signalPasses tables thresholds asOf windowDays escalated) key fund →
        (db'.states.get? (key, code)).map ClientSignalState.isActive = some active := by
  obtain ⟨windowDays, inForce, ran⟩ := Option.bind_eq_some_iff.mp ran
  obtain ⟨escalated, moved, ran⟩ := Option.bind_eq_some_iff.mp ran
  cases ran
  refine ⟨windowDays, escalated, inForce, moved, fun key fund code active inBook written => ?_⟩
  rw [states_flush]
  refine isActive_upsert ?_ ?_
  · intro row mem same
    obtain ⟨written_row, listed, rfl⟩ := List.mem_map.mp mem
    obtain ⟨pass, among, rows⟩ := List.mem_flatMap.mp listed
    obtain ⟨⟨key', fund'⟩, other, values⟩ := List.mem_flatMap.mp rows
    obtain ⟨⟨code', active'⟩, value, rfl⟩ := List.mem_map.mp values
    cases same
    rw [(Dict.mem_items_iff _).mp other] at inBook
    cases inBook
    have value_of : (code', active') ∈
        signalsOf (signalPasses tables thresholds asOf windowDays escalated) key' fund :=
      List.mem_flatMap.mpr ⟨pass, among, value⟩
    have once : ((signalsOf (signalPasses tables thresholds asOf windowDays escalated) key' fund).map
        Prod.fst).Nodup := by
      rw [codes_signalsOf]
      decide
    exact (Prod.mk.inj (List.inj_on_of_nodup_map once value_of written rfl)).2
  · obtain ⟨pass, among, value⟩ := List.mem_flatMap.mp written
    refine List.mem_map.mpr ⟨signalStateRow asOf ⟨runId, key, code, active⟩, ?_, rfl⟩
    refine List.mem_map_of_mem (List.mem_flatMap.mpr ⟨pass, among, ?_⟩)
    refine List.mem_flatMap.mpr ⟨(key, fund), (Dict.mem_items_iff _).mpr inBook, ?_⟩
    exact List.mem_map.mpr ⟨(code, active), value, rfl⟩

end ClientEngagement.Agents.Watchlist
