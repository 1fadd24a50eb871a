import ClientEngagement.Lib.DistinctOn
import ClientEngagement.Lib.Streaks
import ClientEngagement.Lib.Upsert

/-!
# The history of situations

Model of `agents/situations.py` and `prune_signal_snapshots` (`retention.py`): each night the passes append the
snapshots of what they evaluate and upsert the states, whose `since` moves with a flip, and the snapshots of
all but the two newest runs are deleted. A state is what is kept of all evaluations, so no prune reaches it;
the delta is read from the snapshots, and of those only the run before is left. `situation_history` says where
the two views meet: everywhere but for a client fund the run before did not evaluate.
-/

namespace ClientEngagement.Agents.Situations

/-- A client and one of its funds. -/
abbrev FundKey := ℤ × ℤ

/-- What a situation is read off: signals, and what the risk row of a client fund says. -/
inductive FactCode where
  | singleDeposit
  | firstDepositRecent
  | feePressureClose
  | smallBalance
  | singleFundHeld
  | callFollowUpOverdue
  | routeEscalatedThisRun
  | sigDormant
  | sigShrinking
  | healthyRiskBand
deriving DecidableEq

inductive SituationCode where
  | newClientSingleDeposit
  | systemFeePressure
  | smallBalanceInactive
  | contributionDecline
  | singleFundHealthy
  | followUpOverdue
  | riskActionGap
  | feePressureGoneQuiet
  | feePressureActiveContributor
deriving DecidableEq

/-! ## The facts of a night -/

structure ClientRiskFeatures where
  sigDormant : Bool
  sigShrinking : Bool
  riskBand : String

/-- The tables a night's passes read. -/
structure NightTables where
  signalStates : Dict (FundKey × FactCode) Bool := .empty
  riskFeatures : Dict FundKey ClientRiskFeatures := .empty

abbrev Facts := Dict FundKey (Dict FactCode Bool)

/-- `_signal_state_map`. -/
def signalStateMap (signalCodes : List FactCode) (tables : NightTables) : Facts :=
  (tables.signalStates.items.filter fun row => row.1.2 ∈ signalCodes).foldl
    (fun funds row => funds.modify row.1.1 .empty (·.set row.1.2 row.2)) .empty

def healthyBands : List String := ["None", "Low"]

/-- `_risk_signal_map`. -/
def riskSignalMap (tables : NightTables) : Facts :=
  tables.riskFeatures.mapValues fun row =>
    .ofList [(.sigDormant, row.sigDormant), (.sigShrinking, row.sigShrinking),
      (.healthyRiskBand, healthyBands.contains row.riskBand)]

def update (values others : Dict FactCode Bool) : Dict FactCode Bool :=
  others.items.foldl (fun values fact => values.set fact.1 fact.2) values

/-- `_combine`. -/
def combine (sources : List Facts) : Facts :=
  sources.foldl (fun combined source => source.items.foldl
    (fun combined fund => combined.modify fund.1 .empty (update · fund.2)) combined) .empty

/-! ## The passes -/

/-- A situation: the facts its pass reads, and the codes that make it active or keep it from being so. -/
structure Situation where
  situationCode : SituationCode
  facts : NightTables → Facts
  requiredCodes : List FactCode
  excludedCodes : List FactCode := []

def recomputeNewClientSingleDeposit : Situation where
  situationCode := .newClientSingleDeposit
  facts := signalStateMap [.singleDeposit, .firstDepositRecent]
  requiredCodes := [.singleDeposit, .firstDepositRecent]

def recomputeSystemFeePressure : Situation where
  situationCode := .systemFeePressure
  facts := signalStateMap [.feePressureClose]
  requiredCodes := [.feePressureClose]

def recomputeFeePressureGoneQuiet : Situation where
  situationCode := .feePressureGoneQuiet
  facts := fun tables => combine [signalStateMap [.feePressureClose] tables, riskSignalMap tables]
  requiredCodes := [.feePressureClose, .sigDormant]

def recomputeFeePressureActiveContributor : Situation where
  situationCode := .feePressureActiveContributor
  facts := fun tables => combine [signalStateMap [.feePressureClose] tables, riskSignalMap tables]
  requiredCodes := [.feePressureClose]
  excludedCodes := [.sigDormant]

def recomputeSmallBalanceInactive : Situation where
  situationCode := .smallBalanceInactive
  facts := fun tables => combine [signalStateMap [.smallBalance] tables, riskSignalMap tables]
  requiredCodes := [.smallBalance, .sigDormant]

def recomputeContributionDecline : Situation where
  situationCode := .contributionDecline
  facts := riskSignalMap
  requiredCodes := [.sigShrinking]

def recomputeSingleFundHealthy : Situation where
  situationCode := .singleFundHealthy
  facts := fun tables => combine [signalStateMap [.singleFundHeld] tables, riskSignalMap tables]
  requiredCodes := [.singleFundHeld, .healthyRiskBand]

def recomputeFollowUpOverdue : Situation where
  situationCode := .followUpOverdue
  facts := signalStateMap [.callFollowUpOverdue]
  requiredCodes := [.callFollowUpOverdue]

def recomputeRiskActionGap : Situation where
  situationCode := .riskActionGap
  facts := signalStateMap [.routeEscalatedThisRun]
  requiredCodes := [.routeEscalatedThisRun]

/-- The passes of `recompute_all_situations`, in order. -/
def situations : List Situation :=
  [recomputeNewClientSingleDeposit, recomputeSystemFeePressure, recomputeFeePressureGoneQuiet,
    recomputeFeePressureActiveContributor, recomputeSmallBalanceInactive, recomputeContributionDecline,
    recomputeSingleFundHealthy, recomputeFollowUpOverdue, recomputeRiskActionGap]

def Situation.activeCodes (situation : Situation) (values : Dict FactCode Bool) : List FactCode :=
  situation.requiredCodes.filter (values.getD · false)

def Situation.isActive (situation : Situation) (values : Dict FactCode Bool) : Bool :=
  (situation.activeCodes values).length = situation.requiredCodes.length &&
    !situation.excludedCodes.any (values.getD · false)

/-! ## The tables -/

inductive RunState where
  | running
  | completed
  | failed
deriving DecidableEq

structure SignalRun where
  runId : String
  state : RunState
  startedAt : ℤ

/-- A row of `client_situation_snapshot`, but for its id. -/
structure SituationRow where
  runId : String
  key : FundKey
  situationCode : SituationCode
  isActive : Bool
  signalCodes : List FactCode

structure ClientSituationState where
  isActive : Bool
  signalCodes : List FactCode
  since : ℤ
  runId : String

structure SituationDb where
  runs : List SignalRun := []
  snapshots : List (ℕ × SituationRow) := []
  nextSnapshotId : ℕ := 1
  states : Dict (FundKey × SituationCode) ClientSituationState := .empty

/-- The ids a table's sequence gives to new rows. -/
def numbered (next : ℕ) (rows : List SituationRow) : List (ℕ × SituationRow) :=
  (rows.zipIdx next).map Prod.swap

/-- `_SITUATION_STATE_SET_SQL`. -/
def situationStateSet : Dict.Writes ClientSituationState ClientSituationState where
  insert := fun excluded => excluded
  merge := fun state excluded =>
    { excluded with since := if state.isActive ≠ excluded.isActive then excluded.since else state.since }

/-- A night: its signal run, the tables the passes find, and how many of them are done before one raises. -/
structure Night where
  runId : String
  asOf : ℤ
  startedAt : ℤ
  tables : NightTables := {}
  passes : ℕ := situations.length

def Situation.row (situation : Situation) (runId : String) (fund : FundKey × Dict FactCode Bool) :
    SituationRow where
  runId := runId
  key := fund.1
  situationCode := situation.situationCode
  isActive := situation.isActive fund.2
  signalCodes := situation.activeCodes fund.2

def stateRow (asOf : ℤ) (row : SituationRow) : (FundKey × SituationCode) × ClientSituationState :=
  ((row.key, row.situationCode), ⟨row.isActive, row.signalCodes, asOf, row.runId⟩)

/-- What a pass writes. -/
def Situation.rows (situation : Situation) (night : Night) : List SituationRow :=
  (situation.facts night.tables).items.map (situation.row night.runId)

/-- `_recompute_situation`. -/
def recomputeSituation (night : Night) (db : SituationDb) (situation : Situation) : SituationDb :=
  { db with
    snapshots := db.snapshots ++ numbered db.nextSnapshotId (situation.rows night)
    nextSnapshotId := db.nextSnapshotId + (situation.rows night).length
    states := db.states.upsert situationStateSet ((situation.rows night).map (stateRow night.asOf)) }

/-- The passes a night gets done. -/
def Night.situations (night : Night) : List Situation := Situations.situations.take night.passes

/-- The signal run of a night, committed as completed. -/
def Night.run (night : Night) : SignalRun := ⟨night.runId, .completed, night.startedAt⟩

/-- `recompute_all_signals`. -/
def recomputeAllSignals (db : SituationDb) (night : Night) : SituationDb :=
  { db with runs := db.runs ++ [night.run] }

def recomputeAllSituations (db : SituationDb) (night : Night) : SituationDb :=
  night.situations.foldl (recomputeSituation night) db

/-! ## Retention -/

def signalRunsToKeep : ℕ := 2

def keptRuns (runs : List SignalRun) (keep : ℕ) : List String :=
  ((sortBy (fun run => -run.startedAt) (runs.filter fun run => run.state = .completed)).take keep).map
    SignalRun.runId

def staleRuns (runs : List SignalRun) (keep : ℕ) : List String :=
  (runs.filter fun run => run.state ≠ .running ∧ run.runId ∉ keptRuns runs keep).map SignalRun.runId

/-- `prune_signal_snapshots`, of the situations' snapshots. -/
def pruneSignalSnapshots (keep : ℕ) (db : SituationDb) : SituationDb :=
  { db with snapshots := db.snapshots.filter fun row => row.2.runId ∉ staleRuns db.runs keep }

def afterNight (db : SituationDb) (night : Night) : SituationDb :=
  pruneSignalSnapshots signalRunsToKeep (recomputeAllSituations (recomputeAllSignals db night) night)

/-- The tables after a sequence of nights. -/
def afterNights (nights : List Night) : SituationDb := nights.foldl afterNight {}

/-! ## The delta -/

structure SituationDelta where
  newlyActive : List FundKey
  newlyInactive : List FundKey
  persisting : List FundKey

/-- `_situation_snapshots_for_run`. -/
def situationSnapshotsForRun (db : SituationDb) (code : SituationCode) (runId : String) : Dict FundKey Bool :=
  .ofList ((db.snapshots.filter fun row => row.2.situationCode = code ∧ row.2.runId = runId).map
    fun row => (row.2.key, row.2.isActive))

/-- `_situation_snapshots_before_run`. -/
def situationSnapshotsBeforeRun (db : SituationDb) (code : SituationCode) (runId : String) :
    Dict FundKey Bool :=
  match minBy Prod.fst
      (db.snapshots.filter fun row => row.2.situationCode = code ∧ row.2.runId = runId) with
  | none => .empty
  | some first =>
    .ofList ((distinctOn (fun row => row.2.key) (fun row => row.1) toLex
      (db.snapshots.filter fun row => row.2.situationCode = code ∧ row.1 < first.1)).map
        fun row => (row.2.key, row.2.isActive))

/-- `situation_delta`. -/
def situationDelta (db : SituationDb) (code : SituationCode) (runId : String) : SituationDelta :=
  let current := situationSnapshotsForRun db code runId
  let previous := situationSnapshotsBeforeRun db code runId
  { newlyActive := (current.items.filter fun row => row.2 && !previous.getD row.1 false).map Prod.fst
    newlyInactive := (current.items.filter fun row => !row.2 && previous.getD row.1 false).map Prod.fst
    persisting := (current.items.filter fun row => row.2 && previous.getD row.1 false).map Prod.fst }

/-! ## Histories -/

/-- Nights one after the other, each with its own run. -/
structure InOrder (nights : List Night) : Prop where
  asOf : nights.Pairwise fun a b => a.asOf < b.asOf
  startedAt : nights.Pairwise fun a b => a.startedAt < b.startedAt
  runIds : nights.Pairwise fun a b => a.runId ≠ b.runId

/-- What a night found a client fund to be, if it evaluated it. -/
def Night.evaluation (night : Night) (code : SituationCode) (key : FundKey) : Option Bool :=
  (night.situations.find? fun situation => situation.situationCode = code).bind fun situation =>
    ((situation.facts night.tables).get? key).map situation.isActive

/-- The nights that evaluated a client fund, with what they found. -/
def evaluations (nights : List Night) (code : SituationCode) (key : FundKey) : List (ℤ × Bool) :=
  nights.filterMap fun night => (night.evaluation code key).map fun active => (night.asOf, active)

/-! ## What a night writes -/

variable {night last : Night} {nights : List Night} {db : SituationDb} {code : SituationCode} {key : FundKey}
  {row : SituationRow} {active : Bool}

/-- All rows of a night. -/
def Night.rows (night : Night) : List SituationRow := night.situations.flatMap (·.rows night)

lemma numbered_append (next : ℕ) (rows rows' : List SituationRow) :
    numbered next (rows ++ rows') = numbered next rows ++ numbered (next + rows.length) rows' := by
  rw [numbered, List.zipIdx_append, List.map_append]
  rfl

lemma map_snd_numbered (next : ℕ) (rows : List SituationRow) : (numbered next rows).map Prod.snd = rows := by
  rw [numbered, List.map_map]
  exact List.zipIdx_map_fst next rows

lemma map_fst_numbered (next : ℕ) (rows : List SituationRow) :
    (numbered next rows).map Prod.fst = List.range' next rows.length := by
  rw [numbered, List.map_map]
  exact List.zipIdx_map_snd next rows

/-- The passes append their rows and upsert the states, all in all. -/
lemma recomputeAllSituations_eq : recomputeAllSituations db night =
    { db with
      snapshots := db.snapshots ++ numbered db.nextSnapshotId night.rows
      nextSnapshotId := db.nextSnapshotId + night.rows.length
      states := db.states.upsert situationStateSet (night.rows.map (stateRow night.asOf)) } := by
  rw [recomputeAllSituations, Night.rows]
  generalize night.situations = situations
  induction situations generalizing db with
  | nil =>
    rw [List.foldl_nil, List.flatMap_nil]
    exact congrArg (fun table => { db with snapshots := table }) (List.append_nil _).symm
  | cons situation situations ih =>
    rw [List.foldl_cons, ih, List.flatMap_cons, numbered_append, List.length_append, List.map_append]
    simp only [recomputeSituation, List.append_assoc, Nat.add_assoc, Dict.upsert, List.foldl_append]

lemma codes_nodup : (night.situations.map Situation.situationCode).Nodup := by
  have all : (situations.map Situation.situationCode).Nodup := by decide
  exact all.sublist ((List.take_sublist _ _).map _)

lemma Situation.mem_rows {situation : Situation} : row ∈ situation.rows night ↔
    ∃ values, (situation.facts night.tables).get? row.key = some values ∧
      row = situation.row night.runId (row.key, values) := by
  rw [Situation.rows, List.mem_map]
  constructor
  · rintro ⟨⟨key, values⟩, mem, rfl⟩
    exact ⟨values, (Dict.mem_items_iff _).mp mem, rfl⟩
  · rintro ⟨values, found, same⟩
    exact ⟨(row.key, values), (Dict.mem_items_iff _).mpr found, same.symm⟩

lemma Situation.nodup_rows (situation : Situation) :
    ((situation.rows night).map fun row => (row.key, row.situationCode)).Nodup := by
  rw [Situation.rows, List.map_map]
  have keys := (situation.facts night.tables).keys_nodup
  refine List.Nodup.of_map Prod.fst ?_
  rw [List.map_map]
  exact keys

/-- No night writes two rows of a client fund's situation. -/
lemma Night.nodup_rows : (night.rows.map fun row => (row.key, row.situationCode)).Nodup := by
  rw [Night.rows, List.map_flatMap, List.nodup_flatMap]
  refine ⟨fun situation _ => situation.nodup_rows, ?_⟩
  refine (List.pairwise_map.mp codes_nodup).imp fun other k first second => other ?_
  obtain ⟨row, mem, rfl⟩ := List.mem_map.mp first
  obtain ⟨row', mem', same⟩ := List.mem_map.mp second
  obtain ⟨_, -, is⟩ := Situation.mem_rows.mp mem
  obtain ⟨_, -, is'⟩ := Situation.mem_rows.mp mem'
  have codes := congrArg Prod.snd same
  rw [is, is'] at codes
  exact codes.symm

/-- What a night finds is in its rows. -/
lemma Night.evaluation_eq_some : night.evaluation code key = some active ↔
    ∃ row ∈ night.rows, row.key = key ∧ row.situationCode = code ∧ row.isActive = active := by
  rw [Night.evaluation, Option.bind_eq_some_iff]
  constructor
  · rintro ⟨situation, listed, found⟩
    obtain ⟨values, facts, is⟩ := Option.map_eq_some_iff.mp found
    have mem := List.mem_of_find?_eq_some listed
    have isCode := List.find?_some listed
    refine ⟨situation.row night.runId (key, values), ?_, rfl, of_decide_eq_true isCode, is⟩
    exact List.mem_flatMap.mpr ⟨situation, mem, Situation.mem_rows.mpr ⟨values, facts, rfl⟩⟩
  · rintro ⟨row, mem, rfl, rfl, rfl⟩
    obtain ⟨situation, listed, written⟩ := List.mem_flatMap.mp mem
    obtain ⟨values, facts, is⟩ := Situation.mem_rows.mp written
    have isCode : situation.situationCode = row.situationCode := by rw [is]; rfl
    refine ⟨situation, ?_, ?_⟩
    · cases found : night.situations.find? fun situation => situation.situationCode = row.situationCode with
      | none => exact absurd (decide_eq_true isCode) (List.find?_eq_none.mp found situation listed)
      | some first =>
        have first_code := List.find?_some found
        rw [decide_eq_true_eq] at first_code
        rw [List.inj_on_of_nodup_map codes_nodup (List.mem_of_find?_eq_some found) listed
          (first_code.trans isCode.symm)]
    · rw [facts, is]
      rfl

lemma Night.runId_of_mem_rows (mem : row ∈ night.rows) : row.runId = night.runId := by
  obtain ⟨situation, -, written⟩ := List.mem_flatMap.mp mem
  obtain ⟨values, -, is⟩ := Situation.mem_rows.mp written
  rw [is]
  rfl

/-! ## What retention leaves -/

/-- What the tables hold after a sequence of nights. -/
structure Holds (nights : List Night) (db : SituationDb) : Prop where
  runs : db.runs = nights.map Night.run
  rows : db.snapshots.map Prod.snd = (nights.rtake signalRunsToKeep).flatMap Night.rows
  ids : (db.snapshots.map Prod.fst).Pairwise (· < ·)
  next : ∀ entry ∈ db.snapshots, entry.1 < db.nextSnapshotId
  states : ∀ code key, (db.states.get? (key, code)).map (fun state => (state.isActive, state.since)) =
    kept (evaluations nights code key)

lemma InOrder.of_concat (order : InOrder (nights ++ [night])) : InOrder nights :=
  ⟨(List.pairwise_append.mp order.asOf).1, (List.pairwise_append.mp order.startedAt).1,
    (List.pairwise_append.mp order.runIds).1⟩

/-- The runs that are kept are the last ones. -/
lemma keptRuns_eq (order : InOrder nights) (keep : ℕ) :
    keptRuns (nights.map Night.run) keep =
      ((nights.rtake keep).map Night.runId).reverse := by
  have newest : sortBy (fun run : SignalRun => -run.startedAt) (nights.map Night.run) =
      (nights.map Night.run).reverse := by
    have later : (nights.map Night.run).Pairwise fun a b => a.startedAt < b.startedAt :=
      List.pairwise_map.mpr order.startedAt
    have sorted : sortBy (fun run : SignalRun => -run.startedAt) (nights.map Night.run).reverse = _ :=
      List.Pairwise.insertionSort_eq
        (List.pairwise_reverse.mpr (later.imp fun lt => neg_le_neg lt.le))
    rw [← sorted]
    refine sortBy_eq_of_perm (List.reverse_perm _).symm fun a memA b memB same => ?_
    have distinct := later.imp fun lt => ne_of_lt lt
    exact List.inj_on_of_nodup_map (List.pairwise_map.mpr distinct) memA memB (neg_injective same)
  have completed : (nights.map Night.run).filter (fun run => run.state = .completed) =
      nights.map Night.run := by
    refine List.filter_eq_self.mpr fun run mem => ?_
    obtain ⟨night, -, rfl⟩ := List.mem_map.mp mem
    rfl
  rw [keptRuns, completed, newest, List.rtake_eq_reverse_take_reverse, List.map_reverse, List.reverse_reverse,
    ← List.map_reverse, List.map_take, List.map_map, List.map_take]
  rfl

lemma mem_staleRuns (order : InOrder nights) (mem : night ∈ nights) (keep : ℕ) :
    night.runId ∈ staleRuns (nights.map Night.run) keep ↔
      night.runId ∉ (nights.rtake keep).map Night.runId := by
  rw [staleRuns, keptRuns_eq order, List.mem_map]
  constructor
  · rintro ⟨run, stale, same⟩
    have := (of_decide_eq_true (List.mem_filter.mp stale).2).2
    rwa [List.mem_reverse, same] at this
  · intro old
    refine ⟨night.run, List.mem_filter.mpr ⟨List.mem_map_of_mem mem, ?_⟩, rfl⟩
    rw [decide_eq_true_eq, List.mem_reverse]
    exact ⟨nofun, old⟩

lemma filter_mem_map {α β : Type*} [DecidableEq β] {f : α → β} {l l' : List α}
    (nodup : ((l ++ l').map f).Nodup) : (l ++ l').filter (fun a => f a ∈ l'.map f) = l' := by
  rw [List.map_append, List.nodup_append'] at nodup
  rw [List.filter_append, List.filter_eq_nil_iff.mpr, List.filter_eq_self.mpr, List.nil_append]
  · exact fun a mem => decide_eq_true (List.mem_map_of_mem mem)
  · intro a mem kept
    exact nodup.2.2 (List.mem_map_of_mem mem) (of_decide_eq_true kept)

lemma flatMap_if {α β : Type*} {p : α → Prop} [DecidablePred p] {f : α → List β} {l : List α} :
    l.flatMap (fun a => if p a then f a else []) = (l.filter fun a => p a).flatMap f := by
  induction l with
  | nil => rfl
  | cons a l ih =>
    rw [List.flatMap_cons, ih, List.filter_cons]
    by_cases here : p a
    · rw [if_pos here, if_pos (decide_eq_true here), List.flatMap_cons]
    · rw [if_neg here, if_neg (by simpa using here), List.nil_append]

/-- With a night more, the rows of the last nights are left. -/
lemma filter_staleRuns (order : InOrder (nights ++ [night])) :
    ((nights.rtake signalRunsToKeep).flatMap Night.rows ++ night.rows).filter
      (fun row => row.runId ∉ staleRuns ((nights ++ [night]).map Night.run) signalRunsToKeep) =
    ((nights ++ [night]).rtake signalRunsToKeep).flatMap Night.rows := by
  obtain ⟨older, split⟩ : ∃ older, older ++ (nights ++ [night]).rtake signalRunsToKeep =
      nights.rtake signalRunsToKeep ++ [night] := by
    have suffix : nights.rtake 1 <:+ nights.rtake 2 :=
      List.drop_suffix_drop_left _ (Nat.sub_le_sub_left (Nat.le_succ 1) _)
    obtain ⟨older, split⟩ := suffix
    refine ⟨older, ?_⟩
    rw [signalRunsToKeep, List.rtake_concat_succ, ← split, List.append_assoc]
  have among : (nights.rtake signalRunsToKeep ++ [night]).Sublist (nights ++ [night]) :=
    (List.drop_sublist _ _).append_right _
  have distinct : ((nights.rtake signalRunsToKeep ++ [night]).map Night.runId).Nodup :=
    (List.pairwise_map.mpr order.runIds).sublist (among.map _)
  have left : ∀ night' ∈ nights.rtake signalRunsToKeep ++ [night], night'.rows.filter
      (fun row => row.runId ∉ staleRuns ((nights ++ [night]).map Night.run) signalRunsToKeep) =
        if night'.runId ∈ ((nights ++ [night]).rtake signalRunsToKeep).map Night.runId then night'.rows
        else [] := by
    intro night' mem
    have stale := mem_staleRuns order (among.subset mem) signalRunsToKeep
    split
    case isTrue recent =>
      refine List.filter_eq_self.mpr fun row written => ?_
      rw [decide_eq_true_eq, Night.runId_of_mem_rows written, stale]
      exact not_not_intro recent
    case isFalse old =>
      refine List.filter_eq_nil_iff.mpr fun row written => ?_
      rw [decide_eq_true_eq, Night.runId_of_mem_rows written, stale]
      exact not_not_intro old
  have whole : (nights.rtake signalRunsToKeep).flatMap Night.rows ++ night.rows =
      (nights.rtake signalRunsToKeep ++ [night]).flatMap Night.rows := by
    rw [List.flatMap_append, List.flatMap_singleton]
  rw [whole, List.filter_flatMap, List.flatMap_congr left, flatMap_if]
  rw [← split] at distinct ⊢
  rw [filter_mem_map distinct]

lemma evaluations_concat : evaluations (nights ++ [night]) code key = evaluations nights code key ++
    ((night.evaluation code key).map fun active => (night.asOf, active)).toList := by
  rw [evaluations, List.filterMap_append, List.filterMap_cons, List.filterMap_nil]
  cases night.evaluation code key <;> rfl

lemma keys_stateRow : (night.rows.map (stateRow night.asOf)).map Prod.fst =
    night.rows.map fun row => (row.key, row.situationCode) := by
  rw [List.map_map]
  rfl

/-- A state is what is kept of the evaluations. -/
lemma states_after (states : Dict (FundKey × SituationCode) ClientSituationState)
    (before : (states.get? (key, code)).map (fun state => (state.isActive, state.since)) =
      kept (evaluations nights code key)) :
    ((states.upsert situationStateSet (night.rows.map (stateRow night.asOf))).get? (key, code)).map
      (fun state => (state.isActive, state.since)) = kept (evaluations (nights ++ [night]) code key) := by
  rw [evaluations_concat]
  cases found : night.evaluation code key with
  | none =>
    rw [Dict.get?_upsert_of_not_mem]
    · rw [before, Option.map_none, Option.toList_none, List.append_nil]
    · rw [keys_stateRow]
      intro listed
      obtain ⟨row, mem, same⟩ := List.mem_map.mp listed
      cases same
      have written := Night.evaluation_eq_some.mpr ⟨row, mem, rfl, rfl, rfl⟩
      rw [found] at written
      cases written
  | some active =>
    obtain ⟨row, mem, rfl, rfl, rfl⟩ := Night.evaluation_eq_some.mp found
    have written : ((row.key, row.situationCode), (stateRow night.asOf row).2) ∈
        night.rows.map (stateRow night.asOf) := List.mem_map_of_mem mem
    have once : ((night.rows.map (stateRow night.asOf)).map Prod.fst).Nodup := by
      rw [keys_stateRow]
      exact Night.nodup_rows
    rw [Dict.get?_upsert_of_mem once written, Option.map_some,
      Option.map_some, Option.toList_some, kept_concat, ← before]
    cases states.get? (row.key, row.situationCode) <;> rfl

lemma Holds.after (holds : Holds nights db) (order : InOrder (nights ++ [night])) :
    Holds (nights ++ [night]) (afterNight db night) := by
  have runs : (recomputeAllSignals db night).runs =
      (nights ++ [night]).map Night.run := by
    rw [recomputeAllSignals, holds.runs, List.map_append, List.map_singleton]
  rw [afterNight, recomputeAllSituations_eq]
  have ids : ((db.snapshots ++ numbered db.nextSnapshotId night.rows).map Prod.fst).Pairwise (· < ·) := by
    rw [List.map_append, map_fst_numbered, List.pairwise_append]
    refine ⟨holds.ids, List.pairwise_lt_range', ?_⟩
    intro id old id' new
    obtain ⟨entry, mem, rfl⟩ := List.mem_map.mp old
    exact (holds.next entry mem).trans_le (List.mem_range'_1.mp new).1
  refine ⟨runs, ?_, ids.sublist (List.filter_sublist.map _), ?_,
    fun code key => states_after _ (holds.states code key)⟩
  · have whole : (db.snapshots ++ numbered db.nextSnapshotId night.rows).map Prod.snd =
        (nights.rtake signalRunsToKeep).flatMap Night.rows ++ night.rows := by
      rw [List.map_append, holds.rows, map_snd_numbered]
    rw [← filter_staleRuns order, ← whole, List.filter_map, ← runs]
    rfl
  · intro entry listed
    cases List.mem_append.mp (List.mem_filter.mp listed).1 with
    | inl old => exact Nat.lt_add_right _ (holds.next entry old)
    | inr new =>
      have id := List.mem_map_of_mem (f := Prod.fst) new
      rw [map_fst_numbered] at id
      exact (List.mem_range'_1.mp id).2

theorem holds_afterNights (order : InOrder nights) : Holds nights (afterNights nights) := by
  induction nights using List.reverseRecOn with
  | nil => exact ⟨rfl, rfl, .nil, nofun, fun _ _ => rfl⟩
  | append_singleton nights night ih =>
    rw [afterNights, List.foldl_concat]
    exact (ih order.of_concat).after order

/-! ## Reading the delta -/

/-- The tables after one more night: the rows of the night before it, with their ids, and its own. -/
lemma snapshots_split (order : InOrder (nights ++ [last])) : ∃ before own,
    (afterNights (nights ++ [last])).snapshots = before ++ own ∧
    before.map Prod.snd = nights.getLast?.elim [] Night.rows ∧ own.map Prod.snd = last.rows ∧
    ∀ old ∈ before, ∀ new ∈ own, old.1 < new.1 := by
  have holds := holds_afterNights order
  have rows : (afterNights (nights ++ [last])).snapshots.map Prod.snd =
      nights.getLast?.elim [] Night.rows ++ last.rows := by
    rw [holds.rows, signalRunsToKeep, List.rtake_concat_succ, List.flatMap_append, List.flatMap_singleton]
    congr 1
    induction nights using List.reverseRecOn with
    | nil => rfl
    | append_singleton nights previous _ =>
      rw [List.rtake_concat_succ, List.rtake_zero, List.nil_append, List.flatMap_singleton,
        List.getLast?_concat]
      rfl
  obtain ⟨before, own, split, old, new⟩ := List.map_eq_append_iff.mp rows
  refine ⟨before, own, split, old, new, fun a memA b memB => ?_⟩
  have ids := holds.ids
  rw [split, List.map_append] at ids
  exact (List.pairwise_append.mp ids).2.2 _ (List.mem_map_of_mem memA) _ (List.mem_map_of_mem memB)

/-- A night's rows of one situation, with their ids. -/
def entriesOf (code : SituationCode) (entries : List (ℕ × SituationRow)) : List (ℕ × SituationRow) :=
  entries.filter fun entry => entry.2.situationCode = code

section Reading
variable {entries before own : List (ℕ × SituationRow)} (rows : entries.map Prod.snd = night.rows)
include rows

lemma nodup_entriesOf : ((entriesOf code entries).map fun entry => entry.2.key).Nodup := by
  have once := night.nodup_rows
  rw [← rows, List.map_map] at once
  rw [List.Nodup, List.pairwise_map] at once ⊢
  refine (once.sublist List.filter_sublist).imp_of_mem fun {a b} memA memB differ same => differ ?_
  have codeA := of_decide_eq_true (List.mem_filter.mp memA).2
  have codeB := of_decide_eq_true (List.mem_filter.mp memB).2
  exact Prod.ext same (codeA.trans codeB.symm)

lemma find?_entriesOf : ((entriesOf code entries).find? fun entry => entry.2.key = key).map
    (fun entry => entry.2.isActive) = night.evaluation code key := by
  cases found : (entriesOf code entries).find? fun entry => entry.2.key = key with
  | none =>
    symm
    rw [Option.map_none, Option.eq_none_iff_forall_not_mem]
    intro active evaluated
    obtain ⟨row, written, rfl, rfl, -⟩ := Night.evaluation_eq_some.mp evaluated
    rw [← rows] at written
    obtain ⟨entry, mem, rfl⟩ := List.mem_map.mp written
    have listed : entry ∈ entriesOf entry.2.situationCode entries :=
      List.mem_filter.mpr ⟨mem, decide_eq_true rfl⟩
    exact List.find?_eq_none.mp found entry listed (decide_eq_true rfl)
  | some entry =>
    have listed := List.mem_filter.mp (List.mem_of_find?_eq_some found)
    have isKey := List.find?_some found
    have written : entry.2 ∈ night.rows := rows ▸ List.mem_map_of_mem listed.1
    exact (Night.evaluation_eq_some.mpr
      ⟨entry.2, written, of_decide_eq_true isKey, of_decide_eq_true listed.2, rfl⟩).symm

end Reading

/-- The rows of the last run, read by situation and run. -/
lemma filter_own {before own : List (ℕ × SituationRow)} (order : InOrder (nights ++ [last]))
    (old : before.map Prod.snd = nights.getLast?.elim [] Night.rows) (new : own.map Prod.snd = last.rows) :
    (before ++ own).filter (fun row => row.2.situationCode = code ∧ row.2.runId = last.runId) =
      entriesOf code own := by
  rw [List.filter_append, List.filter_eq_nil_iff.mpr, List.nil_append, entriesOf]
  · refine List.filter_congr fun entry mem => ?_
    have written : entry.2 ∈ last.rows := new ▸ List.mem_map_of_mem mem
    rw [Night.runId_of_mem_rows written, decide_eq_decide]
    exact and_iff_left rfl
  · intro entry mem same
    have written := old ▸ List.mem_map_of_mem (f := Prod.snd) mem
    cases previous : nights.getLast? with
    | none =>
      rw [previous] at written
      cases written
    | some night =>
      rw [previous] at written
      have other := (List.pairwise_append.mp order.runIds).2.2 night (List.mem_of_getLast? previous) last
        (List.mem_singleton_self _)
      exact other ((Night.runId_of_mem_rows written).symm.trans (of_decide_eq_true same).2)

/-- The run's own snapshots are what it found. -/
lemma get?_situationSnapshotsForRun (order : InOrder (nights ++ [last])) :
    (situationSnapshotsForRun (afterNights (nights ++ [last])) code last.runId).get? key =
      last.evaluation code key := by
  obtain ⟨before, own, split, old, new, -⟩ := snapshots_split order
  rw [situationSnapshotsForRun, split, filter_own order old new, get?_ofList_of_key (nodup_entriesOf new),
    find?_entriesOf new]

/-- The snapshots before the run are what the run before it found: of older runs there are none. -/
lemma get?_situationSnapshotsBeforeRun (order : InOrder (nights ++ [last]))
    (evaluated : last.evaluation code key = some active) :
    (situationSnapshotsBeforeRun (afterNights (nights ++ [last])) code last.runId).get? key =
      nights.getLast?.bind fun night => night.evaluation code key := by
  obtain ⟨before, own, split, old, new, ids⟩ := snapshots_split order
  rw [situationSnapshotsBeforeRun, split, filter_own order old new]
  cases least : minBy Prod.fst (entriesOf code own) with
  | none =>
    -- the client fund has a row of its own
    rw [minBy_eq_none] at least
    have nothing : ((entriesOf code own).find? fun entry => entry.2.key = key).map
        (fun entry => entry.2.isActive) = last.evaluation code key := find?_entriesOf new
    rw [least, evaluated] at nothing
    cases nothing
  | some first =>
    have earlier : (before ++ own).filter (fun row => row.2.situationCode = code ∧ row.1 < first.1) =
        entriesOf code before := by
      have own_first := (List.mem_filter.mp (minBy_mem least)).1
      have none_own : own.filter (fun row => row.2.situationCode = code ∧ row.1 < first.1) = [] := by
        refine List.filter_eq_nil_iff.mpr fun entry mem same => ?_
        have later := of_decide_eq_true same
        have least_id := minBy_le least (List.mem_filter.mpr ⟨mem, decide_eq_true later.1⟩)
        exact absurd later.2 (not_lt_of_ge least_id)
      rw [List.filter_append, none_own, List.append_nil, entriesOf]
      refine List.filter_congr fun entry mem => ?_
      rw [decide_eq_decide]
      exact and_iff_left (ids entry mem first own_first)
    dsimp only
    rw [earlier, get?_ofList_distinctOn]
    cases previous : nights.getLast? with
    | none =>
      rw [previous] at old
      rw [List.map_eq_nil_iff.mp old]
      rfl
    | some night =>
      rw [previous] at old
      rw [newestOf_eq_find? (nodup_entriesOf old), find?_entriesOf old]
      rfl

lemma mem_map_fst_filter {κ ν : Type*} [DecidableEq κ] {d : Dict κ ν} {p : κ × ν → Bool} {k : κ} :
    k ∈ (d.items.filter p).map Prod.fst ↔ ∃ v, d.get? k = some v ∧ p (k, v) = true := by
  rw [List.mem_map]
  constructor
  · rintro ⟨⟨k, v⟩, mem, rfl⟩
    exact ⟨v, (Dict.mem_items_iff _).mp (List.mem_filter.mp mem).1, (List.mem_filter.mp mem).2⟩
  · rintro ⟨v, found, holds⟩
    exact ⟨(k, v), List.mem_filter.mpr ⟨(Dict.mem_items_iff _).mpr found, holds⟩, rfl⟩

/-! ## Coherence -/

lemma evaluations_earlier (order : InOrder (nights ++ [last])) {entry : ℤ × Bool}
    (mem : entry ∈ evaluations nights code key) : entry.1 < last.asOf := by
  obtain ⟨night, among, found⟩ := List.mem_filterMap.mp mem
  obtain ⟨active, -, rfl⟩ := Option.map_eq_some_iff.mp found
  exact (List.pairwise_append.mp order.asOf).2.2 night among last (List.mem_singleton_self _)

/-- A streak begins with a run exactly when it is not the streak before it. -/
lemma since_eq_asOf (order : InOrder (nights ++ [last])) {since : ℤ}
    (start : streakStart (evaluations nights code key ++ [(last.asOf, active)]) = some since) :
    (since = last.asOf ↔ lastValue (evaluations nights code key) ≠ some active) ∧
      (since < last.asOf ↔ lastValue (evaluations nights code key) = some active) := by
  rw [streakStart_concat] at start
  split at start
  case isTrue same =>
    obtain ⟨value, mem⟩ := streakStart_mem start
    have earlier := evaluations_earlier order mem
    exact ⟨iff_of_false earlier.ne (not_not_intro same), iff_of_true earlier same⟩
  case isFalse other =>
    cases start
    exact ⟨iff_of_true rfl other, iff_of_false (lt_irrefl _) other⟩

/-- What the run before it found, if it evaluated the client fund, is the last that was found. -/
lemma lastValue_of_getLast?
    (evaluated : (nights.getLast?.bind fun night => night.evaluation code key) = some active) :
    lastValue (evaluations nights code key) = some active := by
  induction nights using List.reverseRecOn with
  | nil => cases evaluated
  | append_singleton nights night _ =>
    rw [List.getLast?_concat, Option.bind_some] at evaluated
    rw [evaluations_concat, evaluated]
    exact lastValue_concat

/-- A client fund evaluated in the last run has the start of its streak as `since`. -/
lemma state_of_evaluation (order : InOrder (nights ++ [last]))
    (evaluated : last.evaluation code key = some active) :
    ∃ state, (afterNights (nights ++ [last])).states.get? (key, code) = some state ∧
      state.isActive = active ∧ streakStart (evaluations (nights ++ [last]) code key) = some state.since := by
  have record : evaluations (nights ++ [last]) code key =
      evaluations nights code key ++ [(last.asOf, active)] := by
    rw [evaluations_concat, evaluated]
    rfl
  have stored := (holds_afterNights order).states code key
  rw [kept_eq] at stored
  cases start : streakStart (evaluations (nights ++ [last]) code key) with
  | none =>
    rw [streakStart_eq_none, record] at start
    cases List.append_ne_nil_of_right_ne_nil _ (List.cons_ne_nil _ _) start
  | some since =>
    rw [start, record, lastValue_concat] at stored
    obtain ⟨state, found, same⟩ := Option.map_eq_some_iff.mp stored
    cases same
    exact ⟨state, found, rfl, rfl⟩

/-- After any sequence of nights, the state of a client fund the last run evaluated is since its streak began,
    and the delta agrees with it but for a client fund the run before did not evaluate. -/
theorem situation_history (nights : List Night) (last : Night) (order : InOrder (nights ++ [last]))
    (code : SituationCode) (key : FundKey) (active : Bool)
    (evaluated : last.evaluation code key = some active) :
    ∃ state, (afterNights (nights ++ [last])).states.get? (key, code) = some state ∧
      state.isActive = active ∧ streakStart (evaluations (nights ++ [last]) code key) = some state.since ∧
      let delta := situationDelta (afterNights (nights ++ [last])) code last.runId
      let before := nights.getLast?.bind fun night => night.evaluation code key
      (key ∈ delta.newlyActive ↔ active = true ∧ (state.since = last.asOf ∨ before = none)) ∧
      (key ∈ delta.persisting ↔ active = true ∧ state.since < last.asOf ∧ before ≠ none) ∧
      (key ∈ delta.newlyInactive ↔ active = false ∧ state.since = last.asOf ∧ before ≠ none) := by
  obtain ⟨state, found, isActive, start⟩ := state_of_evaluation order evaluated
  refine ⟨state, found, isActive, start, ?_⟩
  dsimp only
  rw [evaluations_concat, evaluated] at start
  obtain ⟨begins, goesOn⟩ := since_eq_asOf order start
  have current : (situationSnapshotsForRun (afterNights (nights ++ [last])) code last.runId).get? key =
      last.evaluation code key := get?_situationSnapshotsForRun order
  have previous := get?_situationSnapshotsBeforeRun order evaluated
  rw [evaluated] at current
  simp only [situationDelta, mem_map_fst_filter, current, Option.some.injEq, exists_eq_left', Dict.getD,
    previous, begins, goesOn]
  cases found : nights.getLast?.bind fun night => night.evaluation code key with
  | none => simp
  | some value =>
    rw [lastValue_of_getLast? found]
    cases active <;> cases value <;> simp

/-- A client fund whose contributions shrink, gone for a night. -/
def shrinking : NightTables := { riskFeatures := .ofList [((1, 1), ⟨false, true, "High"⟩)] }

def firstNight : Night := { runId := "first", asOf := 1, startedAt := 1, tables := shrinking }
def nightWithout : Night := { runId := "second", asOf := 2, startedAt := 2 }
def nightAgain : Night := { runId := "third", asOf := 3, startedAt := 3, tables := shrinking }

lemma gone_for_a_night : InOrder ([firstNight, nightWithout] ++ [nightAgain]) :=
  ⟨by decide, by decide, by decide +kernel⟩

theorem situation_history_gone_for_a_night : (1, 1) ∈ (situationDelta
    (afterNights ([firstNight, nightWithout] ++ [nightAgain])) .contributionDecline "third").newlyActive := by
  have evaluated : nightAgain.evaluation .contributionDecline (1, 1) = some true := by decide +kernel
  obtain ⟨state, -, -, -, newlyActive, -⟩ := situation_history [firstNight, nightWithout] nightAgain
    gone_for_a_night .contributionDecline (1, 1) true evaluated
  exact newlyActive.mpr ⟨rfl, .inr (by decide +kernel)⟩

/-- It is newly active again, though its state is since the first night. -/
theorem gone_for_a_night_newly_active :
    let db := afterNights ([firstNight, nightWithout] ++ [nightAgain])
    InOrder ([firstNight, nightWithout] ++ [nightAgain]) ∧
      nightAgain.evaluation .contributionDecline (1, 1) = some true ∧
      (db.states.get? ((1, 1), .contributionDecline)).map ClientSituationState.since = some firstNight.asOf ∧
      firstNight.asOf ≠ nightAgain.asOf ∧
      (1, 1) ∈ (situationDelta db .contributionDecline nightAgain.runId).newlyActive ∧
      (1, 1) ∉ (situationDelta db .contributionDecline nightAgain.runId).persisting :=
  ⟨gone_for_a_night, by decide +kernel⟩

end ClientEngagement.Agents.Situations
