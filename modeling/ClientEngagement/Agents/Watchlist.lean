import ClientEngagement.Agents.Signals
import ClientEngagement.Lib.Grouping

/-!
# The two sources of the watch list

Model of the groups of `agents/watchlist.py` that have two implementations: a filter over the book, and a query
over the situation states. `sources_agree_iff` says when they return the same members after a night: always for
five of them, whatever earlier runs left behind, and for `getting_smaller` unless a client fund of the book has
lost its risk row while its situation was active.
-/

namespace ClientEngagement.Agents.Watchlist
open Situations

structure WatchlistThresholds where
  newClientDays : ℤ
  monthsUntilEmpty : ℚ
  smallBalance : ℚ
  awaitingCallDays : ℤ

structure GroupMember where
  key : FundKey
  balance : ℚ
deriving DecidableEq

abbrev BookRow := FundKey × ActiveClientFund

/-- `_build_group`, of its members. -/
def buildGroup (rows : List BookRow) : List GroupMember :=
  rows.map fun row => ⟨row.1, row.2.balance.getD 0⟩

/-- `_risk_features_join`. -/
def riskFeaturesJoin (tables : Tables) : List (BookRow × ClientRiskFeatures) :=
  tables.book.items.filterMap fun row => (tables.riskFeatures.get? row.1).map fun risk => (row, risk)

/-! ## The filters over the book -/

section Legacy
variable (tables : Tables) (thresholds : WatchlistThresholds) (asOf : ℤ)

def signedUpRecentlyLegacy : List GroupMember :=
  buildGroup (tables.book.items.filter fun row => row.2.nDeposits = 1 ∧
    row.2.firstDepositDate.any fun first => asOf - thresholds.newClientDays ≤ first)

def verySmallAndQuietLegacy : List GroupMember :=
  buildGroup (((riskFeaturesJoin tables).filter fun row =>
    row.1.2.balance.any (· < thresholds.smallBalance) ∧ row.2.sigDormant).map Prod.fst)

def gettingSmallerLegacy : List GroupMember :=
  buildGroup (((riskFeaturesJoin tables).filter fun row => row.2.sigShrinking).map Prod.fst)

def healthyOneFundLegacy : List GroupMember :=
  buildGroup (((riskFeaturesJoin tables).filter fun row =>
    healthyBands.contains row.2.riskBand ∧ fundsHeld tables.book row.1.1.1 = 1).map Prod.fst)

def waitingOnACallLegacy : List GroupMember :=
  buildGroup (tables.book.items.filter fun row =>
    callOverdue tables (callCutoff tables asOf thresholds.awaitingCallDays) row.1)

/-- Raises where a route is not known. -/
def moreUrgentButNotCalledLegacy (runId : Option String) : Option (List GroupMember) :=
  (escalatedKeys tables runId).map fun keys =>
    buildGroup (tables.book.items.filter fun row => keys.contains row.1)

end Legacy

/-! ## The query over the situations -/

/-- `_situation_statement`. -/
def situationStatement (tables : Tables) (db : SituationDb) (code : SituationCode) : List GroupMember :=
  buildGroup (tables.book.items.filter fun row => (db.states.get? (row.1, code)).any ClientSituationState.isActive)

/-- The groups with two implementations. -/
inductive Group where
  | signedUpRecently
  | verySmallAndQuiet
  | gettingSmaller
  | healthyOneFund
  | waitingOnACall
  | moreUrgentButNotCalled

def groupToSituation : Group → SituationCode
  | .signedUpRecently => .newClientSingleDeposit
  | .verySmallAndQuiet => .smallBalanceInactive
  | .gettingSmaller => .contributionDecline
  | .healthyOneFund => .singleFundHealthy
  | .waitingOnACall => .followUpOverdue
  | .moreUrgentButNotCalled => .riskActionGap

def legacy (tables : Tables) (thresholds : WatchlistThresholds) (asOf : ℤ) : Group → Option (List GroupMember)
  | .signedUpRecently => some (signedUpRecentlyLegacy tables thresholds asOf)
  | .verySmallAndQuiet => some (verySmallAndQuietLegacy tables thresholds)
  | .gettingSmaller => some (gettingSmallerLegacy tables)
  | .healthyOneFund => some (healthyOneFundLegacy tables)
  | .waitingOnACall => some (waitingOnACallLegacy tables thresholds asOf)
  | .moreUrgentButNotCalled => moreUrgentButNotCalledLegacy tables none

def fromSituations (tables : Tables) (db : SituationDb) (group : Group) : List GroupMember :=
  situationStatement tables db (groupToSituation group)

def nightTables (tables : Tables) (signals : SignalDb) : NightTables :=
  ⟨signals.states.mapValues ClientSignalState.isActive, tables.riskFeatures⟩

/-- The passes over the situations as they follow the signals of a run. -/
def situationNight (tables : Tables) (signals : SignalDb) (asOf : ℤ) (runId : String) (startedAt : ℤ) :
    Night where
  runId := runId
  asOf := asOf
  startedAt := startedAt
  tables := nightTables tables signals

/-- The signals are cut at the numbers the filters use. -/
structure SameThresholds (signals : SignalThresholds) (watchlist : WatchlistThresholds) : Prop where
  newClientDays : signals.windowDays.map truncated = some watchlist.newClientDays
  smallBalance : signals.smallBalance = watchlist.smallBalance
  awaitingCallDays : signals.awaitingCallDays = watchlist.awaitingCallDays

/-! ## Facts -/

/-- What the facts say of a client fund. -/
def factOf (facts : Facts) (key : FundKey) (code : FactCode) : Option Bool := (facts.getD key .empty).get? code

variable {tables : Tables} {night : NightTables} {facts others : Facts} {key : FundKey} {code : FactCode}
  {codes : List FactCode} {active : Bool}

lemma factOf_signalStateMap : factOf (signalStateMap codes night) key code =
    if code ∈ codes then night.signalStates.get? (key, code) else none := by
  rw [factOf, signalStateMap, getD_foldl_modify, List.filter_filter]
  have bindings := Dict.get?_foldl_set ((night.signalStates.items.filter fun row =>
    decide (row.1.1 = key) && decide (row.1.2 ∈ codes)).map fun row => (row.1.2, row.2)) .empty code
  rw [List.foldl_map, List.filter_map, List.filter_filter, Dict.get?_empty, Option.or_none] at bindings
  refine bindings.trans ?_
  split
  case isTrue asked =>
    have own : night.signalStates.items.filter (fun row => ((fun b : FactCode × Bool => decide (b.1 = code)) ∘
        fun row : (FundKey × FactCode) × Bool => (row.1.2, row.2)) row &&
          (decide (row.1.1 = key) && decide (row.1.2 ∈ codes))) =
        night.signalStates.items.filter fun row => row.1 = (key, code) := by
      refine List.filter_congr fun row _ => ?_
      rw [Bool.eq_iff_iff]
      simp only [Function.comp, Bool.and_eq_true, decide_eq_true_eq, Prod.ext_iff]
      constructor
      · rintro ⟨isCode, isKey, -⟩
        exact ⟨isKey, isCode⟩
      · rintro ⟨isKey, isCode⟩
        exact ⟨isCode, isKey, isCode ▸ asked⟩
    rw [own, filter_items]
    cases night.signalStates.get? (key, code) <;> rfl
  case isFalse unasked =>
    have none_asked : night.signalStates.items.filter (fun row =>
        ((fun b : FactCode × Bool => decide (b.1 = code)) ∘
          fun row : (FundKey × FactCode) × Bool => (row.1.2, row.2)) row &&
            (decide (row.1.1 = key) && decide (row.1.2 ∈ codes))) = [] := by
      refine List.filter_eq_nil_iff.mpr fun row _ same => unasked ?_
      simp only [Function.comp, Bool.and_eq_true, decide_eq_true_eq] at same
      exact same.1 ▸ same.2.2
    rw [none_asked]
    rfl

lemma factOf_signal (stored : night.signalStates.get? (key, code) = some active) (asked : code ∈ codes) :
    factOf (signalStateMap codes night) key code = some active := by
  rw [factOf_signalStateMap, if_pos asked, stored]

lemma mem_keys_signalStateMap (stored : night.signalStates.get? (key, code) = some active) (asked : code ∈ codes) :
    key ∈ (signalStateMap codes night).keys := by
  refine mem_keys_foldl_modify.mpr (.inr ⟨((key, code), active), List.mem_filter.mpr ⟨?_, ?_⟩, rfl⟩)
  · exact (Dict.mem_items_iff _).mpr stored
  · exact decide_eq_true asked

lemma get?_update (values others : Dict FactCode Bool) :
    (update values others).get? code = (others.get? code).or (values.get? code) := by
  rw [update]
  cases found : others.get? code with
  | none =>
    rw [Dict.get?_foldl_set_of_not_mem]
    · rfl
    · exact (Dict.get?_eq_none_iff _).mp found
  | some value => exact Dict.get?_foldl_set_of_mem others.keys_nodup ((Dict.mem_items_iff _).mpr found)

/-- One source merged into what is combined so far. -/
lemma factOf_merged : factOf (others.items.foldl
    (fun combined fund => combined.modify fund.1 .empty (update · fund.2)) facts) key code =
      (factOf others key code).or (factOf facts key code) := by
  have said : factOf others key code = ((others.get? key).getD .empty).get? code := rfl
  rw [said, factOf, getD_foldl_modify, filter_items]
  cases others.get? key with
  | none => rfl
  | some values => exact get?_update _ values

/-- What a later source says goes over what an earlier one did. -/
lemma factOf_combine : factOf (combine [facts, others]) key code =
    (factOf others key code).or (factOf facts key code) := by
  rw [combine, List.foldl_cons, List.foldl_cons, List.foldl_nil, factOf_merged, factOf_merged]
  exact congrArg _ Option.or_none

lemma mem_keys_combine : key ∈ (combine [facts, others]).keys ↔ key ∈ facts.keys ∨ key ∈ others.keys := by
  have listed : ∀ source : Facts, (∃ fund ∈ source.items, fund.1 = key) ↔ key ∈ source.keys :=
    fun source => List.mem_map.symm
  rw [combine, List.foldl_cons, List.foldl_cons, List.foldl_nil, mem_keys_foldl_modify, mem_keys_foldl_modify,
    listed, listed]
  exact or_congr_left (or_iff_right List.not_mem_nil)

lemma factOf_riskSignalMap : factOf (riskSignalMap night) key code =
    (night.riskFeatures.get? key).bind fun row => (Dict.ofList [(FactCode.sigDormant, row.sigDormant),
      (.sigShrinking, row.sigShrinking), (.healthyRiskBand, healthyBands.contains row.riskBand)]).get? code := by
  rw [factOf, riskSignalMap, Dict.getD, Dict.get?_mapValues]
  cases night.riskFeatures.get? key <;> rfl

lemma mem_keys_riskSignalMap : key ∈ (riskSignalMap night).keys ↔ key ∈ night.riskFeatures.keys := by
  rw [Dict.mem_keys_iff, Dict.mem_keys_iff, riskSignalMap, Dict.get?_mapValues]
  cases night.riskFeatures.get? key <;> simp

lemma isActive_iff (situation : Situation) (values : Dict FactCode Bool) : situation.isActive values = true ↔
    (∀ code ∈ situation.requiredCodes, values.getD code false = true) ∧
      ∀ code ∈ situation.excludedCodes, values.getD code false = false := by
  rw [Situation.isActive, Situation.activeCodes, Bool.and_eq_true, decide_eq_true_eq,
    List.length_filter_eq_length_iff, Bool.not_eq_true', List.any_eq_false]
  simp only [Bool.not_eq_true]

/-! ## Situations after a night -/

variable {situationDb : SituationDb} {someNight : Night} {situationCode : SituationCode}

/-- A state is what the night found, or what was left behind. -/
lemma any_isActive_recomputed :
    ((recomputeAllSituations situationDb someNight).states.get? (key, situationCode)).any
      ClientSituationState.isActive =
        (someNight.evaluation situationCode key).getD
          ((situationDb.states.get? (key, situationCode)).any ClientSituationState.isActive) := by
  rw [recomputeAllSituations_eq]
  cases found : someNight.evaluation situationCode key with
  | none =>
    rw [Dict.get?_upsert_of_not_mem]
    · rfl
    · rw [keys_stateRow]
      intro listed
      obtain ⟨row, mem, same⟩ := List.mem_map.mp listed
      cases same
      have written := Night.evaluation_eq_some.mpr ⟨row, mem, rfl, rfl, rfl⟩
      rw [found] at written
      cases written
  | some active =>
    obtain ⟨row, mem, rfl, rfl, rfl⟩ := Night.evaluation_eq_some.mp found
    have written : ((row.key, row.situationCode), (stateRow someNight.asOf row).2) ∈
        someNight.rows.map (stateRow someNight.asOf) := List.mem_map_of_mem mem
    have once : ((someNight.rows.map (stateRow someNight.asOf)).map Prod.fst).Nodup := by
      rw [keys_stateRow]
      exact Night.nodup_rows
    rw [Dict.get?_upsert_of_mem once written]
    cases situationDb.states.get? (row.key, row.situationCode) <;> rfl

/-- A client fund among the facts of a situation is evaluated. -/
lemma evaluated {situation : Situation} (pass : someNight.evaluation situationCode key =
      ((situation.facts someNight.tables).get? key).map situation.isActive)
    (among : key ∈ (situation.facts someNight.tables).keys) : someNight.evaluation situationCode key =
      some (situation.isActive ((situation.facts someNight.tables).getD key .empty)) := by
  obtain ⟨values, found⟩ := (Dict.mem_keys_iff _).mp among
  rw [pass, Dict.getD, found]
  rfl

lemma mem_buildGroup {rows : List BookRow} {member : GroupMember} : member ∈ buildGroup rows ↔
    ∃ row ∈ rows, (⟨row.1, row.2.balance.getD 0⟩ : GroupMember) = member := List.mem_map

lemma mem_joined {p : BookRow × ClientRiskFeatures → Bool} {row : BookRow} :
    row ∈ ((riskFeaturesJoin tables).filter p).map Prod.fst ↔
      row ∈ tables.book.items ∧ ∃ risk, tables.riskFeatures.get? row.1 = some risk ∧ p (row, risk) = true := by
  rw [List.mem_map]
  constructor
  · rintro ⟨⟨joined, risk⟩, mem, rfl⟩
    obtain ⟨listed, holds⟩ := List.mem_filter.mp mem
    obtain ⟨row, inBook, found⟩ := List.mem_filterMap.mp listed
    obtain ⟨other, stored, same⟩ := Option.map_eq_some_iff.mp found
    cases same
    exact ⟨inBook, risk, stored, holds⟩
  · rintro ⟨inBook, risk, stored, holds⟩
    refine ⟨(row, risk), List.mem_filter.mpr ⟨List.mem_filterMap.mpr ⟨row, inBook, ?_⟩, holds⟩, rfl⟩
    rw [stored]
    rfl

/-- Two selections of the book have the same members exactly when they select the same rows. -/
lemma buildGroup_same {rows rows' : List BookRow} (sub : rows ⊆ tables.book.items)
    (sub' : rows' ⊆ tables.book.items) :
    (∀ member, member ∈ buildGroup rows ↔ member ∈ buildGroup rows') ↔ ∀ row, row ∈ rows ↔ row ∈ rows' := by
  have lands : ∀ {rows rows' : List BookRow}, rows ⊆ tables.book.items → rows' ⊆ tables.book.items →
      (∀ member, member ∈ buildGroup rows → member ∈ buildGroup rows') → rows ⊆ rows' := by
    intro rows rows' sub sub' members row mem
    obtain ⟨other, found, same⟩ := mem_buildGroup.mp (members _ (List.mem_map_of_mem mem))
    have key := congrArg GroupMember.key same
    rw [← List.inj_on_of_nodup_map tables.book.nodup (sub' found) (sub mem) key]
    exact found
  constructor
  · intro members row
    exact ⟨fun mem => lands sub sub' (fun member => (members member).mp) mem,
      fun mem => lands sub' sub (fun member => (members member).mpr) mem⟩
  · intro same member
    simp only [mem_buildGroup, same]

/-! ## The groups -/

section Groups
variable {thresholds : SignalThresholds} {watchlist : WatchlistThresholds} {asOf startedAt : ℤ} {runId : String}
  {signals : SignalDb} {windowDays : ℚ} {escalated : List FundKey}

/-- The signals of the book are those of the night. -/
def Signalled (tables : Tables) (thresholds : SignalThresholds) (asOf : ℤ) (windowDays : ℚ)
    (escalated : List FundKey) (signals : SignalDb) : Prop :=
  ∀ key fund code active, tables.book.get? key = some fund →
    (code, active) ∈ signalsOf (signalPasses tables thresholds asOf windowDays escalated) key fund →
    (signals.states.get? (key, code)).map ClientSignalState.isActive = some active

/-- A situation that nothing excludes is what its required facts say. -/
lemma evaluation_of_facts (situation : Situation) (pass : someNight.evaluation situationCode key =
      ((situation.facts someNight.tables).get? key).map situation.isActive)
    (among : key ∈ (situation.facts someNight.tables).keys) (none_excluded : situation.excludedCodes = []) :
    someNight.evaluation situationCode key = some (situation.requiredCodes.all fun code =>
      (factOf (situation.facts someNight.tables) key code).getD false) := by
  rw [evaluated pass among, Option.some.injEq, Bool.eq_iff_iff, isActive_iff, none_excluded, List.all_eq_true]
  exact and_iff_left nofun

variable (signalled : Signalled tables thresholds asOf windowDays escalated signals) {row : BookRow}
  (inBook : row ∈ tables.book.items)
include signalled inBook

lemma Signalled.read
    (written : (code, active) ∈ signalsOf (signalPasses tables thresholds asOf windowDays escalated) row.1 row.2) :
    (nightTables tables signals).signalStates.get? (row.1, code) = some active := by
  rw [nightTables, Dict.get?_mapValues]
  exact signalled row.1 row.2 code active ((Dict.mem_items_iff _).mp inBook) written

lemma Signalled.newClientSingleDeposit :
    (situationNight tables signals asOf runId startedAt).evaluation .newClientSingleDeposit row.1 =
      some (decide (row.2.nDeposits = 1) &&
        row.2.firstDepositDate.any fun first => asOf - truncated windowDays ≤ first) := by
  have single : (nightTables tables signals).signalStates.get? (row.1, .singleDeposit) =
      some (decide (row.2.nDeposits = 1)) := signalled.read inBook (.head _)
  have recent : (nightTables tables signals).signalStates.get? (row.1, .firstDepositRecent) =
      some (row.2.firstDepositDate.any fun first => asOf - truncated windowDays ≤ first) :=
    signalled.read inBook (.tail _ (.head _))
  rw [evaluation_of_facts recomputeNewClientSingleDeposit rfl (mem_keys_signalStateMap single (.head _)) rfl]
  show some ((factOf (signalStateMap _ (nightTables tables signals)) row.1 .singleDeposit).getD false &&
    ((factOf (signalStateMap _ (nightTables tables signals)) row.1 .firstDepositRecent).getD false && true)) = _
  rw [factOf_signal single (.head _), factOf_signal recent (.tail _ (.head _)), Bool.and_true]
  rfl

omit signalled inBook in
/-- A situation of one signal and one flag of the risk row. -/
lemma evaluation_with_risk (situation : Situation) {signal flag : FactCode}
    (pass : (situationNight tables signals asOf runId startedAt).evaluation situationCode row.1 =
      ((situation.facts (nightTables tables signals)).get? row.1).map situation.isActive)
    (reads : situation.facts (nightTables tables signals) =
      combine [signalStateMap [signal] (nightTables tables signals), riskSignalMap (nightTables tables signals)])
    (requires : situation.requiredCodes = [signal, flag]) (none_excluded : situation.excludedCodes = [])
    (stored : (nightTables tables signals).signalStates.get? (row.1, signal) = some active)
    (not_signal : flag ≠ signal)
    (not_risk : factOf (riskSignalMap (nightTables tables signals)) row.1 signal = none) :
    (situationNight tables signals asOf runId startedAt).evaluation situationCode row.1 =
      some (active && (factOf (riskSignalMap (nightTables tables signals)) row.1 flag).getD false) := by
  have among : row.1 ∈ (situation.facts (nightTables tables signals)).keys := by
    rw [reads]
    exact mem_keys_combine.mpr (.inl (mem_keys_signalStateMap stored (.head _)))
  have signal_fact : factOf (situation.facts (nightTables tables signals)) row.1 signal = some active := by
    rw [reads, factOf_combine, not_risk, factOf_signal stored (.head _)]
    rfl
  have risk_fact : factOf (situation.facts (nightTables tables signals)) row.1 flag =
      factOf (riskSignalMap (nightTables tables signals)) row.1 flag := by
    rw [reads, factOf_combine, factOf_signalStateMap, if_neg (by simpa using not_signal), Option.or_none]
  rw [evaluation_of_facts situation pass among none_excluded, requires]
  show some ((factOf (situation.facts (nightTables tables signals)) row.1 signal).getD false &&
    ((factOf (situation.facts (nightTables tables signals)) row.1 flag).getD false && true)) = _
  rw [signal_fact, risk_fact, Bool.and_true]
  rfl

omit signalled inBook in
lemma factOf_risk_none (not_risk : code ∉ [FactCode.sigDormant, .sigShrinking, .healthyRiskBand]) :
    factOf (riskSignalMap (nightTables tables signals)) row.1 code = none := by
  rw [factOf_riskSignalMap]
  cases (nightTables tables signals).riskFeatures.get? row.1 with
  | none => rfl
  | some risk =>
    refine (Dict.get?_eq_none_iff _).mpr ?_
    rw [Dict.keys_ofList (by simp)]
    exact not_risk

lemma Signalled.smallBalanceInactive :
    (situationNight tables signals asOf runId startedAt).evaluation .smallBalanceInactive row.1 =
      some (row.2.balance.any (· < thresholds.smallBalance) &&
        (tables.riskFeatures.get? row.1).any ClientRiskFeatures.sigDormant) := by
  have small : (nightTables tables signals).signalStates.get? (row.1, .smallBalance) =
      some (row.2.balance.any (· < thresholds.smallBalance)) :=
    signalled.read inBook (.tail _ (.tail _ (.tail _ (.head _))))
  rw [evaluation_with_risk recomputeSmallBalanceInactive rfl rfl rfl rfl small (by decide)
    (factOf_risk_none (by decide)), factOf_riskSignalMap]
  show some (_ && ((tables.riskFeatures.get? row.1).bind _).getD false) = _
  cases tables.riskFeatures.get? row.1 <;> rfl

lemma Signalled.singleFundHealthy :
    (situationNight tables signals asOf runId startedAt).evaluation .singleFundHealthy row.1 =
      some (decide (fundsHeld tables.book row.1.1 = 1) &&
        (tables.riskFeatures.get? row.1).any fun risk => healthyBands.contains risk.riskBand) := by
  have single : (nightTables tables signals).signalStates.get? (row.1, .singleFundHeld) =
      some (decide (fundsHeld tables.book row.1.1 = 1)) :=
    signalled.read inBook (.tail _ (.tail _ (.tail _ (.tail _ (.head _)))))
  rw [evaluation_with_risk recomputeSingleFundHealthy rfl rfl rfl rfl single (by decide)
    (factOf_risk_none (by decide)), factOf_riskSignalMap]
  show some (_ && ((tables.riskFeatures.get? row.1).bind _).getD false) = _
  cases tables.riskFeatures.get? row.1 <;> rfl

lemma Signalled.followUpOverdue :
    (situationNight tables signals asOf runId startedAt).evaluation .followUpOverdue row.1 =
      some (callOverdue tables (callCutoff tables asOf thresholds.awaitingCallDays) row.1) := by
  have overdue : (nightTables tables signals).signalStates.get? (row.1, .callFollowUpOverdue) =
      some ((tables.book.keys.filter
        (callOverdue tables (callCutoff tables asOf thresholds.awaitingCallDays))).contains row.1) :=
    signalled.read inBook (.tail _ (.tail _ (.tail _ (.tail _ (.tail _ (.head _))))))
  rw [evaluation_of_facts recomputeFollowUpOverdue rfl (mem_keys_signalStateMap overdue (.head _)) rfl]
  show some ((factOf (signalStateMap _ (nightTables tables signals)) row.1 .callFollowUpOverdue).getD false &&
    true) = _
  have listed : row.1 ∈ tables.book.keys := List.mem_map_of_mem inBook
  rw [factOf_signal overdue (.head _), Bool.and_true, Option.getD_some, Option.some.injEq, Bool.eq_iff_iff,
    List.contains_iff_mem, List.mem_filter]
  exact and_iff_right listed

lemma Signalled.riskActionGap :
    (situationNight tables signals asOf runId startedAt).evaluation .riskActionGap row.1 =
      some (escalated.contains row.1) := by
  have moved : (nightTables tables signals).signalStates.get? (row.1, .routeEscalatedThisRun) =
      some (escalated.contains row.1) :=
    signalled.read inBook (.tail _ (.tail _ (.tail _ (.tail _ (.tail _ (.tail _ (.head _)))))))
  rw [evaluation_of_facts recomputeRiskActionGap rfl (mem_keys_signalStateMap moved (.head _)) rfl]
  show some ((factOf (signalStateMap _ (nightTables tables signals)) row.1 .routeEscalatedThisRun).getD false &&
    true) = _
  rw [factOf_signal moved (.head _), Bool.and_true]
  rfl

omit signalled inBook in
/-- Where there is no risk row, nothing is found. -/
lemma evaluation_contributionDecline :
    (situationNight tables signals asOf runId startedAt).evaluation .contributionDecline row.1 =
      (tables.riskFeatures.get? row.1).map ClientRiskFeatures.sigShrinking := by
  cases stored : tables.riskFeatures.get? row.1 with
  | none =>
    show Option.map _ ((riskSignalMap (nightTables tables signals)).get? row.1) = none
    rw [riskSignalMap, Dict.get?_mapValues]
    show Option.map _ (Option.map _ (tables.riskFeatures.get? row.1)) = none
    rw [stored]
    rfl
  | some risk =>
    have among : row.1 ∈ (riskSignalMap (nightTables tables signals)).keys :=
      mem_keys_riskSignalMap.mpr ((Dict.mem_keys_iff _).mpr ⟨risk, stored⟩)
    rw [evaluation_of_facts recomputeContributionDecline rfl among rfl]
    show some ((factOf (riskSignalMap (nightTables tables signals)) row.1 .sigShrinking).getD false && true) = _
    rw [factOf_riskSignalMap, Bool.and_true]
    show some (((tables.riskFeatures.get? row.1).bind _).getD false) = _
    rw [stored]
    rfl

end Groups

lemma escalatedKeys_latest : escalatedKeys tables (latestCompletedRunId tables.riskRuns) =
    escalatedKeys tables none := by
  rw [escalatedKeys, escalatedKeys, Option.or_self, Option.none_or]

lemma mem_situationStatement_rows {row : BookRow} : row ∈ tables.book.items.filter
    (fun row => ((recomputeAllSituations situationDb someNight).states.get? (row.1, situationCode)).any
      ClientSituationState.isActive) ↔ row ∈ tables.book.items ∧
        (someNight.evaluation situationCode row.1).getD
          ((situationDb.states.get? (row.1, situationCode)).any ClientSituationState.isActive) = true := by
  rw [List.mem_filter, any_isActive_recomputed]

/-- A group has the members of its situation when the filter says of each row what the night found. -/
lemma agrees_of_evaluation {rows : List BookRow} {p : BookRow → Bool}
    (selects : ∀ row, row ∈ rows ↔ row ∈ tables.book.items ∧ p row = true)
    (found : ∀ row ∈ tables.book.items, someNight.evaluation situationCode row.1 = some (p row))
    (member : GroupMember) : member ∈ buildGroup rows ↔
      member ∈ situationStatement tables (recomputeAllSituations situationDb someNight) situationCode := by
  rw [situationStatement, mem_buildGroup, mem_buildGroup]
  have same : ∀ row, row ∈ rows ↔ row ∈ tables.book.items.filter
      (fun row => ((recomputeAllSituations situationDb someNight).states.get? (row.1, situationCode)).any
        ClientSituationState.isActive) := by
    intro row
    rw [selects, mem_situationStatement_rows]
    refine and_congr_right fun inBook => ?_
    rw [found row inBook, Option.getD_some]
  simp only [same]

/-- The filter and the query of `getting_smaller` differ where there is no risk row. -/
lemma gettingSmaller_iff {signals : SignalDb} {asOf startedAt : ℤ} {runId : String} :
    (∀ member, member ∈ gettingSmallerLegacy tables ↔ member ∈ situationStatement tables
      (recomputeAllSituations situationDb (situationNight tables signals asOf runId startedAt))
        .contributionDecline) ↔
    ∀ key ∈ tables.book.keys, tables.riskFeatures.get? key = none →
      (situationDb.states.get? (key, .contributionDecline)).any ClientSituationState.isActive = false := by
  have joined : ((riskFeaturesJoin tables).filter fun row => row.2.sigShrinking).map Prod.fst ⊆
      tables.book.items := fun row mem => (mem_joined.mp mem).1
  rw [gettingSmallerLegacy, situationStatement, buildGroup_same joined List.filter_sublist.subset]
  constructor
  · intro agree key listed no_risk
    obtain ⟨row, inBook, rfl⟩ := List.mem_map.mp listed
    by_contra active
    have queried := (agree row).mpr (mem_situationStatement_rows.mpr ⟨inBook, ?_⟩)
    · obtain ⟨-, risk, stored, -⟩ := mem_joined.mp queried
      rw [no_risk] at stored
      cases stored
    · rw [evaluation_contributionDecline, no_risk, Option.map_none, Option.getD_none]
      exact Bool.eq_true_of_not_eq_false active
  · intro none_left row
    rw [mem_joined, mem_situationStatement_rows, evaluation_contributionDecline]
    refine and_congr_right fun inBook => ?_
    cases stored : tables.riskFeatures.get? row.1 with
    | none =>
      rw [Option.map_none, Option.getD_none, none_left row.1 (List.mem_map_of_mem inBook) stored]
      exact iff_of_false nofun Bool.false_ne_true
    | some risk =>
      rw [Option.map_some, Option.getD_some]
      exact ⟨fun ⟨_, same, shrinks⟩ => Option.some.inj same ▸ shrinks, fun shrinks => ⟨risk, rfl, shrinks⟩⟩

/-- After a night the two sources of the watch list agree, exactly when no client fund of the book that has no
    risk row was left with an active `contribution_decline`. -/
theorem sources_agree_iff (tables : Tables) (thresholds : SignalThresholds) (watchlist : WatchlistThresholds)
    (asOf startedAt : ℤ) (runId : String) (before signals : SignalDb) (situationDb : SituationDb)
    (same : SameThresholds thresholds watchlist)
    (ran : recomputeAllSignals tables thresholds asOf runId (latestCompletedRunId tables.riskRuns) before =
      some signals) :
    (∀ group, ∃ members, legacy tables watchlist asOf group = some members ∧
      ∀ member, member ∈ members ↔ member ∈ fromSituations tables (recomputeAllSituations situationDb
        (situationNight tables signals asOf runId startedAt)) group) ↔
    ∀ key ∈ tables.book.keys, tables.riskFeatures.get? key = none →
      (situationDb.states.get? (key, .contributionDecline)).any ClientSituationState.isActive = false := by
  obtain ⟨windowDays, escalated, inForce, moved, signalled⟩ := signal_of_book ran
  constructor
  · intro agree
    obtain ⟨members, is, same_members⟩ := agree .gettingSmaller
    cases is
    exact gettingSmaller_iff.mp same_members
  · intro none_left group
    cases group with
    | signedUpRecently =>
      have window : truncated windowDays = watchlist.newClientDays := by
        have days := same.newClientDays
        rw [inForce] at days
        exact Option.some.inj days
      refine ⟨_, rfl, agrees_of_evaluation (fun row => ?_) fun row inBook =>
        Signalled.newClientSingleDeposit signalled inBook⟩
      rw [List.mem_filter, Bool.decide_and, Bool.decide_coe, window]
    | verySmallAndQuiet =>
      refine ⟨_, rfl, agrees_of_evaluation (fun row => ?_) fun row inBook =>
        Signalled.smallBalanceInactive signalled inBook⟩
      rw [mem_joined, same.smallBalance]
      refine and_congr_right fun _ => ?_
      cases tables.riskFeatures.get? row.1 <;> simp
    | gettingSmaller => exact ⟨_, rfl, gettingSmaller_iff.mpr none_left⟩
    | healthyOneFund =>
      refine ⟨_, rfl, agrees_of_evaluation (fun row => ?_) fun row inBook =>
        Signalled.singleFundHealthy signalled inBook⟩
      rw [mem_joined]
      refine and_congr_right fun _ => ?_
      cases tables.riskFeatures.get? row.1 <;> simp [and_comm]
    | waitingOnACall =>
      refine ⟨_, rfl, agrees_of_evaluation (fun row => ?_) fun row inBook =>
        Signalled.followUpOverdue signalled inBook⟩
      rw [List.mem_filter, same.awaitingCallDays]
    | moreUrgentButNotCalled =>
      rw [escalatedKeys_latest] at moved
      refine ⟨buildGroup (tables.book.items.filter fun row => escalated.contains row.1), ?_,
        agrees_of_evaluation (fun row => List.mem_filter) fun row inBook =>
          Signalled.riskActionGap signalled inBook⟩
      rw [legacy, moreUrgentButNotCalledLegacy, moved]
      rfl

/-- A client fund whose contributions shrank, before and after its risk row is gone. -/
def scored : Tables where
  book := .ofList [((1, 1), { balance := some 500, nDeposits := 5 })]
  riskFeatures := .ofList [((1, 1), ⟨false, true, "Watch"⟩)]

def unscored : Tables := { scored with riskFeatures := .empty }

def someThresholds : SignalThresholds :=
  { windowDays := some 30, monthsUntilEmpty := 6, smallBalance := 100, awaitingCallDays := 2 }

def someWatchlist : WatchlistThresholds :=
  { newClientDays := 30, monthsUntilEmpty := 6, smallBalance := 100, awaitingCallDays := 2 }

/-- What the night before left. -/
def leftBehind : SituationDb := recomputeAllSituations {} (situationNight scored {} 1 "first" 1)

def recomputed : SignalDb := ((recomputeAllSignals unscored someThresholds 2 "second" none {}).getD {})

lemma recomputed_ran : recomputeAllSignals unscored someThresholds 2 "second"
    (latestCompletedRunId unscored.riskRuns) {} = some recomputed := by
  rfl

theorem sources_agree_iff_unscored : ¬ ∀ group, ∃ members,
    legacy unscored someWatchlist 2 group = some members ∧ ∀ member, member ∈ members ↔
      member ∈ fromSituations unscored (recomputeAllSituations leftBehind
        (situationNight unscored recomputed 2 "second" 2)) group := by
  have same : SameThresholds someThresholds someWatchlist := ⟨by decide +kernel, rfl, rfl⟩
  rw [sources_agree_iff unscored someThresholds someWatchlist 2 2 "second" {} recomputed leftBehind same
    recomputed_ran]
  intro none_left
  have left : (leftBehind.states.get? ((1, 1), .contributionDecline)).any
      ClientSituationState.isActive = true := by
    decide +kernel
  have inactive := none_left (1, 1) (by decide +kernel) rfl
  rw [left] at inactive
  cases inactive

/-- By the filter nobody, by the query the client fund that has lost its risk row. -/
theorem getting_smaller_unscored :
    SameThresholds someThresholds someWatchlist ∧
    recomputeAllSignals unscored someThresholds 2 "second" (latestCompletedRunId unscored.riskRuns) {} =
      some recomputed ∧
    legacy unscored someWatchlist 2 .gettingSmaller = some [] ∧
    fromSituations unscored (recomputeAllSituations leftBehind (situationNight unscored recomputed 2 "second" 2))
      .gettingSmaller = [⟨(1, 1), 500⟩] := by
  refine ⟨⟨by decide +kernel, rfl, rfl⟩, rfl, rfl, by decide +kernel⟩

end ClientEngagement.Agents.Watchlist
