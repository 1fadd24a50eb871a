import ClientEngagement.Agents.Watchlist
import ClientEngagement.Lib.MapM
import ClientEngagement.Watchlist.Consolidation

/-!
# Testing a scenario

Model of `matched_situations` and `consolidation_winner` (`agents/scenario_studio.py`), which write the rules of
the watch list over plain numbers, and of `build_watchlist` for both sources of its groups. A client fund's own
numbers are the scenario `scenarioOf`: tested, it is in the groups the watch list holds it in, unless its call has
been waited for exactly as long as the threshold says (`scenario_seen_iff`).
-/

namespace ClientEngagement.Agents.Scenario
open Situations (FundKey SituationCode SituationDb ClientRiskFeatures ClientSituationState FactCode Situation
  healthyBands recomputeAllSituations riskSignalMap signalStateMap recomputeFeePressureGoneQuiet
  recomputeFeePressureActiveContributor)
open ClientEngagement.Agents.Watchlist
open ClientEngagement.Watchlist (GroupName WatchGroup groupNames situationPriority situationWinners firstHolding
  get?_situationWinners mem_buildWatchlist)

/-! ## The watch list -/

/-- `signal_situation_source`. -/
inductive SituationSource where
  | legacy
  | situations

section Watchlist

variable (source : SituationSource) (tables : Tables) (db : SituationDb) (thresholds : WatchlistThresholds) (asOf : ℤ)

/-- A group with two implementations. -/
def sourced (group : Group) : Option (List Watchlist.GroupMember) :=
  match source with
  | .legacy => legacy tables thresholds asOf group
  | .situations => some (fromSituations tables db group)

/-- `GROUP_FILTERS`; a route that is not known raises. -/
def groupFilters : GroupName → Option (List Watchlist.GroupMember)
  | .signedUpRecently => sourced source tables db thresholds asOf .signedUpRecently
  | .feePressureGoneQuiet => some (situationStatement tables db .feePressureGoneQuiet)
  | .feePressureActiveContributor => some (situationStatement tables db .feePressureActiveContributor)
  | .verySmallAndQuiet => sourced source tables db thresholds asOf .verySmallAndQuiet
  | .gettingSmaller => sourced source tables db thresholds asOf .gettingSmaller
  | .healthyOneFund => sourced source tables db thresholds asOf .healthyOneFund
  | .waitingOnACall => sourced source tables db thresholds asOf .waitingOnACall
  | .moreUrgentButNotCalled => sourced source tables db thresholds asOf .moreUrgentButNotCalled

def groupMember (member : Watchlist.GroupMember) : GroupMember := ⟨member.key.1, member.key.2, member.balance⟩

def buildWatchlist : Option (List WatchGroup) :=
  groupNames.mapM fun name =>
    (groupFilters source tables db thresholds asOf name).map fun members => ⟨name, members.map groupMember⟩

end Watchlist

/-! ## Scenarios -/

structure ScenarioInput where
  balance : ℚ
  nDeposits : ℤ := 1
  firstDepositDaysAgo : Option ℤ := none
  monthsUntilEmpty : Option ℚ := none
  sigDormant : Bool := false
  sigShrinking : Bool := false
  riskBand : String := "Watch"
  fundsHeld : ℕ := 1
  daysSinceCallFlagged : Option ℤ := none
  callLoggedSinceFlagged : Bool := false
  routeMovedMoreUrgent : Bool := false
  onCallList : Bool := false

def matchedSituations (scenario : ScenarioInput) (thresholds : WatchlistThresholds) : List GroupName :=
  (if scenario.nDeposits = 1 ∧ scenario.firstDepositDaysAgo.any (· ≤ thresholds.newClientDays) then
    [.signedUpRecently] else []) ++
  (if scenario.monthsUntilEmpty.any (· < thresholds.monthsUntilEmpty) ∧ 0 < scenario.balance then
    if scenario.sigDormant then [.feePressureGoneQuiet] else [.feePressureActiveContributor] else []) ++
  (if scenario.balance < thresholds.smallBalance ∧ scenario.sigDormant then [.verySmallAndQuiet] else []) ++
  (if scenario.sigShrinking then [.gettingSmaller] else []) ++
  (if healthyBands.contains scenario.riskBand ∧ scenario.fundsHeld = 1 then [.healthyOneFund] else []) ++
  (if scenario.daysSinceCallFlagged.any (thresholds.awaitingCallDays ≤ ·) ∧ ¬scenario.callLoggedSinceFlagged then
    [.waitingOnACall] else []) ++
  (if scenario.routeMovedMoreUrgent ∧ ¬scenario.onCallList then [.moreUrgentButNotCalled] else [])

def consolidationWinner (matched : List GroupName) : Option GroupName := situationPriority.find? (· ∈ matched)

/-! ## The scenario of a client fund -/

/-- The oldest digest that put the client fund on a call list with nothing logged since. -/
def oldestFlag (tables : Tables) (key : FundKey) : Option ℤ :=
  ((tables.digestLines.filterMap fun line =>
    if line.key = key ∧ line.inCallQueue then tables.digestRuns.get? line.digestRunId else none).filter
      fun generatedAt => !tables.interactions.any fun logged => logged.key = key ∧ generatedAt ≤ logged.createdAt).min?

/-- The client fund's route in the latest run, and the one before it. -/
def routesOf (tables : Tables) (key : FundKey) : Option (String × Option String) :=
  (latestCompletedRunId tables.riskRuns).bind fun runId =>
    ((routesForRun tables.riskSnapshots runId).get? key).join.map fun route =>
      (route, ((Risk.routesBeforeRun tables.riskSnapshots runId).get? key).join)

/-- The numbers of a client fund, where `dayOf` is the date of a time. -/
def scenarioOf (tables : Tables) (dayOf : ℤ → ℤ) (asOf : ℤ) (key : FundKey) (fund : ActiveClientFund) (balance : ℚ)
    (risk : ClientRiskFeatures) : ScenarioInput where
  balance := balance
  nDeposits := fund.nDeposits
  firstDepositDaysAgo := fund.firstDepositDate.map (asOf - ·)
  monthsUntilEmpty := fund.monthsUntilEmpty
  sigDormant := risk.sigDormant
  sigShrinking := risk.sigShrinking
  riskBand := risk.riskBand
  fundsHeld := fundsHeld tables.book key.1
  daysSinceCallFlagged := (oldestFlag tables key).map fun generatedAt => asOf - dayOf generatedAt
  routeMovedMoreUrgent := (routesOf tables key).any fun (route, before) =>
    routeDirection before route = some (some .moreUrgent)
  onCallList := (routesOf tables key).any fun (route, _) => route = callListRoute

/-- A tested scenario is in the groups that hold the client fund, and the same group wins. -/
structure AsSeen (matched : List GroupName) (groups : List WatchGroup) (key : FundKey) : Prop where
  names : ∀ name, name ∈ matched ↔ ∃ group ∈ groups, group.name = name ∧ ∃ member ∈ group.members, member.key = key
  winner : consolidationWinner matched = (situationWinners groups).get? key

/-! ## What the watch list says of a client fund -/

section Rows

variable {tables : Tables} {thresholds : WatchlistThresholds} {asOf startedAt : ℤ} {runId : String}
  {signals : SignalDb} {situationDb : SituationDb} {signalThresholds : SignalThresholds} {windowDays : ℚ}
  {escalated : List FundKey} {key : FundKey} {fund : ActiveClientFund} {balance : ℚ} {risk : ClientRiskFeatures}
  {name : GroupName}

/-- The rule of each group, over the rows of one client fund. -/
def holdsFund (tables : Tables) (thresholds : WatchlistThresholds) (asOf : ℤ) (escalated : List FundKey)
    (key : FundKey) (fund : ActiveClientFund) (risk : ClientRiskFeatures) : GroupName → Bool
  | .signedUpRecently => decide (fund.nDeposits = 1) &&
      fund.firstDepositDate.any fun first => asOf - thresholds.newClientDays ≤ first
  | .feePressureGoneQuiet => fund.monthsUntilEmpty.any (· < thresholds.monthsUntilEmpty) &&
      decide (0 < fund.balance.getD 0) && risk.sigDormant
  | .feePressureActiveContributor => fund.monthsUntilEmpty.any (· < thresholds.monthsUntilEmpty) &&
      decide (0 < fund.balance.getD 0) && !risk.sigDormant
  | .verySmallAndQuiet => fund.balance.any (· < thresholds.smallBalance) && risk.sigDormant
  | .gettingSmaller => risk.sigShrinking
  | .healthyOneFund => decide (fundsHeld tables.book key.1 = 1) && healthyBands.contains risk.riskBand
  | .waitingOnACall => callOverdue tables (callCutoff tables asOf thresholds.awaitingCallDays) key
  | .moreUrgentButNotCalled => escalated.contains key

/-- A selection of the book holds a client fund when its row is selected. -/
lemma holds_buildGroup {rows : List BookRow} (sub : rows ⊆ tables.book.items)
    (inBook : tables.book.get? key = some fund) :
    (∃ member ∈ buildGroup rows, member.key = key) ↔ (key, fund) ∈ rows := by
  constructor
  · rintro ⟨member, mem, same⟩
    obtain ⟨⟨key', fund'⟩, here, rfl⟩ := mem_buildGroup.mp mem
    have stored := (Dict.mem_items_iff _).mp (sub here)
    obtain rfl : key' = key := same
    rw [inBook] at stored
    cases stored
    exact here
  · intro here
    exact ⟨_, mem_buildGroup.mpr ⟨_, here, rfl⟩, rfl⟩

/-- The situation of a group. -/
def situationOf : GroupName → SituationCode
  | .signedUpRecently => .newClientSingleDeposit
  | .feePressureGoneQuiet => .feePressureGoneQuiet
  | .feePressureActiveContributor => .feePressureActiveContributor
  | .verySmallAndQuiet => .smallBalanceInactive
  | .gettingSmaller => .contributionDecline
  | .healthyOneFund => .singleFundHealthy
  | .waitingOnACall => .followUpOverdue
  | .moreUrgentButNotCalled => .riskActionGap

section Night

variable (signalled : Signalled tables signalThresholds asOf windowDays escalated signals) {row : BookRow}
  (inBook : row ∈ tables.book.items)
include signalled inBook

lemma feePressure_read : (nightTables tables signals).signalStates.get? (row.1, .feePressureClose) =
    some (row.2.monthsUntilEmpty.any (· < signalThresholds.monthsUntilEmpty) && decide (0 < row.2.balance.getD 0)) :=
  signalled.read inBook (.tail _ (.tail _ (.head _)))

lemma evaluation_feePressureGoneQuiet :
    (situationNight tables signals asOf runId startedAt).evaluation .feePressureGoneQuiet row.1 =
      some ((row.2.monthsUntilEmpty.any (· < signalThresholds.monthsUntilEmpty) &&
        decide (0 < row.2.balance.getD 0)) &&
          (tables.riskFeatures.get? row.1).any ClientRiskFeatures.sigDormant) := by
  rw [evaluation_with_risk recomputeFeePressureGoneQuiet rfl rfl rfl rfl (feePressure_read signalled inBook)
    (by decide) (factOf_risk_none (by decide)), factOf_riskSignalMap]
  show some (_ && ((tables.riskFeatures.get? row.1).bind _).getD false) = _
  cases tables.riskFeatures.get? row.1 <;> rfl

lemma evaluation_feePressureActiveContributor :
    (situationNight tables signals asOf runId startedAt).evaluation .feePressureActiveContributor row.1 =
      some ((row.2.monthsUntilEmpty.any (· < signalThresholds.monthsUntilEmpty) &&
        decide (0 < row.2.balance.getD 0)) &&
          !(tables.riskFeatures.get? row.1).any ClientRiskFeatures.sigDormant) := by
  have stored := feePressure_read signalled inBook
  have among : row.1 ∈ (recomputeFeePressureActiveContributor.facts (nightTables tables signals)).keys :=
    mem_keys_combine.mpr (.inl (mem_keys_signalStateMap stored (.head _)))
  have close : factOf (recomputeFeePressureActiveContributor.facts (nightTables tables signals)) row.1
      .feePressureClose = some (row.2.monthsUntilEmpty.any (· < signalThresholds.monthsUntilEmpty) &&
        decide (0 < row.2.balance.getD 0)) := by
    rw [recomputeFeePressureActiveContributor, factOf_combine, factOf_risk_none (by decide),
      factOf_signal stored (.head _)]
    rfl
  have dormant : (factOf (recomputeFeePressureActiveContributor.facts (nightTables tables signals)) row.1
      .sigDormant).getD false = (tables.riskFeatures.get? row.1).any ClientRiskFeatures.sigDormant := by
    rw [recomputeFeePressureActiveContributor, factOf_combine, factOf_signalStateMap, if_neg (by decide),
      Option.or_none, factOf_riskSignalMap]
    show ((tables.riskFeatures.get? row.1).bind _).getD false = _
    cases tables.riskFeatures.get? row.1 <;> rfl
  have pass : (situationNight tables signals asOf runId startedAt).evaluation .feePressureActiveContributor row.1 =
      ((recomputeFeePressureActiveContributor.facts (nightTables tables signals)).get? row.1).map
        recomputeFeePressureActiveContributor.isActive := rfl
  rw [evaluated pass among, Option.some.injEq, Bool.eq_iff_iff, isActive_iff, Bool.and_eq_true,
    Bool.not_eq_true', ← dormant]
  show (∀ code ∈ [FactCode.feePressureClose],
      (factOf (recomputeFeePressureActiveContributor.facts (nightTables tables signals)) row.1 code).getD false =
        true) ∧ (∀ code ∈ [FactCode.sigDormant],
      (factOf (recomputeFeePressureActiveContributor.facts (nightTables tables signals)) row.1 code).getD false =
        false) ↔ _
  rw [List.forall_mem_singleton, List.forall_mem_singleton, close, Option.getD_some]

variable (same : SameThresholds signalThresholds thresholds) (inForce : signalThresholds.windowDays = some windowDays)
  (months : signalThresholds.monthsUntilEmpty = thresholds.monthsUntilEmpty)
  (scored : tables.riskFeatures.get? row.1 = some risk)
include same inForce months scored

/-- The night finds of a scored client fund what the rules say. -/
lemma evaluation_situationOf (name : GroupName) :
    (situationNight tables signals asOf runId startedAt).evaluation (situationOf name) row.1 =
      some (holdsFund tables thresholds asOf escalated row.1 row.2 risk name) := by
  have window : truncated windowDays = thresholds.newClientDays := by
    have days := same.newClientDays
    rw [inForce] at days
    exact Option.some.inj days
  cases name with
  | signedUpRecently =>
    rw [situationOf, signalled.newClientSingleDeposit inBook, window]
    rfl
  | feePressureGoneQuiet =>
    rw [situationOf, evaluation_feePressureGoneQuiet signalled inBook, scored, months]
    rfl
  | feePressureActiveContributor =>
    rw [situationOf, evaluation_feePressureActiveContributor signalled inBook, scored, months]
    rfl
  | verySmallAndQuiet =>
    rw [situationOf, signalled.smallBalanceInactive inBook, scored, same.smallBalance]
    rfl
  | gettingSmaller =>
    rw [situationOf, evaluation_contributionDecline, scored]
    rfl
  | healthyOneFund =>
    rw [situationOf, signalled.singleFundHealthy inBook, scored]
    rfl
  | waitingOnACall =>
    rw [situationOf, signalled.followUpOverdue inBook, same.awaitingCallDays]
    rfl
  | moreUrgentButNotCalled =>
    rw [situationOf, signalled.riskActionGap inBook]
    rfl

end Night

/-! ## The groups that hold a client fund -/

lemma holds_legacy_joined {p : BookRow × ClientRiskFeatures → Bool} (inBook : tables.book.get? key = some fund)
    (scored : tables.riskFeatures.get? key = some risk) :
    (∃ member ∈ buildGroup (((riskFeaturesJoin tables).filter p).map Prod.fst), member.key = key) ↔
      p ((key, fund), risk) = true := by
  rw [holds_buildGroup (fun row mem => (mem_joined.mp mem).1) inBook, mem_joined]
  constructor
  · rintro ⟨-, other, stored, holds⟩
    rw [scored] at stored
    cases stored
    exact holds
  · intro holds
    exact ⟨(Dict.mem_items_iff _).mpr inBook, risk, scored, holds⟩

lemma holds_legacy_filter {p : BookRow → Bool} (inBook : tables.book.get? key = some fund) :
    (∃ member ∈ buildGroup (tables.book.items.filter p), member.key = key) ↔ p (key, fund) = true := by
  rw [holds_buildGroup List.filter_sublist.subset inBook, List.mem_filter]
  exact and_iff_right ((Dict.mem_items_iff _).mpr inBook)

/-- The name of a group with two implementations. -/
def nameOf : Group → GroupName
  | .signedUpRecently => .signedUpRecently
  | .verySmallAndQuiet => .verySmallAndQuiet
  | .gettingSmaller => .gettingSmaller
  | .healthyOneFund => .healthyOneFund
  | .waitingOnACall => .waitingOnACall
  | .moreUrgentButNotCalled => .moreUrgentButNotCalled

/-- The filters hold the client funds that meet the rules. -/
lemma holds_legacy (inBook : tables.book.get? key = some fund) (scored : tables.riskFeatures.get? key = some risk)
    (moved : escalatedKeys tables none = some escalated) (group : Group) :
    ∃ members, legacy tables thresholds asOf group = some members ∧
      ((∃ member ∈ members, member.key = key) ↔
        holdsFund tables thresholds asOf escalated key fund risk (nameOf group) = true) := by
  cases group with
  | signedUpRecently =>
    refine ⟨_, rfl, (holds_legacy_filter inBook).trans ?_⟩
    rw [Bool.decide_and, Bool.decide_coe]
    rfl
  | verySmallAndQuiet =>
    refine ⟨_, rfl, (holds_legacy_joined inBook scored).trans ?_⟩
    rw [Bool.decide_and, Bool.decide_coe, Bool.decide_coe]
    rfl
  | gettingSmaller => exact ⟨_, rfl, holds_legacy_joined inBook scored⟩
  | healthyOneFund =>
    refine ⟨_, rfl, (holds_legacy_joined inBook scored).trans ?_⟩
    rw [Bool.decide_and, Bool.decide_coe, Bool.and_comm]
    rfl
  | waitingOnACall => exact ⟨_, rfl, holds_legacy_filter inBook⟩
  | moreUrgentButNotCalled =>
    refine ⟨_, ?_, holds_legacy_filter (p := fun row => escalated.contains row.1) inBook⟩
    rw [legacy, moreUrgentButNotCalledLegacy, moved]
    rfl

section Night

variable (startedAt runId situationDb) (signalled : Signalled tables signalThresholds asOf windowDays escalated signals)
  (inBook : tables.book.get? key = some fund) (same : SameThresholds signalThresholds thresholds)
  (inForce : signalThresholds.windowDays = some windowDays)
  (months : signalThresholds.monthsUntilEmpty = thresholds.monthsUntilEmpty)
  (scored : tables.riskFeatures.get? key = some risk)
include signalled inBook same inForce months scored

/-- The situations just recomputed hold the client funds that meet the rules. -/
lemma holds_situationStatement (name : GroupName) :
    (∃ member ∈ situationStatement tables (recomputeAllSituations situationDb
      (situationNight tables signals asOf runId startedAt)) (situationOf name), member.key = key) ↔
        holdsFund tables thresholds asOf escalated key fund risk name = true := by
  have listed : (key, fund) ∈ tables.book.items := (Dict.mem_items_iff _).mpr inBook
  rw [situationStatement, holds_buildGroup List.filter_sublist.subset inBook, mem_situationStatement_rows,
    evaluation_situationOf signalled listed same inForce months scored name, Option.getD_some]
  exact and_iff_right listed

/-- Either source of a group. -/
lemma holds_sourced (moved : escalatedKeys tables none = some escalated) (source : SituationSource) (group : Group) :
    ∃ members, sourced source tables (recomputeAllSituations situationDb
      (situationNight tables signals asOf runId startedAt)) thresholds asOf group = some members ∧
      ((∃ member ∈ members, member.key = key) ↔
        holdsFund tables thresholds asOf escalated key fund risk (nameOf group) = true) := by
  cases source with
  | legacy => exact holds_legacy inBook scored moved group
  | situations =>
    have code : groupToSituation group = situationOf (nameOf group) := by cases group <;> rfl
    refine ⟨_, rfl, ?_⟩
    rw [fromSituations, code]
    exact holds_situationStatement startedAt runId situationDb signalled inBook same inForce months scored _

lemma holds_groupFilters (moved : escalatedKeys tables none = some escalated) (source : SituationSource)
    (name : GroupName) :
    ∃ members, groupFilters source tables (recomputeAllSituations situationDb
      (situationNight tables signals asOf runId startedAt)) thresholds asOf name = some members ∧
      ((∃ member ∈ members, member.key = key) ↔
        holdsFund tables thresholds asOf escalated key fund risk name = true) := by
  have two_ways := holds_sourced startedAt runId situationDb signalled inBook same inForce months scored moved
    source
  have one_way := holds_situationStatement startedAt runId situationDb signalled inBook same inForce months scored
  cases name with
  | signedUpRecently => exact two_ways .signedUpRecently
  | feePressureGoneQuiet => exact ⟨_, rfl, one_way .feePressureGoneQuiet⟩
  | feePressureActiveContributor => exact ⟨_, rfl, one_way .feePressureActiveContributor⟩
  | verySmallAndQuiet => exact two_ways .verySmallAndQuiet
  | gettingSmaller => exact two_ways .gettingSmaller
  | healthyOneFund => exact two_ways .healthyOneFund
  | waitingOnACall => exact two_ways .waitingOnACall
  | moreUrgentButNotCalled => exact two_ways .moreUrgentButNotCalled

/-- The watch list holds a client fund in the groups whose rules it meets. -/
lemma holds_buildWatchlist (moved : escalatedKeys tables none = some escalated) (source : SituationSource) :
    ∃ book : Watchlist.Book, buildWatchlist source tables (recomputeAllSituations situationDb
      (situationNight tables signals asOf runId startedAt)) thresholds asOf =
        some (ClientEngagement.Watchlist.buildWatchlist book) ∧
      ∀ name, (∃ member ∈ book name, member.key = key) ↔
        holdsFund tables thresholds asOf escalated key fund risk name = true := by
  choose members is holds using holds_groupFilters startedAt runId situationDb signalled inBook same inForce months
    scored moved source
  refine ⟨fun name => (members name).map groupMember, ?_, fun name => ?_⟩
  · rw [buildWatchlist, mapM_eq_some_iff, ClientEngagement.Watchlist.buildWatchlist, List.forall₂_map_right_iff]
    refine List.forall₂_same.mpr fun name _ => ?_
    rw [is name]
    rfl
  · rw [← holds name]
    constructor
    · rintro ⟨_, mem, here⟩
      obtain ⟨member, listed, rfl⟩ := List.mem_map.mp mem
      exact ⟨member, listed, here⟩
    · rintro ⟨member, listed, here⟩
      exact ⟨groupMember member, List.mem_map_of_mem listed, here⟩

end Night

/-! ## What a test says of a client fund -/

/-- The rule of each group, over plain numbers. -/
def Meets (scenario : ScenarioInput) (thresholds : WatchlistThresholds) : GroupName → Prop
  | .signedUpRecently => scenario.nDeposits = 1 ∧ scenario.firstDepositDaysAgo.any (· ≤ thresholds.newClientDays)
  | .feePressureGoneQuiet =>
    (scenario.monthsUntilEmpty.any (· < thresholds.monthsUntilEmpty) ∧ 0 < scenario.balance) ∧ scenario.sigDormant
  | .feePressureActiveContributor =>
    (scenario.monthsUntilEmpty.any (· < thresholds.monthsUntilEmpty) ∧ 0 < scenario.balance) ∧ ¬scenario.sigDormant
  | .verySmallAndQuiet => scenario.balance < thresholds.smallBalance ∧ scenario.sigDormant
  | .gettingSmaller => scenario.sigShrinking
  | .healthyOneFund => healthyBands.contains scenario.riskBand ∧ scenario.fundsHeld = 1
  | .waitingOnACall => scenario.daysSinceCallFlagged.any (thresholds.awaitingCallDays ≤ ·) ∧
      ¬scenario.callLoggedSinceFlagged
  | .moreUrgentButNotCalled => scenario.routeMovedMoreUrgent ∧ ¬scenario.onCallList

lemma mem_matchedSituations (scenario : ScenarioInput) :
    name ∈ matchedSituations scenario thresholds ↔ Meets scenario thresholds name := by
  rw [matchedSituations]
  simp only [List.mem_append, List.mem_ite_nil_right]
  cases name with
  | feePressureGoneQuiet => cases dormant : scenario.sigDormant <;> simp [Meets, dormant]
  | feePressureActiveContributor => cases dormant : scenario.sigDormant <;> simp [Meets, dormant]
  | _ => cases dormant : scenario.sigDormant <;> simp [Meets, dormant]

/-- A digest that put a client fund on a call list, with nothing logged since. -/
lemma mem_flags {time : ℤ} : time ∈ (tables.digestLines.filterMap fun line =>
      if line.key = key ∧ line.inCallQueue then tables.digestRuns.get? line.digestRunId else none).filter
        (fun generatedAt => !tables.interactions.any fun logged =>
          logged.key = key ∧ generatedAt ≤ logged.createdAt) ↔
    ∃ line ∈ tables.digestLines, line.key = key ∧ line.inCallQueue ∧
      tables.digestRuns.get? line.digestRunId = some time ∧
        (!tables.interactions.any fun logged => logged.key = key ∧ time ≤ logged.createdAt) = true := by
  rw [List.mem_filter, List.mem_filterMap]
  constructor
  · rintro ⟨⟨line, listed, found⟩, unlogged⟩
    obtain ⟨⟨own, queued⟩, generated⟩ := Option.ite_none_right_eq_some.mp found
    exact ⟨line, listed, own, queued, generated, unlogged⟩
  · rintro ⟨line, listed, own, queued, generated, unlogged⟩
    exact ⟨⟨line, listed, (if_pos (And.intro own queued)).trans generated⟩, unlogged⟩

/-- A call is overdue when its oldest digest is before the cutoff. -/
lemma callOverdue_iff {cutoff : ℤ} :
    callOverdue tables cutoff key = true ↔ (oldestFlag tables key).any (· < cutoff) = true := by
  have waited : callOverdue tables cutoff key = true ↔ ∃ time < cutoff, ∃ line ∈ tables.digestLines,
      line.key = key ∧ line.inCallQueue ∧ tables.digestRuns.get? line.digestRunId = some time ∧
        (!tables.interactions.any fun logged => logged.key = key ∧ time ≤ logged.createdAt) = true := by
    rw [callOverdue, List.any_eq_true]
    simp only [decide_eq_true_eq, Option.any_eq_true]
    constructor
    · rintro ⟨line, listed, rfl, queued, time, generated, before, unlogged⟩
      exact ⟨time, before, line, listed, rfl, queued, generated, unlogged⟩
    · rintro ⟨time, before, line, listed, rfl, queued, generated, unlogged⟩
      exact ⟨line, listed, rfl, queued, time, generated, before, unlogged⟩
  simp only [waited, ← mem_flags]
  rw [oldestFlag]
  generalize (tables.digestLines.filterMap _).filter _ = flags
  cases oldest : flags.min? with
  | none =>
    rw [List.min?_eq_none_iff.mp oldest]
    exact iff_of_false (fun ⟨_, _, mem⟩ => List.not_mem_nil mem) Bool.false_ne_true
  | some first =>
    obtain ⟨mem, least⟩ := List.min?_eq_some_iff.mp oldest
    rw [Option.any_some, decide_eq_true_eq]
    exact ⟨fun ⟨time, before, mem⟩ => (least time mem).trans_lt before, fun before => ⟨first, before, mem⟩⟩

/-- The escalated client funds are those whose route moved without reaching the call list. -/
lemma contains_escalated (moved : escalatedKeys tables none = some escalated) :
    escalated.contains key = true ↔
      ((routesOf tables key).any fun (route, before) => routeDirection before route = some (some .moreUrgent)) =
        true ∧ ¬((routesOf tables key).any fun (route, _) => route = callListRoute) = true := by
  rw [escalatedKeys, Option.none_or] at moved
  rw [routesOf, List.contains_iff_mem]
  cases latest : latestCompletedRunId tables.riskRuns with
  | none =>
    rw [latest] at moved
    cases moved
    exact iff_of_false List.not_mem_nil fun found => Bool.false_ne_true found.1
  | some runId =>
    rw [latest] at moved
    obtain ⟨entries, kept, rfl⟩ := Option.map_eq_some_iff.mp moved
    have listed : key ∈ entries.map Prod.fst ↔ ∃ route,
        (routesForRun tables.riskSnapshots runId).get? key = some route ∧
          escalates (Risk.routesBeforeRun tables.riskSnapshots runId) (key, route) = some true := by
      rw [List.mem_map]
      constructor
      · rintro ⟨⟨_, route⟩, mem, rfl⟩
        obtain ⟨there, moves⟩ := (mem_of_filterM kept).mp mem
        exact ⟨route, (Dict.mem_items_iff _).mp there, moves⟩
      · rintro ⟨route, there, moves⟩
        exact ⟨(key, route), (mem_of_filterM kept).mpr ⟨(Dict.mem_items_iff _).mpr there, moves⟩, rfl⟩
    rw [listed, Option.bind_some]
    cases (routesForRun tables.riskSnapshots runId).get? key with
    | none =>
      refine iff_of_false ?_ fun found => Bool.false_ne_true found.1
      rintro ⟨route, absent, _⟩
      cases absent
    | some entry =>
      cases entry with
      | none =>
        refine iff_of_false ?_ fun found => Bool.false_ne_true found.1
        rintro ⟨route, same, moves⟩
        cases same
        cases moves
      | some route =>
        have one : (∃ entry, some (some route) = some entry ∧
            escalates (Risk.routesBeforeRun tables.riskSnapshots runId) (key, entry) = some true) ↔
              escalates (Risk.routesBeforeRun tables.riskSnapshots runId) (key, some route) = some true := by
          constructor
          · rintro ⟨_, same, moves⟩
            exact Option.some.inj same ▸ moves
          · exact fun moves => ⟨_, rfl, moves⟩
        rw [one, escalates]
        show (if route = callListRoute then some false else (routeDirection
          ((Risk.routesBeforeRun tables.riskSnapshots runId).get? key).join route).map _) = some true ↔
            decide _ = true ∧ ¬decide _ = true
        rw [decide_eq_true_eq, decide_eq_true_eq]
        by_cases called : route = callListRoute
        · rw [if_pos called]
          exact iff_of_false (fun none_so => by cases none_so) fun both => both.2 called
        · rw [if_neg called, and_iff_left called, Option.map_eq_some_iff]
          simp only [decide_eq_true_eq, exists_eq_right]

section Test

variable {dayOf : ℤ → ℤ}

/-- Where no call is waited for, a scenario meets the rules its client fund meets. -/
lemma meets_iff (known : fund.balance = some balance) (moved : escalatedKeys tables none = some escalated)
    (no_call : name ≠ .waitingOnACall) :
    Meets (scenarioOf tables dayOf asOf key fund balance risk) thresholds name ↔
      holdsFund tables thresholds asOf escalated key fund risk name = true := by
  cases name with
  | signedUpRecently =>
    rw [Meets, holdsFund, scenarioOf, Bool.and_eq_true, decide_eq_true_eq, Option.any_map]
    refine and_congr_right fun _ => ?_
    cases fund.firstDepositDate with
    | none => exact Iff.rfl
    | some first =>
      rw [Option.any_some, Option.any_some, decide_eq_true_eq, decide_eq_true_eq]
      exact sub_le_comm
  | feePressureGoneQuiet =>
    rw [Meets, holdsFund, scenarioOf, known, Bool.and_eq_true, Bool.and_eq_true, decide_eq_true_eq]
    rfl
  | feePressureActiveContributor =>
    rw [Meets, holdsFund, scenarioOf, known, Bool.and_eq_true, Bool.and_eq_true, decide_eq_true_eq,
      Bool.not_eq_true', ← Bool.not_eq_true]
    rfl
  | verySmallAndQuiet =>
    rw [Meets, holdsFund, scenarioOf, known, Bool.and_eq_true, Option.any_some, decide_eq_true_eq]
  | gettingSmaller => exact Iff.rfl
  | healthyOneFund =>
    rw [Meets, holdsFund, scenarioOf, Bool.and_eq_true, decide_eq_true_eq]
    exact and_comm
  | waitingOnACall => exact absurd rfl no_call
  | moreUrgentButNotCalled => exact (contains_escalated moved).symm

/-- A call counts as waited for from one day earlier when it is tested. -/
lemma meets_waitingOnACall_iff (dates : ∀ day time, time < tables.startOfDay day ↔ dayOf time < day) :
    (Meets (scenarioOf tables dayOf asOf key fund balance risk) thresholds .waitingOnACall ↔
      holdsFund tables thresholds asOf escalated key fund risk .waitingOnACall = true) ↔
    (scenarioOf tables dayOf asOf key fund balance risk).daysSinceCallFlagged ≠
      some thresholds.awaitingCallDays := by
  rw [Meets, holdsFund, callOverdue_iff, scenarioOf, Option.any_map, callCutoff]
  cases oldestFlag tables key with
  | none => simp
  | some time =>
    rw [Option.any_some, Option.any_some, decide_eq_true_eq, decide_eq_true_eq, dates,
      Option.map_some, ne_eq, Option.some.injEq]
    simp only [Bool.false_eq_true, not_false_eq_true, and_true]
    omega

/-- The test says of a client fund what the watch list does, unless its call has been waited for exactly as long
    as the threshold says. -/
lemma asSeen_iff {book : ClientEngagement.Watchlist.Book} (known : fund.balance = some balance)
    (moved : escalatedKeys tables none = some escalated) (dates : ∀ day time, time < tables.startOfDay day ↔ dayOf time < day)
    (holds : ∀ name, (∃ member ∈ book name, member.key = key) ↔
      holdsFund tables thresholds asOf escalated key fund risk name = true) :
    AsSeen (matchedSituations (scenarioOf tables dayOf asOf key fund balance risk) thresholds)
      (ClientEngagement.Watchlist.buildWatchlist book) key ↔
    (scenarioOf tables dayOf asOf key fund balance risk).daysSinceCallFlagged ≠
      some thresholds.awaitingCallDays := by
  have named : ∀ name, (∃ group ∈ ClientEngagement.Watchlist.buildWatchlist book, group.name = name ∧
      ∃ member ∈ group.members, member.key = key) ↔
        holdsFund tables thresholds asOf escalated key fund risk name = true := by
    intro name
    rw [← holds name]
    constructor
    · rintro ⟨group, listed, rfl, here⟩
      rw [mem_buildWatchlist.mp listed] at here
      exact here
    · intro here
      exact ⟨⟨name, book name⟩, mem_buildWatchlist.mpr rfl, rfl, here⟩
  rw [← meets_waitingOnACall_iff dates]
  constructor
  · intro seen
    exact (mem_matchedSituations _).symm.trans ((seen.names _).trans (named _))
  · intro waited
    have matched : ∀ name, name ∈ matchedSituations (scenarioOf tables dayOf asOf key fund balance risk)
        thresholds ↔ holdsFund tables thresholds asOf escalated key fund risk name = true := by
      intro name
      rw [mem_matchedSituations]
      by_cases call : name = .waitingOnACall
      · exact call ▸ waited
      · exact meets_iff known moved call
    refine ⟨fun name => (matched name).trans (named name).symm, ?_⟩
    rw [get?_situationWinners, consolidationWinner, firstHolding]
    refine List.find?_congr fun name _ => ?_
    rw [Bool.eq_iff_iff, decide_eq_true_eq, matched, ← holds, List.any_eq_true]
    simp only [decide_eq_true_eq]

end Test

end Rows

/-- A tested client fund is seen as the watch list sees it, exactly when its call has not been waited for just as
    long as the threshold says: the test counts that day, the list begins with the next. -/
theorem scenario_seen_iff (source : SituationSource) (tables : Tables) (dayOf : ℤ → ℤ)
    (signalThresholds : SignalThresholds) (thresholds : WatchlistThresholds) (asOf startedAt : ℤ) (runId : String)
    (before signals : SignalDb) (situationDb : SituationDb) (key : FundKey) (fund : ActiveClientFund) (balance : ℚ)
    (risk : ClientRiskFeatures) (dates : ∀ day time, time < tables.startOfDay day ↔ dayOf time < day)
    (same : SameThresholds signalThresholds thresholds)
    (months : signalThresholds.monthsUntilEmpty = thresholds.monthsUntilEmpty)
    (ran : recomputeAllSignals tables signalThresholds asOf runId (latestCompletedRunId tables.riskRuns) before =
      some signals)
    (inBook : tables.book.get? key = some fund) (known : fund.balance = some balance)
    (scored : tables.riskFeatures.get? key = some risk) :
    ∃ groups, buildWatchlist source tables (recomputeAllSituations situationDb
        (situationNight tables signals asOf runId startedAt)) thresholds asOf = some groups ∧
      (AsSeen (matchedSituations (scenarioOf tables dayOf asOf key fund balance risk) thresholds) groups key ↔
        (scenarioOf tables dayOf asOf key fund balance risk).daysSinceCallFlagged ≠
          some thresholds.awaitingCallDays) := by
  obtain ⟨windowDays, escalated, inForce, moved, signalled⟩ := signal_of_book ran
  rw [escalatedKeys_latest] at moved
  obtain ⟨book, built, holds⟩ := holds_buildWatchlist startedAt runId situationDb signalled inBook same inForce
    months scored moved source
  exact ⟨_, built, asSeen_iff known moved dates holds⟩

/-- A client fund that was put on a call list on the eighth day. -/
def flagged : Tables where
  book := .ofList [((1, 1), { balance := some 500, nDeposits := 5 })]
  riskFeatures := .ofList [((1, 1), ⟨false, false, "Watch"⟩)]
  digestRuns := .ofList [(1, 8 * 86400 + 32400)]
  digestLines := [⟨1, (1, 1), true⟩]

def flaggedSignals (asOf : ℤ) : SignalDb :=
  (recomputeAllSignals flagged someThresholds asOf "night" none {}).getD {}

def flaggedScenario (asOf : ℤ) : ScenarioInput :=
  scenarioOf flagged (· / 86400) asOf (1, 1) { balance := some 500, nDeposits := 5 } 500 ⟨false, false, "Watch"⟩

lemma flagged_dates (day time : ℤ) : time < flagged.startOfDay day ↔ time / 86400 < day := by
  show time < 86400 * day ↔ _
  omega

theorem scenario_seen_flagged : ∃ groups, buildWatchlist .situations flagged (recomputeAllSituations {}
      (situationNight flagged (flaggedSignals 11) 11 "night" 1)) someWatchlist 11 = some groups ∧
    AsSeen (matchedSituations (flaggedScenario 11) someWatchlist) groups (1, 1) := by
  obtain ⟨groups, built, seen⟩ := scenario_seen_iff .situations flagged (· / 86400) someThresholds someWatchlist 11 1
    "night" {} (flaggedSignals 11) {} (1, 1) { balance := some 500, nDeposits := 5 } 500 ⟨false, false, "Watch"⟩
    flagged_dates ⟨by decide +kernel, rfl, rfl⟩ rfl rfl rfl rfl rfl
  exact ⟨groups, built, seen.mpr (by decide +kernel)⟩

/-- Two days after its digest the test says the client fund waits for a call, and neither source of the watch list
    does. -/
theorem scenario_unseen_on_the_day :
    recomputeAllSignals flagged someThresholds 10 "night" (latestCompletedRunId flagged.riskRuns) {} =
      some (flaggedSignals 10) ∧
    (flaggedScenario 10).daysSinceCallFlagged = some 2 ∧
    matchedSituations (flaggedScenario 10) someWatchlist = [.waitingOnACall] ∧
    consolidationWinner [.waitingOnACall] = some .waitingOnACall ∧
    ∀ source ∈ [SituationSource.legacy, .situations],
      (buildWatchlist source flagged (recomputeAllSituations {}
        (situationNight flagged (flaggedSignals 10) 10 "night" 1)) someWatchlist 10).map (fun groups =>
          (groups.all (·.members.isEmpty), (situationWinners groups).get? (1, 1))) = some (true, none) := by
  refine ⟨rfl, by decide +kernel, by decide +kernel, by decide, ?_⟩
  rw [List.forall_mem_cons, List.forall_mem_singleton]
  exact ⟨by decide +kernel, by decide +kernel⟩

end ClientEngagement.Agents.Scenario
