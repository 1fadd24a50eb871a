import ClientEngagement.Risk.ConfigStore
import ClientEngagement.Risk.History

/-!
# The five queues

Model of `risk/routing.py`: `callQueue` (`call_queue_keys`), `baseRoute` (`_base_route`) and
`routePopulation` (`route_population`). A row of the call queue that is dormant and under the tiny
balance is routed elsewhere but keeps its place in the queue and its rank, so the ranks have a gap. The
queues keep their order and bounds on every population exactly when that cannot happen and the capacity
is not negative (`queues_in_order`).
-/

namespace ClientEngagement.Risk

/-- `ROUTES`. -/
inductive Route where
  | smallBalanceReview
  | faCallPriority
  | faWatchlist
  | autoCheckin
  | monitorOnly
deriving DecidableEq

/-- One client-fund's routing inputs. -/
structure RoutableRow where
  key : FundKey
  balance : Option ℚ
  riskScore : ℚ
  sigDormant : Bool
  fundAtRisk : ℚ
  hasOpenComplaint : Bool := false
  suppressed : Bool := false

structure RouteResult where
  route : Route
  queueRank : Option ℕ
  complaintCaveat : Bool

def isTinyBalance (balance : Option ℚ) (tinyBalance : ℚ) : Bool := balance.getD 0 < tinyBalance

def isWorthACall (balance : Option ℚ) (worthACallBalance : ℚ) : Bool :=
  worthACallBalance ≤ balance.getD 0

def isAtRisk (riskScore : ℚ) (atRiskMin : ℤ) : Bool := (atRiskMin : ℚ) ≤ riskScore

/-- `items[:stop]`; a negative stop counts from the end. -/
def sliceUpTo {α : Type} (stop : ℤ) (items : List α) : List α :=
  items.take (if 0 ≤ stop then stop else items.length + stop).toNat

/-- The two balances the routes compare with. -/
structure Balances where
  tiny : ℚ
  worthACall : ℚ

def callPool (rows : List RoutableRow) (config : RiskConfig) (balances : Balances) :
    List RoutableRow :=
  rows.filter fun row =>
    isWorthACall row.balance balances.worthACall ∧ isAtRisk row.riskScore config.atRiskMin

/-- The rows behind `call_queue_keys`. -/
def callQueue (rows : List RoutableRow) (config : RiskConfig) (balances : Balances) :
    List RoutableRow :=
  sliceUpTo config.faCallCapacity (sortBy (fun row => -row.fundAtRisk) (callPool rows config balances))

def callQueueKeys (rows : List RoutableRow) (config : RiskConfig) (balances : Balances) :
    List FundKey :=
  (callQueue rows config balances).map RoutableRow.key

def baseRoute (row : RoutableRow) (config : RiskConfig) (balances : Balances) (inCallQueue : Bool) :
    Route :=
  let tinyBalance := isTinyBalance row.balance balances.tiny
  let worthACall := isWorthACall row.balance balances.worthACall
  let atRisk := isAtRisk row.riskScore config.atRiskMin
  if tinyBalance ∧ row.sigDormant then .smallBalanceReview
  else if inCallQueue then .faCallPriority
  else if worthACall ∧ atRisk then .faWatchlist
  else if ¬ tinyBalance ∧ atRisk then .autoCheckin
  else .monitorOnly

/-- The base route with the overrides of a complaint and a suppression. -/
def finalRoute (row : RoutableRow) (config : RiskConfig) (balances : Balances) (inCallQueue : Bool) :
    Route :=
  let final := baseRoute row config balances inCallQueue
  if final = .autoCheckin ∧ row.hasOpenComplaint then
    if inCallQueue then .faCallPriority else .faWatchlist
  else if final = .autoCheckin ∧ row.suppressed then .monitorOnly
  else final

section
local instance lawfulFundKey : LawfulBEq FundKey := inferInstance

/-- The rows of the call queue, biggest first. -/
def rankedRows (rows : List RoutableRow) (config : RiskConfig) (balances : Balances) :
    List RoutableRow :=
  sortBy (fun row => -row.fundAtRisk)
    (rows.filter fun row => row.key ∈ callQueueKeys rows config balances)

/-- The rank of every row of the call queue. -/
def queueRanks (rows : List RoutableRow) (config : RiskConfig) (balances : Balances) :
    Dict FundKey ℕ :=
  .ofList ((rankedRows rows config balances).zipIdx.map fun (row, i) => (row.key, i + 1))

def routeRow (rows : List RoutableRow) (config : RiskConfig) (balances : Balances)
    (row : RoutableRow) : RouteResult :=
  let final := finalRoute row config balances (row.key ∈ callQueueKeys rows config balances)
  { route := final
    queueRank :=
      if final = .faCallPriority then (queueRanks rows config balances).get? row.key else none
    complaintCaveat := row.hasOpenComplaint }

end

def thresholdOf (config : RiskConfig) (name : String) : Option ℚ :=
  (config.thresholds.field? name).bind Json.number?

/-- The thresholds of a configuration, when both are numbers. -/
def balancesOf (config : RiskConfig) : Option Balances :=
  (thresholdOf config "WORTH_A_CALL_BALANCE").bind fun worthACall =>
    (thresholdOf config "TINY_BALANCE").map fun tiny => ⟨tiny, worthACall⟩

/-- Every row's route, or the error of comparing a balance with something that is no number. -/
def routePopulation (rows : List RoutableRow) (config : RiskConfig) :
    Option (Dict FundKey RouteResult) :=
  if rows.isEmpty then (config.thresholds.field? "WORTH_A_CALL_BALANCE").map fun _ => .empty
  else
    (balancesOf config).map fun balances =>
      .ofList (rows.map fun row => (row.key, routeRow rows config balances row))

/-! ## Order and bounds -/

def routeOf (results : Dict FundKey RouteResult) (row : RoutableRow) : Option Route :=
  (results.get? row.key).map RouteResult.route

def rankOf (results : Dict FundKey RouteResult) (row : RoutableRow) : Option ℕ :=
  (results.get? row.key).bind RouteResult.queueRank

/-- The rows routed to a call. -/
def calledRows (rows : List RoutableRow) (results : Dict FundKey RouteResult) : List RoutableRow :=
  rows.filter fun row => routeOf results row = some .faCallPriority

structure QueuesInOrder (config : RiskConfig) (rows : List RoutableRow)
    (results : Dict FundKey RouteResult) : Prop where
  routed : results.keys.Perm (rows.map RoutableRow.key)
  capacity : ((calledRows rows results).length : ℤ) ≤ config.faCallCapacity
  ranks : ((calledRows rows results).map (rankOf results)).Perm
    ((List.range (calledRows rows results).length).map fun i => some (i + 1))
  descending : ∀ a ∈ calledRows rows results, ∀ b ∈ calledRows rows results, ∀ i j,
    rankOf results a = some i → rankOf results b = some j → i ≤ j → b.fundAtRisk ≤ a.fundAtRisk
  outside : ∀ worthACall, thresholdOf config "WORTH_A_CALL_BALANCE" = some worthACall →
    ∀ a ∈ rows, isWorthACall a.balance worthACall = true → isAtRisk a.riskScore config.atRiskMin = true →
      a ∉ calledRows rows results → ∀ b ∈ calledRows rows results, a.fundAtRisk ≤ b.fundAtRisk
  reachable : ∀ row ∈ rows, row.hasOpenComplaint = true ∨ row.suppressed = true →
    routeOf results row ≠ some .autoCheckin

/-- A configuration under which no row of the call queue is routed elsewhere and leaves a gap. -/
def KeepsRanks (config : RiskConfig) : Prop :=
  0 ≤ config.faCallCapacity ∧ ∃ balances, balancesOf config = some balances ∧
    (config.faCallCapacity ≤ 1 ∨ balances.tiny ≤ balances.worthACall)

/-! ## One row -/

variable {config : RiskConfig} {balances : Balances} {rows : List RoutableRow} {row : RoutableRow}
  {inCallQueue : Bool} {results : Dict FundKey RouteResult}

/-- Nobody with an open complaint or a suppression is sent an automatic message. -/
lemma finalRoute_ne_autoCheckin (h : row.hasOpenComplaint = true ∨ row.suppressed = true) :
    finalRoute row config balances inCallQueue ≠ .autoCheckin := by
  rw [finalRoute]
  split
  · split
    · nofun
    · nofun
  · rename_i noComplaint
    split
    · nofun
    · rename_i notSuppressed
      intro auto
      cases h with
      | inl complaint => exact noComplaint ⟨auto, complaint⟩
      | inr suppressed => exact notSuppressed ⟨auto, suppressed⟩

/-- Only rows of the call queue are called. -/
lemma inCallQueue_of_called (h : finalRoute row config balances inCallQueue = .faCallPriority) :
    inCallQueue = true := by
  cases inCallQueue with
  | true => rfl
  | false =>
    have base : baseRoute row config balances false ≠ .faCallPriority := by
      rw [baseRoute]
      split
      · nofun
      · rw [if_neg Bool.false_ne_true]
        split
        · nofun
        · split
          · nofun
          · nofun
    rw [finalRoute] at h
    split at h
    · rw [if_neg Bool.false_ne_true] at h
      cases h
    · split at h
      · cases h
      · exact absurd h base

/-- A row of the call queue is called, unless it is dormant and under the tiny balance. -/
lemma called_of_inCallQueue (h : ¬ (isTinyBalance row.balance balances.tiny = true ∧
    row.sigDormant = true)) : finalRoute row config balances true = .faCallPriority := by
  have base : baseRoute row config balances true = .faCallPriority := by
    rw [baseRoute, if_neg h, if_pos rfl]
  rw [finalRoute, base]
  rfl

/-! ## The call queue -/

lemma sliceUpTo_of_nonneg {α : Type} {stop : ℤ} {items : List α} (h : 0 ≤ stop) :
    sliceUpTo stop items = items.take stop.toNat := by
  rw [sliceUpTo, if_pos h]

lemma mem_callPool : row ∈ callPool rows config balances ↔ row ∈ rows ∧
    isWorthACall row.balance balances.worthACall = true ∧
    isAtRisk row.riskScore config.atRiskMin = true := by
  rw [callPool, List.mem_filter, decide_eq_true_eq]

lemma mem_pool_of_mem_queue (h : row ∈ callQueue rows config balances) :
    row ∈ callPool rows config balances := mem_sortBy.mp (List.mem_of_mem_take h)

lemma length_callQueue (h : 0 ≤ config.faCallCapacity) :
    ((callQueue rows config balances).length : ℤ) ≤ config.faCallCapacity := by
  rw [callQueue, sliceUpTo_of_nonneg h, List.length_take]
  omega

/-- Rows of the pool outside the queue have no more at risk than those inside. -/
lemma le_of_not_mem_queue {a b : RoutableRow} (pool : a ∈ callPool rows config balances)
    (outside : a ∉ callQueue rows config balances) (inside : b ∈ callQueue rows config balances) :
    a.fundAtRisk ≤ b.fundAtRisk := by
  rw [callQueue, sliceUpTo] at outside inside
  have listed : a ∈ sortBy (fun row => -row.fundAtRisk) (callPool rows config balances) :=
    mem_sortBy.mpr pool
  rcases mem_take_or_drop _ listed with kept | dropped
  · exact absurd kept outside
  · have le := le_of_mem_take_drop (f := fun row : RoutableRow => -row.fundAtRisk) inside dropped
    exact neg_le_neg_iff.mp le

variable (nodup : (rows.map RoutableRow.key).Nodup)
include nodup

lemma mem_queue_iff (mem : row ∈ rows) : row.key ∈ callQueueKeys rows config balances ↔
    row ∈ callQueue rows config balances := by
  rw [callQueueKeys, List.mem_map]
  constructor
  · rintro ⟨other, queued, same⟩
    have listed := (mem_callPool.mp (mem_pool_of_mem_queue queued)).1
    rwa [← List.inj_on_of_nodup_map nodup listed mem same]
  · exact fun queued => ⟨row, queued, rfl⟩

/-- The ranked rows are those of the queue. -/
lemma rankedRows_perm : (rankedRows rows config balances).Perm (callQueue rows config balances) := by
  have distinct : rows.Nodup := .of_map _ nodup
  have queue : (callQueue rows config balances).Nodup :=
    (((sortBy_perm _ _).nodup_iff).mpr (distinct.filter _)).sublist (List.take_sublist _ _)
  refine (sortBy_perm _ _).trans ?_
  rw [List.perm_ext_iff_of_nodup (distinct.filter _) queue]
  intro row
  rw [List.mem_filter, decide_eq_true_eq]
  constructor
  · rintro ⟨mem, queued⟩
    exact (mem_queue_iff nodup mem).mp queued
  · intro queued
    have mem := (mem_callPool.mp (mem_pool_of_mem_queue queued)).1
    exact ⟨mem, (mem_queue_iff nodup mem).mpr queued⟩

lemma nodup_rankedKeys : ((rankedRows rows config balances).map RoutableRow.key).Nodup := by
  refine ((sortBy_perm _ _).map _).nodup_iff.mpr (nodup.sublist ?_)
  exact List.filter_sublist.map _

/-- A ranked row's rank is its place. -/
lemma get?_queueRanks {i : ℕ} (lt : i < (rankedRows rows config balances).length) :
    (queueRanks rows config balances).get? (rankedRows rows config balances)[i].key = some (i + 1) := by
  rw [queueRanks, Dict.get?_ofList]
  · rw [List.mem_map]
    exact ⟨((rankedRows rows config balances)[i], i), by simp [List.mem_zipIdx_iff_getElem?], rfl⟩
  · have keys : ((rankedRows rows config balances).zipIdx.map fun (row, i) => (row.key, i + 1)).map
        Prod.fst = (rankedRows rows config balances).map RoutableRow.key := by
      rw [List.map_map]
      refine Eq.trans ?_ (congrArg _ (List.zipIdx_map_fst 0 (rankedRows rows config balances)))
      rw [List.map_map]
      rfl
    rw [keys]
    exact nodup_rankedKeys nodup

/-! ## The population -/

/-- The routes of a population, as a table. -/
def routed (rows : List RoutableRow) (config : RiskConfig) (balances : Balances) :
    Dict FundKey RouteResult :=
  .ofList (rows.map fun row => (row.key, routeRow rows config balances row))

lemma routed_keys :
    ((rows.map fun row => (row.key, routeRow rows config balances row)).map Prod.fst).Nodup := by
  rwa [List.map_map]

lemma get?_routed (mem : row ∈ rows) :
    (routed rows config balances).get? row.key = some (routeRow rows config balances row) := by
  rw [routed, Dict.get?_ofList (routed_keys nodup)]
  exact List.mem_map_of_mem mem

lemma routeOf_routed (mem : row ∈ rows) : routeOf (routed rows config balances) row =
    some (finalRoute row config balances (row.key ∈ callQueueKeys rows config balances)) := by
  rw [routeOf, get?_routed nodup mem]
  rfl

lemma mem_calledRows : row ∈ calledRows rows (routed rows config balances) ↔ row ∈ rows ∧
    finalRoute row config balances (row.key ∈ callQueueKeys rows config balances) =
      .faCallPriority := by
  rw [calledRows, List.mem_filter, decide_eq_true_eq]
  refine and_congr_right fun mem => ?_
  rw [routeOf_routed nodup mem, Option.some_inj]

lemma mem_queue_of_called (h : row ∈ calledRows rows (routed rows config balances)) :
    row ∈ callQueue rows config balances := by
  obtain ⟨mem, called⟩ := (mem_calledRows nodup).mp h
  exact (mem_queue_iff nodup mem).mp (of_decide_eq_true (inCallQueue_of_called called))

lemma rankOf_routed (h : row ∈ calledRows rows (routed rows config balances)) :
    rankOf (routed rows config balances) row = (queueRanks rows config balances).get? row.key := by
  obtain ⟨mem, called⟩ := (mem_calledRows nodup).mp h
  rw [rankOf, get?_routed nodup mem, Option.bind_some, routeRow]
  exact if_pos called

lemma nodup_calledRows : (calledRows rows (routed rows config balances)).Nodup :=
  (List.Nodup.of_map _ nodup).filter _

lemma calledRows_subperm :
    (calledRows rows (routed rows config balances)).Subperm (callQueue rows config balances) :=
  (nodup_calledRows nodup).subperm fun _ h => mem_queue_of_called nodup h

/-- Nobody of the queue is routed elsewhere, or nobody is called. -/
def AllOrNone (rows : List RoutableRow) (config : RiskConfig) (balances : Balances) : Prop :=
  (∀ row ∈ callQueue rows config balances, row ∈ calledRows rows (routed rows config balances)) ∨
    calledRows rows (routed rows config balances) = []

/-- A row worth a call is not under a tiny balance that is no higher. -/
lemma allOrNone_of_le (le : balances.tiny ≤ balances.worthACall) : AllOrNone rows config balances := by
  refine .inl fun row queued => ?_
  obtain ⟨mem, worth, _⟩ := mem_callPool.mp (mem_pool_of_mem_queue queued)
  have notTiny : isTinyBalance row.balance balances.tiny = false := by
    rw [isWorthACall, decide_eq_true_eq] at worth
    exact decide_eq_false (not_lt_of_ge (le.trans worth))
  rw [mem_calledRows nodup, decide_eq_true ((mem_queue_iff nodup mem).mpr queued)]
  refine ⟨mem, called_of_inCallQueue ?_⟩
  rw [notTiny]
  exact fun h => Bool.false_ne_true h.1

/-- A queue of one row is called, or it is not. -/
lemma allOrNone_of_le_one (one : (callQueue rows config balances).length ≤ 1) :
    AllOrNone rows config balances := by
  cases called : calledRows rows (routed rows config balances) with
  | nil => exact .inr called
  | cons row rest =>
    refine .inl fun other queued => ?_
    have mem : row ∈ calledRows rows (routed rows config balances) := called ▸ .head _
    have queue := mem_queue_of_called nodup mem
    obtain ⟨i, lt, rfl⟩ := List.getElem_of_mem queued
    obtain ⟨j, lt', rfl⟩ := List.getElem_of_mem queue
    have same : i = j := by omega
    subst same
    exact mem

/-- With nobody of the queue routed elsewhere, the ranks are those of the ranked rows. -/
lemma ranks_of_allOrNone (all : AllOrNone rows config balances) :
    ((calledRows rows (routed rows config balances)).map
      (rankOf (routed rows config balances))).Perm
    ((List.range (calledRows rows (routed rows config balances)).length).map
      fun i => some (i + 1)) := by
  rcases all with all | none_called
  · have perm : (calledRows rows (routed rows config balances)).Perm
        (rankedRows rows config balances) := by
      refine List.Perm.trans ?_ (rankedRows_perm nodup).symm
      exact (calledRows_subperm nodup).antisymm (((rankedRows_perm nodup).nodup_iff.mp
        (.of_map _ (nodup_rankedKeys nodup))).subperm all)
    have same : (calledRows rows (routed rows config balances)).map
        (rankOf (routed rows config balances)) =
        (calledRows rows (routed rows config balances)).map
          fun row => (queueRanks rows config balances).get? row.key :=
      List.map_congr_left fun row mem => rankOf_routed nodup mem
    rw [same, perm.length_eq]
    refine (perm.map _).trans (List.Perm.of_eq ?_)
    refine List.ext_getElem (by simp) fun i lt _ => ?_
    rw [List.length_map] at lt
    simp [get?_queueRanks nodup lt]
  · rw [none_called]
    exact .nil

/-- Ranks follow the amount at risk, also across a gap. -/
lemma descending_routed {a b : RoutableRow} {i j : ℕ}
    (memA : a ∈ calledRows rows (routed rows config balances))
    (memB : b ∈ calledRows rows (routed rows config balances))
    (rankA : rankOf (routed rows config balances) a = some i)
    (rankB : rankOf (routed rows config balances) b = some j) (le : i ≤ j) :
    b.fundAtRisk ≤ a.fundAtRisk := by
  have place (row : RoutableRow) (mem : row ∈ calledRows rows (routed rows config balances)) :
      ∃ n, ∃ lt : n < (rankedRows rows config balances).length,
        (rankedRows rows config balances)[n] = row ∧
          rankOf (routed rows config balances) row = some (n + 1) := by
    have ranked := (rankedRows_perm nodup).mem_iff.mpr (mem_queue_of_called nodup mem)
    obtain ⟨n, lt, rfl⟩ := List.getElem_of_mem ranked
    exact ⟨n, lt, rfl, (rankOf_routed nodup mem).trans (get?_queueRanks nodup lt)⟩
  obtain ⟨n, ltN, rfl, rankN⟩ := place a memA
  obtain ⟨m, ltM, rfl, rankM⟩ := place b memB
  cases rankN.symm.trans rankA
  cases rankM.symm.trans rankB
  have sorted : (rankedRows rows config balances).Pairwise
      fun a b => -a.fundAtRisk ≤ -b.fundAtRisk := sortBy_pairwise _ _
  rcases Nat.lt_or_eq_of_le (Nat.le_of_succ_le_succ le) with lt | same
  · exact neg_le_neg_iff.mp (List.pairwise_iff_getElem.mp sorted n m ltN ltM lt)
  · subst same
    exact le_rfl

/-- Order and bounds, once nobody of the queue is routed elsewhere. -/
lemma inOrder_of_allOrNone (capacity : 0 ≤ config.faCallCapacity)
    (known : balancesOf config = some balances) (all : AllOrNone rows config balances) :
    QueuesInOrder config rows (routed rows config balances) where
  routed := by
    rw [Risk.routed, Dict.keys_ofList (routed_keys nodup), List.map_map]
    exact .refl _
  capacity := by
    have le : (calledRows rows (Risk.routed rows config balances)).length ≤
        (callQueue rows config balances).length := (calledRows_subperm nodup).length_le
    exact (Int.ofNat_le.mpr le).trans (length_callQueue capacity)
  ranks := ranks_of_allOrNone nodup all
  descending a memA b memB i j := descending_routed nodup memA memB
  outside worthACall isWorth a mem worth risk notCalled b called := by
    obtain ⟨_, isWorth', made⟩ := Option.bind_eq_some_iff.mp known
    obtain ⟨_, _, same⟩ := Option.map_eq_some_iff.mp made
    cases isWorth.symm.trans isWorth'
    subst same
    refine le_of_not_mem_queue (mem_callPool.mpr ⟨mem, worth, risk⟩) ?_
      (mem_queue_of_called nodup called)
    intro queued
    cases all with
    | inl all => exact notCalled (all a queued)
    | inr none_called =>
      rw [none_called] at called
      cases called
  reachable row mem h := by
    rw [routeOf_routed nodup mem]
    exact fun same => finalRoute_ne_autoCheckin h (Option.some_inj.mp same)

omit nodup

lemma routePopulation_of_ne_nil (ne : rows ≠ []) : routePopulation rows config =
    (balancesOf config).map fun balances => routed rows config balances := by
  rw [routePopulation, List.isEmpty_eq_false_iff.mpr ne]
  rfl

/-- A row exactly at the balance worth a call and at the lowest risky score. -/
def borderRow (config : RiskConfig) (balances : Balances) (client : ℤ) (dormant : Bool)
    (fundAtRisk : ℚ) : RoutableRow :=
  { key := (client, 0), balance := some balances.worthACall, riskScore := config.atRiskMin
    sigDormant := dormant, fundAtRisk := fundAtRisk }

lemma borderRow_pool {client : ℤ} {dormant : Bool} {fundAtRisk : ℚ} :
    isWorthACall (borderRow config balances client dormant fundAtRisk).balance balances.worthACall =
      true ∧ isAtRisk (borderRow config balances client dormant fundAtRisk).riskScore
        config.atRiskMin = true := by
  simp [borderRow, isWorthACall, isAtRisk]

/-- A dormant row under the tiny balance, and one that is not dormant, behind it in the queue. -/
def gapRows (config : RiskConfig) (balances : Balances) : List RoutableRow :=
  [borderRow config balances 1 true 2, borderRow config balances 2 false 1]

lemma gapRows_queue (two : 1 < config.faCallCapacity) :
    callQueue (gapRows config balances) config balances = gapRows config balances := by
  have pool : callPool (gapRows config balances) config balances = gapRows config balances := by
    rw [callPool, gapRows]
    simp [borderRow_pool]
  have sorted : sortBy (fun row => -row.fundAtRisk) (gapRows config balances) =
      gapRows config balances := by
    simp [sortBy, gapRows, borderRow]
  rw [callQueue, pool, sorted, sliceUpTo_of_nonneg (by omega), List.take_of_length_le]
  rw [gapRows]
  simp
  omega

lemma gapRows_nodup : ((gapRows config balances).map RoutableRow.key).Nodup := by
  simp [gapRows, borderRow]

/-- Only the second row is called. -/
lemma gapRows_called (two : 1 < config.faCallCapacity) (lt : balances.worthACall < balances.tiny) :
    calledRows (gapRows config balances) (routed (gapRows config balances) config balances) =
      [borderRow config balances 2 false 1] := by
  have keys : callQueueKeys (gapRows config balances) config balances = [(1, 0), (2, 0)] := by
    rw [callQueueKeys, gapRows_queue two]
    rfl
  have first : routeOf (routed (gapRows config balances) config balances)
      (borderRow config balances 1 true 2) = some .smallBalanceReview := by
    rw [routeOf_routed gapRows_nodup (.head _), finalRoute, baseRoute]
    simp [isTinyBalance, borderRow, lt]
  have second : routeOf (routed (gapRows config balances) config balances)
      (borderRow config balances 2 false 1) = some .faCallPriority := by
    rw [routeOf_routed gapRows_nodup (.tail _ (.head _)), keys]
    refine congrArg some (called_of_inCallQueue ?_)
    exact fun h => Bool.false_ne_true h.2
  rw [calledRows]
  change List.filter _ [borderRow config balances 1 true 2, borderRow config balances 2 false 1] = _
  rw [List.filter_cons_of_neg (by rw [first]; decide), List.filter_cons_of_pos (by rw [second]; decide)]
  rfl

/-- The one row that is called has rank 2. -/
lemma gapRows_disorder (two : 1 < config.faCallCapacity)
    (lt : balances.worthACall < balances.tiny) :
    ¬ QueuesInOrder config (gapRows config balances)
      (routed (gapRows config balances) config balances) := by
  intro order
  have called := gapRows_called two lt
  have ranked : rankedRows (gapRows config balances) config balances = gapRows config balances := by
    have all : (gapRows config balances).filter (fun row =>
        row.key ∈ callQueueKeys (gapRows config balances) config balances) =
          gapRows config balances := by
      rw [callQueueKeys, gapRows_queue two, List.filter_eq_self]
      exact fun row mem => decide_eq_true (List.mem_map_of_mem mem)
    rw [rankedRows, all]
    simp [sortBy, gapRows, borderRow]
  have rank : rankOf (routed (gapRows config balances) config balances)
      (borderRow config balances 2 false 1) = some 2 := by
    rw [rankOf_routed gapRows_nodup (by rw [called]; exact .head _)]
    have lt : 1 < (rankedRows (gapRows config balances) config balances).length := by
      rw [ranked]
      exact Nat.one_lt_two
    have place := get?_queueRanks gapRows_nodup lt
    simp only [ranked] at place
    exact place
  have ranks := order.ranks
  rw [called, List.map_singleton, rank] at ranks
  cases List.singleton_perm_singleton.mp ranks

/-- The queues keep their order and bounds on every population if and only if the thresholds are numbers,
    the capacity is not negative, and either it holds one row at most or the balance worth a call is no
    lower than the tiny one. -/
theorem queues_in_order (config : RiskConfig) :
    (∀ rows : List RoutableRow, (rows.map RoutableRow.key).Nodup →
      ∃ results, routePopulation rows config = some results ∧ QueuesInOrder config rows results) ↔
    KeepsRanks config := by
  constructor
  · intro every
    obtain ⟨_, _, empty⟩ := every [] List.nodup_nil
    have capacity := empty.capacity
    refine ⟨capacity, ?_⟩
    obtain ⟨results, routes, _⟩ := every [borderRow config ⟨0, 0⟩ 1 true 1] (List.nodup_singleton _)
    rw [routePopulation_of_ne_nil (List.cons_ne_nil _ _)] at routes
    obtain ⟨balances, known, _⟩ := Option.map_eq_some_iff.mp routes
    refine ⟨balances, known, ?_⟩
    by_contra gap
    rw [not_or, not_le, not_le] at gap
    have nonempty : gapRows config balances ≠ [] := List.cons_ne_nil _ _
    obtain ⟨results, routes, order⟩ := every (gapRows config balances) gapRows_nodup
    rw [routePopulation_of_ne_nil nonempty, known] at routes
    cases routes
    exact gapRows_disorder gap.1 gap.2 order
  · rintro ⟨capacity, balances, known, small⟩ rows nodup
    have all : AllOrNone rows config balances := by
      cases small with
      | inl one =>
        refine allOrNone_of_le_one nodup ?_
        have le : ((callQueue rows config balances).length : ℤ) ≤ config.faCallCapacity :=
          length_callQueue capacity
        omega
      | inr le => exact allOrNone_of_le nodup le
    have order := inOrder_of_allOrNone nodup capacity known all
    cases rows with
    | nil =>
      obtain ⟨worthACall, isWorth, _⟩ := Option.bind_eq_some_iff.mp known
      obtain ⟨value, given, _⟩ := Option.bind_eq_some_iff.mp isWorth
      refine ⟨_, ?_, order⟩
      rw [routePopulation, given]
      rfl
    | cons row rest =>
      refine ⟨_, ?_, order⟩
      rw [routePopulation_of_ne_nil (List.cons_ne_nil _ _), known]
      rfl

/-- A configuration whose balance worth a call is below its tiny balance. -/
def unevenConfig : RiskConfig where
  weights := .obj [("sig_broken_pattern", .num 20), ("sig_dormant", .num 20),
    ("sig_heavy_withdrawal", .num 20), ("sig_shrinking", .num 20), ("sig_going_dormant", .num 10),
    ("sig_never_repeated", .num 10)]
  thresholds := .obj [("DORMANT_DAYS", .num 180), ("HEAVY_WITHDRAWAL_PCT", .num 90),
    ("OVERDUE_MULTIPLE", .num 3), ("SHRINKING_TREND", .num (1 / 2)), ("TINY_BALANCE", .num 100),
    ("WORTH_A_CALL_BALANCE", .num 50), ("MONTHS_UNTIL_EMPTY", .num 3), ("FEE_PER_MONTH", .num 20),
    ("SYSTEM_FEE_MAX", .num 50), ("RISK_BAND_CUTOFFS", .arr [.num 20, .num 40, .num 60, .num 80])]
  faCallCapacity := 150
  atRiskMin := 40

/-- The configuration is accepted, and the one client called has rank 2. -/
theorem rank_has_a_gap :
    validateConfig unevenConfig.weights unevenConfig.thresholds = .ok () ∧
      ∃ rows results, (rows.map RoutableRow.key).Nodup ∧
        routePopulation rows unevenConfig = some results ∧ ¬ QueuesInOrder unevenConfig rows results := by
  refine ⟨by decide +kernel, gapRows unevenConfig ⟨100, 50⟩, _, gapRows_nodup, rfl, ?_⟩
  exact gapRows_disorder (by decide) (by norm_num)

end ClientEngagement.Risk
