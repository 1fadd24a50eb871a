import ClientEngagement.Lib.PythonText
import ClientEngagement.Transform.Flatten

/-!
# Measures and features

Model of `transform/features.py`: what a client did in a fund (`deriveRelationshipMeasures`) and the
buckets of a client (`deriveFeatures`), which read the last row of each pair and the dated transactions of
a flattened run. `Derivation` holds the logarithm and the case tables they use. Two results that agree on
the funds, on the dated transactions and on the last row of every pair have the same measures and features
(`sameDerived_of_read`).
-/

namespace ClientEngagement.Transform

structure Derivation where
  log10 : ℚ → ℚ
  tables : Unicode

/-- What one client did in one fund. -/
structure RelationshipMeasures where
  clientId : ClientId
  unitFundId : FundId
  avgTicket : Option ℚ
  maxTicket : Option ℚ
  rhythmDays : Option ℚ
  firstPurchase : Option Day
  activeWindowDays : Option ℤ
  ticketTrend : Option ℚ
  firstSale : Option Day
  drawdownDays : Option ℤ
  holdDays : Option ℤ
  exitType : Option String
deriving DecidableEq

inductive RecencyBand where
  | under1y | from1to3y | from3to6y | over6y | unknown
deriving DecidableEq

inductive ValueBand where
  | low | medium | high | top
deriving DecidableEq

inductive BalanceBand where
  | nearlyEmpty | sliding | worthSaving
deriving DecidableEq

inductive CadenceBand where
  | none | tight | regular | periodic | infrequent
deriving DecidableEq

inductive HoldBand where
  | under2m | under6m | stayedMonths | stayedYears | unknown
deriving DecidableEq

inductive PurchaseDepth where
  | none | single | few | capped
deriving DecidableEq

inductive TrendBand where
  | rising | flat | falling | unknown
deriving DecidableEq

inductive ExitReason where
  | clientSale | chargeSettled | unknown
deriving DecidableEq

inductive FundType where
  | moneyMarket | highYield | other
deriving DecidableEq

inductive PriorityTier where
  | hotLeads | lowDepositors | gradualWithdrawers | frequentWithdrawers | oneTimeWithdrawers
deriving DecidableEq

structure FeatureRow where
  clientId : ClientId
  ownRhythmDays : Option ℤ
  observedVolume : ℕ
  purchasesCensored : Bool
  historyCensored : Bool
  nFunds : ℕ
  recencyBand : RecencyBand
  valueBand : ValueBand
  balanceBand : BalanceBand
  hasBalance : Bool
  cadenceBand : CadenceBand
  holdBand : HoldBand
  purchaseDepth : PurchaseDepth
  trendBand : TrendBand
  exitReason : ExitReason
  fundType : FundType
  inWave : Bool
  hasDepth : Bool
  stagedExit : Bool
  staleContact : Bool
  newlyDormant : Bool
  holdsOtherFunds : Bool
  neverFunded : Bool
  priorityTier : PriorityTier
  highValue : Bool
deriving DecidableEq

/-! ## Numbers -/

/-- The middle value, or the mean of the two in the middle. -/
def median (values : List ℚ) : ℚ :=
  let ordered := sortBy id values
  let n := ordered.length
  if n % 2 = 1 then ordered.getD (n / 2) 0
  else (ordered.getD (n / 2 - 1) 0 + ordered.getD (n / 2) 0) / 2

/-- The gaps between days in order. -/
def gapsOf (ordered : List Day) : List ℚ :=
  ordered.zipWith (fun earlier later : ℤ => ((later - earlier : ℤ) : ℚ)) ordered.tail

/-- `_rhythm_days`: the typical gap between the days of purchase, in whole days. -/
def rhythmDays (dates : List Day) : Option ℤ :=
  let unique := sortBy id dates.dedup
  if unique.length < 2 then none
  else
    let typical := median (gapsOf unique)
    some (if 0 ≤ typical then typical.floor else typical.ceil)

/-- `_typical_gap`: the median gap, repeats of a day included. -/
def typicalGap (dates : List Day) : Option ℚ :=
  if dates.length < 2 then none else some (median (gapsOf (sortBy id dates)))

/-- `_trend_change`: the slope of the logarithms. -/
def trendChange (log10 : ℚ → ℚ) (amounts : List ℚ) : Option ℚ :=
  if amounts.length < 3 then none
  else
    let ys := amounts.map fun amount => log10 (max amount 1)
    let n : ℚ := ys.length
    let meanX := (n - 1) / 2
    let meanY := ys.sum / n
    let variance := ((List.range ys.length).map fun x : ℕ => ((x : ℚ) - meanX) ^ 2).sum
    if variance = 0 then none
    else some ((ys.zipIdx.map fun (y, x) => ((x : ℚ) - meanX) * (y - meanY)).sum / variance)

/-! ## Bands -/

def recencyBand : Option ℤ → RecencyBand
  | none => .unknown
  | some days =>
    if days ≤ 365 then .under1y
    else if days ≤ 1095 then .from1to3y
    else if days ≤ 2190 then .from3to6y
    else .over6y

def valueBand : Option ℚ → ValueBand
  | none => .low
  | some avgTicket =>
    if 5250 < avgTicket then .top
    else if 1000 < avgTicket then .high
    else if 150 < avgTicket then .medium
    else .low

def balanceBand (balance : ℚ) : BalanceBand :=
  if balance < 50 then .nearlyEmpty else if balance < 600 then .sliding else .worthSaving

def cadenceBand : Option ℚ → CadenceBand
  | none => .none
  | some rhythmDays =>
    if rhythmDays < 1 then .none
    else if rhythmDays ≤ 45 then .tight
    else if rhythmDays ≤ 90 then .regular
    else if rhythmDays ≤ 365 then .periodic
    else .infrequent

def holdBand : Option ℤ → HoldBand
  | none => .unknown
  | some holdDays =>
    if holdDays ≤ 60 then .under2m
    else if holdDays ≤ 180 then .under6m
    else if holdDays < 365 then .stayedMonths
    else .stayedYears

def purchaseDepth (nPurchases : ℕ) : PurchaseDepth :=
  if purchaseCap ≤ nPurchases then .capped
  else if 2 ≤ nPurchases then .few
  else if nPurchases = 1 then .single
  else .none

def trendBand : Option ℚ → TrendBand
  | none => .unknown
  | some ticketTrend =>
    if 15 / 100 ≤ ticketTrend then .rising
    else if ticketTrend ≤ -(15 / 100) then .falling
    else .flat

def exitReason : Option String → ExitReason
  | some "unit_sale" => .clientSale
  | some "bill_payment" => .chargeSettled
  | some "interest" => .chargeSettled
  | _ => .unknown

def fundTypeFromName (tables : Unicode) (fundName : Option String) : FundType :=
  let name := lower tables (fundName.getD "").toList
  if occursIn "money market".toList name then .moneyMarket
  else if occursIn "high yield".toList name then .highYield
  else .other

/-- The year and the month of a day. -/
def yearMonth (day : Day) : ℤ × ℤ :=
  -- years run from March here, in eras of 400 of them
  let z : ℤ := day + 719468
  let era := z / 146097
  let doe := z % 146097
  let yoe := (doe - doe / 1460 + doe / 36524 - doe / 146096) / 365
  let doy := doe - (365 * yoe + yoe / 4 - yoe / 100)
  let mp := (5 * doy + 2) / 153
  let month := if mp < 10 then mp + 3 else mp - 9
  (yoe + era * 400 + (if month ≤ 2 then 1 else 0), month)

def waveMonths : List (ℤ × ℤ) :=
  [(2020, 1), (2020, 9), (2021, 6), (2023, 1), (2023, 9), (2024, 1), (2024, 2), (2024, 3), (2026, 7)]

def inWave : Option Day → Bool
  | none => false
  | some exitDate => waveMonths.contains (yearMonth exitDate)

def dormantFeeAmount : ℚ := 50

/-- `_withdrawal_cluster`. -/
def withdrawalCluster (lifetimeDeposits : ℚ) (realSaleDates : List Day) : PriorityTier :=
  let span := (realSaleDates.max?.getD 0 : ℤ) - realSaleDates.min?.getD 0
  if lifetimeDeposits ≤ 0 then .hotLeads
  else if lifetimeDeposits ≤ 6000 then .lowDepositors
  else if 3 ≤ realSaleDates.length ∧ 180 ≤ span then .gradualWithdrawers
  -- a typical gap of zero counts as none at all
  else if 2 ≤ realSaleDates.length ∧ (typicalGap realSaleDates).any (fun gap => gap ≠ 0 ∧ gap ≤ 30) then
    .frequentWithdrawers
  else .oneTimeWithdrawers

def hasDepth (nPurchases : ℕ) (activeWindowDays : Option ℤ) : Bool :=
  decide (3 ≤ nPurchases) || activeWindowDays.any (180 ≤ ·)

/-! ## Rows -/

/-- The largest observed purchase volume first, the lowest fund id among equals. -/
def largestFirst (rows : List ClientRow) : List ClientRow :=
  sortBy (fun row => toLex (-row.totalPurchaseAmount, row.unitFundId)) rows

/-- The last row of each pair. -/
def uniqueRows (result : FlattenResult) : Dict Pair ClientRow :=
  .ofList (result.clients.map fun row => (row.pair, row))

def relationshipsByClient (result : FlattenResult) : Dict ClientId (List ClientRow) :=
  .groupBy ClientRow.clientId ((uniqueRows result).items.map Prod.snd)

/-! ## Measures -/

/-- The dated transactions of a type and a pair. -/
def datedTxns (result : FlattenResult) (txnType : TxnType) (pair : Pair) : List (Day × TxnRow) :=
  result.transactions.filterMap fun txn =>
    txn.date.bind fun date =>
      if txn.txnType = txnType ∧ txn.clientId = pair.1 ∧ txn.unitFundId = some pair.2 then
        some (date, txn)
      else none

/-- What `derive_relationship_measures` puts down for a pair. -/
def measureOf (derivation : Derivation) (result : FlattenResult) (pair : Pair) :
    RelationshipMeasures :=
  let bought := sortBy Prod.fst (datedTxns result .purchase pair)
  let sold := sortBy Prod.fst (datedTxns result .sale pair)
  let amounts := bought.map fun txn => txn.2.amount
  let buyDates := bought.map Prod.fst
  let sellDates := sold.map Prod.fst
  let spanOf (dates : List Day) : Option ℤ :=
    dates.getLast?.bind fun last : ℤ => dates.head?.map fun first : ℤ => last - first
  let realSold := sold.filter fun txn => dormantFeeAmount < txn.2.amount
  { clientId := pair.1
    unitFundId := pair.2
    avgTicket := if amounts.isEmpty then none else some (amounts.sum / amounts.length)
    maxTicket := amounts.max?
    rhythmDays := typicalGap buyDates
    firstPurchase := buyDates.head?
    activeWindowDays := spanOf buyDates
    ticketTrend := trendChange derivation.log10 amounts
    firstSale := sellDates.head?
    drawdownDays := if 2 ≤ realSold.length then spanOf (realSold.map Prod.fst) else none
    holdDays := sellDates.getLast?.bind fun sell : ℤ =>
      buyDates.getLast?.map fun buy : ℤ => max (sell - buy) 0
    exitType := sold.getLast?.bind fun txn => txn.2.saleType }

/-- A pair is measured where its first row is. -/
def deriveRelationshipMeasures (derivation : Derivation) (result : FlattenResult) :
    Dict Pair RelationshipMeasures :=
  result.clients.foldl (fun measures row =>
    if measures.contains row.pair then measures
    else measures.set row.pair (measureOf derivation result row.pair)) .empty

/-! ## Features -/

/-- The days a client bought on. -/
def purchaseDates (result : FlattenResult) (clientId : ClientId) : List Day :=
  (result.transactions.filter fun txn => txn.txnType = .purchase ∧ txn.clientId = clientId).filterMap
    TxnRow.date

/-- The days of a client's sales above the dormancy fee. -/
def realSaleDates (result : FlattenResult) (clientId : ClientId) : List Day :=
  (result.transactions.filter fun txn => txn.txnType = .sale ∧ txn.clientId = clientId ∧
    dormantFeeAmount < txn.amount).filterMap TxnRow.date

/-- The features of a client from its rows, the one it is contacted on first. -/
def featureRow (derivation : Derivation) (result : FlattenResult) (clientId : ClientId)
    (ordered : List ClientRow) (primary : ClientRow) (measure : RelationshipMeasures) : FeatureRow :=
  let balance := (ordered.map fun row => row.balance.getD 0).sum
  let lifetimeDeposits := (ordered.map ClientRow.totalPurchaseAmount).sum
  let fundNames : Dict FundId (Option String) :=
    .ofList (result.funds.map fun fund => (fund.unitFundId, fund.unitFundName))
  { clientId := clientId
    ownRhythmDays := rhythmDays (purchaseDates result clientId)
    observedVolume := (ordered.map ClientRow.nPurchasesReturned).sum
    purchasesCensored := ordered.any ClientRow.purchasesCensored
    historyCensored := ordered.any ClientRow.historyCensored
    nFunds := ordered.length
    recencyBand := recencyBand primary.daysSinceLastActivity
    valueBand := valueBand measure.avgTicket
    balanceBand := balanceBand balance
    hasBalance := 0 < balance
    cadenceBand := cadenceBand measure.rhythmDays
    holdBand := holdBand measure.holdDays
    purchaseDepth := purchaseDepth primary.nPurchasesReturned
    trendBand := trendBand measure.ticketTrend
    exitReason := exitReason measure.exitType
    fundType := fundTypeFromName derivation.tables ((fundNames.get? primary.unitFundId).join)
    inWave := inWave primary.lastActivityDate
    hasDepth := hasDepth primary.nPurchasesReturned measure.activeWindowDays
    stagedExit := measure.drawdownDays.any (180 ≤ ·)
    staleContact := primary.daysSinceLastActivity.any (1095 < ·)
    newlyDormant := primary.daysSinceLastActivity.any (· ≤ 90)
    holdsOtherFunds := 1 < ordered.length
    neverFunded := lifetimeDeposits ≤ 0
    priorityTier := withdrawalCluster lifetimeDeposits (realSaleDates result clientId)
    highValue := 100000 ≤ lifetimeDeposits }

/-- One row for each client; a pair without a measure raises. -/
def deriveFeatures (derivation : Derivation) (result : FlattenResult)
    (measures : Dict Pair RelationshipMeasures) : Option (List FeatureRow) :=
  (relationshipsByClient result).items.mapM fun (clientId, rows) => do
    let ordered := largestFirst rows
    let primary ← ordered.head?
    let measure ← measures.get? primary.pair
    some (featureRow derivation result clientId ordered primary measure)

/-! ## What they read -/

/-- The row of a pair that is read last. -/
def lastRow (rows : List ClientRow) (pair : Pair) : Option ClientRow :=
  (rows.filter fun row => row.pair = pair).getLast?

/-- The same funds, the same dated transactions and the same last row of every pair. -/
structure SameRead (a b : FlattenResult) : Prop where
  funds : a.funds = b.funds
  dated : a.transactions.filter (fun txn => txn.date.isSome) =
    b.transactions.filter fun txn => txn.date.isSome
  rows : ∀ pair, lastRow a.clients pair = lastRow b.clients pair

/-- The name the features read of a fund. -/
def fundName (result : FlattenResult) (fundId : FundId) : Option String :=
  ((Dict.ofList (result.funds.map fun fund => (fund.unitFundId, fund.unitFundName))).get? fundId).join

/-- What the derivations depend on: the last row of every pair, the name of its fund, its dated
    transactions in the order of their days, and the days each client bought and sold on. -/
structure SameGroups (a b : FlattenResult) : Prop where
  rows : ∀ pair, lastRow a.clients pair = lastRow b.clients pair
  names : ∀ row ∈ a.clients, fundName a row.unitFundId = fundName b row.unitFundId
  dated : ∀ row ∈ a.clients, ∀ txnType,
    sortBy Prod.fst (datedTxns a txnType row.pair) = sortBy Prod.fst (datedTxns b txnType row.pair)
  bought : ∀ clientId, (purchaseDates a clientId).Perm (purchaseDates b clientId)
  sold : ∀ clientId, (realSaleDates a clientId).Perm (realSaleDates b clientId)

/-- The same measures, and the same features in some order. -/
structure SameDerived (derivation : Derivation) (a b : FlattenResult) : Prop where
  measures : (deriveRelationshipMeasures derivation a).Same (deriveRelationshipMeasures derivation b)
  features : ∃ of_a of_b,
    deriveFeatures derivation a (deriveRelationshipMeasures derivation a) = some of_a ∧
    deriveFeatures derivation b (deriveRelationshipMeasures derivation b) = some of_b ∧ of_a.Perm of_b

variable {derivation : Derivation} {result a b : FlattenResult} {pair : Pair} {clientId : ClientId}

lemma get?_uniqueRows : (uniqueRows result).get? pair = lastRow result.clients pair := by
  rw [uniqueRows, Dict.ofList, Dict.get?_foldl_set, lastRow, List.filter_map, List.getLast?_map,
    Option.map_map]
  show (Option.map id _).or none = _
  rw [Option.map_id, Option.or_none]
  rfl

lemma lastRow_pair {rows : List ClientRow} {row : ClientRow} (last : lastRow rows pair = some row) :
    row ∈ rows ∧ row.pair = pair := by
  have mem := List.mem_of_getLast? last
  exact ⟨(List.mem_filter.mp mem).1, of_decide_eq_true (List.mem_filter.mp mem).2⟩

lemma lastRow_isSome {rows : List ClientRow} :
    (lastRow rows pair).isSome ↔ pair ∈ rows.map ClientRow.pair := by
  rw [lastRow, List.getLast?_isSome, ne_eq, List.filter_eq_nil_iff, List.mem_map]
  simp

lemma mem_uniqueRows {row : ClientRow} : row ∈ (uniqueRows result).items.map Prod.snd ↔
    lastRow result.clients row.pair = some row := by
  rw [List.mem_map, ← get?_uniqueRows]
  constructor
  · rintro ⟨⟨pair, row⟩, mem, rfl⟩
    have found := (Dict.mem_items_iff _).mp mem
    have last := found
    rw [get?_uniqueRows] at last
    rw [(lastRow_pair last).2]
    exact found
  · intro found
    exact ⟨(row.pair, row), (Dict.mem_items_iff _).mpr found, rfl⟩

/-! ## Measures of the same -/

lemma filterMap_filter_of {α β : Type*} {f : α → Option β} {p : α → Bool} {l : List α}
    (h : ∀ x, p x = false → f x = none) : l.filterMap f = (l.filter p).filterMap f := by
  induction l with
  | nil => rfl
  | cons x l ih =>
    cases kept : p x with
    | true => rw [List.filter_cons_of_pos kept, List.filterMap_cons, List.filterMap_cons, ih]
    | false => rw [List.filter_cons_of_neg (by simp [kept]), List.filterMap_cons_none (h x kept), ih]

lemma datedTxns_filter (result : FlattenResult) (txnType : TxnType) : datedTxns result txnType pair =
    datedTxns { result with
      transactions := result.transactions.filter fun txn => txn.date.isSome } txnType pair := by
  refine filterMap_filter_of fun txn undated => ?_
  rw [Option.isSome_eq_false_iff, Option.isNone_iff_eq_none] at undated
  rw [undated]
  rfl

/-- What is read in the same order is the same for every derivation. -/
lemma SameRead.groups (same : SameRead a b) : SameGroups a b := by
  have dates : ∀ p : TxnRow → Bool, (a.transactions.filter p).filterMap TxnRow.date =
      (b.transactions.filter p).filterMap TxnRow.date := by
    intro p
    have undated : ∀ txn : TxnRow, txn.date.isSome = false → txn.date = none := fun txn undated =>
      Option.isNone_iff_eq_none.mp (Option.isSome_eq_false_iff.mp undated)
    rw [filterMap_filter_of undated, filterMap_filter_of undated (l := b.transactions.filter p),
      List.filter_comm, same.dated, List.filter_comm]
  refine ⟨same.rows, fun row _ => ?_, fun row _ txnType => ?_, fun clientId => ?_, fun clientId => ?_⟩
  · rw [fundName, fundName, same.funds]
  · have dated : datedTxns a txnType row.pair = datedTxns b txnType row.pair := by
      rw [datedTxns_filter a, datedTxns_filter b, same.dated]
      rfl
    rw [dated]
  · exact .of_eq (dates _)
  · exact .of_eq (dates _)

lemma measureOf_eq (same : SameGroups a b) {row : ClientRow} (mem : row ∈ a.clients) :
    measureOf derivation a row.pair = measureOf derivation b row.pair := by
  rw [measureOf, measureOf, same.dated row mem, same.dated row mem]

lemma get?_measures : (deriveRelationshipMeasures derivation result).get? pair =
    (lastRow result.clients pair).map fun _ => measureOf derivation result pair := by
  have key : ∀ (rows : List ClientRow) (measures : Dict Pair RelationshipMeasures),
      (∀ measure, measures.get? pair = some measure → measure = measureOf derivation result pair) →
      (rows.foldl (fun measures row =>
        if measures.contains row.pair then measures
        else measures.set row.pair (measureOf derivation result row.pair)) measures).get? pair =
        if pair ∈ rows.map ClientRow.pair then some (measureOf derivation result pair)
        else measures.get? pair := by
    intro rows
    induction rows with
    | nil => exact fun _ _ => rfl
    | cons row rows ih =>
      intro measures right
      rw [List.foldl_cons, List.map_cons]
      by_cases same : row.pair = pair
      · rw [same, if_pos List.mem_cons_self]
        cases found : measures.get? pair with
        | none =>
          have absent : measures.contains pair = false := by rw [Dict.contains, found]; rfl
          rw [absent, if_neg (by decide), ih]
          · rw [Dict.get?_set_self]
            split <;> rfl
          · intro measure set
            exact (Option.some.inj ((Dict.get?_set_self ..).symm.trans set)).symm
        | some measure =>
          have present : measures.contains pair = true := by rw [Dict.contains, found]; rfl
          rw [present, if_pos rfl, ih _ right, found, right measure found]
          split <;> rfl
      · have other : (pair ∈ row.pair :: rows.map ClientRow.pair) ↔ pair ∈ rows.map ClientRow.pair := by
          rw [List.mem_cons]
          exact or_iff_right (Ne.symm same)
        rw [if_congr other rfl rfl]
        split
        · rw [ih _ right]
        · rw [ih, Dict.get?_set_ne _ _ (Ne.symm same)]
          intro measure set
          rw [Dict.get?_set_ne _ _ (Ne.symm same)] at set
          exact right measure set
  rw [deriveRelationshipMeasures, key result.clients .empty fun _ found => by cases found]
  cases last : lastRow result.clients pair with
  | none =>
    have absent : pair ∉ result.clients.map ClientRow.pair := by
      rw [← lastRow_isSome, last]
      exact Bool.false_ne_true
    rw [if_neg absent]
    rfl
  | some row =>
    rw [if_pos (lastRow_isSome.mp (by rw [last]; rfl))]
    rfl

/-! ## Features of the same -/

/-- The last rows of a client. -/
def rowsOfClient (result : FlattenResult) (clientId : ClientId) : List ClientRow :=
  ((uniqueRows result).items.map Prod.snd).filter fun row => row.clientId = clientId

/-- What `deriveFeatures` makes of a client. -/
def featureOf (derivation : Derivation) (result : FlattenResult) (clientId : ClientId) :
    Option FeatureRow :=
  (largestFirst (rowsOfClient result clientId)).head?.map fun primary =>
    featureRow derivation result clientId (largestFirst (rowsOfClient result clientId)) primary
      (measureOf derivation result primary.pair)

lemma mapM_eq_filterMap {α β : Type*} {f g : α → Option β} {l : List α}
    (same : ∀ x ∈ l, f x = g x) (all : ∀ x ∈ l, (g x).isSome) : l.mapM f = some (l.filterMap g) := by
  induction l with
  | nil => rfl
  | cons x l ih =>
    obtain ⟨y, found⟩ := Option.isSome_iff_exists.mp (all x List.mem_cons_self)
    rw [List.mapM_cons, same x List.mem_cons_self, found, List.filterMap_cons_some found,
      ih (fun x mem => same x (List.mem_cons_of_mem _ mem)) fun x mem => all x (List.mem_cons_of_mem _ mem)]
    rfl

lemma mem_largestFirst {rows : List ClientRow} {row : ClientRow} :
    row ∈ largestFirst rows ↔ row ∈ rows := mem_sortBy

lemma deriveFeatures_eq :
    deriveFeatures derivation result (deriveRelationshipMeasures derivation result) =
      some ((relationshipsByClient result).keys.filterMap (featureOf derivation result)) := by
  rw [deriveFeatures, Dict.keys, List.filterMap_map]
  refine mapM_eq_filterMap (fun group mem => ?_) fun group mem => ?_
  · obtain ⟨clientId, rows⟩ := group
    obtain ⟨rfl, -⟩ := Dict.mem_items_groupBy.mp mem
    show _ = featureOf derivation result clientId
    rw [featureOf]
    show ((largestFirst (rowsOfClient result clientId)).head?.bind fun primary =>
      ((deriveRelationshipMeasures derivation result).get? primary.pair).bind fun measure =>
        some (featureRow derivation result clientId (largestFirst (rowsOfClient result clientId)) primary
          measure)) = _
    cases head : (largestFirst (rowsOfClient result clientId)).head? with
    | none => rfl
    | some primary =>
      have mem := mem_largestFirst.mp (List.mem_of_head? head)
      have last := mem_uniqueRows.mp (List.mem_filter.mp mem).1
      rw [Option.bind_some, get?_measures, last]
      rfl
  · obtain ⟨clientId, rows⟩ := group
    obtain ⟨rfl, nonempty⟩ := Dict.mem_items_groupBy.mp mem
    show (featureOf derivation result clientId).isSome
    rw [featureOf, Option.isSome_map, List.isSome_head?]
    have length := (sortBy_perm (fun row : ClientRow => toLex (-row.totalPurchaseAmount, row.unitFundId))
      (rowsOfClient result clientId)).length_eq
    intro empty
    rw [largestFirst] at empty
    rw [empty] at length
    exact nonempty (List.length_eq_zero_iff.mp length.symm)

lemma uniqueRows_same (same : SameGroups a b) : (uniqueRows a).Same (uniqueRows b) := by
  intro pair
  rw [get?_uniqueRows, get?_uniqueRows, same.rows]

lemma rowsOfClient_perm (same : SameGroups a b) :
    (rowsOfClient a clientId).Perm (rowsOfClient b clientId) :=
  ((uniqueRows_same same).items_perm.map Prod.snd).filter _

lemma mem_clients : clientId ∈ (relationshipsByClient result).keys ↔ rowsOfClient result clientId ≠ [] := by
  rw [Dict.mem_keys_iff]
  constructor
  · rintro ⟨group, found⟩
    obtain ⟨rfl, nonempty⟩ := Dict.mem_items_groupBy.mp ((Dict.mem_items_iff _).mpr found)
    exact nonempty
  · intro nonempty
    exact ⟨_, (Dict.mem_items_iff _).mp (Dict.mem_items_groupBy.mpr ⟨rfl, nonempty⟩)⟩

lemma largestFirst_eq (same : SameGroups a b) :
    largestFirst (rowsOfClient a clientId) = largestFirst (rowsOfClient b clientId) := by
  refine sortBy_eq_of_perm (rowsOfClient_perm same) fun row mem row' mem' equal => ?_
  obtain ⟨mem, mine⟩ := List.mem_filter.mp mem
  obtain ⟨mem', mine'⟩ := List.mem_filter.mp mem'
  have fund : row.unitFundId = row'.unitFundId := congrArg (fun key => (ofLex key).2) equal
  have pair : row.pair = row'.pair := by
    rw [ClientRow.pair, ClientRow.pair, of_decide_eq_true mine, of_decide_eq_true mine', fund]
  have last := mem_uniqueRows.mp mem
  rw [pair, mem_uniqueRows.mp mem'] at last
  exact (Option.some.inj last).symm

/-- A contact row is a row of the run. -/
lemma mem_clients_of_rowsOfClient {row : ClientRow} (mem : row ∈ rowsOfClient result clientId) :
    row ∈ result.clients :=
  (lastRow_pair (mem_uniqueRows.mp (List.mem_filter.mp mem).1)).1

lemma rhythmDays_perm {dates dates' : List Day} (perm : dates.Perm dates') :
    rhythmDays dates = rhythmDays dates' := by
  have ordered : sortBy id dates.dedup = sortBy id dates'.dedup :=
    sortBy_eq_of_perm perm.dedup fun _ _ _ _ same => same
  rw [rhythmDays, rhythmDays, ordered]

/-- The order of the sales does not matter. -/
lemma withdrawalCluster_perm {lifetime : ℚ} {arrived dates : List Day} (perm : arrived.Perm dates) :
    withdrawalCluster lifetime arrived = withdrawalCluster lifetime dates := by
  have ordered : sortBy id arrived = sortBy id dates := sortBy_eq_of_perm perm fun _ _ _ _ same => same
  have gap : typicalGap arrived = typicalGap dates := by
    rw [typicalGap, typicalGap, perm.length_eq, ordered]
  have low : arrived.min? = dates.min? := Option.ext fun day => by
    rw [List.min?_eq_some_iff, List.min?_eq_some_iff, perm.mem_iff]
    exact and_congr_right fun _ => forall_congr' fun _ => by rw [perm.mem_iff]
  have high : arrived.max? = dates.max? := Option.ext fun day => by
    rw [List.max?_eq_some_iff, List.max?_eq_some_iff, perm.mem_iff]
    exact and_congr_right fun _ => forall_congr' fun _ => by rw [perm.mem_iff]
  rw [withdrawalCluster, withdrawalCluster, perm.length_eq, gap, low, high]

lemma featureRow_eq (same : SameGroups a b) {ordered : List ClientRow} {primary : ClientRow}
    (mem : primary ∈ a.clients) {measure : RelationshipMeasures} :
    featureRow derivation a clientId ordered primary measure =
      featureRow derivation b clientId ordered primary measure := by
  have name := same.names primary mem
  rw [fundName, fundName] at name
  simp only [featureRow]
  rw [rhythmDays_perm (same.bought clientId), withdrawalCluster_perm (same.sold clientId), name]

lemma featureOf_eq (same : SameGroups a b) :
    featureOf derivation a clientId = featureOf derivation b clientId := by
  rw [featureOf, featureOf, ← largestFirst_eq same]
  cases head : (largestFirst (rowsOfClient a clientId)).head? with
  | none => rfl
  | some primary =>
    have mem := mem_clients_of_rowsOfClient (mem_largestFirst.mp (List.mem_of_head? head))
    rw [Option.map_some, Option.map_some, featureRow_eq same mem, measureOf_eq same mem]

/-- Measures and features depend on the groups alone. -/
theorem sameDerived_of_groups (same : SameGroups a b) : SameDerived derivation a b := by
  constructor
  · intro pair
    rw [get?_measures, get?_measures, ← same.rows]
    cases last : lastRow a.clients pair with
    | none => rfl
    | some row =>
      obtain ⟨mem, rfl⟩ := lastRow_pair last
      rw [Option.map_some, Option.map_some, measureOf_eq same mem]
  · refine ⟨_, _, deriveFeatures_eq, deriveFeatures_eq, ?_⟩
    have keys : (relationshipsByClient a).keys.Perm (relationshipsByClient b).keys := by
      rw [List.perm_ext_iff_of_nodup (Dict.keys_nodup _) (Dict.keys_nodup _)]
      intro clientId
      have rows : (rowsOfClient a clientId).Perm (rowsOfClient b clientId) := rowsOfClient_perm same
      rw [mem_clients, mem_clients, ne_eq, ne_eq, ← List.length_eq_zero_iff, rows.length_eq,
        List.length_eq_zero_iff]
    have function : featureOf derivation a = featureOf derivation b :=
      funext fun clientId => featureOf_eq same
    rw [function]
    exact keys.filterMap _

/-- Measures and features depend on the funds, the dated transactions and the last rows alone. -/
theorem sameDerived_of_read (same : SameRead a b) : SameDerived derivation a b :=
  sameDerived_of_groups same.groups

end ClientEngagement.Transform
