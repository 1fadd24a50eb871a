import ClientEngagement.Lib.Grouping
import ClientEngagement.Rules.Catalog

/-!
# Results added up by period

Model of `agents/action_performance.py`: the measured results with their joined rows are tallied by period and
by the labels they are compared on, and the rows of that period length and window are written anew. Instants
are microseconds; for a positive period Lean's integer division is Python's. `performance_partitions` says that
the rows partition the results of the complete periods.
-/

namespace ClientEngagement.Agents.Performance
open Rules (Instant)

def noneLabel : String := "none"
def unknownLabel : String := "unknown"

def microsecondsPerHour : ℤ := 3600000000

/-! ## Tables -/

structure ActionResult where
  proposalId : ℤ
  clientId : ℤ
  unitFundId : ℤ
  messageId : String
  sentAt : Instant
  windowDays : ℤ
  replied : Bool
  optedOut : Bool
  reviewerChanged : Bool
  deposited : Bool
  depositAmountKes : ℚ

structure AgentProposal where
  groupName : String
  actionCode : String
  angle : Option String
  contentMix : Option String
  variant : Option String

structure AgentProposalVariant where
  angle : String
  contentMix : Option String

structure RiskSnapshot where
  clientId : ℤ
  unitFundId : ℤ
  createdAt : Instant
  riskBand : String

/-- The tables a rebuild reads, each under its primary key or its UNIQUE constraint. -/
structure Tables where
  results : List ActionResult := []
  proposals : Dict ℤ AgentProposal := .empty
  /-- The `generation_run_id` of each message. -/
  messages : Dict String String := .empty
  /-- The `priority_tier` of each generation run. -/
  runs : Dict String (Option String) := .empty
  /-- The `variant` of each client of a proposal. -/
  proposalClients : Dict (ℤ × ℤ × ℤ) (Option String) := .empty
  variants : Dict (ℤ × String) AgentProposalVariant := .empty
  snapshots : List RiskSnapshot := []

structure DetailRow where
  sentAt : Instant
  groupName : String
  replied : Bool
  optedOut : Bool
  reviewerChanged : Bool
  deposited : Bool
  depositAmountKes : ℚ
  actionCode : String
  angle : String
  priorityTier : String
  riskBand : String
  contentMix : String
  variant : String

/-- The latest band of a result's client fund up to its send; of equal times the first row there is. -/
def bandAtSend (tables : Tables) (result : ActionResult) : Option String :=
  (minBy (fun snapshot => OrderDual.toDual snapshot.createdAt) (tables.snapshots.filter fun snapshot =>
    snapshot.clientId = result.clientId ∧ snapshot.unitFundId = result.unitFundId ∧
      snapshot.createdAt ≤ result.sentAt)).map RiskSnapshot.riskBand

/-- One result with its joined rows: the proposal and the message must be there, the others may be. -/
def detailRow (tables : Tables) (result : ActionResult) : Option DetailRow :=
  match tables.proposals.get? result.proposalId, tables.messages.get? result.messageId with
  | some proposal, some generationRunId =>
    let priorityTier := (tables.runs.get? generationRunId).bind id
    let clientVariant :=
      (tables.proposalClients.get? (result.proposalId, result.clientId, result.unitFundId)).bind id
    let proposalVariant := clientVariant.bind fun variant => tables.variants.get? (result.proposalId, variant)
    let contentMix :=
      match proposalVariant with
      | none => proposal.contentMix
      | some variant => variant.contentMix
    some
      { sentAt := result.sentAt
        groupName := proposal.groupName
        replied := result.replied
        optedOut := result.optedOut
        reviewerChanged := result.reviewerChanged
        deposited := result.deposited
        depositAmountKes := result.depositAmountKes
        actionCode := proposal.actionCode
        angle := ((proposalVariant.map AgentProposalVariant.angle).or proposal.angle).getD noneLabel
        priorityTier := priorityTier.getD unknownLabel
        riskBand := (bandAtSend tables result).getD unknownLabel
        contentMix := contentMix.getD noneLabel
        variant := (clientVariant.or proposal.variant).getD noneLabel }
  | _, _ => none

def detailQuery (tables : Tables) (windowDays : ℤ) (completeBefore : Instant) : List DetailRow :=
  (tables.results.filter fun result =>
    result.windowDays = windowDays ∧ result.sentAt < completeBefore).filterMap (detailRow tables)

/-! ## Periods -/

structure Cut where
  anchor : Instant
  periodHours : ℤ
  windowDays : ℤ
  computedAt : Instant

def Cut.period (cut : Cut) : ℤ := cut.periodHours * microsecondsPerHour

def Cut.lastCompleteIndex (cut : Cut) : ℤ :=
  let measurableUntil := cut.computedAt - cut.windowDays * (24 * microsecondsPerHour)
  (measurableUntil - cut.anchor) / cut.period - 1

def Cut.indexOf (cut : Cut) (moment : Instant) : ℤ := (moment - cut.anchor) / cut.period

def Cut.startOf (cut : Cut) (index : ℤ) : Instant := cut.anchor + index * cut.period

/-! ## Tallies -/

structure Cell where
  periodIndex : ℤ
  actionCode : String
  angle : String
  priorityTier : String
  riskBand : String
  contentMix : String
  variant : String
deriving DecidableEq

structure Tally where
  sent : ℕ := 0
  replied : ℕ := 0
  optedOut : ℕ := 0
  edited : ℕ := 0
  deposited : ℕ := 0
  moneyInKes : ℚ := 0

def Cut.cellOf (cut : Cut) (row : DetailRow) : Cell where
  periodIndex := cut.indexOf row.sentAt
  actionCode := row.actionCode
  angle := row.angle
  priorityTier := row.priorityTier
  riskBand := row.riskBand
  contentMix := row.contentMix
  variant := row.variant

def Tally.add (row : DetailRow) (tally : Tally) : Tally where
  sent := tally.sent + 1
  replied := tally.replied + row.replied.toNat
  optedOut := tally.optedOut + row.optedOut.toNat
  edited := tally.edited + row.reviewerChanged.toNat
  deposited := tally.deposited + row.deposited.toNat
  moneyInKes := tally.moneyInKes + row.depositAmountKes

/-- `_tally_results`. -/
def tallyResults (tables : Tables) (cut : Cut) (completeBefore : Instant) : Dict Cell Tally :=
  gather cut.cellOf {} Tally.add (detailQuery tables cut.windowDays completeBefore)

structure ActionPerformance where
  periodStart : Instant
  periodEnd : Instant
  periodHours : ℤ
  windowDays : ℤ
  actionCode : String
  angle : String
  priorityTier : String
  riskBand : String
  contentMix : String
  variant : String
  sentCount : ℕ
  repliedCount : ℕ
  optedOutCount : ℕ
  editedCount : ℕ
  depositedCount : ℕ
  replyRate : ℚ
  optOutRate : ℚ
  editRate : ℚ
  depositRate : ℚ
  moneyInKes : ℚ
  computedAt : Instant

/-- `_row`. -/
def performanceRow (cut : Cut) (cell : Cell) (tally : Tally) : ActionPerformance :=
  let start := cut.startOf cell.periodIndex
  { periodStart := start
    periodEnd := start + cut.period
    periodHours := cut.periodHours
    windowDays := cut.windowDays
    actionCode := cell.actionCode
    angle := cell.angle
    priorityTier := cell.priorityTier
    riskBand := cell.riskBand
    contentMix := cell.contentMix
    variant := cell.variant
    sentCount := tally.sent
    repliedCount := tally.replied
    optedOutCount := tally.optedOut
    editedCount := tally.edited
    depositedCount := tally.deposited
    replyRate := tally.replied / tally.sent
    optOutRate := tally.optedOut / tally.sent
    editRate := tally.edited / tally.sent
    depositRate := tally.deposited / tally.sent
    moneyInKes := tally.moneyInKes
    computedAt := cut.computedAt }

/-- The columns of `uq_action_performance_period_key`. -/
def ActionPerformance.uniqueKey (row : ActionPerformance) : Instant × ℤ × ℤ × List String :=
  (row.periodStart, row.periodHours, row.windowDays,
    [row.actionCode, row.angle, row.priorityTier, row.riskBand, row.contentMix, row.variant])

def isOfCut (cut : Cut) (row : ActionPerformance) : Bool :=
  row.periodHours = cut.periodHours ∧ row.windowDays = cut.windowDays

/-- `_rebuild_window`. -/
def rebuildWindow (tables : Tables) (cut : Cut) (table : List ActionPerformance) : List ActionPerformance :=
  let completeBefore := cut.startOf (cut.lastCompleteIndex + 1)
  let tallies := tallyResults tables cut completeBefore
  let rows := tallies.items.map fun (cell, tally) => performanceRow cut cell tally
  table.filter (fun row => !isOfCut cut row) ++ rows

/-- `build_action_performance`. -/
def buildActionPerformance (tables : Tables) (anchor : Instant) (hours : ℤ) (windows : List ℤ) (now : Instant)
    (table : List ActionPerformance) : List ActionPerformance :=
  windows.foldl (fun table windowDays => rebuildWindow tables ⟨anchor, hours, windowDays, now⟩ table) table

/-! ## Periods tile time -/

variable {tables : Tables} {cut : Cut} {table : List ActionPerformance}

lemma Cut.period_pos (positive : 0 < cut.periodHours) : 0 < cut.period := Int.mul_pos positive (by decide)

lemma Cut.startOf_succ (cut : Cut) (index : ℤ) : cut.startOf (index + 1) = cut.startOf index + cut.period := by
  simp only [Cut.startOf]
  ring

/-- A moment lies in the period of its index and in no other. -/
lemma Cut.indexOf_eq_iff (positive : 0 < cut.periodHours) {moment : Instant} {index : ℤ} :
    cut.indexOf moment = index ↔ cut.startOf index ≤ moment ∧ moment < cut.startOf index + cut.period := by
  rw [Cut.indexOf, Cut.startOf, Int.ediv_eq_iff_of_pos (Cut.period_pos positive)]
  constructor <;> intro inside <;> constructor <;> linarith [inside.1, inside.2]

lemma Cut.startOf_le_iff (positive : 0 < cut.periodHours) {i j : ℤ} :
    cut.startOf i ≤ cut.startOf j ↔ i ≤ j := by
  simp only [Cut.startOf, add_le_add_iff_left]
  exact mul_le_mul_iff_left₀ (Cut.period_pos positive)

/-- A moment lies before the end of a period when its own period is no later. -/
lemma Cut.lt_startOf_iff (cut : Cut) (positive : 0 < cut.periodHours) {moment : Instant} {index : ℤ} :
    moment < cut.startOf (index + 1) ↔ cut.indexOf moment ≤ index := by
  rw [← Int.lt_add_one_iff, Cut.indexOf, Int.ediv_lt_iff_lt_mul (Cut.period_pos positive), Cut.startOf]
  constructor <;> intro h <;> linarith

/-- The last complete period is the last that ended at least one window before the clock. -/
lemma Cut.complete_iff (cut : Cut) (positive : 0 < cut.periodHours) {index : ℤ} :
    cut.startOf (index + 1) + cut.windowDays * (24 * microsecondsPerHour) ≤ cut.computedAt ↔
      index ≤ cut.lastCompleteIndex := by
  rw [Cut.lastCompleteIndex, Int.le_sub_one_iff, Int.lt_iff_add_one_le,
    Int.le_ediv_iff_mul_le (Cut.period_pos positive), Cut.startOf]
  constructor <;> intro h <;> linarith

/-! ## What the rows count -/

/-- The results a rebuild reads: those of the window whose proposal and message exist and that were sent before
    the end of the last complete period. -/
def counted (tables : Tables) (cut : Cut) : List ActionResult :=
  tables.results.filter fun result =>
    result.windowDays = cut.windowDays ∧ (tables.proposals.get? result.proposalId).isSome ∧
      (tables.messages.get? result.messageId).isSome ∧
      result.sentAt < cut.startOf (cut.lastCompleteIndex + 1)

/-- Whether a result belongs to a row: it was sent in its period and has its labels. -/
def belongsTo (tables : Tables) (row : ActionPerformance) (result : ActionResult) : Bool :=
  row.periodStart ≤ result.sentAt ∧ result.sentAt < row.periodEnd ∧
    (detailRow tables result).any fun detail =>
      [detail.actionCode, detail.angle, detail.priorityTier, detail.riskBand, detail.contentMix, detail.variant] =
        [row.actionCode, row.angle, row.priorityTier, row.riskBand, row.contentMix, row.variant]

/-- The rows that a rebuild writes. -/
def rowsOf (tables : Tables) (cut : Cut) : List ActionPerformance :=
  (tallyResults tables cut (cut.startOf (cut.lastCompleteIndex + 1))).items.map fun (cell, tally) =>
    performanceRow cut cell tally

lemma detailRow_isSome (tables : Tables) (result : ActionResult) : (detailRow tables result).isSome ↔
    (tables.proposals.get? result.proposalId).isSome ∧ (tables.messages.get? result.messageId).isSome := by
  rw [detailRow]
  cases tables.proposals.get? result.proposalId <;> cases tables.messages.get? result.messageId <;> simp

lemma detailRow_sentAt {result : ActionResult} {detail : DetailRow}
    (joined : detailRow tables result = some detail) : detail.sentAt = result.sentAt := by
  rw [detailRow] at joined
  split at joined
  · cases joined
    rfl
  · cases joined

/-- The joins neither lose nor double a result that is counted. -/
lemma detailQuery_eq (tables : Tables) (cut : Cut) :
    detailQuery tables cut.windowDays (cut.startOf (cut.lastCompleteIndex + 1)) =
      (counted tables cut).filterMap (detailRow tables) := by
  rw [detailQuery, counted, List.filterMap_filter, List.filterMap_filter]
  congr 1
  funext result
  have joined := detailRow_isSome tables result
  cases row : detailRow tables result with
  | none => simp
  | some detail =>
    rw [row] at joined
    have there := joined.mp rfl
    simp [there]

/-- The cell a result is tallied in. -/
def cellOfResult (tables : Tables) (cut : Cut) (result : ActionResult) : Option Cell :=
  (detailRow tables result).map cut.cellOf

lemma belongsTo_performanceRow (positive : 0 < cut.periodHours) (cell : Cell) (tally : Tally)
    (result : ActionResult) :
    belongsTo tables (performanceRow cut cell tally) result = true ↔
      cellOfResult tables cut result = some cell := by
  have period : (performanceRow cut cell tally).periodStart ≤ result.sentAt ∧
      result.sentAt < (performanceRow cut cell tally).periodEnd ↔
        cut.indexOf result.sentAt = cell.periodIndex :=
    (Cut.indexOf_eq_iff positive).symm
  rw [belongsTo, decide_eq_true_iff, ← and_assoc, period, cellOfResult]
  cases joined : detailRow tables result with
  | none => simp
  | some detail =>
    obtain ⟨index, actionCode, angle, tier, band, mix, variant⟩ := cell
    simp [Cut.cellOf, performanceRow, detailRow_sentAt joined]

/-- What the entries of a cell add up to. -/
lemma foldl_add (rows : List DetailRow) (tally : Tally) :
    (rows.foldl (fun tally row => Tally.add row tally) tally).sent = tally.sent + rows.length ∧
      (rows.foldl (fun tally row => Tally.add row tally) tally).replied ≤ tally.replied + rows.length ∧
      (rows.foldl (fun tally row => Tally.add row tally) tally).optedOut ≤ tally.optedOut + rows.length ∧
      (rows.foldl (fun tally row => Tally.add row tally) tally).edited ≤ tally.edited + rows.length ∧
      (rows.foldl (fun tally row => Tally.add row tally) tally).deposited ≤ tally.deposited + rows.length := by
  induction rows generalizing tally with
  | nil => simp
  | cons row rows ih =>
    obtain ⟨sent, replied, optedOut, edited, deposited⟩ := ih (Tally.add row tally)
    have flag (b : Bool) : b.toNat ≤ 1 := Bool.toNat_le b
    simp only [List.foldl_cons, List.length_cons, Tally.add] at *
    have := flag row.replied
    have := flag row.optedOut
    have := flag row.reviewerChanged
    have := flag row.deposited
    omega

lemma mem_rowsOf {row : ActionPerformance} : row ∈ rowsOf tables cut ↔
    ∃ cell tally, (tallyResults tables cut (cut.startOf (cut.lastCompleteIndex + 1))).get? cell = some tally ∧
      performanceRow cut cell tally = row := by
  rw [rowsOf, List.mem_map]
  constructor
  · rintro ⟨⟨cell, tally⟩, mem, made⟩
    exact ⟨cell, tally, (Dict.mem_items_iff _).mp mem, made⟩
  · rintro ⟨cell, tally, there, made⟩
    exact ⟨(cell, tally), (Dict.mem_items_iff _).mpr there, made⟩

/-- A cell has a tally exactly when a counted result falls in it, and its tally counts these. -/
lemma get?_tallyResults {cell : Cell} {tally : Tally} (there :
    (tallyResults tables cut (cut.startOf (cut.lastCompleteIndex + 1))).get? cell = some tally) :
    (∃ result ∈ counted tables cut, cellOfResult tables cut result = some cell) ∧
      tally.sent = (counted tables cut).countP (fun result => cellOfResult tables cut result = some cell) ∧
      tally.replied ≤ tally.sent ∧ tally.optedOut ≤ tally.sent ∧ tally.edited ≤ tally.sent ∧
      tally.deposited ≤ tally.sent := by
  rw [tallyResults, get?_gather, detailQuery_eq] at there
  obtain ⟨⟨detail, mem, own⟩, made⟩ := there
  obtain ⟨result, result_mem, joined⟩ := List.mem_filterMap.mp mem
  have sizes := foldl_add (((counted tables cut).filterMap (detailRow tables)).filter
    fun row => cut.cellOf row = cell) {}
  rw [made] at sizes
  have size : (((counted tables cut).filterMap (detailRow tables)).filter
      fun row => cut.cellOf row = cell).length =
        (counted tables cut).countP (fun result => cellOfResult tables cut result = some cell) := by
    rw [← List.countP_eq_length_filter, List.countP_filterMap]
    apply List.countP_congr
    intro result _
    rw [cellOfResult]
    cases detailRow tables result <;> simp
  refine ⟨⟨result, result_mem, by rw [cellOfResult, joined, ← own]; rfl⟩, ?_⟩
  rw [size] at sizes
  simp only [Nat.zero_add] at sizes
  omega

lemma get?_of_counted {result : ActionResult} (mem : result ∈ counted tables cut) :
    ∃ cell tally, cellOfResult tables cut result = some cell ∧
      (tallyResults tables cut (cut.startOf (cut.lastCompleteIndex + 1))).get? cell = some tally := by
  have there := (List.mem_filter.mp mem).2
  rw [decide_eq_true_iff] at there
  have both := (detailRow_isSome tables result).mpr ⟨there.2.1, there.2.2.1⟩
  obtain ⟨detail, joined⟩ := Option.isSome_iff_exists.mp both
  have read : detail ∈ detailQuery tables cut.windowDays (cut.startOf (cut.lastCompleteIndex + 1)) := by
    rw [detailQuery_eq]
    exact List.mem_filterMap.mpr ⟨result, mem, joined⟩
  have tallied : cut.cellOf detail ∈
      (tallyResults tables cut (cut.startOf (cut.lastCompleteIndex + 1))).keys :=
    mem_keys_gather.mpr ⟨detail, read, rfl⟩
  obtain ⟨tally, there⟩ := (Dict.mem_keys_iff _).mp tallied
  refine ⟨cut.cellOf detail, tally, ?_, there⟩
  rw [cellOfResult, joined]
  rfl

/-- What the rows of one period length and window are: the results they count, once each, in their periods. -/
structure Partitions (tables : Tables) (cut : Cut) (rows : List ActionPerformance) : Prop where
  total : (rows.map ActionPerformance.sentCount).sum = (counted tables cut).length
  share : ∀ row ∈ rows, row.sentCount = ((counted tables cut).filter (belongsTo tables row)).length
  once : ∀ result ∈ counted tables cut, ∃! row, row ∈ rows ∧ belongsTo tables row result = true
  distinct : (rows.map ActionPerformance.uniqueKey).Nodup
  within : ∀ row ∈ rows, row.repliedCount ≤ row.sentCount ∧ row.optedOutCount ≤ row.sentCount ∧
    row.editedCount ≤ row.sentCount ∧ row.depositedCount ≤ row.sentCount

lemma total_rowsOf (tables : Tables) (cut : Cut) :
    ((rowsOf tables cut).map ActionPerformance.sentCount).sum = (counted tables cut).length := by
  let tallies := tallyResults tables cut (cut.startOf (cut.lastCompleteIndex + 1))
  have sizes : (rowsOf tables cut).map ActionPerformance.sentCount =
      (tallies.keys.map some).map fun cell =>
        ((counted tables cut).filter fun result => cellOfResult tables cut result = cell).length := by
    rw [rowsOf, List.map_map, List.map_map, Dict.keys, List.map_map]
    apply List.map_congr_left
    rintro ⟨cell, tally⟩ mem
    have counts := (get?_tallyResults ((Dict.mem_items_iff _).mp mem)).2.1
    rw [List.countP_eq_length_filter] at counts
    exact counts
  rw [sizes]
  apply sum_length_groups
  · exact (Dict.keys_nodup tallies).map (Option.some_injective _)
  · intro result mem
    obtain ⟨cell, tally, own, there⟩ := get?_of_counted mem
    rw [own]
    exact List.mem_map_of_mem ((Dict.mem_keys_iff _).mpr ⟨tally, there⟩)

lemma uniqueKey_inj (positive : 0 < cut.periodHours) {cell cell' : Cell} {tally tally' : Tally}
    (same : (performanceRow cut cell tally).uniqueKey = (performanceRow cut cell' tally').uniqueKey) :
    cell = cell' := by
  obtain ⟨index, actionCode, angle, tier, band, mix, variant⟩ := cell
  obtain ⟨index', actionCode', angle', tier', band', mix', variant'⟩ := cell'
  simp only [ActionPerformance.uniqueKey, performanceRow, Prod.mk.injEq, List.cons.injEq, and_true,
    true_and] at same
  obtain ⟨start, rfl, rfl, rfl, rfl, rfl, rfl⟩ := same
  obtain rfl : index = index' :=
    le_antisymm ((Cut.startOf_le_iff positive).mp start.le) ((Cut.startOf_le_iff positive).mp start.ge)
  rfl

lemma partitions_rowsOf (positive : 0 < cut.periodHours) : Partitions tables cut (rowsOf tables cut) where
  total := total_rowsOf tables cut
  share := by
    intro row mem
    obtain ⟨cell, tally, there, rfl⟩ := mem_rowsOf.mp mem
    have counts := (get?_tallyResults there).2.1
    rw [List.countP_eq_length_filter] at counts
    have same : (counted tables cut).filter (belongsTo tables (performanceRow cut cell tally)) =
        (counted tables cut).filter fun result => cellOfResult tables cut result = some cell := by
      apply List.filter_congr
      intro result _
      rw [Bool.eq_iff_iff, belongsTo_performanceRow positive, decide_eq_true_iff]
    rw [same]
    exact counts
  once := by
    intro result mem
    obtain ⟨cell, tally, own, there⟩ := get?_of_counted mem
    refine ⟨performanceRow cut cell tally, ⟨mem_rowsOf.mpr ⟨cell, tally, there, rfl⟩, ?_⟩, ?_⟩
    · exact (belongsTo_performanceRow positive cell tally result).mpr own
    · rintro row ⟨row_mem, belongs⟩
      obtain ⟨cell', tally', there', rfl⟩ := mem_rowsOf.mp row_mem
      rw [belongsTo_performanceRow positive, own] at belongs
      cases belongs
      rw [there] at there'
      cases there'
      rfl
  distinct := by
    rw [rowsOf, List.map_map]
    apply List.Nodup.map_on
    · rintro ⟨cell, tally⟩ mem ⟨cell', tally'⟩ mem' same
      obtain rfl := uniqueKey_inj positive same
      have there := (Dict.mem_items_iff _).mp mem
      rw [(Dict.mem_items_iff _).mp mem'] at there
      cases there
      rfl
    · exact (tallyResults tables cut _).nodup.of_map
  within := by
    intro row mem
    obtain ⟨cell, tally, there, rfl⟩ := mem_rowsOf.mp mem
    exact (get?_tallyResults there).2.2

/-! ## The table after a rebuild -/

lemma isOfCut_of_mem_rowsOf {row : ActionPerformance} (mem : row ∈ rowsOf tables cut) :
    isOfCut cut row = true := by
  obtain ⟨cell, tally, _, rfl⟩ := mem_rowsOf.mp mem
  simp [isOfCut, performanceRow]

/-- A rebuild leaves exactly its own rows of its period length and window. -/
lemma filter_rebuildWindow (tables : Tables) (cut : Cut) (table : List ActionPerformance) :
    (rebuildWindow tables cut table).filter (isOfCut cut) = rowsOf tables cut := by
  have gone : (table.filter fun row => !isOfCut cut row).filter (isOfCut cut) = [] := by
    rw [List.filter_filter, List.filter_eq_nil_iff]
    simp
  have own : (rowsOf tables cut).filter (isOfCut cut) = rowsOf tables cut :=
    List.filter_eq_self.mpr fun row mem => isOfCut_of_mem_rowsOf mem
  have parts : rebuildWindow tables cut table =
      (table.filter fun row => !isOfCut cut row) ++ rowsOf tables cut := rfl
  rw [parts, List.filter_append, gone, own, List.nil_append]

/-- A rebuild of another window leaves the rows of a window alone. -/
lemma filter_rebuildWindow_other (tables : Tables) {cut other : Cut} (ne : other.windowDays ≠ cut.windowDays)
    (table : List ActionPerformance) :
    (rebuildWindow tables other table).filter (isOfCut cut) = table.filter (isOfCut cut) := by
  have kept : (table.filter fun row => !isOfCut other row).filter (isOfCut cut) = table.filter (isOfCut cut) := by
    rw [List.filter_filter]
    apply List.filter_congr
    intro row _
    by_cases own : row.windowDays = cut.windowDays
    · simp [isOfCut, own, ne.symm]
    · simp [isOfCut, own]
  have foreign : (rowsOf tables other).filter (isOfCut cut) = [] := by
    rw [List.filter_eq_nil_iff]
    intro row mem
    obtain ⟨cell, tally, _, rfl⟩ := mem_rowsOf.mp mem
    simp [isOfCut, performanceRow, ne]
  have parts : rebuildWindow tables other table =
      (table.filter fun row => !isOfCut other row) ++ rowsOf tables other := rfl
  rw [parts, List.filter_append, kept, foreign, List.append_nil]

lemma filter_buildActionPerformance {anchor : Instant} {hours : ℤ} {windows : List ℤ} {now : Instant}
    {window : ℤ} (mem : window ∈ windows) :
    (buildActionPerformance tables anchor hours windows now table).filter
        (isOfCut ⟨anchor, hours, window, now⟩) =
      rowsOf tables ⟨anchor, hours, window, now⟩ := by
  induction windows using List.reverseRecOn with
  | nil => cases mem
  | append_singleton windows last ih =>
    rw [buildActionPerformance, List.foldl_append, List.foldl_cons, List.foldl_nil]
    by_cases same : last = window
    · subst same
      exact filter_rebuildWindow tables _ _
    · have earlier := (List.mem_append.mp mem).resolve_right (by simpa using Ne.symm same)
      rw [filter_rebuildWindow_other tables (by exact same)]
      exact ih earlier

/-! ## A later clock -/

/-- The same cut at another time. -/
def Cut.at (cut : Cut) (computedAt : Instant) : Cut := { cut with computedAt := computedAt }

variable {later : Instant}

lemma lastCompleteIndex_le (positive : 0 < cut.periodHours) (order : cut.computedAt ≤ later) :
    cut.lastCompleteIndex ≤ (cut.at later).lastCompleteIndex := by
  have complete := (cut.complete_iff positive).mpr (le_refl cut.lastCompleteIndex)
  exact ((cut.at later).complete_iff positive).mp (complete.trans order)

/-- What was read before is what is read later of the periods that were complete before. -/
lemma detailQuery_earlier {completeBefore completeBefore' : Instant} (order : completeBefore ≤ completeBefore')
    (tables : Tables) (windowDays : ℤ) :
    detailQuery tables windowDays completeBefore =
      (detailQuery tables windowDays completeBefore').filter fun row => row.sentAt < completeBefore := by
  rw [detailQuery, detailQuery, List.filter_filterMap, List.filterMap_filter, List.filterMap_filter]
  congr 1
  funext result
  cases joined : detailRow tables result with
  | none => simp
  | some detail =>
    have sentAt := detailRow_sentAt joined
    by_cases early : result.sentAt < completeBefore
    · simp [early, early.trans_le order, sentAt, Option.filter]
    · simp [early, sentAt, Option.filter]

/-- The tallies of the periods that were complete before are the same later. -/
lemma get?_tallyResults_later (positive : 0 < cut.periodHours) (order : cut.computedAt ≤ later) {cell : Cell}
    {tally : Tally} :
    (tallyResults tables cut (cut.startOf (cut.lastCompleteIndex + 1))).get? cell = some tally ↔
      cell.periodIndex ≤ cut.lastCompleteIndex ∧
        (tallyResults tables (cut.at later)
          ((cut.at later).startOf ((cut.at later).lastCompleteIndex + 1))).get? cell = some tally := by
  have ends : cut.startOf (cut.lastCompleteIndex + 1) ≤
      (cut.at later).startOf ((cut.at later).lastCompleteIndex + 1) :=
    (Cut.startOf_le_iff positive).mpr (by linarith [lastCompleteIndex_le positive order])
  let complete (cell : Cell) : Bool := decide (cell.periodIndex ≤ cut.lastCompleteIndex)
  have same : ∀ row ∈ detailQuery tables cut.windowDays
      ((cut.at later).startOf ((cut.at later).lastCompleteIndex + 1)),
      decide (row.sentAt < cut.startOf (cut.lastCompleteIndex + 1)) = complete (cut.cellOf row) := by
    intro row _
    exact decide_eq_decide.mpr (cut.lt_startOf_iff positive)
  rw [tallyResults, detailQuery_earlier ends, get?_gather_filter cut.cellOf {} Tally.add same, decide_eq_true_iff]
  rfl

lemma performanceRow_at (cut : Cut) (later : Instant) (cell : Cell) (tally : Tally) :
    performanceRow (cut.at later) cell tally = { performanceRow cut cell tally with computedAt := later } := rfl

/-- The rows of a later rebuild are the rows of the earlier one, measured later, and rows of periods that have
    become complete since. -/
structure Extends (cut : Cut) (later : Instant) (rows rows' : List ActionPerformance) : Prop where
  kept : ∀ row', (row' ∈ rows' ∧ row'.periodStart < cut.startOf (cut.lastCompleteIndex + 1)) ↔
    ∃ row ∈ rows, row' = { row with computedAt := later }
  added : ∀ row' ∈ rows', cut.startOf (cut.lastCompleteIndex + 1) ≤ row'.periodStart →
    cut.computedAt < row'.periodEnd + cut.windowDays * (24 * microsecondsPerHour) ∧
      row'.periodEnd + cut.windowDays * (24 * microsecondsPerHour) ≤ later

lemma extends_rowsOf (positive : 0 < cut.periodHours) (order : cut.computedAt ≤ later) :
    Extends cut later (rowsOf tables cut) (rowsOf tables (cut.at later)) where
  kept := by
    intro row'
    have early (index : ℤ) :
        cut.startOf index < cut.startOf (cut.lastCompleteIndex + 1) ↔ index ≤ cut.lastCompleteIndex := by
      rw [← not_le, Cut.startOf_le_iff positive, not_le, Int.lt_add_one_iff]
    constructor
    · rintro ⟨mem, before⟩
      obtain ⟨cell, tally, there, rfl⟩ := mem_rowsOf.mp mem
      refine ⟨performanceRow cut cell tally, mem_rowsOf.mpr ⟨cell, tally, ?_, rfl⟩, rfl⟩
      rw [get?_tallyResults_later positive order]
      exact ⟨(early cell.periodIndex).mp before, there⟩
    · rintro ⟨row, mem, rfl⟩
      obtain ⟨cell, tally, there, rfl⟩ := mem_rowsOf.mp mem
      rw [get?_tallyResults_later positive order] at there
      exact ⟨mem_rowsOf.mpr ⟨cell, tally, there.2, rfl⟩, (early cell.periodIndex).mpr there.1⟩
  added := by
    intro row' mem after
    obtain ⟨cell, tally, there, rfl⟩ := mem_rowsOf.mp mem
    obtain ⟨⟨result, counts, own⟩, -⟩ := get?_tallyResults there
    have periodEnd : (performanceRow (cut.at later) cell tally).periodEnd = cut.startOf (cell.periodIndex + 1) :=
      (Cut.startOf_succ cut cell.periodIndex).symm
    rw [periodEnd]
    constructor
    · rw [← not_le, cut.complete_iff positive]
      have index := (Cut.startOf_le_iff positive).mp after
      change ¬ cell.periodIndex ≤ _
      linarith
    · have sent := (List.mem_filter.mp counts).2
      rw [decide_eq_true_iff] at sent
      have inside := ((cut.at later).lt_startOf_iff positive).mp sent.2.2.2
      rw [cellOfResult, Option.map_eq_some_iff] at own
      obtain ⟨detail, joined, rfl⟩ := own
      apply ((cut.at later).complete_iff positive).mpr
      have moment := detailRow_sentAt joined
      simp only [Cut.cellOf, moment]
      exact inside

/-- After a rebuild the rows of a period length and window partition the results of the complete periods, which
    tile time from the anchor; a later rebuild over whatever the table holds then only adds newly complete
    periods. -/
theorem performance_partitions (tables : Tables) (table : List ActionPerformance) (anchor now : Instant)
    {hours : ℤ} (positive : 0 < hours) {windows : List ℤ} {window : ℤ} (asked : window ∈ windows) :
    let cut : Cut := ⟨anchor, hours, window, now⟩
    let rows := (buildActionPerformance tables anchor hours windows now table).filter (isOfCut cut)
    Partitions tables cut rows ∧
      (∀ index, cut.startOf (index + 1) + window * (24 * microsecondsPerHour) ≤ now ↔
        index ≤ cut.lastCompleteIndex) ∧
      (cut.startOf 0 = anchor ∧
        ∀ moment, ∃! index, cut.startOf index ≤ moment ∧ moment < cut.startOf (index + 1)) ∧
      ∀ later table' windows', now ≤ later → window ∈ windows' →
        Extends cut later rows
          ((buildActionPerformance tables anchor hours windows' later table').filter (isOfCut cut)) := by
  intro cut rows
  have rows_eq : rows = rowsOf tables cut := filter_buildActionPerformance asked
  refine ⟨?_, ?_, ⟨?_, ?_⟩, ?_⟩
  · rw [rows_eq]
    exact partitions_rowsOf positive
  · intro index
    exact cut.complete_iff positive
  · simp [Cut.startOf, cut]
  · intro moment
    refine ⟨cut.indexOf moment, ?_, fun index inside => ?_⟩
    · simp only [Cut.startOf_succ]
      exact (Cut.indexOf_eq_iff positive).mp rfl
    · simp only [Cut.startOf_succ] at inside
      exact ((Cut.indexOf_eq_iff positive).mpr inside).symm
  · intro later table' windows' order asked'
    have own : (buildActionPerformance tables anchor hours windows' later table').filter
        (isOfCut (cut.at later)) = rowsOf tables (cut.at later) := filter_buildActionPerformance asked'
    have rows'_eq : (buildActionPerformance tables anchor hours windows' later table').filter (isOfCut cut) =
        rowsOf tables (cut.at later) := own
    rw [rows_eq, rows'_eq]
    exact extends_rowsOf positive order

/-- Three results of one window: one in the first hour, one before the anchor, and one whose message is gone. -/
def threeResults : Tables where
  results := ["m1", "m2", "gone"].zipIdx.map fun (messageId, i) =>
    { proposalId := 1, clientId := i, unitFundId := 1, messageId := messageId
      sentAt := microsecondsPerHour / 2 - i * microsecondsPerHour
      windowDays := 30, replied := i = 0, optedOut := false, reviewerChanged := false, deposited := false
      depositAmountKes := 0 }
  proposals := .ofList [(1, ⟨"dormant", "send_email", none, none, none⟩)]
  messages := .ofList [("m1", "r1"), ("m2", "r2")]

/-- A table that holds nothing yet, and a clock a day after the window of the first hour. -/
theorem performance_partitions_three :
    let cut : Cut := ⟨0, 1, 30, 31 * 24 * microsecondsPerHour⟩
    let rows := (buildActionPerformance threeResults 0 1 [7, 30] cut.computedAt []).filter (isOfCut cut)
    Partitions threeResults cut rows ∧ (rows.map ActionPerformance.sentCount).sum = 2 := by
  intro cut rows
  have partitions := (performance_partitions threeResults [] 0 cut.computedAt (by decide : (0 : ℤ) < 1)
    (by simp : (30 : ℤ) ∈ [7, 30])).1
  refine ⟨partitions, ?_⟩
  rw [partitions.total]
  decide +kernel

end ClientEngagement.Agents.Performance
