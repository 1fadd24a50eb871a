import ClientEngagement.Lib.Runs
import ClientEngagement.Lib.Upsert
import ClientEngagement.Rules.Catalog

/-!
# Results measured message by message

Model of `agents/action_results.py`. The due messages are measured in batches: events and deposits are read once
for the clients of a batch, over the union of its windows, and then attributed to each message. `resultRows_eq`
says that every row is what its message alone would be measured as (`expected`), however the messages are
batched; `action_results_measured` carries that over whole runs. A batch is refused where a total is negative, by
the CHECK of the table.
-/

namespace ClientEngagement.Agents.Results
open Rules (Date Instant)

def microsecondsPerDay : ℤ := 86400000000

/-! ## Tables -/

structure TouchLog where
  touchId : ℤ
  enrollmentId : ℤ
  messageId : Option String
  sentAt : Option Instant
  deliveryStatus : Option String

structure AgentProposal where
  proposalId : ℤ
  campaignId : Option ℤ
  insightId : Option ℤ

structure ActiveClientFund where
  balance : Option ℚ
  updatedAt : Instant

inductive ReviewOutcome where
  | approve
  | editApprove
  | reject
  | escalate
  | hold
deriving DecidableEq

inductive EventType where
  | reply
  | open
  | bounce
  | complaint
  | optout
deriving DecidableEq

structure ContactEvent where
  clientId : ℤ
  type : EventType
  occurredAt : Instant

structure ActiveTransaction where
  txnType : String
  clientId : ℤ
  unitFundId : ℤ
  txnDate : Option Date
  amount : ℚ

/-- The tables a run reads. A message is drafted under a fresh id for one touch, and the campaign of a proposal
    is created for it. -/
structure Tables where
  touches : List TouchLog := []
  /-- The campaign of each enrollment. -/
  enrollments : Dict ℤ ℤ := .empty
  /-- Whether each campaign is a test. -/
  campaigns : Dict ℤ Bool := .empty
  proposals : List AgentProposal := []
  /-- The client of each message. -/
  messages : Dict String ℤ := .empty
  /-- Whether a proposal includes a client for a fund. -/
  proposalClients : Dict (ℤ × ℤ × ℤ) Bool := .empty
  activeFunds : Dict (ℤ × ℤ) ActiveClientFund := .empty
  reviews : List (String × ReviewOutcome) := []
  events : List ContactEvent := []
  transactions : List ActiveTransaction := []
  one_touch : (touches.filterMap TouchLog.messageId).Nodup := by decide
  one_proposal : (proposals.filterMap AgentProposal.campaignId).Nodup := by decide

structure ActionResult where
  proposalId : ℤ
  insightId : Option ℤ
  clientId : ℤ
  unitFundId : ℤ
  messageId : String
  sentAt : Instant
  windowDays : ℤ
  opened : Bool
  replied : Bool
  optedOut : Bool
  bounced : Bool
  reviewerChanged : Bool
  deposited : Bool
  depositAmountKes : ℚ
  measuredAt : Instant
deriving DecidableEq

/-- `action_result`, under its UNIQUE constraint. -/
abbrev ResultTable := Dict (String × ℤ) ActionResult

structure SentMessage where
  messageId : String
  clientId : ℤ
  proposalId : ℤ
  insightId : Option ℤ
  sentAt : Instant
deriving DecidableEq

/-! ## The rows of a batch -/

inductive EventFlag where
  | opened
  | replied
  | optedOut
  | bounced
deriving DecidableEq

/-- `EVENT_FLAGS`. -/
def eventFlag : EventType → Option EventFlag
  | .open => some .opened
  | .reply => some .replied
  | .optout => some .optedOut
  | .bounce => some .bounced
  | .complaint => none

def includedFunds (tables : Tables) (batch : List SentMessage) : Dict (ℤ × ℤ) (List ℤ) :=
  let rows := tables.proposalClients.items.filter fun ((proposalId, clientId, _), included) =>
    proposalId ∈ batch.map SentMessage.proposalId ∧ clientId ∈ batch.map SentMessage.clientId ∧ included
  (Dict.groupBy (fun row => (row.1.1, row.1.2.1)) rows).mapValues (·.map fun row => row.1.2.2)

def balances (tables : Tables) (clientIds : List ℤ) : Dict (ℤ × ℤ) ℚ :=
  (tables.activeFunds.filterKeys fun key => key.1 ∈ clientIds).mapValues fun fund => fund.balance.getD 0

def primaryFund (clientId : ℤ) (fundIds : List ℤ) (balances : Dict (ℤ × ℤ) ℚ) : ℤ :=
  (minBy (fun fundId => toLex (-balances.getD (clientId, fundId) 0, fundId)) fundIds).getD 0

def editedMessageIds (tables : Tables) (messageIds : List String) : List String :=
  (tables.reviews.filter fun (messageId, outcome) => messageId ∈ messageIds ∧ outcome = .editApprove).map Prod.fst

def eventsByClient (tables : Tables) (clientIds : List ℤ) (earliest latest : Instant) :
    Dict ℤ (List ContactEvent) :=
  Dict.groupBy ContactEvent.clientId (tables.events.filter fun event =>
    event.clientId ∈ clientIds ∧ (eventFlag event.type).isSome ∧ earliest ≤ event.occurredAt ∧
      event.occurredAt < latest)

/-- `_event_flags`. -/
def eventFlags (events : List ContactEvent) (startsAt endsAt : Instant) (flag : EventFlag) : Bool :=
  flag ∈ (events.filter fun event => startsAt ≤ event.occurredAt ∧ event.occurredAt < endsAt).filterMap fun event =>
    eventFlag event.type

def depositsByClient (tables : Tables) (clientIds : List ℤ) (firstDay lastDay : Date) :
    Dict ℤ (List ActiveTransaction) :=
  Dict.groupBy ActiveTransaction.clientId (tables.transactions.filter fun txn =>
    txn.clientId ∈ clientIds ∧ txn.txnType = "purchase" ∧ txn.txnDate.any fun day => firstDay ≤ day ∧ day < lastDay)

def depositTotal (deposits : List ActiveTransaction) (fundIds : List ℤ) (firstDay endDay : Date) : ℚ :=
  ((deposits.filter fun txn =>
    txn.unitFundId ∈ fundIds ∧ txn.txnDate.any fun day => firstDay ≤ day ∧ day < endDay).map
      ActiveTransaction.amount).sum

/-- The settings of a run: its clock and the local day of an instant. -/
structure Env where
  measuredAt : Instant
  localDay : Instant → Date

/-- `_result_rows`; a batch is never empty. -/
def resultRows (tables : Tables) (env : Env) (windowDays : ℤ) (batch : List SentMessage) : List ActionResult :=
  let window := windowDays * microsecondsPerDay
  let clientIds := batch.map SentMessage.clientId
  let funds := includedFunds tables batch
  let balances := balances tables clientIds
  let edited := editedMessageIds tables (batch.map SentMessage.messageId)
  let events := eventsByClient tables clientIds ((batch.map SentMessage.sentAt).min?.getD 0)
    ((batch.map SentMessage.sentAt).max?.getD 0 + window)
  let deposits := depositsByClient tables clientIds
    ((batch.map fun message => env.localDay message.sentAt).min?.getD 0)
    ((batch.map fun message => env.localDay (message.sentAt + window)).max?.getD 0)
  batch.filterMap fun message =>
    let fundIds := funds.getD (message.proposalId, message.clientId) []
    if fundIds = [] then none
    else
      let endsAt := message.sentAt + window
      let total := depositTotal (deposits.getD message.clientId []) fundIds (env.localDay message.sentAt)
        (env.localDay endsAt)
      let flags := eventFlags (events.getD message.clientId []) message.sentAt endsAt
      some
        { proposalId := message.proposalId
          insightId := message.insightId
          clientId := message.clientId
          unitFundId := primaryFund message.clientId fundIds balances
          messageId := message.messageId
          sentAt := message.sentAt
          windowDays := windowDays
          opened := flags .opened
          replied := flags .replied
          optedOut := flags .optedOut
          bounced := flags .bounced
          reviewerChanged := message.messageId ∈ edited
          deposited := 0 < total
          depositAmountKes := total
          measuredAt := env.measuredAt }

/-! ## A run -/

/-- What a re-measure sets: the columns of `REMEASURED_COLUMNS`. -/
def remeasured (old row : ActionResult) : ActionResult :=
  { old with
    unitFundId := row.unitFundId
    opened := row.opened
    replied := row.replied
    optedOut := row.optedOut
    bounced := row.bounced
    reviewerChanged := row.reviewerChanged
    deposited := row.deposited
    depositAmountKes := row.depositAmountKes
    measuredAt := row.measuredAt }

def writes : Dict.Writes ActionResult ActionResult := ⟨id, remeasured⟩

/-- The rows under their keys. -/
def keyed (rows : List ActionResult) : List ((String × ℤ) × ActionResult) :=
  rows.map fun row => ((row.messageId, row.windowDays), row)

/-- `_save` and the commit after it. The statement is refused for a row that a CHECK of the table refuses, and
    for two rows of one key. -/
def save (table : ResultTable) (rows : List ActionResult) : Option ResultTable :=
  if ((keyed rows).map Prod.fst).Nodup ∧ ∀ row ∈ rows, 0 < row.windowDays ∧ 0 ≤ row.depositAmountKes then
    some (table.upsert writes (keyed rows))
  else none

/-- The messages that a touch sent by the cutoff. -/
def sentOf (tables : Tables) (cutoff : Instant) (touch : TouchLog) : List SentMessage :=
  match touch.messageId, touch.sentAt, tables.enrollments.get? touch.enrollmentId with
  | some messageId, some sentAt, some campaignId =>
    match tables.messages.get? messageId with
    | some clientId =>
      if touch.deliveryStatus = some "sent" ∧ sentAt ≤ cutoff ∧ tables.campaigns.get? campaignId = some false then
        (tables.proposals.filter fun proposal => proposal.campaignId = some campaignId).map fun proposal =>
          { messageId := messageId
            clientId := clientId
            proposalId := proposal.proposalId
            insightId := proposal.insightId
            sentAt := sentAt }
      else []
    | none => []
  | _, _, _ => []

def sentBy (tables : Tables) (cutoff : Instant) : List SentMessage :=
  (sortBy TouchLog.touchId tables.touches).flatMap (sentOf tables cutoff)

def dueMessages (tables : Tables) (table : ResultTable) (windowDays : ℤ) (cutoff : Instant) (remeasure : Bool) :
    List SentMessage :=
  (sentBy tables cutoff).filter fun message => remeasure ∨ table.get? (message.messageId, windowDays) = none

/-- Measures batch after batch and counts the rows; a batch that is refused ends the run. -/
def measureBatches (tables : Tables) (env : Env) (windowDays : ℤ) :
    ResultTable → List (List SentMessage) → ResultTable × Option ℕ
  | table, [] => (table, some 0)
  | table, batch :: batches =>
    let rows := resultRows tables env windowDays batch
    match save table rows with
    | none => (table, none)
    | some table =>
      let (table, saved) := measureBatches tables env windowDays table batches
      (table, saved.map (rows.length + ·))

/-- `_latest_active_load`. -/
def latestActiveLoad (tables : Tables) : Option Instant :=
  (tables.activeFunds.items.map fun fund => fund.2.updatedAt).max?

def measurableUntil (tables : Tables) (env : Env) : Option Instant :=
  (latestActiveLoad tables).map fun loadedAt => min env.measuredAt loadedAt

/-- A way to split the due messages into batches. -/
structure Batching where
  split : List SentMessage → List (List SentMessage)
  flatten_split (messages : List SentMessage) : (split messages).flatten = messages

/-- `_batches`. -/
def batches : Batching := ⟨slices 500, flatten_slices (by decide)⟩

section
variable (batching : Batching) (tables : Tables) (env : Env)

/-- `_measure_window`. -/
def measureWindow (remeasure : Bool) (table : ResultTable) (windowDays : ℤ) : ResultTable × Option ℕ :=
  match measurableUntil tables env with
  | none => (table, some 0)
  | some latest =>
    let cutoff := latest - windowDays * microsecondsPerDay
    measureBatches tables env windowDays table
      (batching.split (dueMessages tables table windowDays cutoff remeasure))

/-- `measure_action_results`, with the rows measured for each window unless the run was ended. -/
def measureActionResults (remeasure : Bool) : ResultTable → List ℤ → ResultTable × Option (List ℕ)
  | table, [] => (table, some [])
  | table, windowDays :: windows =>
    match measureWindow batching tables env remeasure table windowDays with
    | (table, none) => (table, none)
    | (table, some measured) =>
      let (table, rest) := measureActionResults remeasure table windows
      (table, rest.map (measured :: ·))

end

/-! ## One message alone -/

/-- The funds a message's proposal includes its client for. -/
def fundsOf (tables : Tables) (message : SentMessage) : List ℤ :=
  (tables.proposalClients.items.filter fun ((proposalId, clientId, _), included) =>
    proposalId = message.proposalId ∧ clientId = message.clientId ∧ included).map fun row => row.1.2.2

/-- Whether the client of a message sent an event of a kind in its window. -/
def sawEvent (tables : Tables) (windowDays : ℤ) (message : SentMessage) (flag : EventFlag) : Bool :=
  tables.events.any fun event => event.clientId = message.clientId ∧ eventFlag event.type = some flag ∧
    message.sentAt ≤ event.occurredAt ∧ event.occurredAt < message.sentAt + windowDays * microsecondsPerDay

/-- What the client of a message put into the funds of its proposal on the local days of its window. -/
def totalOf (tables : Tables) (env : Env) (windowDays : ℤ) (message : SentMessage) : ℚ :=
  ((tables.transactions.filter fun txn =>
    txn.clientId = message.clientId ∧ txn.txnType = "purchase" ∧ txn.unitFundId ∈ fundsOf tables message ∧
      txn.txnDate.any fun day => env.localDay message.sentAt ≤ day ∧
        day < env.localDay (message.sentAt + windowDays * microsecondsPerDay)).map ActiveTransaction.amount).sum

/-- What a message is measured as by itself: nothing unless its proposal includes its client. -/
def expected (tables : Tables) (env : Env) (windowDays : ℤ) (message : SentMessage) : Option ActionResult :=
  if fundsOf tables message = [] then none
  else
    some
      { proposalId := message.proposalId
        insightId := message.insightId
        clientId := message.clientId
        unitFundId := (minBy (fun fundId =>
          toLex (-((tables.activeFunds.get? (message.clientId, fundId)).bind ActiveClientFund.balance).getD 0,
            fundId)) (fundsOf tables message)).getD 0
        messageId := message.messageId
        sentAt := message.sentAt
        windowDays := windowDays
        opened := sawEvent tables windowDays message .opened
        replied := sawEvent tables windowDays message .replied
        optedOut := sawEvent tables windowDays message .optedOut
        bounced := sawEvent tables windowDays message .bounced
        reviewerChanged := tables.reviews.any fun review =>
          review.1 = message.messageId ∧ review.2 = .editApprove
        deposited := 0 < totalOf tables env windowDays message
        depositAmountKes := totalOf tables env windowDays message
        measuredAt := env.measuredAt }

/-- The messages that are due for a window. -/
def dueIn (tables : Tables) (env : Env) (windowDays : ℤ) : List SentMessage :=
  match measurableUntil tables env with
  | none => []
  | some latest => sentBy tables (latest - windowDays * microsecondsPerDay)

/-- What a run leaves in the place of a row it measured. -/
def stored (remeasure : Bool) (old : Option ActionResult) (row : ActionResult) : ActionResult :=
  match old with
  | none => row
  | some old => if remeasure then remeasured old row else old

/-- The table's CHECKs accept every row that the run has to write for a window. -/
def Acceptable (tables : Tables) (env : Env) (remeasure : Bool) (table : ResultTable) (windowDays : ℤ) : Prop :=
  ∀ message ∈ dueIn tables env windowDays, ∀ row, expected tables env windowDays message = some row →
    (remeasure ∨ table.get? (message.messageId, windowDays) = none) → 0 < windowDays ∧ 0 ≤ row.depositAmountKes

variable {batching : Batching} {tables : Tables} {env : Env} {windowDays : ℤ} {batch : List SentMessage}
  {message : SentMessage} {table : ResultTable} {remeasure : Bool}

section
variable {α : Type} {f : α → ℤ} {l : List α} {a : α}

lemma min?_le (mem : a ∈ l) : (l.map f).min?.getD 0 ≤ f a := by
  have among : f a ∈ l.map f := List.mem_map_of_mem mem
  cases least : (l.map f).min? with
  | none => simp [List.min?_eq_none_iff.mp least] at among
  | some n => exact (List.min?_eq_some_iff.mp least).2 _ among

lemma le_max? (mem : a ∈ l) : f a ≤ (l.map f).max?.getD 0 := by
  have among : f a ∈ l.map f := List.mem_map_of_mem mem
  cases greatest : (l.map f).max? with
  | none => simp [List.max?_eq_none_iff.mp greatest] at among
  | some n => exact (List.max?_eq_some_iff.mp greatest).2 _ among

lemma getD_groupBy {κ : Type} [DecidableEq κ] (g : α → κ) (k : κ) :
    (Dict.groupBy g l).getD k [] = l.filter (g · = k) := by
  rw [Dict.getD, Dict.get?_groupBy]
  split_ifs with none_there <;> simp [none_there]

end

/-- The funds of a batch's clients, looked up for a message of the batch. -/
lemma getD_includedFunds (mem : message ∈ batch) :
    (includedFunds tables batch).getD (message.proposalId, message.clientId) [] = fundsOf tables message := by
  rw [includedFunds, Dict.getD, Dict.get?_mapValues]
  have grouped (rows : List ((ℤ × ℤ × ℤ) × Bool)) :
      (((Dict.groupBy (fun row => (row.1.1, row.1.2.1)) rows).get? (message.proposalId, message.clientId)).map
        (·.map fun row => row.1.2.2)).getD [] =
          (rows.filter fun row => (row.1.1, row.1.2.1) = (message.proposalId, message.clientId)).map
            fun row => row.1.2.2 := by
    rw [← getD_groupBy (fun row : (ℤ × ℤ × ℤ) × Bool => (row.1.1, row.1.2.1)), Dict.getD]
    cases (Dict.groupBy (fun row => (row.1.1, row.1.2.1)) rows).get? (message.proposalId, message.clientId) <;> rfl
  rw [grouped, List.filter_filter, fundsOf]
  congr 1
  apply List.filter_congr
  rintro ⟨⟨proposalId, clientId, fundId⟩, included⟩ _
  have proposal : message.proposalId ∈ batch.map SentMessage.proposalId := List.mem_map_of_mem mem
  have client : message.clientId ∈ batch.map SentMessage.clientId := List.mem_map_of_mem mem
  rw [Bool.eq_iff_iff]
  simp only [Bool.and_eq_true, decide_eq_true_iff, Prod.mk.injEq]
  constructor
  · rintro ⟨⟨rfl, rfl⟩, _, _, yes⟩
    exact ⟨rfl, rfl, yes⟩
  · rintro ⟨rfl, rfl, yes⟩
    exact ⟨⟨rfl, rfl⟩, proposal, client, yes⟩

lemma eventFlags_eq (mem : message ∈ batch) (flag : EventFlag) :
    eventFlags ((eventsByClient tables (batch.map SentMessage.clientId)
        ((batch.map SentMessage.sentAt).min?.getD 0)
        ((batch.map SentMessage.sentAt).max?.getD 0 + windowDays * microsecondsPerDay)).getD message.clientId [])
      message.sentAt (message.sentAt + windowDays * microsecondsPerDay) flag =
        sawEvent tables windowDays message flag := by
  have client : message.clientId ∈ batch.map SentMessage.clientId := List.mem_map_of_mem mem
  have earliest : (batch.map SentMessage.sentAt).min?.getD 0 ≤ message.sentAt := min?_le mem
  have latest : message.sentAt ≤ (batch.map SentMessage.sentAt).max?.getD 0 := le_max? mem
  rw [Bool.eq_iff_iff, eventFlags, eventsByClient, getD_groupBy, decide_eq_true_iff, sawEvent, List.any_eq_true,
    List.mem_filterMap]
  simp only [List.mem_filter, decide_eq_true_iff]
  constructor
  · rintro ⟨event, ⟨⟨⟨there, _⟩, own⟩, inside⟩, kind⟩
    exact ⟨event, there, own, kind, inside⟩
  · rintro ⟨event, there, own, kind, inside⟩
    refine ⟨event, ⟨⟨⟨there, own ▸ client, Option.isSome_of_eq_some kind, ?_, ?_⟩, own⟩, inside⟩, kind⟩
    · linarith [inside.1]
    · linarith [inside.2]

lemma depositTotal_eq (mem : message ∈ batch) :
    depositTotal ((depositsByClient tables (batch.map SentMessage.clientId)
        ((batch.map fun message => env.localDay message.sentAt).min?.getD 0)
        ((batch.map fun message =>
          env.localDay (message.sentAt + windowDays * microsecondsPerDay)).max?.getD 0)).getD message.clientId [])
      (fundsOf tables message) (env.localDay message.sentAt)
        (env.localDay (message.sentAt + windowDays * microsecondsPerDay)) =
          totalOf tables env windowDays message := by
  have client : message.clientId ∈ batch.map SentMessage.clientId := List.mem_map_of_mem mem
  have first : (batch.map fun message => env.localDay message.sentAt).min?.getD 0 ≤
      env.localDay message.sentAt := min?_le mem
  have last : env.localDay (message.sentAt + windowDays * microsecondsPerDay) ≤
      (batch.map fun message => env.localDay (message.sentAt + windowDays * microsecondsPerDay)).max?.getD 0 :=
    le_max? mem
  rw [depositTotal, depositsByClient, getD_groupBy, List.filter_filter, List.filter_filter, totalOf]
  congr 2
  apply List.filter_congr
  intro txn _
  rw [Bool.eq_iff_iff]
  cases txn.txnDate with
  | none => simp
  | some day =>
    simp only [Option.any_some, Bool.and_eq_true, decide_eq_true_iff]
    constructor
    · rintro ⟨⟨⟨fund, inside⟩, own⟩, _, purchase, _⟩
      exact ⟨own, purchase, fund, inside⟩
    · rintro ⟨own, purchase, fund, inside⟩
      exact ⟨⟨⟨fund, inside⟩, own⟩, own ▸ client, purchase, first.trans inside.1, inside.2.trans_le last⟩

lemma getD_balances (mem : message ∈ batch) (fundId : ℤ) :
    (balances tables (batch.map SentMessage.clientId)).getD (message.clientId, fundId) 0 =
      ((tables.activeFunds.get? (message.clientId, fundId)).bind ActiveClientFund.balance).getD 0 := by
  have client : message.clientId ∈ batch.map SentMessage.clientId := List.mem_map_of_mem mem
  rw [balances, Dict.getD, Dict.get?_mapValues, Dict.get?_filterKeys, if_pos (decide_eq_true client)]
  cases tables.activeFunds.get? (message.clientId, fundId) <;> rfl

lemma mem_editedMessageIds (mem : message ∈ batch) :
    (message.messageId ∈ editedMessageIds tables (batch.map SentMessage.messageId)) ↔
      (tables.reviews.any fun review => review.1 = message.messageId ∧ review.2 = .editApprove) = true := by
  have own : message.messageId ∈ batch.map SentMessage.messageId := List.mem_map_of_mem mem
  rw [editedMessageIds, List.mem_map, List.any_eq_true]
  simp only [List.mem_filter, decide_eq_true_iff]
  constructor
  · rintro ⟨review, ⟨there, _, edited⟩, same⟩
    exact ⟨review, there, same, edited⟩
  · rintro ⟨review, there, same, edited⟩
    exact ⟨review, ⟨there, same ▸ own, edited⟩, same⟩

/-- Every row of a batch is what its message alone is measured as. -/
theorem resultRows_eq (tables : Tables) (env : Env) (windowDays : ℤ) (batch : List SentMessage) :
    resultRows tables env windowDays batch = batch.filterMap (expected tables env windowDays) := by
  rw [resultRows]
  apply List.filterMap_congr
  intro message mem
  simp only [getD_includedFunds mem, eventFlags_eq mem, depositTotal_eq mem, primaryFund, getD_balances mem,
    mem_editedMessageIds mem, expected, Bool.decide_eq_true]

/-! ## Keys -/

lemma key_of_expected {row : ActionResult} (measured : expected tables env windowDays message = some row) :
    (row.messageId, row.windowDays) = (message.messageId, windowDays) := by
  rw [expected] at measured
  split at measured
  · cases measured
  · cases measured
    rfl

lemma keys_resultRows (batch : List SentMessage) :
    (((keyed (resultRows tables env windowDays batch)).map Prod.fst)).Sublist
      (batch.map fun message => (message.messageId, windowDays)) := by
  rw [resultRows_eq]
  induction batch with
  | nil => exact .slnil
  | cons message batch ih =>
    rw [List.map_cons]
    cases measured : expected tables env windowDays message with
    | none =>
      rw [List.filterMap_cons_none measured]
      exact .cons _ ih
    | some row =>
      rw [List.filterMap_cons_some measured, keyed, List.map_cons, List.map_cons, key_of_expected measured]
      exact .cons_cons _ ih

lemma nodup_keys {batch : List SentMessage} (nodup : (batch.map SentMessage.messageId).Nodup) :
    ((keyed (resultRows tables env windowDays batch)).map Prod.fst).Nodup := by
  apply (keys_resultRows batch).nodup
  have mapped : (batch.map fun message => (message.messageId, windowDays)) =
      (batch.map SentMessage.messageId).map (·, windowDays) := by
    rw [List.map_map]
    rfl
  rw [mapped]
  apply nodup.map
  intro id id' same
  exact congrArg Prod.fst same

lemma mem_keyed {row : ActionResult} {rows : List ActionResult} (mem : row ∈ rows) :
    ((row.messageId, row.windowDays), row) ∈ keyed rows :=
  List.mem_map_of_mem mem

/-- At most one proposal is for a campaign. -/
lemma proposals_le_one (tables : Tables) (campaignId : ℤ) :
    (tables.proposals.filter fun proposal => proposal.campaignId = some campaignId).length ≤ 1 := by
  have constant : (tables.proposals.filter fun proposal => proposal.campaignId = some campaignId).filterMap
      AgentProposal.campaignId =
        List.replicate
          (tables.proposals.filter fun proposal => proposal.campaignId = some campaignId).length campaignId := by
    rw [← List.map_const', ← List.filterMap_eq_map]
    apply List.filterMap_congr
    intro proposal mem
    exact of_decide_eq_true (List.mem_filter.mp mem).2
  rw [← List.nodup_replicate (a := campaignId), ← constant]
  exact (List.filter_sublist.filterMap _).nodup tables.one_proposal

/-- A touch sends at most its own message. -/
lemma ids_sentOf (tables : Tables) (cutoff : Instant) (touch : TouchLog) :
    ((sentOf tables cutoff touch).map SentMessage.messageId).Sublist touch.messageId.toList := by
  rw [sentOf]
  split
  next messageId sentAt campaignId id _ _ =>
    rw [id]
    split
    · split_ifs
      · have one := proposals_le_one tables campaignId
        generalize tables.proposals.filter _ = proposals at one
        cases proposals with
        | nil => exact List.nil_sublist _
        | cons proposal rest =>
          cases rest with
          | nil => exact .refl _
          | cons next rest => simp at one
      · exact List.nil_sublist _
    · exact List.nil_sublist _
  · exact List.nil_sublist _

lemma nodup_sentBy (tables : Tables) (cutoff : Instant) :
    ((sentBy tables cutoff).map SentMessage.messageId).Nodup := by
  have sub : ∀ touches : List TouchLog,
      ((touches.flatMap (sentOf tables cutoff)).map SentMessage.messageId).Sublist
        (touches.filterMap TouchLog.messageId) := by
    intro touches
    induction touches with
    | nil => exact .slnil
    | cons touch touches ih =>
      rw [List.flatMap_cons, List.map_append, ← List.singleton_append (l := touches), List.filterMap_append]
      apply List.Sublist.append _ ih
      have own := ids_sentOf tables cutoff touch
      cases id : touch.messageId with
      | none => simpa [id] using own
      | some messageId => simpa [id] using own
  apply (sub _).nodup
  exact ((sortBy_perm TouchLog.touchId tables.touches).filterMap _).nodup_iff.mpr tables.one_touch

/-! ## A window -/

lemma upsert_append (rows rows' : List ((String × ℤ) × ActionResult)) :
    (table.upsert writes rows).upsert writes rows' = table.upsert writes (rows ++ rows') := by
  rw [Dict.upsert, Dict.upsert, Dict.upsert, List.foldl_append]

/-- Batches of acceptable rows are written as if all at once. -/
lemma measureBatches_of_accepted {parts : List (List SentMessage)}
    (nodup : (parts.flatten.map SentMessage.messageId).Nodup)
    (accepted : ∀ row ∈ resultRows tables env windowDays parts.flatten,
      0 < row.windowDays ∧ 0 ≤ row.depositAmountKes) :
    measureBatches tables env windowDays table parts =
      (table.upsert writes (keyed (resultRows tables env windowDays parts.flatten)),
        some (resultRows tables env windowDays parts.flatten).length) := by
  induction parts generalizing table with
  | nil => rw [measureBatches, List.flatten_nil, resultRows_eq]; rfl
  | cons batch parts ih =>
    have rows : resultRows tables env windowDays (batch :: parts).flatten =
        resultRows tables env windowDays batch ++ resultRows tables env windowDays parts.flatten := by
      rw [resultRows_eq, resultRows_eq, resultRows_eq, List.flatten_cons, List.filterMap_append]
    rw [rows] at accepted ⊢
    rw [List.flatten_cons, List.map_append, List.nodup_append] at nodup
    have saved : save table (resultRows tables env windowDays batch) =
        some (table.upsert writes (keyed (resultRows tables env windowDays batch))) := by
      apply if_pos
      exact ⟨nodup_keys nodup.1, fun row mem => accepted row (List.mem_append_left _ mem)⟩
    rw [measureBatches, saved]
    simp only [ih nodup.2.1 fun row mem => accepted row (List.mem_append_right _ mem), upsert_append,
      Option.map_some, List.length_append]
    rw [keyed, keyed, keyed, List.map_append]

lemma mem_keys_resultRows {key : String × ℤ}
    (listed : key ∈ (keyed (resultRows tables env windowDays batch)).map Prod.fst) :
    ∃ message ∈ batch, (expected tables env windowDays message).isSome ∧
      (message.messageId, windowDays) = key := by
  rw [resultRows_eq, keyed, List.map_map] at listed
  obtain ⟨row, mem, same⟩ := List.mem_map.mp listed
  obtain ⟨message, there, measured⟩ := List.mem_filterMap.mp mem
  exact ⟨message, there, by rw [measured]; rfl, (key_of_expected measured).symm.trans same⟩

/-- A key that no row of the batches has keeps its row, also where a batch is refused. -/
lemma measureBatches_frame {parts : List (List SentMessage)} {key : String × ℤ}
    (absent : ∀ message ∈ parts.flatten, (expected tables env windowDays message).isSome →
      (message.messageId, windowDays) ≠ key) :
    (measureBatches tables env windowDays table parts).1.get? key = table.get? key := by
  induction parts generalizing table with
  | nil => rfl
  | cons batch parts ih =>
    rw [List.flatten_cons] at absent
    rw [measureBatches]
    cases saved : save table (resultRows tables env windowDays batch) with
    | none => rfl
    | some after =>
      rw [save] at saved
      split_ifs at saved
      cases saved
      refine (ih fun message mem => absent message (List.mem_append_right _ mem)).trans ?_
      apply Dict.get?_upsert_of_not_mem
      intro listed
      obtain ⟨message, mem, measured, same⟩ := mem_keys_resultRows listed
      exact absent message (List.mem_append_left _ mem) measured same

/-- A row that the batches wrote is what its message alone is measured as, also where a batch is refused. -/
lemma measureBatches_attributes {parts : List (List SentMessage)} {key : String × ℤ}
    (nodup : (parts.flatten.map SentMessage.messageId).Nodup) :
    (measureBatches tables env windowDays table parts).1.get? key = table.get? key ∨
      ∃ message ∈ parts.flatten, ∃ row, expected tables env windowDays message = some row ∧
        key = (message.messageId, windowDays) ∧
          (measureBatches tables env windowDays table parts).1.get? key =
            some (writes.apply (table.get? key) row) := by
  induction parts generalizing table with
  | nil => exact .inl rfl
  | cons batch parts ih =>
    rw [List.flatten_cons, List.map_append, List.nodup_append] at nodup
    rw [measureBatches]
    cases saved : save table (resultRows tables env windowDays batch) with
    | none => exact .inl rfl
    | some after =>
      rw [save] at saved
      split_ifs at saved
      cases saved
      by_cases listed : key ∈ (keyed (resultRows tables env windowDays batch)).map Prod.fst
      · obtain ⟨entry, mem, rfl⟩ := List.mem_map.mp listed
        obtain ⟨row, there, rfl⟩ := List.mem_map.mp mem
        rw [resultRows_eq] at there
        obtain ⟨message, own, measured⟩ := List.mem_filterMap.mp there
        refine .inr ⟨message, List.mem_append_left _ own, row, measured, key_of_expected measured, ?_⟩
        refine (measureBatches_frame ?_).trans (Dict.get?_upsert_of_mem (nodup_keys nodup.1) mem)
        intro message' later _ same
        have ids := (Prod.mk.inj (same.trans (key_of_expected measured))).1
        exact nodup.2.2 _ (List.mem_map_of_mem own) _ (List.mem_map_of_mem later) ids.symm
      · have before : (table.upsert writes _).get? key = table.get? key := Dict.get?_upsert_of_not_mem listed
        refine (ih nodup.2.1).imp (·.trans before) ?_
        rintro ⟨message, mem, row, measured, same, written⟩
        exact ⟨message, List.mem_append_right _ mem, row, measured, same, before ▸ written⟩

/-- A window measures batches of the due messages that are left to measure. -/
lemma measureWindow_eq (batching : Batching) (tables : Tables) (env : Env) (remeasure : Bool)
    (table : ResultTable) (windowDays : ℤ) :
    ∃ parts, parts.flatten = ((dueIn tables env windowDays).filter fun message =>
        remeasure ∨ table.get? (message.messageId, windowDays) = none) ∧
      measureWindow batching tables env remeasure table windowDays =
        measureBatches tables env windowDays table parts := by
  rw [measureWindow, dueIn]
  cases measurableUntil tables env with
  | none => exact ⟨[], rfl, rfl⟩
  | some latest => exact ⟨_, batching.flatten_split _, rfl⟩

lemma nodup_dueIn (tables : Tables) (env : Env) (windowDays : ℤ) :
    ((dueIn tables env windowDays).map SentMessage.messageId).Nodup := by
  rw [dueIn]
  split
  · exact .nil
  · exact nodup_sentBy ..

lemma apply_eq_stored {old : Option ActionResult} {row : ActionResult} (left : remeasure ∨ old = none) :
    writes.apply old row = stored remeasure old row := by
  cases old with
  | none => rfl
  | some old =>
    have again : remeasure = true := by simpa using left
    rw [stored, if_pos again]
    rfl

lemma measureWindow_frame {key : String × ℤ}
    (absent : ∀ message ∈ dueIn tables env windowDays,
      (remeasure ∨ table.get? (message.messageId, windowDays) = none) →
        (expected tables env windowDays message).isSome → (message.messageId, windowDays) ≠ key) :
    (measureWindow batching tables env remeasure table windowDays).1.get? key = table.get? key := by
  obtain ⟨parts, flat, same⟩ := measureWindow_eq batching tables env remeasure table windowDays
  rw [same]
  apply measureBatches_frame
  intro message mem
  rw [flat, List.mem_filter, decide_eq_true_iff] at mem
  exact absent message mem.1 mem.2

/-- Every due message that is measured for a window has its row afterwards. -/
lemma measureWindow_sound (batching : Batching)
    (acceptable : Acceptable tables env remeasure table windowDays) :
    (measureWindow batching tables env remeasure table windowDays).2.isSome ∧
      ∀ message ∈ dueIn tables env windowDays, ∀ row, expected tables env windowDays message = some row →
        (measureWindow batching tables env remeasure table windowDays).1.get? (message.messageId, windowDays) =
          some (stored remeasure (table.get? (message.messageId, windowDays)) row) := by
  obtain ⟨parts, flat, same⟩ := measureWindow_eq batching tables env remeasure table windowDays
  have nodup : (parts.flatten.map SentMessage.messageId).Nodup := by
    rw [flat]
    exact (List.filter_sublist.map _).nodup (nodup_dueIn ..)
  have accepted : ∀ row ∈ resultRows tables env windowDays parts.flatten,
      0 < row.windowDays ∧ 0 ≤ row.depositAmountKes := by
    intro row mem
    rw [resultRows_eq, List.mem_filterMap] at mem
    obtain ⟨message, there, measured⟩ := mem
    rw [flat, List.mem_filter, decide_eq_true_iff] at there
    obtain ⟨_, window⟩ := Prod.mk.inj (key_of_expected measured)
    rw [window]
    exact acceptable message there.1 row measured there.2
  have written : measureBatches tables env windowDays table parts = _ :=
    measureBatches_of_accepted nodup accepted
  rw [same, written]
  refine ⟨rfl, ?_⟩
  intro message due row measured
  by_cases left : remeasure ∨ table.get? (message.messageId, windowDays) = none
  · have there : message ∈ parts.flatten := by
      rw [flat]
      exact List.mem_filter.mpr ⟨due, decide_eq_true left⟩
    have listed : row ∈ resultRows tables env windowDays parts.flatten := by
      rw [resultRows_eq]
      exact List.mem_filterMap.mpr ⟨message, there, measured⟩
    rw [Dict.get?_upsert_of_mem (nodup_keys nodup) (key_of_expected measured ▸ mem_keyed listed),
      apply_eq_stored left]
  · rw [Dict.get?_upsert_of_not_mem]
    · rw [not_or] at left
      cases there : table.get? (message.messageId, windowDays) with
      | none => exact absurd there left.2
      | some old => exact congrArg some (if_neg left.1).symm
    · intro listed
      obtain ⟨message', mem, _, key⟩ := mem_keys_resultRows listed
      rw [flat, List.mem_filter, decide_eq_true_iff, key] at mem
      exact left mem.2

/-! ## Runs -/

lemma stored_stored (old : Option ActionResult) (row : ActionResult) :
    stored remeasure (some (stored remeasure old row)) row = stored remeasure old row := by
  cases remeasure <;> cases old <;> rfl

/-- Every row that differs is one of a due message and is what this message alone is measured as. -/
def Attributed (tables : Tables) (env : Env) (remeasure : Bool) (windows : List ℤ) (before after : ResultTable) :
    Prop :=
  ∀ key, after.get? key = before.get? key ∨
    ∃ windowDays ∈ windows, ∃ message ∈ dueIn tables env windowDays, ∃ row,
      expected tables env windowDays message = some row ∧ key = (message.messageId, windowDays) ∧
        after.get? key = some (stored remeasure (before.get? key) row)

/-- Every due message whose client its proposal includes has its row. -/
def Complete (tables : Tables) (env : Env) (remeasure : Bool) (windows : List ℤ) (before after : ResultTable) :
    Prop :=
  ∀ windowDays ∈ windows, ∀ message ∈ dueIn tables env windowDays, ∀ row,
    expected tables env windowDays message = some row →
      after.get? (message.messageId, windowDays) =
        some (stored remeasure (before.get? (message.messageId, windowDays)) row)

variable {windows : List ℤ} {middle after : ResultTable}

lemma attributed_window :
    Attributed tables env remeasure [windowDays] table
      (measureWindow batching tables env remeasure table windowDays).1 := by
  intro key
  obtain ⟨parts, flat, same⟩ := measureWindow_eq batching tables env remeasure table windowDays
  have nodup : (parts.flatten.map SentMessage.messageId).Nodup := by
    rw [flat]
    exact (List.filter_sublist.map _).nodup (nodup_dueIn ..)
  rw [same]
  refine (measureBatches_attributes nodup).imp id ?_
  rintro ⟨message, mem, row, measured, rfl, written⟩
  rw [flat, List.mem_filter, decide_eq_true_iff] at mem
  refine ⟨windowDays, List.mem_singleton_self _, message, mem.1, row, measured, rfl, ?_⟩
  rw [written, apply_eq_stored mem.2]

/-- A key has one due message. -/
lemma eq_of_due {message' : SentMessage} (due : message ∈ dueIn tables env windowDays)
    (due' : message' ∈ dueIn tables env windowDays) (same : message.messageId = message'.messageId) :
    message = message' :=
  List.inj_on_of_nodup_map (nodup_dueIn tables env windowDays) due due' same

lemma Attributed.cons (first : Attributed tables env remeasure [windowDays] table middle)
    (rest : Attributed tables env remeasure windows middle after) :
    Attributed tables env remeasure (windowDays :: windows) table after := by
  intro key
  obtain same | ⟨other, mem, message, due, row, measured, rfl, written⟩ := rest key
  · rw [same]
    refine (first key).imp id ?_
    rintro ⟨_, mem, of_message⟩
    obtain rfl := List.mem_singleton.mp mem
    exact ⟨_, List.mem_cons_self .., of_message⟩
  · refine .inr ⟨other, List.mem_cons_of_mem _ mem, message, due, row, measured, rfl, ?_⟩
    rw [written]
    obtain same | ⟨_, _, message', due', row', measured', key, written'⟩ := first (message.messageId, other)
    · rw [same]
    · obtain ⟨ids, rfl⟩ := Prod.mk.inj key
      obtain rfl := eq_of_due due due' ids
      obtain rfl : row = row' := by rwa [measured, Option.some_inj] at measured'
      rw [written', stored_stored]

/-- Rows of other windows stay. -/
lemma Attributed.kept {key : String × ℤ} (attributed : Attributed tables env remeasure windows table after)
    (absent : key.2 ∉ windows) : after.get? key = table.get? key := by
  obtain same | ⟨_, mem, _, _, _, _, rfl, _⟩ := attributed key
  · exact same
  · exact absurd mem absent

lemma Complete.cons (first : Complete tables env remeasure [windowDays] table middle)
    (attributed : Attributed tables env remeasure [windowDays] table middle)
    (others : Attributed tables env remeasure windows middle after)
    (rest : Complete tables env remeasure windows middle after) :
    Complete tables env remeasure (windowDays :: windows) table after := by
  intro other mem message due row measured
  by_cases later : other ∈ windows
  · rw [rest other later message due row measured]
    by_cases same : other = windowDays
    · subst same
      rw [first other (List.mem_singleton_self _) message due row measured, stored_stored]
    · rw [attributed.kept (List.mem_singleton.not.mpr same)]
  · obtain rfl : other = windowDays := by simpa [later] using mem
    rw [others.kept later, first other (List.mem_singleton_self _) message due row measured]

/-- A window that is measured leaves no more for the table to refuse. -/
lemma Acceptable.later {other : ℤ} (acceptable : Acceptable tables env remeasure table other)
    (attributed : Attributed tables env remeasure [windowDays] table middle) :
    Acceptable tables env remeasure middle other := by
  intro message due row measured left
  apply acceptable message due row measured
  apply left.imp_right
  intro none_there
  obtain same | ⟨_, _, _, _, _, _, _, written⟩ := attributed (message.messageId, other)
  · rw [← same, none_there]
  · rw [written] at none_there
    cases none_there

/-- Every row a run writes, refused or not, is what its message alone is measured as. -/
theorem measureActionResults_attributed :
    Attributed tables env remeasure windows table
      (measureActionResults batching tables env remeasure table windows).1 := by
  induction windows generalizing table with
  | nil => exact fun _ => .inl rfl
  | cons windowDays windows ih =>
    have first : Attributed tables env remeasure [windowDays] table
      (measureWindow batching tables env remeasure table windowDays).1 := attributed_window
    rw [measureActionResults]
    cases window : measureWindow batching tables env remeasure table windowDays with
    | mk middle count =>
      rw [window] at first
      cases count with
      | none => exact first.cons fun _ => .inl rfl
      | some count => exact first.cons ih

/-- A run that writes what the table accepts measures every due message. -/
theorem measureActionResults_complete (acceptable : ∀ windowDays ∈ windows,
    Acceptable tables env remeasure table windowDays) :
    (measureActionResults batching tables env remeasure table windows).2.isSome ∧
      Complete tables env remeasure windows table
        (measureActionResults batching tables env remeasure table windows).1 := by
  induction windows generalizing table with
  | nil => exact ⟨rfl, fun _ mem => nomatch mem⟩
  | cons windowDays windows ih =>
    have sound := measureWindow_sound batching (acceptable windowDays (List.mem_cons_self ..))
    have attributed : Attributed tables env remeasure [windowDays] table
      (measureWindow batching tables env remeasure table windowDays).1 := attributed_window
    rw [measureActionResults]
    cases window : measureWindow batching tables env remeasure table windowDays with
    | mk middle count =>
      rw [window] at sound attributed
      obtain ⟨count, rfl⟩ := Option.isSome_iff_exists.mp sound.1
      have first : Complete tables env remeasure [windowDays] table middle := by
        intro other mem
        obtain rfl := List.mem_singleton.mp mem
        exact sound.2
      obtain ⟨completes, rest⟩ := ih fun other mem =>
        (acceptable other (List.mem_cons_of_mem _ mem)).later attributed
      refine ⟨?_, first.cons attributed measureActionResults_attributed rest⟩
      rw [Option.isSome_map]
      exact completes

/-- Without a re-measure a run keeps every row. -/
lemma Attributed.keeps {key : String × ℤ} {row : ActionResult}
    (attributed : Attributed tables env false windows table after) (there : table.get? key = some row) :
    after.get? key = some row := by
  obtain same | ⟨_, _, _, _, _, _, _, written⟩ := attributed key
  · rw [same, there]
  · rw [written, there]
    rfl

/-- A run of its own tables, clock, windows and batches. -/
structure Measure where
  batching : Batching
  tables : Tables
  env : Env
  windows : List ℤ

/-- A run that does not ask for a re-measure. -/
inductive Step : ResultTable → Measure → ResultTable → Prop where
  | measure (table : ResultTable) (run : Measure) :
    Step table run (measureActionResults run.batching run.tables run.env false table run.windows).1

/-- However the due messages are batched, every row a run writes is what its message alone is measured as; when
    the table accepts what it writes, every due message whose client its proposal includes has its row; and over
    runs without a re-measure no row changes. -/
theorem action_results_measured (batching : Batching) (tables : Tables) (env : Env) (remeasure : Bool)
    (table : ResultTable) (windows : List ℤ) :
    Attributed tables env remeasure windows table
        (measureActionResults batching tables env remeasure table windows).1 ∧
      ((∀ windowDays ∈ windows, Acceptable tables env remeasure table windowDays) →
        (measureActionResults batching tables env remeasure table windows).2.isSome ∧
          Complete tables env remeasure windows table
            (measureActionResults batching tables env remeasure table windows).1) ∧
      ∀ runs after, Run Step table runs after → ∀ key row, table.get? key = some row →
        after.get? key = some row := by
  refine ⟨measureActionResults_attributed, measureActionResults_complete, ?_⟩
  intro runs after run key row there
  apply run.invariant (fun after => after.get? key = some row) there
  intro before run' after' kept step
  cases step
  exact measureActionResults_attributed.keeps kept

/-- A message sent on the first day, to a client its proposal includes for one fund, and one purchase. -/
def oneMessage (amount : ℚ) : Tables where
  touches := [⟨1, 1, some "m1", some 0, some "sent"⟩]
  enrollments := Dict.empty.set 1 1
  campaigns := Dict.empty.set 1 false
  proposals := [⟨1, some 1, none⟩]
  messages := Dict.empty.set "m1" 7
  proposalClients := Dict.empty.set (1, 7, 3) true
  activeFunds := Dict.empty.set (7, 3) ⟨some 1000, 8 * microsecondsPerDay⟩
  transactions := [⟨"purchase", 7, 3, some 1, amount⟩]

/-- A clock eight days later, with days that begin at midnight. -/
def eighthDay : Env := ⟨8 * microsecondsPerDay, fun moment => moment / microsecondsPerDay⟩

theorem action_results_measured_deposit :
    (((measureActionResults batches (oneMessage 100) eighthDay false .empty [7]).1.get? ("m1", 7)).map
      ActionResult.depositAmountKes) = some 100 := by
  have due : SentMessage.mk "m1" 7 1 none 0 ∈ dueIn (oneMessage 100) eighthDay 7 := by decide +kernel
  have acceptable : ∀ windowDays ∈ [(7 : ℤ)],
      Acceptable (oneMessage 100) eighthDay false .empty windowDays := by
    have one : dueIn (oneMessage 100) eighthDay 7 = [⟨"m1", 7, 1, none, 0⟩] := by decide +kernel
    intro windowDays mem
    obtain rfl := List.mem_singleton.mp mem
    intro message due row measured _
    rw [one, List.mem_singleton] at due
    subst due
    have amount : (expected (oneMessage 100) eighthDay 7 ⟨"m1", 7, 1, none, 0⟩).map
        ActionResult.depositAmountKes = some 100 := by decide +kernel
    rw [measured, Option.map_some, Option.some_inj] at amount
    rw [amount]
    exact ⟨by decide, by norm_num⟩
  have measured : (expected (oneMessage 100) eighthDay 7 ⟨"m1", 7, 1, none, 0⟩).isSome := by decide +kernel
  obtain ⟨row, there⟩ := Option.isSome_iff_exists.mp measured
  have complete := ((action_results_measured batches (oneMessage 100) eighthDay false .empty [7]).2.1
    acceptable).2
  rw [complete 7 (List.mem_singleton_self _) _ due row there]
  have amount : (expected (oneMessage 100) eighthDay 7 ⟨"m1", 7, 1, none, 0⟩).map
      ActionResult.depositAmountKes = some 100 := by decide +kernel
  rw [there] at amount
  exact amount

/-- With a purchase of a negative amount the due message gets no row. -/
theorem negative_purchase_refused :
    ¬ ∀ (batching : Batching) (tables : Tables) (env : Env) (table : ResultTable) (windows : List ℤ),
      (∀ windowDays ∈ windows, 0 < windowDays) →
        ∀ windowDays ∈ windows, ∀ message ∈ dueIn tables env windowDays, fundsOf tables message ≠ [] →
          ((measureActionResults batching tables env false table windows).1.get?
            (message.messageId, windowDays)).isSome := by
  intro every
  have due : SentMessage.mk "m1" 7 1 none 0 ∈ dueIn (oneMessage (-100)) eighthDay 7 := by decide +kernel
  have included : fundsOf (oneMessage (-100)) ⟨"m1", 7, 1, none, 0⟩ ≠ [] := by decide +kernel
  have refused : (measureActionResults batches (oneMessage (-100)) eighthDay false .empty [7]).1.get?
      ("m1", 7) = none := by decide +kernel
  have there := every batches (oneMessage (-100)) eighthDay .empty [7] (by simp) 7
    (List.mem_singleton_self _) _ due included
  rw [refused] at there
  cases there

end ClientEngagement.Agents.Results
