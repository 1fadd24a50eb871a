import ClientEngagement.Campaigns.Touch

/-!
# Batch generation

Model of `campaigns/batch_generation.py`: `submitBatch` (`submit_batch`) with its loop body
`submitOne` and `buildRequest` (`_build_request`), and `ingestBatch` (`ingest_batch`) with
`ingestOne` (`_ingest_one`) and `persistResult` (`_persist_result`). The context loader, the two
scans, the draft parsers, the guardrails and the provider are parameters. Unique constraints raise.
-/

namespace ClientEngagement.Campaigns
open Rules (Date Instant)

/-! ## Submitting -/

/-- What a submission is given: the context loader with its `ValueError`, the inbound scan, the
    provider's id for the batch, and the run ids in the order they are drawn. -/
structure SubmitServices (γ : Type) where
  loadContext : ClientId → String → Except String γ
  leaksInbound : γ → Bool
  createBatch : List CustomId → String
  uuid : ℕ → CustomId

inductive SubmitError where
  | invalidTransition (error : InvalidTransition)
  | unknownDraftChannel (channel : String)
  | integrity

/-- Some batch that did not fail has an item for the step. -/
def alreadyBatched (db : Database) (enrollmentId : EnrollmentId) (stepNo : ℤ) : Bool :=
  db.items.items.any fun ((batchId, _), item) =>
    item.enrollmentId = enrollmentId ∧ item.stepNo = stepNo ∧
      (db.batches.get? batchId).any (·.status ≠ .failed)

/-- `(fund_type or "other").replace("_", " ")`. -/
def resolveProduct (db : Database) (clientId : ClientId) : String :=
  let fundType := ((db.features.get? clientId).map ClientFeatures.fundType).filter (· ≠ "")
  (fundType.getD "other").map fun c => if c = '_' then ' ' else c

/-- The step's own channel wins, also an empty one. -/
def resolveTouchChannel (db : Database) (campaignId : CampaignId) (stepNo : ℤ) : String :=
  match (db.steps.get? (campaignId, stepNo)).bind CampaignStep.channel with
  | some channel => channel
  | none => ((db.campaigns.get? campaignId).map Campaign.defaultChannel).getD ""

/-- The keys of `CHANNEL_SPECS`. -/
def channelSpecs : List String := ["email", smsChannel]

/-- A submission under way: the session's database, how many run ids were drawn, and the requests. -/
structure Submission where
  db : Database
  drawn : ℕ := 0
  requests : List CustomId := []

variable {γ : Type}

/-- Adds the item and the request of one client, or neither when the client is skipped. -/
def buildRequest (services : SubmitServices γ) (batchId : BatchId) (s : Submission) (e : Enrollment)
    (stepNo : ℤ) (channel : String) : Except SubmitError Submission :=
  let runId := services.uuid s.drawn
  let product := resolveProduct s.db e.clientId
  match services.loadContext e.clientId product with
  | .error _ => .ok { s with drawn := s.drawn + 1 }
  | .ok context =>
    if channel ∉ channelSpecs then .error (.unknownDraftChannel channel)
    else if services.leaksInbound context then .ok { s with drawn := s.drawn + 1 }
    else if s.db.items.contains (batchId, runId) then .error .integrity
    else
      let item : GenerationBatchItem :=
        { clientId := e.clientId, enrollmentId := e.enrollmentId, stepNo := stepNo
          product := product, channel := channel }
      .ok { db := { s.db with items := s.db.items.set (batchId, runId) item }
            drawn := s.drawn + 1
            requests := s.requests ++ [runId] }

/-- The loop body: gate, earlier batches, touch, request. -/
def submitOne (services : SubmitServices γ) (env : Env) (campaignId : CampaignId) (batchId : BatchId)
    (s : Submission) (e : Enrollment) : Except SubmitError Submission :=
  match checkEligibility s.db env e with
  | .error error => .error (.invalidTransition error)
  | .ok gate =>
    if ¬ gate.result.eligible then .ok { s with db := s.db.storeEnrollment gate.enrollment }
    else
      let stepNo := e.currentStep + 1
      if alreadyBatched s.db e.enrollmentId stepNo then .ok s
      else
        let (logged, touch) := recordTouch s.db e.enrollmentId stepNo
        if touch.messageId.isSome then .ok { s with db := logged }
        else
          buildRequest services batchId { s with db := logged } e stepNo
            (resolveTouchChannel logged campaignId stepNo)

def submitLoop (services : SubmitServices γ) (env : Env) (campaignId : CampaignId)
    (batchId : BatchId) (s : Submission) : List Enrollment → Except SubmitError Submission
  | [] => .ok s
  | e :: rest =>
    (submitOne services env campaignId batchId s e).bind fun s' =>
      submitLoop services env campaignId batchId s' rest

/-- The batch row once the requests are known: nothing to send, or sent to the provider. -/
def submittedBatch (services : SubmitServices γ) (batch : GenerationBatch)
    (requests : List CustomId) : GenerationBatch :=
  if requests = [] then { batch with status := .noEligibleClients }
  else
    { batch with
      providerBatchId := some (services.createBatch requests)
      status := .submitted
      requestedCount := requests.length }

/-- The batch row a submission starts with. -/
def newBatch (campaignId : CampaignId) (limit : ℕ) : GenerationBatch where
  campaignId := campaignId
  requestedLimit := limit

def submitBatch (services : SubmitServices γ) (db : Database) (env : Env) (campaignId : CampaignId)
    (limit : ℕ) (batchId : BatchId) : Except SubmitError Database :=
  if db.batches.contains batchId then .error .integrity
  else
    let batch := newBatch campaignId limit
    let opened := { db with batches := db.batches.set batchId batch }
    (submitLoop services env campaignId batchId { db := opened }
        (selectDueEnrollments opened env (some campaignId) limit)).map fun s =>
      { s.db with batches := s.db.batches.set batchId (submittedBatch services batch s.requests) }

/-! ## Ingesting -/

/-- One result of the provider's batch. -/
structure ProviderResult where
  customId : CustomId
  type : String
  stopReason : Option String := none
  text : String := ""

/-- What the provider says about a batch. -/
structure ProviderBatch where
  ended : Bool
  succeeded : ℕ := 0
  errored : ℕ := 0
  canceled : ℕ := 0
  expired : ℕ := 0

/-- What an ingestion is given: the outbound scan, a channel's parser and guardrails, and the
    creation of a message, which fails when a placeholder has no value for the client. -/
structure IngestServices (δ : Type) where
  scanOutbound : String → Option String
  parse : String → String → Except String δ
  guardrails : String → List (δ → Option String)
  createMessage : GenerationBatchItem → δ → Except String MessageId

structure BatchIngestOutcome where
  customId : CustomId
  status : ItemStatus
  reason : Option String := none
deriving DecidableEq

variable {δ : Type}

/-- The message a result is accepted with, or the reason it is rejected for. -/
def judge (services : IngestServices δ) (item : GenerationBatchItem) (result : ProviderResult) :
    Except String MessageId :=
  if result.type ≠ "succeeded" then .error ("batch result " ++ result.type)
  else if result.stopReason = some "refusal" then .error "model declined the request"
  else
    match services.scanOutbound result.text with
    | some leak => .error leak
    | none =>
      match services.parse item.channel result.text with
      | .error failure => .error failure
      | .ok draft =>
        match (services.guardrails item.channel).findSome? (· draft) with
        | some failure => .error failure
        | none => services.createMessage item draft

/-- The message a batch item gets. -/
def batchMessage (batch : GenerationBatch) (item : GenerationBatchItem) : OutreachMessage where
  campaignId := batch.campaignId
  clientId := item.clientId
  channel := item.channel

/-- Points the touch of the step at its message, if there is a touch. -/
def pointTouch (db : Database) (key : EnrollmentId × ℤ) (id : MessageId) : Database :=
  match db.touches.get? key with
  | none => db
  | some touch => db.storeTouch key { touch with messageId := some id }

inductive IngestError where
  | batchNotFound
  | integrity
deriving DecidableEq

/-- Writes the run of a result, its message if it has one, and the item's status. The run's primary
    key is the item's custom id, so a second result for one item raises. -/
def persistResult (db : Database) (batchId : BatchId) (batch : GenerationBatch) (customId : CustomId)
    (item : GenerationBatchItem) (verdict : Except String MessageId) :
    Except IngestError (Database × BatchIngestOutcome) :=
  if db.runs.contains customId then .error .integrity
  else
    match verdict with
    | .error reason =>
      .ok ({ db with
              runs := db.runs.set customId
                { clientId := item.clientId, product := item.product, status := .rejected
                  reason := some reason }
              items := db.items.set (batchId, customId) { item with status := .rejected } },
            { customId := customId, status := .rejected, reason := some reason })
    | .ok id =>
      let pointed := pointTouch (db.storeMessage id (batchMessage batch item))
        (item.enrollmentId, item.stepNo) id
      .ok ({ pointed with
              runs := pointed.runs.set customId
                { clientId := item.clientId, product := item.product, status := .accepted }
              items := pointed.items.set (batchId, customId) { item with status := .accepted } },
            { customId := customId, status := .accepted })

def ingestOne (services : IngestServices δ) (db : Database) (batchId : BatchId)
    (batch : GenerationBatch) (item : GenerationBatchItem) (result : ProviderResult) :
    Except IngestError (Database × BatchIngestOutcome) :=
  persistResult db batchId batch result.customId item (judge services item result)

/-- The items of a batch, with their custom ids. -/
def batchItems (db : Database) (batchId : BatchId) : List (CustomId × GenerationBatchItem) :=
  db.items.items.filterMap fun ((id, customId), item) =>
    if id = batchId then some (customId, item) else none

/-- The items of a batch that wait for a result, by custom id. -/
def pendingItems (db : Database) (batchId : BatchId) : Dict CustomId GenerationBatchItem :=
  .ofList ((batchItems db batchId).filter (·.2.status = .pending))

/-- The loop over the provider's results; a result for no waiting item is skipped. -/
def ingestLoop (services : IngestServices δ) (batchId : BatchId) (batch : GenerationBatch)
    (waiting : Dict CustomId GenerationBatchItem) (db : Database) :
    List ProviderResult → Except IngestError (Database × List BatchIngestOutcome)
  | [] => .ok (db, [])
  | result :: rest =>
    match waiting.get? result.customId with
    | none => ingestLoop services batchId batch waiting db rest
    | some item =>
      (ingestOne services db batchId batch item result).bind fun (db', outcome) =>
        (ingestLoop services batchId batch waiting db' rest).map fun (db'', outcomes) =>
          (db'', outcome :: outcomes)

def BatchStatus.isFinished (status : BatchStatus) : Bool :=
  status ∈ [BatchStatus.ingested, .noEligibleClients, .failed]

/-- The batch row with the provider's counts. -/
def GenerationBatch.counted (batch : GenerationBatch) (provider : ProviderBatch) : GenerationBatch :=
  { batch with
    succeededCount := some provider.succeeded
    erroredCount := some (provider.errored + provider.canceled + provider.expired) }

def ingestBatch (services : IngestServices δ) (db : Database) (batchId : BatchId)
    (provider : ProviderBatch) (results : List ProviderResult) :
    Except IngestError (Database × List BatchIngestOutcome) :=
  match db.batches.get? batchId with
  | none => .error .batchNotFound
  | some batch =>
    if batch.status.isFinished ∨ batch.providerBatchId = none then .ok (db, [])
    else if ¬ provider.ended then
      let polled := { batch.counted provider with status := .inProgress }
      .ok ({ db with batches := db.batches.set batchId polled }, [])
    else
      (ingestLoop services batchId batch (pendingItems db batchId) db results).map
        fun (db', outcomes) =>
          let ingested := { batch.counted provider with status := .ingested }
          ({ db' with batches := db'.batches.set batchId ingested }, outcomes)

/-! ## The items of a batch -/

variable {db : Database} {batchId : BatchId} {customId : CustomId} {item : GenerationBatchItem}

lemma mem_batchItems : (customId, item) ∈ batchItems db batchId ↔
    db.items.get? (batchId, customId) = some item := by
  rw [← Dict.mem_items_iff, batchItems, List.mem_filterMap]
  constructor
  · rintro ⟨⟨⟨id, c⟩, i⟩, mem, h⟩
    simp only at h
    split at h
    · rename_i same
      cases h
      exact same ▸ mem
    · cases h
  · intro mem
    exact ⟨_, mem, by simp⟩

lemma nodup_batchItems : ((batchItems db batchId).map Prod.fst).Nodup := by
  have keys : (batchItems db batchId).map Prod.fst =
      (db.items.items.map Prod.fst).filterMap fun key =>
        if key.1 = batchId then some key.2 else none := by
    rw [batchItems, List.map_filterMap, List.filterMap_map]
    refine List.filterMap_congr fun ⟨⟨id, c⟩, i⟩ _ => ?_
    simp only [Function.comp_apply]
    split
    · rfl
    · rfl
  rw [keys]
  refine List.Nodup.filterMap ?_ db.items.nodup
  rintro ⟨id, c⟩ ⟨id', c'⟩ b mem mem'
  simp only [Option.mem_def, Option.ite_none_right_eq_some, Option.some.injEq] at mem mem'
  rw [mem.1, mem'.1, mem.2, mem'.2]

/-- A waiting item is a pending item of the batch. -/
lemma get?_pendingItems : (pendingItems db batchId).get? customId = some item ↔
    db.items.get? (batchId, customId) = some item ∧ item.status = .pending := by
  have nodup : (((batchItems db batchId).filter (·.2.status = .pending)).map Prod.fst).Nodup :=
    nodup_batchItems.sublist (List.filter_sublist.map _)
  rw [pendingItems, Dict.get?_ofList nodup, List.mem_filter, mem_batchItems, decide_eq_true_eq]

end ClientEngagement.Campaigns
