import ClientEngagement.Lib.Dict
import ClientEngagement.Lib.Json
import ClientEngagement.Lib.KeyOrder

/-!
# The ingestion worker

Model of `workers/ingestion.py`: the tables of a pull, `fetchPage` (`_fetch_page`), `storeRaw`
(`_store_raw`), `processPage` (`_process_page`), the sequential pull `run` and the concurrent one
`runBulk` (`run_bulk`). A worker is generic in the contracts it validates with, and a source is a
function of the parameters it is asked with. Page numbers are kept as text and read back as numbers; here
they are numbers throughout. `processPage_ok` says all a page does to the counters.
-/

namespace ClientEngagement.Ingestion

abbrev RunId := String
abbrev PageNo := ℤ

inductive RunState where
  | running
  | completed
  | failed
deriving DecidableEq

/-- One row of `ingestion_status`. -/
structure IngestionStatus where
  endpoint : String
  startedAt : ℤ
  state : RunState := .running
  pageCursor : Option PageNo := none
  fundCursor : Option ℤ := none
  recordsSeen : ℕ := 0
  recordsWritten : ℕ := 0
  recordsRejected : ℕ := 0
  shortfall : ℤ := 0

/-- A record that failed validation, with the reason why. -/
structure IngestionReject where
  runId : RunId
  rawFragment : Json
  reason : String

/-- A response: what its meta block says, and its funds, unless `RawEnvelope` refuses them. -/
structure Payload where
  currentPage : Option PageNo := none
  lastPage : Option PageNo := none
  total : Option ℤ := none
  data : Option (List Json)

structure IngestionDb where
  statuses : Dict RunId IngestionStatus := .empty
  rawStaging : Dict (RunId × PageNo) Payload := .empty
  rejects : List IngestionReject := []

/-- A fund as the contract reads it; `headcount` is the field the worker counts by. -/
structure FundRecord where
  unitFundId : ℤ
  headcount : Option ℤ
  clients : List Json

/-- The models a worker validates with: the record, or the first error's location and message. -/
structure Contracts where
  fundModel : Json → Except String FundRecord
  clientModel : Json → Except String Unit

/-- What a worker is built with. -/
structure WorkerConfig extends Contracts where
  endpoint : String
  maxPages : ℕ := 1000
  pageSize : Option ℤ := none

/-- A source answers a page number and a page size, or its own default size. -/
abbrev Source := PageNo → Option ℤ → Payload

/-! ## One page -/

/-- The response to the request after a cursor, its page and the last one, or none past the last page a
    response named. -/
def fetchPage (source : Source) (pageSize : Option ℤ) (knownLastPage after : Option PageNo) :
    Option (PageNo × Payload × PageNo) :=
  let nextPage := after.elim 1 (· + 1)
  if knownLastPage.any (· < nextPage) then none
  else
    let payload := source nextPage pageSize
    let currentPage := payload.currentPage.getD nextPage
    some (currentPage, payload, payload.lastPage.getD currentPage)

/-- Upserts the raw payload, so a repeated page overwrites. -/
def storeRaw (db : IngestionDb) (runId : RunId) (page : PageNo) (payload : Payload) : IngestionDb :=
  { db with rawStaging := db.rawStaging.set (runId, page) payload }

/-- `f.get("unit_fund_id") or 0`. -/
def fundKey (fundRaw : Json) : Json :=
  let unitFundId := (fundRaw.field? "unit_fund_id").getD .null
  if unitFundId.truthy then unitFundId else .num 0

/-- The funds in the order of their ids; numbers and texts do not compare. -/
def sortFunds (data : List Json) : Option (List Json) :=
  if data.length ≤ 1 then some data
  else if data.all fun fundRaw => (fundKey fundRaw).number?.isSome then
    some (sortBy (fun fundRaw => (fundKey fundRaw).number?.getD 0) data)
  else if data.all fun fundRaw => (fundKey fundRaw).text?.isSome then
    some (sortBy (fun fundRaw => (fundKey fundRaw).text?.getD "") data)
  else none

/-- The session's row of a run and the rejects it is about to add. -/
abbrev Counted := IngestionStatus × List IngestionReject

/-- `_reject`. -/
def reject (runId : RunId) (kind : String) (counted : Counted) (fragment : Json) (error : String) :
    Counted :=
  ({ counted.1 with recordsRejected := counted.1.recordsRejected + 1 },
    counted.2 ++ [⟨runId, fragment, kind ++ ": " ++ error⟩])

def processClient (contracts : Contracts) (runId : RunId) (counted : Counted) (clientRaw : Json) :
    Counted :=
  let seen : Counted := ({ counted.1 with recordsSeen := counted.1.recordsSeen + 1 }, counted.2)
  match contracts.clientModel clientRaw with
  | .error error => reject runId "client" seen clientRaw error
  | .ok () => ({ seen.1 with recordsWritten := seen.1.recordsWritten + 1 }, seen.2)

/-- How many clients fewer came than the fund says it has. -/
def gapOf (fund : FundRecord) : ℤ :=
  fund.headcount.elim 0 fun expected => max (expected - fund.clients.length) 0

def processFund (contracts : Contracts) (runId : RunId) (counted : Counted) (fundRaw : Json) :
    Counted :=
  match contracts.fundModel fundRaw with
  | .error error => reject runId "fund" counted fundRaw error
  | .ok fund =>
    let short : Counted := ({ counted.1 with shortfall := counted.1.shortfall + gapOf fund }, counted.2)
    let (status, rejects) := fund.clients.foldl (processClient contracts runId) short
    ({ status with fundCursor := some fund.unitFundId }, rejects)

/-- Counts a page's records and collects its rejects; an envelope or an order that cannot be read
    raises. -/
def processPage (contracts : Contracts) (runId : RunId) (status : IngestionStatus)
    (payload : Payload) : Option Counted :=
  (payload.data.bind sortFunds).map fun funds =>
    funds.foldl (processFund contracts runId) (status, [])

/-- The counters, the rejects and the cursor of a page, in one transaction. -/
def countPage (contracts : Contracts) (db : IngestionDb) (runId : RunId) (status : IngestionStatus)
    (page : PageNo) (payload : Payload) : Option IngestionDb :=
  (processPage contracts runId status payload).map fun counted =>
    { db with
      statuses := db.statuses.set runId { counted.1 with pageCursor := some page }
      rejects := db.rejects ++ counted.2 }

/-! ## A run -/

/-- Loads an existing run to resume, or starts a new one (`_open_run`). -/
def openRun (db : IngestionDb) (endpoint : String) (runId : RunId) (now : ℤ) :
    IngestionDb × IngestionStatus :=
  match db.statuses.get? runId with
  | some status =>
    if status.state = .completed then (db, status)
    else
      let status := { status with state := .running }
      ({ db with statuses := db.statuses.set runId status }, status)
  | none =>
    let status : IngestionStatus := { endpoint := endpoint, startedAt := now }
    ({ db with statuses := db.statuses.set runId status }, status)

/-- Writes the state of a run. -/
def IngestionDb.setState (db : IngestionDb) (runId : RunId) (state : RunState) : IngestionDb :=
  match db.statuses.get? runId with
  | none => db
  | some status => { db with statuses := db.statuses.set runId { status with state := state } }

/-- `_mark_failed`. -/
def markFailed (db : IngestionDb) (runId : RunId) : IngestionDb :=
  match db.statuses.get? runId with
  | none => db
  | some status => if status.state = .completed then db else db.setState runId .failed

/-- What a run did. -/
structure IngestionResult where
  runId : RunId
  state : RunState
  pages : ℕ
  recordsSeen : ℕ
  recordsWritten : ℕ
  recordsRejected : ℕ
  shortfall : ℤ
  populationTotal : Option ℤ
  populationGap : Option ℤ

/-- `_summarize`; `knownTotal` is the total of the last response that had one. -/
def summarize (db : IngestionDb) (runId : RunId) (status : IngestionStatus) (knownTotal : Option ℤ) :
    IngestionResult where
  runId := runId
  state := status.state
  pages := (db.rawStaging.items.filter fun row => row.1.1 = runId).length
  recordsSeen := status.recordsSeen
  recordsWritten := status.recordsWritten
  recordsRejected := status.recordsRejected
  shortfall := status.shortfall
  populationTotal := knownTotal
  populationGap := knownTotal.map (· - status.recordsSeen)

/-- What a pull leaves behind, and its summary unless it raised. -/
structure PullResult where
  db : IngestionDb
  summary : Option IngestionResult

/-- The run failed with this database committed. -/
def failWith (db : IngestionDb) (runId : RunId) : PullResult := ⟨markFailed db runId, none⟩

/-- The run completed with this database written. -/
def completeRun (db : IngestionDb) (runId : RunId) (knownTotal : Option ℤ) : PullResult :=
  let db := db.setState runId .completed
  ⟨db, (db.statuses.get? runId).map fun status => summarize db runId status knownTotal⟩

/-- The loop of `run`, with the pages it may still pull. -/
def runPages (config : WorkerConfig) (source : Source) (runId : RunId) :
    ℕ → IngestionDb → IngestionStatus → Option PageNo → Option ℤ → PullResult
  | 0, db, _, _, total => completeRun db runId total
  | budget + 1, db, status, knownLastPage, total =>
    match fetchPage source config.pageSize knownLastPage status.pageCursor with
    | none => completeRun db runId total
    | some (page, payload, lastPage) =>
      -- the raw payload is committed before it is counted
      let stored := storeRaw db runId page payload
      match countPage config.toContracts stored runId status page payload with
      | none => failWith stored runId
      | some counted =>
        match counted.statuses.get? runId with
        | none => failWith counted runId
        | some status =>
          runPages config source runId budget counted status (some lastPage)
            (payload.total.or total)

/-- `run`. -/
def run (config : WorkerConfig) (source : Source) (db : IngestionDb) (runId : RunId) (now : ℤ) :
    PullResult :=
  let (opened, status) := openRun db config.endpoint runId now
  if status.state = .completed then ⟨opened, some (summarize opened runId status none)⟩
  else runPages config source runId config.maxPages opened status none none

/-- Stores and counts pages in one transaction. -/
def loadPages (contracts : Contracts) (runId : RunId) :
    List (PageNo × Payload) → IngestionDb → Option ℤ → Option (IngestionDb × Option ℤ)
  | [], db, total => some (db, total)
  | (page, payload) :: rest, db, total =>
    (db.statuses.get? runId).bind fun status =>
      (countPage contracts (storeRaw db runId page payload) runId status page payload).bind fun counted =>
        loadPages contracts runId rest counted (payload.total.or total)

/-- The pages after the first that a bulk run asks for. -/
def remainingPages (config : WorkerConfig) (lastPage : PageNo) : List PageNo :=
  if 1 < lastPage then
    (List.range ((min lastPage config.maxPages).toNat - 1)).map fun i : ℕ => (i : ℤ) + 2
  else []

/-- The page numbers a bulk run asks for, once the first response is in. -/
def bulkRequests (config : WorkerConfig) (source : Source) : List PageNo :=
  match fetchPage source config.pageSize none none with
  | none => []
  | some (_, _, lastPage) => remainingPages config (if lastPage = 0 then 1 else lastPage)

/-- `run_bulk` on a fresh run, with the page numbers in the order their fetches finish. The requests after
    the first do not name a page size. -/
def runBulk (config : WorkerConfig) (source : Source) (finished : List PageNo) (db : IngestionDb)
    (runId : RunId) (now : ℤ) : PullResult :=
  let (opened, _) := openRun db config.endpoint runId now
  let first : Dict PageNo Payload :=
    match fetchPage source config.pageSize none none with
    | none => .empty
    | some (page, payload, _) => Dict.empty.set page payload
  let pages := finished.foldl (fun pages page => pages.set page (source page none)) first
  match loadPages config.toContracts runId (sortBy Prod.fst pages.items) opened none with
  | none => failWith opened runId
  | some (loaded, total) => completeRun loaded runId total

/-! ## What a page adds -/

/-- Records seen, written and rejected, and the shortfall. -/
abbrev Tally := ℕ × ℕ × ℕ × ℤ

def IngestionStatus.tally (status : IngestionStatus) : Tally :=
  (status.recordsSeen, status.recordsWritten, status.recordsRejected, status.shortfall)

def isValidClient (contracts : Contracts) (clientRaw : Json) : Bool :=
  match contracts.clientModel clientRaw with
  | .ok () => true
  | .error _ => false

def validFund? (contracts : Contracts) (fundRaw : Json) : Option FundRecord :=
  match contracts.fundModel fundRaw with
  | .ok fund => some fund
  | .error _ => none

/-- What a list of client records adds. -/
def clientsTally (contracts : Contracts) (clients : List Json) : Tally :=
  (clients.length, clients.countP (isValidClient contracts),
    clients.countP (!isValidClient contracts ·), 0)

def fundTally (contracts : Contracts) (fundRaw : Json) : Tally :=
  match validFund? contracts fundRaw with
  | none => (0, 0, 1, 0)
  | some fund => (0, 0, 0, gapOf fund) + clientsTally contracts fund.clients

def pageTally (contracts : Contracts) (payload : Payload) : Tally :=
  ((payload.data.getD []).map (fundTally contracts)).sum

/-- The session's row and rejects have moved by a tally, and the rejects are the run's. -/
structure Moved (runId : RunId) (before : Counted) (added : Tally) (after : Counted) : Prop where
  tally : after.1.tally = before.1.tally + added
  rejects : ∃ new, after.2 = before.2 ++ new ∧ new.length = added.2.2.1 ∧
    ∀ reject ∈ new, reject.runId = runId
  kept : after.1.endpoint = before.1.endpoint ∧ after.1.startedAt = before.1.startedAt ∧
    after.1.state = before.1.state ∧ after.1.pageCursor = before.1.pageCursor

variable {contracts : Contracts} {runId : RunId} {before after after' : Counted} {added added' : Tally}

lemma Moved.refl (runId : RunId) (counted : Counted) : Moved runId counted 0 counted where
  tally := (add_zero _).symm
  rejects := ⟨[], (List.append_nil _).symm, rfl, nofun⟩
  kept := ⟨rfl, rfl, rfl, rfl⟩

lemma Moved.trans (h : Moved runId before added after) (h' : Moved runId after added' after') :
    Moved runId before (added + added') after' where
  tally := by rw [h'.tally, h.tally, add_assoc]
  rejects := by
    obtain ⟨new, same, length, mine⟩ := h.rejects
    obtain ⟨new', same', length', mine'⟩ := h'.rejects
    refine ⟨new ++ new', by rw [same', same, List.append_assoc], ?_, fun reject mem => ?_⟩
    · rw [List.length_append, length, length']
      rfl
    · rcases List.mem_append.mp mem with first | second
      · exact mine reject first
      · exact mine' reject second
  kept := by
    obtain ⟨endpoint, startedAt, state, cursor⟩ := h.kept
    obtain ⟨endpoint', startedAt', state', cursor'⟩ := h'.kept
    exact ⟨endpoint'.trans endpoint, startedAt'.trans startedAt, state'.trans state,
      cursor'.trans cursor⟩

lemma moved_processClient (counted : Counted) (clientRaw : Json) :
    Moved runId counted (clientsTally contracts [clientRaw])
      (processClient contracts runId counted clientRaw) := by
  rw [processClient]
  cases valid : contracts.clientModel clientRaw with
  | error error =>
    have invalid : isValidClient contracts clientRaw = false := by rw [isValidClient, valid]
    have one : clientsTally contracts [clientRaw] = (1, 0, 1, 0) := by
      simp [clientsTally, invalid]
    rw [one]
    refine ⟨?_, ⟨[_], rfl, rfl, by simp⟩, rfl, rfl, rfl, rfl⟩
    simp [IngestionStatus.tally, reject]
  | ok _ =>
    have isValid : isValidClient contracts clientRaw = true := by rw [isValidClient, valid]
    have one : clientsTally contracts [clientRaw] = (1, 1, 0, 0) := by
      simp [clientsTally, isValid]
    rw [one]
    refine ⟨?_, ⟨[], (List.append_nil _).symm, rfl, nofun⟩, rfl, rfl, rfl, rfl⟩
    simp [IngestionStatus.tally]

lemma clientsTally_cons (clientRaw : Json) (clients : List Json) :
    clientsTally contracts (clientRaw :: clients) =
      clientsTally contracts [clientRaw] + clientsTally contracts clients := by
  cases valid : isValidClient contracts clientRaw with
  | true => simp [clientsTally, valid, Nat.add_comm]
  | false => simp [clientsTally, valid, Nat.add_comm]

lemma moved_processClients (counted : Counted) (clients : List Json) :
    Moved runId counted (clientsTally contracts clients)
      (clients.foldl (processClient contracts runId) counted) := by
  induction clients generalizing counted with
  | nil => exact .refl runId counted
  | cons clientRaw clients ih =>
    rw [clientsTally_cons]
    exact (moved_processClient counted clientRaw).trans (ih _)

lemma moved_processFund (counted : Counted) (fundRaw : Json) :
    Moved runId counted (fundTally contracts fundRaw)
      (processFund contracts runId counted fundRaw) := by
  rw [processFund, fundTally, validFund?]
  cases contracts.fundModel fundRaw with
  | error error =>
    refine ⟨?_, ⟨[_], rfl, rfl, by simp⟩, rfl, rfl, rfl, rfl⟩
    simp [IngestionStatus.tally, reject]
  | ok fund =>
    have short : Moved runId counted (0, 0, 0, gapOf fund)
        ({ counted.1 with shortfall := counted.1.shortfall + gapOf fund }, counted.2) := by
      refine ⟨?_, ⟨[], (List.append_nil _).symm, rfl, nofun⟩, rfl, rfl, rfl, rfl⟩
      simp [IngestionStatus.tally]
    have clients : Moved runId
        ({ counted.1 with shortfall := counted.1.shortfall + gapOf fund }, counted.2)
        (clientsTally contracts fund.clients) _ := moved_processClients _ fund.clients
    have all := short.trans clients
    exact ⟨all.tally, all.rejects, all.kept⟩

lemma moved_processFunds (counted : Counted) (funds : List Json) :
    Moved runId counted (funds.map (fundTally contracts)).sum
      (funds.foldl (processFund contracts runId) counted) := by
  induction funds generalizing counted with
  | nil => exact .refl runId counted
  | cons fundRaw funds ih =>
    rw [List.map_cons, List.sum_cons]
    exact (moved_processFund counted fundRaw).trans (ih _)

lemma sortFunds_perm {data funds : List Json} (h : sortFunds data = some funds) : funds.Perm data := by
  rw [sortFunds] at h
  split at h
  · cases h
    exact .refl _
  · split at h
    · cases h
      exact sortBy_perm _ _
    · split at h
      · cases h
        exact sortBy_perm _ _
      · cases h

/-- A page that is processed adds its tally, in whatever order its funds come. -/
theorem processPage_ok {status : IngestionStatus} {payload : Payload} {counted : Counted}
    (h : processPage contracts runId status payload = some counted) :
    Moved runId (status, []) (pageTally contracts payload) counted := by
  rw [processPage, Option.map_eq_some_iff] at h
  obtain ⟨funds, sorted, same⟩ := h
  obtain ⟨data, given, sorted⟩ := Option.bind_eq_some_iff.mp sorted
  have sum : pageTally contracts payload = (funds.map (fundTally contracts)).sum := by
    rw [pageTally, given]
    exact ((sortFunds_perm sorted).map _).symm.sum_eq
  rw [sum, ← same]
  exact moved_processFunds (status, []) funds

end ClientEngagement.Ingestion
