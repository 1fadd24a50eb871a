import ClientEngagement.Campaigns.Bundling
import ClientEngagement.Campaigns.Sending

/-!
# Concurrent drafting

Model of `run_due_enrollments` (`campaigns/touch.py`), `submit_batch` and `ingest_batch`
(`campaigns/batch_generation.py`) as sessions over one committed database. A session takes one
enrollment at a time through the gate, the earlier batches and `record_touch`; what it inserts is
seen by the others at its commit only, but a touch it inserted blocks theirs until then. An ingestion
reads its batch and the waiting items, and writes what the provider returned. When no session goes on
with a touch that another one logged meanwhile, every step has one item and one message
(`one_message_per_touch`).
-/

namespace ClientEngagement.Campaigns
open Rules (Date Instant)

abbrev SessionId := ℕ

/-- The touch an item is for. -/
def GenerationBatchItem.touchKey (item : GenerationBatchItem) : TouchKey :=
  (item.enrollmentId, item.stepNo)

/-- How far a session is with an enrollment: the gate accepted it, no batch has an item for its step,
    its touch is recorded and has no message. -/
inductive Phase where
  | gated
  | unclaimed
  | recorded
deriving DecidableEq

/-- A run of `run_due_enrollments`, or a submission with its batch: the enrollment it is at, the steps
    whose touch it recorded, those it inserted, and the items it added, all since its last commit. -/
structure DraftSession where
  batchId : Option BatchId
  turn : Option (Enrollment × Phase)
  recorded : List TouchKey
  inserted : List TouchKey
  items : Dict CustomId GenerationBatchItem
  bundled : ∀ customId item, items.get? customId = some item → item.touchKey ∈ recorded
  single : ∀ customId customId' item item', items.get? customId = some item →
    items.get? customId' = some item' → item.touchKey = item'.touchKey → customId = customId'
  held : ∀ e, turn = some (e, .recorded) → e.nextTouch ∈ recorded ∧
    ∀ customId item, items.get? customId = some item → item.touchKey ≠ e.nextTouch
  before : ∀ e phase, turn = some (e, phase) → phase ≠ .recorded → e.nextTouch ∉ recorded

namespace DraftSession

/-- A session at its start, or after a commit. -/
def opened (batchId : Option BatchId) : DraftSession where
  batchId := batchId
  turn := none
  recorded := []
  inserted := []
  items := .empty
  bundled _ _ h := by cases h
  single _ _ _ _ h := by cases h
  held _ h := by cases h
  before _ _ h := by cases h

def accept (s : DraftSession) (e : Enrollment) (fresh : e.nextTouch ∉ s.recorded) : DraftSession :=
  { s with
    turn := some (e, .gated)
    held := fun _ h => by cases h
    before := fun _ _ h _ => by cases h; exact fresh }

def lookedUp (s : DraftSession) (e : Enrollment) (turn : s.turn = some (e, .gated)) : DraftSession :=
  { s with
    turn := some (e, .unclaimed)
    held := fun _ h => by cases h
    before := fun _ _ h _ => by
      cases h
      exact s.before e .gated turn (by decide) }

/-- The session is done with its enrollment. -/
def pass (s : DraftSession) : DraftSession :=
  { s with
    turn := none
    held := fun _ h => by cases h
    before := fun _ _ h _ => by cases h }

/-- The session has made the checks that come before `record_touch`. -/
def Ready (s : DraftSession) (e : Enrollment) : Prop :=
  s.turn = some (e, if s.batchId.isNone then .gated else .unclaimed)

lemma Ready.fresh {s : DraftSession} {e : Enrollment} (ready : s.Ready e) :
    e.nextTouch ∉ s.recorded := by
  refine s.before e _ ready ?_
  split
  · decide
  · decide

/-- `record_touch` returned a touch without a message, inserted or found. -/
def record (s : DraftSession) (e : Enrollment) (ready : s.Ready e) (inserted : List TouchKey) :
    DraftSession :=
  { s with
    turn := some (e, .recorded)
    recorded := e.nextTouch :: s.recorded
    inserted := inserted
    bundled := fun c item h => List.mem_cons_of_mem _ (s.bundled c item h)
    held := fun _ h => by
      cases h
      refine ⟨List.mem_cons_self, fun c item found same => ready.fresh ?_⟩
      exact same ▸ s.bundled c item found
    before := fun _ _ h ne => by
      cases h
      exact absurd rfl ne }

/-- `_build_request` returned a request: its item is added. -/
def bundle (s : DraftSession) (e : Enrollment) (turn : s.turn = some (e, .recorded))
    (customId : CustomId) (item : GenerationBatchItem) (isFor : item.touchKey = e.nextTouch) :
    DraftSession :=
  { s with
    turn := none
    items := s.items.set customId item
    bundled := fun c item' h => by
      rw [Dict.get?_set] at h
      split at h
      · cases h
        exact isFor ▸ (s.held e turn).1
      · exact s.bundled c item' h
    single := fun c c' i i' h h' same => by
      rw [Dict.get?_set] at h h'
      split at h
      · cases h
        split at h'
        · cases h'
          simp only [*]
        · exact absurd (same.symm.trans isFor) ((s.held e turn).2 c' i' h')
      · split at h'
        · cases h'
          exact absurd (same.trans isFor) ((s.held e turn).2 c i h)
        · exact s.single c c' i i' h h' same
    held := fun _ h => by cases h
    before := fun _ _ h _ => by cases h }

end DraftSession

/-- An ingestion: the batch as it read it, and the waiting items as it listed them. -/
structure Ingestion where
  batchId : BatchId
  batch : GenerationBatch
  waiting : Dict CustomId GenerationBatchItem := .empty

/-- The committed database, the sessions and ingestions under way, and the step of every message
    committed so far. -/
structure DraftState where
  db : Database
  sessions : Dict SessionId DraftSession := .empty
  ingestions : Dict SessionId Ingestion := .empty
  created : List TouchKey := []

/-- The commit of a turn of `run_due_enrollments`: the touch, and its message if one was drafted. -/
def Database.drafted (db : Database) (key : TouchKey) (message : Option (MessageId × OutreachMessage)) :
    Database :=
  let logged := (recordTouch db key.1 key.2).1
  match message with
  | none => logged
  | some (id, row) => pointTouch (logged.storeMessage id row) key id

def Database.logAll (db : Database) (keys : List TouchKey) : Database :=
  keys.foldl (fun db key => (recordTouch db key.1 key.2).1) db

/-- The items of a submission among those of the earlier batches. -/
def addItems (batchId : BatchId) (added : List (CustomId × GenerationBatchItem))
    (items : Dict (BatchId × CustomId) GenerationBatchItem) :
    Dict (BatchId × CustomId) GenerationBatchItem :=
  added.foldl (fun items i => items.set (batchId, i.1) i.2) items

/-- The commit of a submission: its touches, its items and its batch. -/
def Database.submitted (db : Database) (s : DraftSession) (batchId : BatchId)
    (batch : GenerationBatch) : Database :=
  { db.logAll s.inserted with
    items := addItems batchId s.items.items db.items
    batches := db.batches.set batchId batch }

/-- The steps of the accepted results. -/
def acceptedKeys (waiting : Dict CustomId GenerationBatchItem) (outcomes : List BatchIngestOutcome) :
    List TouchKey :=
  outcomes.filterMap fun outcome =>
    if outcome.status = .accepted then
      (waiting.get? outcome.customId).map GenerationBatchItem.touchKey
    else none

inductive DraftLabel where
  | start (session : SessionId)
  | gate (session : SessionId)
  | lookUp (session : SessionId)
  | pass (session : SessionId)
  | insert (session : SessionId)
  | find (session : SessionId)
  | bundle (session : SessionId)
  | draft (session : SessionId)
  | submit (session : SessionId)
  | rollback (session : SessionId)
  | read (session : SessionId)
  | poll (session : SessionId)
  | list (session : SessionId)
  | ingest (session : SessionId)
  | giveUp (session : SessionId)
  | others

/-- What a session does next. `seen` is the database its own statements showed it: of the touches, the
    committed ones and those it inserted itself. -/
inductive DraftStep (γ δ : Type) (campaignId : CampaignId) (st : DraftState) :
    DraftLabel → DraftState → Prop where
  | start {sid batchId} (new : st.sessions.get? sid = none) :
      DraftStep γ δ campaignId st (.start sid)
        { st with sessions := st.sessions.set sid (.opened batchId) }
  -- the due enrollments are listed once each, so the session has not been at this one
  | gate {sid s env e seen gate} (found : st.sessions.get? sid = some s) (idle : s.turn = none)
      (campaign : e.campaignId = campaignId) (fresh : e.nextTouch ∉ s.recorded)
      (view : ∀ key, key ∉ s.inserted → seen.touches.get? key = st.db.touches.get? key)
      (check : checkEligibility seen env e = .ok gate) (eligible : gate.result.eligible = true) :
      DraftStep γ δ campaignId st (.gate sid)
        { st with sessions := st.sessions.set sid (s.accept e fresh) }
  | lookUp {sid s e batchId} (found : st.sessions.get? sid = some s)
      (submission : s.batchId = some batchId) (turn : s.turn = some (e, .gated))
      (unclaimed : alreadyBatched st.db e.enrollmentId (e.currentStep + 1) = false) :
      DraftStep γ δ campaignId st (.lookUp sid)
        { st with sessions := st.sessions.set sid (s.lookedUp e turn) }
  -- refused by the gate, batched already, drafted already, or no request could be built
  | pass {sid s} (found : st.sessions.get? sid = some s) :
      DraftStep γ δ campaignId st (.pass sid)
        { st with sessions := st.sessions.set sid s.pass }
  -- the insert waits while another session has inserted the same touch and not committed
  | insert {sid s e} (found : st.sessions.get? sid = some s) (ready : s.Ready e)
      (absent : st.db.touches.get? e.nextTouch = none)
      (free : ∀ other s', other ≠ sid → st.sessions.get? other = some s' →
        e.nextTouch ∉ s'.inserted) :
      DraftStep γ δ campaignId st (.insert sid)
        { st with
          sessions := st.sessions.set sid (s.record e ready (e.nextTouch :: s.inserted)) }
  | find {sid s e touch} (found : st.sessions.get? sid = some s) (ready : s.Ready e)
      (present : st.db.touches.get? e.nextTouch = some touch) (empty : touch.messageId = none) :
      DraftStep γ δ campaignId st (.find sid)
        { st with sessions := st.sessions.set sid (s.record e ready s.inserted) }
  | bundle {sid s e batchId customId item} (found : st.sessions.get? sid = some s)
      (submission : s.batchId = some batchId) (turn : s.turn = some (e, .recorded))
      (unused : s.items.get? customId = none) (isFor : item.touchKey = e.nextTouch)
      (client : item.clientId = e.clientId) (pending : item.status = .pending) :
      DraftStep γ δ campaignId st (.bundle sid)
        { st with sessions := st.sessions.set sid (s.bundle e turn customId item isFor) }
  | draft {sid s e} {message : Option (MessageId × OutreachMessage)}
      (found : st.sessions.get? sid = some s) (run : s.batchId = none)
      (turn : s.turn = some (e, .recorded)) :
      DraftStep γ δ campaignId st (.draft sid)
        { st with
          db := st.db.drafted e.nextTouch message
          sessions := st.sessions.set sid (.opened none)
          created := st.created ++ (message.toList.map fun _ => e.nextTouch) }
  | submit {sid s batchId limit} {services : SubmitServices γ}
      (found : st.sessions.get? sid = some s) (submission : s.batchId = some batchId)
      (idle : s.turn = none) (new : st.db.batches.get? batchId = none) :
      DraftStep γ δ campaignId st (.submit sid)
        { st with
          db := st.db.submitted s batchId
            (submittedBatch services (newBatch campaignId limit) s.items.keys)
          sessions := st.sessions.erase sid }
  | rollback {sid} : DraftStep γ δ campaignId st (.rollback sid)
      { st with sessions := st.sessions.erase sid }
  | read {sid batchId batch} (found : st.db.batches.get? batchId = some batch)
      (unfinished : batch.status.isFinished = false) (sent : batch.providerBatchId.isSome = true) :
      DraftStep γ δ campaignId st (.read sid)
        { st with ingestions := st.ingestions.set sid { batchId := batchId, batch := batch } }
  -- the provider has not ended the batch
  | poll {sid i} {provider : ProviderBatch} (found : st.ingestions.get? sid = some i) :
      DraftStep γ δ campaignId st (.poll sid)
        { st with
          db := { st.db with
            batches := st.db.batches.set i.batchId
              { i.batch.counted provider with status := .inProgress } }
          ingestions := st.ingestions.erase sid }
  | list {sid i} (found : st.ingestions.get? sid = some i) :
      DraftStep γ δ campaignId st (.list sid)
        { st with
          ingestions := st.ingestions.set sid { i with waiting := pendingItems st.db i.batchId } }
  | ingest {sid i results db' outcomes} {provider : ProviderBatch} {services : IngestServices δ}
      (found : st.ingestions.get? sid = some i)
      (loop : ingestLoop services i.batchId i.batch i.waiting st.db results = .ok (db', outcomes)) :
      DraftStep γ δ campaignId st (.ingest sid)
        { st with
          db := { db' with
            batches := db'.batches.set i.batchId
              { i.batch.counted provider with status := .ingested } }
          ingestions := st.ingestions.erase sid
          created := st.created ++ acceptedKeys i.waiting outcomes }
  | giveUp {sid} : DraftStep γ δ campaignId st (.giveUp sid)
      { st with ingestions := st.ingestions.erase sid }
  -- nothing else logs a touch, sets its message, or writes items, batches and their runs
  | others {db'}
      (touches : ∀ key, (db'.touches.get? key).map TouchLog.messageId =
        (st.db.touches.get? key).map TouchLog.messageId)
      (items : db'.items = st.db.items) (batches : db'.batches = st.db.batches)
      (runs : db'.runs = st.db.runs) :
      DraftStep γ δ campaignId st .others { st with db := db' }

/-- When `record_touch` finds a touch without a message, which was logged after the session's gate had
    passed, no batch has an item for the step and no other session is at work on it. -/
def DraftGuard (st : DraftState) : DraftLabel → Prop
  | .find sid => ∀ s e, st.sessions.get? sid = some s → s.Ready e →
      alreadyBatched st.db e.enrollmentId (e.currentStep + 1) = false ∧
        ∀ other s', other ≠ sid → st.sessions.get? other = some s' → e.nextTouch ∉ s'.recorded
  | _ => True

/-! ## What the commits leave -/

variable {db db' : Database} {key : TouchKey} {touch : TouchLog} {batchId : BatchId}
  {item item' : GenerationBatchItem} {customId : CustomId}

/-- A touch is there, and has no message. -/
def Blank (db : Database) (key : TouchKey) : Prop :=
  ∃ touch, db.touches.get? key = some touch ∧ touch.messageId = none

def HasMessage (db : Database) (key : TouchKey) : Prop :=
  ∃ touch id, db.touches.get? key = some touch ∧ touch.messageId = some id

lemma HasMessage.not_blank (has : HasMessage db key) : ¬ Blank db key := by
  intro ⟨touch, found, empty⟩
  obtain ⟨touch', id, found', drafted⟩ := has
  cases found.symm.trans found'
  cases empty.symm.trans drafted

/-- Logging a touch inserts an empty one where none was. -/
lemma touches_recordTouch (db : Database) (key : TouchKey) :
    (∀ k touch, db.touches.get? k = some touch →
      (recordTouch db key.1 key.2).1.touches.get? k = some touch) ∧
    (∀ k touch, (recordTouch db key.1 key.2).1.touches.get? k = some touch →
      db.touches.get? k = some touch ∨ k = key ∧ touch.messageId = none) ∧
    ((recordTouch db key.1 key.2).1.touches.get? key).isSome = true := by
  rw [recordTouch]
  cases absent : db.touches.get? (key.1, key.2) with
  | some touch =>
    refine ⟨fun _ _ h => h, fun _ _ h => .inl h, ?_⟩
    exact Option.isSome_iff_exists.mpr ⟨touch, absent⟩
  | none =>
    refine ⟨fun k touch h => ?_, fun k touch h => ?_, ?_⟩
    · have ne : k ≠ (key.1, key.2) := by
        intro same
        rw [same, absent] at h
        cases h
      exact (Dict.get?_set_ne _ _ ne).trans h
    · simp only [Database.storeTouch, Dict.get?_set] at h
      split at h
      · rename_i same
        cases h
        exact .inr ⟨same, rfl⟩
      · exact .inl h
    · simp [Database.storeTouch]

lemma recordTouch_others (db : Database) (id : EnrollmentId) (stepNo : ℤ) :
    (recordTouch db id stepNo).1.items = db.items ∧
      (recordTouch db id stepNo).1.batches = db.batches ∧
      (recordTouch db id stepNo).1.runs = db.runs := by
  rw [recordTouch]
  cases db.touches.get? (id, stepNo) with
  | some touch => exact ⟨rfl, rfl, rfl⟩
  | none => exact ⟨rfl, rfl, rfl⟩

lemma touches_logAll (db : Database) (keys : List TouchKey) :
    (∀ k touch, db.touches.get? k = some touch → (db.logAll keys).touches.get? k = some touch) ∧
    (∀ k touch, (db.logAll keys).touches.get? k = some touch →
      db.touches.get? k = some touch ∨ k ∈ keys ∧ touch.messageId = none) ∧
    (∀ k ∈ keys, ((db.logAll keys).touches.get? k).isSome = true) := by
  induction keys generalizing db with
  | nil => exact ⟨fun _ _ h => h, fun _ _ h => .inl h, nofun⟩
  | cons key keys ih =>
    obtain ⟨kept, fresh, logged⟩ := touches_recordTouch db key
    obtain ⟨kept', fresh', logged'⟩ := ih (recordTouch db key.1 key.2).1
    refine ⟨fun k touch h => kept' k touch (kept k touch h), fun k touch h => ?_, fun k mem => ?_⟩
    · cases fresh' k touch h with
      | inl old =>
        cases fresh k touch old with
        | inl older => exact .inl older
        | inr new => exact .inr ⟨new.1 ▸ List.mem_cons_self, new.2⟩
      | inr new => exact .inr ⟨List.mem_cons_of_mem _ new.1, new.2⟩
    · cases mem with
      | head =>
        obtain ⟨touch, found⟩ := Option.isSome_iff_exists.mp logged
        exact Option.isSome_iff_exists.mpr ⟨touch, kept' key touch found⟩
      | tail _ mem => exact logged' k mem

lemma logAll_others (db : Database) (keys : List TouchKey) :
    (db.logAll keys).items = db.items ∧ (db.logAll keys).batches = db.batches ∧
      (db.logAll keys).runs = db.runs := by
  induction keys generalizing db with
  | nil => exact ⟨rfl, rfl, rfl⟩
  | cons key keys ih =>
    obtain ⟨items, batches, runs⟩ := recordTouch_others db key.1 key.2
    obtain ⟨items', batches', runs'⟩ := ih (recordTouch db key.1 key.2).1
    exact ⟨items'.trans items, batches'.trans batches, runs'.trans runs⟩

lemma pointTouch_others (db : Database) (key : TouchKey) (id : MessageId) :
    (pointTouch db key id).items = db.items ∧ (pointTouch db key id).batches = db.batches ∧
      (pointTouch db key id).runs = db.runs := by
  rw [pointTouch]
  split
  · exact ⟨rfl, rfl, rfl⟩
  · exact ⟨rfl, rfl, rfl⟩

lemma touches_pointTouch {id : MessageId} (k : TouchKey) :
    (pointTouch db key id).touches.get? k =
      if k = key then (db.touches.get? key).map fun touch => { touch with messageId := some id }
      else db.touches.get? k := by
  rw [pointTouch]
  split
  · rename_i absent
    split
    · rename_i same
      rw [same, absent, Option.map_none]
    · rfl
  · rename_i touch present
    rw [present, Option.map_some]
    exact Dict.get?_set _ _ _ _

/-- The commit of a turn changes its own touch only, which then has the drafted message. -/
lemma touches_drafted (db : Database) (key : TouchKey)
    (message : Option (MessageId × OutreachMessage)) :
    (∀ k, k ≠ key → (db.drafted key message).touches.get? k = db.touches.get? k) ∧
    ((db.drafted key message).touches.get? key).isSome = true ∧
    (message.isSome = true → HasMessage (db.drafted key message) key) := by
  obtain ⟨kept, fresh, logged⟩ := touches_recordTouch db key
  have others := (recordTouch_frame db key.1 key.2).2.2
  cases message with
  | none => exact ⟨others, logged, nofun⟩
  | some message =>
    obtain ⟨id, row⟩ := message
    obtain ⟨touch, found⟩ := Option.isSome_iff_exists.mp logged
    have pointed : (db.drafted key (some (id, row))).touches.get? key =
        some { touch with messageId := some id } := by
      rw [Database.drafted, touches_pointTouch, if_pos rfl]
      show ((recordTouch db key.1 key.2).1.touches.get? key).map _ = _
      rw [found, Option.map_some]
    refine ⟨fun k ne => ?_, ?_, fun _ => ⟨_, id, pointed, rfl⟩⟩
    · rw [Database.drafted, touches_pointTouch, if_neg ne]
      exact others k ne
    · rw [pointed]
      rfl

lemma drafted_others (db : Database) (key : TouchKey)
    (message : Option (MessageId × OutreachMessage)) :
    (db.drafted key message).items = db.items ∧ (db.drafted key message).batches = db.batches ∧
      (db.drafted key message).runs = db.runs := by
  have logged := recordTouch_others db key.1 key.2
  cases message with
  | none => exact logged
  | some message =>
    obtain ⟨items, batches, runs⟩ :=
      pointTouch_others ((recordTouch db key.1 key.2).1.storeMessage message.1 message.2) key
        message.1
    exact ⟨items.trans logged.1, batches.trans logged.2.1, runs.trans logged.2.2⟩

/-- A generated touch, in one session alone, is the commit of its turn. -/
lemma generateTouch_drafted {e : Enrollment} {generate : GenerateFn}
    (blank : (recordTouch db e.enrollmentId (e.currentStep + 1)).2.messageId = none)
    (h : generateTouch db e (e.currentStep + 1) generate = .ok (db', touch)) :
    ∃ message, db' = db.drafted e.nextTouch message := by
  simp only [generateTouch, blank, Option.isSome_none, Bool.false_eq_true, if_false] at h
  obtain ⟨drafted, _, same⟩ := map_eq_ok.mp h
  cases drafted with
  | none =>
    cases same
    exact ⟨none, rfl⟩
  | some message =>
    obtain ⟨id, row⟩ := message
    cases same
    refine ⟨some (id, row), ?_⟩
    have found : ((recordTouch db e.enrollmentId (e.currentStep + 1)).1.storeMessage id row).touches.get?
        (e.enrollmentId, e.currentStep + 1) =
        some (recordTouch db e.enrollmentId (e.currentStep + 1)).2 := by
      rw [recordTouch]
      cases present : db.touches.get? (e.enrollmentId, e.currentStep + 1) with
      | some touch => exact present
      | none => exact Dict.get?_set_self _ _ _
    rw [Database.drafted, pointTouch]
    simp only [Enrollment.nextTouch, found]

lemma mem_addItems {added : List (CustomId × GenerationBatchItem)}
    {items : Dict (BatchId × CustomId) GenerationBatchItem} {k : BatchId × CustomId}
    (h : (addItems batchId added items).get? k = some item) :
    items.get? k = some item ∨ k.1 = batchId ∧ (k.2, item) ∈ added := by
  induction added generalizing items with
  | nil => exact .inl h
  | cons i added ih =>
    cases ih h with
    | inl before =>
      rw [Dict.get?_set] at before
      split at before
      · rename_i same
        cases before
        exact .inr ⟨congrArg Prod.fst same, same ▸ List.mem_cons_self⟩
      · exact .inl before
    | inr later => exact .inr ⟨later.1, List.mem_cons_of_mem _ later.2⟩

lemma addItems_others {added : List (CustomId × GenerationBatchItem)}
    {items : Dict (BatchId × CustomId) GenerationBatchItem} {k : BatchId × CustomId}
    (ne : k.1 ≠ batchId) : (addItems batchId added items).get? k = items.get? k := by
  induction added generalizing items with
  | nil => rfl
  | cons i added ih =>
    show (addItems batchId added (items.set (batchId, i.1) i.2)).get? k = _
    rw [ih, Dict.get?_set_ne]
    exact fun same => ne (congrArg Prod.fst same)

/-! ## What an ingestion writes -/

/-- From `db` to `db'` the results in `outcomes` were written, for items that waited. -/
structure Ingested (waiting : Dict CustomId GenerationBatchItem) (batchId : BatchId)
    (db db' : Database) (outcomes : List BatchIngestOutcome) : Prop where
  batches : db'.batches = db.batches
  touches : ∀ k, k ∉ acceptedKeys waiting outcomes → db'.touches.get? k = db.touches.get? k
  pointed : ∀ k ∈ acceptedKeys waiting outcomes, (db.touches.get? k).isSome = true →
    HasMessage db' k
  items : ∀ k, (k.1 = batchId → k.2 ∉ outcomes.map BatchIngestOutcome.customId) →
    db'.items.get? k = db.items.get? k
  settled : ∀ c ∈ outcomes.map BatchIngestOutcome.customId, ∃ item item',
    waiting.get? c = some item ∧ db'.items.get? (batchId, c) = some item' ∧
      item'.touchKey = item.touchKey
  unrun : ∀ c ∈ outcomes.map BatchIngestOutcome.customId, db.runs.get? c = none
  runs : ∀ c, db'.runs.get? c = none →
    db.runs.get? c = none ∧ c ∉ outcomes.map BatchIngestOutcome.customId
  nodup : (outcomes.map BatchIngestOutcome.customId).Nodup

variable {waiting : Dict CustomId GenerationBatchItem} {outcome : BatchIngestOutcome}
  {outcomes : List BatchIngestOutcome} {db₁ db₂ : Database} {γ δ : Type}
  {services : IngestServices δ} {batch : GenerationBatch} {result : ProviderResult}
  {results : List ProviderResult}

lemma mem_acceptedKeys : key ∈ acceptedKeys waiting outcomes ↔ ∃ outcome ∈ outcomes,
    outcome.status = .accepted ∧ ∃ item, waiting.get? outcome.customId = some item ∧
      item.touchKey = key := by
  rw [acceptedKeys, List.mem_filterMap]
  refine exists_congr fun outcome => and_congr_right fun _ => ?_
  split
  · rename_i accepted
    rw [Option.map_eq_some_iff]
    exact (and_iff_right accepted).symm
  · rename_i not
    exact ⟨nofun, fun h => absurd h.1 not⟩

lemma Ingested.refl : Ingested waiting batchId db db [] where
  batches := rfl
  touches _ _ := rfl
  pointed _ mem _ := by cases mem
  items _ _ := rfl
  settled _ mem := by cases mem
  unrun _ mem := by cases mem
  runs _ none := ⟨none, List.not_mem_nil⟩
  nodup := List.nodup_nil

/-- One result, for an item that waits. -/
lemma ingested_one (wait : waiting.get? result.customId = some item)
    (h : ingestOne services db batchId batch item result = .ok (db', outcome)) :
    Ingested waiting batchId db db' [outcome] := by
  unfold ingestOne persistResult at h
  split at h
  · cases h
  · rename_i unused
    have unrun : db.runs.get? result.customId = none := by
      rw [Dict.get?_eq_none_iff, ← Dict.contains_iff]
      exact unused
    have ids (c : CustomId) {status : ItemStatus} {reason : Option String}
        (mem : c ∈ [(⟨result.customId, status, reason⟩ : BatchIngestOutcome)].map
          BatchIngestOutcome.customId) : c = result.customId := List.mem_singleton.mp mem
    cases judged : judge services item result with
    | error reason =>
      rw [judged] at h
      cases h
      refine ⟨rfl, fun _ _ => rfl, fun k mem => ?_, fun k other => ?_, fun c mem => ?_,
        fun c mem => ?_, fun c free => ?_, List.nodup_singleton _⟩
      · obtain ⟨outcome, listed, accepted, _⟩ := mem_acceptedKeys.mp mem
        rw [List.mem_singleton] at listed
        cases listed
        cases accepted
      · refine Dict.get?_set_ne _ _ fun same => ?_
        cases same
        exact other rfl List.mem_cons_self
      · cases ids c mem
        exact ⟨item, _, wait, Dict.get?_set_self _ _ _, rfl⟩
      · cases ids c mem
        exact unrun
      · rw [Dict.get?_set] at free
        split at free
        · cases free
        · rename_i ne
          exact ⟨free, fun mem => ne (ids c mem)⟩
    | ok id =>
      rw [judged] at h
      cases h
      have others := pointTouch_others (db.storeMessage id (batchMessage batch item))
        (item.enrollmentId, item.stepNo) id
      have keys {k : TouchKey} : k ∈ acceptedKeys waiting
          [⟨result.customId, .accepted, none⟩] ↔ k = item.touchKey := by
        simp [acceptedKeys, wait]
      refine ⟨others.2.1, fun k other => ?_, fun k mem there => ?_, fun k other => ?_,
        fun c mem => ?_, fun c mem => ?_, fun c free => ?_, List.nodup_singleton _⟩
      · exact (touches_pointTouch k).trans (if_neg fun same => other (keys.mpr same))
      · obtain ⟨touch, found⟩ := Option.isSome_iff_exists.mp there
        refine ⟨{ touch with messageId := some id }, id, ?_, rfl⟩
        have same := keys.mp mem
        subst same
        refine (touches_pointTouch _).trans ((if_pos rfl).trans ?_)
        show (db.touches.get? item.touchKey).map _ = _
        rw [found, Option.map_some]
      · refine (Dict.get?_set_ne _ _ fun same => ?_).trans
          (congrArg (fun items => items.get? k) others.1)
        cases same
        exact other rfl List.mem_cons_self
      · cases ids c mem
        exact ⟨item, _, wait, Dict.get?_set_self _ _ _, rfl⟩
      · cases ids c mem
        exact unrun
      · rw [Dict.get?_set] at free
        split at free
        · cases free
        · rename_i ne
          rw [others.2.2] at free
          exact ⟨free, fun mem => ne (ids c mem)⟩

lemma acceptedKeys_append (first rest : List BatchIngestOutcome) :
    acceptedKeys waiting (first ++ rest) =
      acceptedKeys waiting first ++ acceptedKeys waiting rest := List.filterMap_append

lemma HasMessage.isSome (has : HasMessage db key) : (db.touches.get? key).isSome = true := by
  obtain ⟨touch, _, found, _⟩ := has
  exact Option.isSome_iff_exists.mpr ⟨touch, found⟩

lemma Ingested.trans {first rest : List BatchIngestOutcome}
    (one : Ingested waiting batchId db db₁ first) (loop : Ingested waiting batchId db₁ db₂ rest) :
    Ingested waiting batchId db db₂ (first ++ rest) where
  batches := loop.batches.trans one.batches
  touches k none := by
    rw [acceptedKeys_append, List.mem_append, not_or] at none
    rw [loop.touches k none.2, one.touches k none.1]
  pointed k mem there := by
    rw [acceptedKeys_append, List.mem_append] at mem
    cases Classical.em (k ∈ acceptedKeys waiting rest) with
    | inl later =>
      refine loop.pointed k later ?_
      cases Classical.em (k ∈ acceptedKeys waiting first) with
      | inl now => exact (one.pointed k now there).isSome
      | inr not =>
        rw [one.touches k not]
        exact there
    | inr not =>
      have now := one.pointed k (mem.resolve_right not) there
      obtain ⟨touch, id, found, drafted⟩ := now
      exact ⟨touch, id, (loop.touches k not).trans found, drafted⟩
  items k other := by
    rw [loop.items k fun same mem => other same ?_, one.items k fun same mem => other same ?_]
    · rw [List.map_append]
      exact List.mem_append_left _ mem
    · rw [List.map_append]
      exact List.mem_append_right _ mem
  settled c mem := by
    rw [List.map_append, List.mem_append] at mem
    cases Classical.em (c ∈ rest.map BatchIngestOutcome.customId) with
    | inl later => exact loop.settled c later
    | inr not =>
      obtain ⟨item, item', wait, found, same⟩ := one.settled c (mem.resolve_right not)
      exact ⟨item, item', wait, (loop.items (batchId, c) fun _ => not).trans found, same⟩
  unrun c mem := by
    rw [List.map_append, List.mem_append] at mem
    cases mem with
    | inl now => exact one.unrun c now
    | inr later => exact (one.runs c (loop.unrun c later)).1
  runs c free := by
    obtain ⟨free₁, not⟩ := loop.runs c free
    obtain ⟨free₀, not'⟩ := one.runs c free₁
    refine ⟨free₀, ?_⟩
    rw [List.map_append, List.mem_append, not_or]
    exact ⟨not', not⟩
  nodup := by
    rw [List.map_append]
    refine List.Nodup.append one.nodup loop.nodup fun c now later => ?_
    exact (one.runs c (loop.unrun c later)).2 now

lemma ingested_loop (h : ingestLoop services batchId batch waiting db results = .ok (db', outcomes)) :
    Ingested waiting batchId db db' outcomes := by
  induction results generalizing db outcomes with
  | nil =>
    cases h
    exact .refl
  | cons result rest ih =>
    rw [ingestLoop] at h
    cases wait : waiting.get? result.customId with
    | none =>
      rw [wait] at h
      exact ih h
    | some item =>
      rw [wait] at h
      obtain ⟨⟨db₁, outcome⟩, one, h⟩ := bind_eq_ok.mp h
      obtain ⟨⟨db₂, outcomes'⟩, loop, same⟩ := map_eq_ok.mp h
      cases same
      exact (ingested_one wait one).trans (ih loop)

/-! ## One draft a step -/

/-- What holds of the committed rows and of the messages created: an item's batch did not fail, a step
    has one item, the touch of an item without a run is blank, and a step drafted once has its
    message. -/
structure OneDraft (db : Database) (created : List TouchKey) : Prop where
  live : ∀ k item, db.items.get? k = some item →
    ∃ batch, db.batches.get? k.1 = some batch ∧ batch.status ≠ .failed
  single : ∀ k k' item item', db.items.get? k = some item → db.items.get? k' = some item' →
    item.touchKey = item'.touchKey → k = k'
  touched : ∀ k item, db.items.get? k = some item → (db.touches.get? item.touchKey).isSome = true
  unrun : ∀ k item, db.items.get? k = some item → db.runs.get? k.2 = none → Blank db item.touchKey
  drafted : ∀ key ∈ created, HasMessage db key
  nodup : created.Nodup

/-- What holds of a step a session is at work on: no item, no message, and its touch is there or about
    to be. -/
structure Free (db : Database) (inserted : List TouchKey) (key : TouchKey) : Prop where
  unclaimed : ∀ k item, db.items.get? k = some item → item.touchKey ≠ key
  undrafted : ¬ HasMessage db key
  logged : key ∈ inserted ∨ (db.touches.get? key).isSome = true

def Holds (db : Database) (s : DraftSession) : Prop := ∀ key ∈ s.recorded, Free db s.inserted key

/-- An ingestion's waiting items are items of its batch. -/
def Reads (db : Database) (i : Ingestion) : Prop :=
  ∀ customId item, i.waiting.get? customId = some item →
    ∃ item', db.items.get? (i.batchId, customId) = some item' ∧ item'.touchKey = item.touchKey

structure DraftState.Inv (st : DraftState) : Prop where
  rows : OneDraft st.db st.created
  apart : ∀ sid sid' s s' key, st.sessions.get? sid = some s → st.sessions.get? sid' = some s' →
    key ∈ s.recorded → key ∈ s'.recorded → sid = sid'
  holds : ∀ sid s, st.sessions.get? sid = some s → Holds st.db s
  reads : ∀ sid i, st.ingestions.get? sid = some i → Reads st.db i

variable {st st' : DraftState} {sid : SessionId} {s s' : DraftSession} {i : Ingestion}
  {created : List TouchKey} {campaignId : CampaignId} {e : Enrollment} {inserted : List TouchKey}

lemma Blank.of_undrafted (there : (db.touches.get? key).isSome = true)
    (not : ¬ HasMessage db key) : Blank db key := by
  obtain ⟨touch, found⟩ := Option.isSome_iff_exists.mp there
  refine ⟨touch, found, ?_⟩
  cases drafted : touch.messageId with
  | none => rfl
  | some id => exact absurd ⟨touch, id, found, drafted⟩ not

/-- A session moves on: what it works on is free, and nobody else works on it. -/
lemma DraftState.Inv.setSession (inv : st.Inv) (holds : Holds st.db s')
    (alone : ∀ key ∈ s'.recorded, ∀ other s, other ≠ sid → st.sessions.get? other = some s →
      key ∉ s.recorded) :
    DraftState.Inv { st with sessions := st.sessions.set sid s' } where
  rows := inv.rows
  apart a b sa sb key ha hb ka kb := by
    simp only [Dict.get?_set] at ha hb
    split at ha
    · cases ha
      split at hb
      · simp only [*]
      · rename_i ne
        exact absurd kb (alone key ka b sb ne hb)
    · rename_i ne
      split at hb
      · cases hb
        exact absurd ka (alone key kb a sa ne ha)
      · exact inv.apart a b sa sb key ha hb ka kb
  holds other s found := by
    simp only [Dict.get?_set] at found
    split at found
    · cases found
      exact holds
    · exact inv.holds other s found
  reads := inv.reads

/-- A session that works on no more than before. -/
lemma DraftState.Inv.sameSession (inv : st.Inv) (found : st.sessions.get? sid = some s)
    (recorded : s'.recorded = s.recorded) (logs : s'.inserted = s.inserted) :
    DraftState.Inv { st with sessions := st.sessions.set sid s' } := by
  refine inv.setSession ?_ ?_
  · intro key mem
    rw [recorded] at mem
    rw [logs]
    exact inv.holds sid s found key mem
  · intro key mem other s'' ne found' mem'
    rw [recorded] at mem
    exact ne (inv.apart other sid s'' s key found' found mem' mem)

lemma DraftState.Inv.eraseSession (inv : st.Inv) :
    DraftState.Inv { st with sessions := st.sessions.erase sid } where
  rows := inv.rows
  apart a b sa sb key ha hb := by
    simp only [Dict.get?_erase] at ha hb
    split at ha
    · cases ha
    · split at hb
      · cases hb
      · exact inv.apart a b sa sb key ha hb
  holds other s found := by
    simp only [Dict.get?_erase] at found
    split at found
    · cases found
    · exact inv.holds other s found
  reads := inv.reads

lemma DraftState.Inv.setIngestion (inv : st.Inv) (reads : Reads st.db i) :
    DraftState.Inv { st with ingestions := st.ingestions.set sid i } where
  rows := inv.rows
  apart := inv.apart
  holds := inv.holds
  reads other i' found := by
    simp only [Dict.get?_set] at found
    split at found
    · cases found
      exact reads
    · exact inv.reads other i' found

lemma DraftState.Inv.eraseIngestion (inv : st.Inv) :
    DraftState.Inv { st with ingestions := st.ingestions.erase sid } where
  rows := inv.rows
  apart := inv.apart
  holds := inv.holds
  reads other i' found := by
    simp only [Dict.get?_erase] at found
    split at found
    · cases found
    · exact inv.reads other i' found

/-- A commit: the rows stay sound, what other sessions work on stays free, and items stay. -/
lemma DraftState.Inv.commit (inv : st.Inv) (rows : OneDraft db' created)
    (free : ∀ sid s, st.sessions.get? sid = some s → ∀ key ∈ s.recorded,
      Free st.db s.inserted key → Free db' s.inserted key)
    (stay : ∀ k item, st.db.items.get? k = some item →
      ∃ item', db'.items.get? k = some item' ∧ item'.touchKey = item.touchKey) :
    DraftState.Inv { st with db := db', created := created } where
  rows := rows
  apart := inv.apart
  holds sid s found key mem := free sid s found key mem (inv.holds sid s found key mem)
  reads sid i found customId item wait := by
    obtain ⟨item₁, found₁, same₁⟩ := inv.reads sid i found customId item wait
    obtain ⟨item₂, found₂, same₂⟩ := stay _ item₁ found₁
    exact ⟨item₂, found₂, same₂.trans same₁⟩

/-- What the session records is free once its touch is blank or about to be inserted. -/
lemma Holds.record (holds : Holds st.db s) (ready : s.Ready e)
    (grows : ∀ key ∈ s.inserted, key ∈ inserted) (free : Free st.db inserted e.nextTouch) :
    Holds st.db (s.record e ready inserted) := by
  intro key mem
  cases mem with
  | head => exact free
  | tail _ mem =>
    have before := holds key mem
    exact ⟨before.unclaimed, before.undrafted, before.logged.imp_left (grows key)⟩

/-- A touch nobody logged and nobody is inserting is inserted. -/
lemma DraftState.Inv.insert (inv : st.Inv) (found : st.sessions.get? sid = some s)
    (ready : s.Ready e) (absent : st.db.touches.get? e.nextTouch = none)
    (free : ∀ other s', other ≠ sid → st.sessions.get? other = some s' →
      e.nextTouch ∉ s'.inserted) :
    DraftState.Inv { st with
      sessions := st.sessions.set sid (s.record e ready (e.nextTouch :: s.inserted)) } := by
  refine inv.setSession ?_ ?_
  · refine (inv.holds sid s found).record ready (fun _ => List.mem_cons_of_mem _) ⟨?_, ?_, ?_⟩
    · intro k item listed same
      have there := inv.rows.touched k item listed
      rw [same, absent] at there
      cases there
    · intro has
      have there := has.isSome
      rw [absent] at there
      cases there
    · exact .inl List.mem_cons_self
  · intro key mem other s' ne found' mem'
    cases mem with
    | head =>
      cases (inv.holds other s' found' _ mem').logged with
      | inl inserting => exact free other s' ne found' inserting
      | inr there =>
        rw [absent] at there
        cases there
    | tail _ mem => exact ne (inv.apart other sid s' s key found' found mem' mem)

/-- A blank touch without an item, which nobody is at work on, is taken over. -/
lemma DraftState.Inv.find (inv : st.Inv) (found : st.sessions.get? sid = some s)
    (ready : s.Ready e) (present : st.db.touches.get? e.nextTouch = some touch)
    (empty : touch.messageId = none) (guard : DraftGuard st (.find sid)) :
    DraftState.Inv { st with
      sessions := st.sessions.set sid (s.record e ready s.inserted) } := by
  obtain ⟨unbatched, alone⟩ := guard s e found ready
  refine inv.setSession ?_ ?_
  · refine (inv.holds sid s found).record ready (fun _ h => h) ⟨?_, ?_, ?_⟩
    · intro k item listed same
      obtain ⟨batch, onFile, live⟩ := inv.rows.live k item listed
      have claimed : alreadyBatched st.db e.enrollmentId (e.currentStep + 1) = true :=
        alreadyBatched_iff.mpr ⟨k.1, k.2, item, batch, listed, congrArg Prod.fst same,
          congrArg Prod.snd same, onFile, live⟩
      rw [unbatched] at claimed
      cases claimed
    · exact fun has => has.not_blank ⟨touch, present, empty⟩
    · exact .inr (Option.isSome_iff_exists.mpr ⟨touch, present⟩)
  · intro key mem other s' ne found' mem'
    cases mem with
    | head => exact alone other s' ne found' mem'
    | tail _ mem => exact ne (inv.apart other sid s' s key found' found mem' mem)

/-! ## The commits keep one draft a step -/

variable {message : Option (MessageId × OutreachMessage)}

/-- A turn commits a step that was free. -/
lemma OneDraft.draft (rows : OneDraft db created) (free : Free db inserted key) :
    OneDraft (db.drafted key message) (created ++ message.toList.map fun _ => key) := by
  obtain ⟨items, batches, runs⟩ := drafted_others db key message
  obtain ⟨others, logged, drafted⟩ := touches_drafted db key message
  refine ⟨?_, ?_, ?_, ?_, ?_, ?_⟩
  · rw [items, batches]
    exact rows.live
  · rw [items]
    exact rows.single
  · rw [items]
    intro k item listed
    rw [others _ (free.unclaimed k item listed)]
    exact rows.touched k item listed
  · rw [items, runs]
    intro k item listed unrun
    obtain ⟨touch, found, empty⟩ := rows.unrun k item listed unrun
    exact ⟨touch, (others _ (free.unclaimed k item listed)).trans found, empty⟩
  · intro k mem
    cases List.mem_append.mp mem with
    | inl before =>
      obtain ⟨touch, id, found, some⟩ := rows.drafted k before
      have ne : k ≠ key := fun same => free.undrafted (same ▸ rows.drafted k before)
      exact ⟨touch, id, (others k ne).trans found, some⟩
    | inr now =>
      obtain ⟨_, listed, same⟩ := List.mem_map.mp now
      subst same
      exact drafted (Option.isSome_iff_exists.mpr ⟨_, Option.mem_toList.mp listed⟩)
  · cases message with
    | none => simpa using rows.nodup
    | some message =>
      refine rows.nodup.append (List.nodup_singleton key) ?_
      show created.Disjoint [key]
      rw [List.disjoint_singleton]
      exact fun mem => free.undrafted (rows.drafted key mem)

lemma Free.drafted {k : TouchKey} (free : Free db inserted k) (ne : k ≠ key) :
    Free (db.drafted key message) inserted k := by
  have items := (drafted_others db key message).1
  have same := (touches_drafted db key message).1 k ne
  refine ⟨?_, ?_, ?_⟩
  · rw [items]
    exact free.unclaimed
  · rw [HasMessage, same]
    exact free.undrafted
  · rw [same]
    exact free.logged

/-- The items of a submission are its own and the earlier ones. -/
lemma items_submitted {k : BatchId × CustomId}
    (h : (db.submitted s batchId batch).items.get? k = some item) :
    db.items.get? k = some item ∨ k.1 = batchId ∧ s.items.get? k.2 = some item :=
  (mem_addItems h).imp_right fun new => ⟨new.1, (Dict.mem_items_iff _).mp new.2⟩

lemma touches_submitted : (db.submitted s batchId batch).touches = (db.logAll s.inserted).touches :=
  rfl

lemma HasMessage.submitted (has : HasMessage db key) :
    HasMessage (db.submitted s batchId batch) key := by
  obtain ⟨touch, id, found, drafted⟩ := has
  exact ⟨touch, id, (touches_logAll db s.inserted).1 key touch found, drafted⟩

lemma HasMessage.of_submitted (has : HasMessage (db.submitted s batchId batch) key) :
    HasMessage db key := by
  obtain ⟨touch, id, found, drafted⟩ := has
  cases (touches_logAll db s.inserted).2.1 key touch found with
  | inl before => exact ⟨touch, id, before, drafted⟩
  | inr new => cases new.2.symm.trans drafted

/-- A recorded touch is there, and blank, once the submission commits. -/
lemma Free.submitted_blank (free : Free db s.inserted key) :
    Blank (db.submitted s batchId batch) key := by
  refine .of_undrafted ?_ fun has => free.undrafted has.of_submitted
  cases free.logged with
  | inl new => exact (touches_logAll db s.inserted).2.2 key new
  | inr there =>
    obtain ⟨touch, found⟩ := Option.isSome_iff_exists.mp there
    exact Option.isSome_iff_exists.mpr ⟨touch, (touches_logAll db s.inserted).1 key touch found⟩

/-- A submission commits steps that were free. -/
lemma OneDraft.submit (rows : OneDraft db created) (holds : Holds db s)
    (new : db.batches.get? batchId = none) (live : batch.status ≠ .failed) :
    OneDraft (db.submitted s batchId batch) created := by
  have runs : (db.submitted s batchId batch).runs = db.runs := (logAll_others db s.inserted).2.2
  -- the new batch had no items
  have old {k : BatchId × CustomId} {item : GenerationBatchItem}
      (listed : db.items.get? k = some item) : k.1 ≠ batchId := by
    intro same
    obtain ⟨batch, onFile, _⟩ := rows.live k item listed
    rw [same, new] at onFile
    cases onFile
  have free {c : CustomId} {item : GenerationBatchItem} (added : s.items.get? c = some item) :
      Free db s.inserted item.touchKey := holds _ (s.bundled c item added)
  refine ⟨fun k item h => ?_, fun k k' item item' h h' same => ?_, fun k item h => ?_,
    fun k item h unrun => ?_, fun k mem => (rows.drafted k mem).submitted, rows.nodup⟩
  · show ∃ b, (db.batches.set batchId batch).get? k.1 = some b ∧ _
    cases items_submitted h with
    | inl listed =>
      rw [Dict.get?_set_ne _ _ (old listed)]
      exact rows.live k item listed
    | inr added =>
      rw [added.1]
      exact ⟨batch, Dict.get?_set_self _ _ _, live⟩
  · cases items_submitted h with
    | inl listed =>
      cases items_submitted h' with
      | inl listed' => exact rows.single k k' item item' listed listed' same
      | inr added' => exact absurd same ((free added'.2).unclaimed k item listed)
    | inr added =>
      cases items_submitted h' with
      | inl listed' => exact absurd same.symm ((free added.2).unclaimed k' item' listed')
      | inr added' =>
        exact Prod.ext (added.1.trans added'.1.symm)
          (s.single k.2 k'.2 item item' added.2 added'.2 same)
  · cases items_submitted h with
    | inl listed =>
      obtain ⟨touch, found⟩ := Option.isSome_iff_exists.mp (rows.touched k item listed)
      exact Option.isSome_iff_exists.mpr
        ⟨touch, (touches_logAll db s.inserted).1 _ touch found⟩
    | inr added =>
      have blank : Blank (db.submitted s batchId batch) _ := (free added.2).submitted_blank
      obtain ⟨touch, found, _⟩ := blank
      exact Option.isSome_iff_exists.mpr ⟨touch, found⟩
  · cases items_submitted h with
    | inl listed =>
      rw [runs] at unrun
      obtain ⟨touch, found, empty⟩ := rows.unrun k item listed unrun
      exact ⟨touch, (touches_logAll db s.inserted).1 _ touch found, empty⟩
    | inr added => exact (free added.2).submitted_blank

lemma Free.submitted (free : Free db inserted key) (apart : key ∉ s.recorded) :
    Free (db.submitted s batchId batch) inserted key := by
  refine ⟨fun k item h same => ?_, fun has => free.undrafted has.of_submitted, ?_⟩
  · cases items_submitted h with
    | inl listed => exact free.unclaimed k item listed same
    | inr added => exact apart (same ▸ s.bundled k.2 item added.2)
  · refine free.logged.imp_right fun there => ?_
    obtain ⟨touch, found⟩ := Option.isSome_iff_exists.mp there
    exact Option.isSome_iff_exists.mpr ⟨touch, (touches_logAll db s.inserted).1 key touch found⟩

lemma status_submittedBatch {services : SubmitServices γ} {limit : ℕ} {requests : List CustomId} :
    (submittedBatch services (newBatch campaignId limit) requests).status ≠ .failed := by
  rw [submittedBatch]
  split
  · intro failed
    cases failed
  · intro failed
    cases failed

/-! ### Ingestions -/

variable {k : BatchId × CustomId}

/-- A written item was an item of its batch for the same step. -/
lemma Ingested.back (w : Ingested i.waiting i.batchId db db' outcomes) (reads : Reads db i)
    (h : db'.items.get? k = some item') :
    ∃ item, db.items.get? k = some item ∧ item.touchKey = item'.touchKey := by
  cases Classical.em (k.1 = i.batchId → k.2 ∉ outcomes.map BatchIngestOutcome.customId) with
  | inl other => exact ⟨item', (w.items k other).symm.trans h, rfl⟩
  | inr written =>
    obtain ⟨mine, mem⟩ := Classical.not_imp.mp written
    obtain ⟨item₁, item₂, wait, found, same⟩ := w.settled k.2 (Classical.not_not.mp mem)
    obtain ⟨item, listed, same'⟩ := reads k.2 item₁ wait
    rw [← mine] at found listed
    cases h.symm.trans found
    exact ⟨item, listed, same'.trans same.symm⟩

lemma Ingested.forth (w : Ingested i.waiting i.batchId db db' outcomes) (reads : Reads db i)
    (h : db.items.get? k = some item) :
    ∃ item', db'.items.get? k = some item' ∧ item'.touchKey = item.touchKey := by
  cases Classical.em (k.1 = i.batchId → k.2 ∉ outcomes.map BatchIngestOutcome.customId) with
  | inl other => exact ⟨item, (w.items k other).trans h, rfl⟩
  | inr written =>
    obtain ⟨mine, mem⟩ := Classical.not_imp.mp written
    obtain ⟨item₁, item₂, wait, found, same⟩ := w.settled k.2 (Classical.not_not.mp mem)
    obtain ⟨item', listed, same'⟩ := reads k.2 item₁ wait
    rw [← mine] at found listed
    cases h.symm.trans listed
    exact ⟨item₂, found, same.trans same'.symm⟩

/-- An accepted step is that of an item without a run. -/
lemma Ingested.accepted (w : Ingested i.waiting i.batchId db db' outcomes) (reads : Reads db i)
    (mem : key ∈ acceptedKeys i.waiting outcomes) :
    ∃ customId ∈ outcomes.map BatchIngestOutcome.customId, db.runs.get? customId = none ∧
      ∃ item, db.items.get? (i.batchId, customId) = some item ∧ item.touchKey = key := by
  obtain ⟨outcome, listed, _, item₁, wait, same⟩ := mem_acceptedKeys.mp mem
  have mem := List.mem_map_of_mem (f := BatchIngestOutcome.customId) listed
  obtain ⟨item, found, same'⟩ := reads _ item₁ wait
  exact ⟨_, mem, w.unrun _ mem, item, found, same'.trans same⟩

lemma Ingested.accepted_blank (w : Ingested i.waiting i.batchId db db' outcomes)
    (reads : Reads db i) (rows : OneDraft db created)
    (mem : key ∈ acceptedKeys i.waiting outcomes) : Blank db key := by
  obtain ⟨_, _, unrun, item, found, same⟩ := w.accepted reads mem
  exact same ▸ rows.unrun _ item found unrun

lemma Ingested.nodup_accepted (w : Ingested i.waiting i.batchId db db' outcomes)
    (reads : Reads db i) (rows : OneDraft db created) :
    (acceptedKeys i.waiting outcomes).Nodup := by
  have distinct := List.pairwise_map.mp w.nodup
  refine List.pairwise_filterMap.mpr (distinct.imp fun {a b} ne key found key' found' same => ne ?_)
  split at found
  · split at found'
    · obtain ⟨item, wait, touch⟩ := Option.map_eq_some_iff.mp found
      obtain ⟨item', wait', touch'⟩ := Option.map_eq_some_iff.mp found'
      obtain ⟨row, listed, same₁⟩ := reads _ item wait
      obtain ⟨row', listed', same₂⟩ := reads _ item' wait'
      have keys : row.touchKey = row'.touchKey := by
        rw [same₁, same₂, touch, touch', same]
      exact congrArg Prod.snd (rows.single _ _ row row' listed listed' keys)
    · cases found'
  · cases found

/-- An ingestion commits messages for items without a run. -/
lemma OneDraft.ingest (rows : OneDraft db created) (reads : Reads db i)
    (w : Ingested i.waiting i.batchId db db' outcomes) (live : batch.status ≠ .failed) :
    OneDraft { db' with batches := db'.batches.set i.batchId batch }
      (created ++ acceptedKeys i.waiting outcomes) := by
  have kept {key : TouchKey} (there : (db.touches.get? key).isSome = true) :
      (db'.touches.get? key).isSome = true := by
    cases Classical.em (key ∈ acceptedKeys i.waiting outcomes) with
    | inl now => exact (w.pointed key now there).isSome
    | inr not =>
      rw [w.touches key not]
      exact there
  refine ⟨fun k item h => ?_, fun k k' item item' h h' same => ?_, fun k item h => ?_,
    fun k item h unrun => ?_, fun k mem => ?_, ?_⟩
  · obtain ⟨item₀, found, _⟩ := w.back reads h
    obtain ⟨b, onFile, fine⟩ := rows.live k item₀ found
    show ∃ b, (db'.batches.set i.batchId batch).get? k.1 = some b ∧ _
    rw [Dict.get?_set]
    split
    · exact ⟨batch, rfl, live⟩
    · rw [w.batches]
      exact ⟨b, onFile, fine⟩
  · obtain ⟨item₀, found, same₀⟩ := w.back reads h
    obtain ⟨item₁, found₁, same₁⟩ := w.back reads h'
    exact rows.single k k' item₀ item₁ found found₁ (same₀.trans (same.trans same₁.symm))
  · obtain ⟨item₀, found, same⟩ := w.back reads h
    exact kept (same ▸ rows.touched k item₀ found)
  · obtain ⟨item₀, found, same⟩ := w.back reads h
    obtain ⟨unrun₀, untouched⟩ := w.runs k.2 unrun
    obtain ⟨touch, listed, empty⟩ := rows.unrun k item₀ found unrun₀
    rw [← same]
    refine ⟨touch, (w.touches _ fun mem => ?_).trans listed, empty⟩
    obtain ⟨c, written, _, item₁, found₁, same₁⟩ := w.accepted reads mem
    have one := rows.single _ _ item₁ item₀ found₁ found same₁
    exact untouched (congrArg Prod.snd one ▸ written)
  · cases List.mem_append.mp mem with
    | inl before =>
      have has := rows.drafted k before
      obtain ⟨touch, id, found, some⟩ := has
      refine ⟨touch, id, (w.touches k fun mem => ?_).trans found, some⟩
      exact (rows.drafted k before).not_blank (w.accepted_blank reads rows mem)
    | inr now =>
      obtain ⟨touch, found, _⟩ := w.accepted_blank reads rows now
      exact w.pointed k now (Option.isSome_iff_exists.mpr ⟨touch, found⟩)
  · refine rows.nodup.append (w.nodup_accepted reads rows) fun k before now => ?_
    exact (rows.drafted k before).not_blank (w.accepted_blank reads rows now)

lemma Free.ingested (free : Free db inserted key) (reads : Reads db i)
    (w : Ingested i.waiting i.batchId db db' outcomes) :
    Free { db' with batches := db'.batches.set i.batchId batch } inserted key := by
  have same : db'.touches.get? key = db.touches.get? key := by
    refine w.touches key fun mem => ?_
    obtain ⟨_, _, _, item, found, same⟩ := w.accepted reads mem
    exact free.unclaimed _ item found same
  refine ⟨fun k item h touches => ?_, ?_, ?_⟩
  · obtain ⟨item₀, found, same⟩ := w.back reads h
    exact free.unclaimed k item₀ found (same.trans touches)
  · rw [HasMessage, same]
    exact free.undrafted
  · rw [same]
    exact free.logged

/-! ## Runs -/

variable {label : DraftLabel} {labels : List DraftLabel}

/-- Writes of other columns are not seen. -/
lemma hasMessage_iff : HasMessage db key ↔
    ∃ id, (db.touches.get? key).map TouchLog.messageId = some (some id) := by
  constructor
  · intro ⟨touch, id, found, drafted⟩
    exact ⟨id, by rw [found, Option.map_some, drafted]⟩
  · intro ⟨id, h⟩
    obtain ⟨touch, found, drafted⟩ := Option.map_eq_some_iff.mp h
    exact ⟨touch, id, found, drafted⟩

lemma blank_iff : Blank db key ↔ (db.touches.get? key).map TouchLog.messageId = some none :=
  Option.map_eq_some_iff.symm

lemma isSome_touch_iff : (db.touches.get? key).isSome = true ↔
    ((db.touches.get? key).map TouchLog.messageId).isSome = true := by
  rw [Option.isSome_map]

lemma DraftState.Inv.others (inv : st.Inv)
    (touches : ∀ key, (db'.touches.get? key).map TouchLog.messageId =
      (st.db.touches.get? key).map TouchLog.messageId)
    (items : db'.items = st.db.items) (batches : db'.batches = st.db.batches)
    (runs : db'.runs = st.db.runs) : DraftState.Inv { st with db := db' } := by
  have message (key : TouchKey) : HasMessage db' key ↔ HasMessage st.db key := by
    rw [hasMessage_iff, touches, ← hasMessage_iff]
  have there (key : TouchKey) : (db'.touches.get? key).isSome = true ↔
      (st.db.touches.get? key).isSome = true := by
    rw [isSome_touch_iff, touches, ← isSome_touch_iff]
  refine inv.commit ⟨?_, ?_, ?_, ?_, ?_, inv.rows.nodup⟩ ?_ ?_
  · rw [items, batches]
    exact inv.rows.live
  · rw [items]
    exact inv.rows.single
  · rw [items]
    exact fun k item h => (there _).mpr (inv.rows.touched k item h)
  · rw [items, runs]
    intro k item h unrun
    rw [blank_iff, touches, ← blank_iff]
    exact inv.rows.unrun k item h unrun
  · exact fun key mem => (message key).mpr (inv.rows.drafted key mem)
  · intro sid s found key mem free
    refine ⟨?_, fun has => free.undrafted ((message key).mp has), ?_⟩
    · rw [items]
      exact free.unclaimed
    · exact free.logged.imp_right (there key).mpr
  · intro k item listed
    exact ⟨item, by rw [items]; exact listed, rfl⟩

/-- A poll writes its batch's row only, which stays one that did not fail. -/
lemma OneDraft.poll (rows : OneDraft db created) (live : batch.status ≠ .failed) :
    OneDraft { db with batches := db.batches.set batchId batch } created := by
  refine ⟨fun k item h => ?_, rows.single, rows.touched, rows.unrun, rows.drafted, rows.nodup⟩
  show ∃ b, (db.batches.set batchId batch).get? k.1 = some b ∧ _
  rw [Dict.get?_set]
  split
  · exact ⟨batch, rfl, live⟩
  · exact rows.live k item h

/-- Every step that meets the condition keeps one draft a step. -/
theorem DraftStep.inv (step : DraftStep γ δ campaignId st label st') (guard : DraftGuard st label)
    (inv : st.Inv) : st'.Inv := by
  cases step with
  | start new => exact inv.setSession nofun nofun
  | gate found idle campaign fresh view check eligible => exact inv.sameSession found rfl rfl
  | lookUp found submission turn unclaimed => exact inv.sameSession found rfl rfl
  | pass found => exact inv.sameSession found rfl rfl
  | insert found ready absent free => exact inv.insert found ready absent free
  | find found ready present empty => exact inv.find found ready present empty guard
  | bundle found submission turn unused isFor client pending =>
    exact inv.sameSession found rfl rfl
  | @draft sid s e message found run turn =>
    have free := inv.holds sid s found _ (s.held e turn).1
    have reset : DraftState.Inv { st with sessions := st.sessions.set sid (.opened none) } :=
      inv.setSession nofun nofun
    refine reset.commit (inv.rows.draft free) ?_ ?_
    · intro other s' found' key mem free'
      refine free'.drafted fun same => ?_
      simp only [Dict.get?_set] at found'
      split at found'
      · cases found'
        cases mem
      · rename_i ne
        exact ne (inv.apart other sid s' s _ found' found (same ▸ mem) (s.held e turn).1)
    · intro k item listed
      exact ⟨item, by rw [(drafted_others _ _ _).1]; exact listed, rfl⟩
  | @submit sid s batchId limit services found submission idle new =>
    have reset : DraftState.Inv { st with sessions := st.sessions.erase sid } := inv.eraseSession
    refine reset.commit (inv.rows.submit (inv.holds sid s found) new status_submittedBatch) ?_ ?_
    · intro other s' found' key mem free
      simp only [Dict.get?_erase] at found'
      split at found'
      · cases found'
      · rename_i ne
        exact free.submitted fun mem' => ne (inv.apart other sid s' s key found' found mem mem')
    · intro k item listed
      obtain ⟨batch, onFile, _⟩ := inv.rows.live k item listed
      refine ⟨item, (addItems_others fun same => ?_).trans listed, rfl⟩
      rw [same, new] at onFile
      cases onFile
  | rollback => exact inv.eraseSession
  | read found unfinished sent => exact inv.setIngestion nofun
  | poll found =>
    refine inv.eraseIngestion.commit (inv.rows.poll nofun) ?_ ?_
    · exact fun _ _ _ _ _ free => ⟨free.unclaimed, free.undrafted, free.logged⟩
    · exact fun k item listed => ⟨item, listed, rfl⟩
  | list found =>
    exact inv.setIngestion fun customId item wait => ⟨item, (get?_pendingItems.mp wait).1, rfl⟩
  | @ingest sid i results db' outcomes provider services found loop =>
    have w := ingested_loop loop
    have reads := inv.reads sid i found
    refine inv.eraseIngestion.commit (inv.rows.ingest reads w nofun) ?_ ?_
    · exact fun _ _ _ _ _ free => free.ingested reads w
    · exact fun k item listed => w.forth reads listed
  | giveUp => exact inv.eraseIngestion
  | others touches items batches runs => exact inv.others touches items batches runs

/-- A step that meets the condition leaves every message where it is. -/
theorem DraftStep.keeps_message {id : MessageId} (step : DraftStep γ δ campaignId st label st')
    (inv : st.Inv) (h : (st.db.touches.get? key).map TouchLog.messageId = some (some id)) :
    (st'.db.touches.get? key).map TouchLog.messageId = some (some id) := by
  have has : HasMessage st.db key := hasMessage_iff.mpr ⟨id, h⟩
  cases step with
  | @draft sid s e message found run turn =>
    have free := inv.holds sid s found _ (s.held e turn).1
    have ne : key ≠ e.nextTouch := fun same => free.undrafted (same ▸ has)
    rw [(touches_drafted _ _ _).1 key ne]
    exact h
  | @submit sid s batchId limit services found submission idle new =>
    obtain ⟨touch, listed, drafted⟩ := Option.map_eq_some_iff.mp h
    exact Option.map_eq_some_iff.mpr
      ⟨touch, (touches_logAll st.db s.inserted).1 key touch listed, drafted⟩
  | @ingest sid i results db' outcomes provider services found loop =>
    have w := ingested_loop loop
    rw [w.touches key fun mem => ?_]
    · exact h
    · exact has.not_blank (w.accepted_blank (inv.reads sid i found) inv.rows mem)
  | others touches items batches runs =>
    rw [touches]
    exact h
  | start | gate | lookUp | pass | insert | find | bundle | rollback | read | poll | list | giveUp =>
    exact h

abbrev DraftGuarded (γ δ : Type) (campaignId : CampaignId) :=
  Guarded DraftGuard (DraftStep γ δ campaignId)

lemma DraftState.inv_start (touches : db.touches = .empty) (items : db.items = .empty) :
    DraftState.Inv { db := db } where
  rows := by
    refine ⟨?_, ?_, ?_, ?_, nofun, List.nodup_nil⟩
    · rw [items]
      exact nofun
    · rw [items]
      exact nofun
    · rw [items]
      exact nofun
    · rw [items]
      exact nofun
  apart _ _ _ _ _ h := by cases h
  holds _ _ h := by cases h
  reads _ _ h := by cases h

/-- In every run in which no session goes on with a touch that another one logged meanwhile, a step
    has at most one item of a batch that did not fail, at most one message is created for it, and no
    further such step of the run replaces the message of a touch. -/
theorem one_message_per_touch (touches : db.touches = .empty) (items : db.items = .empty)
    (r : Run (DraftGuarded γ δ campaignId) { db := db } labels st) :
    (∀ k k' item item', st.db.items.get? k = some item → st.db.items.get? k' = some item' →
      ((st.db.batches.get? k.1).any fun b => b.status ≠ .failed) →
      ((st.db.batches.get? k'.1).any fun b => b.status ≠ .failed) →
      item.enrollmentId = item'.enrollmentId → item.stepNo = item'.stepNo → k = k') ∧
    (∀ key, st.created.count key ≤ 1) ∧
    ∀ label st', DraftGuarded γ δ campaignId st label st' → ∀ key id,
      (st.db.touches.get? key).map TouchLog.messageId = some (some id) →
        (st'.db.touches.get? key).map TouchLog.messageId = some (some id) := by
  have inv := r.invariant DraftState.Inv (DraftState.inv_start touches items)
    fun _ _ _ inv step => step.2.inv step.1 inv
  refine ⟨fun k k' item item' h h' _ _ same same' => ?_, fun key => ?_, fun label st' step key id h => ?_⟩
  · exact inv.rows.single k k' item item' h h' (Prod.ext same same')
  · exact List.nodup_iff_count_le_one.mp inv.rows.nodup key
  · exact step.2.keeps_message inv h

/-! ## Two submissions of one due enrollment -/

/-- The item a submission adds for the first step of `vanishing`. -/
def firstItem : GenerationBatchItem where
  clientId := 5
  enrollmentId := 7
  stepNo := 1
  product := "other"
  channel := "email"

def acceptAs (id : MessageId) : IngestServices Unit :=
  { acceptAll with createMessage := fun _ _ => .ok id }

def succeeded (customId : CustomId) : ProviderResult where
  customId := customId
  type := "succeeded"

/-- The gate accepts the enrollment, whatever is asked of it. -/
lemma oneDue_gate : checkEligibility oneDue dayFour vanishing =
    .ok { result := { eligible := true, reason := none }, enrollment := vanishing } := rfl

/-- One submission and one ingestion, alone. -/
lemma oneDue_alone : ∃ st, Run (DraftGuarded Unit Unit 1) { db := oneDue }
    [.start 0, .gate 0, .lookUp 0, .insert 0, .bundle 0, .submit 0, .read 2, .list 2, .ingest 2] st ∧
      st.created = [(7, 1)] := by
  refine ⟨_, .snoc (.snoc (.snoc (.snoc (.snoc (.snoc (.snoc (.snoc (.snoc .nil
    ⟨trivial, @DraftStep.start _ _ _ _ 0 (some "b1") rfl⟩)
    ⟨trivial, @DraftStep.gate _ _ _ _ 0 _ dayFour vanishing oneDue _ rfl rfl rfl
      List.not_mem_nil
      (fun _ _ => rfl) oneDue_gate rfl⟩)
    ⟨trivial, .lookUp rfl rfl rfl rfl⟩)
    ⟨trivial, @DraftStep.insert _ _ _ _ 0 _ vanishing rfl (by exact rfl) rfl ?_⟩)
    ⟨trivial, @DraftStep.bundle _ _ _ _ 0 _ _ "b1" "run-a" firstItem rfl rfl rfl rfl rfl rfl rfl⟩)
    ⟨trivial, @DraftStep.submit _ _ _ _ 0 _ "b1" 10 (loader true) rfl rfl rfl rfl⟩)
    ⟨trivial, @DraftStep.read _ _ _ _ 2 "b1" _ rfl rfl rfl⟩)
    ⟨trivial, .list rfl⟩)
    ⟨trivial, @DraftStep.ingest _ _ _ _ 2 _ [succeeded "run-a"] _ _ { ended := true }
      (acceptAs "m1") rfl rfl⟩, rfl⟩
  intro other s' ne found
  simp [DraftSession.accept, ne] at found

/-- Alone, the step gets one message, which stays. -/
theorem one_message_per_touch_alone : ∃ st, Run (DraftGuarded Unit Unit 1) { db := oneDue }
    [.start 0, .gate 0, .lookUp 0, .insert 0, .bundle 0, .submit 0, .read 2, .list 2, .ingest 2] st ∧
      st.created = [(7, 1)] ∧ ∀ key, st.created.count key ≤ 1 := by
  obtain ⟨st, r, created⟩ := oneDue_alone
  exact ⟨st, r, created, (one_message_per_touch rfl rfl r).2.1⟩

/-- The batch of one request, as its submission leaves it. -/
def oneRequest : GenerationBatch where
  campaignId := 1
  providerBatchId := some "provider-1"
  status := .submitted
  requestedLimit := 10
  requestedCount := 1

/-- `oneDue` once the first submission has committed. -/
def firstCommitted : Database :=
  { oneDue with
    touches := .ofList [((7, 1), { touchId := 1 })]
    nextTouchId := 2
    items := .ofList [(("b1", "run-a"), firstItem)]
    batches := .ofList [("b1", oneRequest)] }

/-- And once the second one has. -/
def bothCommitted : Database :=
  { firstCommitted with
    items := .ofList [(("b1", "run-a"), firstItem), (("b2", "run-b"), firstItem)]
    batches := .ofList [("b1", oneRequest), ("b2", oneRequest)] }

/-- The second submission, which has made its checks. -/
def checked : DraftSession :=
  ((DraftSession.opened (some "b2")).accept vanishing List.not_mem_nil).lookedUp vanishing rfl

/-- Both submissions pass the gate and find no earlier item, then the first one commits. -/
lemma first_commits : Run (DraftStep Unit Unit 1) { db := oneDue }
    [.start 0, .start 1, .gate 0, .gate 1, .lookUp 0, .lookUp 1, .insert 0, .bundle 0, .submit 0]
    { db := firstCommitted, sessions := .ofList [(1, checked)] } := by
  have states : ∃ st, Run (DraftStep Unit Unit 1) { db := oneDue }
      [.start 0, .start 1, .gate 0, .gate 1, .lookUp 0, .lookUp 1, .insert 0, .bundle 0, .submit 0]
      st ∧ st = { db := firstCommitted, sessions := .ofList [(1, checked)] } := by
    refine ⟨_, .snoc (.snoc (.snoc (.snoc (.snoc (.snoc (.snoc (.snoc (.snoc .nil
      (@DraftStep.start _ _ _ _ 0 (some "b1") rfl))
      (@DraftStep.start _ _ _ _ 1 (some "b2") rfl))
      (@DraftStep.gate _ _ _ _ 0 _ dayFour vanishing oneDue _ rfl rfl rfl
        List.not_mem_nil (fun _ _ => rfl) oneDue_gate rfl))
      (@DraftStep.gate _ _ _ _ 1 _ dayFour vanishing oneDue _ rfl rfl rfl
        List.not_mem_nil (fun _ _ => rfl) oneDue_gate rfl))
      (@DraftStep.lookUp _ _ _ _ 0 _ _ _ rfl rfl rfl rfl))
      (@DraftStep.lookUp _ _ _ _ 1 _ _ _ rfl rfl rfl rfl))
      (@DraftStep.insert _ _ _ _ 0 _ vanishing rfl (by exact rfl) rfl ?_))
      (@DraftStep.bundle _ _ _ _ 0 _ _ "b1" "run-a" firstItem rfl rfl rfl rfl rfl rfl rfl))
      (@DraftStep.submit _ _ _ _ 0 _ "b1" 10 (loader true) rfl rfl rfl rfl), rfl⟩
    intro other s' ne found
    cases eq_or_ne other 1 with
    | inl one =>
      subst one
      cases found
      exact List.not_mem_nil
    | inr ne' => simp [ne, ne'] at found
  obtain ⟨_, r, same⟩ := states
  exact same ▸ r

/-- The second one goes on with the touch it finds. -/
lemma second_commits : Run (DraftStep Unit Unit 1)
    { db := firstCommitted, sessions := .ofList [(1, checked)] } [.find 1, .bundle 1, .submit 1]
    { db := bothCommitted } := by
  have states : ∃ st, Run (DraftStep Unit Unit 1)
      { db := firstCommitted, sessions := .ofList [(1, checked)] } [.find 1, .bundle 1, .submit 1]
      st ∧ st = { db := bothCommitted } :=
    ⟨_, .snoc (.snoc (.snoc .nil
      (@DraftStep.find _ _ _ _ 1 _ vanishing _ rfl (by exact rfl) rfl rfl))
      (@DraftStep.bundle _ _ _ _ 1 _ _ "b2" "run-b" firstItem rfl rfl rfl rfl rfl rfl rfl))
      (@DraftStep.submit _ _ _ _ 1 _ "b2" 10 (loader true) rfl rfl rfl rfl), rfl⟩
  obtain ⟨_, r, same⟩ := states
  exact same ▸ r

/-- Both submissions passed the gate and found no earlier item before either committed: the step gets
    two items, then two messages, and the second one takes the place of the first. -/
theorem two_messages_for_one_touch : ∃ st st',
    Run (DraftStep Unit Unit 1) { db := oneDue }
      [.start 0, .start 1, .gate 0, .gate 1, .lookUp 0, .lookUp 1, .insert 0, .bundle 0, .submit 0,
        .find 1, .bundle 1, .submit 1, .read 2, .list 2, .ingest 2, .read 3, .list 3] st ∧
    DraftStep Unit Unit 1 st (.ingest 3) st' ∧
    ((batchItems st.db "b1" ++ batchItems st.db "b2").map fun i => i.2.touchKey) =
      [(7, 1), (7, 1)] ∧
    ["b1", "b2"].map (fun id => (st.db.batches.get? id).map GenerationBatch.status) =
      [some .ingested, some .submitted] ∧
    st'.created = [(7, 1), (7, 1)] ∧
    (st.db.touches.get? (7, 1)).map TouchLog.messageId = some (some "m1") ∧
    (st'.db.touches.get? (7, 1)).map TouchLog.messageId = some (some "m2") :=
  ⟨_, _, (first_commits.append second_commits).append (.snoc (.snoc (.snoc (.snoc (.snoc .nil
    (@DraftStep.read _ _ _ _ 2 "b1" _ rfl rfl rfl))
    (@DraftStep.list _ _ _ _ 2 _ rfl))
    (@DraftStep.ingest _ _ _ _ 2 _ [succeeded "run-a"] _ _ { ended := true }
      (acceptAs "m1") rfl rfl))
    (@DraftStep.read _ _ _ _ 3 "b2" _ rfl rfl rfl))
    (@DraftStep.list _ _ _ _ 3 _ rfl)),
    @DraftStep.ingest _ _ _ _ 3 _ [succeeded "run-b"] _ _ { ended := true } (acceptAs "m2") rfl rfl,
    rfl, rfl, rfl, rfl, rfl⟩

end ClientEngagement.Campaigns
