import ClientEngagement.Api.Pagination
import ClientEngagement.Campaigns.Tables
import ClientEngagement.Lib.Keyset

/-!
# Paging through the pending messages

Model of `list_pending_messages` and `list_pending_messages_for_queue` (services/review.py) over the
tables they read, and of a reader who follows their cursors while messages come, go and change
(`TableStep`). No message is returned twice, none is left out that satisfied the filters at every fetch,
and each cursor is the sort key of the last row before it (`pages_read_once`).
-/

namespace ClientEngagement.Review.Paging
open Api Campaigns JsonText Keyset

/-! ## The database and its driver -/

/-- A `timestamptz` in microseconds since the year 1, far enough from the ends of the calendar to have a date
    in every zone. -/
structure Timestamp where
  micros : ℕ
  after : 86400000000 ≤ micros
  before : micros < (maxOrdinal - 1) * 86400000000

/-- How the driver hands a timestamp to Python, and what it takes a time without a zone for. -/
structure Driver where
  load : Timestamp → DateTime
  load_micros : ∀ t, (load t).1.micros = some (t.micros : ℤ)
  naive : DateTime → ℤ

/-- What the driver hands to the database. -/
def Driver.dump (driver : Driver) (t : DateTime) : ℤ := t.1.micros.getD (driver.naive t)

@[simp] lemma Driver.dump_load (driver : Driver) (t : Timestamp) : driver.dump (driver.load t) = t.micros := by
  rw [dump, driver.load_micros]
  rfl

/-- A session in UTC. -/
def Driver.utc : Driver where
  load t := utcDateTime (show t.micros < maxOrdinal * 86400000000 from t.before.trans (by decide))
  load_micros t := micros_utcDateTime (t.before.trans (by decide))
  naive _ := 0

/-- How the database orders texts. -/
structure Collation where
  Key : Type
  order : LinearOrder Key
  key : String → Key
  injective : Function.Injective key

instance (collation : Collation) : LinearOrder collation.Key := collation.order

/-- Texts by their code points. -/
def Collation.c : Collation := ⟨String, inferInstance, id, Function.injective_id⟩

/-! ## The tables -/

structure OutreachMessage where
  messageId : MessageId
  campaignId : CampaignId
  generationRunId : String
  cohortId : Option String := none
  isSample : Bool := false
  channel : String := "email"
  status : MessageStatus := .pendingReview
  createdAt : Timestamp

/-- The tables that the lists read; every message has its run. -/
structure Database where
  messages : List OutreachMessage
  /-- The priority tier of a generation run. -/
  generationRuns : Dict String (Option String)
  /-- The type of a campaign. -/
  campaigns : Dict CampaignId String
  ids : (messages.map (·.messageId)).Nodup
  runs : ∀ message ∈ messages, message.generationRunId ∈ generationRuns.keys

def statusText : MessageStatus → String
  | .pendingReview => "pending_review"
  | .approved => "approved"
  | .rejected => "rejected"
  | .escalated => "escalated"
  | .held => "held"

/-! ## The lists -/

/-- What a caller asks for. -/
structure Filters where
  status : String := "pending_review"
  campaignId : Option CampaignId := none
  onlySampled : Bool := true
  channel : Option String := none
  campaignType : Option String := none

/-- `_pending_messages_filters`. -/
def pendingMessagesFilters (filters : Filters) (db : Database) (message : OutreachMessage) : Bool :=
  statusText message.status = filters.status &&
    filters.campaignId.all (message.campaignId = ·) &&
    filters.campaignType.all (db.campaigns.get? message.campaignId = some ·) &&
    filters.channel.all (message.channel = ·) &&
    (!filters.onlySampled || message.cohortId.isNone || message.isSample)

def queueTierOrder : List String := ["T1", "T2", "T3", "T4"]

/-- `_tier_rank`. -/
def tierRank (tier : Option String) : ℕ :=
  match tier with
  | some tier => if tier ∈ queueTierOrder then queueTierOrder.idxOf tier else queueTierOrder.length
  | none => queueTierOrder.length

/-- The `CASE` over the tier of the run, as the query has it. -/
def tierCase (tier : Option String) : ℕ :=
  (tier.bind fun tier => queueTierOrder.zipIdx.lookup tier).getD queueTierOrder.length

/-- Looking up a value among the numbered ones is looking for its place. -/
lemma lookup_zipIdx (tiers : List String) (tier : String) (k : ℕ) :
    (tiers.zipIdx k).lookup tier = if tier ∈ tiers then some (tiers.idxOf tier + k) else none := by
  induction tiers generalizing k with
  | nil => rfl
  | cons first tiers ih =>
    rw [List.zipIdx_cons, Dict.lookup_cons_ite, ih]
    by_cases same : tier = first
    · rw [if_pos same, if_pos (same ▸ List.mem_cons_self), same, List.idxOf_cons_self, Nat.zero_add]
    · have mem : tier ∈ first :: tiers ↔ tier ∈ tiers := by rw [List.mem_cons, or_iff_right same]
      rw [if_neg same, if_congr mem rfl rfl, List.idxOf_cons_ne tiers (Ne.symm same), Nat.succ_add_eq_add_succ]

/-- The rank in the query is the rank in the cursor. -/
lemma tierCase_eq (tier : Option String) : tierCase tier = tierRank tier := by
  cases tier with
  | none => rfl
  | some tier =>
    rw [tierCase, tierRank, Option.bind_some, lookup_zipIdx]
    split_ifs
    · rfl
    · rfl

inductive ReviewOrder where
  | oldestFirst
  | newestFirst

/-- The surroundings of a call. -/
structure Env where
  driver : Driver
  collation : Collation

variable (env : Env)

/-- `(created_at, message_id)`. -/
abbrev MessageKey := ℤ ×ₗ env.collation.Key

def messageKey (message : OutreachMessage) : MessageKey env :=
  toLex ((message.createdAt.micros : ℤ), env.collation.key message.messageId)

/-- A text to compare ids with. -/
def idParameter : JsonValue ℕ → Except PageError env.collation.Key
  | .str id => .ok (env.collation.key id)
  | _ => .error .badParameter

def rankParameter : JsonValue ℕ → Except PageError ℕ
  | .num rank => .ok rank
  | _ => .error .badParameter

/-- The key that a cursor stands for in the query. -/
def afterKey (cursor : String) : Except PageError (MessageKey env) := do
  let (createdAt, rowId) ← decodeCursor cursor
  let id ← idParameter env rowId
  return toLex (env.driver.dump createdAt, id)

def messageCursor (message : OutreachMessage) : String :=
  encodeCursor (env.driver.load message.createdAt) message.messageId

def selected (filters : Filters) (db : Database) : List OutreachMessage :=
  db.messages.filter (pendingMessagesFilters filters db)

/-- `list_pending_messages`. -/
def listPendingMessages (order : ReviewOrder) (filters : Filters) (db : Database) (cursor : Option String)
    (limit : ℤ) : Except PageError (List OutreachMessage × Option String) := do
  let after ← cursor.mapM (afterKey env)
  let (rows, last) := match order with
    | .newestFirst => page (fun m => OrderDual.toDual (messageKey env m)) (clampLimit limit)
        (after.map OrderDual.toDual) (selected filters db)
    | .oldestFirst => page (messageKey env) (clampLimit limit) after (selected filters db)
  return (rows, last.map (messageCursor env))

/-- `(rank, created_at, message_id)`. -/
abbrev QueueKey := ℕ ×ₗ MessageKey env

def queueKey (row : OutreachMessage × Option String) : QueueKey env :=
  toLex (tierCase row.2, messageKey env row.1)

def afterQueueKey (cursor : String) : Except PageError (QueueKey env) := do
  let (rank, createdAt, rowId) ← decodeRankedCursor cursor
  let rank ← rankParameter rank
  let id ← idParameter env rowId
  return toLex (rank, toLex (env.driver.dump createdAt, id))

def queueCursor (row : OutreachMessage × Option String) : String :=
  encodeRankedCursor (tierRank row.2) (env.driver.load row.1.createdAt) row.1.messageId

/-- The messages with the tiers of their runs. -/
def joined (filters : Filters) (db : Database) : List (OutreachMessage × Option String) :=
  (selected filters db).filterMap fun message =>
    (db.generationRuns.get? message.generationRunId).map (message, ·)

/-- What the reviewer console can filter by. -/
structure QueueFilters where
  campaignId : Option CampaignId := none
  onlySampled : Bool := true
  channel : Option String := none

def QueueFilters.pending (filters : QueueFilters) : Filters :=
  { campaignId := filters.campaignId, onlySampled := filters.onlySampled, channel := filters.channel }

/-- `list_pending_messages_for_queue`. -/
def listPendingMessagesForQueue (filters : QueueFilters) (db : Database) (cursor : Option String) (limit : ℤ) :
    Except PageError (List (OutreachMessage × Option String) × Option String) := do
  let after ← cursor.mapM (afterQueueKey env)
  let (rows, last) := page (queueKey env) (clampLimit limit) after (joined filters.pending db)
  return (rows, last.map (queueCursor env))

/-! ## What happens to the tables -/

section Changes

variable (db : Database)

/-- The message, drafted by a run that is there. -/
def Database.insert (message : OutreachMessage) (fresh : message.messageId ∉ db.messages.map (·.messageId))
    (run : message.generationRunId ∈ db.generationRuns.keys) : Database where
  messages := db.messages ++ [message]
  generationRuns := db.generationRuns
  campaigns := db.campaigns
  ids := by
    rw [List.map_append, List.nodup_append]
    refine ⟨db.ids, List.nodup_singleton _, ?_⟩
    rintro id mem _ here rfl
    rw [List.map_singleton, List.mem_singleton] at here
    exact fresh (here ▸ mem)
  runs other mem := by
    rcases List.mem_append.mp mem with old | new
    · exact db.runs other old
    · rw [List.mem_singleton.mp new]
      exact run

def Database.delete (id : MessageId) : Database where
  messages := db.messages.filter (·.messageId ≠ id)
  generationRuns := db.generationRuns
  campaigns := db.campaigns
  ids := db.ids.sublist (List.filter_sublist.map _)
  runs message mem := db.runs message (List.mem_filter.mp mem).1

/-- The row of a message after an update. -/
def updated (message row : OutreachMessage) : OutreachMessage :=
  if row.messageId = message.messageId then
    { message with generationRunId := row.generationRunId, createdAt := row.createdAt }
  else row

/-- Other columns of a row; a message keeps its run and the time it was drafted at. -/
def Database.update (message : OutreachMessage) : Database where
  messages := db.messages.map (updated message)
  generationRuns := db.generationRuns
  campaigns := db.campaigns
  ids := by
    have same : (fun row => (updated message row).messageId) = (·.messageId) := by
      funext row
      rw [updated]
      split_ifs with this
      · exact this.symm
      · rfl
    rw [List.map_map, Function.comp_def, same]
    exact db.ids
  runs row mem := by
    obtain ⟨old, there, rfl⟩ := List.mem_map.mp mem
    rw [updated]
    split_ifs
    · exact db.runs old there
    · exact db.runs old there

def Database.addRun (runId : String) (tier : Option String) : Database where
  messages := db.messages
  generationRuns := db.generationRuns.set runId tier
  campaigns := db.campaigns
  ids := db.ids
  runs message mem := (db.generationRuns.mem_keys_set runId message.generationRunId tier).mpr (.inr (db.runs message mem))

def Database.withCampaigns (campaigns : Dict CampaignId String) : Database := { db with campaigns := campaigns }

end Changes

/-- The tables with every message there ever was, as it was inserted, and the tier of its run. -/
structure History where
  db : Database
  issued : List (OutreachMessage × Option String)

inductive Change where
  | insert (message : OutreachMessage)
  | delete (id : MessageId)
  | update (message : OutreachMessage)
  | addRun (runId : String) (tier : Option String)
  | setCampaigns (campaigns : Dict CampaignId String)

/-- What other sessions commit: the id of a new message is new, and runs are only added. -/
inductive TableStep (h : History) : Change → History → Prop where
  | insert {message tier} (fresh : message.messageId ∉ h.db.messages.map (·.messageId))
      (new : message.messageId ∉ h.issued.map (·.1.messageId))
      (run : h.db.generationRuns.get? message.generationRunId = some tier) :
      TableStep h (.insert message)
        ⟨h.db.insert message fresh (h.db.generationRuns.mem_keys_iff.mpr ⟨tier, run⟩), h.issued ++ [(message, tier)]⟩
  | delete {id} : TableStep h (.delete id) { h with db := h.db.delete id }
  | update {message} : TableStep h (.update message) { h with db := h.db.update message }
  | addRun {runId tier} (new : runId ∉ h.db.generationRuns.keys) :
      TableStep h (.addRun runId tier) { h with db := h.db.addRun runId tier }
  | setCampaigns {campaigns} : TableStep h (.setCampaigns campaigns) { h with db := h.db.withCampaigns campaigns }

/-- A message of the tables is one that was inserted, with its run and its time. -/
structure History.Sound (h : History) : Prop where
  ids : (h.issued.map (·.1.messageId)).Nodup
  kept : ∀ message ∈ h.db.messages, ∃ issue ∈ h.issued, issue.1.messageId = message.messageId ∧
    issue.1.createdAt = message.createdAt ∧ h.db.generationRuns.get? message.generationRunId = some issue.2

/-- The history that begins with these tables. -/
def History.begin (db : Database) : History :=
  ⟨db, db.messages.map fun message => (message, db.generationRuns.getD message.generationRunId none)⟩

lemma History.begin_sound (db : Database) : (History.begin db).Sound where
  ids := by
    rw [begin, List.map_map]
    exact db.ids
  kept message mem := by
    obtain ⟨tier, run⟩ := db.generationRuns.mem_keys_iff.mp (db.runs message mem)
    refine ⟨_, List.mem_map_of_mem mem, rfl, rfl, ?_⟩
    rw [Dict.getD, run]
    exact run

lemma History.Sound.step {h h' : History} {change : Change} (sound : h.Sound) (st : TableStep h change h') :
    h'.Sound := by
  cases st with
  | @insert message tier fresh new run =>
    constructor
    · rw [List.map_append, List.nodup_append]
      refine ⟨sound.ids, List.nodup_singleton _, ?_⟩
      rintro id mem _ here rfl
      rw [List.map_singleton, List.mem_singleton] at here
      exact new (here ▸ mem)
    · intro other mem
      rcases List.mem_append.mp mem with old | inserted
      · obtain ⟨issue, there, same⟩ := sound.kept other old
        exact ⟨issue, List.mem_append_left _ there, same⟩
      · rw [List.mem_singleton.mp inserted]
        exact ⟨(message, tier), List.mem_append_right _ List.mem_cons_self, rfl, rfl, run⟩
  | delete => exact ⟨sound.ids, fun message mem => sound.kept message (List.mem_filter.mp mem).1⟩
  | @update message =>
    refine ⟨sound.ids, fun row mem => ?_⟩
    obtain ⟨old, there, rfl⟩ := List.mem_map.mp mem
    obtain ⟨issue, issued, id, rest⟩ := sound.kept old there
    refine ⟨issue, issued, ?_⟩
    rw [updated]
    split_ifs with same
    · exact ⟨id.trans same, rest⟩
    · exact ⟨id, rest⟩
  | @addRun runId tier new =>
    refine ⟨sound.ids, fun message mem => ?_⟩
    obtain ⟨issue, issued, id, created, run⟩ := sound.kept message mem
    refine ⟨issue, issued, id, created, ?_⟩
    have other : message.generationRunId ≠ runId := fun same => new (same ▸ h.db.runs message mem)
    exact (h.db.generationRuns.get?_set_ne tier other).trans run
  | setCampaigns => exact ⟨sound.ids, sound.kept⟩

lemma TableStep.issued_grows {h h' : History} {change : Change} (st : TableStep h change h') : h.issued ⊆ h'.issued := by
  cases st with
  | insert => exact List.subset_append_left _ _
  | delete => exact List.Subset.refl _
  | update => exact List.Subset.refl _
  | addRun => exact List.Subset.refl _
  | setCampaigns => exact List.Subset.refl _

/-! ## The lists as pages of a changing table -/

lemma afterKey_messageCursor (message : OutreachMessage) :
    afterKey env (messageCursor env message) = .ok (messageKey env message) := by
  rw [afterKey, messageCursor, decodeCursor_encode, messageKey, ← env.driver.dump_load]
  rfl

lemma afterQueueKey_queueCursor (row : OutreachMessage × Option String) :
    afterQueueKey env (queueCursor env row) = .ok (queueKey env row) := by
  rw [afterQueueKey, queueCursor, decodeRankedCursor_encode, queueKey, tierCase_eq, messageKey, ← env.driver.dump_load]
  rfl

def oldestFirst (filters : Filters) : Pager History OutreachMessage (MessageKey env) PageError where
  rows h := selected filters h.db
  key := messageKey env
  encode := messageCursor env
  decode := afterKey env
  decode_encode := afterKey_messageCursor env

def newestFirst (filters : Filters) : Pager History OutreachMessage (MessageKey env)ᵒᵈ PageError where
  rows h := selected filters h.db
  key m := OrderDual.toDual (messageKey env m)
  encode := messageCursor env
  decode cursor := (afterKey env cursor).map OrderDual.toDual
  decode_encode message := by
    rw [afterKey_messageCursor]
    rfl

def queue (filters : QueueFilters) : Pager History (OutreachMessage × Option String) (QueueKey env) PageError where
  rows h := joined filters.pending h.db
  key := queueKey env
  encode := queueCursor env
  decode := afterQueueKey env
  decode_encode := afterQueueKey_queueCursor env

lemma listPendingMessages_oldest (filters : Filters) (h : History) (cursor : Option String) (limit : ℤ) :
    listPendingMessages env .oldestFirst filters h.db cursor limit =
      (oldestFirst env filters).fetch h cursor (clampLimit limit) := by
  rw [listPendingMessages, Pager.fetch]
  show (cursor.mapM (afterKey env)).bind _ = (cursor.mapM (afterKey env)).map _
  cases cursor.mapM (afterKey env) with
  | error e => rfl
  | ok after => rfl

lemma listPendingMessages_newest (filters : Filters) (h : History) (cursor : Option String) (limit : ℤ) :
    listPendingMessages env .newestFirst filters h.db cursor limit =
      (newestFirst env filters).fetch h cursor (clampLimit limit) := by
  have read : cursor.mapM (newestFirst env filters).decode =
      (cursor.mapM (afterKey env)).map (Option.map OrderDual.toDual) := by
    cases cursor with
    | none => rfl
    | some cursor =>
      rw [Option.mapM_some, Option.mapM_some, show (newestFirst env filters).decode cursor =
        (afterKey env cursor).map OrderDual.toDual from rfl]
      cases afterKey env cursor with
      | error e => rfl
      | ok key => rfl
  rw [listPendingMessages, Pager.fetch, read]
  show (cursor.mapM (afterKey env)).bind _ = ((cursor.mapM (afterKey env)).map _).map _
  cases cursor.mapM (afterKey env) with
  | error e => rfl
  | ok after => rfl

lemma listPendingMessagesForQueue_eq (filters : QueueFilters) (h : History) (cursor : Option String) (limit : ℤ) :
    listPendingMessagesForQueue env filters h.db cursor limit = (queue env filters).fetch h cursor (clampLimit limit) := by
  rw [listPendingMessagesForQueue, Pager.fetch]
  show (cursor.mapM (afterQueueKey env)).bind _ = (cursor.mapM (afterQueueKey env)).map _
  cases cursor.mapM (afterQueueKey env) with
  | error e => rfl
  | ok after => rfl

/-! ## Rows keep their keys -/

section Keyed

variable {α κ : Type} [LinearOrder κ] (pager : Pager History α κ PageError) (name : α → MessageId)
  (issuedKey : OutreachMessage × Option String → κ)

/-- Rows that are messages as they were issued keep their keys. -/
def issuedKeyed (ids : ∀ h, ((pager.rows h).map name).Nodup)
    (separates : ∀ a b, pager.key a = pager.key b → name a = name b)
    (row : ∀ h : History, h.Sound → ∀ row ∈ pager.rows h,
      ∃ issue ∈ h.issued, issue.1.messageId = name row ∧ issuedKey issue = pager.key row) :
    Keyed pager TableStep name where
  sound := History.Sound
  assigned h id key := ∃ issue ∈ h.issued, issue.1.messageId = id ∧ issuedKey issue = key
  keeps _ _ _ sound st := sound.step st
  grows _ _ _ _ st id key := fun ⟨issue, mem, same⟩ => ⟨issue, st.issued_grows mem, same⟩
  distinct h _ := by
    have names := ids h
    rw [List.nodup_iff_pairwise_ne, List.pairwise_map] at names ⊢
    exact names.imp fun ne same => ne (separates _ _ same)
  row := row
  one h sound id key key' := by
    rintro ⟨issue, mem, id, rfl⟩ ⟨issue', mem', id', rfl⟩
    rw [List.inj_on_of_nodup_map sound.ids mem mem' (id.trans id'.symm)]
  separates := separates

end Keyed

lemma selected_ids (filters : Filters) (db : Database) : ((selected filters db).map (·.messageId)).Nodup :=
  db.ids.sublist (List.filter_sublist.map _)

lemma messageKey_separates {a b : OutreachMessage} (same : messageKey env a = messageKey env b) :
    a.messageId = b.messageId :=
  env.collation.injective (Prod.mk.inj same).2

lemma messageKey_issued {filters : Filters} {h : History} (sound : h.Sound) {message : OutreachMessage}
    (mem : message ∈ selected filters h.db) : ∃ issue ∈ h.issued, issue.1.messageId = message.messageId ∧
      messageKey env issue.1 = messageKey env message := by
  obtain ⟨issue, issued, id, created, _⟩ := sound.kept message (List.mem_filter.mp mem).1
  refine ⟨issue, issued, id, ?_⟩
  rw [messageKey, messageKey, id, created]

def oldestFirstKeyed (filters : Filters) : Keyed (oldestFirst env filters) TableStep (·.messageId) :=
  issuedKeyed _ _ (fun issue => messageKey env issue.1) (fun h => selected_ids filters h.db)
    (fun _ _ => messageKey_separates env) fun _ sound _ mem => messageKey_issued env sound mem

def newestFirstKeyed (filters : Filters) : Keyed (newestFirst env filters) TableStep (·.messageId) :=
  issuedKeyed _ _ (fun issue => OrderDual.toDual (messageKey env issue.1)) (fun h => selected_ids filters h.db)
    (fun _ _ same => messageKey_separates env (OrderDual.toDual_inj.mp same))
    fun _ sound _ mem => messageKey_issued env sound mem

lemma mem_joined {filters : Filters} {db : Database} {row : OutreachMessage × Option String} :
    row ∈ joined filters db ↔ row.1 ∈ selected filters db ∧
      db.generationRuns.get? row.1.generationRunId = some row.2 := by
  rw [joined, List.mem_filterMap]
  constructor
  · rintro ⟨message, mem, eq⟩
    obtain ⟨tier, run, rfl⟩ := Option.map_eq_some_iff.mp eq
    exact ⟨mem, run⟩
  · rintro ⟨mem, run⟩
    exact ⟨row.1, mem, by rw [run]; rfl⟩

/-- No message is lost in the join. -/
lemma joined_messages (filters : Filters) (db : Database) : (joined filters db).map Prod.fst = selected filters db := by
  have all : ∀ messages ⊆ db.messages, (messages.filterMap fun message =>
      (db.generationRuns.get? message.generationRunId).map (message, ·)).map Prod.fst = messages := by
    intro messages sub
    induction messages with
    | nil => rfl
    | cons message messages ih =>
      obtain ⟨here, rest⟩ := List.cons_subset.mp sub
      obtain ⟨tier, run⟩ := db.generationRuns.mem_keys_iff.mp (db.runs message here)
      rw [List.filterMap_cons, run, Option.map_some]
      simp only
      rw [List.map_cons, ih rest]
  exact all _ (List.filter_subset_self _)

def queueKeyed (filters : QueueFilters) : Keyed (queue env filters) TableStep (·.1.messageId) :=
  issuedKeyed _ _ (queueKey env)
    (fun h => by
      have ids := selected_ids filters.pending h.db
      rw [← joined_messages, List.map_map] at ids
      exact ids)
    (fun _ _ same => messageKey_separates env (Prod.mk.inj same).2)
    fun h sound row mem => by
      obtain ⟨selected, run⟩ := mem_joined.mp mem
      obtain ⟨issue, issued, id, created, run'⟩ := sound.kept row.1 (List.mem_filter.mp selected).1
      refine ⟨issue, issued, id, ?_⟩
      rw [run] at run'
      rw [show (queue env filters).key row = queueKey env row from rfl, queueKey, queueKey, messageKey, messageKey,
        id, created, Option.some_inj.mp run']

/-! ## What a reader gets -/

/-- Whoever follows the cursors gets each row once, in order. -/
structure ReadsOnce {α : Type} (fetch : History → Option String → ℤ → Except PageError (List α × Option String))
    (rows : History → List α) (name : α → MessageId) (before : α → α → Prop) (points : String → α → Prop)
    (w : Walk History α) : Prop where
  noneTwice : (w.returned.map name).Nodup
  ordered : w.returned.Pairwise before
  selected : ∀ f ∈ w.fetches, ∀ row ∈ f.page, row ∈ rows f.table
  /-- What satisfied the filters at every fetch was returned once. -/
  complete : w.position = .finished → ∀ id, (∀ f ∈ w.fetches, id ∈ (rows f.table).map name) →
    (w.returned.map name).count id = 1
  lasts : ∀ f ∈ w.fetches, ∀ cursor, f.next = some cursor →
    ∃ last, f.page.getLast? = some last ∧ points cursor last
  goesOn : ∀ cursor, w.position.cursor = some cursor → ∀ limit, ∃ given, fetch w.table cursor limit = .ok given

/-- The pages of a pager over keyed rows. -/
lemma reads_once {α κ : Type} [LinearOrder κ] {pager : Pager History α κ PageError} {name : α → MessageId}
    (keyed : Keyed pager TableStep name) {fetch : History → Option String → ℤ → Except PageError (List α × Option String)}
    (pages : ∀ h cursor limit, fetch h cursor limit = pager.fetch h cursor (clampLimit limit)) {before : α → α → Prop}
    (increasing : ∀ a b, pager.key a < pager.key b → before a b) {points : String → α → Prop}
    (encoded : ∀ row, points (pager.encode row) row) {s : History} (sound : keyed.sound s)
    {moves : List (Move Change ℤ)} {w : Walk History α} (r : Run (WalkStep fetch TableStep) ⟨s, .start, []⟩ moves w) :
    ReadsOnce fetch pager.rows name before points w := by
  have kept := keyed.walk_kept (fun h cursor limit => ⟨_, clampLimit_pos limit, pages h cursor limit⟩) sound r
  constructor
  · exact kept.names_nodup
  · exact kept.covered.increasing.imp fun less => increasing _ _ less
  · exact kept.covered.present
  · intro finished id steady
    exact List.count_eq_one_of_mem kept.names_nodup (kept.complete finished steady)
  · intro f mem cursor next
    obtain ⟨last, tail, rfl⟩ := kept.covered.lasts f mem cursor next
    exact ⟨last, tail, encoded last⟩
  · intro cursor asked limit
    rw [pages]
    exact kept.covered.can_fetch asked (clampLimit limit)

/-- The order a list is asked for in. -/
def Before : ReviewOrder → OutreachMessage → OutreachMessage → Prop
  | .oldestFirst, a, b => messageKey env a < messageKey env b
  | .newestFirst, a, b => messageKey env b < messageKey env a

/-- The cursor is decoded to the time and the id of a message, which the query takes for its sort key. -/
def PointsTo (cursor : String) (message : OutreachMessage) : Prop :=
  decodeCursor cursor = .ok (env.driver.load message.createdAt, .str message.messageId) ∧
    afterKey env cursor = .ok (messageKey env message)

def PointsToRanked (cursor : String) (row : OutreachMessage × Option String) : Prop :=
  decodeRankedCursor cursor = .ok (.num (tierRank row.2), env.driver.load row.1.createdAt, .str row.1.messageId) ∧
    afterQueueKey env cursor = .ok (queueKey env row)

/-- Whatever other sessions do between two pages, a reader of the pending messages, in either order, and a reader
    of the queue get every message once that satisfied the filters throughout. -/
theorem pages_read_once :
    (∀ (order : ReviewOrder) (filters : Filters) (db : Database) (moves : List (Move Change ℤ))
      (w : Walk History OutreachMessage),
      Run (WalkStep (fun h => listPendingMessages env order filters h.db) TableStep)
        ⟨History.begin db, .start, []⟩ moves w →
      ReadsOnce (fun h => listPendingMessages env order filters h.db) (fun h => selected filters h.db)
        (·.messageId) (Before env order) (PointsTo env) w) ∧
    ∀ (filters : QueueFilters) (db : Database) (moves : List (Move Change ℤ))
      (w : Walk History (OutreachMessage × Option String)),
      Run (WalkStep (fun h => listPendingMessagesForQueue env filters h.db) TableStep)
        ⟨History.begin db, .start, []⟩ moves w →
      ReadsOnce (fun h => listPendingMessagesForQueue env filters h.db) (fun h => joined filters.pending h.db)
        (·.1.messageId) (fun a b => queueKey env a < queueKey env b) (PointsToRanked env) w := by
  have points (message : OutreachMessage) : PointsTo env (messageCursor env message) message :=
    ⟨decodeCursor_encode _ _, afterKey_messageCursor env message⟩
  constructor
  · intro order filters db moves w r
    cases order with
    | oldestFirst =>
      exact reads_once (oldestFirstKeyed env filters) (listPendingMessages_oldest env filters)
        (fun _ _ less => less) points (History.begin_sound db) r
    | newestFirst =>
      exact reads_once (newestFirstKeyed env filters) (listPendingMessages_newest env filters)
        (fun _ _ less => less) points (History.begin_sound db) r
  · intro filters db moves w r
    exact reads_once (queueKeyed env filters) (listPendingMessagesForQueue_eq env filters)
      (fun _ _ less => less)
      (fun row => ⟨decodeRankedCursor_encode _ _ _, afterQueueKey_queueCursor env row⟩) (History.begin_sound db) r

/-! ## Three messages of one instant -/

def sessionUtc : Env := ⟨.utc, .c⟩

/-- Drafted at the same microsecond. -/
def draftedAtOnce (id : MessageId) : OutreachMessage where
  messageId := id
  campaignId := 1
  generationRunId := "run"
  createdAt := ⟨63900000000123456, by decide, by decide⟩

def twoPending : Database where
  messages := [draftedAtOnce "c", draftedAtOnce "a"]
  generationRuns := Dict.empty.set "run" (some "T1")
  campaigns := .empty
  ids := by decide
  runs := by decide

/-- The tables after one more message came in between. -/
def threePending : History :=
  ⟨twoPending.insert (draftedAtOnce "b") (by decide) (by decide),
    (History.begin twoPending).issued ++ [(draftedAtOnce "b", some "T1")]⟩

def cursorAfter (id : MessageId) : String := messageCursor sessionUtc (draftedAtOnce id)

/-- The reader asks for one message at a time, and the third comes in after the first page. -/
def onePage : List (Fetch History OutreachMessage) :=
  [⟨.begin twoPending, [draftedAtOnce "a"], some (cursorAfter "a")⟩]

def twoPages : List (Fetch History OutreachMessage) :=
  onePage ++ [⟨threePending, [draftedAtOnce "b"], some (cursorAfter "b")⟩]

def oneByOne : Walk History OutreachMessage :=
  ⟨threePending, .next none, twoPages ++ [⟨threePending, [draftedAtOnce "c"], none⟩]⟩

lemma run_oneByOne : Run (WalkStep (fun h => listPendingMessages sessionUtc .oldestFirst {} h.db) TableStep)
    ⟨.begin twoPending, .start, []⟩
    [.fetch (1 : ℤ), .change (.insert (draftedAtOnce "b")), .fetch 1, .fetch 1] oneByOne := by
  have first : listPendingMessages sessionUtc .oldestFirst {} twoPending none 1 =
      .ok ([draftedAtOnce "a"], some (cursorAfter "a")) := rfl
  have second : listPendingMessages sessionUtc .oldestFirst {} threePending.db
      (some (cursorAfter "a")) 1 =
      .ok ([draftedAtOnce "b"], some (cursorAfter "b")) := by
    rw [listPendingMessages, Option.mapM_some, cursorAfter, afterKey_messageCursor]
    rfl
  have third : listPendingMessages sessionUtc .oldestFirst {} threePending.db
      (some (cursorAfter "b")) 1 = .ok ([draftedAtOnce "c"], none) := by
    rw [listPendingMessages, Option.mapM_some, cursorAfter, afterKey_messageCursor]
    rfl
  have inserted : TableStep (.begin twoPending) (.insert (draftedAtOnce "b")) threePending :=
    .insert (by decide) (by decide) rfl
  have one : WalkStep (fun h => listPendingMessages sessionUtc .oldestFirst {} h.db) TableStep
      ⟨.begin twoPending, .start, []⟩ (.fetch 1) ⟨.begin twoPending, .next (some (cursorAfter "a")), onePage⟩ :=
    .fetch rfl first
  have two : WalkStep (fun h => listPendingMessages sessionUtc .oldestFirst {} h.db) TableStep
      ⟨threePending, .next (some (cursorAfter "a")), onePage⟩ (.fetch 1) ⟨threePending, .next (some (cursorAfter "b")), twoPages⟩ :=
    .fetch rfl second
  have three : WalkStep (fun h => listPendingMessages sessionUtc .oldestFirst {} h.db) TableStep
      ⟨threePending, .next (some (cursorAfter "b")), twoPages⟩ (.fetch 1) oneByOne := .fetch rfl third
  exact (((Run.single one).snoc (.change inserted)).snoc two).snoc three

lemma run_queue : Run (WalkStep (fun h => listPendingMessagesForQueue sessionUtc {} h.db) TableStep)
    ⟨.begin twoPending, .start, []⟩ [.fetch (50 : ℤ)]
    ⟨.begin twoPending, .next none,
      [⟨.begin twoPending, [(draftedAtOnce "a", some "T1"), (draftedAtOnce "c", some "T1")], none⟩]⟩ := by
  have all : listPendingMessagesForQueue sessionUtc {} twoPending none 50 =
      .ok ([(draftedAtOnce "a", some "T1"), (draftedAtOnce "c", some "T1")], none) := rfl
  exact .single (.fetch rfl all)

theorem one_by_one_read_once :
    oneByOne.returned.map (·.messageId) = ["a", "b", "c"] ∧
      ReadsOnce (fun h => listPendingMessages sessionUtc .oldestFirst {} h.db) (fun h => selected {} h.db)
        (·.messageId) (Before sessionUtc .oldestFirst) (PointsTo sessionUtc) oneByOne ∧
      ∃ w, ReadsOnce (fun h => listPendingMessagesForQueue sessionUtc {} h.db)
        (fun h => joined (QueueFilters.pending {}) h.db) (·.1.messageId)
        (fun a b => queueKey sessionUtc a < queueKey sessionUtc b) (PointsToRanked sessionUtc) w :=
  ⟨rfl, (pages_read_once sessionUtc).1 .oldestFirst {} twoPending _ _ run_oneByOne,
    _, (pages_read_once sessionUtc).2 {} twoPending _ _ run_queue⟩

end ClientEngagement.Review.Paging
