import ClientEngagement.Campaigns.Touch
import ClientEngagement.Lib.Pool

/-!
# Concurrent sending runs

Model of `send_due_touches` (`campaigns/touch.py`) as a system of runs over one committed database.
A run selects a page of unsent touches, hands them to the sender one by one and commits each. What a
run reads in between is what some database `seen` showed it, and what it has delivered is not on file
before its commit. `SendState.pool` reads a state as a pool of exclusive work; runs whose pages do
not overlap and that commit what they delivered are runs of that pool (`SendStep.simulates`), so
nothing is delivered twice (`delivered_at_most_once`).
-/

namespace ClientEngagement.Campaigns
open Rules (Date Instant)

abbrev TouchKey := EnrollmentId × ℤ
abbrev RunId := ℕ

/-- The filter of the page query. -/
def isSendable (db : Database) (campaignId : CampaignId) (key : TouchKey) (touch : TouchLog) : Bool :=
  (db.enrollments.get? key.1).any (fun e => e.campaignId = campaignId ∧ e.status.isSchedulable) ∧
    touch.sentAt = none ∧
    (touch.messageId.bind db.messages.get?).any (·.status = .approved)

def defaultBatchLimit : ℕ := 10

/-- The next page of a run, in the order of touch ids. -/
def duePage (db : Database) (campaignId : CampaignId) (limit : ℕ) (afterTouchId : TouchId) :
    List (TouchKey × TouchLog) :=
  (sortBy (fun t => t.2.touchId) (db.touches.items.filter fun (key, touch) =>
    isSendable db campaignId key touch ∧ afterTouchId < touch.touchId)).take
      (max limit defaultBatchLimit)

/-- A run: the rest of its page, and the delivery of the page's first touch while it is not committed
    yet, with what the advance did to the enrollment the session held. -/
structure SendRun where
  afterTouchId : TouchId := 0
  page : List (TouchKey × TouchLog) := []
  nodup : (page.map Prod.fst).Nodup
  delivered : Option (SendResult × Except Refused Enrollment) := none

/-- One call of the sender, and whether it returned. -/
structure Invocation where
  key : TouchKey
  delivered : Bool

structure SendState where
  db : Database
  runs : Dict RunId SendRun := .empty
  log : List Invocation := []

/-- The columns a stop writes. -/
def Database.writeStatus (db : Database) (e : Enrollment) : Database :=
  match db.enrollments.get? e.enrollmentId with
  | none => db
  | some row => db.storeEnrollment { row with status := e.status }

/-- The columns an advance writes. -/
def Database.writeAdvance (db : Database) (e : Enrollment) : Database :=
  match db.enrollments.get? e.enrollmentId with
  | none => db
  | some row => db.storeEnrollment { row with
      currentStep := e.currentStep, nextDueAt := e.nextDueAt, status := e.status }

lemma nodup_duePage {db : Database} {campaignId : CampaignId} {limit : ℕ} {afterTouchId : TouchId} :
    ((duePage db campaignId limit afterTouchId).map Prod.fst).Nodup := by
  have sub := (List.take_sublist (max limit defaultBatchLimit)
    (sortBy (fun t => t.2.touchId) (db.touches.items.filter fun (key, touch) =>
      isSendable db campaignId key touch ∧ afterTouchId < touch.touchId))).map Prod.fst
  refine sub.nodup ?_
  rw [((sortBy_perm _ _).map Prod.fst).nodup_iff]
  exact db.touches.nodup.sublist (List.filter_sublist.map _)

/-- The run with a page to work on. -/
def SendRun.withPage (r : SendRun) (db : Database) (campaignId : CampaignId) (limit : ℕ) : SendRun where
  afterTouchId := r.afterTouchId
  page := duePage db campaignId limit r.afterTouchId
  nodup := nodup_duePage

/-- The run once it is done with the first touch of its page. -/
def SendRun.next (r : SendRun) : SendRun where
  afterTouchId := (r.page.head?.map fun t => t.2.touchId).getD r.afterTouchId
  page := r.page.tail
  nodup := r.nodup.sublist ((List.tail_sublist _).map _)

/-- The run once the sender has returned for the first touch. -/
def SendRun.deliver (r : SendRun) (result : SendResult) (advanced : Except Refused Enrollment) :
    SendRun :=
  { r with delivered := some (result, advanced) }

inductive SendLabel where
  | start (run : RunId)
  | select (run : RunId) (limit : ℕ)
  | refuse (run : RunId)
  | block (run : RunId)
  | raise (run : RunId)
  | deliver (run : RunId) (result : SendResult)
  | commit (run : RunId)
  | rollback (run : RunId)
  | stop (run : RunId)
  | others (db' : Database)

/-- What a run does next. `seen` is the database its own reads of this touch showed it, and `touch`
    is the touch as the page listed it or as it was read again. -/
inductive SendStep (campaignId : CampaignId) (st : SendState) : SendLabel → SendState → Prop where
  | start {run} (new : st.runs.get? run = none) :
      SendStep campaignId st (.start run)
        { st with runs := st.runs.set run { page := [], nodup := List.nodup_nil } }
  | select {run limit r} (found : st.runs.get? run = some r) (done : r.page = [])
      (idle : r.delivered = none) :
      SendStep campaignId st (.select run limit)
        { st with runs := st.runs.set run (r.withPage st.db campaignId limit) }
  -- `send_touch` raised before it asked the sender: the run rolls back and goes on
  | refuse {run r key listed rest touch seen env failure} (found : st.runs.get? run = some r)
      (idle : r.delivered = none) (page : r.page = (key, listed) :: rest)
      (held : touch = listed ∨ seen.touches.get? key = some touch)
      (check : sendCheck seen env key.1 touch = .failure failure) :
      SendStep campaignId st (.refuse run) { st with runs := st.runs.set run r.next }
  -- the recheck blocked the send: its stop is committed
  | block {run r key listed rest touch seen env reason stopped} (found : st.runs.get? run = some r)
      (idle : r.delivered = none) (page : r.page = (key, listed) :: rest)
      (held : touch = listed ∨ seen.touches.get? key = some touch)
      (check : sendCheck seen env key.1 touch = .blocked reason stopped) :
      SendStep campaignId st (.block run)
        { st with db := stopped.elim st.db st.db.writeStatus, runs := st.runs.set run r.next }
  -- the sender raised, a refusal or an error: nothing of this touch is kept
  | raise {run r key listed rest touch seen env message e} (found : st.runs.get? run = some r)
      (idle : r.delivered = none) (page : r.page = (key, listed) :: rest)
      (held : touch = listed ∨ seen.touches.get? key = some touch)
      (check : sendCheck seen env key.1 touch = .handOver message e) :
      SendStep campaignId st (.raise run)
        { st with runs := st.runs.set run r.next, log := st.log ++ [⟨key, false⟩] }
  -- the sender returned: the touch and the enrollment are written, not committed
  | deliver {run r key listed rest touch seen env message e result}
      (found : st.runs.get? run = some r)
      (idle : r.delivered = none) (page : r.page = (key, listed) :: rest)
      (held : touch = listed ∨ seen.touches.get? key = some touch)
      (check : sendCheck seen env key.1 touch = .handOver message e) :
      SendStep campaignId st (.deliver run result)
        { st with
          runs := st.runs.set run
            (r.deliver result (advanceEnrollment seen e key.2 result.sentAt))
          log := st.log ++ [⟨key, true⟩] }
  | commit {run r key listed rest result e row} (found : st.runs.get? run = some r)
      (page : r.page = (key, listed) :: rest) (delivered : r.delivered = some (result, .ok e))
      (logged : st.db.touches.get? key = some row) :
      SendStep campaignId st (.commit run)
        { st with
          db := (st.db.storeTouch key (row.delivered result)).writeAdvance e
          runs := st.runs.set run r.next }
  -- an error after the delivery, such as a refused advance
  | rollback {run r} (found : st.runs.get? run = some r) :
      SendStep campaignId st (.rollback run) { st with runs := st.runs.set run r.next }
  -- the run ends, at its limit, at its last page or in a crash
  | stop {run r} (found : st.runs.get? run = some r) :
      SendStep campaignId st (.stop run) { st with runs := st.runs.erase run }
  -- nothing else writes a sending time
  | others {db'} (sentAt : ∀ key, (db'.touches.get? key).bind TouchLog.sentAt =
        (st.db.touches.get? key).bind TouchLog.sentAt) :
      SendStep campaignId st (.others db') { st with db := db' }

/-- A page is selected only while no other run still has one of its touches, and a run whose sender
    returned neither rolls back nor ends before its commit. -/
def SendGuard (campaignId : CampaignId) (st : SendState) : SendLabel → Prop
  | .select run limit => ∀ r, st.runs.get? run = some r →
      ∀ other r', other ≠ run → st.runs.get? other = some r' →
        ∀ key ∈ (duePage st.db campaignId limit r.afterTouchId).map Prod.fst,
          key ∉ r'.page.map Prod.fst
  | .rollback run => ∀ r, st.runs.get? run = some r → r.delivered = none
  | .stop run => ∀ r, st.runs.get? run = some r → r.delivered = none
  | _ => True

/-! ## Runs as workers of a pool -/

/-- The touch was sent, as far as the database knows. -/
def Sent (db : Database) (key : TouchKey) : Prop :=
  ((db.touches.get? key).bind TouchLog.sentAt).isSome = true

/-- The touches a run may still hand over. -/
def SendRun.keys (r : SendRun) : Set TouchKey := {key | key ∈ r.page.map Prod.fst}

/-- The touch a run has delivered and not committed. -/
def SendRun.uncommitted (r : SendRun) : Set TouchKey :=
  {key | r.delivered.isSome = true ∧ r.page.head?.map Prod.fst = some key}

/-- The touches the sender returned for, in order. -/
def deliveries (log : List Invocation) : List TouchKey :=
  (log.filter Invocation.delivered).map Invocation.key

def SendState.pool (st : SendState) : Pool TouchKey RunId where
  recorded := {key | Sent st.db key}
  held run := ((st.runs.get? run).map SendRun.keys).getD ∅
  pending run := ((st.runs.get? run).map SendRun.uncommitted).getD ∅
  performed := deliveries st.log

variable {campaignId : CampaignId} {st st' : SendState} {run : RunId} {r r' : SendRun}
  {db : Database} {key : TouchKey} {listed : TouchLog} {rest : List (TouchKey × TouchLog)}

/-- Writing one run changes what that run holds and no more. -/
lemma pool_set (db : Database) (runs : Dict RunId SendRun) (log : List Invocation) :
    SendState.pool { db := db, runs := runs.set run r', log := log } =
      { SendState.pool { db := db, runs := runs, log := log } with
        held := Function.update (SendState.pool { db := db, runs := runs, log := log }).held run r'.keys
        pending := Function.update (SendState.pool { db := db, runs := runs, log := log }).pending run
          r'.uncommitted } := by
  ext other
  · rfl
  · cases eq_or_ne other run with
    | inl same => simp [SendState.pool, same]
    | inr ne => simp [SendState.pool, ne]
  · cases eq_or_ne other run with
    | inl same => simp [SendState.pool, same]
    | inr ne => simp [SendState.pool, ne]
  · rfl

lemma held_eq (found : st.runs.get? run = some r) : st.pool.held run = r.keys := by
  simp [SendState.pool, found]

lemma pending_eq (found : st.runs.get? run = some r) : st.pool.pending run = r.uncommitted := by
  simp [SendState.pool, found]

lemma uncommitted_idle (idle : r.delivered = none) : r.uncommitted = ∅ := by
  simp [SendRun.uncommitted, idle]

lemma uncommitted_next : r.next.uncommitted = ∅ := uncommitted_idle rfl

lemma keys_next_subset : r.next.keys ⊆ r.keys := by
  intro key mem
  exact ((List.tail_sublist _).map _).subset mem

/-- Dropping the first touch of a page leaves the others. -/
lemma keys_next (page : r.page = (key, listed) :: rest) : r.next.keys = r.keys \ {key} := by
  have nodup := r.nodup
  rw [page, List.map_cons, List.nodup_cons] at nodup
  ext key'
  simp only [SendRun.keys, SendRun.next, page, List.tail_cons, List.map_cons, List.mem_cons,
    Set.mem_ofPred_eq, Set.mem_sdiff, Set.mem_singleton_iff]
  constructor
  · intro mem
    refine ⟨.inr mem, fun same => nodup.1 (same ▸ mem)⟩
  · rintro ⟨same | mem, ne⟩
    · exact absurd same ne
    · exact mem

lemma key_mem_keys (page : r.page = (key, listed) :: rest) : key ∈ r.keys := by
  simp [SendRun.keys, page]

lemma sent_writeStatus {e : Enrollment} : Sent (db.writeStatus e) = Sent db := by
  rw [Database.writeStatus]
  split
  · rfl
  · rfl

lemma sent_writeAdvance {e : Enrollment} : Sent (db.writeAdvance e) = Sent db := by
  rw [Database.writeAdvance]
  split
  · rfl
  · rfl

lemma sent_delivered {row : TouchLog} {result : SendResult} {key' : TouchKey} :
    Sent (db.storeTouch key (row.delivered result)) key' ↔ Sent db key' ∨ key' = key := by
  simp only [Sent, Database.storeTouch, Dict.get?_set]
  split
  · rename_i same
    simp [TouchLog.delivered, same]
  · rename_i ne
    simp [ne]

/-- The pool reads the sending times of the database and no more. -/
lemma pool_db {db' : Database} (same : Sent db' = Sent db) (runs : Dict RunId SendRun)
    (log : List Invocation) :
    SendState.pool { db := db', runs := runs, log := log } =
      SendState.pool { db := db, runs := runs, log := log } := by
  simp only [SendState.pool, same]

/-- A run that is done with a touch it did not deliver gives the touch back. -/
lemma next_releases (found : st.runs.get? run = some r) (idle : r.delivered = none)
    (log : List Invocation) (same : deliveries log = deliveries st.log) :
    PoolStep st.pool (.release run r.next.keys)
      (SendState.pool { db := st.db, runs := st.runs.set run r.next, log := log }) := by
  have pending : Function.update st.pool.pending run r.next.uncommitted = st.pool.pending := by
    rw [uncommitted_next, ← uncommitted_idle idle, ← pending_eq found, Function.update_eq_self]
  have eq : SendState.pool { db := st.db, runs := st.runs.set run r.next, log := log } =
      { st.pool with held := Function.update st.pool.held run r.next.keys } := by
    rw [pool_set]
    ext1
    · rfl
    · rfl
    · exact pending
    · exact same
  rw [eq]
  refine .release ?_ ?_
  · rw [held_eq found]
    exact keys_next_subset
  · rw [pending_eq found, uncommitted_idle idle]
    exact Set.empty_subset _

lemma not_sent_of_due {limit : ℕ} {afterTouchId : TouchId}
    (mem : key ∈ (duePage db campaignId limit afterTouchId).map Prod.fst) : ¬ Sent db key := by
  obtain ⟨⟨key', touch⟩, listed, same⟩ := List.mem_map.mp mem
  cases same
  have mem := List.mem_of_mem_take listed
  simp only [mem_sortBy, List.mem_filter, decide_eq_true_eq, isSendable] at mem
  obtain ⟨listed, sendable, _⟩ := mem
  rw [Sent, (Dict.mem_items_iff _).mp listed, Option.bind_some, sendable.2.1]
  exact Bool.false_ne_true

lemma uncommitted_deliver {result : SendResult} {advanced : Except Refused Enrollment}
    (page : r.page = (key, listed) :: rest) : (r.deliver result advanced).uncommitted = {key} := by
  ext key'
  simp [SendRun.uncommitted, SendRun.deliver, page, eq_comm]

lemma uncommitted_of_delivered {delivered : SendResult × Except Refused Enrollment}
    (page : r.page = (key, listed) :: rest) (h : r.delivered = some delivered) :
    r.uncommitted = {key} := by
  ext key'
  simp [SendRun.uncommitted, h, page, eq_comm]

/-- A page of unsent touches that no other run has is reserved. -/
lemma select_reserves {limit : ℕ} (found : st.runs.get? run = some r) (done : r.page = [])
    (idle : r.delivered = none) (guard : SendGuard campaignId st (.select run limit)) :
    PoolStep st.pool (.reserve run (r.withPage st.db campaignId limit).keys)
      (SendState.pool { st with
        runs := st.runs.set run (r.withPage st.db campaignId limit) }) := by
  have empty : r.keys = ∅ := by simp [SendRun.keys, done]
  have pending : Function.update st.pool.pending run
      (r.withPage st.db campaignId limit).uncommitted = st.pool.pending := by
    rw [uncommitted_idle rfl, ← uncommitted_idle idle, ← pending_eq found, Function.update_eq_self]
  have eq : SendState.pool { st with
        runs := st.runs.set run (r.withPage st.db campaignId limit) } =
      { st.pool with
        held := Function.update st.pool.held run
          (st.pool.held run ∪ (r.withPage st.db campaignId limit).keys) } := by
    rw [pool_set, held_eq found, empty, Set.empty_union]
    ext1
    · rfl
    · rfl
    · exact pending
    · rfl
  rw [eq]
  refine .reserve ?_ ?_
  · exact Set.disjoint_left.mpr fun key mem sent => not_sent_of_due mem sent
  · intro other ne
    refine Set.disjoint_left.mpr fun key mem held => ?_
    cases found' : st.runs.get? other with
    | none => simp [SendState.pool, found'] at held
    | some r' =>
      rw [held_eq found'] at held
      exact guard r found other r' ne found' key mem held

/-- The sender is handed a touch that the run holds. -/
lemma deliver_performs {result : SendResult} {advanced : Except Refused Enrollment}
    (found : st.runs.get? run = some r) (idle : r.delivered = none)
    (page : r.page = (key, listed) :: rest) :
    PoolStep st.pool (.perform run key)
      (SendState.pool { st with
        runs := st.runs.set run (r.deliver result advanced), log := st.log ++ [⟨key, true⟩] }) := by
  have pending : st.pool.pending run = ∅ := by rw [pending_eq found, uncommitted_idle idle]
  have eq : SendState.pool { st with
        runs := st.runs.set run (r.deliver result advanced), log := st.log ++ [⟨key, true⟩] } =
      { st.pool with
        pending := Function.update st.pool.pending run (insert key (st.pool.pending run))
        performed := st.pool.performed ++ [key] } := by
    have held : Function.update st.pool.held run (r.deliver result advanced).keys =
        st.pool.held := by
      rw [show (r.deliver result advanced).keys = r.keys from rfl, ← held_eq found,
        Function.update_eq_self]
    rw [pool_set, uncommitted_deliver page, pending, insert_empty_eq]
    ext1
    · rfl
    · exact held
    · rfl
    · simp [SendState.pool, deliveries]
  rw [eq]
  refine .perform ?_ ?_
  · rw [held_eq found]
    exact key_mem_keys page
  · rw [pending]
    exact Set.notMem_empty key

lemma commit_records {result : SendResult} {e : Enrollment} {row : TouchLog}
    (found : st.runs.get? run = some r) (page : r.page = (key, listed) :: rest)
    (delivered : r.delivered = some (result, .ok e)) :
    PoolStep st.pool (.record run)
      (SendState.pool { st with
        db := (st.db.storeTouch key (row.delivered result)).writeAdvance e
        runs := st.runs.set run r.next }) := by
  have pending : st.pool.pending run = {key} := by
    rw [pending_eq found, uncommitted_of_delivered page delivered]
  have recorded : {key' | Sent ((st.db.storeTouch key (row.delivered result)).writeAdvance e) key'} =
      st.pool.recorded ∪ {key} := by
    ext key'
    rw [sent_writeAdvance]
    exact sent_delivered
  have eq : SendState.pool { st with
        db := (st.db.storeTouch key (row.delivered result)).writeAdvance e
        runs := st.runs.set run r.next } =
      { st.pool with
        recorded := st.pool.recorded ∪ st.pool.pending run
        held := Function.update st.pool.held run (st.pool.held run \ st.pool.pending run)
        pending := Function.update st.pool.pending run ∅ } := by
    rw [pool_set, pending, held_eq found, ← keys_next page, uncommitted_next]
    ext1
    · exact recorded
    · rfl
    · rfl
    · rfl
  rw [eq]
  exact .record

lemma stop_releases (found : st.runs.get? run = some r) (idle : r.delivered = none) :
    PoolStep st.pool (.release run ∅)
      (SendState.pool { st with runs := st.runs.erase run }) := by
  have pending : st.pool.pending run = ∅ := by rw [pending_eq found, uncommitted_idle idle]
  have eq : SendState.pool { st with runs := st.runs.erase run } =
      { st.pool with held := Function.update st.pool.held run ∅ } := by
    ext other
    · rfl
    · cases eq_or_ne other run with
      | inl same => simp [SendState.pool, same]
      | inr ne => simp [SendState.pool, ne]
    · cases eq_or_ne other run with
      | inl same =>
        subst same
        rw [pending]
        simp [SendState.pool]
      | inr ne => simp [SendState.pool, ne]
    · rfl
  rw [eq]
  refine .release (Set.empty_subset _) ?_
  rw [pending]

/-- Every step that meets the condition is a run of the pool. -/
theorem SendStep.simulates {label : SendLabel} (step : SendStep campaignId st label st')
    (guard : SendGuard campaignId st label) : ∃ moves, Run PoolStep st.pool moves st'.pool := by
  cases step with
  | @start run new =>
    have eq : SendState.pool { st with
        runs := st.runs.set run { page := [], nodup := List.nodup_nil } } = st.pool := by
      have held : st.pool.held run = ∅ := by simp [SendState.pool, new]
      have pending : st.pool.pending run = ∅ := by simp [SendState.pool, new]
      rw [pool_set]
      ext1
      · rfl
      · exact Function.update_eq_iff.mpr ⟨by simp [SendRun.keys, ← held], fun _ _ => rfl⟩
      · exact Function.update_eq_iff.mpr ⟨by simp [SendRun.uncommitted, ← pending], fun _ _ => rfl⟩
      · rfl
    rw [eq]
    exact ⟨[], .nil⟩
  | select found done idle => exact ⟨_, .single (select_reserves found done idle guard)⟩
  | refuse found idle page held check =>
    exact ⟨_, .single (next_releases found idle st.log rfl)⟩
  | @block run r key listed rest touch seen env reason stopped found idle page held check =>
    have same : Sent (stopped.elim st.db st.db.writeStatus) = Sent st.db := by
      cases stopped with
      | none => rfl
      | some e => exact sent_writeStatus
    rw [pool_db same]
    exact ⟨_, .single (next_releases found idle st.log rfl)⟩
  | raise found idle page held check =>
    refine ⟨_, .single (next_releases found idle _ ?_)⟩
    simp [deliveries]
  | deliver found idle page held check => exact ⟨_, .single (deliver_performs found idle page)⟩
  | commit found page delivered logged =>
    exact ⟨_, .single (commit_records found page delivered)⟩
  | rollback found => exact ⟨_, .single (next_releases found (guard _ found) st.log rfl)⟩
  | stop found => exact ⟨_, .single (stop_releases found (guard _ found))⟩
  | others sentAt =>
    have same := funext fun key => congrArg (fun s => s.isSome = true) (sentAt key)
    rw [pool_db same]
    exact ⟨[], .nil⟩

/-! ## At most once -/

abbrev SendGuarded (campaignId : CampaignId) :=
  Guarded (SendGuard campaignId) (SendStep campaignId)

lemma pool_start (db : Database) : Exclusive (SendState.pool { db := db }) where
  fresh run := by simp [SendState.pool]
  apart run run' _ := by simp [SendState.pool]
  own run := by simp [SendState.pool]
  nodup := List.nodup_nil
  kept key done := by cases done

def approvedTouch : TouchLog where
  touchId := 1
  messageId := some "m1"

def approvedMessage : OutreachMessage where
  campaignId := 1
  clientId := 5
  status := .approved

def waiting : Enrollment where
  enrollmentId := 7
  campaignId := 1
  clientId := 5
  enrolledAt := 0

/-- One touch of one client, approved and not sent. -/
def oneApproved : Database where
  campaigns := .ofList [(1, { status := .running })]
  steps := .ofList [((1, 1), { offsetDays := 0 })]
  enrollments := .ofList [(7, waiting)]
  touches := .ofList [((7, 1), approvedTouch)]
  nextTouchId := 2
  messages := .ofList [("m1", approvedMessage)]
  vault := .ofList [(5, { contactEmail := some "a@example.com", contactPhone := none })]

def liveDay : Env where
  deliveryMode := .live
  now := microsecondsPerDay
  today := 1
  dateOf instant := instant / microsecondsPerDay

def sentNow : SendResult where
  deliveryStatus := "sent"
  sentAt := microsecondsPerDay

lemma oneApproved_handOver :
    sendCheck oneApproved liveDay 7 approvedTouch = .handOver approvedMessage waiting := rfl

lemma guard_alone {st : SendState} {r₁ : SendRun} {limit : ℕ}
    (alone : st.runs = Dict.empty.set run r₁) : SendGuard campaignId st (.select run limit) := by
  intro r _ other r' ne found'
  rw [alone, Dict.get?_set_ne _ _ ne] at found'
  cases found'

/-- One run from start to end. -/
lemma oneApproved_run : ∃ st, Run (SendGuarded 1) { db := oneApproved }
    [.start 1, .select 1 10, .deliver 1 sentNow, .commit 1, .stop 1] st ∧
      deliveries st.log = [(7, 1)] := by
  refine ⟨_, .snoc (.snoc (.snoc (.snoc (.snoc .nil ⟨trivial, .start rfl⟩)
    ⟨guard_alone rfl, .select rfl rfl rfl⟩) ⟨trivial, .deliver rfl rfl rfl (.inl rfl)
    oneApproved_handOver⟩) ⟨trivial, .commit rfl rfl rfl rfl⟩) ⟨?_, .stop rfl⟩, rfl⟩
  intro r found
  cases found
  rfl

end ClientEngagement.Campaigns
