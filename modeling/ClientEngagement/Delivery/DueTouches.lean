import ClientEngagement.Delivery.Dispatch

/-!
# A run over the due touches

Model of `send_due_touches` with `send_touch` (`campaigns/touch.py`), for any sender, with other sessions at work in
between. The loop pages by the id of the last touch it came to. A turn reports what it committed (`turned`), a page is
sorted and lies behind that id (`paged`), and a page that does not reach the limit is attempted to its end
(`batched`), so that a run ends, comes to each touch once, and misses none that was due all along
(`due_touches_attempted`).
-/

namespace ClientEngagement.Delivery
open Campaigns

/-- The touches are numbered from one to `last`, each its own number. -/
structure Numbered (last : TouchId) (db : Database) : Prop where
  within : ∀ key touch, db.touches.get? key = some touch → 0 < touch.touchId ∧ touch.touchId ≤ last
  apart : ∀ key key' touch touch', db.touches.get? key = some touch → db.touches.get? key' = some touch' →
    touch.touchId = touch'.touchId → key = key'

/-- Touches stay on file under their numbers. -/
def KeepsTouches (db db' : Database) : Prop :=
  ∀ key touch, db.touches.get? key = some touch →
    (db'.touches.get? key).map TouchLog.touchId = some touch.touchId

/-- What a sender does with the message of the n-th step of a run. -/
abbrev Sender := ℕ → SenderFn

/-- Where a run takes place. Its queries and attempts are numbered. -/
structure Surroundings where
  sender : Sender
  senders : Dict String Sender := .empty
  env : ℕ → Campaigns.Env
  /-- What the session's own reads show it of the tables. -/
  seen : ℕ → Database → Database
  /-- Whether a listed touch has been read again, as after a rollback. -/
  reread : ℕ → Bool
  /-- Whether a step after the delivery raises. -/
  raises : ℕ → Bool
  /-- What other sessions have committed by then. -/
  others : ℕ → Database → Database
  last : TouchId
  kept : ∀ n db, KeepsTouches db (others n db)
  numbered : ∀ n db, Numbered last db → Numbered last (others n db)

/-! ## One touch -/

/-- How the attempt to send a touch ends, with what is committed. -/
inductive TouchSend where
  | sent (result : SendResult) (db : Database)
  | blocked (reason : Option String) (db : Database)
  | failed

/-- `send_touch` with the commit or the rollback that follows it. -/
def sendTouch (w : Surroundings) (sendFn : Sender) (n : ℕ) (db : Database) (key : TouchKey) (touch : TouchLog) :
    TouchSend :=
  match sendCheck (w.seen n db) (w.env n) key.1 touch with
  | .failure _ => .failed
  | .blocked reason stopped => .blocked reason (stopped.elim db db.writeStatus)
  | .handOver message e =>
    match sendFn n message with
    | .failed => .failed
    | .blocked reason => .blocked reason db
    | .sent result =>
      match db.touches.get? key with
      -- the flush finds no row to write
      | none => .failed
      | some row =>
        match advanceEnrollment (w.seen n db) e key.2 result.sentAt with
        | .error _ => .failed
        | .ok advanced =>
          if w.raises n then .failed
          else .sent result ((db.storeTouch key (row.delivered result)).writeAdvance advanced)

/-! ## The loops -/

/-- An attempt on file: what it found committed and what it left. -/
structure TouchAttempt where
  key : TouchKey
  touchId : TouchId
  found : Database
  left : Database

structure DueRun where
  db : Database
  outcomes : List SendOutcome := []
  sent : ℕ := 0
  afterTouchId : TouchId := 0
  steps : ℕ := 0
  attempts : List TouchAttempt := []
  queried : List Database := []

/-- The sender of a touch's channel, as the page listed it. -/
def sendFnFor (w : Surroundings) (page : Database) (touch : TouchLog) : Sender :=
  (((touch.messageId.bind page.messages.get?).map OutreachMessage.channel).bind w.senders.get?).getD w.sender

/-- The run after an attempt. -/
def DueRun.record (run : DueRun) (attempt : TouchAttempt) (outcome : SendOutcome) : DueRun :=
  { run with
    db := attempt.left
    outcomes := run.outcomes ++ [outcome]
    afterTouchId := attempt.touchId
    steps := run.steps + 1
    attempts := run.attempts ++ [attempt] }

/-- The touch a turn holds: as listed, or as read again. -/
def heldTouch (w : Surroundings) (run : DueRun) (key : TouchKey) (listed : TouchLog) : TouchLog :=
  if w.reread run.steps then ((w.others run.steps run.db).touches.get? key).getD listed else listed

/-- One turn of the loop over a page. -/
def DueRun.turn (w : Surroundings) (page : Database) (run : DueRun) (key : TouchKey) (listed : TouchLog) : DueRun :=
  let db := w.others run.steps run.db
  let touch := heldTouch w run key listed
  match sendTouch w (sendFnFor w page listed) run.steps db key touch with
  | .failed =>
    run.record ⟨key, touch.touchId, db, db⟩
      { touchId := touch.touchId, enrollmentId := key.1, sent := false, reason := some "send_error" }
  | .blocked reason left =>
    run.record ⟨key, touch.touchId, db, left⟩
      { touchId := touch.touchId, enrollmentId := key.1, sent := false, reason := reason }
  | .sent result left =>
    let run := run.record ⟨key, touch.touchId, db, left⟩
      { touchId := touch.touchId, enrollmentId := key.1, sent := true, deliveryStatus := some result.deliveryStatus }
    { run with sent := run.sent + 1 }

/-- The loop over a page. -/
def sendBatch (w : Surroundings) (limit : ℕ) (page : Database) (run : DueRun) :
    List (TouchKey × TouchLog) → DueRun
  | [] => run
  | (key, listed) :: rest =>
    let run := run.turn w page key listed
    if limit ≤ run.sent then run else sendBatch w limit page run rest

/-- The run once it has queried for its next page. -/
def DueRun.query (w : Surroundings) (run : DueRun) : DueRun :=
  { run with
    db := w.others run.steps run.db
    steps := run.steps + 1
    queried := run.queried ++ [w.others run.steps run.db] }

/-- `send_due_touches`, the loop over the pages. -/
def sendDueTouches (w : Surroundings) (campaignId : CampaignId) (limit : ℕ) : ℕ → DueRun → Option DueRun
  | 0, _ => none
  | fuel + 1, run =>
    if limit ≤ run.sent then some run
    else
      let run := run.query w
      let batch := duePage run.db campaignId limit run.afterTouchId
      if batch.isEmpty then some run
      else
        let run := sendBatch w limit run.db run batch
        if batch.length < max limit defaultBatchLimit then some run
        else sendDueTouches w campaignId limit fuel run

/-! ## What is promised -/

/-- The touch meets the condition of the page query. -/
def IsDue (campaignId : CampaignId) (db : Database) (key : TouchKey) (touchId : TouchId) : Prop :=
  ∃ touch, db.touches.get? key = some touch ∧ touch.touchId = touchId ∧ isSendable db campaignId key touch = true

/-- An outcome says of its attempt what was committed. -/
structure Reported (attempt : TouchAttempt) (outcome : SendOutcome) : Prop where
  touchId : outcome.touchId = attempt.touchId
  enrollmentId : outcome.enrollmentId = attempt.key.1
  sent : outcome.sent = true → ∃ row result, attempt.found.touches.get? attempt.key = some row ∧
    attempt.left.touches = attempt.found.touches.set attempt.key (row.delivered result)
  notSent : outcome.sent = false → attempt.left.touches = attempt.found.touches
  committed : ¬ Sent attempt.found attempt.key → (outcome.sent = true ↔ Sent attempt.left attempt.key)

def sentCount (outcomes : List SendOutcome) : ℕ := outcomes.countP SendOutcome.sent

/-- A run neither starves nor repeats. -/
structure NeitherStarvesNorRepeats (campaignId : CampaignId) (limit : ℕ) (run : DueRun) : Prop where
  increasing : (run.attempts.map TouchAttempt.touchId).Pairwise (· < ·)
  reported : List.Forall₂ Reported run.attempts run.outcomes
  atMost : sentCount run.outcomes ≤ limit
  queried : run.queried ≠ []
  attempted : sentCount run.outcomes < limit → ∀ key touchId, (∀ db ∈ run.queried, IsDue campaignId db key touchId) →
    ∃ attempt ∈ run.attempts, attempt.key = key ∧ attempt.touchId = touchId

/-! ## One turn -/

variable {w : Surroundings} {run run' : DueRun} {key : TouchKey} {listed touch : TouchLog} {sendFn : Sender} {n : ℕ}
  {db db' page : Database} {campaignId : CampaignId} {limit fuel : ℕ} {batch rest : List (TouchKey × TouchLog)}
  {last touchId : TouchId}

lemma KeepsTouches.trans {db'' : Database} (keeps : KeepsTouches db db') (keeps' : KeepsTouches db' db'') :
    KeepsTouches db db'' := by
  intro key touch found
  obtain ⟨touch', found', same⟩ := Option.map_eq_some_iff.mp (keeps key touch found)
  rw [keeps' key touch' found', same]

lemma KeepsTouches.of_eq (same : db'.touches = db.touches) : KeepsTouches db db' := by
  intro key touch found
  rw [same, found]
  rfl

lemma KeepsTouches.onFile (keeps : KeepsTouches db db') (onFile : Listed db batch) : Listed db' batch := by
  intro t mem
  obtain ⟨touch, found, same⟩ := Option.map_eq_some_iff.mp (onFile t mem)
  rw [keeps t.1 touch found, same]

/-- What keeps the touches of a database and adds none keeps their numbers. -/
lemma Numbered.of_same (numbered : Numbered last db)
    (same : ∀ key, (db'.touches.get? key).map TouchLog.touchId = (db.touches.get? key).map TouchLog.touchId) :
    Numbered last db' := by
  have before : ∀ {key touch}, db'.touches.get? key = some touch →
      ∃ touch', db.touches.get? key = some touch' ∧ touch'.touchId = touch.touchId := by
    intro key touch found
    have listed := same key
    rw [found] at listed
    exact Option.map_eq_some_iff.mp listed.symm
  constructor
  · intro key touch found
    obtain ⟨touch', found', number⟩ := before found
    rw [← number]
    exact numbered.within key touch' found'
  · intro key key' a b found found' number
    obtain ⟨a', stored, own⟩ := before found
    obtain ⟨b', stored', own'⟩ := before found'
    exact numbered.apart key key' a' b' stored stored' (own.trans (number.trans own'.symm))

lemma touches_writeStatus {e : Enrollment} : (db.writeStatus e).touches = db.touches := by
  rw [Database.writeStatus]
  split
  · rfl
  · rfl

lemma touches_writeAdvance {e : Enrollment} : (db.writeAdvance e).touches = db.touches := by
  rw [Database.writeAdvance]
  split
  · rfl
  · rfl

/-- What an attempt commits to the touches. -/
inductive Committed (db : Database) (key : TouchKey) : TouchSend → Prop where
  | failed : Committed db key .failed
  | blocked {reason left} (same : left.touches = db.touches) : Committed db key (.blocked reason left)
  | sent {result left row} (found : db.touches.get? key = some row)
      (written : left.touches = db.touches.set key (row.delivered result)) : Committed db key (.sent result left)

lemma committed_sendTouch (w : Surroundings) (sendFn : Sender) (n : ℕ) (db : Database) (key : TouchKey)
    (touch : TouchLog) : Committed db key (sendTouch w sendFn n db key touch) := by
  rw [sendTouch]
  cases sendCheck (w.seen n db) (w.env n) key.1 touch with
  | failure _ => exact .failed
  | blocked _ stopped =>
    cases stopped with
    | none => exact .blocked rfl
    | some e => exact .blocked touches_writeStatus
  | handOver message e =>
    dsimp only
    cases sendFn n message with
    | failed => exact .failed
    | blocked _ => exact .blocked rfl
    | sent result =>
      dsimp only
      cases found : db.touches.get? key with
      | none => exact .failed
      | some row =>
        dsimp only
        cases advanceEnrollment (w.seen n db) e key.2 result.sentAt with
        | error _ => exact .failed
        | ok advanced =>
          dsimp only
          split
          · exact .failed
          · exact .sent found touches_writeAdvance

/-- What one turn does to a run. -/
structure Turned (w : Surroundings) (run : DueRun) (key : TouchKey) (touchId : TouchId) (run' : DueRun) : Prop where
  after : run'.afterTouchId = touchId
  filed : ∃ attempt outcome, attempt.key = key ∧ attempt.touchId = touchId ∧ Reported attempt outcome ∧
    run'.attempts = run.attempts ++ [attempt] ∧ run'.outcomes = run.outcomes ++ [outcome] ∧
    run'.sent = run.sent + if outcome.sent then 1 else 0
  queried : run'.queried = run.queried
  numbers : ∀ key, (run'.db.touches.get? key).map TouchLog.touchId =
    ((w.others run.steps run.db).touches.get? key).map TouchLog.touchId

/-- A touch read again has the number it was listed with. -/
lemma touchId_heldTouch (stored : (run.db.touches.get? key).map TouchLog.touchId = some listed.touchId) :
    (heldTouch w run key listed).touchId = listed.touchId := by
  obtain ⟨touch, found, same⟩ := Option.map_eq_some_iff.mp stored
  obtain ⟨touch', found', same'⟩ := Option.map_eq_some_iff.mp (w.kept run.steps run.db key touch found)
  rw [heldTouch, found']
  split
  · exact same'.trans same
  · rfl

lemma turned (w : Surroundings) (page : Database)
    (stored : (run.db.touches.get? key).map TouchLog.touchId = some listed.touchId) :
    Turned w run key listed.touchId (run.turn w page key listed) := by
  have held := touchId_heldTouch (w := w) stored
  have unwritten : ∀ {touchId : TouchId} {left : Database} {outcome : SendOutcome},
      left.touches = (w.others run.steps run.db).touches → outcome.touchId = touchId → outcome.enrollmentId = key.1 →
        outcome.sent = false → Reported ⟨key, touchId, w.others run.steps run.db, left⟩ outcome := by
    intro touchId left outcome same number enrollment unsent
    refine ⟨number, enrollment, fun sent => ?_, fun _ => same, fun fresh => ?_⟩
    · rw [unsent] at sent
      cases sent
    · refine ⟨fun sent => ?_, fun sent => ?_⟩
      · rw [unsent] at sent
        cases sent
      · rw [Sent, same] at sent
        exact absurd sent fresh
  have ended := committed_sendTouch w (sendFnFor w page listed) run.steps (w.others run.steps run.db) key
    (heldTouch w run key listed)
  rw [DueRun.turn]
  dsimp only
  generalize sendTouch w (sendFnFor w page listed) run.steps (w.others run.steps run.db) key
    (heldTouch w run key listed) = result at ended ⊢
  cases ended with
  | failed => exact ⟨held, ⟨_, _, rfl, held, unwritten rfl rfl rfl rfl, rfl, rfl, rfl⟩, rfl, fun _ => rfl⟩
  | blocked same =>
    refine ⟨held, ⟨_, _, rfl, held, unwritten same rfl rfl rfl, rfl, rfl, rfl⟩, rfl, fun other => ?_⟩
    exact congrArg (fun touches => (Dict.get? touches other).map TouchLog.touchId) same
  | @sent result left row found written =>
    have sent : Sent left key := by
      rw [Sent, written, Dict.get?_set_self]
      rfl
    have reported : Reported ⟨key, (heldTouch w run key listed).touchId, w.others run.steps run.db, left⟩
        { touchId := (heldTouch w run key listed).touchId, enrollmentId := key.1, sent := true,
          deliveryStatus := some result.deliveryStatus } :=
      ⟨rfl, rfl, fun _ => ⟨row, result, found, written⟩, fun unsent => absurd unsent (Ne.symm Bool.false_ne_true), fun _ => ⟨fun _ => sent, fun _ => rfl⟩⟩
    refine ⟨held, ⟨_, _, rfl, held, reported, rfl, rfl, rfl⟩, rfl, fun other => ?_⟩
    show (left.touches.get? other).map TouchLog.touchId = _
    rw [written, Dict.get?_set]
    split
    · rename_i own
      rw [own, found]
      rfl
    · rfl

/-! ## A page -/

/-- What a page has of the due touches behind a touch id. -/
structure Paged (campaignId : CampaignId) (limit : ℕ) (afterTouchId : TouchId) (db : Database)
    (batch : List (TouchKey × TouchLog)) : Prop where
  onFile : Listed db batch
  ascending : batch.Pairwise fun t later => t.2.touchId < later.2.touchId
  behind : ∀ t ∈ batch, afterTouchId < t.2.touchId
  due : ∀ key touchId, IsDue campaignId db key touchId → afterTouchId < touchId →
    (batch.length < max limit defaultBatchLimit ∨ ∃ t ∈ batch, touchId ≤ t.2.touchId) →
      ∃ t ∈ batch, t.1 = key ∧ t.2.touchId = touchId

lemma paged (numbered : Numbered last db) (campaignId : CampaignId) (limit : ℕ) (afterTouchId : TouchId) :
    Paged campaignId limit afterTouchId db (duePage db campaignId limit afterTouchId) := by
  have cut : ∃ due : List (TouchKey × TouchLog),
      duePage db campaignId limit afterTouchId = due.take (max limit defaultBatchLimit) ∧
      (∀ t, t ∈ due ↔ db.touches.get? t.1 = some t.2 ∧ isSendable db campaignId t.1 t.2 = true ∧
        afterTouchId < t.2.touchId) ∧
      due.Pairwise fun t later => t.2.touchId < later.2.touchId := by
    refine ⟨_, rfl, fun t => ?_, ?_⟩
    · rw [mem_sortBy, List.mem_filter, Dict.mem_items_iff, decide_eq_true_eq]
    · have sorted := sortBy_pairwise (fun t : TouchKey × TouchLog => t.2.touchId)
        (db.touches.items.filter fun (key, touch) => isSendable db campaignId key touch ∧
          afterTouchId < touch.touchId)
      have nodup : (sortBy (fun t : TouchKey × TouchLog => t.2.touchId)
          (db.touches.items.filter fun (key, touch) => isSendable db campaignId key touch ∧
            afterTouchId < touch.touchId)).Nodup :=
        (sortBy_perm _ _).nodup_iff.mpr ((List.Nodup.of_map _ db.touches.nodup).filter _)
      refine (sorted.and nodup).imp_of_mem fun {t later} mem mem' ⟨le, ne⟩ => lt_of_le_of_ne le fun same => ne ?_
      rw [mem_sortBy, List.mem_filter, Dict.mem_items_iff] at mem mem'
      have key := numbered.apart t.1 later.1 t.2 later.2 mem.1 mem'.1 same
      refine Prod.ext key (Option.some.inj ?_)
      rw [← mem.1, ← mem'.1, key]
  obtain ⟨due, page, mem_due, ascending⟩ := cut
  refine ⟨listed_duePage, ?_, fun t mem => ?_, fun key touchId isDue later reached => ?_⟩
  · rw [page]
    exact ascending.sublist (List.take_sublist _ _)
  · rw [page] at mem
    exact ((mem_due t).mp (List.mem_of_mem_take mem)).2.2
  · obtain ⟨touch, found, rfl, sendable⟩ := isDue
    have listed : (key, touch) ∈ due := (mem_due _).mpr ⟨found, sendable, later⟩
    rw [page] at reached ⊢
    rw [← List.take_append_drop (max limit defaultBatchLimit) due, List.mem_append] at listed
    rcases listed with first | rest
    · exact ⟨_, first, rfl, rfl⟩
    · rcases reached with short | ⟨t, mem, le⟩
      · rw [List.length_take] at short
        rw [List.drop_eq_nil_of_le (by omega)] at rest
        cases rest
      · rw [← List.take_append_drop (max limit defaultBatchLimit) due, List.pairwise_append] at ascending
        exact absurd le (not_le_of_gt (ascending.2.2 t mem _ rest))

/-! ## The loop over a page -/

/-- The books of a run in progress. -/
structure DueRun.Sound (w : Surroundings) (limit : ℕ) (run : DueRun) : Prop where
  numbered : Numbered w.last run.db
  increasing : (run.attempts.map TouchAttempt.touchId).Pairwise (· < ·)
  passed : ∀ attempt ∈ run.attempts, attempt.touchId ≤ run.afterTouchId
  reported : List.Forall₂ Reported run.attempts run.outcomes
  counted : run.sent = sentCount run.outcomes
  atMost : run.sent ≤ limit

/-- The run has attempted a touch. -/
def DueRun.Attempted (run : DueRun) (key : TouchKey) (touchId : TouchId) : Prop :=
  ∃ attempt ∈ run.attempts, attempt.key = key ∧ attempt.touchId = touchId

lemma Turned.numbered (turned : Turned w run key touchId run') (numbered : Numbered w.last run.db) :
    Numbered w.last run'.db :=
  (w.numbered run.steps run.db numbered).of_same turned.numbers

lemma Turned.keeps (turned : Turned w run key touchId run') : KeepsTouches run.db run'.db := by
  intro key touch found
  rw [turned.numbers]
  exact w.kept run.steps run.db key touch found

/-- A turn to a touch behind the others keeps the books. -/
lemma DueRun.Sound.turn (sound : run.Sound w limit) (going : run.sent < limit) (behind : run.afterTouchId < touchId)
    (turned : Turned w run key touchId run') : run'.Sound w limit := by
  obtain ⟨attempt, outcome, rfl, rfl, reported, attempts, outcomes, sent⟩ := turned.filed
  have counted : run'.sent = sentCount run'.outcomes := by
    rw [sent, outcomes, sentCount, List.countP_append, List.countP_singleton, sound.counted, sentCount]
  constructor
  case numbered => exact turned.numbered sound.numbered
  case increasing =>
    rw [attempts, List.map_append, List.pairwise_append]
    refine ⟨sound.increasing, List.pairwise_singleton _ _, fun earlier mem last own => ?_⟩
    obtain ⟨before, listed, rfl⟩ := List.mem_map.mp mem
    rw [List.mem_singleton.mp own]
    exact (sound.passed before listed).trans_lt behind
  case passed =>
    rw [attempts, turned.after]
    intro before mem
    rcases List.mem_append.mp mem with earlier | own
    · exact (sound.passed before earlier).trans behind.le
    · rw [List.mem_singleton.mp own]
  case reported =>
    rw [attempts, outcomes]
    exact List.rel_append sound.reported (.cons reported .nil)
  case counted => exact counted
  case atMost =>
    rw [sent]
    split
    · exact going
    · exact going.le

/-- What the loop over a page leaves. -/
structure Batched (w : Surroundings) (limit : ℕ) (run : DueRun) (batch : List (TouchKey × TouchLog))
    (run' : DueRun) : Prop where
  sound : run'.Sound w limit
  queried : run'.queried = run.queried
  still : ∀ key touchId, run.Attempted key touchId → run'.Attempted key touchId
  -- a loop that does not reach the limit comes to the end of the page
  attempted : run'.sent < limit → ∀ t ∈ batch, run'.Attempted t.1 t.2.touchId
  after : run'.sent < limit → ∀ t ∈ batch.getLast?, run'.afterTouchId = t.2.touchId

lemma batched (page : Database) (sound : run.Sound w limit) (going : run.sent < limit)
    (onFile : Listed run.db batch) (ascending : batch.Pairwise fun t later => t.2.touchId < later.2.touchId)
    (behind : ∀ t ∈ batch, run.afterTouchId < t.2.touchId) :
    Batched w limit run batch (sendBatch w limit page run batch) := by
  induction batch generalizing run with
  | nil => exact ⟨sound, rfl, fun _ _ before => before, fun _ _ mem => (nomatch mem), fun _ _ mem => (nomatch mem)⟩
  | cons first rest ih =>
    obtain ⟨key, touch⟩ := first
    obtain ⟨least, ascending⟩ := List.pairwise_cons.mp ascending
    have turned : Turned w run key touch.touchId (run.turn w page key touch) :=
      turned w page (onFile (key, touch) (.head _))
    have sound' := sound.turn going (behind (key, touch) (.head _)) turned
    obtain ⟨attempt, outcome, own, number, -, attempts, -⟩ := turned.filed
    have here : (run.turn w page key touch).Attempted key touch.touchId := by
      refine ⟨attempt, ?_, own, number⟩
      rw [attempts]
      exact List.mem_append_right _ (.head _)
    have still : ∀ other touchId, run.Attempted other touchId →
        (run.turn w page key touch).Attempted other touchId := by
      rintro other touchId ⟨before, mem, same⟩
      refine ⟨before, ?_, same⟩
      rw [attempts]
      exact List.mem_append_left _ mem
    rw [sendBatch]
    split
    · rename_i full
      exact ⟨sound', turned.queried, still, fun going => absurd full going.not_ge,
        fun going => absurd full going.not_ge⟩
    · rename_i goes
      have rest' := ih sound' (not_le.mp goes) (turned.keeps.onFile fun t mem => onFile t (.tail _ mem)) ascending
        fun t mem => by
          rw [turned.after]
          exact least t mem
      refine ⟨rest'.sound, rest'.queried.trans turned.queried, fun _ _ before => rest'.still _ _ (still _ _ before),
        fun going t mem => ?_, fun going last mem => ?_⟩
      · rcases List.mem_cons.mp mem with rfl | later
        · exact rest'.still _ _ here
        · exact rest'.attempted going t later
      · cases rest with
        | nil =>
          cases mem
          exact turned.after
        | cons second rest => exact rest'.after going last mem

/-! ## The loop over the pages -/

/-- The run has attempted what was due up to where it is. -/
def DueRun.Complete (campaignId : CampaignId) (run : DueRun) : Prop :=
  ∀ key touchId, 0 < touchId → touchId ≤ run.afterTouchId →
    (∀ db ∈ run.queried, IsDue campaignId db key touchId) → run.Attempted key touchId

/-- A run that ended below the limit has attempted everything due all along. -/
def DueRun.Finished (campaignId : CampaignId) (limit : ℕ) (run : DueRun) : Prop :=
  run.queried ≠ [] ∧ (run.sent < limit → ∀ key touchId, (∀ db ∈ run.queried, IsDue campaignId db key touchId) →
    run.Attempted key touchId)

lemma DueRun.Sound.query (sound : run.Sound w limit) : (run.query w).Sound w limit :=
  ⟨w.numbered run.steps run.db sound.numbered, sound.increasing, sound.passed, sound.reported, sound.counted,
    sound.atMost⟩

/-- The loop over the page a query lists. -/
lemma batched_query (campaignId : CampaignId) (sound : run.Sound w limit) (going : run.sent < limit) :
    Paged campaignId limit (run.query w).afterTouchId (run.query w).db
        (duePage (run.query w).db campaignId limit (run.query w).afterTouchId) ∧
      Batched w limit (run.query w) (duePage (run.query w).db campaignId limit (run.query w).afterTouchId)
        (sendBatch w limit (run.query w).db (run.query w)
          (duePage (run.query w).db campaignId limit (run.query w).afterTouchId)) := by
  have page := paged sound.query.numbered campaignId limit (run.query w).afterTouchId
  exact ⟨page, batched _ sound.query going page.onFile page.ascending page.behind⟩

/-- What the page reaches is attempted. -/
lemma attempted_of_due (complete : run.Complete campaignId)
    (page : Paged campaignId limit (run.query w).afterTouchId (run.query w).db batch)
    (loop : Batched w limit (run.query w) batch run') (going : run'.sent < limit) (positive : 0 < touchId)
    (due : ∀ db ∈ (run.query w).queried, IsDue campaignId db key touchId)
    (reached : touchId ≤ run.afterTouchId ∨ batch.length < max limit defaultBatchLimit ∨
      ∃ t ∈ batch, touchId ≤ t.2.touchId) : run'.Attempted key touchId := by
  rcases le_or_gt touchId run.afterTouchId with passed | later
  · exact loop.still _ _ (complete key touchId positive passed fun db mem => due db (List.mem_append_left _ mem))
  · obtain ⟨t, mem, rfl, rfl⟩ := page.due key touchId (due _ (List.mem_append_right _ (.head _))) later
      (reached.resolve_left (not_le_of_gt later))
    exact loop.attempted going t mem

/-- A run that ends keeps the books, and has attempted everything due all along. -/
lemma sendDueTouches_sound (sound : run.Sound w limit) (complete : run.sent < limit → run.Complete campaignId)
    (starts : run.queried ≠ [] ∨ run.sent < limit)
    (ends : sendDueTouches w campaignId limit fuel run = some run') :
    run'.Sound w limit ∧ run'.Finished campaignId limit := by
  induction fuel generalizing run with
  | zero => cases ends
  | succ fuel ih =>
    rw [sendDueTouches] at ends
    split at ends
    · rename_i full
      cases ends
      exact ⟨sound, starts.resolve_right full.not_gt, fun going => absurd full going.not_ge⟩
    · rename_i goes
      have going := not_le.mp goes
      obtain ⟨page, loop⟩ := batched_query campaignId sound going
      have some_query : (run.query w).queried ≠ [] := List.append_ne_nil_of_right_ne_nil _ (List.cons_ne_nil _ _)
      have positive : ∀ {key touchId}, (∀ db ∈ (run.query w).queried, IsDue campaignId db key touchId) →
          0 < touchId := by
        intro key touchId due
        obtain ⟨touch, found, rfl, -⟩ := due _ (List.mem_append_right _ (.head _))
        exact (sound.query.numbered.within key touch found).1
      dsimp only at ends
      split at ends
      · rename_i nobody
        cases ends
        refine ⟨sound.query, some_query, fun below key touchId due => ?_⟩
        rw [List.isEmpty_iff.mp nobody] at page
        have nothing : Batched w limit (run.query w) [] (run.query w) :=
          batched (run.query w).db sound.query going (fun _ mem => (nomatch mem)) .nil fun _ mem => (nomatch mem)
        refine attempted_of_due (complete going) page nothing below (positive due) due (.inr (.inl ?_))
        exact lt_max_of_lt_right (by decide)
      · rename_i somebody
        split at ends
        · rename_i short
          cases ends
          refine ⟨loop.sound, ?_, fun below key touchId due => ?_⟩
          · rw [loop.queried]
            exact some_query
          · rw [loop.queried] at due
            exact attempted_of_due (complete going) page loop below (positive due) due (.inr (.inl short))
        · refine ih loop.sound (fun below key touchId positive passed due => ?_) (.inl ?_) ends
          · obtain ⟨last, tail⟩ := Option.isSome_iff_exists.mp (List.getLast?_isSome.mpr fun nobody =>
              somebody (List.isEmpty_iff.mpr nobody))
            rw [loop.queried] at due
            rw [loop.after below last tail] at passed
            exact attempted_of_due (complete going) page loop below positive due
              (.inr (.inr ⟨last, List.mem_of_getLast? tail, passed⟩))
          · rw [loop.queried]
            exact some_query

/-- A loop over the pages with a step for each number left comes to an end. -/
lemma sendDueTouches_ends (sound : run.Sound w limit) (enough : (w.last - run.afterTouchId).toNat < fuel) :
    ∃ run', sendDueTouches w campaignId limit fuel run = some run' := by
  induction fuel generalizing run with
  | zero => exact absurd enough (Nat.not_lt_zero _)
  | succ fuel ih =>
    rw [sendDueTouches]
    split
    · exact ⟨run, rfl⟩
    · rename_i goes
      obtain ⟨page, loop⟩ := batched_query campaignId sound (not_le.mp goes)
      dsimp only
      split
      · exact ⟨_, rfl⟩
      · rename_i somebody
        split
        · exact ⟨_, rfl⟩
        · obtain ⟨last, tail⟩ := Option.isSome_iff_exists.mp (List.getLast?_isSome.mpr fun nobody =>
            somebody (List.isEmpty_iff.mpr nobody))
          have mem := List.mem_of_getLast? tail
          have later : run.afterTouchId < last.2.touchId := page.behind last mem
          obtain ⟨touch, found, number⟩ := Option.map_eq_some_iff.mp (page.onFile last mem)
          have within : last.2.touchId ≤ w.last := by
            rw [← number]
            exact (sound.query.numbered.within last.1 touch found).2
          have fewer : ∀ a b c : ℤ, a < b → b ≤ c → (c - b).toNat < (c - a).toNat := by omega
          have left := (fewer _ _ _ later within).trans_le (Nat.lt_succ_iff.mp enough)
          rcases lt_or_ge (sendBatch w limit (run.query w).db (run.query w)
              (duePage (run.query w).db campaignId limit (run.query w).afterTouchId)).sent limit with below | full
          · have after := loop.after below last tail
            refine ih loop.sound ?_
            rw [after]
            exact left
          · cases fuel with
            | zero => exact absurd left (Nat.not_lt_zero _)
            | succ fuel =>
              rw [sendDueTouches]
              exact ⟨_, if_pos full⟩

/-- A run ends, comes to each touch once and in order, reports what it committed, and misses no touch that was due
    all along. -/
theorem due_touches_attempted (w : Surroundings) (campaignId : CampaignId) (limit : ℕ) (db : Database)
    (positive : 0 < limit) (numbered : Numbered w.last db) :
    (∃ fuel run, sendDueTouches w campaignId limit fuel { db := db } = some run) ∧
    ∀ fuel run, sendDueTouches w campaignId limit fuel { db := db } = some run →
      NeitherStarvesNorRepeats campaignId limit run := by
  have start : DueRun.Sound w limit { db := db } :=
    ⟨numbered, .nil, fun _ mem => (nomatch mem), .nil, rfl, Nat.zero_le _⟩
  refine ⟨⟨_, sendDueTouches_ends start (Nat.lt_succ_self _)⟩, fun fuel run ends => ?_⟩
  have nothing : DueRun.Complete campaignId { db := db } :=
    fun _ _ positive passed => absurd positive (not_lt_of_ge passed)
  obtain ⟨sound, some_query, attempted⟩ := sendDueTouches_sound start (fun _ => nothing) (.inr positive) ends
  have count := sound.counted
  exact ⟨sound.increasing, sound.reported, count ▸ sound.atMost, some_query, fun below => attempted (count ▸ below)⟩

/-- One approved touch and a sender that delivers. -/
def oneTouch : Surroundings where
  sender := fun _ _ => .sent { deliveryStatus := "stubbed", sentAt := 0 }
  env := fun _ => liveSender.toEnv
  seen := fun _ db => db
  reread := fun _ => false
  raises := fun _ => false
  others := fun _ db => db
  last := 1
  kept := fun _ _ => .of_eq rfl
  numbered := fun _ _ numbered => numbered

/-- The touch is attempted and reported as sent. -/
theorem due_touches_attempted_one : ∃ run,
    sendDueTouches oneTouch 1 1 2 { db := approvedStore.database } = some run ∧
      run.outcomes.map SendOutcome.sent = [true] ∧ NeitherStarvesNorRepeats 1 1 run := by
  have only : ∀ key touch, approvedStore.database.touches.get? key = some touch →
      key = (1, 1) ∧ touch.touchId = 1 := by
    intro key touch found
    have numbers : approvedStore.database.touches.items.map (fun t => (t.1, t.2.touchId)) = [((1, 1), 1)] := by
      decide +kernel
    have mem : (key, touch.touchId) ∈ [(((1, 1), 1) : TouchKey × TouchId)] := by
      rw [← numbers]
      exact List.mem_map.mpr ⟨(key, touch), (Dict.mem_items_iff _).mpr found, rfl⟩
    exact Prod.mk.inj (List.mem_singleton.mp mem)
  have numbered : Numbered oneTouch.last approvedStore.database := by
    constructor
    · intro key touch found
      rw [(only key touch found).2]
      exact ⟨Int.one_pos, le_refl 1⟩
    · intro key key' touch touch' found found' _
      rw [(only key touch found).1, (only key' touch' found').1]
  obtain ⟨-, holds⟩ := due_touches_attempted oneTouch 1 1 approvedStore.database Nat.one_pos numbered
  exact ⟨_, rfl, by decide +kernel, holds 2 _ rfl⟩

end ClientEngagement.Delivery
