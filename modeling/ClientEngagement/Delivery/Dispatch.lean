import ClientEngagement.Delivery.SendBlocks

/-!
# Handing deliveries over

Model of `delivery/dispatch.py` in capture mode, with `send_due_touches` (`campaigns/touch.py`) and
`send_campaign` (`services/campaigns.py`) under it. The capture of a message is an entry in a list that
no rollback takes back, so a step that raises after it leaves a delivery without a recorded send, and a
commit that raises loses the deliveries of the touches recorded before it. Short of that, what is handed
over is what is recorded (`handed_is_recorded`).
-/

namespace ClientEngagement.Delivery
open Campaigns Review
open Rules (Date Instant)

/-- A step after a capture that raises. -/
inductive Fault where
  | flush
  | audit
  | advance
  | commit
deriving DecidableEq

/-- The steps inside the `try`, whose errors roll the touch back. -/
def Fault.isCaught (fault : Fault) : Bool := fault ≠ .commit

abbrev Faults := TouchKey → Option Fault

/-- What happened when one touch's approved message was handed to the sender. -/
structure SendOutcome where
  touchId : TouchId
  enrollmentId : EnrollmentId
  sent : Bool
  deliveryStatus : Option String := none
  reason : Option String := none

/-- A touch the loop comes to, and the store it finds. -/
structure Visit where
  store : Review.Store
  key : TouchKey
  touch : TouchLog

/-- How far a send gets: an error, a block with the stop it commits, or the capture. -/
inductive Attempt where
  | failed
  | blocked (reason : Option String) (stopped : Option Enrollment)
  | captured (enrollment : Enrollment) (outgoing : Outgoing)

def attempt (env : SenderEnv) (visit : Visit) : Attempt :=
  match sendCheck visit.store.database env.toEnv visit.key.1 visit.touch with
  | .failure _ => .failed
  | .blocked reason stopped => .blocked reason stopped
  | .handOver _ e =>
    match visit.touch.messageId.bind visit.store.messages.get? with
    | none => .failed
    | some message =>
      match outgoingFor env visit.store.database message with
      | .error (.blocked reason) => .blocked (some reason) none
      | .error (.keyError _) => .failed
      | .ok outgoing => .captured e outgoing

/-- `sms_part_count`. -/
def smsPartCount (body : String) : ℤ :=
  if body.length = 0 then 0
  else if body.length ≤ 160 then 1
  else -(-(body.length : ℤ) / 153)

/-- What the capturing mailer and the capturing gateway have a sender report. -/
def captureResult (env : SenderEnv) : Outgoing → SendResult
  | .email _ => sendResult env true none none none
  | .sms message => sendResult env true none (some (smsPartCount message.body)) none

/-- The touch is written as sent and its enrollment advanced. -/
def recordCapture (db : Database) (e : Enrollment) (key : TouchKey) (touch : TouchLog)
    (result : SendResult) : Database × Option InvalidTransition :=
  let sent := db.storeTouch key (touch.delivered result)
  settle sent (advanceEnrollment sent e key.2 result.sentAt)

/-- A call in progress: the committed store, the outcomes and the captured deliveries under their
    touches, and the touches visited. -/
structure Dispatch where
  store : Review.Store
  outcomes : List (TouchKey × SendOutcome) := []
  deliveries : List (TouchKey × Outgoing) := []
  visits : List Visit := []
  sent : ℤ := 0
  afterTouchId : TouchId := 0
  raised : Bool := false

def notSent (key : TouchKey) (touch : TouchLog) (reason : Option String) : TouchKey × SendOutcome :=
  (key, { touchId := touch.touchId, enrollmentId := key.1, sent := false, reason := reason })

/-- One turn of the loop. -/
def Dispatch.take (faults : Faults) (env : SenderEnv) (d : Dispatch) (key : TouchKey)
    (touch : TouchLog) : Dispatch :=
  let visit : Visit := ⟨d.store, key, touch⟩
  let visited := { d with visits := d.visits ++ [visit], afterTouchId := touch.touchId }
  match attempt env visit with
  | .failed => { visited with outcomes := d.outcomes ++ [notSent key touch (some "send_error")] }
  | .blocked reason stopped =>
    { visited with
      store := withTables d.store (stopped.elim d.store.campaigns d.store.campaigns.storeEnrollment)
      outcomes := d.outcomes ++ [notSent key touch reason] }
  | .captured e outgoing =>
    let result := captureResult env outgoing
    let (written, refused) := recordCapture d.store.campaigns e key touch result
    let captured := { visited with deliveries := d.deliveries ++ [(key, outgoing)] }
    if (faults key).any Fault.isCaught ∨ refused.isSome then
      -- a rollback: the touch and its enrollment stay as they were, the capture stays in the list
      { captured with outcomes := d.outcomes ++ [notSent key touch (some "send_error")] }
    else
      let outcome : SendOutcome :=
        ⟨touch.touchId, key.1, true, some result.deliveryStatus, none⟩
      let reported := { captured with outcomes := d.outcomes ++ [(key, outcome)] }
      -- the commit is outside the `try`
      if faults key = some .commit then { reported with raised := true }
      else { reported with store := withTables d.store written, sent := d.sent + 1 }

/-- The loop over a page. -/
def sendPage (faults : Faults) (env : SenderEnv) (limit : ℤ) (d : Dispatch) :
    List (TouchKey × TouchLog) → Dispatch
  | [] => d
  | (key, touch) :: rest =>
    let d' := d.take faults env key touch
    if d'.raised ∨ limit ≤ d'.sent then d' else sendPage faults env limit d' rest

/-- The loop over the pages. -/
def sendPages (faults : Faults) (env : SenderEnv) (campaignId : CampaignId) (limit : ℤ) :
    ℕ → Dispatch → Dispatch
  | 0, d => d
  | fuel + 1, d =>
    if d.raised ∨ limit ≤ d.sent then d
    else
      let page := duePage d.store.database campaignId limit.toNat d.afterTouchId
      let d' := sendPage faults env limit d page
      if page.length < max limit.toNat defaultBatchLimit then d'
      else sendPages faults env campaignId limit fuel d'

structure CampaignNotFound where
  campaignId : CampaignId

/-- A draft campaign starts running with its first send. -/
def Dispatch.startCampaign (d : Dispatch) (campaignId : CampaignId) (campaign : Campaign) : Dispatch :=
  if campaign.status = .draft ∧ d.outcomes.any (·.2.sent) ∧ ¬ d.raised then
    { d with store := withTables d.store { d.store.campaigns with
        campaigns := d.store.campaigns.campaigns.set campaignId { campaign with status := .running } } }
  else d

/-- `dispatch_campaign` in capture mode. A page ends the loop or passes one of the touches, so there are
    no more pages than touches. -/
def dispatchCampaign (faults : Faults) (env : SenderEnv) (s : Review.Store) (campaignId : CampaignId)
    (limit : ℤ) : Except CampaignNotFound Dispatch :=
  match s.campaigns.campaigns.get? campaignId with
  | none => .error ⟨campaignId⟩
  | some campaign =>
    .ok ((sendPages faults env campaignId limit (s.campaigns.touches.items.length + 1)
      { store := s }).startCampaign campaignId campaign)

/-- What the call returns, if it returns: the deliveries. -/
def Dispatch.handed (d : Dispatch) : List (TouchKey × Outgoing) := if d.raised then [] else d.deliveries

/-- What the call returns, if it returns: the outcomes. -/
def Dispatch.reported (d : Dispatch) : List (TouchKey × SendOutcome) :=
  if d.raised then [] else d.outcomes

/-- The deliveries are, in order, those of the outcomes that report a send, and those of the touches that
    became sent. -/
def HandedAsRecorded (s : Review.Store) (d : Dispatch) : Prop :=
  d.handed.map Prod.fst = (d.reported.filter (·.2.sent)).map Prod.fst ∧
    ∀ key, ¬ Sent s.campaigns key →
      (Sent d.store.campaigns key ↔ key ∈ d.handed.map Prod.fst)

/-! ## Where it goes wrong -/

/-- The send of a visited touch gets as far as the capture. -/
def Visit.isCaptured (env : SenderEnv) (visit : Visit) : Bool :=
  match attempt env visit with
  | .captured _ _ => true
  | _ => false

/-- A step after the capture raises inside the `try`. -/
def Visit.raisesCaught (faults : Faults) (env : SenderEnv) (visit : Visit) : Bool :=
  match attempt env visit with
  | .captured e outgoing => (faults visit.key).any Fault.isCaught ∨
      (recordCapture visit.store.campaigns e visit.key visit.touch
        (captureResult env outgoing)).2.isSome
  | _ => false

/-- The commit after the capture raises. -/
def Visit.raisesAtCommit (faults : Faults) (env : SenderEnv) (visit : Visit) : Bool :=
  visit.isCaptured env && !visit.raisesCaught faults env && faults visit.key = some .commit

/-- Nothing raises after the capture. -/
def Visit.isClean (faults : Faults) (env : SenderEnv) (visit : Visit) : Bool :=
  visit.isCaptured env && !visit.raisesCaught faults env && faults visit.key ≠ some .commit

/-- No step raises after a capture, or the commit does before any touch is recorded. -/
def CallClear (faults : Faults) (env : SenderEnv) (visits : List Visit) : Prop :=
  (∀ visit ∈ visits, visit.raisesCaught faults env = false ∧
    visit.raisesAtCommit faults env = false) ∨
  (∃ visit ∈ visits, visit.raisesAtCommit faults env = true) ∧
    ∀ visit ∈ visits, visit.isClean faults env = false

/-- Ticketing's view: the store, and everything a call ever returned for delivery. -/
structure Desk where
  store : Review.Store
  handed : List (TouchKey × Outgoing) := []

inductive DeskEvent where
  | dispatch (faults : Faults) (env : SenderEnv) (campaignId : CampaignId) (limit : ℤ)
  | others

inductive DeskStep (w : Desk) : DeskEvent → Desk → Prop where
  | dispatch {faults env campaignId limit d}
      (called : dispatchCampaign faults env w.store campaignId limit = .ok d) :
      DeskStep w (.dispatch faults env campaignId limit) ⟨d.store, w.handed ++ d.handed⟩
  -- whatever else happens to the tables, a sending time stays
  | others {s} (kept : ∀ key, Sent w.store.campaigns key → Sent s.campaigns key) :
      DeskStep w .others ⟨s, w.handed⟩

def DeskGuard (w : Desk) : DeskEvent → Prop
  | .dispatch faults env campaignId limit => ∀ d,
      dispatchCampaign faults env w.store campaignId limit = .ok d → CallClear faults env d.visits
  | .others => True

/-! ## One turn -/

variable {faults : Faults} {env : SenderEnv} {s : Review.Store} {d : Dispatch} {key : TouchKey}
  {touch : TouchLog} {campaignId : CampaignId} {limit : ℤ} {page rest : List (TouchKey × TouchLog)}

/-- Recording a capture makes its touch sent and no other. -/
lemma sent_recordCapture {db : Database} {e : Enrollment} {result : SendResult} {other : TouchKey} :
    Sent (recordCapture db e key touch result).1 other ↔ Sent db other ∨ other = key := by
  have settled (db : Database) (out : Except Refused Enrollment) : Sent (settle db out).1 = Sent db := by
    cases out with
    | ok _ => rfl
    | error _ => rfl
  rw [recordCapture, settled]
  exact sent_delivered

/-- What one turn does, by how far the send gets and what raises after the capture. -/
inductive Turn (faults : Faults) (env : SenderEnv) (d : Dispatch) (visit : Visit) :
    Dispatch → Prop where
  | skipped {d'} (captured : visit.isCaptured env = false)
      (store : Sent d'.store.campaigns = Sent d.store.campaigns)
      (outcomes : ∃ outcome, d'.outcomes = d.outcomes ++ [(visit.key, outcome)] ∧ outcome.sent = false)
      (deliveries : d'.deliveries = d.deliveries) (visits : d'.visits = d.visits ++ [visit])
      (going : d'.raised = d.raised) : Turn faults env d visit d'
  | rolledBack {d'} (captured : visit.isCaptured env = true)
      (caught : visit.raisesCaught faults env = true)
      (store : Sent d'.store.campaigns = Sent d.store.campaigns)
      (outcomes : ∃ outcome, d'.outcomes = d.outcomes ++ [(visit.key, outcome)] ∧ outcome.sent = false)
      (deliveries : ∃ outgoing, d'.deliveries = d.deliveries ++ [(visit.key, outgoing)])
      (visits : d'.visits = d.visits ++ [visit])
      (going : d'.raised = d.raised) : Turn faults env d visit d'
  | aborted {d'} (atCommit : visit.raisesAtCommit faults env = true)
      (store : Sent d'.store.campaigns = Sent d.store.campaigns)
      (deliveries : ∃ outgoing, d'.deliveries = d.deliveries ++ [(visit.key, outgoing)])
      (visits : d'.visits = d.visits ++ [visit])
      (raised : d'.raised = true) : Turn faults env d visit d'
  | recorded {d'} (clean : visit.isClean faults env = true)
      (store : ∀ key, Sent d'.store.campaigns key ↔ Sent d.store.campaigns key ∨ key = visit.key)
      (outcomes : ∃ outcome, d'.outcomes = d.outcomes ++ [(visit.key, outcome)] ∧ outcome.sent = true)
      (deliveries : ∃ outgoing, d'.deliveries = d.deliveries ++ [(visit.key, outgoing)])
      (visits : d'.visits = d.visits ++ [visit])
      (going : d'.raised = d.raised) : Turn faults env d visit d'

lemma turn_of_take (faults : Faults) (env : SenderEnv) (d : Dispatch) (key : TouchKey)
    (touch : TouchLog) : Turn faults env d ⟨d.store, key, touch⟩ (d.take faults env key touch) := by
  cases tried : attempt env ⟨d.store, key, touch⟩ with
  | failed =>
    have notCaptured : Visit.isCaptured env ⟨d.store, key, touch⟩ = false := by
      rw [Visit.isCaptured, tried]
    rw [Dispatch.take, tried]
    exact .skipped notCaptured rfl ⟨_, rfl, rfl⟩ rfl rfl rfl
  | blocked reason stopped =>
    have notCaptured : Visit.isCaptured env ⟨d.store, key, touch⟩ = false := by
      rw [Visit.isCaptured, tried]
    rw [Dispatch.take, tried]
    refine .skipped notCaptured ?_ ⟨_, rfl, rfl⟩ rfl rfl rfl
    cases stopped with
    | none => rfl
    | some e => rfl
  | captured e outgoing =>
    have captured : Visit.isCaptured env ⟨d.store, key, touch⟩ = true := by
      rw [Visit.isCaptured, tried]
    have caught : Visit.raisesCaught faults env ⟨d.store, key, touch⟩ =
        decide ((faults key).any Fault.isCaught ∨ (recordCapture d.store.campaigns e key touch
          (captureResult env outgoing)).2.isSome) := by
      rw [Visit.raisesCaught, tried]
    rw [Dispatch.take, tried]
    dsimp only
    split
    · rename_i raises
      rw [decide_eq_true raises] at caught
      exact .rolledBack captured caught rfl ⟨_, rfl, rfl⟩ ⟨_, rfl⟩ rfl rfl
    · rename_i passes
      rw [decide_eq_false passes] at caught
      split
      · rename_i atCommit
        refine .aborted ?_ rfl ⟨_, rfl⟩ rfl rfl
        rw [Visit.raisesAtCommit, captured, caught, atCommit]
        rfl
      · rename_i commits
        refine .recorded ?_ (fun _ => sent_recordCapture) ⟨_, rfl, rfl⟩ ⟨_, rfl⟩ rfl rfl
        rw [Visit.isClean, captured, caught]
        simpa using commits

/-! ## The books of a call -/

/-- The touches of the visits that meet a condition, in order. -/
def keysWhere (p : Visit → Bool) (visits : List Visit) : List TouchKey :=
  (visits.filter p).map Visit.key

/-- What a call has written so far, by the visits it made. -/
structure Written (faults : Faults) (env : SenderEnv) (s : Review.Store) (d : Dispatch) : Prop where
  sent : ∀ key, Sent d.store.campaigns key ↔
    Sent s.campaigns key ∨ key ∈ keysWhere (Visit.isClean faults env) d.visits
  fresh : ∀ key ∈ keysWhere (Visit.isClean faults env) d.visits, ¬ Sent s.campaigns key
  nodup : (keysWhere (Visit.isClean faults env) d.visits).Nodup

/-- What it has written, reported and captured. -/
structure Tally (faults : Faults) (env : SenderEnv) (s : Review.Store) (d : Dispatch) : Prop extends
    Written faults env s d where
  deliveries : d.deliveries.map Prod.fst = keysWhere (Visit.isCaptured env) d.visits
  outcomes : d.raised = false →
    (d.outcomes.filter (·.2.sent)).map Prod.fst = keysWhere (Visit.isClean faults env) d.visits
  raised : d.raised = true ↔ ∃ visit ∈ d.visits, visit.raisesAtCommit faults env = true

lemma keysWhere_append {p : Visit → Bool} {visits : List Visit} {visit : Visit} :
    keysWhere p (visits ++ [visit]) = keysWhere p visits ++ if p visit then [visit.key] else [] := by
  rw [keysWhere, List.filter_append, List.map_append, List.filter_singleton]
  cases p visit with
  | true => rfl
  | false => rfl

/-- The four ways a visit ends exclude each other. -/
lemma isClean_of_not_captured {visit : Visit} (h : visit.isCaptured env = false) :
    visit.isClean faults env = false ∧ visit.raisesAtCommit faults env = false := by
  rw [Visit.isClean, Visit.raisesAtCommit, h]
  exact ⟨rfl, rfl⟩

lemma isClean_of_caught {visit : Visit} (h : visit.raisesCaught faults env = true) :
    visit.isClean faults env = false ∧ visit.raisesAtCommit faults env = false := by
  simp [Visit.isClean, Visit.raisesAtCommit, h]

lemma isClean_of_atCommit {visit : Visit} (h : visit.raisesAtCommit faults env = true) :
    visit.isClean faults env = false ∧ visit.isCaptured env = true := by
  simp only [Visit.raisesAtCommit, Bool.and_eq_true, decide_eq_true_eq] at h
  simp [Visit.isClean, h]

lemma captured_of_isClean {visit : Visit} (h : visit.isClean faults env = true) :
    visit.isCaptured env = true ∧ visit.raisesAtCommit faults env = false := by
  simp only [Visit.isClean, Bool.and_eq_true, decide_eq_true_eq] at h
  simp [Visit.raisesAtCommit, h]

lemma tally_start (faults : Faults) (env : SenderEnv) (s : Review.Store) :
    Tally faults env s { store := s } where
  sent key := by simp [keysWhere]
  fresh := nofun
  nodup := List.nodup_nil
  deliveries := rfl
  outcomes _ := rfl
  raised := by simp

/-- A visit that records nothing leaves what is written. -/
lemma Written.skip {visit : Visit} {d' : Dispatch} (w : Written faults env s d)
    (clean : visit.isClean faults env = false)
    (store : Sent d'.store.campaigns = Sent d.store.campaigns)
    (visits : d'.visits = d.visits ++ [visit]) : Written faults env s d' := by
  have keys : keysWhere (Visit.isClean faults env) d'.visits =
      keysWhere (Visit.isClean faults env) d.visits := by
    rw [visits, keysWhere_append, clean]
    exact List.append_nil _
  refine ⟨fun key => ?_, ?_, ?_⟩
  · rw [store, keys]
    exact w.sent key
  · rw [keys]
    exact w.fresh
  · rw [keys]
    exact w.nodup

/-- A visit that records its touch found it unsent. -/
lemma Written.record {visit : Visit} {d' : Dispatch} (w : Written faults env s d)
    (unsent : ¬ Sent d.store.campaigns visit.key) (clean : visit.isClean faults env = true)
    (store : ∀ key, Sent d'.store.campaigns key ↔ Sent d.store.campaigns key ∨ key = visit.key)
    (visits : d'.visits = d.visits ++ [visit]) : Written faults env s d' := by
  have keys : keysWhere (Visit.isClean faults env) d'.visits =
      keysWhere (Visit.isClean faults env) d.visits ++ [visit.key] := by
    rw [visits, keysWhere_append, clean]
    rfl
  have new : visit.key ∉ keysWhere (Visit.isClean faults env) d.visits := fun mem =>
    unsent ((w.sent _).mpr (.inr mem))
  refine ⟨fun key => ?_, ?_, ?_⟩
  · rw [store, keys, w.sent, List.mem_append, List.mem_singleton, or_assoc]
  · rw [keys]
    intro key mem
    rcases List.mem_append.mp mem with before | last
    · exact w.fresh key before
    · rw [List.mem_singleton.mp last]
      exact fun sent => unsent ((w.sent _).mpr (.inl sent))
  · rw [keys]
    exact w.nodup.append (List.nodup_singleton _) (List.disjoint_singleton.mpr new)

/-- A turn on an unsent touch keeps the books. -/
lemma Tally.turn {visit : Visit} {d' : Dispatch} (t : Tally faults env s d)
    (going : d.raised = false) (unsent : ¬ Sent d.store.campaigns visit.key)
    (turn : Turn faults env d visit d') : Tally faults env s d' := by
  have unraised (atCommit : visit.raisesAtCommit faults env = false) :
      ¬ ∃ v ∈ d.visits ++ [visit], v.raisesAtCommit faults env = true := by
    rintro ⟨v, mem, raises⟩
    rcases List.mem_append.mp mem with before | last
    · rw [t.raised.mpr ⟨v, before, raises⟩] at going
      cases going
    · rw [List.mem_singleton.mp last, atCommit] at raises
      cases raises
  have still (same : d'.raised = d.raised) (visits : d'.visits = d.visits ++ [visit])
      (atCommit : visit.raisesAtCommit faults env = false) :
      d'.raised = true ↔ ∃ v ∈ d'.visits, v.raisesAtCommit faults env = true := by
    rw [same, going, visits]
    exact ⟨fun h => absurd h Bool.false_ne_true, fun h => absurd h (unraised atCommit)⟩
  cases turn with
  | skipped captured store outcomes deliveries visits same =>
    obtain ⟨clean, atCommit⟩ := isClean_of_not_captured captured
    obtain ⟨outcome, outcomes, notSent⟩ := outcomes
    refine ⟨t.skip clean store visits, ?_, fun _ => ?_, still same visits atCommit⟩
    · rw [deliveries, t.deliveries, visits, keysWhere_append, captured]
      exact (List.append_nil _).symm
    · rw [outcomes, List.filter_append, List.map_append, t.outcomes going, visits, keysWhere_append,
        clean, List.filter_singleton, notSent]
      rfl
  | rolledBack captured caught store outcomes deliveries visits same =>
    obtain ⟨clean, atCommit⟩ := isClean_of_caught caught
    obtain ⟨outcome, outcomes, notSent⟩ := outcomes
    obtain ⟨outgoing, deliveries⟩ := deliveries
    refine ⟨t.skip clean store visits, ?_, fun _ => ?_, still same visits atCommit⟩
    · rw [deliveries, List.map_append, t.deliveries, visits, keysWhere_append, captured]
      rfl
    · rw [outcomes, List.filter_append, List.map_append, t.outcomes going, visits, keysWhere_append,
        clean, List.filter_singleton, notSent]
      rfl
  | aborted atCommit store deliveries visits raised =>
    obtain ⟨clean, captured⟩ := isClean_of_atCommit atCommit
    obtain ⟨outgoing, deliveries⟩ := deliveries
    refine ⟨t.skip clean store visits, ?_, fun h => ?_, ?_⟩
    · rw [deliveries, List.map_append, t.deliveries, visits, keysWhere_append, captured]
      rfl
    · rw [raised] at h
      cases h
    · rw [raised, visits]
      exact ⟨fun _ => ⟨visit, List.mem_append_right _ (.head _), atCommit⟩, fun _ => rfl⟩
  | recorded clean store outcomes deliveries visits same =>
    obtain ⟨captured, atCommit⟩ := captured_of_isClean clean
    obtain ⟨outcome, outcomes, isSent⟩ := outcomes
    obtain ⟨outgoing, deliveries⟩ := deliveries
    refine ⟨t.record unsent clean store visits, ?_, fun _ => ?_, still same visits atCommit⟩
    · rw [deliveries, List.map_append, t.deliveries, visits, keysWhere_append, captured]
      rfl
    · rw [outcomes, List.filter_append, List.map_append, t.outcomes going, visits, keysWhere_append,
        clean, List.filter_singleton, isSent]
      rfl

/-- A turn makes no other touch sent. -/
lemma Turn.sent {visit : Visit} {d' : Dispatch} (turn : Turn faults env d visit d') {other : TouchKey}
    (h : Sent d'.store.campaigns other) : Sent d.store.campaigns other ∨ other = visit.key := by
  cases turn with
  | skipped _ store => exact .inl (store ▸ h)
  | rolledBack _ _ store => exact .inl (store ▸ h)
  | aborted _ store => exact .inl (store ▸ h)
  | recorded _ store => exact (store other).mp h

/-! ## The loops -/

/-- The loop over a page of distinct unsent touches keeps the books. -/
lemma Tally.sendPage (t : Tally faults env s d) (going : d.raised = false)
    (nodup : (page.map Prod.fst).Nodup)
    (unsent : ∀ key ∈ page.map Prod.fst, ¬ Sent d.store.campaigns key) :
    Tally faults env s (sendPage faults env limit d page) := by
  induction page generalizing d with
  | nil => exact t
  | cons first rest ih =>
    obtain ⟨key, touch⟩ := first
    rw [List.map_cons, List.nodup_cons] at nodup
    have turn := turn_of_take faults env d key touch
    have t' := t.turn going (unsent key (.head _)) turn
    rw [Delivery.sendPage]
    split
    · exact t'
    · rename_i goesOn
      refine ih t' (Bool.eq_false_of_not_eq_true fun raised => goesOn (.inl raised)) nodup.2 ?_
      intro other mem sent
      rcases turn.sent sent with before | same
      · exact unsent other (.tail _ mem) before
      · rw [show other = key from same] at mem
        exact nodup.1 mem

lemma Tally.sendPages {fuel : ℕ} (t : Tally faults env s d) :
    Tally faults env s (sendPages faults env campaignId limit fuel d) := by
  induction fuel generalizing d with
  | zero => exact t
  | succ fuel ih =>
    rw [Delivery.sendPages]
    split
    · exact t
    · rename_i goesOn
      have going : d.raised = false := Bool.eq_false_of_not_eq_true fun raised => goesOn (.inl raised)
      have unsent : ∀ key ∈ (duePage d.store.database campaignId limit.toNat
          d.afterTouchId).map Prod.fst, ¬ Sent d.store.database key :=
        fun _ mem => not_sent_of_due mem
      have t' : Tally faults env s (Delivery.sendPage faults env limit d
          (duePage d.store.database campaignId limit.toNat d.afterTouchId)) :=
        t.sendPage going nodup_duePage unsent
      dsimp only
      split
      · exact t'
      · exact ih t'

lemma Tally.dispatch (h : dispatchCampaign faults env s campaignId limit = .ok d) :
    Tally faults env s d := by
  rw [dispatchCampaign] at h
  split at h
  · cases h
  · rename_i campaign found
    cases h
    have t : Tally faults env s (Delivery.sendPages faults env campaignId limit
        (s.campaigns.touches.items.length + 1) { store := s }) :=
      (tally_start faults env s).sendPages
    rw [Dispatch.startCampaign]
    split
    · exact ⟨⟨t.sent, t.fresh, t.nodup⟩, t.deliveries, t.outcomes, t.raised⟩
    · exact t

/-! ## The loop over the pages ends -/

/-- The touches behind a touch id. -/
def ahead (db : Database) (afterTouchId : TouchId) : Finset TouchKey :=
  db.touches.keys.toFinset.filter fun key =>
    ((db.touches.get? key).map TouchLog.touchId).any (afterTouchId < ·)

/-- The touches are the same, and so are their ids. -/
def SameIds (db db' : Database) : Prop :=
  ∀ key, (db'.touches.get? key).map TouchLog.touchId = (db.touches.get? key).map TouchLog.touchId

/-- The page lists the touches as they are stored. -/
def Listed (db : Database) (page : List (TouchKey × TouchLog)) : Prop :=
  ∀ t ∈ page, (db.touches.get? t.1).map TouchLog.touchId = some t.2.touchId

variable {db db' db'' : Database} {afterTouchId : TouchId} {fuel : ℕ}

lemma mem_ahead : key ∈ ahead db afterTouchId ↔
    ∃ touchId, (db.touches.get? key).map TouchLog.touchId = some touchId ∧ afterTouchId < touchId := by
  rw [ahead, Finset.mem_filter, List.mem_toFinset, Dict.mem_keys_iff, Option.any_eq_true]
  constructor
  · rintro ⟨_, touchId, stored, later⟩
    exact ⟨touchId, stored, decide_eq_true_eq.mp later⟩
  · rintro ⟨touchId, stored, later⟩
    obtain ⟨touch, found, _⟩ := Option.map_eq_some_iff.mp stored
    exact ⟨⟨touch, found⟩, touchId, stored, decide_eq_true_eq.mpr later⟩

lemma SameIds.trans (h : SameIds db db') (h' : SameIds db' db'') : SameIds db db'' :=
  fun key => (h' key).trans (h key)

lemma SameIds.listed (h : SameIds db db') (listed : Listed db page) : Listed db' page :=
  fun t mem => (h t.1).trans (listed t mem)

lemma listed_duePage {n : ℕ} : Listed db (duePage db campaignId n afterTouchId) := by
  intro t mem
  have mem := List.mem_of_mem_take mem
  rw [mem_sortBy, List.mem_filter] at mem
  rw [(Dict.mem_items_iff _).mp mem.1, Option.map_some]

lemma sameIds_take (stored : (d.store.campaigns.touches.get? key).map TouchLog.touchId =
    some touch.touchId) : SameIds d.store.campaigns (d.take faults env key touch).store.campaigns := by
  have recorded (e : Enrollment) (result : SendResult) : SameIds d.store.campaigns
      (recordCapture d.store.campaigns e key touch result).1 := by
    intro other
    have settled (db : Database) (out : Except Refused Enrollment) :
        (settle db out).1.touches = db.touches := by
      cases out with
      | ok _ => rfl
      | error _ => rfl
    rw [recordCapture, settled, Database.storeTouch, Dict.get?_set]
    split
    · rename_i same
      rw [same, stored]
      rfl
    · rfl
  cases tried : attempt env ⟨d.store, key, touch⟩ with
  | failed =>
    rw [Dispatch.take, tried]
    exact fun _ => rfl
  | blocked reason stopped =>
    rw [Dispatch.take, tried]
    cases stopped with
    | none => exact fun _ => rfl
    | some e => exact fun _ => rfl
  | captured e outgoing =>
    rw [Dispatch.take, tried]
    dsimp only
    split
    · exact fun _ => rfl
    · split
      · exact fun _ => rfl
      · exact recorded e _

lemma take_afterTouchId : (d.take faults env key touch).afterTouchId = touch.touchId := by
  cases tried : attempt env ⟨d.store, key, touch⟩ with
  | failed => rw [Dispatch.take, tried]
  | blocked reason stopped => rw [Dispatch.take, tried]
  | captured e outgoing =>
    rw [Dispatch.take, tried]
    dsimp only
    split
    · rfl
    · split
      · rfl
      · rfl

/-- The loop goes on after this point. -/
def Dispatch.goesOn (limit : ℤ) (d : Dispatch) : Prop := ¬ (d.raised = true ∨ limit ≤ d.sent)

/-- A page that does not stop the loop moves it past its last touch. -/
lemma sendPage_passes (listed : Listed d.store.campaigns page) :
    SameIds d.store.campaigns (sendPage faults env limit d page).store.campaigns ∧
      ((sendPage faults env limit d page).goesOn limit → ∀ last ∈ page.getLast?,
        (sendPage faults env limit d page).afterTouchId = last.2.touchId) := by
  induction page generalizing d with
  | nil =>
    refine ⟨fun _ => rfl, fun _ last mem => ?_⟩
    cases mem
  | cons first rest ih =>
    obtain ⟨key, touch⟩ := first
    have same : SameIds d.store.campaigns (d.take faults env key touch).store.campaigns :=
      sameIds_take (listed (key, touch) (.head _))
    rw [sendPage]
    split
    · rename_i stops
      exact ⟨same, fun goesOn => absurd stops goesOn⟩
    · obtain ⟨same', passes⟩ := ih (same.listed fun t mem => listed t (.tail _ mem))
      refine ⟨same.trans same', fun goesOn last mem => ?_⟩
      cases rest with
      | nil =>
        cases mem
        exact take_afterTouchId
      | cons second rest => exact passes goesOn last mem

/-- A page is sorted by touch id and starts behind the last one visited. -/
lemma duePage_head_le {n : ℕ} {first last : TouchKey × TouchLog}
    (head : (duePage db campaignId n afterTouchId).head? = some first)
    (tail : (duePage db campaignId n afterTouchId).getLast? = some last) :
    afterTouchId < first.2.touchId ∧ first.2.touchId ≤ last.2.touchId := by
  have mem := List.mem_of_mem_take (List.mem_of_head? head)
  rw [mem_sortBy, List.mem_filter] at mem
  have later := mem.2
  simp only [decide_eq_true_eq] at later
  refine ⟨later.2, ?_⟩
  have sorted := (sortBy_pairwise (fun t : TouchKey × TouchLog => t.2.touchId)
    (db.touches.items.filter fun (key, touch) => isSendable db campaignId key touch ∧
      afterTouchId < touch.touchId)).sublist (List.take_sublist (max n defaultBatchLimit) _)
  change (duePage db campaignId n afterTouchId).Pairwise _ at sorted
  cases page : duePage db campaignId n afterTouchId with
  | nil =>
    rw [page] at head
    cases head
  | cons t rest =>
    rw [page] at head tail sorted
    cases head
    rcases List.mem_cons.mp (List.mem_of_getLast? tail) with same | mem
    · rw [same]
    · exact (List.pairwise_cons.mp sorted).1 last mem

/-- A full page that does not stop the loop leaves fewer touches ahead. -/
lemma ahead_sendPage {page : List (TouchKey × TouchLog)}
    (selected : page = duePage d.store.database campaignId limit.toNat d.afterTouchId)
    (full : ¬ page.length < max limit.toNat defaultBatchLimit)
    (goesOn : (sendPage faults env limit d page).goesOn limit) :
    (ahead (sendPage faults env limit d page).store.campaigns
      (sendPage faults env limit d page).afterTouchId).card <
        (ahead d.store.campaigns d.afterTouchId).card := by
  have listed : Listed d.store.campaigns page := selected ▸ listed_duePage
  obtain ⟨same, passes⟩ : SameIds d.store.campaigns (sendPage faults env limit d page).store.campaigns ∧
      ((sendPage faults env limit d page).goesOn limit → ∀ last ∈ page.getLast?,
        (sendPage faults env limit d page).afterTouchId = last.2.touchId) := sendPage_passes listed
  have nonempty : page ≠ [] := by
    intro empty
    rw [empty] at full
    exact full (by simp [defaultBatchLimit])
  obtain ⟨first, head⟩ := Option.isSome_iff_exists.mp (List.isSome_head?.mpr nonempty)
  obtain ⟨last, tail⟩ := Option.isSome_iff_exists.mp (List.getLast?_isSome.mpr nonempty)
  have after := passes goesOn last tail
  obtain ⟨later, le⟩ := duePage_head_le ((congrArg List.head? selected).symm.trans head)
    ((congrArg List.getLast? selected).symm.trans tail)
  rw [← after] at le
  have stored := listed first (List.mem_of_head? head)
  refine Finset.card_lt_card ((Finset.ssubset_iff_of_subset ?_).mpr ⟨first.1, ?_, ?_⟩)
  · intro key mem
    obtain ⟨touchId, found, past⟩ := mem_ahead.mp mem
    exact mem_ahead.mpr ⟨touchId, (same key).symm.trans found, (later.trans_le le).trans past⟩
  · exact mem_ahead.mpr ⟨_, stored, later⟩
  · intro mem
    obtain ⟨touchId, found, past⟩ := mem_ahead.mp mem
    cases ((same first.1).trans stored).symm.trans found
    exact absurd past (not_lt_of_ge le)

lemma sendPages_stopped (stops : ¬ d.goesOn limit) :
    sendPages faults env campaignId limit fuel d = d := by
  cases fuel with
  | zero => rfl
  | succ fuel =>
    rw [sendPages]
    exact if_pos (not_not.mp stops)

lemma sendPages_succ (enough : (ahead d.store.campaigns d.afterTouchId).card < fuel) :
    sendPages faults env campaignId limit fuel d =
      sendPages faults env campaignId limit (fuel + 1) d := by
  induction fuel generalizing d with
  | zero => exact absurd enough (Nat.not_lt_zero _)
  | succ fuel ih =>
    rw [sendPages, sendPages]
    split
    · rfl
    · dsimp only
      split
      · rfl
      · rename_i full
        by_cases goesOn : (sendPage faults env limit d (duePage d.store.database campaignId
            limit.toNat d.afterTouchId)).goesOn limit
        · have fewer := ahead_sendPage rfl full goesOn
          exact ih (by omega)
        · rw [sendPages_stopped goesOn, sendPages_stopped goesOn]

/-- A longer loop over the pages changes nothing. -/
theorem sendPages_ends (faults : Faults) (env : SenderEnv) (s : Review.Store)
    (campaignId : CampaignId) (limit : ℤ) (more : ℕ) :
    sendPages faults env campaignId limit (s.campaigns.touches.items.length + 1 + more)
        { store := s } =
      sendPages faults env campaignId limit (s.campaigns.touches.items.length + 1) { store := s } := by
  induction more with
  | zero => rfl
  | succ more ih =>
    rw [← ih, ← Nat.add_assoc]
    refine (sendPages_succ ?_).symm
    have few : (ahead s.campaigns 0).card ≤ s.campaigns.touches.items.length :=
      (Finset.card_filter_le _ _).trans ((List.toFinset_card_le _).trans_eq (List.length_map _))
    exact (few.trans_lt (Nat.lt_succ_self _)).trans_le (Nat.le_add_right _ _)

/-! ## What is handed over is what is recorded -/

/-- When nothing raises after a capture, captures and records are the same visits. -/
lemma captured_eq_clean {visits : List Visit} (clear : ∀ visit ∈ visits,
    visit.raisesCaught faults env = false ∧ visit.raisesAtCommit faults env = false) :
    keysWhere (Visit.isCaptured env) visits = keysWhere (Visit.isClean faults env) visits := by
  rw [keysWhere, keysWhere, List.filter_congr]
  intro visit mem
  obtain ⟨caught, atCommit⟩ := clear visit mem
  rw [Visit.raisesAtCommit, caught] at atCommit
  rw [Visit.isClean, caught]
  cases captured : visit.isCaptured env with
  | false => rfl
  | true =>
    rw [captured] at atCommit
    simpa using atCommit

/-- A capture that is rolled back leaves more captures than records. -/
lemma clean_lt_captured {visits : List Visit} {visit : Visit} (mem : visit ∈ visits)
    (caught : visit.raisesCaught faults env = true) :
    (keysWhere (Visit.isClean faults env) visits).length <
      (keysWhere (Visit.isCaptured env) visits).length := by
  have captured : visit.isCaptured env = true := by
    rw [Visit.raisesCaught] at caught
    rw [Visit.isCaptured]
    split at caught
    · rfl
    · cases caught
  have sub : (visits.filter (Visit.isClean faults env)).Sublist
      (visits.filter (Visit.isCaptured env)) :=
    List.monotone_filter_right _ fun _ clean => (captured_of_isClean clean).1
  rw [keysWhere, keysWhere, List.length_map, List.length_map]
  refine lt_of_le_of_ne sub.length_le fun same => ?_
  have clean := (List.mem_filter.mp ((sub.eq_of_length same).symm ▸
    List.mem_filter.mpr ⟨mem, captured⟩ : visit ∈ visits.filter (Visit.isClean faults env))).2
  rw [(isClean_of_caught caught).1] at clean
  cases clean

/-- The books of a call that returned. -/
lemma Tally.returned (t : Tally faults env s d) (going : d.raised = false) :
    d.handed.map Prod.fst = keysWhere (Visit.isCaptured env) d.visits ∧
      (d.reported.filter (·.2.sent)).map Prod.fst = keysWhere (Visit.isClean faults env) d.visits ∧
      ∀ visit ∈ d.visits, visit.raisesAtCommit faults env = false := by
  refine ⟨?_, ?_, fun visit mem => ?_⟩
  · rw [Dispatch.handed, going]
    exact t.deliveries
  · rw [Dispatch.reported, going]
    exact t.outcomes going
  · refine Bool.eq_false_of_not_eq_true fun atCommit => ?_
    rw [t.raised.mpr ⟨visit, mem, atCommit⟩] at going
    cases going

lemma Tally.handed_iff (t : Tally faults env s d) :
    HandedAsRecorded s d ↔ CallClear faults env d.visits := by
  cases raised : d.raised with
  | true =>
    have none_handed : d.handed = [] := by rw [Dispatch.handed, raised]; rfl
    have none_reported : d.reported = [] := by rw [Dispatch.reported, raised]; rfl
    have aborted := t.raised.mp raised
    rw [HandedAsRecorded, none_handed, none_reported]
    constructor
    · rintro ⟨_, same⟩
      refine .inr ⟨aborted, fun visit mem => ?_⟩
      refine Bool.eq_false_of_not_eq_true fun clean => ?_
      have key : visit.key ∈ keysWhere (Visit.isClean faults env) d.visits :=
        List.mem_map_of_mem (List.mem_filter.mpr ⟨mem, clean⟩)
      have handed := (same _ (t.fresh _ key)).mp ((t.sent _).mpr (.inr key))
      cases handed
    · rintro (clear | ⟨_, notClean⟩)
      · obtain ⟨visit, mem, atCommit⟩ := aborted
        rw [(clear visit mem).2] at atCommit
        cases atCommit
      · refine ⟨rfl, fun key unsent => ⟨fun sent => ?_, nofun⟩⟩
        rcases (t.sent key).mp sent with before | recorded
        · exact absurd before unsent
        · obtain ⟨visit, mem, _⟩ := List.mem_map.mp recorded
          obtain ⟨visited, clean⟩ := List.mem_filter.mp mem
          rw [notClean visit visited] at clean
          cases clean
  | false =>
    obtain ⟨handed, reported, committed⟩ := t.returned raised
    rw [HandedAsRecorded, handed, reported]
    constructor
    · rintro ⟨same, _⟩
      refine .inl fun visit mem => ⟨?_, committed visit mem⟩
      refine Bool.eq_false_of_not_eq_true fun caught => ?_
      exact absurd (congrArg List.length same) (clean_lt_captured mem caught).ne'
    · rintro (clear | ⟨⟨visit, mem, atCommit⟩, _⟩)
      · rw [captured_eq_clean clear]
        refine ⟨rfl, fun key unsent => ?_⟩
        rw [t.sent]
        exact or_iff_right unsent
      · rw [committed visit mem] at atCommit
        cases atCommit

/-- A clear call hands over touches that were unsent, once each, and they are sent from then on. -/
lemma Tally.clear (t : Tally faults env s d) (clear : CallClear faults env d.visits) :
    (d.handed.map Prod.fst).Nodup ∧ ∀ key ∈ d.handed.map Prod.fst,
      ¬ Sent s.campaigns key ∧ Sent d.store.campaigns key := by
  obtain ⟨same, _⟩ := t.handed_iff.mpr clear
  cases raised : d.raised with
  | true =>
    have none_handed : d.handed = [] := by rw [Dispatch.handed, raised]; rfl
    rw [none_handed]
    exact ⟨List.nodup_nil, nofun⟩
  | false =>
    obtain ⟨_, reported, _⟩ := t.returned raised
    rw [same, reported]
    exact ⟨t.nodup, fun key mem => ⟨t.fresh key mem, (t.sent key).mpr (.inr mem)⟩⟩

lemma Tally.keeps (t : Tally faults env s d) (sent : Sent s.campaigns key) :
    Sent d.store.campaigns key := (t.sent key).mpr (.inl sent)

/-- What was handed over was handed over once, and is on file as sent. -/
structure OnFile (w : Desk) : Prop where
  once : (w.handed.map Prod.fst).Nodup
  sent : ∀ key ∈ w.handed.map Prod.fst, Sent w.store.campaigns key

lemma OnFile.step {w w' : Desk} {event : DeskEvent} (inv : OnFile w) (guard : DeskGuard w event)
    (st : DeskStep w event w') : OnFile w' := by
  cases st with
  | dispatch called =>
    have t := Tally.dispatch called
    obtain ⟨once, fresh⟩ := t.clear (guard _ called)
    refine ⟨?_, fun key mem => ?_⟩
    · rw [List.map_append]
      exact inv.once.append once fun key before new => (fresh key new).1 (inv.sent key before)
    · rw [List.map_append] at mem
      rcases List.mem_append.mp mem with before | new
      · exact t.keeps (inv.sent key before)
      · exact (fresh key new).2
  | others kept => exact ⟨inv.once, fun key mem => kept key (inv.sent key mem)⟩

/-- A call hands over what it records if and only if no step raises after a capture, or its commit does
    before anything is recorded; over calls of that kind no touch is handed over twice. -/
theorem handed_is_recorded (faults : Faults) (env : SenderEnv) (s : Store) (campaignId : CampaignId)
    (limit : ℤ) :
    (∀ d, dispatchCampaign faults env s campaignId limit = .ok d →
      (HandedAsRecorded s d ↔ CallClear faults env d.visits)) ∧
    ∀ events w, Run (Guarded DeskGuard DeskStep) { store := s } events w →
      (w.handed.map Prod.fst).Nodup := by
  constructor
  · intro d called
    exact (Tally.dispatch called).handed_iff
  · intro events w r
    have start : OnFile { store := s } := ⟨List.nodup_nil, nofun⟩
    exact (r.invariant OnFile start fun _ _ _ inv st => inv.step st.1 st.2).once

def liveSender : SenderEnv where
  deliveryMode := .live
  now := 0
  today := 0
  dateOf := fun _ => 0
  tables := .ascii

/-- A call on the store with one approved message. -/
def dispatched (faults : Faults) : Dispatch :=
  match dispatchCampaign faults liveSender approvedStore 1 10 with
  | .ok d => d
  | .error _ => { store := approvedStore }

lemma dispatched_ok (faults : Faults) :
    dispatchCampaign faults liveSender approvedStore 1 10 = .ok (dispatched faults) := rfl

lemma dispatched_step (faults : Faults) (handed : List (TouchKey × Outgoing)) :
    DeskStep ⟨approvedStore, handed⟩ (.dispatch faults liveSender 1 10)
      ⟨(dispatched faults).store, handed ++ (dispatched faults).handed⟩ :=
  .dispatch (dispatched_ok faults)

/-- No step raises: the message is handed over, and recorded. -/
theorem handed_is_recorded_sample :
    HandedAsRecorded approvedStore (dispatched fun _ => none) ∧
      ((dispatched fun _ => none).handed.map Prod.fst).Nodup := by
  have clear : CallClear (fun _ => none) liveSender (dispatched fun _ => none).visits := by
    refine .inl fun visit mem => ?_
    cases List.mem_singleton.mp mem
    exact ⟨by decide +kernel, by decide +kernel⟩
  have guard : DeskGuard { store := approvedStore } (.dispatch (fun _ => none) liveSender 1 10) := by
    intro d ok
    cases (dispatched_ok _).symm.trans ok
    exact clear
  have recorded := handed_is_recorded (fun _ => none) liveSender approvedStore 1 10
  have once := recorded.2 _ _
    (.snoc .nil ⟨guard, dispatched_step (fun _ => none) []⟩)
  rw [List.nil_append] at once
  exact ⟨(recorded.1 _ (dispatched_ok _)).mpr clear, once⟩

/-- The audit record of a captured touch raises: the next call hands it over again. -/
theorem capture_is_handed_twice : ∃ events w, Run DeskStep { store := approvedStore } events w ∧
    ¬ (w.handed.map Prod.fst).Nodup := by
  have unchanged : (dispatched fun _ => some .audit).store = approvedStore := rfl
  have first := dispatched_step (fun _ => some .audit) []
  rw [unchanged] at first
  have second := dispatched_step (fun _ => none) ([] ++ (dispatched fun _ => some .audit).handed)
  exact ⟨_, _, .snoc (.snoc .nil first) second, by decide +kernel⟩

end ClientEngagement.Delivery
