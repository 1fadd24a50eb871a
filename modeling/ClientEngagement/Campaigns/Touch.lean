import ClientEngagement.Campaigns.Eligibility

/-!
# Touches

Model of `campaigns/touch.py`: `recordTouch` (`record_touch`), `generateTouch` (`generate_touch`),
`runDueEnrollments` (`run_due_enrollments`), `sendTouch` (`send_touch`) and `reconcileEnrollment`
(`reconcile_enrollment`). Generation and sending are parameters, as they are in the source: `generate`
drafts at most one message, `sender` delivers one. An operation takes the database as its session
sees it and returns it as the session leaves it; whether that is committed is the caller's choice.
-/

namespace ClientEngagement.Campaigns
open Rules (Date Instant)

def Database.storeEnrollment (db : Database) (e : Enrollment) : Database :=
  { db with enrollments := db.enrollments.set e.enrollmentId e }

def Database.storeTouch (db : Database) (key : EnrollmentId × ℤ) (touch : TouchLog) : Database :=
  { db with touches := db.touches.set key touch }

def Database.storeMessage (db : Database) (id : MessageId) (message : OutreachMessage) : Database :=
  { db with messages := db.messages.set id message }

/-! ## Generating -/

/-- Inserts the touch of a step, or finds the one there is. -/
def recordTouch (db : Database) (enrollmentId : EnrollmentId) (stepNo : ℤ) : Database × TouchLog :=
  match db.touches.get? (enrollmentId, stepNo) with
  | some touch => (db, touch)
  | none =>
    let touch : TouchLog := { touchId := db.nextTouchId }
    ({ db.storeTouch (enrollmentId, stepNo) touch with nextTouchId := db.nextTouchId + 1 }, touch)

/-- Drafts the message of an enrollment's step: an error, no message (every retry was rejected), or
    a new message under its id. -/
abbrev GenerateFn :=
  Database → Enrollment → ℤ → Except String (Option (MessageId × OutreachMessage))

/-- Logs the touch and generates its message, unless it has one. -/
def generateTouch (db : Database) (e : Enrollment) (stepNo : ℤ) (generate : GenerateFn) :
    Except String (Database × TouchLog) :=
  let (logged, touch) := recordTouch db e.enrollmentId stepNo
  if touch.messageId.isSome then .ok (logged, touch)
  else
    (generate logged e stepNo).map fun drafted =>
      match drafted with
      | none => (logged, touch)
      | some (id, message) =>
        let touch := { touch with messageId := some id }
        ((logged.storeMessage id message).storeTouch (e.enrollmentId, stepNo) touch, touch)

/-- What happened to one due enrollment during a batch run. -/
structure TouchRunOutcome where
  enrollmentId : EnrollmentId
  generated : Bool
  reason : Option String := none
  touchId : Option TouchId := none
deriving DecidableEq

/-- One turn of the run: the gate, outside the `try`, then the generation, inside it. -/
def runDueEnrollment (env : Env) (generate : GenerateFn) (db : Database) (e : Enrollment) :
    Except InvalidTransition (Database × TouchRunOutcome) :=
  (checkEligibility db env e).map fun gate =>
    if ¬ gate.result.eligible then
      (db.storeEnrollment gate.enrollment,
        { enrollmentId := e.enrollmentId, generated := false, reason := gate.result.reason })
    else
      match generateTouch db e (e.currentStep + 1) generate with
      | .error _ =>
        -- a rollback: the turn leaves nothing behind
        (db, { enrollmentId := e.enrollmentId, generated := false,
               reason := some "generation_error" })
      | .ok (db', touch) =>
        (db', { enrollmentId := e.enrollmentId
                generated := touch.messageId.isSome
                reason := if touch.messageId.isSome then none else some "guardrail_rejected"
                touchId := some touch.touchId })

/-- The loop over the selected enrollments. -/
def runSelected (env : Env) (generate : GenerateFn) (db : Database) :
    List Enrollment → Except InvalidTransition (Database × List TouchRunOutcome)
  | [] => .ok (db, [])
  | e :: rest =>
    (runDueEnrollment env generate db e).bind fun (db', outcome) =>
      (runSelected env generate db' rest).map fun (db'', outcomes) => (db'', outcome :: outcomes)

def runDueEnrollments (db : Database) (env : Env) (campaignId : Option CampaignId) (limit : ℕ)
    (generate : GenerateFn) : Except InvalidTransition (Database × List TouchRunOutcome) :=
  runSelected env generate db (selectDueEnrollments db env campaignId limit)

/-! ## Sending -/

structure SendResult where
  deliveryStatus : String
  sentAt : Instant
  providerStatus : Option String := none
  parts : Option ℤ := none
  cost : Option ℚ := none

/-- What a sender does with an approved message: deliver it, refuse it, or fail. -/
inductive SenderOutcome where
  | sent (result : SendResult)
  | blocked (reason : Option String)
  | failed

abbrev SenderFn := OutreachMessage → SenderOutcome

/-- Why a send did not happen. -/
inductive SendFailure where
  | noMessage
  | noEnrollment
  | notApproved
  | invalidTransition (error : InvalidTransition)
deriving DecidableEq

/-- How far a send gets before the sender: an error, a block with the enrollment as the gate leaves
    it, or a message to hand over with its enrollment. -/
inductive SendCheck where
  | failure (failure : SendFailure)
  | blocked (reason : Option String) (enrollment : Option Enrollment)
  | handOver (message : OutreachMessage) (enrollment : Enrollment)

/-- Everything `send_touch` does before it calls the sender. -/
def sendCheck (db : Database) (env : Env) (enrollmentId : EnrollmentId) (touch : TouchLog) :
    SendCheck :=
  match touch.messageId.bind db.messages.get? with
  | none => .failure .noMessage
  | some message =>
    if message.status ≠ .approved then .failure .notApproved
    else
      let isTest := (db.campaigns.get? message.campaignId).any Campaign.isTest
      if isTest ≠ decide (env.deliveryMode = .test) then
        .blocked (some "campaign_mode_mismatch") none
      else
        match db.enrollments.get? enrollmentId with
        | none => .failure .noEnrollment
        | some e =>
          match checkStopConditions db env e message.channel with
          | .error error => .failure (.invalidTransition error)
          | .ok gate =>
            if gate.result.eligible then .handOver message e
            else .blocked gate.result.reason (some gate.enrollment)

/-- The touch after the sender delivered it. -/
def TouchLog.delivered (touch : TouchLog) (result : SendResult) : TouchLog :=
  { touch with
    sentAt := some result.sentAt
    deliveryStatus := some result.deliveryStatus
    providerStatus := result.providerStatus
    parts := result.parts
    cost := result.cost }

/-- What an advance leaves in the session, and what it raises. -/
def settle (db : Database) (out : Except Refused Enrollment) : Database × Option InvalidTransition :=
  match out with
  | .ok e => (db.storeEnrollment e, none)
  | .error refused => (db.storeEnrollment refused.left, some refused.error)

/-- What `send_touch` does after the sender returned: record the send, advance the enrollment. -/
def recordSend (db : Database) (e : Enrollment) (stepNo : ℤ) (touch : TouchLog)
    (result : SendResult) : Database × Option InvalidTransition :=
  let sent := db.storeTouch (e.enrollmentId, stepNo) (touch.delivered result)
  settle sent (advanceEnrollment sent e stepNo result.sentAt)

/-! ## Catching up -/

/-- The sent touch with the highest step. -/
def latestSent (db : Database) (enrollmentId : EnrollmentId) : Option (ℤ × Instant) :=
  minBy (fun t => -t.1) ((touchesOf db enrollmentId).filterMap fun (stepNo, touch) =>
    touch.sentAt.map fun sentAt => (stepNo, sentAt))

/-- Catches an enrollment up with what its touches show was sent. -/
def reconcileEnrollment (db : Database) (e : Enrollment) : Except Refused Enrollment :=
  match latestSent db e.enrollmentId with
  | none => .ok e
  | some (stepNo, sentAt) =>
    if stepNo ≤ e.currentStep then .ok e else advanceEnrollment db e stepNo sentAt

/-! ## What a touch changes -/

variable {db db' : Database} {env : Env} {e : Enrollment} {stepNo : ℤ} {generate : GenerateFn}

lemma mem_touchesOf {id : EnrollmentId} {touch : TouchLog} :
    (stepNo, touch) ∈ touchesOf db id ↔ db.touches.get? (id, stepNo) = some touch := by
  rw [← Dict.mem_items_iff, touchesOf, List.mem_filterMap]
  constructor
  · rintro ⟨⟨⟨id', n⟩, t⟩, mem, h⟩
    simp only at h
    split at h
    · rename_i same
      cases h
      exact same ▸ mem
    · cases h
  · intro mem
    exact ⟨_, mem, by simp⟩

/-- The latest sent touch is a touch of the enrollment, sent then. -/
lemma latestSent_some {id : EnrollmentId} {sentAt : Instant}
    (h : latestSent db id = some (stepNo, sentAt)) :
    ∃ touch, db.touches.get? (id, stepNo) = some touch ∧ touch.sentAt = some sentAt := by
  have mem := minBy_mem h
  simp only [List.mem_filterMap, Option.map_eq_some_iff, Prod.exists] at mem
  obtain ⟨n, touch, listed, at', sent, same⟩ := mem
  cases same
  exact ⟨touch, mem_touchesOf.mp listed, sent⟩

/-- Logging a touch changes the table of touches only, at its own key. -/
lemma recordTouch_frame (db : Database) (id : EnrollmentId) (stepNo : ℤ) :
    (recordTouch db id stepNo).1.enrollments = db.enrollments ∧
      (recordTouch db id stepNo).1.steps = db.steps ∧
      ∀ key, key ≠ (id, stepNo) →
        (recordTouch db id stepNo).1.touches.get? key = db.touches.get? key := by
  rw [recordTouch]
  cases db.touches.get? (id, stepNo) with
  | some touch => exact ⟨rfl, rfl, fun _ _ => rfl⟩
  | none => exact ⟨rfl, rfl, fun key ne => Dict.get?_set_ne _ _ ne⟩

/-- Generating changes the tables of touches and messages only, and no touch of another step. -/
lemma generateTouch_frame {touch : TouchLog}
    (h : generateTouch db e stepNo generate = .ok (db', touch)) :
    db'.enrollments = db.enrollments ∧ db'.steps = db.steps ∧
      ∀ key, key ≠ (e.enrollmentId, stepNo) → db'.touches.get? key = db.touches.get? key := by
  have logged := recordTouch_frame db e.enrollmentId stepNo
  simp only [generateTouch] at h
  split at h
  · cases h
    exact logged
  · cases hg : generate (recordTouch db e.enrollmentId stepNo).1 e stepNo with
    | error error =>
      rw [hg] at h
      cases h
    | ok drafted =>
      rw [hg] at h
      cases drafted with
      | none =>
        cases h
        exact logged
      | some message =>
        cases h
        refine ⟨logged.1, logged.2.1, fun key ne => ?_⟩
        rw [← logged.2.2 key ne]
        exact Dict.get?_set_ne _ _ ne

/-! ## What is handed to a sender -/

/-- Everything `send_touch` has seen when it calls the sender. -/
structure HandOver (db : Database) (env : Env) (enrollmentId : EnrollmentId) (touch : TouchLog)
    (message : OutreachMessage) (e : Enrollment) : Prop where
  pointed : touch.messageId.bind db.messages.get? = some message
  approved : message.status = .approved
  mode : (db.campaigns.get? message.campaignId).any Campaign.isTest =
    decide (env.deliveryMode = .test)
  enrolled : db.enrollments.get? enrollmentId = some e
  clear : ∃ gate, checkStopConditions db env e message.channel = .ok gate ∧
    gate.result.eligible = true

lemma sendCheck_handOver {id : EnrollmentId} {touch : TouchLog} {message : OutreachMessage}
    (h : sendCheck db env id touch = .handOver message e) : HandOver db env id touch message e := by
  rw [sendCheck] at h
  split at h
  · cases h
  · rename_i found
    dsimp only at h
    split at h
    · cases h
    · rename_i approved
      split at h
      · cases h
      · rename_i mode
        split at h
        · cases h
        · rename_i enrolled
          split at h
          · cases h
          · rename_i gate check
            split at h
            · rename_i eligible
              cases h
              exact ⟨found, not_not.mp approved, not_not.mp mode, enrolled, gate, check, eligible⟩
            · cases h

end ClientEngagement.Campaigns
