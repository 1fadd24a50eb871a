import ClientEngagement.Campaigns.Scheduler

/-!
# The eligibility gate

Model of `campaigns/eligibility.py`: `checkEligibility` (`check_eligibility`), the gate before a
touch is generated, and `checkStopConditions` (`check_stop_conditions`), the narrower check before an
approved touch is sent. Each condition is a function of the database under the source's name. A
terminal skip moves the enrollment through the state machine, which may refuse.
-/

namespace ClientEngagement.Campaigns
open Rules (Date Instant)

/-- Whether the next touch may go out, and why not if it may not. -/
structure EligibilityResult where
  eligible : Bool
  reason : Option String := none
  detail : Option String := none
deriving DecidableEq

/-- A gate decision: the result, whether the audit row calls it terminal, and the enrollment after. -/
structure GateOutcome where
  result : EligibilityResult
  terminal : Bool := false
  enrollment : Enrollment

/-! ## The conditions -/

/-- The campaign, unless it is missing, paused or completed. -/
def activeCampaign (db : Database) (campaignId : CampaignId) : Option Campaign :=
  (db.campaigns.get? campaignId).filter fun campaign =>
    campaign.status ≠ .paused ∧ campaign.status ≠ .completed

def movedOffInactive (db : Database) (clientId : ClientId) : Bool :=
  (db.sides.get? clientId).any (· ≠ .inactive)

/-- No purchase, no sale, no exit date: nothing an angle could refer to. -/
def hasNoVisibleHistory (db : Database) (clientId : ClientId) : Bool :=
  (db.features.get? clientId).any fun features =>
    features.purchaseDepth = "none" ∧ ¬ features.neverFunded

def alreadyTouched (db : Database) (enrollmentId : EnrollmentId) (stepNo : ℤ) : Bool :=
  (db.touches.get? (enrollmentId, stepNo)).isSome

/-- The touches of an enrollment, with their step numbers. -/
def touchesOf (db : Database) (enrollmentId : EnrollmentId) : List (ℤ × TouchLog) :=
  db.touches.items.filterMap fun ((id, stepNo), touch) =>
    if id = enrollmentId then some (stepNo, touch) else none

/-- `_UNRESOLVED_MESSAGE_STATUSES`. -/
def unresolvedMessageStatuses : List MessageStatus := [.pendingReview, .escalated, .held]

/-- Whether a touch still waits for a message, a decision or a send. -/
def isUnresolved (db : Database) (touch : TouchLog) : Bool :=
  match touch.messageId.bind db.messages.get? with
  | none => true
  | some message =>
    message.status ∈ unresolvedMessageStatuses ∨
      message.status = .approved ∧ touch.sentAt = none

def hasUnresolvedTouch (db : Database) (enrollmentId : EnrollmentId) : Bool :=
  match minBy (fun t => -t.1) (touchesOf db enrollmentId) with
  | none => false
  | some latest => isUnresolved db latest.2

/-- Whether the angle this client resolved to is held from sending today. -/
def angleHeld (db : Database) (env : Env) (clientId : ClientId) : Bool :=
  (db.indicators.get? clientId).any fun indicators =>
    Rules.angleIsHeld db.catalog indicators.messageAngle env.today

/-- `"bounce" in reason.lower()`. -/
def mentionsBounce (reason : String) : Bool :=
  (reason.toLower.toList.tails).any ("bounce".toList.isPrefixOf ·)

def suppressionStatus (suppression : Suppression) : EnrollmentStatus :=
  if mentionsBounce suppression.reason then .stoppedBounce else .stoppedOptout

def smsChannel : String := "sms"

/-- `bool(text)` for a nullable text column. -/
def isFilled (text : Option String) : Bool := text.any (· ≠ "")

/-- The contacts on the test list for a channel (`active_test_contacts`). -/
def activeTestContacts (db : Database) (channel : String) : List String :=
  (db.testRecipients.filter TestRecipient.active).filterMap fun recipient =>
    if channel = smsChannel then recipient.phone else recipient.email

/-- Whether the client opted out, and whether a contact is on file (`_read_vault_signals`). -/
def vaultSignals (db : Database) (env : Env) (clientId : ClientId) (channel : String) : Bool × Bool :=
  match env.deliveryMode with
  | .test =>
    ((db.vault.get? clientId).any PiiVault.optOutFlag, activeTestContacts db channel ≠ [])
  | .live =>
    match db.vault.get? clientId with
    | none => (false, false)
    | some vault =>
      (vault.optOutFlag,
        isFilled (if channel = smsChannel then vault.contactPhone else vault.contactEmail))

/-- The type of the latest event of the given types, from `since` on if it is given. -/
def latestEventType (db : Database) (clientId : ClientId) (types : List ContactEventType)
    (since : Option Instant) : Option ContactEventType :=
  (minBy (fun event => -event.occurredAt) (db.events.filter fun event =>
    event.clientId = clientId ∧ event.type ∈ types ∧ since.all (· ≤ event.occurredAt))).map
      ContactEvent.type

/-- `_STOPPING_EVENT_TYPES`. -/
def stoppingEventTypes : List ContactEventType := [.bounce, .complaint]

def ContactEventType.text : ContactEventType → String
  | .reply => "reply"
  | .opened => "open"
  | .bounce => "bounce"
  | .complaint => "complaint"
  | .optout => "optout"

/-- When the last touch of the enrollment was sent, or the enrollment itself. -/
def lastTouchSentAt (db : Database) (e : Enrollment) : Instant :=
  (((touchesOf db e.enrollmentId).filterMap fun t => t.2.sentAt).max?).getD e.enrolledAt

/-- Some bands count as wanted even with money in the account. -/
def keepsContact (features : ClientFeatures) : Bool :=
  features.activeBookAutoCheckin || features.highValue || features.balanceBand = "worth_saving"

/-- Whether the client has money or activity of its own since it was enrolled. -/
def clientActive (env : Env) (client : Client) (e : Enrollment) : Bool :=
  client.balance.any (0 < ·) || client.lastActivityDate.any (env.dateOf e.enrolledAt < ·)

def reengaged (db : Database) (env : Env) (e : Enrollment) : Bool :=
  if (db.features.get? e.clientId).any keepsContact then false
  else (db.clients.get? e.clientId).any fun client => clientActive env client e

def withinCooldown (db : Database) (env : Env) (clientId : ClientId) : Bool :=
  db.touches.items.any fun ((enrollmentId, _), touch) =>
    (db.enrollments.get? enrollmentId).any (·.clientId = clientId) ∧
      touch.sentAt.any (env.now - env.campaignCooldownDays * microsecondsPerDay ≤ ·)

/-! ## The gate -/

/-- A permanent stop signal: the reason, the status to land on mid-sequence, and a detail. -/
structure StopReason where
  reason : String
  status : EnrollmentStatus
  detail : Option String := none

def stopReason (db : Database) (env : Env) (e : Enrollment) (channel : String)
    (requireContact : Bool) : Option StopReason :=
  match db.suppression.get? e.clientId with
  | some suppression =>
    some ⟨"suppressed", suppressionStatus suppression, some suppression.reason⟩
  | none =>
    let (optedOut, hasContact) := vaultSignals db env e.clientId channel
    if optedOut then some { reason := "opted_out", status := .stoppedOptout }
    else if ¬ hasContact ∧ requireContact then
      some { reason := "no_deliverable_contact", status := .excluded }
    else
      match latestEventType db e.clientId stoppingEventTypes none with
      | some event => some { reason := event.text, status := .stoppedBounce }
      | none =>
        if (latestEventType db e.clientId [.reply] (some (lastTouchSentAt db e))).isSome then
          some { reason := "replied", status := .stoppedReply }
        else if reengaged db env e then
          some { reason := "reengaged", status := .stoppedReengaged }
        else none

/-- A skip that may resolve itself later: the enrollment stays as it is. -/
def skip (e : Enrollment) (reason : String) : GateOutcome where
  result := { eligible := false, reason := some reason }
  enrollment := e

/-- Where a skip for good lands: `excluded` before the first touch, the given status after it. -/
def landingStatus (e : Enrollment) (stop : StopReason) : EnrollmentStatus :=
  if e.currentStep = 0 then .excluded else stop.status

def skipTerminal (e : Enrollment) (stop : StopReason) : Except InvalidTransition GateOutcome :=
  (transitionEnrollment e (landingStatus e stop)).map fun e' =>
    { result := { eligible := false, reason := some stop.reason, detail := stop.detail }
      terminal := true
      enrollment := e' }

/-- The step's own channel, or the campaign's when it has none or an empty one. -/
def stepChannel (step : CampaignStep) (campaign : Campaign) : String :=
  (step.channel.filter (· ≠ "")).getD campaign.defaultChannel

def checkEligibility (db : Database) (env : Env) (e : Enrollment) :
    Except InvalidTransition GateOutcome :=
  match activeCampaign db e.campaignId with
  | none => .ok (skip e "campaign_inactive")
  | some campaign =>
    if movedOffInactive db e.clientId then .ok (skip e "moved_to_active")
    else
      match db.steps.get? (e.campaignId, e.currentStep + 1) with
      | none => .ok (skip e "no_next_step")
      | some step =>
        if hasNoVisibleHistory db e.clientId then
          skipTerminal e { reason := "no_visible_history", status := .excluded }
        else if alreadyTouched db e.enrollmentId (e.currentStep + 1) then
          .ok (skip e "already_touched")
        else if hasUnresolvedTouch db e.enrollmentId then .ok (skip e "previous_touch_pending")
        else
          match stopReason db env e (stepChannel step campaign) env.requireDeliverableContact with
          | some stop => skipTerminal e stop
          | none =>
            if withinCooldown db env e.clientId then .ok (skip e "cooldown")
            else .ok { result := { eligible := true }, enrollment := e }

def checkStopConditions (db : Database) (env : Env) (e : Enrollment) (channel : String) :
    Except InvalidTransition GateOutcome :=
  match activeCampaign db e.campaignId with
  | none => .ok (skip e "campaign_inactive")
  | some _ =>
    if movedOffInactive db e.clientId then .ok (skip e "moved_to_active")
    else if angleHeld db env e.clientId then .ok (skip e "angle_held")
    else
      match stopReason db env e channel true with
      | some stop => skipTerminal e stop
      | none => .ok { result := { eligible := true }, enrollment := e }

/-! ## What an accepted enrollment has -/

variable {db : Database} {env : Env} {e : Enrollment} {gate : GateOutcome}

/-- No terminal skip is an acceptance. -/
lemma not_eligible_of_skipTerminal {stop : StopReason} (h : skipTerminal e stop = .ok gate) :
    gate.result.eligible = false := by
  rw [skipTerminal] at h
  cases ht : transitionEnrollment e (landingStatus e stop) with
  | error error =>
    rw [ht] at h
    cases h
  | ok e' =>
    rw [ht] at h
    cases h
    rfl

/-- The gate accepts an enrollment as it is, with a next step that is not touched yet. -/
theorem checkEligibility_eligible (h : checkEligibility db env e = .ok gate)
    (eligible : gate.result.eligible = true) :
    gate.enrollment = e ∧ (db.steps.get? (e.campaignId, e.currentStep + 1)).isSome = true ∧
      alreadyTouched db e.enrollmentId (e.currentStep + 1) = false := by
  rw [checkEligibility] at h
  split at h
  · cases h
    cases eligible
  · split at h
    · cases h
      cases eligible
    · split at h
      · cases h
        cases eligible
      · rename_i step found
        split at h
        · cases (not_eligible_of_skipTerminal h).symm.trans eligible
        · split at h
          · cases h
            cases eligible
          · rename_i untouched
            split at h
            · cases h
              cases eligible
            · split at h
              · cases (not_eligible_of_skipTerminal h).symm.trans eligible
              · split at h
                · cases h
                  cases eligible
                · cases h
                  exact ⟨rfl, by rw [found]; rfl, Bool.eq_false_of_not_eq_true untouched⟩

end ClientEngagement.Campaigns
