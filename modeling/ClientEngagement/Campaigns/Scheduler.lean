import ClientEngagement.Campaigns.StateMachine

/-!
# Selecting and advancing enrollments

Model of `campaigns/scheduler.py`: `selectDueEnrollments` (`select_due_enrollments`) and
`advanceEnrollment` (`advance_enrollment`). The latter writes the step and the due date before it
asks the state machine, so a refused move leaves the enrollment half written: `Refused` carries it.
`advanceEnrollment_cases` says all the call does.
-/

namespace ClientEngagement.Campaigns
open Rules (Date Instant)

/-- `SCHEDULABLE_STATUSES`. -/
def EnrollmentStatus.isSchedulable (status : EnrollmentStatus) : Bool :=
  status = .enrolled ∨ status = .inProgress

/-- Whether an enrollment's next touch is due and not logged yet. -/
def isDue (db : Database) (env : Env) (e : Enrollment) : Bool :=
  e.status.isSchedulable ∧ e.isPrimaryContactRow ∧ e.nextDueAt.all (· ≤ env.now) ∧
    db.touches.get? (e.enrollmentId, e.currentStep + 1) = none

/-- `coalesce(stale_contact, false)`. -/
def staleContact (db : Database) (clientId : ClientId) : Bool :=
  (db.features.get? clientId).any ClientFeatures.staleContact

def selectDueEnrollments (db : Database) (env : Env) (campaignId : Option CampaignId)
    (limit : ℕ) : List Enrollment :=
  let due := (db.enrollments.items.map Prod.snd).filter fun e =>
    isDue db env e ∧ campaignId.all (e.campaignId = ·)
  (sortBy (fun e => toLex (staleContact db e.clientId, e.enrollmentId)) due).take limit

/-- A move the state machine refused, with the enrollment as the session holds it by then. -/
structure Refused where
  left : Enrollment
  error : InvalidTransition

def moveTo (e : Enrollment) (toStatus : EnrollmentStatus) : Except Refused Enrollment :=
  (transitionEnrollment e toStatus).mapError fun error => ⟨e, error⟩

/-- Moves an enrollment forward after `stepNo` went out at `sentAt`. -/
def advanceEnrollment (db : Database) (e : Enrollment) (stepNo : ℤ) (sentAt : Instant) :
    Except Refused Enrollment :=
  if stepNo ≤ e.currentStep then .ok e
  else
    let current := db.steps.get? (e.campaignId, stepNo)
    match db.steps.get? (e.campaignId, stepNo + 1) with
    | some nextStep =>
      let deltaDays := nextStep.offsetDays - (current.map CampaignStep.offsetDays).getD 0
      moveTo { e with
        currentStep := stepNo
        nextDueAt := some (sentAt + max deltaDays 0 * microsecondsPerDay) } .inProgress
    | none =>
      let moved := { e with currentStep := stepNo, nextDueAt := none }
      if moved.status = .enrolled then (moveTo moved .inProgress).bind (moveTo · .completed)
      else moveTo moved .completed

/-! ## What an advance does -/

variable {db : Database} {e e' : Enrollment} {stepNo : ℤ} {sentAt : Instant}

lemma isSchedulable_iff {status : EnrollmentStatus} :
    status.isSchedulable = true ↔ status = .enrolled ∨ status = .inProgress := by
  simp [EnrollmentStatus.isSchedulable]

lemma moveTo_of_mem {toStatus : EnrollmentStatus} (h : toStatus ∈ allowedTransitions e.status) :
    moveTo e toStatus = .ok { e with status := toStatus } := by
  rw [moveTo, transitionEnrollment_of_mem h]
  rfl

lemma moveTo_of_not_mem {toStatus : EnrollmentStatus} (h : toStatus ∉ allowedTransitions e.status) :
    moveTo e toStatus = .error ⟨e, ⟨e.status, toStatus⟩⟩ := by
  rw [moveTo, transitionEnrollment_of_not_mem h]
  rfl

/-- An advance past a step already passed changes nothing. -/
lemma advanceEnrollment_of_le (h : stepNo ≤ e.currentStep) :
    advanceEnrollment db e stepNo sentAt = .ok e := by
  rw [advanceEnrollment, if_pos h]

/-- The due date after `stepNo`, when a step follows. -/
def dueAfter (db : Database) (campaignId : CampaignId) (stepNo : ℤ) (sentAt : Instant)
    (nextStep : CampaignStep) : Instant :=
  sentAt + max (nextStep.offsetDays -
    ((db.steps.get? (campaignId, stepNo)).map CampaignStep.offsetDays).getD 0) 0 *
      microsecondsPerDay

lemma sentAt_le_dueAfter {nextStep : CampaignStep} {campaignId : CampaignId} :
    sentAt ≤ dueAfter db campaignId stepNo sentAt nextStep := by
  have h : 0 ≤ max (nextStep.offsetDays -
      ((db.steps.get? (campaignId, stepNo)).map CampaignStep.offsetDays).getD 0) 0 *
        microsecondsPerDay :=
    Int.mul_nonneg (le_max_right _ _) (by simp [microsecondsPerDay])
  exact le_add_of_nonneg_right h

/-- The enrollment after an accepted advance past its own step. -/
def advanced (db : Database) (e : Enrollment) (stepNo : ℤ) (sentAt : Instant) : Enrollment :=
  match db.steps.get? (e.campaignId, stepNo + 1) with
  | some nextStep =>
    { e with
      currentStep := stepNo
      nextDueAt := some (dueAfter db e.campaignId stepNo sentAt nextStep)
      status := .inProgress }
  | none => { e with currentStep := stepNo, nextDueAt := none, status := .completed }

@[simp] lemma advanced_currentStep : (advanced db e stepNo sentAt).currentStep = stepNo := by
  rw [advanced]
  cases db.steps.get? (e.campaignId, stepNo + 1) with
  | some _ => rfl
  | none => rfl

/-- An advance from a schedulable status is accepted and lands on the step. -/
lemma advanceEnrollment_of_schedulable (hs : e.status.isSchedulable = true)
    (lt : e.currentStep < stepNo) :
    advanceEnrollment db e stepNo sentAt = .ok (advanced db e stepNo sentAt) := by
  rw [advanceEnrollment, if_neg (not_le.mpr lt), advanced]
  cases db.steps.get? (e.campaignId, stepNo + 1) with
  | some nextStep =>
    apply moveTo_of_mem
    cases isSchedulable_iff.mp hs with
    | inl h => simp [h, allowedTransitions]
    | inr h => simp [h, allowedTransitions]
  | none =>
    cases isSchedulable_iff.mp hs with
    | inl h =>
      simp only [h, if_true]
      rw [moveTo_of_mem (by simp [allowedTransitions])]
      exact moveTo_of_mem (by simp [allowedTransitions])
    | inr h =>
      simp only [h, reduceCtorEq, if_false]
      rw [moveTo_of_mem (by simp [allowedTransitions])]

/-- An advance from any other status raises with the step already written. -/
lemma advanceEnrollment_of_terminal (db : Database) (sentAt : Instant)
    (hs : e.status.isSchedulable = false) (lt : e.currentStep < stepNo) :
    ∃ r, advanceEnrollment db e stepNo sentAt = .error r ∧ r.left.currentStep = stepNo ∧
      r.left.status = e.status := by
  have hnil : allowedTransitions e.status = [] := by
    cases h : e.status with
    | enrolled => simp [EnrollmentStatus.isSchedulable, h] at hs
    | inProgress => simp [EnrollmentStatus.isSchedulable, h] at hs
    | excluded => rfl
    | completed => rfl
    | stoppedReply => rfl
    | stoppedOptout => rfl
    | stoppedBounce => rfl
    | stoppedReengaged => rfl
  have hne : e.status ≠ .enrolled := by
    intro h
    rw [h] at hnil
    cases hnil
  rw [advanceEnrollment, if_neg (not_le.mpr lt)]
  cases db.steps.get? (e.campaignId, stepNo + 1) with
  | some nextStep =>
    simp only
    rw [moveTo_of_not_mem (by simp [hnil])]
    exact ⟨_, rfl, rfl, rfl⟩
  | none =>
    simp only [hne, if_false]
    rw [moveTo_of_not_mem (by simp [hnil])]
    exact ⟨_, rfl, rfl, rfl⟩

/-- All an accepted advance does: nothing, or the move to the step. -/
theorem advanceEnrollment_cases (h : advanceEnrollment db e stepNo sentAt = .ok e') :
    stepNo ≤ e.currentStep ∧ e' = e ∨
      e.currentStep < stepNo ∧ e.status.isSchedulable = true ∧
        e' = advanced db e stepNo sentAt := by
  cases le_or_gt stepNo e.currentStep with
  | inl le =>
    rw [advanceEnrollment_of_le le] at h
    cases h
    exact .inl ⟨le, rfl⟩
  | inr lt =>
    cases hs : e.status.isSchedulable with
    | true =>
      rw [advanceEnrollment_of_schedulable hs lt] at h
      cases h
      exact .inr ⟨lt, rfl, rfl⟩
    | false =>
      obtain ⟨r, hr, _⟩ := advanceEnrollment_of_terminal db sentAt hs lt
      rw [hr] at h
      cases h

end ClientEngagement.Campaigns
