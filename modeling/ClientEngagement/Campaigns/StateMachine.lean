import ClientEngagement.Campaigns.Tables
import ClientEngagement.Lib.Runs

/-!
# The enrollment state machine

Model of `campaigns/state_machine.py`: the table `allowedTransitions` (`ALLOWED_TRANSITIONS`) and
`transitionEnrollment` (`transition_enrollment`), the only place a status is written.
`transitionEnrollment_ok` says all a transition does.
-/

namespace ClientEngagement.Campaigns

/-- `ALLOWED_TRANSITIONS`. -/
def allowedTransitions : EnrollmentStatus → List EnrollmentStatus
  | .enrolled => [.inProgress, .excluded]
  | .inProgress =>
    [.inProgress, .completed, .stoppedReply, .stoppedOptout, .stoppedBounce, .stoppedReengaged]
  | .excluded => []
  | .completed => []
  | .stoppedReply => []
  | .stoppedOptout => []
  | .stoppedBounce => []
  | .stoppedReengaged => []

/-- A status with no way out (`TERMINAL_STATUSES`). -/
def EnrollmentStatus.isTerminal (status : EnrollmentStatus) : Bool := allowedTransitions status = []

/-- A move the table does not allow. -/
structure InvalidTransition where
  fromStatus : EnrollmentStatus
  toStatus : EnrollmentStatus
deriving DecidableEq

def transitionEnrollment (e : Enrollment) (toStatus : EnrollmentStatus) :
    Except InvalidTransition Enrollment :=
  if toStatus ∉ allowedTransitions e.status then .error ⟨e.status, toStatus⟩
  else .ok { e with status := toStatus }

variable {e e' : Enrollment} {toStatus : EnrollmentStatus}

lemma transitionEnrollment_ok (h : transitionEnrollment e toStatus = .ok e') :
    toStatus ∈ allowedTransitions e.status ∧ e' = { e with status := toStatus } := by
  rw [transitionEnrollment] at h
  split at h
  · cases h
  · rename_i hmem
    cases h
    exact ⟨not_not.mp hmem, rfl⟩

lemma transitionEnrollment_of_mem (h : toStatus ∈ allowedTransitions e.status) :
    transitionEnrollment e toStatus = .ok { e with status := toStatus } := by
  rw [transitionEnrollment, if_neg (not_not.mpr h)]

lemma transitionEnrollment_of_not_mem (h : toStatus ∉ allowedTransitions e.status) :
    transitionEnrollment e toStatus = .error ⟨e.status, toStatus⟩ := by
  rw [transitionEnrollment, if_pos h]

/-- Nothing leaves a terminal status. -/
theorem isTerminal_stays (h : e.status.isTerminal = true) (toStatus : EnrollmentStatus) :
    transitionEnrollment e toStatus = .error ⟨e.status, toStatus⟩ := by
  apply transitionEnrollment_of_not_mem
  simp only [EnrollmentStatus.isTerminal, decide_eq_true_eq] at h
  rw [h]
  exact List.not_mem_nil

end ClientEngagement.Campaigns
