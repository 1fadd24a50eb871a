import ClientEngagement.Lib.Results
import ClientEngagement.Review.Cohorts

/-!
# Review decisions

Model of `services/review.py` and of `regenerate_message` (`campaigns/generation.py`):
`createOutreachMessage`, `decideMessage` (`decide`), `decideBatch`, `checkCohortReady`,
`approveCohortRemainder` and `regenerateMessage`, and of the endpoint `decideReview` of
`api/routers/review.py`. Ids made by `uuid4` are arguments. An operation returns the store as its
session leaves it, or raises and leaves nothing behind.
-/

namespace ClientEngagement.Review
open Campaigns (CampaignId ClientId MessageId MessageStatus Database TouchLog)

/-! ## Creating a message -/

inductive CreateError where
  | keyError (field : String)
deriving DecidableEq

/-- The run once its draft failed a check. -/
def GenerationRun.refused (run : GenerationRun) (failure : GuardrailFailure) : GenerationRun :=
  { run with
    status := .rejected
    failedGuardrail := some failure.guardrail
    reason := some failure.reason }

/-- Stores an accepted run as a message with the client's values put in; a draft with a placeholder
    left over rejects the run instead. -/
def createOutreachMessage (env : Env) (s : Store) (runId : RunId) (run : GenerationRun)
    (campaignId : CampaignId) (channel : String) (callBrief : Option String)
    (cohortSlot : Option CohortSlot) (newMessage : MessageId) (newCohort : CohortId) :
    Except CreateError (Store × Option MessageId) :=
  let values := placeholderValues env.format s.records env.testClientFirstName run.clientId
  let personalized := personalizeContent values run.aiDraftContent
  match personalized.get? "body" with
  | none => .error (.keyError "body")
  | some body =>
    match checkNoUnresolvedPlaceholders (personalized.getD "subject" "") body with
    | .error failure =>
      .ok ({ s with runs := s.runs.set runId (run.refused failure) }, none)
    | .ok () =>
      let (s, slot) := match cohortSlot with
        | some slot => (s, slot)
        | none => resolveCohortSlot env s campaignId run.priorityTier newCohort
      let message : OutreachMessage :=
        { campaignId := campaignId
          clientId := run.clientId
          channel := channel
          generationRunId := runId
          aiDraftContent := run.aiDraftContent
          personalizedContent := some personalized
          callBrief := callBrief
          cohortId := slot.cohortId
          isSample := slot.isSample }
      .ok ({ s with messages := s.messages.set newMessage message }, some newMessage)

/-- What the drafting graph returns for a client. -/
structure GenerationState where
  runId : RunId
  priorityTier : Option String
  angle : Option String
  status : RunStatus
  failedGuardrail : Option String := none
  reason : Option String := none
  rawStructuredOutput : Content
  callBrief : Option String := none

/-- `persist_generation_run`. -/
def persistGenerationRun (clientId : ClientId) (state : GenerationState) : GenerationRun where
  clientId := clientId
  priorityTier := state.priorityTier
  angle := state.angle
  status := state.status
  failedGuardrail := state.failedGuardrail
  reason := state.reason
  aiDraftContent := state.rawStructuredOutput

/-- `_generate_and_persist`: the run is stored either way, the message if it was accepted. -/
def generateAndPersist (env : Env) (s : Store) (clientId : ClientId) (campaignId : CampaignId)
    (channel : String) (state : GenerationState) (cohortSlot : Option CohortSlot)
    (newMessage : MessageId) (newCohort : CohortId) :
    Except CreateError (Store × Option MessageId) :=
  let run := persistGenerationRun clientId state
  let s := { s with runs := s.runs.set state.runId run }
  if state.status ≠ .accepted then .ok (s, none)
  else createOutreachMessage env s state.runId run campaignId channel state.callBrief cohortSlot
    newMessage newCohort

/-! ## Decisions -/

inductive ReviewError where
  | messageNotFound (id : MessageId)
  | messageAlreadyDecided (id : MessageId) (status : MessageStatus)
  | editedContentRequired (text : String)
  | invalidOutcome (outcome : Outcome)
  | cohortNotFound (id : CohortId)
  | cohortNotReady (status : CohortStatus)

def statusText : MessageStatus → String
  | .pendingReview => "pending_review"
  | .approved => "approved"
  | .rejected => "rejected"
  | .escalated => "escalated"
  | .held => "held"

def Outcome.text : Outcome → String
  | .approve => "approve"
  | .editApprove => "edit_approve"
  | .reject => "reject"
  | .escalate => "escalate"
  | .hold => "hold"

/-- `_TERMINAL_STATUSES`. -/
def terminalStatuses : List MessageStatus := [.approved, .rejected]

/-- `_STATUS_FOR_OUTCOME`. -/
def statusForOutcome : Outcome → MessageStatus
  | .approve => .approved
  | .editApprove => .approved
  | .reject => .rejected
  | .escalate => .escalated
  | .hold => .held

/-- `_COHORT_DISALLOWED_OUTCOMES`. -/
def cohortDisallowedOutcomes : List Outcome := [.reject, .escalate, .hold]

def getMessage (s : Store) (id : MessageId) : Except ReviewError OutreachMessage :=
  match s.messages.get? id with
  | none => .error (.messageNotFound id)
  | some message => .ok message

/-- The angle and tier of the message's run (`_label_for_message`). -/
def labelForMessage (s : Store) (message : OutreachMessage) : Option String × Option String :=
  match s.runs.get? message.generationRunId with
  | none => (none, none)
  | some run => (run.angle, run.priorityTier)

/-- The message as an outcome leaves it. -/
def OutreachMessage.decided (message : OutreachMessage) (outcome : Outcome) : OutreachMessage :=
  { message with status := statusForOutcome outcome }

def decideMessage (s : Store) (id : MessageId) (outcome : Outcome) (reviewerId : String)
    (reason : Option String) (editedContent : Option (Dict String Json)) :
    Except ReviewError (Store × ReviewAction) :=
  if outcome = .editApprove ∧ editedContent.all (·.items.isEmpty) then
    .error (.editedContentRequired "edit_approve requires edited_content")
  else
    (getMessage s id).bind fun message =>
      if message.status ∈ terminalStatuses then
        .error (.messageAlreadyDecided id message.status)
      else if message.cohortId.isSome ∧ outcome ∈ cohortDisallowedOutcomes then
        .error (.invalidOutcome outcome)
      else
        let (messageAngle, priorityTier) := labelForMessage s message
        let action : ReviewAction :=
          { messageId := id
            reviewerId := reviewerId
            outcome := outcome
            editedContent := editedContent
            messageAngle := messageAngle
            priorityTier := priorityTier
            reason := reason }
        .ok ({ s with
          messages := s.messages.set id (message.decided outcome)
          actions := s.actions ++ [action] }, action)

structure BatchDecideFailure where
  messageId : MessageId
  error : String

structure BatchDecideResult where
  decided : List ReviewAction := []
  failed : List BatchDecideFailure := []

/-- What a batch reports for a message it could not decide. -/
def ReviewError.batchText : ReviewError → String
  | .messageNotFound _ => "not_found"
  | .messageAlreadyDecided id status => id ++ " is already " ++ statusText status
  | .editedContentRequired text => text
  | .invalidOutcome outcome => outcome.text
  | .cohortNotFound id => id
  | .cohortNotReady _ => ""

/-- The loop of a batch: a message that cannot be decided is reported and skipped. -/
def decideEach (s : Store) (outcome : Outcome) (reviewerId : String) (reason : Option String) :
    List MessageId → Store × BatchDecideResult
  | [] => (s, {})
  | id :: ids =>
    match decideMessage s id outcome reviewerId reason none with
    | .ok (s', action) =>
      let (last, result) := decideEach s' outcome reviewerId reason ids
      (last, { result with decided := action :: result.decided })
    | .error error =>
      let (last, result) := decideEach s outcome reviewerId reason ids
      (last, { result with failed := ⟨id, error.batchText⟩ :: result.failed })

def decideBatch (s : Store) (ids : List MessageId) (outcome : Outcome) (reviewerId : String)
    (reason : Option String) : Except ReviewError (Store × BatchDecideResult) :=
  if outcome = .editApprove then
    .error (.editedContentRequired
      "edit_approve is not supported by decide_batch; edit messages one at a time")
  else .ok (decideEach s outcome reviewerId reason ids)

/-! ## Cohorts -/

/-- The pending messages of a cohort, its samples or the others. -/
def pendingIn (s : Store) (cohortId : CohortId) (isSample : Bool) : List MessageId :=
  (s.messages.items.filter fun (_, message) =>
    message.cohortId = some cohortId ∧ message.isSample = isSample ∧
      message.status = .pendingReview).map Prod.fst

def Store.setStatus (s : Store) (cohortId : CohortId) (status : CohortStatus) : Store :=
  match s.cohorts.get? cohortId with
  | none => s
  | some cohort => { s with cohorts := s.cohorts.set cohortId { cohort with status := status } }

structure CohortReadyInfo where
  cohortId : CohortId
  remainingCount : ℕ

/-- Moves a cohort that is still sampling on once its last pending sample is decided. -/
def checkCohortReady (s : Store) (message : OutreachMessage) : Store × Option CohortReadyInfo :=
  match message.cohortId with
  | none => (s, none)
  | some cohortId =>
    if ¬ message.isSample then (s, none)
    else
      match s.cohorts.get? cohortId with
      | none => (s, none)
      | some cohort =>
        if cohort.status ≠ .sampling then (s, none)
        else if pendingIn s cohortId true ≠ [] then (s, none)
        else if pendingIn s cohortId false = [] then (s.setStatus cohortId .completed, none)
        else (s.setStatus cohortId .readyToApproveRest,
          some ⟨cohortId, (pendingIn s cohortId false).length⟩)

def approveCohortRemainder (s : Store) (cohortId : CohortId) (reviewerId : String) :
    Except ReviewError (Store × BatchDecideResult) :=
  match s.cohorts.get? cohortId with
  | none => .error (.cohortNotFound cohortId)
  | some cohort =>
    if cohort.status ≠ .readyToApproveRest then .error (.cohortNotReady cohort.status)
    else
      (decideBatch s (pendingIn s cohortId false) .approve reviewerId
        (some "cohort sample approved")).map fun (s', result) =>
          (s'.setStatus cohortId .completed, result)

/-- The endpoint that decides one message. -/
def decideReview (s : Store) (id : MessageId) (outcome : Outcome) (reviewerId : String)
    (reason : Option String) (editedContent : Option (Dict String Json)) :
    Except ReviewError (Store × ReviewAction × Option CohortReadyInfo) :=
  (getMessage s id).bind fun message =>
    (decideMessage s id outcome reviewerId reason editedContent).map fun (s', action) =>
      let (last, ready) := checkCohortReady s' message
      (last, action, ready)

/-! ## Regenerating -/

inductive RegenerateError where
  | messageNotFound (id : MessageId)
  | messageNotRegenerable (status : MessageStatus)
  | regenerationRejected (id : MessageId)
  | create (error : CreateError)

/-- The touches of one message, pointed at another. -/
def repoint (db : Database) (old new : MessageId) : Database :=
  { db with touches := db.touches.mapValues fun touch =>
      if touch.messageId = some old then { touch with messageId := some new } else touch }

/-- Replaces a pending message by a fresh draft in its cohort slot. -/
def regenerateMessage (env : Env) (s : Store) (id : MessageId) (state : GenerationState)
    (newMessage : MessageId) : Except RegenerateError (Store × MessageId) :=
  match s.messages.get? id with
  | none => .error (.messageNotFound id)
  | some message =>
    if message.status ≠ .pendingReview then .error (.messageNotRegenerable message.status)
    else
      match generateAndPersist env s message.clientId message.campaignId message.channel state
        (some ⟨message.cohortId, message.isSample⟩) newMessage "" with
      | .error error => .error (.create error)
      | .ok (_, none) => .error (.regenerationRejected id)
      | .ok (s', some fresh) =>
        .ok ({ s' with
          campaigns := repoint s'.campaigns id fresh
          messages := s'.messages.erase id }, fresh)

/-! ## The workflow -/

/-- A call of the workflow, with the arguments that matter to the reviewers. -/
inductive ReviewCall where
  | create (campaignId : CampaignId) (priorityTier : Option String)
  | regenerate (id : MessageId)
  | decide (id : MessageId) (outcome : Outcome) (editedContent : Option (Dict String Json))
  | decideBatch (ids : List MessageId) (outcome : Outcome)
  | approveRemainder (cohortId : CohortId)
  | others

/-- What a call that ends well leaves. Ids are made new. -/
inductive ReviewStep (s : Store) : ReviewCall → Store → Prop where
  | create {env runId run campaignId channel callBrief newMessage newCohort made s'}
      (freshMessage : s.messages.get? newMessage = none)
      (freshCohort : s.cohorts.get? newCohort = none)
      (created : createOutreachMessage env s runId run campaignId channel callBrief none newMessage
        newCohort = .ok (s', made)) :
      ReviewStep s (.create campaignId run.priorityTier) s'
  | regenerate {env id state newMessage fresh s'}
      (freshMessage : s.messages.get? newMessage = none)
      (regenerated : regenerateMessage env s id state newMessage = .ok (s', fresh)) :
      ReviewStep s (.regenerate id) s'
  | decide {id outcome reviewerId reason editedContent s' result}
      (decided : decideReview s id outcome reviewerId reason editedContent = .ok (s', result)) :
      ReviewStep s (.decide id outcome editedContent) s'
  | decideBatch {ids outcome reviewerId reason s' result}
      (decided : decideBatch s ids outcome reviewerId reason = .ok (s', result)) :
      ReviewStep s (.decideBatch ids outcome) s'
  | approveRemainder {cohortId reviewerId s' result}
      (approved : approveCohortRemainder s cohortId reviewerId = .ok (s', result)) :
      ReviewStep s (.approveRemainder cohortId) s'
  -- the other tables are written by others
  | others {s'} (messages : s'.messages = s.messages) (cohorts : s'.cohorts = s.cohorts)
      (actions : s'.actions = s.actions) : ReviewStep s .others s'

/-! ## What the operations do -/

variable {env : Env} {s s' : Store} {id newMessage : MessageId} {outcome : Outcome}
  {reviewerId : String} {reason : Option String} {editedContent : Option (Dict String Json)}

/-- The personalized content of a new message: it has a body, and no placeholder is left. -/
def Personalized (content : Content) : Prop :=
  ∃ body, content.get? "body" = some body ∧
    checkNoUnresolvedPlaceholders (content.getD "subject" "") body = .ok ()

/-- A new message waits for review in the slot it was given. -/
structure Drafted (message : OutreachMessage) (runId : RunId) (run : GenerationRun)
    (campaignId : CampaignId) (channel : String) (slot : CohortSlot) : Prop where
  campaignId : message.campaignId = campaignId
  clientId : message.clientId = run.clientId
  channel : message.channel = channel
  pending : message.status = .pendingReview
  generationRunId : message.generationRunId = runId
  cohortId : message.cohortId = slot.cohortId
  isSample : message.isSample = slot.isSample
  personalized : ∃ content, message.personalizedContent = some content ∧ Personalized content

/-- The slot of a new message, and the store once it is claimed. -/
def claimSlot (env : Env) (s : Store) (campaignId : CampaignId) (priorityTier : Option String)
    (cohortSlot : Option CohortSlot) (newCohort : CohortId) : Store × CohortSlot :=
  match cohortSlot with
  | some slot => (s, slot)
  | none => resolveCohortSlot env s campaignId priorityTier newCohort

/-- A creation stores one new message in a claimed slot, or refuses the run. -/
lemma createOutreachMessage_ok {runId : RunId} {run : GenerationRun} {campaignId : CampaignId}
    {channel : String} {callBrief : Option String} {cohortSlot : Option CohortSlot}
    {newCohort : CohortId} {made : Option MessageId}
    (h : createOutreachMessage env s runId run campaignId channel callBrief cohortSlot newMessage
      newCohort = .ok (s', made)) :
    (made = none ∧ ∃ refused, s' = { s with runs := s.runs.set runId refused }) ∨
      made = some newMessage ∧ ∃ message claimed slot,
        claimSlot env s campaignId run.priorityTier cohortSlot newCohort = (claimed, slot) ∧
        Drafted message runId run campaignId channel slot ∧
        s' = { claimed with messages := claimed.messages.set newMessage message } := by
  simp only [createOutreachMessage] at h
  split at h
  · cases h
  · rename_i body hasBody
    split at h
    · cases h
      exact .inl ⟨rfl, _, rfl⟩
    · rename_i checked
      cases h
      refine .inr ⟨rfl, _, _, _, rfl, ?_, rfl⟩
      exact ⟨rfl, rfl, rfl, rfl, rfl, rfl, rfl, _, rfl, body, hasBody, checked⟩

/-- A claim changes the cohorts only. -/
lemma claimSlot_frame {campaignId : CampaignId} {tier : Option String}
    {cohortSlot : Option CohortSlot} {newCohort : CohortId} {claimed : Store} {slot : CohortSlot}
    (h : claimSlot env s campaignId tier cohortSlot newCohort = (claimed, slot)) :
    claimed = { s with cohorts := claimed.cohorts } := by
  cases cohortSlot with
  | some given =>
    cases h
    rfl
  | none =>
    cases tier with
    | none =>
      cases h
      rfl
    | some tier =>
      cases h
      rfl

/-- What a decision writes. -/
structure Decided (s : Store) (id : MessageId) (outcome : Outcome)
    (editedContent : Option (Dict String Json)) (message : OutreachMessage) (action : ReviewAction)
    (s' : Store) : Prop where
  found : s.messages.get? id = some message
  undecided : message.status ∉ terminalStatuses
  allowed : message.cohortId.isSome = true → outcome ∉ cohortDisallowedOutcomes
  edited : outcome = .editApprove → ∃ content, editedContent = some content
  left : s' = { s with
    messages := s.messages.set id (message.decided outcome)
    actions := s.actions ++ [action] }
  messageId : action.messageId = id
  outcome : action.outcome = outcome
  editedContent : action.editedContent = editedContent

lemma decideMessage_ok {action : ReviewAction}
    (h : decideMessage s id outcome reviewerId reason editedContent = .ok (s', action)) :
    ∃ message, Decided s id outcome editedContent message action s' := by
  rw [decideMessage] at h
  split at h
  · cases h
  · rename_i complete
    obtain ⟨message, found, h⟩ := bind_eq_ok.mp h
    have stored : s.messages.get? id = some message := by
      rw [getMessage] at found
      split at found
      · cases found
      · rename_i there
        cases found
        exact there
    split at h
    · cases h
    · rename_i undecided
      split at h
      · cases h
      · rename_i allowed
        cases h
        refine ⟨message, stored, undecided, ?_, ?_, rfl, rfl, rfl, rfl⟩
        · intro inCohort mem
          exact allowed ⟨inCohort, mem⟩
        · intro edits
          cases editedContent with
          | none => exact absurd ⟨edits, rfl⟩ complete
          | some content => exact ⟨content, rfl⟩

/-- An undecided message that is not refused is decided. -/
lemma decideMessage_approve {message : OutreachMessage} (found : s.messages.get? id = some message)
    (undecided : message.status ∉ terminalStatuses) :
    ∃ s' action, decideMessage s id .approve reviewerId reason none = .ok (s', action) := by
  rw [decideMessage, if_neg (by simp), getMessage, found]
  simp only [Except.bind]
  rw [if_neg undecided, if_neg (by simp [cohortDisallowedOutcomes])]
  exact ⟨_, _, rfl⟩

lemma regenerateMessage_ok {state : GenerationState} {fresh : MessageId}
    (h : regenerateMessage env s id state newMessage = .ok (s', fresh)) :
    fresh = newMessage ∧ ∃ message new run, s.messages.get? id = some message ∧
      message.status = .pendingReview ∧
      Drafted new state.runId run message.campaignId message.channel
        ⟨message.cohortId, message.isSample⟩ ∧
      run = persistGenerationRun message.clientId state ∧
      s' = { s with
        campaigns := repoint s.campaigns id newMessage
        runs := s.runs.set state.runId run
        messages := (s.messages.set newMessage new).erase id } := by
  rw [regenerateMessage] at h
  split at h
  · cases h
  · rename_i message found
    split at h
    · cases h
    · rename_i pending
      split at h
      · cases h
      · cases h
      · rename_i s₁ made generated
        cases h
        rw [generateAndPersist] at generated
        split at generated
        · cases generated
        · cases createOutreachMessage_ok generated with
          | inl refused => cases refused.1
          | inr stored =>
            obtain ⟨same, new, claimed, slot, claim, drafted, left⟩ := stored
            cases same
            cases claim
            refine ⟨rfl, message, new, _, found, not_not.mp pending, drafted, rfl, ?_⟩
            rw [left]

end ClientEngagement.Review
