import ClientEngagement.Campaigns.BatchGeneration
import ClientEngagement.Review.CohortReview

/-!
# Drafting a touch

Model of `generate_touch` (`campaigns/touch.py`) with the generation of `campaigns/generation.py`
(`generate_for_enrollment`) over the review tables: `draftTouch`. `ingestDraft` is what an ingestion
stores for one result of a batch, `instantiateTouch` what `campaigns/instantiation.py` stores for one
member of an approved template's bucket. `Linked` is what they and every later call keep: a touch
points to a message of its own enrollment.
-/

namespace ClientEngagement.Review
open Campaigns

/-- Logs the touch and drafts its message, unless it has one. -/
def draftTouch (env : Env) (s : Store) (e : Enrollment) (stepNo : ℤ) (channel : String)
    (state : GenerationState) (newMessage : MessageId) (newCohort : CohortId) :
    Except CreateError (Store × TouchLog) :=
  let (logged, touch) := recordTouch s.campaigns e.enrollmentId stepNo
  let s := { s with campaigns := logged }
  if touch.messageId.isSome then .ok (s, touch)
  else
    (generateAndPersist env s e.clientId e.campaignId channel state none newMessage newCohort).map
      fun (s, made) =>
        match made with
        | none => (s, touch)
        | some id =>
          let touch := { touch with messageId := some id }
          ({ s with campaigns := s.campaigns.storeTouch (e.enrollmentId, stepNo) touch }, touch)

/-- Stores a result of a batch: the run, its message if it was accepted, and the touch. -/
def ingestDraft (env : Env) (s : Store) (batch : GenerationBatch) (item : GenerationBatchItem)
    (state : GenerationState) (newMessage : MessageId) (newCohort : CohortId) :
    Except CreateError Store :=
  (generateAndPersist env s item.clientId batch.campaignId item.channel state none newMessage
    newCohort).map fun (s, made) =>
      match made with
      | none => s
      | some id =>
        { s with campaigns := pointTouch s.campaigns (item.enrollmentId, item.stepNo) id }

/-- Points the touch of a member's next step at the message its template was made into, unless it has
    one already. -/
def instantiateTouch (s : Store) (e : Enrollment) (newMessage : MessageId)
    (message : OutreachMessage) : Store :=
  let (logged, touch) := recordTouch s.campaigns e.enrollmentId (e.currentStep + 1)
  if touch.messageId.isSome then { s with campaigns := logged }
  else
    { s with
      messages := s.messages.set newMessage message
      campaigns := logged.storeTouch (e.enrollmentId, e.currentStep + 1)
        { touch with messageId := some newMessage } }

/-! ## What a draft changes -/

variable {env : Env} {s s' : Store} {e : Enrollment} {stepNo : ℤ} {channel : String}
  {state : GenerationState} {id newMessage : MessageId} {newCohort : CohortId}

/-- A generation stores a run, and a message for the client and the campaign it was asked for if it
    has one. -/
lemma generateAndPersist_ok {clientId : ClientId} {campaignId : CampaignId}
    {cohortSlot : Option CohortSlot} {made : Option MessageId}
    (h : generateAndPersist env s clientId campaignId channel state cohortSlot newMessage newCohort =
      .ok (s', made)) :
    s'.campaigns = s.campaigns ∧
      ((made = none ∧ s'.messages = s.messages) ∨
        made = some newMessage ∧ ∃ message, s'.messages = s.messages.set newMessage message ∧
          message.campaignId = campaignId ∧ message.clientId = clientId ∧
          message.status = .pendingReview ∧ message.generationRunId = state.runId ∧
          s'.runs = s.runs.set state.runId (persistGenerationRun clientId state)) := by
  rw [generateAndPersist] at h
  split at h
  · cases h
    exact ⟨rfl, .inl ⟨rfl, rfl⟩⟩
  · rcases createOutreachMessage_ok h with ⟨refusal, refused, left⟩ |
      ⟨accepted, message, claimed, slot, claim, drafted, left⟩
    · rw [left]
      exact ⟨rfl, .inl ⟨refusal, rfl⟩⟩
    · have frame := claimSlot_frame claim
      rw [left, frame]
      exact ⟨rfl, .inr ⟨accepted, message, rfl, drafted.campaignId, drafted.clientId,
        drafted.pending, drafted.generationRunId, rfl⟩⟩

/-! ## Messages and enrollments -/

/-- A touch points to a message. -/
def Points (db : Database) (key : EnrollmentId × ℤ) (id : MessageId) : Prop :=
  ∃ touch, db.touches.get? key = some touch ∧ touch.messageId = some id

/-- The message is for the client and the campaign of the enrollment. -/
def For (message : OutreachMessage) (e : Enrollment) : Prop :=
  message.campaignId = e.campaignId ∧ message.clientId = e.clientId

structure Linked (s : Store) : Prop where
  own : ∀ id e, s.campaigns.enrollments.get? id = some e → e.enrollmentId = id
  drafted : ∀ key id, Points s.campaigns key id → ∃ message e,
    s.messages.get? id = some message ∧ s.campaigns.enrollments.get? key.1 = some e ∧ For message e

/-- The messages keep their client and campaign. -/
def KeepsMessages (s s' : Store) : Prop :=
  ∀ id message, s.messages.get? id = some message → ∃ message', s'.messages.get? id = some message' ∧
    message'.campaignId = message.campaignId ∧ message'.clientId = message.clientId

/-- The enrollments keep their client and campaign, and new ones come under their own id. -/
structure KeepsEnrollments (db db' : Database) : Prop where
  kept : ∀ id e, db.enrollments.get? id = some e → ∃ e', db'.enrollments.get? id = some e' ∧
    e'.campaignId = e.campaignId ∧ e'.clientId = e.clientId
  own : (∀ id e, db.enrollments.get? id = some e → e.enrollmentId = id) →
    ∀ id e, db'.enrollments.get? id = some e → e.enrollmentId = id

lemma KeepsMessages.of_eq (same : s'.messages = s.messages) : KeepsMessages s s' := by
  intro id message found
  rw [same]
  exact ⟨message, found, rfl, rfl⟩

lemma KeepsMessages.trans {s₁ : Store} (h : KeepsMessages s s₁) (h' : KeepsMessages s₁ s') :
    KeepsMessages s s' := by
  intro id message found
  obtain ⟨between, there, campaign, client⟩ := h id message found
  obtain ⟨last, found', campaign', client'⟩ := h' id between there
  exact ⟨last, found', campaign'.trans campaign, client'.trans client⟩

/-- A message is stored under a new id. -/
lemma KeepsMessages.new {message : OutreachMessage} (fresh : s.messages.get? id = none)
    (rows : s'.messages = s.messages.set id message) : KeepsMessages s s' := by
  intro key row found
  rw [rows]
  refine ⟨row, (Dict.get?_set_ne _ _ ?_).trans found, rfl, rfl⟩
  intro same
  rw [same, fresh] at found
  cases found

lemma KeepsMessages.decided {outcome : Outcome} {edited : Option (Dict String Json)}
    {message : OutreachMessage} {action : ReviewAction}
    (decided : Decided s id outcome edited message action s') : KeepsMessages s s' := by
  intro key row found
  rw [decided.left]
  simp only [Dict.get?_set]
  split
  · rename_i same
    subst same
    cases found.symm.trans decided.found
    exact ⟨_, rfl, rfl, rfl⟩
  · exact ⟨row, found, rfl, rfl⟩

lemma KeepsEnrollments.of_eq {db db' : Database} (same : db'.enrollments = db.enrollments) :
    KeepsEnrollments db db' where
  kept _ e found := ⟨e, same ▸ found, rfl, rfl⟩
  own own := same ▸ own

/-- An enrollment is written back under its own id. -/
lemma KeepsEnrollments.store {db : Database} {e e' : Enrollment}
    (found : db.enrollments.get? e.enrollmentId = some e) (same_id : e'.enrollmentId = e.enrollmentId)
    (campaign : e'.campaignId = e.campaignId) (client : e'.clientId = e.clientId) :
    KeepsEnrollments db (db.storeEnrollment e') where
  kept key row there := by
    simp only [Database.storeEnrollment, Dict.get?_set, same_id]
    split
    · rename_i same
      subst same
      cases found.symm.trans there
      exact ⟨e', rfl, campaign, client⟩
    · exact ⟨row, there, rfl, rfl⟩
  own own key row there := by
    simp only [Database.storeEnrollment, Dict.get?_set] at there
    split at there
    · rename_i same
      cases there
      exact same.symm
    · exact own key row there

/-- A call that keeps both, and points touches nowhere new, keeps the links. -/
lemma Linked.keep (l : Linked s) (messages : KeepsMessages s s')
    (enrollments : KeepsEnrollments s.campaigns s'.campaigns)
    (touches : ∀ key id, Points s'.campaigns key id → Points s.campaigns key id) : Linked s' where
  own := enrollments.own l.own
  drafted key id points := by
    obtain ⟨message, e, found, enrolled, campaign, client⟩ := l.drafted key id (touches key id points)
    obtain ⟨message', found', campaign', client'⟩ := messages id message found
    obtain ⟨e', enrolled', campaign'', client''⟩ := enrollments.kept key.1 e enrolled
    exact ⟨message', e', found', enrolled', by rw [campaign', campaign'', campaign],
      by rw [client', client'', client]⟩

/-- A new message that one touch is pointed to is for that touch's enrollment. -/
lemma Linked.point {message : OutreachMessage} (key : EnrollmentId × ℤ) (l : Linked s)
    (fresh : s.messages.get? id = none) (rows : s'.messages = s.messages.set id message)
    (enrolled : s.campaigns.enrollments.get? key.1 = some e) (mine : For message e)
    (enrollments : s'.campaigns.enrollments = s.campaigns.enrollments)
    (touches : ∀ k i, Points s'.campaigns k i → (k = key ∧ i = id) ∨ Points s.campaigns k i) :
    Linked s' where
  own := by
    rw [enrollments]
    exact l.own
  drafted k i points := by
    rw [enrollments]
    rcases touches k i points with ⟨rfl, rfl⟩ | before
    · exact ⟨message, e, by rw [rows, Dict.get?_set_self], enrolled, mine⟩
    · obtain ⟨row, e', found, enrolled', mine'⟩ := l.drafted k i before
      obtain ⟨row', found', campaign, client⟩ := KeepsMessages.new fresh rows i row found
      exact ⟨row', e', found', enrolled', campaign.trans mine'.1, client.trans mine'.2⟩

/-- Logging a touch points it nowhere. -/
lemma points_recordTouch {db : Database} {enrollmentId : EnrollmentId} {key : EnrollmentId × ℤ}
    (points : Points (recordTouch db enrollmentId stepNo).1 key id) : Points db key id := by
  obtain ⟨touch, found, pointed⟩ := points
  rw [recordTouch] at found
  split at found
  · exact ⟨touch, found, pointed⟩
  · simp only [Database.storeTouch, Dict.get?_set] at found
    split at found
    · cases found
      cases pointed
    · exact ⟨touch, found, pointed⟩

lemma points_storeTouch {db : Database} {key k : EnrollmentId × ℤ} {touch : TouchLog}
    (points : Points (db.storeTouch key touch) k id) :
    (k = key ∧ touch.messageId = some id) ∨ Points db k id := by
  obtain ⟨row, found, pointed⟩ := points
  simp only [Database.storeTouch, Dict.get?_set] at found
  split at found
  · rename_i same
    cases found
    exact .inl ⟨same, pointed⟩
  · exact .inr ⟨row, found, pointed⟩

lemma points_pointTouch {db : Database} {key k : EnrollmentId × ℤ} {i : MessageId}
    (points : Points (pointTouch db key id) k i) : (k = key ∧ i = id) ∨ Points db k i := by
  rw [pointTouch] at points
  split at points
  · exact .inr points
  · rcases points_storeTouch points with ⟨same, pointed⟩ | before
    · cases pointed
      exact .inl ⟨same, rfl⟩
    · exact .inr before

lemma enrollments_pointTouch {db : Database} {key : EnrollmentId × ℤ} :
    (pointTouch db key id).enrollments = db.enrollments := by
  rw [pointTouch]
  split
  · rfl
  · rfl

/-- A draft is linked to the enrollment it was made for. -/
lemma Linked.draftTouch {touch : TouchLog} (l : Linked s)
    (enrolled : s.campaigns.enrollments.get? e.enrollmentId = some e)
    (fresh : s.messages.get? newMessage = none)
    (h : draftTouch env s e stepNo channel state newMessage newCohort = .ok (s', touch)) :
    Linked s' := by
  have frame := (recordTouch_frame s.campaigns e.enrollmentId stepNo).1
  have logged : Linked { s with campaigns := (recordTouch s.campaigns e.enrollmentId stepNo).1 } :=
    l.keep (.of_eq rfl) (.of_eq frame) fun _ _ => points_recordTouch
  simp only [Review.draftTouch] at h
  split at h
  · cases h
    exact logged
  · obtain ⟨⟨s₁, made⟩, generated, same⟩ := map_eq_ok.mp h
    obtain ⟨campaigns, none_made | stored⟩ := generateAndPersist_ok generated
    · obtain ⟨rfl, messages⟩ := none_made
      cases same
      exact logged.keep (.of_eq messages) (.of_eq (by rw [campaigns])) fun _ _ p => campaigns ▸ p
    · obtain ⟨rfl, message, messages, campaign, client, _⟩ := stored
      cases same
      refine logged.point (e.enrollmentId, stepNo) fresh messages (frame ▸ enrolled)
        ⟨campaign, client⟩ ?_ fun k i points => ?_
      · simp only [campaigns, Database.storeTouch]
      · rcases points_storeTouch points with ⟨same, pointed⟩ | before
        · cases pointed
          exact .inl ⟨same, rfl⟩
        · exact .inr (campaigns ▸ before)

/-- So is a message made from a template, which is the member's own. -/
lemma Linked.instantiateTouch {message : OutreachMessage} (l : Linked s)
    (enrolled : s.campaigns.enrollments.get? e.enrollmentId = some e)
    (fresh : s.messages.get? newMessage = none) (mine : For message e) :
    Linked (instantiateTouch s e newMessage message) := by
  have frame := (recordTouch_frame s.campaigns e.enrollmentId (e.currentStep + 1)).1
  rw [Review.instantiateTouch]
  dsimp only
  split
  · exact l.keep (.of_eq rfl) (.of_eq frame) fun _ _ => points_recordTouch
  · refine l.point (e.enrollmentId, e.currentStep + 1) fresh rfl enrolled mine frame
      fun k i points => ?_
    rcases points_storeTouch points with ⟨same, pointed⟩ | before
    · cases pointed
      exact .inl ⟨same, rfl⟩
    · exact .inr (points_recordTouch before)

/-- So is a draft of a batch, whose item was built from the enrollment. -/
lemma Linked.ingestDraft {batch : GenerationBatch} {item : GenerationBatchItem} (l : Linked s)
    (enrolled : s.campaigns.enrollments.get? item.enrollmentId = some e)
    (campaign : e.campaignId = batch.campaignId) (client : item.clientId = e.clientId)
    (fresh : s.messages.get? newMessage = none)
    (h : ingestDraft env s batch item state newMessage newCohort = .ok s') : Linked s' := by
  obtain ⟨⟨s₁, made⟩, generated, same⟩ := map_eq_ok.mp h
  obtain ⟨campaigns, none_made | stored⟩ := generateAndPersist_ok generated
  · obtain ⟨rfl, messages⟩ := none_made
    cases same
    exact l.keep (.of_eq messages) (.of_eq (by rw [campaigns])) fun _ _ p => campaigns ▸ p
  · obtain ⟨rfl, message, messages, campaign', client', _⟩ := stored
    cases same
    refine l.point (item.enrollmentId, item.stepNo) fresh messages enrolled
      ⟨campaign'.trans campaign.symm, client'.trans client⟩ ?_ fun k i points => ?_
    · exact enrollments_pointTouch.trans (by rw [campaigns])
    · rcases points_pointTouch points with at_item | before
      · exact .inl at_item
      · exact .inr (campaigns ▸ before)

end ClientEngagement.Review
