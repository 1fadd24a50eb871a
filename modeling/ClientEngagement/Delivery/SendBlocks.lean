import ClientEngagement.Campaigns.Indicators
import ClientEngagement.Delivery.Senders
import ClientEngagement.Review.Drafts
import ClientEngagement.Rules.ActiveVersion
import ClientEngagement.Rules.KeyIsolation

/-!
# What stops an approved message

Drafting, review, everything that blocks a send and the send itself as one system (`BlockStep`). When
the sender is asked, the message is approved and its campaign, its client and the delivery mode allow
it (`Unblocked`), whatever happened in between. The hold of an angle is looked up for the angle the
client has by then, not for the one the message was drafted under, so it stops the message exactly as
long as the client's angle is held too (`HoldFollows`).
-/

namespace ClientEngagement.Delivery
open Campaigns Review
open Rules (Date RuleStore Catalog)

/-- An event, with what the send looks at. -/
inductive BlockEvent where
  | generate (key : EnrollmentId × ℤ)
  | ingest (key : EnrollmentId × ℤ)
  | instantiate (key : EnrollmentId × ℤ)
  | review (call : ReviewCall)
  | publishAngles
  | populateIndicators
  | runProposal (clientId : ClientId) (angle : String)
  | setCampaignStatus (campaignId : CampaignId) (status : CampaignStatus)
  | suppress (clientId : ClientId)
  | optOut (clientId : ClientId)
  | contactEvent (event : ContactEvent)
  | others
  | send (env : Campaigns.Env) (key : EnrollmentId × ℤ) (id : MessageId)

/-- The calls that decide or redraft messages. -/
def isDecision : ReviewCall → Bool
  | .regenerate _ | .decide _ _ _ | .decideBatch _ _ | .approveRemainder _ => true
  | _ => false

/-- A write of somebody else: the tables of the campaigns change, the messages do not. -/
def withTables (s : Review.Store) (db : Database) : Review.Store := { s with campaigns := db }

inductive BlockStep (s : Review.Store) : BlockEvent → Review.Store → Prop where
  | generate {env e stepNo channel state newMessage newCohort s' touch}
      (enrolled : s.campaigns.enrollments.get? e.enrollmentId = some e)
      (freshMessage : s.messages.get? newMessage = none)
      (drafted : draftTouch env s e stepNo channel state newMessage newCohort = .ok (s', touch)) :
      BlockStep s (.generate (e.enrollmentId, stepNo)) s'
  -- an item of a batch was built from its enrollment
  | ingest {env e batch item state newMessage newCohort s'}
      (enrolled : s.campaigns.enrollments.get? item.enrollmentId = some e)
      (campaign : e.campaignId = batch.campaignId) (client : item.clientId = e.clientId)
      (freshMessage : s.messages.get? newMessage = none)
      (drafted : ingestDraft env s batch item state newMessage newCohort = .ok s') :
      BlockStep s (.ingest (item.enrollmentId, item.stepNo)) s'
  | instantiate {e message newMessage}
      (enrolled : s.campaigns.enrollments.get? e.enrollmentId = some e)
      (freshMessage : s.messages.get? newMessage = none) (mine : For message e) :
      BlockStep s (.instantiate (e.enrollmentId, e.currentStep + 1))
        (instantiateTouch s e newMessage message)
  | review {call s'} (decision : isDecision call = true) (st : ReviewStep s call s') :
      BlockStep s (.review call) s'
  | publishAngles {call catalog}
      (published : Rules.Accepts Rules.saveCatalog s.campaigns.catalog call catalog) :
      BlockStep s .publishAngles (withTables s { s.campaigns with catalog := catalog })
  | populateIndicators {rules features date db count}
      (populated : Campaigns.populateIndicators s.campaigns rules features date = .ok (db, count)) :
      BlockStep s .populateIndicators (withTables s db)
  -- the angle a proposal decided is written for one of its clients
  | runProposal {clientId angle priorityTier holds} :
      BlockStep s (.runProposal clientId angle)
        (withTables s (prepareClientForDrafting s.campaigns clientId angle priorityTier holds).1)
  | setCampaignStatus {campaignId campaign status}
      (found : s.campaigns.campaigns.get? campaignId = some campaign) :
      BlockStep s (.setCampaignStatus campaignId status) (withTables s { s.campaigns with
        campaigns := s.campaigns.campaigns.set campaignId { campaign with status := status } })
  | suppress {clientId suppression} :
      BlockStep s (.suppress clientId) (withTables s { s.campaigns with
        suppression := s.campaigns.suppression.set clientId suppression })
  | optOut {clientId vault} (found : s.campaigns.vault.get? clientId = some vault) :
      BlockStep s (.optOut clientId) (withTables s { s.campaigns with
        vault := s.campaigns.vault.set clientId { vault with optOutFlag := true } })
  | contactEvent {event} :
      BlockStep s (.contactEvent event)
        (withTables s { s.campaigns with events := s.campaigns.events ++ [event] })
  -- whatever else leaves the messages, the enrollments' clients and where touches point
  | others {db} (enrollments : KeepsEnrollments s.campaigns db)
      (touches : ∀ key id, Points db key id → Points s.campaigns key id) :
      BlockStep s .others (withTables s db)
  -- the sender is asked; what the send records is kept, or rolled back
  | send {env key touch message e id after} (logged : s.campaigns.touches.get? key = some touch)
      (pointed : touch.messageId = some id)
      (check : sendCheck s.database env key.1 touch = .handOver message e)
      (kept : after = s.campaigns ∨
        ∃ result, after = (recordSend s.campaigns e key.2 touch result).1) :
      BlockStep s (.send env key id) (withTables s after)

/-! ## What the send must have seen -/

/-- Nothing but the hold of an angle stands against the message. -/
structure Unblocked (db : Database) (env : Campaigns.Env) (message : Campaigns.OutreachMessage) :
    Prop where
  approved : message.status = .approved
  campaign : ∃ campaign, db.campaigns.get? message.campaignId = some campaign ∧
    campaign.status ≠ .paused ∧ campaign.status ≠ .completed ∧
    (campaign.isTest = true ↔ env.deliveryMode = .test)
  unsuppressed : db.suppression.get? message.clientId = none
  optedIn : ∀ vault, db.vault.get? message.clientId = some vault → vault.optOutFlag = false
  unstopped : ∀ event ∈ db.events, event.clientId = message.clientId →
    event.type ≠ .bounce ∧ event.type ≠ .complaint

/-- The angle the message was drafted under. -/
def draftedAngle (s : Review.Store) (message : Review.OutreachMessage) : Option String :=
  (s.runs.get? message.generationRunId).bind GenerationRun.angle

def AngleFree (s : Review.Store) (env : Campaigns.Env) (message : Review.OutreachMessage) : Prop :=
  ∀ angle, draftedAngle s message = some angle →
    Rules.angleIsHeld s.campaigns.catalog angle env.today = false

/-- While the drafted angle is held, so is the angle the client has now. -/
def HoldFollows (s : Review.Store) (env : Campaigns.Env) (message : Review.OutreachMessage) : Prop :=
  ∀ angle, draftedAngle s message = some angle →
    Rules.angleIsHeld s.campaigns.catalog angle env.today = true →
      ∃ indicators, s.campaigns.indicators.get? message.clientId = some indicators ∧
        Rules.angleIsHeld s.campaigns.catalog indicators.messageAngle env.today = true

/-! ## The check before a send -/

variable {db : Database} {env : Campaigns.Env} {e : Enrollment} {channel : String} {gate : GateOutcome}

/-- What a recheck that lets the send through has seen of the client. -/
structure Clear (db : Database) (env : Campaigns.Env) (e : Enrollment) : Prop where
  campaign : ∃ campaign, db.campaigns.get? e.campaignId = some campaign ∧
    campaign.status ≠ .paused ∧ campaign.status ≠ .completed
  angle : angleHeld db env e.clientId = false
  unsuppressed : db.suppression.get? e.clientId = none
  optedIn : (db.vault.get? e.clientId).any PiiVault.optOutFlag = false
  unstopped : latestEventType db e.clientId stoppingEventTypes none = none

/-- In both modes the vault's flag counts as the client's opt-out. -/
lemma vaultSignals_optedOut {clientId : ClientId}
    (h : (vaultSignals db env clientId channel).1 = false) :
    (db.vault.get? clientId).any PiiVault.optOutFlag = false := by
  rw [vaultSignals] at h
  cases mode : env.deliveryMode with
  | test =>
    rw [mode] at h
    exact h
  | live =>
    rw [mode] at h
    cases found : db.vault.get? clientId with
    | none => rfl
    | some vault =>
      rw [found] at h
      exact h

lemma stopReason_none (h : stopReason db env e channel true = none) :
    db.suppression.get? e.clientId = none ∧ (db.vault.get? e.clientId).any PiiVault.optOutFlag = false ∧
      latestEventType db e.clientId stoppingEventTypes none = none := by
  rw [stopReason] at h
  split at h
  · cases h
  · rename_i unsuppressed
    dsimp only at h
    split at h
    · cases h
    · rename_i optedIn
      split at h
      · cases h
      · split at h
        · cases h
        · rename_i unstopped
          exact ⟨unsuppressed, vaultSignals_optedOut (Bool.eq_false_of_not_eq_true optedIn), unstopped⟩

lemma checkStopConditions_clear (h : checkStopConditions db env e channel = .ok gate)
    (eligible : gate.result.eligible = true) : Clear db env e := by
  rw [checkStopConditions] at h
  split at h
  · cases h
    cases eligible
  · rename_i campaign active
    split at h
    · cases h
      cases eligible
    · split at h
      · cases h
        cases eligible
      · rename_i angle
        split at h
        · cases (not_eligible_of_skipTerminal h).symm.trans eligible
        · rename_i none_stops
          obtain ⟨found, statuses⟩ := Option.filter_eq_some_iff.mp active
          simp only [decide_eq_true_eq] at statuses
          obtain ⟨unsuppressed, optedIn, unstopped⟩ := stopReason_none none_stops
          exact ⟨⟨campaign, found, statuses⟩, Bool.eq_false_of_not_eq_true angle, unsuppressed, optedIn,
            unstopped⟩

/-- No event of the given types is on file for the client. -/
lemma latestEventType_none {clientId : ClientId} {types : List ContactEventType}
    (h : latestEventType db clientId types none = none) :
    ∀ event ∈ db.events, event.clientId = clientId → event.type ∉ types := by
  intro event mem mine listed
  rw [latestEventType, Option.map_eq_none_iff, minBy_eq_none, List.filter_eq_nil_iff] at h
  exact h event mem (by simp [mine, listed])

lemma Clear.unblocked {message : Campaigns.OutreachMessage} (clear : Clear db env e)
    (approved : message.status = .approved) (campaignId : message.campaignId = e.campaignId)
    (clientId : message.clientId = e.clientId)
    (mode : (db.campaigns.get? message.campaignId).any Campaign.isTest =
      decide (env.deliveryMode = .test)) : Unblocked db env message where
  approved := approved
  campaign := by
    obtain ⟨campaign, found, statuses⟩ := clear.campaign
    rw [campaignId] at mode ⊢
    rw [found, Option.any_some] at mode
    refine ⟨campaign, found, statuses.1, statuses.2, ?_⟩
    rw [mode, decide_eq_true_eq]
  unsuppressed := by
    rw [clientId]
    exact clear.unsuppressed
  optedIn vault found := by
    have flag := clear.optedIn
    rw [clientId] at found
    rw [found, Option.any_some] at flag
    exact flag
  unstopped event mem mine := by
    rw [clientId] at mine
    have other := latestEventType_none clear.unstopped event mem mine
    constructor
    · intro bounce
      exact other (by simp [bounce, stoppingEventTypes])
    · intro complaint
      exact other (by simp [complaint, stoppingEventTypes])

/-! ## The links are kept -/

variable {s s' : Review.Store} {id : MessageId} {outcome : Outcome} {reviewerId : String}
  {reason : Option String}

lemma campaigns_setStatus (s : Review.Store) (cohortId : CohortId) (status : CohortStatus) :
    (s.setStatus cohortId status).campaigns = s.campaigns := by
  rw [Store.setStatus]
  split
  · rfl
  · rfl

lemma campaigns_checkCohortReady (s : Review.Store) (message : Review.OutreachMessage) :
    (checkCohortReady s message).1.campaigns = s.campaigns := by
  rcases checkCohortReady_cases s message with ⟨same, _⟩ | ⟨cohortId, status, _, same, _⟩
  · rw [same]
  · rw [same, campaigns_setStatus]

lemma messages_checkCohortReady (s : Review.Store) (message : Review.OutreachMessage) :
    (checkCohortReady s message).1.messages = s.messages := by
  rcases checkCohortReady_cases s message with ⟨same, _⟩ | ⟨cohortId, status, _, same, _⟩
  · rw [same]
  · rw [same, messages_setStatus]

/-- A batch decides messages, and leaves the rest of the campaign tables. -/
lemma keeps_decideEach (s : Review.Store) (ids : List MessageId) :
    KeepsMessages s (decideEach s outcome reviewerId reason ids).1 ∧
      (decideEach s outcome reviewerId reason ids).1.campaigns = s.campaigns := by
  induction ids generalizing s with
  | nil => exact ⟨.of_eq rfl, rfl⟩
  | cons id ids ih =>
    rcases decideEach_cons with ⟨s₁, message, action, decided, same⟩ | ⟨_, same⟩
    · rw [same]
      obtain ⟨messages, campaigns⟩ := ih s₁
      exact ⟨(KeepsMessages.decided decided).trans messages, campaigns.trans (by rw [decided.left])⟩
    · rw [same]
      exact ih s

lemma Linked.frame (l : Linked s) (messages : KeepsMessages s s')
    (campaigns : s'.campaigns = s.campaigns) : Linked s' :=
  l.keep messages (.of_eq (by rw [campaigns])) fun _ _ points => campaigns ▸ points

/-- A repointed touch points to the new message where it pointed to the old one. -/
lemma points_repoint {db : Database} {old new i : MessageId} {key : EnrollmentId × ℤ}
    (points : Points (repoint db old new) key i) :
    (i = new ∧ Points db key old) ∨ i ≠ old ∧ Points db key i := by
  obtain ⟨touch, found, pointed⟩ := points
  rw [repoint, Dict.get?_mapValues, Option.map_eq_some_iff] at found
  obtain ⟨before, there, same⟩ := found
  split at same
  · rename_i toOld
    cases same
    cases pointed
    exact .inl ⟨rfl, before, there, toOld⟩
  · rename_i other
    subst same
    refine .inr ⟨?_, before, there, pointed⟩
    intro same
    exact other (same ▸ pointed)

/-- The new message takes the old one's place. -/
lemma Linked.regenerate {env : Review.Env} {state : GenerationState} {newMessage fresh : MessageId}
    (l : Linked s) (freshMessage : s.messages.get? newMessage = none)
    (h : regenerateMessage env s id state newMessage = .ok (s', fresh)) : Linked s' := by
  obtain ⟨_, message, new, run, found, _, drafted, same, left⟩ := regenerateMessage_ok h
  have client : new.clientId = message.clientId := by rw [drafted.clientId, same, persistGenerationRun]
  have other : newMessage ≠ id := by
    intro same
    rw [same, found] at freshMessage
    cases freshMessage
  rw [left]
  refine ⟨l.own, fun key i points => ?_⟩
  rcases points_repoint points with ⟨rfl, before⟩ | ⟨ne, before⟩
  · obtain ⟨row, e, there, enrolled, mine⟩ := l.drafted key id before
    cases there.symm.trans found
    refine ⟨new, e, ?_, enrolled, drafted.campaignId.trans mine.1, client.trans mine.2⟩
    rw [Dict.get?_erase, if_neg other, Dict.get?_set_self]
  · obtain ⟨row, e, there, enrolled, mine⟩ := l.drafted key i before
    refine ⟨row, e, ?_, enrolled, mine⟩
    rw [Dict.get?_erase, if_neg ne, Dict.get?_set_ne, there]
    intro same
    rw [← same, there] at freshMessage
    cases freshMessage

/-- Deciding and redrafting keep the links. -/
lemma Linked.review {call : ReviewCall} (l : Linked s) (decision : isDecision call = true)
    (st : ReviewStep s call s') : Linked s' := by
  cases st with
  | create _ _ _ => cases decision
  | regenerate freshMessage regenerated => exact Linked.regenerate l freshMessage regenerated
  | decide decided =>
    obtain ⟨message, action, s₁, wrote, left⟩ := decideReview_ok decided
    have messages := (KeepsMessages.decided wrote).trans
      (KeepsMessages.of_eq (messages_checkCohortReady s₁ message))
    rw [left]
    exact Linked.frame l messages (by rw [campaigns_checkCohortReady, wrote.left])
  | decideBatch decided =>
    obtain ⟨_, left⟩ := decideBatch_ok decided
    obtain ⟨messages, campaigns⟩ := keeps_decideEach s _
    rw [left]
    exact Linked.frame l messages campaigns
  | approveRemainder approved =>
    obtain ⟨cohort, _, _, left⟩ := approveCohortRemainder_ok approved
    obtain ⟨messages, campaigns⟩ := keeps_decideEach s _
    rw [left]
    exact Linked.frame l (messages.trans (.of_eq (messages_setStatus _ _ _)))
      ((campaigns_setStatus _ _ _).trans campaigns)
  | others _ _ _ => cases decision

/-- Wherever a move leaves an enrollment, it is the same one. -/
lemma moveTo_cases (e : Enrollment) (toStatus : EnrollmentStatus) :
    moveTo e toStatus = .ok { e with status := toStatus } ∨
      ∃ error, moveTo e toStatus = .error ⟨e, error⟩ := by
  cases Classical.em (toStatus ∈ allowedTransitions e.status) with
  | inl allowed => exact .inl (moveTo_of_mem allowed)
  | inr refused => exact .inr ⟨_, moveTo_of_not_mem refused⟩

/-- So does an advance, accepted or refused. -/
lemma settle_advance (db db' : Database) (e : Enrollment) (stepNo : ℤ) (sentAt : Rules.Instant) :
    ∃ e', (settle db (advanceEnrollment db' e stepNo sentAt)).1 = db.storeEnrollment e' ∧
      e'.enrollmentId = e.enrollmentId ∧ e'.campaignId = e.campaignId ∧ e'.clientId = e.clientId := by
  have moved (e' : Enrollment) (toStatus : EnrollmentStatus) :
      ∃ last, (settle db (moveTo e' toStatus)).1 = db.storeEnrollment last ∧
        last.enrollmentId = e'.enrollmentId ∧ last.campaignId = e'.campaignId ∧
        last.clientId = e'.clientId := by
    rcases moveTo_cases e' toStatus with ok | ⟨error, refused⟩
    · rw [ok]
      exact ⟨_, rfl, rfl, rfl, rfl⟩
    · rw [refused]
      exact ⟨_, rfl, rfl, rfl, rfl⟩
  rw [advanceEnrollment]
  split
  · exact ⟨e, rfl, rfl, rfl, rfl⟩
  · dsimp only
    split
    · exact moved _ _
    · split
      · rcases moveTo_cases { e with currentStep := stepNo, nextDueAt := none } .inProgress with
          ok | ⟨error, refused⟩
        · rw [ok]
          exact moved _ _
        · rw [refused]
          exact ⟨_, rfl, rfl, rfl, rfl⟩
      · exact moved _ _

/-- Recording a send keeps the links. -/
lemma Linked.recordSend {key : EnrollmentId × ℤ} {touch : TouchLog} {result : SendResult}
    (l : Linked s) (enrolled : s.campaigns.enrollments.get? key.1 = some e)
    (logged : s.campaigns.touches.get? key = some touch) :
    Linked (withTables s (recordSend s.campaigns e key.2 touch result).1) := by
  have own := l.own key.1 e enrolled
  obtain ⟨e', left, same, campaign, client⟩ := settle_advance
    (s.campaigns.storeTouch (e.enrollmentId, key.2) (touch.delivered result))
    (s.campaigns.storeTouch (e.enrollmentId, key.2) (touch.delivered result)) e key.2 result.sentAt
  rw [Campaigns.recordSend, left]
  have found : (s.campaigns.storeTouch (e.enrollmentId, key.2)
      (touch.delivered result)).enrollments.get? e.enrollmentId = some e := own ▸ enrolled
  have kept := KeepsEnrollments.store found same campaign client
  refine l.keep (.of_eq rfl) ⟨kept.kept, kept.own⟩ fun k i points => ?_
  rcases points_storeTouch points with ⟨at_key, pointed⟩ | before
  · rw [own] at at_key
    exact ⟨touch, at_key ▸ logged, pointed⟩
  · exact before

/-- Every event keeps the links. -/
theorem BlockStep.linked {event : BlockEvent} (l : Linked s) (st : BlockStep s event s') :
    Linked s' := by
  cases st with
  | generate enrolled freshMessage drafted => exact l.draftTouch enrolled freshMessage drafted
  | ingest enrolled campaign client freshMessage drafted =>
    exact l.ingestDraft enrolled campaign client freshMessage drafted
  | instantiate enrolled freshMessage mine => exact l.instantiateTouch enrolled freshMessage mine
  | review decision st => exact Linked.review l decision st
  | publishAngles _ => exact l.keep (.of_eq rfl) (.of_eq rfl) fun _ _ points => points
  | populateIndicators populated =>
    obtain ⟨rows, _, left⟩ := populateIndicators_ok populated
    rw [left]
    exact l.keep (.of_eq rfl) (.of_eq rfl) fun _ _ points => points
  | runProposal =>
    rw [prepareClientForDrafting]
    split
    · exact l
    · exact l.keep (.of_eq rfl) (.of_eq rfl) fun _ _ points => points
  | setCampaignStatus _ => exact l.keep (.of_eq rfl) (.of_eq rfl) fun _ _ points => points
  | suppress => exact l.keep (.of_eq rfl) (.of_eq rfl) fun _ _ points => points
  | optOut _ => exact l.keep (.of_eq rfl) (.of_eq rfl) fun _ _ points => points
  | contactEvent => exact l.keep (.of_eq rfl) (.of_eq rfl) fun _ _ points => points
  | others enrollments touches => exact l.keep (.of_eq rfl) enrollments touches
  | send logged pointed check kept =>
    rcases kept with rfl | ⟨result, rfl⟩
    · exact l
    · exact Linked.recordSend l (sendCheck_handOver check).enrolled logged

/-! ## A block beats an approval -/

def openCampaign : Review.Store where
  campaigns :=
    { campaigns := .ofList [(1, { status := .running })]
      vault := .ofList [(5, { contactEmail := some "a@b.c", contactPhone := none })] }

def enrolledClient : Enrollment where
  enrollmentId := 1
  campaignId := 1
  clientId := 5
  enrolledAt := 0

def enrolledStore : Review.Store :=
  withTables openCampaign
    { openCampaign.campaigns with enrollments := .ofList [(1, enrolledClient)] }

/-- A draft under the angle the client had when it was made. -/
def scheduleDraft : GenerationState where
  runId := "run"
  priorityTier := none
  angle := some "back_on_schedule"
  status := .accepted
  rawStructuredOutput := .ofList [("subject", "News"), ("body", "Hi")]

def draftedStore : Review.Store :=
  match draftTouch sampleEnv enrolledStore enrolledClient 1 "email" scheduleDraft "m1" "" with
  | .ok (s', _) => s'
  | .error _ => enrolledStore

def approvedStore : Review.Store :=
  match decideReview draftedStore "m1" .approve "reviewer" none none with
  | .ok (s', _) => s'
  | .error _ => draftedStore

/-- One rule for everyone. -/
def everyoneRules : RuleStore :=
  match Rules.saveRules (.empty _) ⟨1, [Rules.sampleRule], 0, none, true, 0⟩ with
  | .ok s => s
  | .error _ => .empty _

/-- The rules give the client another angle. -/
def reroutedStore : Review.Store :=
  match Campaigns.populateIndicators approvedStore.campaigns everyoneRules
      (.ofList [(5, { view := .empty, priorityTier := "hot_leads" })]) 0 with
  | .ok (db, _) => withTables approvedStore db
  | .error _ => approvedStore

/-- The angle the message was drafted under is put on hold. -/
def heldStore : Review.Store :=
  match Rules.saveCatalog reroutedStore.campaigns.catalog
      ⟨1, [Rules.sampleAngle "back_on_schedule" true], 0, none, 0⟩ with
  | .ok catalog => withTables reroutedStore { reroutedStore.campaigns with catalog := catalog }
  | .error _ => reroutedStore

def firstDay : Campaigns.Env where
  deliveryMode := .live
  now := 0
  today := 0
  dateOf := fun _ => 0

lemma reaches_approvedStore : Run BlockStep openCampaign
    [.others, .generate (1, 1), .review (.decide "m1" .approve none)] approvedStore := by
  have enrolls : BlockStep openCampaign .others enrolledStore := by
    refine .others ⟨nofun, ?_⟩ fun _ _ points => points
    intro _ id e found
    have listed : (id, e) ∈ [(1, enrolledClient)] := (Dict.mem_items_iff _).mpr found
    cases List.mem_singleton.mp listed
    rfl
  have drafts : ∃ touch, draftTouch sampleEnv enrolledStore enrolledClient 1 "email" scheduleDraft
      "m1" "" = .ok (draftedStore, touch) := ⟨_, rfl⟩
  obtain ⟨touch, drafts⟩ := drafts
  have enrolled : enrolledStore.campaigns.enrollments.get? enrolledClient.enrollmentId =
      some enrolledClient := rfl
  have generates : BlockStep enrolledStore (.generate (1, 1)) draftedStore :=
    .generate enrolled rfl drafts
  have decides : ∃ result, decideReview draftedStore "m1" .approve "reviewer" none none =
      .ok (approvedStore, result) := ⟨_, rfl⟩
  obtain ⟨result, decides⟩ := decides
  exact .snoc (.snoc (.snoc .nil enrolls) generates) (.review rfl (.decide decides))

end ClientEngagement.Delivery
