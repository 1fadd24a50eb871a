import ClientEngagement.Delivery.Senders
import ClientEngagement.Lib.Runs
import ClientEngagement.Review.CohortReview

/-!
# What was approved and what is sent

The review workflow and the live senders as one system, with a record of every approval and of
everything handed to a mailer or a gateway. A message is approved once, is left alone from then on, and
what is sent is the personalized content it was approved with (`Ledger`). That is what the reviewer
approved, unless the approval came with an edit that reads differently: the edit is filed and never
sent (`edit_is_not_sent`).
-/

namespace ClientEngagement.Delivery
open Campaigns (MessageId TouchKey Database)
open Review

/-- An approving action, with the message's personalized content and its client's values at the time. -/
structure Approval where
  action : ReviewAction
  content : Option Content
  values : PlaceholderValues

structure World where
  store : Review.Store
  approvals : List Approval := []
  handed : List (MessageId × Outgoing) := []

def approves (action : ReviewAction) : Bool :=
  action.outcome = .approve ∨ action.outcome = .editApprove

def approvalOf (format : FactFormat) (s : Review.Store) (action : ReviewAction) : Approval where
  action := action
  content := (s.messages.get? action.messageId).bind OutreachMessage.personalizedContent
  values := placeholderValues format s.records none
    (((s.messages.get? action.messageId).map fun message => message.clientId).getD 0)

/-- The approvals among the actions a call added. -/
def newApprovals (format : FactFormat) (s s' : Review.Store) : List Approval :=
  ((s'.actions.drop s.actions.length).filter approves).map (approvalOf format s')

/-- A field of an edit, with the client's values put in. -/
def editedText (edited : Option (Dict String Json)) (values : PlaceholderValues) (field : String) :
    Option String :=
  ((edited.bind (·.get? field)).bind Json.text?).map (resolvePlaceholders values)

/-- What the reviewer approved: the edit, or the personalized content. -/
def Approval.text (approval : Approval) (field : String) : Option String :=
  if approval.action.outcome = .editApprove then
    editedText approval.action.editedContent approval.values field
  else approval.content.bind (·.get? field)

/-- The subject, if there is one, and the body are those of a text. -/
def Carries (outgoing : Outgoing) (text : String → Option String) : Prop :=
  text "body" = some outgoing.body ∧
    ∀ subject, outgoing.subject? = some subject → text "subject" = some subject

/-- No placeholder is left in what is handed over. -/
def Resolved (outgoing : Outgoing) : Prop :=
  ¬ Unresolved outgoing.body ∧ ∀ subject, outgoing.subject? = some subject → ¬ Unresolved subject

inductive DeliveryEvent where
  | review (call : ReviewCall)
  | send (key : TouchKey)

/-- A call of the review workflow, or a live send that reaches the mailer or the gateway; what the send
    records is kept, or rolled back when something raises afterwards. -/
inductive DeliveryStep (format : FactFormat) (w : World) : DeliveryEvent → World → Prop where
  | review {call s'} (st : ReviewStep w.store call s') :
      DeliveryStep format w (.review call)
        { w with store := s', approvals := w.approvals ++ newApprovals format w.store s' }
  | send {key touch message e id row outgoing after} {env : SenderEnv}
      (live : env.deliveryMode = .live)
      (logged : w.store.campaigns.touches.get? key = some touch)
      (check : Campaigns.sendCheck w.store.database env.toEnv key.1 touch = .handOver message e)
      (pointed : touch.messageId = some id) (found : w.store.messages.get? id = some row)
      (made : outgoingFor env w.store.database row = .ok outgoing)
      (kept : after = w.store.campaigns ∨
        ∃ result, after = (Campaigns.recordSend w.store.campaigns e key.2 touch result).1) :
      DeliveryStep format w (.send key)
        { w with
          store := { w.store with campaigns := after }
          handed := w.handed ++ [(id, outgoing)] }

/-- The fields a channel sends. -/
def sentFields (channel : String) : List String :=
  if channel = "sms" then ["body"] else ["subject", "body"]

/-- An approval with an edit changes nothing of what the channel sends. -/
def EditGuard (format : FactFormat) (w : World) : DeliveryEvent → Prop
  | .review (.decide id .editApprove edited) => ∀ message, w.store.messages.get? id = some message →
      ∀ field ∈ sentFields message.channel,
        editedText edited (placeholderValues format w.store.records none message.clientId) field =
          message.personalizedContent.bind (·.get? field)
  | _ => True

/-! ## What a call does to the approved messages -/

def IsApproved (s : Review.Store) (id : MessageId) : Prop :=
  ∃ message, s.messages.get? id = some message ∧ message.status = .approved

/-- The approving actions on a message. -/
def approvalsOf (actions : List ReviewAction) (id : MessageId) : List ReviewAction :=
  (actions.filter approves).filter fun action => action.messageId = id

/-- Approved messages are left alone, contents come from the check, and a message that becomes approved
    does so by one action. -/
structure Progress (s : Review.Store) (new : List ReviewAction) (s' : Review.Store) : Prop where
  actions : s'.actions = s.actions ++ new
  kept : ∀ id message, s.messages.get? id = some message → message.status = .approved →
    s'.messages.get? id = some message
  contents : ∀ id message, s'.messages.get? id = some message →
    (∃ before, s.messages.get? id = some before ∧
      before.personalizedContent = message.personalizedContent) ∨
    ∃ content, message.personalizedContent = some content ∧ Personalized content
  once : ∀ id, approvalsOf new id = [] ∧ (IsApproved s' id → IsApproved s id) ∨
    ∃ action, approvalsOf new id = [action] ∧ ¬ IsApproved s id ∧ IsApproved s' id

variable {s s₁ s' : Review.Store} {id : MessageId} {new more : List ReviewAction}

lemma approvalsOf_append : approvalsOf (new ++ more) id = approvalsOf new id ++ approvalsOf more id := by
  rw [approvalsOf, List.filter_append, List.filter_append]
  rfl

lemma Progress.approved (p : Progress s new s') (h : IsApproved s id) : IsApproved s' id := by
  obtain ⟨message, found, approved⟩ := h
  exact ⟨message, p.kept id message found approved, approved⟩

lemma Progress.same (messages : s'.messages = s.messages) (actions : s'.actions = s.actions) :
    Progress s [] s' where
  actions := by rw [actions, List.append_nil]
  kept id message found _ := by rw [messages, found]
  contents id message found := by
    rw [messages] at found
    exact .inl ⟨message, found, rfl⟩
  once id := by
    refine .inl ⟨rfl, fun h => ?_⟩
    rwa [IsApproved, messages] at h

lemma Progress.trans (p : Progress s new s₁) (q : Progress s₁ more s') :
    Progress s (new ++ more) s' where
  actions := by rw [q.actions, p.actions, List.append_assoc]
  kept id message found approved := q.kept id message (p.kept id message found approved) approved
  contents id message found := by
    rcases q.contents id message found with ⟨between, there, same⟩ | fresh
    · rcases p.contents id between there with ⟨before, old, same'⟩ | ⟨content, has, checked⟩
      · exact .inl ⟨before, old, same'.trans same⟩
      · exact .inr ⟨content, same.symm.trans has, checked⟩
    · exact .inr fresh
  once id := by
    rw [approvalsOf_append]
    rcases p.once id with ⟨none_new, back⟩ | ⟨action, one, before, between⟩
    · rcases q.once id with ⟨none_more, back'⟩ | ⟨action, one, before, after⟩
      · exact .inl ⟨by rw [none_new, none_more]; rfl, fun h => back (back' h)⟩
      · exact .inr ⟨action, by rw [none_new, one]; rfl, fun h => before (p.approved h), after⟩
    · rcases q.once id with ⟨none_more, _⟩ | ⟨_, _, notYet, _⟩
      · exact .inr ⟨action, by rw [one, none_more]; rfl, before, q.approved between⟩
      · exact absurd between notYet

/-- A decision approves its message, if it approves at all. -/
lemma Progress.decided {outcome : Outcome} {edited : Option (Dict String Json)}
    {message : OutreachMessage} {action : ReviewAction}
    (decided : Decided s id outcome edited message action s') : Progress s [action] s' where
  actions := by rw [decided.left]
  kept key row found approved := by
    rw [decided.left]
    refine (Dict.get?_set_ne _ _ ?_).trans found
    intro same
    subst same
    cases found.symm.trans decided.found
    exact decided.undecided (by rw [approved]; decide)
  contents key row found := by
    rw [decided.left] at found
    simp only [Dict.get?_set] at found
    split at found
    · rename_i same
      cases found
      exact .inl ⟨message, same ▸ decided.found, rfl⟩
    · exact .inl ⟨row, found, rfl⟩
  once key := by
    have rows : s'.messages = s.messages.set id (message.decided outcome) := by rw [decided.left]
    cases eq_or_ne key id with
    | inr ne =>
      refine .inl ⟨?_, ?_⟩
      · rw [approvalsOf, List.filter_eq_nil_iff]
        intro a mem
        have same := List.mem_singleton.mp (List.mem_filter.mp mem).1
        rw [same, decided.messageId]
        simp [ne.symm]
      · intro ⟨row, found, approved⟩
        rw [rows, Dict.get?_set_ne _ _ ne] at found
        exact ⟨row, found, approved⟩
    | inl same =>
      subst same
      have before : ¬ IsApproved s key := by
        intro ⟨row, found, approved⟩
        cases found.symm.trans decided.found
        exact decided.undecided (by rw [approved]; decide)
      have status : ∀ row, s'.messages.get? key = some row → row.status = statusForOutcome outcome := by
        intro row found
        rw [rows, Dict.get?_set_self] at found
        cases found
        rfl
      have after (status : statusForOutcome outcome = .approved) : IsApproved s' key :=
        ⟨message.decided outcome, by rw [rows, Dict.get?_set_self], status⟩
      have approving : approves action = true ↔ statusForOutcome outcome = .approved := by
        rw [approves, decided.outcome]
        cases outcome with
        | approve => decide
        | editApprove => decide
        | reject => decide
        | escalate => decide
        | hold => decide
      cases yes : approves action with
      | true =>
        refine .inr ⟨action, ?_, before, after (approving.mp yes)⟩
        simp [approvalsOf, yes, decided.messageId]
      | false =>
        refine .inl ⟨?_, ?_⟩
        · simp [approvalsOf, yes]
        · intro ⟨row, found, approved⟩
          rw [status row found] at approved
          rw [approving.mpr approved] at yes
          cases yes

/-- A new message is not approved yet. -/
lemma Progress.drafted {message : OutreachMessage} {runId : RunId} {run : GenerationRun}
    {campaignId : ℤ} {channel : String} {slot : CohortSlot}
    (fresh : s.messages.get? id = none) (drafted : Drafted message runId run campaignId channel slot)
    (rows : s'.messages = s.messages.set id message) (actions : s'.actions = s.actions) :
    Progress s [] s' where
  actions := by rw [actions, List.append_nil]
  kept key row found _ := by
    rw [rows]
    refine (Dict.get?_set_ne _ _ ?_).trans found
    intro same
    rw [same, fresh] at found
    cases found
  contents key row found := by
    rw [rows, Dict.get?_set] at found
    split at found
    · cases found
      exact .inr drafted.personalized
    · exact .inl ⟨row, found, rfl⟩
  once key := by
    refine .inl ⟨rfl, ?_⟩
    intro ⟨row, found, approved⟩
    rw [rows, Dict.get?_set] at found
    split at found
    · cases found
      cases drafted.pending.symm.trans approved
    · exact ⟨row, found, approved⟩

/-- A message that is not approved may be dropped. -/
lemma Progress.dropped (p : Progress s [] s₁) (pending : ¬ IsApproved s id)
    (rows : s'.messages = s₁.messages.erase id) (actions : s'.actions = s₁.actions) :
    Progress s [] s' where
  actions := by rw [actions, p.actions]
  kept key row found approved := by
    rw [rows, Dict.get?_erase, if_neg]
    · exact p.kept key row found approved
    · intro same
      subst same
      exact pending ⟨row, found, approved⟩
  contents key row found := by
    rw [rows, Dict.get?_erase] at found
    split at found
    · cases found
    · exact p.contents key row found
  once key := by
    refine .inl ⟨rfl, ?_⟩
    intro ⟨row, found, approved⟩
    rw [rows, Dict.get?_erase] at found
    split at found
    · cases found
    · have between : IsApproved s₁ key := ⟨row, found, approved⟩
      rcases p.once key with ⟨_, back⟩ | ⟨_, one, _, _⟩
      · exact back between
      · cases one

/-- A batch decides its messages one after the other, all with one outcome. -/
lemma Progress.each {outcome : Outcome} {reviewerId : String} {reason : Option String}
    (s : Review.Store) (ids : List MessageId) :
    ∃ new, Progress s new (decideEach s outcome reviewerId reason ids).1 ∧
      ∀ action ∈ new, action.outcome = outcome := by
  induction ids generalizing s with
  | nil => exact ⟨[], .same rfl rfl, nofun⟩
  | cons id ids ih =>
    rcases decideEach_cons with ⟨s₁, message, action, decided, same⟩ | ⟨_, same⟩
    · obtain ⟨new, p, outcomes⟩ := ih s₁
      rw [same]
      refine ⟨[action] ++ new, (Progress.decided decided).trans p, fun a mem => ?_⟩
      cases List.mem_append.mp mem with
      | inl first => rw [List.mem_singleton.mp first, decided.outcome]
      | inr later => exact outcomes a later
    · rw [same]
      exact ih s

/-- An action with an edit is the endpoint's, on the message as it was. -/
structure Edit (s : Review.Store) (call : ReviewCall) (action : ReviewAction) (s' : Review.Store) :
    Prop where
  call : call = .decide action.messageId .editApprove action.editedContent
  records : s'.records = s.records
  row : ∃ message, s.messages.get? action.messageId = some message ∧
    s'.messages.get? action.messageId = some (message.decided .editApprove)

lemma setStatus_frame (s : Review.Store) (cohortId : CohortId) (status : CohortStatus) :
    (s.setStatus cohortId status).messages = s.messages ∧
      (s.setStatus cohortId status).actions = s.actions ∧
      (s.setStatus cohortId status).records = s.records := by
  rw [Store.setStatus]
  split
  · exact ⟨rfl, rfl, rfl⟩
  · exact ⟨rfl, rfl, rfl⟩

/-- The check after a decision writes no more than a cohort's status. -/
lemma checkCohortReady_frame (s : Review.Store) (message : OutreachMessage) :
    (checkCohortReady s message).1.messages = s.messages ∧
      (checkCohortReady s message).1.actions = s.actions ∧
      (checkCohortReady s message).1.records = s.records := by
  rcases checkCohortReady_cases s message with ⟨same, _⟩ | ⟨cohortId, status, _, same, _⟩
  · rw [same]
    exact ⟨rfl, rfl, rfl⟩
  · rw [same]
    exact setStatus_frame s cohortId status

/-- What each call of the workflow does to the approved messages. -/
theorem progress_of_step {call : ReviewCall} (st : ReviewStep s call s') :
    ∃ new, Progress s new s' ∧
      ∀ action ∈ new, action.outcome = .editApprove → Edit s call action s' := by
  cases st with
  | create freshMessage freshCohort created =>
    rcases createOutreachMessage_ok created with ⟨_, refused, left⟩ |
      ⟨_, message, claimed, slot, claim, drafted, left⟩
    · exact ⟨[], .same (by rw [left]) (by rw [left]), nofun⟩
    · have frame := claimSlot_frame claim
      refine ⟨[], .drafted freshMessage drafted ?_ ?_, nofun⟩
      · rw [left, frame]
      · rw [left, frame]
  | regenerate freshMessage regenerated =>
    obtain ⟨_, message, fresh, run, found, pending, drafted, -, left⟩ :=
      regenerateMessage_ok regenerated
    have stored : Progress s [] { s with messages := s.messages.set _ fresh } :=
      .drafted freshMessage drafted rfl rfl
    refine ⟨[], stored.dropped ?_ (by rw [left]) (by rw [left]), nofun⟩
    intro ⟨row, there, approved⟩
    cases there.symm.trans found
    cases pending.symm.trans approved
  | decide decided =>
    obtain ⟨message, action, s₁, wrote, left⟩ := decideReview_ok decided
    obtain ⟨messages, actions, records⟩ := checkCohortReady_frame s₁ message
    rw [← left] at messages actions records
    refine ⟨[action] ++ [], (Progress.decided wrote).trans (.same messages actions), ?_⟩
    intro a mem edits
    rw [List.append_nil, List.mem_singleton] at mem
    subst mem
    have outcome := wrote.outcome
    rw [edits] at outcome
    subst outcome
    refine ⟨?_, ?_, message, ?_, ?_⟩
    · rw [wrote.messageId, wrote.editedContent]
    · rw [records, wrote.left]
    · rw [wrote.messageId]
      exact wrote.found
    · rw [messages, wrote.left, wrote.messageId]
      exact Dict.get?_set_self _ _ _
  | decideBatch decided =>
    obtain ⟨other, left⟩ := decideBatch_ok decided
    rw [left]
    obtain ⟨new, p, outcomes⟩ := Progress.each s _
    refine ⟨new, p, fun action mem edits => ?_⟩
    exact absurd ((outcomes action mem).symm.trans edits) other
  | approveRemainder approved =>
    obtain ⟨cohort, _, _, left⟩ := approveCohortRemainder_ok approved
    obtain ⟨new, p, outcomes⟩ := Progress.each s _
    obtain ⟨messages, actions, _⟩ := setStatus_frame _ _ _
    rw [left]
    refine ⟨new ++ [], p.trans (.same messages actions), fun action mem edits => ?_⟩
    rw [List.append_nil] at mem
    cases (outcomes action mem).symm.trans edits
  | others messages cohorts actions => exact ⟨[], .same messages actions, nofun⟩

/-! ## The invariant -/

/-- Every message has passed the check, an approved one has one approval, which holds its content, and
    what was sent is that content. -/
structure Ledger (w : World) : Prop where
  contents : ∀ id message, w.store.messages.get? id = some message →
    ∃ content, message.personalizedContent = some content ∧ Personalized content
  once : ∀ id, IsApproved w.store id →
    ∃ approval, w.approvals.filter (·.action.messageId = id) = [approval]
  notYet : ∀ id, ¬ IsApproved w.store id → w.approvals.filter (·.action.messageId = id) = []
  current : ∀ approval ∈ w.approvals, ∃ message,
    w.store.messages.get? approval.action.messageId = some message ∧ message.status = .approved ∧
      approval.content = message.personalizedContent
  sent : ∀ id outgoing, (id, outgoing) ∈ w.handed → ∃ message content,
    w.store.messages.get? id = some message ∧ message.status = .approved ∧
      message.personalizedContent = some content ∧ content.get? "body" = some outgoing.body ∧
      ∀ subject, outgoing.subject? = some subject →
        message.channel ≠ "sms" ∧ content.get? "subject" = some subject

/-- Every approval with an edit reads like the content it was filed with. -/
def Faithful (w : World) : Prop :=
  ∀ approval ∈ w.approvals, approval.action.outcome = .editApprove → ∃ message,
    w.store.messages.get? approval.action.messageId = some message ∧ message.status = .approved ∧
      ∀ field ∈ sentFields message.channel,
        editedText approval.action.editedContent approval.values field =
          approval.content.bind (·.get? field)

variable {format : FactFormat} {w w' : World} {event : DeliveryEvent}

lemma newApprovals_eq (p : Progress s new s') :
    newApprovals format s s' = (new.filter approves).map (approvalOf format s') := by
  rw [newApprovals, p.actions, List.drop_left]

lemma filter_newApprovals (p : Progress s new s') :
    (newApprovals format s s').filter (fun approval => approval.action.messageId = id) =
      (approvalsOf new id).map (approvalOf format s') := by
  rw [newApprovals_eq p, List.filter_map, approvalsOf]
  rfl

/-- A new approval is of a message that has just become approved. -/
lemma approved_of_new (p : Progress s new s') {action : ReviewAction}
    (mem : action ∈ new.filter approves) : IsApproved s' action.messageId := by
  rcases p.once action.messageId with ⟨none_new, _⟩ | ⟨_, _, _, after⟩
  · have listed : action ∈ approvalsOf new action.messageId :=
      List.mem_filter.mpr ⟨mem, decide_eq_true rfl⟩
    rw [none_new] at listed
    cases listed
  · exact after

/-- The store a send is made from: the row is approved. -/
lemma sent_row {key : TouchKey} {touch : Campaigns.TouchLog} {message : Campaigns.OutreachMessage}
    {e : Campaigns.Enrollment} {row : OutreachMessage} {env : SenderEnv}
    (check : Campaigns.sendCheck s.database env.toEnv key.1 touch = .handOver message e)
    (pointed : touch.messageId = some id) (found : s.messages.get? id = some row) :
    row.status = .approved := by
  have seen := Campaigns.sendCheck_handOver check
  have same := seen.pointed
  rw [pointed, Option.bind_some, Store.database, Dict.get?_mapValues, found, Option.map_some] at same
  cases same
  exact seen.approved

/-- Every step keeps the ledger. -/
theorem Ledger.step (l : Ledger w) (st : DeliveryStep format w event w') : Ledger w' := by
  cases st with
  | review st =>
    obtain ⟨new, p, -⟩ := progress_of_step st
    constructor
    · intro id message found
      rcases p.contents id message found with ⟨before, there, same⟩ | fresh
      · obtain ⟨content, has, checked⟩ := l.contents id before there
        exact ⟨content, same.symm.trans has, checked⟩
      · exact fresh
    · intro id approved
      simp only [List.filter_append, filter_newApprovals p]
      rcases p.once id with ⟨none_new, back⟩ | ⟨action, one, before, _⟩
      · obtain ⟨approval, had⟩ := l.once id (back approved)
        exact ⟨approval, by rw [none_new, had]; rfl⟩
      · exact ⟨approvalOf format _ action, by rw [one, l.notYet id before]; rfl⟩
    · intro id notYet
      simp only [List.filter_append, filter_newApprovals p]
      rcases p.once id with ⟨none_new, _⟩ | ⟨_, _, _, after⟩
      · rw [none_new, l.notYet id fun h => notYet (p.approved h)]
        rfl
      · exact absurd after notYet
    · intro approval mem
      cases List.mem_append.mp mem with
      | inl old =>
        obtain ⟨message, found, approved, same⟩ := l.current approval old
        exact ⟨message, p.kept _ message found approved, approved, same⟩
      | inr fresh =>
        rw [newApprovals_eq p] at fresh
        obtain ⟨action, listed, same⟩ := List.mem_map.mp fresh
        obtain ⟨message, found, approved⟩ := approved_of_new p listed
        subst same
        refine ⟨message, found, approved, ?_⟩
        simp only [approvalOf, found, Option.bind_some]
    · intro id outgoing mem
      obtain ⟨message, content, found, approved, rest⟩ := l.sent id outgoing mem
      exact ⟨message, content, p.kept id message found approved, approved, rest⟩
  | send live logged check pointed found made kept =>
    refine ⟨l.contents, l.once, l.notYet, l.current, fun id outgoing mem => ?_⟩
    cases List.mem_append.mp mem with
    | inl old => exact l.sent id outgoing old
    | inr now =>
      cases List.mem_singleton.mp now
      obtain ⟨content, has, body, subject⟩ := outgoing_live live made
      exact ⟨_, content, found, sent_row check pointed found, has, body, subject⟩

/-- Every step that meets the condition keeps the edits and the contents alike. -/
theorem Faithful.step (f : Faithful w) (guard : EditGuard format w event)
    (st : DeliveryStep format w event w') : Faithful w' := by
  cases st with
  | review st =>
    obtain ⟨new, p, edits⟩ := progress_of_step st
    intro approval mem isEdit
    cases List.mem_append.mp mem with
    | inl old =>
      obtain ⟨message, found, approved, same⟩ := f approval old isEdit
      exact ⟨message, p.kept _ message found approved, approved, same⟩
    | inr fresh =>
      rw [newApprovals_eq p] at fresh
      obtain ⟨action, listed, same⟩ := List.mem_map.mp fresh
      subst same
      have edit := edits action (List.mem_filter.mp listed).1 isEdit
      obtain ⟨message, before, after⟩ := edit.row
      rw [edit.call] at guard
      have agrees := guard message before
      refine ⟨message.decided .editApprove, after, rfl, fun field mem => ?_⟩
      simp only [approvalOf, after, edit.records]
      exact agrees field mem
  | send live logged check pointed found made kept => exact f

/-- What the ledger says of one thing sent. -/
lemma Ledger.carried (l : Ledger w) {sent : MessageId × Outgoing} (mem : sent ∈ w.handed) :
    ∃ approval message, w.approvals.filter (·.action.messageId = sent.1) = [approval] ∧
      approval ∈ w.approvals ∧ w.store.messages.get? approval.action.messageId = some message ∧
      (∀ subject, sent.2.subject? = some subject → message.channel ≠ "sms") ∧
      Carries sent.2 (fun field => approval.content.bind (·.get? field)) ∧ Resolved sent.2 := by
  obtain ⟨message, content, found, approved, has, body, subject⟩ := l.sent sent.1 sent.2 mem
  obtain ⟨approval, one⟩ := l.once sent.1 ⟨message, found, approved⟩
  have listed : approval ∈ w.approvals.filter (·.action.messageId = sent.1) := by
    rw [one]
    exact List.mem_singleton_self _
  obtain ⟨here, same⟩ := List.mem_filter.mp listed
  have isIts : approval.action.messageId = sent.1 := of_decide_eq_true same
  obtain ⟨row, there, -, stored⟩ := l.current approval here
  rw [isIts, found] at there
  cases there
  obtain ⟨content', has', text, hasBody, checked⟩ := l.contents sent.1 message found
  cases has.symm.trans has'
  cases body.symm.trans hasBody
  obtain ⟨cleanSubject, cleanBody⟩ := resolved_of_check checked
  have fields (field : String) : (approval.content.bind fun c => c.get? field) = content.get? field := by
    rw [stored, has, Option.bind_some]
  refine ⟨approval, message, one, here, ?_, fun s h => (subject s h).1, ⟨?_, fun s h => ?_⟩,
    cleanBody, fun s h => ?_⟩
  · rw [isIts]
    exact found
  · exact (fields "body").trans body
  · exact (fields "subject").trans (subject s h).2
  · have eq : content.getD "subject" "" = s := by rw [Dict.getD, (subject s h).2, Option.getD_some]
    rw [← eq]
    exact cleanSubject

/-- What is sent is the personalized content the message was approved with, no placeholder left in it.
    While no approval comes with an edit that reads differently, it is what the reviewer approved. -/
theorem approved_is_sent (format : FactFormat) {start : Review.Store}
    (unstarted : start.messages = .empty) :
    (∀ events w, Run (DeliveryStep format) { store := start } events w → ∀ sent ∈ w.handed,
      ∃ approval, w.approvals.filter (·.action.messageId = sent.1) = [approval] ∧
        Carries sent.2 (fun field => approval.content.bind (·.get? field)) ∧ Resolved sent.2) ∧
    ∀ events w, Run (Guarded (EditGuard format) (DeliveryStep format)) { store := start } events w →
      ∀ sent ∈ w.handed,
        ∃ approval, w.approvals.filter (·.action.messageId = sent.1) = [approval] ∧
          Carries sent.2 approval.text ∧ Resolved sent.2 := by
  have nothing (id : MessageId) : start.messages.get? id = none := by
    rw [unstarted]
    rfl
  have init : Ledger { store := start } := by
    refine ⟨fun id message found => ?_, fun id approved => ?_, fun _ _ => rfl, ?_, ?_⟩
    · cases (nothing id).symm.trans found
    · obtain ⟨message, found, _⟩ := approved
      cases (nothing id).symm.trans found
    · intro _ mem
      cases mem
    · intro _ _ mem
      cases mem
  constructor
  · intro events w r sent mem
    have l := r.invariant Ledger init fun _ _ _ l st => l.step st
    obtain ⟨approval, _, one, _, _, _, carries, resolved⟩ := l.carried mem
    exact ⟨approval, one, carries, resolved⟩
  · intro events w r sent mem
    have l := r.of_guarded.invariant Ledger init fun _ _ _ l st => l.step st
    have f : Faithful w := r.invariant Faithful (fun _ mem => by cases mem) fun _ _ _ f st =>
      f.step st.1 st.2
    obtain ⟨approval, message, one, here, found, notSms, carries, resolved⟩ := l.carried mem
    refine ⟨approval, one, ?_, resolved⟩
    cases eq_or_ne approval.action.outcome .editApprove with
    | inr other =>
      have text : approval.text = fun field => approval.content.bind (·.get? field) := by
        funext field
        rw [Approval.text, if_neg other]
      rw [text]
      exact carries
    | inl isEdit =>
      obtain ⟨message', found', _, agrees⟩ := f approval here isEdit
      cases found.symm.trans found'
      have text (field : String) (sent : field ∈ sentFields message.channel) :
          approval.text field = approval.content.bind (·.get? field) := by
        rw [Approval.text, if_pos isEdit]
        exact agrees field sent
      constructor
      · rw [text "body" (by rw [sentFields]; split <;> decide)]
        exact carries.1
      · intro subject h
        rw [text "subject" (by rw [sentFields, if_neg (notSms subject h)]; decide)]
        exact carries.2 subject h

/-! ## An edited approval -/

/-- One enrolled client with an address. -/
def sampleDatabase : Database where
  campaigns := .ofList [(1, { status := .running })]
  enrollments := .ofList [(1, { enrollmentId := 1, campaignId := 1, clientId := 1, enrolledAt := 0 })]
  vault := .ofList [(1, { contactEmail := some "a@b.c", contactPhone := none })]

def sampleStart : Review.Store := { campaigns := sampleDatabase }

/-- The store once a draft that says "Hi" is stored. -/
def arrived : Review.Store :=
  match createOutreachMessage sampleEnv sampleStart "run"
      { clientId := 1, priorityTier := none, angle := none, status := .accepted
        aiDraftContent := .ofList [("subject", "News"), ("body", "Hi")] }
      1 "email" none none "m1" "" with
  | .ok (s', _) => s'
  | .error _ => sampleStart

/-- The touch of the message is logged. -/
def logged : Review.Store :=
  { arrived with
    campaigns := { sampleDatabase with
      touches := .ofList [((1, 1), { touchId := 1, messageId := some "m1" })] } }

/-- The message is approved with an edit of its body. -/
def editApproved (body : String) : Review.Store :=
  match decideReview logged "m1" .editApprove "reviewer" none
      (some (.ofList [("subject", .str "News"), ("body", .str body)])) with
  | .ok (s', _) => s'
  | .error _ => logged

def sampleSender : SenderEnv where
  deliveryMode := .live
  now := 0
  today := 0
  dateOf := fun _ => 0
  tables := .ascii

def sentEmail : Outgoing := .email { toAddress := "a@b.c", subject := "News", textBody := "Hi" }

/-- The message is sent, whatever the edit said. -/
def sentWorld (body : String) : World where
  store := editApproved body
  approvals := newApprovals sampleEnv.format logged (editApproved body)
  handed := [("m1", sentEmail)]

def sampleCalls (body : String) : List DeliveryEvent :=
  [.review (.create 1 none), .review .others,
    .review (.decide "m1" .editApprove
      (some (.ofList [("subject", .str "News"), ("body", .str body)]))),
    .send (1, 1)]

lemma reaches_sentWorld (guard : World → DeliveryEvent → Prop) (body : String)
    (free : ∀ w, guard w (.review (.create 1 none)) ∧ guard w (.review .others) ∧
      guard w (.send (1, 1)))
    (edit : guard { store := logged } (.review (.decide "m1" .editApprove
      (some (.ofList [("subject", .str "News"), ("body", .str body)]))))) :
    Run (Guarded guard (DeliveryStep sampleEnv.format)) { store := sampleStart } (sampleCalls body)
      (sentWorld body) := by
  have created : createOutreachMessage sampleEnv sampleStart "run"
      { clientId := 1, priorityTier := none, angle := none, status := .accepted
        aiDraftContent := .ofList [("subject", "News"), ("body", "Hi")] }
      1 "email" none none "m1" "" = .ok (arrived, some "m1") := rfl
  have decided : ∃ result, decideReview logged "m1" .editApprove "reviewer" none
      (some (.ofList [("subject", .str "News"), ("body", .str body)])) =
        .ok (editApproved body, result) := ⟨_, rfl⟩
  obtain ⟨result, decided⟩ := decided
  have check : ∃ message e, Campaigns.sendCheck (editApproved body).database sampleSender.toEnv 1
      { touchId := 1, messageId := some "m1" } = .handOver message e := ⟨_, _, rfl⟩
  obtain ⟨message, e, check⟩ := check
  have live : sampleSender.deliveryMode = .live := rfl
  have row : ∃ row, (editApproved body).messages.get? "m1" = some row ∧
      outgoingFor sampleSender (editApproved body).database row = .ok sentEmail := ⟨_, rfl, rfl⟩
  obtain ⟨row, found, made⟩ := row
  have first : DeliveryStep sampleEnv.format { store := sampleStart } (.review (.create 1 none))
      { store := arrived } := .review (.create rfl rfl created)
  have second : DeliveryStep sampleEnv.format { store := arrived } (.review .others)
      { store := logged } := .review (.others rfl rfl rfl)
  have third : DeliveryStep sampleEnv.format { store := logged } (.review (.decide "m1" .editApprove
      (some (.ofList [("subject", .str "News"), ("body", .str body)]))))
      { sentWorld body with handed := [] } := .review (.decide decided)
  have fourth : DeliveryStep sampleEnv.format { sentWorld body with handed := [] } (.send (1, 1))
      (sentWorld body) := .send live rfl check rfl found made (.inl rfl)
  have before : Run (Guarded guard (DeliveryStep sampleEnv.format)) { store := sampleStart }
      [.review (.create 1 none), .review .others] { store := logged } :=
    .snoc (.snoc .nil ⟨(free _).1, first⟩) ⟨(free _).2.1, second⟩
  exact .snoc (.snoc before ⟨edit, third⟩) ⟨(free _).2.2, fourth⟩

/-- An edit that repeats the draft: the email reads like the approval. -/
theorem approved_is_sent_sample :
    ∃ approval, (sentWorld "Hi").approvals.filter (·.action.messageId = "m1") = [approval] ∧
      Carries sentEmail approval.text ∧ Resolved sentEmail := by
  have edit : EditGuard sampleEnv.format { store := logged } (.review (.decide "m1" .editApprove
      (some (.ofList [("subject", .str "News"), ("body", .str "Hi")])))) := by
    intro message found field mem
    cases found
    cases mem with
    | head => rfl
    | tail _ mem =>
      cases List.mem_singleton.mp mem
      rfl
  have r := reaches_sentWorld (EditGuard sampleEnv.format) "Hi"
    (fun _ => ⟨trivial, trivial, trivial⟩) edit
  have unstarted : sampleStart.messages = .empty := rfl
  exact (approved_is_sent sampleEnv.format unstarted).2 _ _ r ("m1", sentEmail)
    (.head _)

/-- The client receives "Hi" where the reviewer approved "Bye". -/
theorem edit_is_not_sent :
    ∃ events w sent approval, Run (DeliveryStep sampleEnv.format) { store := sampleStart } events w ∧
      sent ∈ w.handed ∧ w.approvals.filter (·.action.messageId = sent.1) = [approval] ∧
      ¬ Carries sent.2 approval.text := by
  have r := reaches_sentWorld (fun _ _ => True) "Bye"
    (fun _ => ⟨trivial, trivial, trivial⟩) trivial
  refine ⟨_, _, ("m1", sentEmail), _, r.of_guarded, .head _, rfl, ?_⟩
  intro carries
  exact absurd carries.1 (by decide +kernel)

end ClientEngagement.Delivery
