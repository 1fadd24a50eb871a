import ClientEngagement.Campaigns.Sending
import ClientEngagement.Campaigns.Progress
import ClientEngagement.Lib.Results
import ClientEngagement.Proposals.RunProposal

/-!
# Offered once

The way of a `suggest_second_fund` message, from the proposal to the sender, for any number of proposals at
once (`OfferStep`): written and decided, its members checked and enrolled by `run_proposal`
(`agents/write_tools.py`), drafted, reviewed and sent by `send_due_touches` (`campaigns/touch.py`).
`already_offered` (`agents/action_rules.py`) looks at what was sent by the time of the check, and nothing looks
again. `offered_once` says when no client is sent two.
-/

namespace ClientEngagement.Proposals
open Agents (GroupMember)
open Risk (ClientId FundKey)
open Watchlist
open Campaigns (Database EnrollmentId MessageId TouchKey TouchLog RunId Env GenerateFn SendResult TouchRunOutcome)

structure OfferProposal where
  status : ProposalStatus
  campaignId : Option CampaignId := none
  rows : List ClientRow

/-- The proposal once it runs. -/
def OfferProposal.run (proposal : OfferProposal) (campaignId : CampaignId) : OfferProposal :=
  { proposal with status := .running, campaignId := some campaignId }

/-- A call of `run_proposal` between its checks and its campaign. -/
structure GatedCall where
  proposalId : ProposalId
  ready : List ClientId

/-- What the session of a sending run holds for the message it has handed over: what the sender reported, and
    the enrollment if the advance changed it. -/
structure Delivery where
  result : SendResult
  moved : Option Campaigns.Enrollment

structure SendingRun where
  page : List (TouchKey × TouchLog) := []
  delivered : Option Delivery := none

structure Offers where
  db : Database
  proposals : Dict ProposalId OfferProposal := .empty
  calls : Dict CallId GatedCall := .empty
  runs : Dict RunId SendingRun := .empty
  /-- The messages sent so far, with their clients. -/
  sent : List (ClientId × TouchKey) := []

def sentStatus : String := "sent"

/-- The campaign is one a proposal created. -/
def Offers.linked (s : Offers) (campaignId : CampaignId) : Bool :=
  s.proposals.items.any fun (_, proposal) => proposal.campaignId = some campaignId

/-- The query of `already_offered`. -/
def Offers.offeredBefore (s : Offers) (clientId : ClientId) : Bool :=
  s.db.touches.items.any fun (key, touch) =>
    touch.deliveryStatus = some sentStatus ∧ (s.db.enrollments.get? key.1).any fun e =>
      e.clientId = clientId ∧ (s.db.campaigns.get? e.campaignId).any (¬ ·.isTest) ∧ s.linked e.campaignId

/-- The rows of a new proposal. -/
def proposalRows (facts : GateFacts) (action : ActionRow) (members : List GroupMember) : List ClientRow :=
  members.map fun member =>
    { key := member.key
      included := skipReason facts action member = none
      skipReason := skipReason facts action member }

/-- The clients a call enrolls: those the checks leave in that are still in the active book. -/
def readyOf (facts : GateFacts) (action : ActionRow) (members : List GroupMember)
    (holds : ClientId → Bool) : List ClientId :=
  ((members.filter fun member => memberSkipReason facts member action = none).map
    GroupMember.clientId).filter holds

/-- The enrollments `enroll_cohort` adds to a new campaign, one a client. -/
def newEnrollments (campaignId : CampaignId) (enrolledAt : Rules.Instant) (ids : ClientId → EnrollmentId)
    (primary : ClientId → Bool) (clientIds : List ClientId) :
    List (EnrollmentId × Campaigns.Enrollment) :=
  clientIds.dedup.map fun clientId =>
    (ids clientId,
      { enrollmentId := ids clientId
        campaignId, clientId, enrolledAt
        isPrimaryContactRow := primary clientId })

/-- The campaign with its one step and its enrollments. -/
def addCampaign (db : Database) (campaignId : CampaignId)
    (enrollments : List (EnrollmentId × Campaigns.Enrollment)) : Database :=
  { db with
    campaigns := db.campaigns.set campaignId { status := .running }
    steps := db.steps.set (campaignId, 1) { offsetDays := 0 }
    enrollments := enrollments.foldl (fun rows row => rows.set row.1 row.2) db.enrollments }

/-- What the session writes for a message it handed over: the touch, and the columns an advance changed. -/
def recordDelivery (db : Database) (key : TouchKey) (row : TouchLog) (delivery : Delivery) : Database :=
  let written := db.storeTouch key (row.delivered delivery.result)
  delivery.moved.elim written written.writeAdvance

/-- The sender returned: the run has the message in hand. -/
def Offers.deliver (s : Offers) (run : RunId) (r : SendingRun) (key : TouchKey) (clientId : ClientId)
    (delivery : Delivery) : Offers :=
  { s with
    runs := s.runs.set run { r with delivered := some delivery }
    sent := if delivery.result.deliveryStatus = sentStatus then s.sent ++ [(clientId, key)] else s.sent }

inductive OfferLabel where
  | write (proposalId : ProposalId)
  | decide (proposalId : ProposalId) (status : ProposalStatus)
  | gate (call : CallId) (proposalId : ProposalId)
  | enroll (call : CallId) (campaignId : CampaignId)
  | draft (enrollmentId : EnrollmentId)
  | review (messageId : MessageId) (status : Campaigns.MessageStatus)
  | select (run : RunId) (page : List (TouchKey × TouchLog))
  | pass (run : RunId)
  | deliver (run : RunId) (result : SendResult)
  | commit (run : RunId)
  | lose (run : RunId)
  | others

/-- Rows stay, and an enrollment that has ended does not start again. -/
structure KeepsRows (db db' : Database) : Prop where
  enrollments : ∀ id e', db'.enrollments.get? id = some e' → ∃ e, db.enrollments.get? id = some e ∧
    e'.enrollmentId = e.enrollmentId ∧ e'.clientId = e.clientId ∧ e'.campaignId = e.campaignId ∧
      (e'.status.isSchedulable = true → e.status.isSchedulable = true)
  kept : ∀ id, (db.enrollments.get? id).isSome = true → (db'.enrollments.get? id).isSome = true
  steps : db'.steps = db.steps
  campaigns : ∀ id, (db'.campaigns.get? id).map Campaigns.Campaign.isTest =
    (db.campaigns.get? id).map Campaigns.Campaign.isTest

/-- What else is written: a new touch is of a step the campaign has, and what is known of a sending is not
    changed. -/
structure Quiet (db db' : Database) : Prop extends KeepsRows db db' where
  touches : ∀ key touch', db'.touches.get? key = some touch' →
    (∃ touch, db.touches.get? key = some touch ∧ touch'.deliveryStatus = touch.deliveryStatus ∧
      touch'.sentAt = touch.sentAt) ∨
    touch'.sentAt = none ∧ ∃ e, db.enrollments.get? key.1 = some e ∧
      (db.steps.get? (e.campaignId, key.2)).isSome = true
  logged : ∀ key touch, db.touches.get? key = some touch → ∃ touch', db'.touches.get? key = some touch' ∧
    touch'.deliveryStatus = touch.deliveryStatus ∧ touch'.sentAt = touch.sentAt

inductive OfferStep (s : Offers) : OfferLabel → Offers → Prop where
  | write {proposalId} {facts : GateFacts} {action : ActionRow} {members : List GroupMember}
      (fresh : s.proposals.get? proposalId = none)
      (reads : ∀ clientId, facts.sent clientId action.actionCode = s.offeredBefore clientId)
      (code : action.actionCode = secondFundAction) :
      OfferStep s (.write proposalId)
        { s with
          proposals := s.proposals.set proposalId
            { status := .proposed, rows := proposalRows facts action members } }
  -- a person decides, or stops what runs; only `run_proposal` moves it off approved
  | decide {proposalId proposal status} (found : s.proposals.get? proposalId = some proposal)
      (allowed : status ∈ allowedTransitions proposal.status) (waiting : proposal.status ≠ .approved) :
      OfferStep s (.decide proposalId status)
        { s with proposals := s.proposals.set proposalId { proposal with status := status } }
  | gate {call proposalId proposal holds} {reading : Reading} {action : ActionRow} (new : s.calls.get? call = none)
      (found : s.proposals.get? proposalId = some proposal) (approved : proposal.status = .approved)
      (reads : ∀ clientId, reading.facts.sent clientId action.actionCode = s.offeredBefore clientId)
      (code : action.actionCode = secondFundAction) :
      OfferStep s (.gate call proposalId)
        { s with
          calls := s.calls.set call ⟨proposalId,
            readyOf reading.facts action (membersOf proposal.rows reading.balance) holds⟩ }
  | enroll {call campaignId gated proposal enrolledAt ids primary}
      (here : s.calls.get? call = some gated) (somebody : gated.ready ≠ [])
      (found : s.proposals.get? gated.proposalId = some proposal)
      (fresh : s.db.campaigns.get? campaignId = none)
      (new : ∀ clientId, s.db.enrollments.get? (ids clientId) = none)
      (distinct : Function.Injective ids) :
      OfferStep s (.enroll call campaignId)
        { s with
          db := addCampaign s.db campaignId
            (newEnrollments campaignId enrolledAt ids primary gated.ready)
          proposals := s.proposals.set gated.proposalId (proposal.run campaignId)
          calls := s.calls.erase call }
  | draft {env generate e db outcome} (row : s.db.enrollments.get? e.enrollmentId = some e)
      (due : Campaigns.isDue s.db env e = true)
      (ran : Campaigns.runDueEnrollment env generate s.db e = .ok (db, outcome)) :
      OfferStep s (.draft e.enrollmentId) { s with db := db }
  | review {messageId message status} (found : s.db.messages.get? messageId = some message) :
      OfferStep s (.review messageId status)
        { s with db := s.db.storeMessage messageId { message with status := status } }
  | select {run campaignId limit after} (done : (s.runs.getD run {}).page = [])
      (ours : s.linked campaignId = true) :
      OfferStep s (.select run (Campaigns.duePage s.db campaignId limit after))
        { s with runs := s.runs.set run { page := Campaigns.duePage s.db campaignId limit after } }
  -- the check raises or blocks, or the sender does: the stop of a block is committed
  | pass {run r key touch rest stopped db} (found : s.runs.get? run = some r)
      (page : r.page = (key, touch) :: rest) (idle : r.delivered = none)
      (left : db = s.db ∨ ∃ env reason, Campaigns.sendCheck s.db env key.1 touch = .blocked reason (some stopped) ∧
        db = s.db.storeEnrollment stopped) :
      OfferStep s (.pass run) { s with db := db, runs := s.runs.set run { page := rest } }
  | deliver {run r key touch rest env message e result moved} (found : s.runs.get? run = some r)
      (page : r.page = (key, touch) :: rest) (idle : r.delivered = none)
      (check : Campaigns.sendCheck s.db env key.1 touch = .handOver message e)
      (advance : Campaigns.advanceEnrollment s.db e key.2 result.sentAt = .ok moved) :
      OfferStep s (.deliver run result)
        (s.deliver run r key e.clientId ⟨result, if key.2 ≤ e.currentStep then none else some moved⟩)
  -- the advance was refused: the session holds nothing it could commit
  | refuse {run r key touch rest env message e result refused} (found : s.runs.get? run = some r)
      (page : r.page = (key, touch) :: rest) (idle : r.delivered = none)
      (check : Campaigns.sendCheck s.db env key.1 touch = .handOver message e)
      (advance : Campaigns.advanceEnrollment s.db e key.2 result.sentAt = .error refused) :
      OfferStep s (.deliver run result)
        { s with
          runs := s.runs.set run { page := rest }
          sent := if result.deliveryStatus = sentStatus then s.sent ++ [(e.clientId, key)] else s.sent }
  | commit {run r key touch rest delivery row} (found : s.runs.get? run = some r)
      (page : r.page = (key, touch) :: rest) (delivered : r.delivered = some delivery)
      (logged : s.db.touches.get? key = some row) :
      OfferStep s (.commit run)
        { s with
          db := recordDelivery s.db key row delivery
          runs := s.runs.set run { page := rest } }
  -- a rollback or a crash
  | lose {run} : OfferStep s (.lose run) { s with runs := s.runs.erase run }
  | others {db} (quiet : Quiet s.db db) : OfferStep s .others { s with db := db }

/-! ## What is promised -/

/-- The enrollment is in a campaign of a proposal. -/
def Offers.offer (s : Offers) (id : EnrollmentId) (e : Campaigns.Enrollment) : Prop :=
  s.db.enrollments.get? id = some e ∧ s.linked e.campaignId = true

/-- A sending run still has a touch of the enrollment on its page. -/
def Offers.onPage (s : Offers) (id : EnrollmentId) : Prop :=
  ∃ run r, s.runs.get? run = some r ∧ ∃ stepNo, (id, stepNo) ∈ r.page.map Prod.fst

/-- An offer is under way to the client: its enrollment has not ended, or a run has it in hand. -/
def Offers.offerInFlight (s : Offers) (clientId : ClientId) : Prop :=
  ∃ id e, s.offer id e ∧ e.clientId = clientId ∧ (e.status.isSchedulable = true ∨ s.onPage id)

def OfferedOnce (s : Offers) : Prop := (s.sent.map Prod.fst).Nodup

/-- The condition on the steps. No two calls are between their checks and their campaigns, and when the members
    are checked nothing is in flight to one of them; a page holds no touch that another run has on its own;
    what is handed over belongs to an enrollment that has not ended, and what a session sent it commits. -/
def OfferFit (s : Offers) : OfferLabel → Prop
  | .gate _ proposalId => (∀ call, s.calls.get? call = none) ∧
      ∀ proposal, s.proposals.get? proposalId = some proposal →
        ∀ row ∈ proposal.rows, row.included = true → ¬ s.offerInFlight row.key.1
  | .select run page => ∀ other r, other ≠ run → s.runs.get? other = some r →
      ∀ key ∈ page.map Prod.fst, key ∉ r.page.map Prod.fst
  | .deliver run _ => ∀ r key touch rest e, s.runs.get? run = some r → r.page = (key, touch) :: rest →
      s.db.enrollments.get? key.1 = some e → e.status.isSchedulable = true
  | .lose run => ∀ r, s.runs.get? run = some r → r.delivered = none
  | _ => True

/-- Before the first proposal: rows refer to rows that are there. -/
structure OfferStart (s : Offers) : Prop where
  proposals : s.proposals = .empty
  calls : s.calls = .empty
  runs : s.runs = .empty
  sent : s.sent = []
  enrolled : ∀ id e, s.db.enrollments.get? id = some e →
    e.enrollmentId = id ∧ (s.db.campaigns.get? e.campaignId).isSome = true
  stepped : ∀ key, (s.db.steps.get? key).isSome = true → (s.db.campaigns.get? key.1).isSome = true
  touched : ∀ key, (s.db.touches.get? key).isSome = true → (s.db.enrollments.get? key.1).isSome = true

/-! ## The tables -/

structure TablesSound (s : Offers) : Prop where
  enrolled : ∀ id e, s.db.enrollments.get? id = some e →
    e.enrollmentId = id ∧ (s.db.campaigns.get? e.campaignId).isSome = true
  stepped : ∀ key, (s.db.steps.get? key).isSome = true → (s.db.campaigns.get? key.1).isSome = true
  touched : ∀ key, (s.db.touches.get? key).isSome = true → (s.db.enrollments.get? key.1).isSome = true
  unlinked : ∀ id proposal, s.proposals.get? id = some proposal →
    proposal.status = .proposed ∨ proposal.status = .approved → proposal.campaignId = none
  real : ∀ campaignId, s.linked campaignId = true →
    (s.db.campaigns.get? campaignId).map Campaigns.Campaign.isTest = some false
  oneStep : ∀ campaignId, s.linked campaignId = true →
    ∀ stepNo, (s.db.steps.get? (campaignId, stepNo)).isSome = true → stepNo = 1
  oneTouch : ∀ id e stepNo, s.offer id e → (s.db.touches.get? (id, stepNo)).isSome = true → stepNo = 1

variable {s s' : Offers} {db db' : Database} {id : EnrollmentId} {e e' : Campaigns.Enrollment}

lemma Quiet.refl (db : Database) : Quiet db db where
  enrollments _ e row := ⟨e, row, rfl, rfl, rfl, fun status => status⟩
  kept _ there := there
  steps := rfl
  campaigns _ := rfl
  touches _ touch logged := .inl ⟨touch, logged, rfl, rfl⟩
  logged _ touch logged := ⟨touch, logged, rfl, rfl⟩

lemma isSome_of_map_eq {α β : Type} {f : α → β} {a b : Option α} (same : a.map f = b.map f) :
    a.isSome = b.isSome := by
  rw [← Option.isSome_map, same, Option.isSome_map]

lemma TablesSound.rows (sound : TablesSound s) (keeps : KeepsRows s.db db)
    (touches : ∀ key, (db.touches.get? key).isSome = true → (s.db.touches.get? key).isSome = true ∨
      ∃ e, s.db.enrollments.get? key.1 = some e ∧ (s.db.steps.get? (e.campaignId, key.2)).isSome = true) :
    TablesSound { s with db := db } where
  enrolled := by
    intro id e row
    obtain ⟨old, before, own, _, campaign, _⟩ := keeps.enrollments id e row
    obtain ⟨keyed, known⟩ := sound.enrolled id old before
    refine ⟨own.trans keyed, ?_⟩
    rw [isSome_of_map_eq (keeps.campaigns e.campaignId), campaign]
    exact known
  stepped := by
    intro key there
    rw [isSome_of_map_eq (keeps.campaigns key.1)]
    exact sound.stepped key (keeps.steps ▸ there)
  touched := by
    intro key there
    apply keeps.kept
    rcases touches key there with before | ⟨e, row, _⟩
    · exact sound.touched key before
    · exact Option.isSome_iff_exists.mpr ⟨e, row⟩
  unlinked := sound.unlinked
  real := by
    intro campaignId linked
    rw [keeps.campaigns]
    exact sound.real campaignId linked
  oneStep := by
    intro campaignId linked stepNo there
    exact sound.oneStep campaignId linked stepNo (keeps.steps ▸ there)
  oneTouch := by
    intro id e stepNo ⟨row, linked⟩ there
    obtain ⟨old, before, _, _, campaign, _⟩ := keeps.enrollments id e row
    have linked' : s.linked old.campaignId = true := campaign ▸ linked
    rcases touches _ there with earlier | ⟨other, row', step⟩
    · exact sound.oneTouch id old stepNo ⟨before, linked'⟩ earlier
    · cases before.symm.trans row'
      exact sound.oneStep _ linked' stepNo step

lemma TablesSound.quiet (sound : TablesSound s) (quiet : Quiet s.db db) :
    TablesSound { s with db := db } := by
  refine sound.rows quiet.toKeepsRows fun key there => ?_
  obtain ⟨touch', logged⟩ := Option.isSome_iff_exists.mp there
  rcases quiet.touches key touch' logged with ⟨touch, before, _⟩ | ⟨_, e, row, step⟩
  · exact .inl (Option.isSome_iff_exists.mpr ⟨touch, before⟩)
  · exact .inr ⟨e, row, step⟩

lemma linked_iff {campaignId : CampaignId} : s.linked campaignId = true ↔
    ∃ id proposal, s.proposals.get? id = some proposal ∧ proposal.campaignId = some campaignId := by
  rw [Offers.linked, List.any_eq_true]
  constructor
  · rintro ⟨⟨id, proposal⟩, mem, same⟩
    exact ⟨id, proposal, s.proposals.mem_items_iff.mp mem, of_decide_eq_true same⟩
  · rintro ⟨id, proposal, found, same⟩
    exact ⟨(id, proposal), s.proposals.mem_items_iff.mpr found, decide_eq_true same⟩

/-- A proposal that is written without changing its campaign changes no link. -/
lemma linked_set {proposalId : ProposalId} {proposal : OfferProposal} {campaignId : CampaignId}
    (same : (s.proposals.get? proposalId).bind OfferProposal.campaignId = proposal.campaignId) :
    ({ s with proposals := s.proposals.set proposalId proposal } : Offers).linked campaignId =
      s.linked campaignId := by
  rw [Bool.eq_iff_iff, linked_iff, linked_iff]
  constructor
  · rintro ⟨id, row, found, linked⟩
    simp only [Dict.get?_set] at found
    split at found
    · rename_i here
      cases found
      rw [← same] at linked
      obtain ⟨old, before, linked⟩ := Option.bind_eq_some_iff.mp linked
      exact ⟨proposalId, old, before, linked⟩
    · exact ⟨id, row, found, linked⟩
  · rintro ⟨id, row, found, linked⟩
    by_cases here : id = proposalId
    · subst here
      refine ⟨id, proposal, Dict.get?_set_self _ _ _, ?_⟩
      rw [← same, found]
      exact linked
    · exact ⟨id, row, (Dict.get?_set_ne _ _ here).trans found, linked⟩

lemma TablesSound.proposal {proposalId : ProposalId} {proposal : OfferProposal} (sound : TablesSound s)
    (same : (s.proposals.get? proposalId).bind OfferProposal.campaignId = proposal.campaignId)
    (unlinked : proposal.status = .proposed ∨ proposal.status = .approved → proposal.campaignId = none) :
    TablesSound { s with proposals := s.proposals.set proposalId proposal } where
  enrolled := sound.enrolled
  stepped := sound.stepped
  touched := sound.touched
  unlinked := by
    intro id row found waiting
    simp only [Dict.get?_set] at found
    split at found
    · cases found
      exact unlinked waiting
    · exact sound.unlinked id row found waiting
  real := by
    intro campaignId linked
    exact sound.real campaignId (linked_set same ▸ linked)
  oneStep := by
    intro campaignId linked
    exact sound.oneStep campaignId (linked_set same ▸ linked)
  oneTouch := by
    intro id e stepNo ⟨row, linked⟩
    exact sound.oneTouch id e stepNo ⟨row, linked_set same ▸ linked⟩

/-! ### What drafting and reviewing write -/

lemma quiet_storeMessage {messageId : MessageId} {message : Campaigns.OutreachMessage} :
    Quiet db (db.storeMessage messageId message) :=
  have still := Quiet.refl db
  ⟨⟨still.enrollments, still.kept, rfl, still.campaigns⟩, still.touches, still.logged⟩

/-- A gate that lets an enrollment be, or ends it. -/
lemma quiet_storeEnrollment (row : db.enrollments.get? e.enrollmentId = some e)
    (gated : e' = e ∨ ∃ status ∈ Campaigns.allowedTransitions e.status,
      (status = .excluded ∨ status ∈ Campaigns.stoppedStatuses) ∧ e' = { e with status := status }) :
    Quiet db (db.storeEnrollment e') := by
  have kept : e'.enrollmentId = e.enrollmentId ∧ e'.clientId = e.clientId ∧
      e'.campaignId = e.campaignId ∧ (e'.status.isSchedulable = true → e.status.isSchedulable = true) := by
    rcases gated with rfl | ⟨status, _, ended, rfl⟩
    · exact ⟨rfl, rfl, rfl, fun status => status⟩
    · refine ⟨rfl, rfl, rfl, fun still => ?_⟩
      rcases ended with rfl | stopped
      · cases still
      · simp only [Campaigns.stoppedStatuses, List.mem_cons, List.not_mem_nil, or_false] at stopped
        rcases stopped with rfl | rfl | rfl | rfl
        all_goals cases still
  refine ⟨⟨?_, ?_, rfl, fun _ => rfl⟩, (Quiet.refl db).touches, (Quiet.refl db).logged⟩
  · intro id row' found
    rw [Database.storeEnrollment, Dict.get?_set, kept.1] at found
    split at found
    · rename_i here
      cases found
      exact ⟨e, here ▸ row, kept⟩
    · exact ⟨row', found, rfl, rfl, rfl, fun status => status⟩
  · intro id there
    rw [Database.storeEnrollment, Dict.get?_set]
    split
    · rfl
    · exact there

/-- Generating logs one new touch, unsent. -/
lemma generateTouch_logs {stepNo : ℤ} {generate : GenerateFn} {touch : TouchLog}
    (untouched : db.touches.get? (e.enrollmentId, stepNo) = none)
    (ran : Campaigns.generateTouch db e stepNo generate = .ok (db', touch)) :
    db'.enrollments = db.enrollments ∧ db'.steps = db.steps ∧ db'.campaigns = db.campaigns ∧
      touch.sentAt = none ∧ ∀ key, db'.touches.get? key =
        if key = (e.enrollmentId, stepNo) then some touch else db.touches.get? key := by
  simp only [Campaigns.generateTouch, Campaigns.recordTouch, untouched, Option.isSome_none,
    Bool.false_eq_true, if_false] at ran
  obtain ⟨drafted, _, made⟩ := map_eq_ok.mp ran
  cases drafted with
  | none =>
    cases made
    exact ⟨rfl, rfl, rfl, rfl, fun key => Dict.get?_set _ _ _ _⟩
  | some message =>
    cases made
    refine ⟨rfl, rfl, rfl, rfl, fun key => ?_⟩
    rw [Database.storeTouch, Dict.get?_set]
    split
    · rfl
    · rename_i other
      exact (Dict.get?_set _ _ _ _).trans (if_neg other)

lemma quiet_runDueEnrollment {env : Env} {generate : GenerateFn} {outcome : TouchRunOutcome}
    (row : db.enrollments.get? e.enrollmentId = some e)
    (ran : Campaigns.runDueEnrollment env generate db e = .ok (db', outcome)) : Quiet db db' := by
  obtain ⟨gate, checked, made⟩ := map_eq_ok.mp ran
  split at made
  · cases made
    exact quiet_storeEnrollment row ((Campaigns.checkEligibility_cases checked).imp_right
      fun ⟨status, mem, ended, same⟩ => ⟨status, mem, ended, same⟩)
  · rename_i eligible
    obtain ⟨_, step, untouched⟩ := Campaigns.checkEligibility_eligible checked (not_not.mp eligible)
    rw [Campaigns.alreadyTouched, Option.isSome_eq_false_iff, Option.isNone_iff_eq_none] at untouched
    split at made
    · cases made
      exact Quiet.refl db
    · rename_i touch generated
      cases made
      obtain ⟨enrollments, steps, campaigns, unsent, touches⟩ := generateTouch_logs untouched generated
      have still := Quiet.refl db
      refine ⟨⟨enrollments ▸ still.enrollments, enrollments ▸ still.kept, steps,
        fun id => by rw [campaigns]⟩, ?_, ?_⟩
      · intro key touch' logged
        rw [touches] at logged
        split at logged
        · rename_i here
          cases logged
          exact .inr ⟨unsent, e, here ▸ row, here ▸ step⟩
        · exact still.touches key touch' logged
      · intro key before logged
        refine ⟨before, ?_, rfl, rfl⟩
        rw [touches, if_neg ?_, logged]
        intro here
        rw [here, untouched] at logged
        cases logged

/-! ## The offers of a client -/

/-- A message of the enrollment was sent, or may still be. -/
def Offers.live (s : Offers) (id : EnrollmentId) (e : Campaigns.Enrollment) : Prop :=
  e.status.isSchedulable = true ∨ s.onPage id ∨ ∃ stepNo, (id, stepNo) ∈ s.sent.map Prod.snd

structure OneOffer (s : Offers) : Prop where
  once : ∀ id e id' e', s.offer id e → s.offer id' e' → e.clientId = e'.clientId → s.live id e →
    s.live id' e' → id = id'
  /-- Whom a call is about to enroll has no offer. -/
  calls : ∀ call gated, s.calls.get? call = some gated → ∀ id e, s.offer id e →
    e.clientId ∈ gated.ready → ¬ s.live id e
  single : ∀ call call', (s.calls.get? call).isSome = true → (s.calls.get? call').isSome = true →
    call = call'

/-- A step after which no other offer is live. -/
lemma OneOffer.mono (one : OneOffer s)
    (calls : ∀ call gated, s'.calls.get? call = some gated → s.calls.get? call = some gated)
    (live : ∀ id e', s'.offer id e' → s'.live id e' →
      ∃ e, s.offer id e ∧ e.clientId = e'.clientId ∧ s.live id e) : OneOffer s' where
  once := by
    intro id e' id' f' here there same alive alive'
    obtain ⟨e, offer, client, before⟩ := live id e' here alive
    obtain ⟨f, offer', client', before'⟩ := live id' f' there alive'
    exact one.once id e id' f offer offer' (client.trans (same.trans client'.symm)) before before'
  calls := by
    intro call gated under_way id e' here ready alive
    obtain ⟨e, offer, client, before⟩ := live id e' here alive
    exact one.calls call gated (calls call gated under_way) id e offer (client ▸ ready) before
  single := by
    intro call call' there there'
    obtain ⟨gated, under_way⟩ := Option.isSome_iff_exists.mp there
    obtain ⟨gated', under_way'⟩ := Option.isSome_iff_exists.mp there'
    exact one.single call call' (Option.isSome_iff_exists.mpr ⟨gated, calls _ _ under_way⟩)
      (Option.isSome_iff_exists.mpr ⟨gated', calls _ _ under_way'⟩)

/-! ## The sending runs -/

/-- The touches a run has not handed over yet. -/
def SendingRun.waiting (r : SendingRun) : List TouchKey :=
  (if r.delivered.isSome then r.page.tail else r.page).map Prod.fst

/-- The message was sent, and its run has not committed that. -/
def Offers.uncommitted (s : Offers) (key : TouchKey) : Prop :=
  ∃ run r touch rest delivery, s.runs.get? run = some r ∧ r.page = (key, touch) :: rest ∧
    r.delivered = some delivery ∧ delivery.result.deliveryStatus = sentStatus

/-- The sending is on file. -/
def Offers.filed (s : Offers) (key : TouchKey) : Prop :=
  ∃ touch, s.db.touches.get? key = some touch ∧ touch.deliveryStatus = some sentStatus ∧
    touch.sentAt.isSome = true

structure SendsSound (s : Offers) : Prop where
  distinct : ∀ run r, s.runs.get? run = some r → (r.page.map Prod.fst).Nodup
  listed : ∀ run r, s.runs.get? run = some r → ∀ key ∈ r.page.map Prod.fst,
    (s.db.touches.get? key).isSome = true ∧ ∃ e, s.offer key.1 e
  exclusive : ∀ run run' r r', run ≠ run' → s.runs.get? run = some r → s.runs.get? run' = some r' →
    ∀ key ∈ r.page.map Prod.fst, key ∉ r'.page.map Prod.fst
  moved : ∀ run r delivery e, s.runs.get? run = some r → r.delivered = some delivery →
    delivery.moved = some e → e.status.isSchedulable = false
  waiting : ∀ run r, s.runs.get? run = some r → ∀ key ∈ r.waiting, key ∉ s.sent.map Prod.snd
  inHand : ∀ run r key touch rest delivery, s.runs.get? run = some r → r.page = (key, touch) :: rest →
    r.delivered = some delivery → key ∈ s.sent.map Prod.snd → delivery.result.deliveryStatus = sentStatus
  offers : ∀ clientId key, (clientId, key) ∈ s.sent →
    (s.db.touches.get? key).isSome = true ∧ ∃ e, s.offer key.1 e ∧ e.clientId = clientId
  recorded : ∀ clientId key, (clientId, key) ∈ s.sent → s.filed key ∨ s.uncommitted key
  once : OfferedOnce s

lemma KeepsRows.forward (keeps : KeepsRows db db') (row : db.enrollments.get? id = some e) :
    ∃ e', db'.enrollments.get? id = some e' ∧ e'.clientId = e.clientId ∧ e'.campaignId = e.campaignId := by
  obtain ⟨e', row'⟩ := Option.isSome_iff_exists.mp (keeps.kept id (Option.isSome_iff_exists.mpr ⟨e, row⟩))
  obtain ⟨old, before, _, client, campaign, _⟩ := keeps.enrollments id e' row'
  cases row.symm.trans before
  exact ⟨e', row', client, campaign⟩

lemma offer_forward (keeps : KeepsRows s.db db) (offer : s.offer id e) :
    ∃ e', ({ s with db := db } : Offers).offer id e' ∧ e'.clientId = e.clientId := by
  obtain ⟨e', row', client, campaign⟩ := keeps.forward offer.1
  exact ⟨e', ⟨row', campaign ▸ offer.2⟩, client⟩

lemma OneOffer.rows (one : OneOffer s) (keeps : KeepsRows s.db db) :
    OneOffer { s with db := db } := by
  refine one.mono (fun _ _ found => found) fun id e' ⟨row', linked⟩ live => ?_
  obtain ⟨e, row, _, client, campaign, status⟩ := keeps.enrollments id e' row'
  exact ⟨e, ⟨row, campaign ▸ linked⟩, client.symm, live.imp_left status⟩

lemma SendsSound.quiet (sends : SendsSound s) (quiet : Quiet s.db db) :
    SendsSound { s with db := db } where
  distinct := sends.distinct
  listed := by
    intro run r found key mem
    obtain ⟨there, e, offer⟩ := sends.listed run r found key mem
    obtain ⟨touch, logged⟩ := Option.isSome_iff_exists.mp there
    obtain ⟨touch', logged', _⟩ := quiet.logged key touch logged
    obtain ⟨e', offer', _⟩ := offer_forward quiet.toKeepsRows offer
    exact ⟨Option.isSome_iff_exists.mpr ⟨touch', logged'⟩, e', offer'⟩
  exclusive := sends.exclusive
  moved := sends.moved
  waiting := sends.waiting
  inHand := sends.inHand
  offers := by
    intro clientId key mem
    obtain ⟨there, e, offer, client⟩ := sends.offers clientId key mem
    obtain ⟨touch, logged⟩ := Option.isSome_iff_exists.mp there
    obtain ⟨touch', logged', _⟩ := quiet.logged key touch logged
    obtain ⟨e', offer', client'⟩ := offer_forward quiet.toKeepsRows offer
    exact ⟨Option.isSome_iff_exists.mpr ⟨touch', logged'⟩, e', offer', client'.trans client⟩
  recorded := by
    intro clientId key mem
    rcases sends.recorded clientId key mem with ⟨touch, logged, status, sentAt⟩ | uncommitted
    · obtain ⟨touch', logged', status', sentAt'⟩ := quiet.logged key touch logged
      exact .inl ⟨touch', logged', status'.trans status, sentAt' ▸ sentAt⟩
    · exact .inr uncommitted
  once := sends.once

structure OfferSound (s : Offers) : Prop where
  tables : TablesSound s
  one : OneOffer s
  sends : SendsSound s
  gated : ∀ call gated, s.calls.get? call = some gated →
    ∃ proposal, s.proposals.get? gated.proposalId = some proposal ∧ proposal.status = .approved

lemma OfferSound.quiet (sound : OfferSound s) (quiet : Quiet s.db db) : OfferSound { s with db := db } :=
  ⟨sound.tables.quiet quiet, sound.one.rows quiet.toKeepsRows, sound.sends.quiet quiet, sound.gated⟩

/-! ### Writing, deciding and checking -/

lemma OfferSound.proposal {proposalId : ProposalId} {proposal : OfferProposal} (sound : OfferSound s)
    (same : (s.proposals.get? proposalId).bind OfferProposal.campaignId = proposal.campaignId)
    (unlinked : proposal.status = .proposed ∨ proposal.status = .approved → proposal.campaignId = none)
    (waiting : ∀ old, s.proposals.get? proposalId = some old → old.status ≠ .approved) :
    OfferSound { s with proposals := s.proposals.set proposalId proposal } := by
  have offers : ∀ id e, ({ s with proposals := s.proposals.set proposalId proposal } : Offers).offer id e ↔
      s.offer id e := by
    intro id e
    rw [Offers.offer, linked_set same, Offers.offer]
  refine ⟨sound.tables.proposal same unlinked, ?_, ?_, ?_⟩
  · refine sound.one.mono (fun _ _ found => found) fun id e offer live => ?_
    exact ⟨e, (offers id e).mp offer, rfl, live⟩
  · have sends := sound.sends
    refine ⟨sends.distinct, ?_, sends.exclusive, sends.moved, sends.waiting, sends.inHand, ?_,
      sends.recorded, sends.once⟩
    · intro run r found key mem
      obtain ⟨there, e, offer⟩ := sends.listed run r found key mem
      exact ⟨there, e, (offers _ _).mpr offer⟩
    · intro clientId key mem
      obtain ⟨there, e, offer, client⟩ := sends.offers clientId key mem
      exact ⟨there, e, (offers _ _).mpr offer, client⟩
  · intro call gated found
    obtain ⟨row, there, approved⟩ := sound.gated call gated found
    refine ⟨row, (Dict.get?_set_ne _ _ fun clash => ?_).trans there, approved⟩
    exact waiting row (clash ▸ there) approved

/-- Whom the checks leave in was not sent the offer yet. -/
lemma unsent_of_memberSkipReason {facts : GateFacts} {action : ActionRow} {member : GroupMember}
    (code : action.actionCode = secondFundAction) (passed : memberSkipReason facts member action = none) :
    facts.sent member.clientId action.actionCode = false := by
  rw [memberSkipReason] at passed
  repeat' split at passed
  all_goals cases passed
  rename_i unsent
  simpa [alreadyOffered, code, offeredOnce] using unsent

lemma offeredBefore_of_touch {key : TouchKey} {touch : TouchLog} (tables : TablesSound s)
    (offer : s.offer key.1 e) (logged : s.db.touches.get? key = some touch)
    (sent : touch.deliveryStatus = some sentStatus) : s.offeredBefore e.clientId = true := by
  obtain ⟨row, linked⟩ := offer
  obtain ⟨campaign, found, real⟩ := Option.map_eq_some_iff.mp (tables.real e.campaignId linked)
  rw [Offers.offeredBefore, List.any_eq_true]
  refine ⟨(key, touch), s.db.touches.mem_items_iff.mpr logged, ?_⟩
  simp [sent, row, found, real, linked]

lemma onPage_of_uncommitted {key : TouchKey} (uncommitted : s.uncommitted key) : s.onPage key.1 := by
  obtain ⟨run, r, touch, rest, delivery, found, page, _⟩ := uncommitted
  refine ⟨run, r, found, key.2, ?_⟩
  rw [page, List.map_cons]
  exact .head _

lemma OfferSound.gate {call : CallId} {proposalId : ProposalId} {proposal : OfferProposal}
    {reading : Reading} {action : ActionRow} {holds : ClientId → Bool} (sound : OfferSound s)
    (found : s.proposals.get? proposalId = some proposal) (approved : proposal.status = .approved)
    (alone : ∀ call, s.calls.get? call = none)
    (reads : ∀ clientId, reading.facts.sent clientId action.actionCode = s.offeredBefore clientId)
    (code : action.actionCode = secondFundAction)
    (clear : ∀ row ∈ proposal.rows, row.included = true → ¬ s.offerInFlight row.key.1) :
    OfferSound { s with
      calls := s.calls.set call ⟨proposalId,
        readyOf reading.facts action (membersOf proposal.rows reading.balance) holds⟩ } := by
  refine ⟨?_, ⟨sound.one.once, ?_, ?_⟩, ?_, ?_⟩
  · have tables := sound.tables
    exact ⟨tables.enrolled, tables.stepped, tables.touched, tables.unlinked, tables.real, tables.oneStep,
      tables.oneTouch⟩
  · intro other gated found id e offer ready live
    simp only [Dict.get?_set] at found
    split at found
    · cases found
      obtain ⟨member, kept, client⟩ := List.mem_map.mp (List.mem_filter.mp ready).1
      obtain ⟨listed, passed⟩ := List.mem_filter.mp kept
      obtain ⟨row, among, rfl⟩ := List.mem_map.mp listed
      obtain ⟨mem, included⟩ := List.mem_filter.mp among
      have idle : ¬ s.offerInFlight e.clientId := client ▸ clear row mem included
      rcases live with schedulable | paged | ⟨stepNo, sent⟩
      · exact idle ⟨id, e, offer, rfl, .inl schedulable⟩
      · exact idle ⟨id, e, offer, rfl, .inr paged⟩
      · obtain ⟨⟨clientId, _⟩, sent, rfl⟩ := List.mem_map.mp sent
        have here : s.offer (id, stepNo).1 e := offer
        rcases sound.sends.recorded clientId _ sent with ⟨touch, logged, status, _⟩ | uncommitted
        · have before := offeredBefore_of_touch sound.tables here logged status
          have unsent := unsent_of_memberSkipReason code (of_decide_eq_true passed)
          rw [reads, client, before] at unsent
          cases unsent
        · exact idle ⟨id, e, offer, rfl, .inr (onPage_of_uncommitted uncommitted)⟩
    · rw [alone] at found
      cases found
  · intro one two there there'
    simp only [Dict.get?_set, alone] at there there'
    split at there
    · split at there'
      · rename_i same same'
        rw [same, same']
      · cases there'
    · cases there
  · have sends := sound.sends
    exact ⟨sends.distinct, sends.listed, sends.exclusive, sends.moved, sends.waiting, sends.inHand,
      sends.offers, sends.recorded, sends.once⟩
  · intro other gated there
    simp only [Dict.get?_set] at there
    split at there
    · cases there
      exact ⟨proposal, found, approved⟩
    · rw [alone] at there
      cases there

/-! ### Enrolling -/

section Enroll
variable {campaignId : CampaignId} {enrolledAt : Rules.Instant} {ids : ClientId → EnrollmentId}
  {primary : ClientId → Bool} {clientIds : List ClientId}

lemma row_addCampaign (row : (addCampaign db campaignId
      (newEnrollments campaignId enrolledAt ids primary clientIds)).enrollments.get? id = some e) :
    (e.enrollmentId = id ∧ e.campaignId = campaignId ∧ e.clientId ∈ clientIds ∧ id = ids e.clientId) ∨
      db.enrollments.get? id = some e := by
  rw [addCampaign, Dict.get?_foldl_set] at row
  cases last : ((newEnrollments campaignId enrolledAt ids primary clientIds).filter
      fun b => b.1 = id).getLast? with
  | none =>
    rw [last] at row
    exact .inr row
  | some entry =>
    rw [last] at row
    cases row
    obtain ⟨listed, key⟩ := List.mem_filter.mp (List.mem_of_getLast? last)
    obtain ⟨clientId, mem, rfl⟩ := List.mem_map.mp listed
    have here : ids clientId = id := of_decide_eq_true key
    exact .inl ⟨here, rfl, List.mem_dedup.mp mem, here.symm⟩

lemma row_addCampaign_of_row (new : ∀ clientId, db.enrollments.get? (ids clientId) = none)
    (row : db.enrollments.get? id = some e) : (addCampaign db campaignId
      (newEnrollments campaignId enrolledAt ids primary clientIds)).enrollments.get? id = some e := by
  rw [addCampaign, Dict.get?_foldl_set_of_not_mem, row]
  intro listed
  obtain ⟨entry, mem, rfl⟩ := List.mem_map.mp listed
  obtain ⟨clientId, _, rfl⟩ := List.mem_map.mp mem
  rw [new clientId] at row
  cases row

lemma linked_enroll {proposalId : ProposalId} {proposal : OfferProposal} {other : CampaignId}
    (linked : ({ s with proposals := s.proposals.set proposalId (proposal.run campaignId) } : Offers).linked
      other = true) : other = campaignId ∨ s.linked other = true := by
  obtain ⟨id, row, there, same⟩ := linked_iff.mp linked
  simp only [Dict.get?_set] at there
  split at there
  · cases there
    exact .inl (Option.some_inj.mp same).symm
  · exact .inr (linked_iff.mpr ⟨id, row, there, same⟩)

lemma linked_enroll_of_linked {proposalId : ProposalId} {proposal : OfferProposal} {other : CampaignId}
    (found : s.proposals.get? proposalId = some proposal) (unlinked : proposal.campaignId = none)
    (linked : s.linked other = true) :
    ({ s with proposals := s.proposals.set proposalId (proposal.run campaignId) } : Offers).linked
      other = true := by
  obtain ⟨id, row, there, same⟩ := linked_iff.mp linked
  refine linked_iff.mpr ⟨id, row, ?_, same⟩
  refine (Dict.get?_set_ne _ _ fun clash => ?_).trans there
  rw [clash, found] at there
  cases there
  rw [unlinked] at same
  cases same

lemma OfferSound.enroll {call : CallId} {gated : GatedCall} {proposal : OfferProposal} (sound : OfferSound s)
    (here : s.calls.get? call = some gated) (found : s.proposals.get? gated.proposalId = some proposal)
    (unlinked : proposal.campaignId = none) (fresh : s.db.campaigns.get? campaignId = none)
    (new : ∀ clientId, s.db.enrollments.get? (ids clientId) = none) :
    OfferSound
      { s with
        db := addCampaign s.db campaignId (newEnrollments campaignId enrolledAt ids primary gated.ready)
        proposals := s.proposals.set gated.proposalId (proposal.run campaignId)
        calls := s.calls.erase call } := by
  set s' : Offers := { s with
    db := addCampaign s.db campaignId (newEnrollments campaignId enrolledAt ids primary gated.ready)
    proposals := s.proposals.set gated.proposalId (proposal.run campaignId)
    calls := s.calls.erase call } with made
  have tables := sound.tables
  have noRow : ∀ id e, s.db.enrollments.get? id = some e → e.campaignId ≠ campaignId := by
    intro id e row same
    have known := (tables.enrolled id e row).2
    rw [same, fresh] at known
    cases known
  have campaigns : ∀ other, (s.db.campaigns.get? other).isSome = true →
      s'.db.campaigns.get? other = s.db.campaigns.get? other := by
    intro other there
    refine Dict.get?_set_ne _ _ fun same => ?_
    rw [same, fresh] at there
    cases there
  have linked : ∀ other, s'.linked other = true → other = campaignId ∨
      s.linked other = true ∧ other ≠ campaignId := by
    intro other there
    rcases linked_enroll there with same | before
    · exact .inl same
    · refine .inr ⟨before, fun same => ?_⟩
      have real := tables.real other before
      rw [same, fresh] at real
      cases real
  have offers : ∀ id e, s'.offer id e →
      e.clientId ∈ gated.ready ∧ id = ids e.clientId ∧ e.campaignId = campaignId ∨ s.offer id e := by
    intro id e ⟨row, there⟩
    rcases row_addCampaign row with ⟨_, campaign, ready, key⟩ | before
    · exact .inl ⟨ready, key, campaign⟩
    · rcases linked _ there with same | ⟨old, _⟩
      · exact absurd same (noRow id e before)
      · exact .inr ⟨before, old⟩
  have still : ∀ id e, s.offer id e → s'.offer id e := by
    intro id e ⟨row, there⟩
    exact ⟨row_addCampaign_of_row new row, linked_enroll_of_linked found unlinked there⟩
  have under_way : ∀ other gated', s'.calls.get? other ≠ some gated' := by
    intro other gated' there
    simp only [made, Dict.get?_erase] at there
    split at there
    · cases there
    · rename_i different
      refine different (sound.one.single other call ?_ ?_)
      · exact Option.isSome_iff_exists.mpr ⟨_, there⟩
      · exact Option.isSome_iff_exists.mpr ⟨_, here⟩
  refine ⟨⟨?_, ?_, ?_, ?_, ?_, ?_, ?_⟩, ⟨?_, ?_, ?_⟩, ?_, ?_⟩
  · intro id e row
    rcases row_addCampaign row with ⟨own, campaign, _⟩ | before
    · refine ⟨own, ?_⟩
      rw [campaign]
      exact congrArg Option.isSome (Dict.get?_set_self _ _ _)
    · obtain ⟨own, known⟩ := tables.enrolled id e before
      exact ⟨own, (campaigns _ known).symm ▸ known⟩
  · intro key there
    by_cases mine : key = (campaignId, 1)
    · rw [mine]
      exact congrArg Option.isSome (Dict.get?_set_self _ _ _)
    · have before := tables.stepped key ((Dict.get?_set_ne _ _ mine) ▸ there)
      exact (campaigns _ before).symm ▸ before
  · intro key there
    obtain ⟨e, row⟩ := Option.isSome_iff_exists.mp (tables.touched key there)
    exact Option.isSome_iff_exists.mpr ⟨e, row_addCampaign_of_row new row⟩
  · intro id row there waiting
    simp only [made, Dict.get?_set] at there
    split at there
    · cases there
      rcases waiting with waiting | waiting
      all_goals cases waiting
    · exact tables.unlinked id row there waiting
  · intro other there
    rcases linked other there with rfl | ⟨before, different⟩
    · exact congrArg (Option.map _) (Dict.get?_set_self _ _ _)
    · exact (congrArg (Option.map _) (Dict.get?_set_ne _ _ different)).trans (tables.real other before)
  · intro other there stepNo step
    by_cases mine : (other, stepNo) = (campaignId, 1)
    · exact congrArg Prod.snd mine
    · have before : (s.db.steps.get? (other, stepNo)).isSome = true :=
        (Dict.get?_set_ne _ _ mine) ▸ step
      rcases linked other there with rfl | ⟨old, _⟩
      · have known := tables.stepped _ before
        rw [fresh] at known
        cases known
      · exact tables.oneStep other old stepNo before
  · intro id e stepNo offer there
    rcases offers id e offer with ⟨_, key, _⟩ | before
    · have known := tables.touched _ there
      rw [key, new] at known
      cases known
    · exact tables.oneTouch id e stepNo before there
  · intro id e id' e' offer offer' same live live'
    rcases offers id e offer with ⟨ready, key, _⟩ | before
    · rcases offers id' e' offer' with ⟨_, key', _⟩ | before'
      · rw [key, key', same]
      · exact absurd live' (sound.one.calls call gated here id' e' before' (same ▸ ready))
    · rcases offers id' e' offer' with ⟨ready', _, _⟩ | before'
      · exact absurd live (sound.one.calls call gated here id e before (same ▸ ready'))
      · exact sound.one.once id e id' e' before before' same live live'
  · exact fun other gated' there => absurd there (under_way other gated')
  · intro one two there
    obtain ⟨gated', there⟩ := Option.isSome_iff_exists.mp there
    exact absurd there (under_way one gated')
  · have sends := sound.sends
    refine ⟨sends.distinct, ?_, sends.exclusive, sends.moved, sends.waiting, sends.inHand, ?_,
      sends.recorded, sends.once⟩
    · intro run r held key mem
      obtain ⟨there, e, offer⟩ := sends.listed run r held key mem
      exact ⟨there, e, still _ _ offer⟩
    · intro clientId key mem
      obtain ⟨there, e, offer, client⟩ := sends.offers clientId key mem
      exact ⟨there, e, still _ _ offer, client⟩
  · exact fun other gated' there => absurd there (under_way other gated')

end Enroll

/-! ### Sending -/

section Sending
variable {run : RunId} {r r' : SendingRun} {key : TouchKey} {touch : TouchLog}
  {rest : List (TouchKey × TouchLog)} {delivery : Delivery}

lemma mem_duePage {campaignId : CampaignId} {limit : ℕ} {after : Campaigns.TouchId}
    (mem : key ∈ (Campaigns.duePage db campaignId limit after).map Prod.fst) :
    ∃ touch, db.touches.get? key = some touch ∧ Campaigns.isSendable db campaignId key touch = true := by
  obtain ⟨⟨_, touch⟩, listed, rfl⟩ := List.mem_map.mp mem
  have sorted := (sortBy_perm _ _).mem_iff.mp (List.mem_of_mem_take listed)
  obtain ⟨logged, chosen⟩ := List.mem_filter.mp sorted
  simp only [Bool.decide_and, Bool.decide_eq_true, Bool.and_eq_true] at chosen
  exact ⟨touch, db.touches.mem_items_iff.mp logged, chosen.1⟩

/-- A run with nothing in hand that is not on file gets another page or the rest of its own. -/
lemma SendsSound.put (sends : SendsSound s)
    (free : ∀ r key touch rest delivery, s.runs.get? run = some r → r.page = (key, touch) :: rest →
      r.delivered = some delivery → delivery.result.deliveryStatus = sentStatus → s.filed key)
    (idle : r'.delivered = none) (distinct : (r'.page.map Prod.fst).Nodup)
    (listed : ∀ key ∈ r'.page.map Prod.fst,
      (s.db.touches.get? key).isSome = true ∧ ∃ e, s.offer key.1 e)
    (exclusive : ∀ other r, other ≠ run → s.runs.get? other = some r →
      ∀ key ∈ r'.page.map Prod.fst, key ∉ r.page.map Prod.fst)
    (waiting : ∀ key ∈ r'.page.map Prod.fst, key ∉ s.sent.map Prod.snd) :
    SendsSound { s with runs := s.runs.set run r' } where
  distinct := by
    intro other r found
    simp only [Dict.get?_set] at found
    split at found
    · cases found
      exact distinct
    · exact sends.distinct other r found
  listed := by
    intro other r found
    simp only [Dict.get?_set] at found
    split at found
    · cases found
      exact listed
    · exact sends.listed other r found
  exclusive := by
    intro one two r₁ r₂ different found found'
    simp only [Dict.get?_set] at found found'
    split at found
    · rename_i same
      cases found
      split at found'
      · rename_i same'
        exact absurd (same.trans same'.symm) different
      · rename_i other
        exact exclusive two r₂ other found'
    · rename_i other
      split at found'
      · cases found'
        exact fun key mem mem' => exclusive one r₁ other found key mem' mem
      · exact sends.exclusive one two r₁ r₂ different found found'
  moved := by
    intro other r delivery e found delivered
    simp only [Dict.get?_set] at found
    split at found
    · cases found
      rw [idle] at delivered
      cases delivered
    · exact sends.moved other r delivery e found delivered
  waiting := by
    intro other r found
    simp only [Dict.get?_set] at found
    split at found
    · cases found
      intro key mem
      rw [SendingRun.waiting, idle] at mem
      exact waiting key mem
    · exact sends.waiting other r found
  inHand := by
    intro other r key touch rest delivery found page delivered
    simp only [Dict.get?_set] at found
    split at found
    · cases found
      rw [idle] at delivered
      cases delivered
    · exact sends.inHand other r key touch rest delivery found page delivered
  offers := sends.offers
  recorded := by
    intro clientId key mem
    rcases sends.recorded clientId key mem with filed | uncommitted
    · exact .inl filed
    · obtain ⟨other, r, touch, rest, delivery, found, page, delivered, status⟩ := uncommitted
      by_cases same : other = run
      · exact .inl (free r key touch rest delivery (same ▸ found) page delivered status)
      · right
        refine ⟨other, r, touch, rest, delivery, ?_, page, delivered, status⟩
        exact (Dict.get?_set_ne _ _ same).trans found
  once := sends.once

/-- The pages only shrink. -/
lemma OneOffer.runs {runs : Dict RunId SendingRun} (one : OneOffer s)
    (pages : ∀ run r, runs.get? run = some r → ∀ key ∈ r.page.map Prod.fst,
      s.onPage key.1 ∨ ∀ e, s.offer key.1 e → e.status.isSchedulable = true) :
    OneOffer { s with runs := runs } := by
  refine one.mono (fun _ _ found => found) fun id e offer live => ?_
  refine ⟨e, offer, rfl, ?_⟩
  rcases live with schedulable | ⟨run, r, found, stepNo, mem⟩ | sent
  · exact .inl schedulable
  · rcases pages run r found _ mem with paged | schedulable
    · exact .inr (.inl paged)
    · exact .inl (schedulable e offer)
  · exact .inr (.inr sent)

lemma onPage_of_mem (found : s.runs.get? run = some r) (mem : key ∈ r.page.map Prod.fst) :
    s.onPage key.1 := ⟨run, r, found, key.2, mem⟩

lemma TablesSound.runs {runs : Dict RunId SendingRun} {sent : List (ClientId × TouchKey)}
    (tables : TablesSound s) : TablesSound { s with runs := runs, sent := sent } :=
  ⟨tables.enrolled, tables.stepped, tables.touched, tables.unlinked, tables.real, tables.oneStep,
    tables.oneTouch⟩

lemma OfferSound.select {campaignId : CampaignId} {limit : ℕ} {after : Campaigns.TouchId}
    (sound : OfferSound s) (done : (s.runs.getD run {}).page = []) (ours : s.linked campaignId = true)
    (apart : ∀ other r, other ≠ run → s.runs.get? other = some r →
      ∀ key ∈ (Campaigns.duePage s.db campaignId limit after).map Prod.fst, key ∉ r.page.map Prod.fst) :
    OfferSound { s with
      runs := s.runs.set run { page := Campaigns.duePage s.db campaignId limit after } } := by
  have empty : ∀ r, s.runs.get? run = some r → r.page = [] := by
    intro r found
    rwa [Dict.getD, found] at done
  have sendable : ∀ key ∈ (Campaigns.duePage s.db campaignId limit after).map Prod.fst,
      ∃ touch e, s.db.touches.get? key = some touch ∧ s.offer key.1 e ∧ e.status.isSchedulable = true ∧
        touch.sentAt = none := by
    intro key mem
    obtain ⟨touch, logged, chosen⟩ := mem_duePage mem
    simp only [Campaigns.isSendable, Bool.decide_and, Bool.decide_eq_true, Bool.and_eq_true,
      decide_eq_true_eq] at chosen
    obtain ⟨enrolled, unsent, _⟩ := chosen
    obtain ⟨e, row, both⟩ := (Option.any_eq_true _ _).mp enrolled
    obtain ⟨campaign, schedulable⟩ := Bool.and_eq_true_iff.mp both
    have linked : s.linked e.campaignId = true := (of_decide_eq_true campaign).symm ▸ ours
    exact ⟨touch, e, logged, ⟨row, linked⟩, schedulable, unsent⟩
  refine ⟨sound.tables.runs, sound.one.runs ?_, sound.sends.put ?_ rfl ?_ ?_ apart ?_, sound.gated⟩
  · intro other r found key mem
    simp only [Dict.get?_set] at found
    split at found
    · cases found
      obtain ⟨_, e, _, offer, schedulable, _⟩ := sendable key mem
      refine .inr fun e' offer' => ?_
      cases offer.1.symm.trans offer'.1
      exact schedulable
    · exact .inl (onPage_of_mem found mem)
  · intro r key touch rest delivery found page
    rw [empty r found] at page
    cases page
  · exact Campaigns.nodup_duePage
  · intro key mem
    obtain ⟨touch, e, logged, offer, _⟩ := sendable key mem
    exact ⟨Option.isSome_iff_exists.mpr ⟨touch, logged⟩, e, offer⟩
  · intro key mem sent
    obtain ⟨touch, e, logged, offer, _, unsent⟩ := sendable key mem
    obtain ⟨⟨clientId, _⟩, was, rfl⟩ := List.mem_map.mp sent
    rcases sound.sends.recorded clientId _ was with ⟨touch', logged', _, sentAt⟩ | uncommitted
    · cases logged.symm.trans logged'
      rw [unsent] at sentAt
      cases sentAt
    · obtain ⟨other, r, touch', rest, delivery, found, page, _⟩ := uncommitted
      by_cases same : other = run
      · subst same
        rw [empty r found] at page
        cases page
      · refine apart other r same found _ mem ?_
        rw [page]
        exact .head _

/-- The run is done with the first touch of its page. -/
lemma OfferSound.next (sound : OfferSound s) (found : s.runs.get? run = some r)
    (page : r.page = (key, touch) :: rest)
    (free : ∀ delivery, r.delivered = some delivery →
      delivery.result.deliveryStatus = sentStatus → s.filed key) :
    OfferSound { s with runs := s.runs.set run { page := rest } } := by
  have sub : ∀ other ∈ rest.map Prod.fst, other ∈ r.page.map Prod.fst := by
    intro other mem
    rw [page]
    exact .tail _ mem
  have distinct := sound.sends.distinct run r found
  rw [page, List.map_cons, List.nodup_cons] at distinct
  refine ⟨sound.tables.runs, sound.one.runs ?_, sound.sends.put ?_ rfl distinct.2 ?_ ?_ ?_, sound.gated⟩
  · intro other r' found' key mem
    simp only [Dict.get?_set] at found'
    split at found'
    · cases found'
      exact .inl (onPage_of_mem found (sub key mem))
    · exact .inl (onPage_of_mem found' mem)
  · intro r' key' touch' rest' delivery found' page' delivered sent
    cases found.symm.trans found'
    cases page.symm.trans page'
    exact free delivery delivered sent
  · exact fun other mem => sound.sends.listed run r found other (sub other mem)
  · intro other r' different found' key' mem mem'
    exact sound.sends.exclusive run other r r' (Ne.symm different) found found' key' (sub key' mem) mem'
  · intro other mem
    apply sound.sends.waiting run r found
    rw [SendingRun.waiting]
    split
    · rw [page]
      exact mem
    · exact sub other mem

lemma OfferSound.pass {stopped : Campaigns.Enrollment}
    (sound : OfferSound s) (found : s.runs.get? run = some r) (page : r.page = (key, touch) :: rest)
    (idle : r.delivered = none)
    (left : db = s.db ∨ ∃ env reason,
      Campaigns.sendCheck s.db env key.1 touch = .blocked reason (some stopped) ∧
        db = s.db.storeEnrollment stopped) :
    OfferSound { s with db := db, runs := s.runs.set run { page := rest } } := by
  have quiet : Quiet s.db db := by
    rcases left with rfl | ⟨env, reason, blocked, rfl⟩
    · exact Quiet.refl s.db
    · obtain ⟨_, e, row, _⟩ := sound.sends.listed run r found key (by rw [page]; exact .head _)
      have own := (sound.tables.enrolled key.1 e row).1
      rw [← own] at row blocked
      exact quiet_storeEnrollment row ((Campaigns.sendCheck_blocked row blocked).imp_right
        fun ⟨status, mem, ended, same⟩ => ⟨status, mem, ended, same⟩)
  refine (sound.quiet quiet).next found page fun delivery delivered => ?_
  rw [idle] at delivered
  cases delivered

/-! What is handed over, and what is committed -/

lemma mem_page_of_waiting (mem : key ∈ r.waiting) : key ∈ r.page.map Prod.fst := by
  rw [SendingRun.waiting] at mem
  split at mem
  · exact List.map_subset _ (List.tail_subset _) mem
  · exact mem

/-- A touch on a page is the first message to its client. -/
lemma OfferSound.first (sound : OfferSound s) (found : s.runs.get? run = some r)
    (mem : key ∈ r.page.map Prod.fst) (row : s.db.enrollments.get? key.1 = some e)
    (unsent : key ∉ s.sent.map Prod.snd) : e.clientId ∉ s.sent.map Prod.fst := by
  intro again
  obtain ⟨⟨clientId, other⟩, was, rfl⟩ := List.mem_map.mp again
  obtain ⟨logged, e₀, offer⟩ := sound.sends.listed run r found key mem
  cases row.symm.trans offer.1
  obtain ⟨logged', e', offer', client⟩ := sound.sends.offers _ other was
  have sent : other ∈ s.sent.map Prod.snd := List.mem_map.mpr ⟨_, was, rfl⟩
  have same : key.1 = other.1 := sound.one.once key.1 e other.1 e' offer offer' client.symm
    (.inr (.inl (onPage_of_mem found mem))) (.inr (.inr ⟨other.2, sent⟩))
  have step : key.2 = other.2 :=
    (sound.tables.oneTouch key.1 e key.2 offer logged).trans
      (sound.tables.oneTouch other.1 e' other.2 offer' logged').symm
  rw [Prod.ext same step] at unsent
  exact unsent sent

lemma mem_sent_deliver {clientId clientId' : ClientId} {other : TouchKey}
    (mem : (clientId', other) ∈ (s.deliver run r key clientId delivery).sent) :
    (clientId', other) ∈ s.sent ∨
      clientId' = clientId ∧ other = key ∧ delivery.result.deliveryStatus = sentStatus := by
  rw [Offers.deliver] at mem
  split at mem
  · rename_i sent
    rcases List.mem_append.mp mem with old | new
    · exact .inl old
    · cases List.mem_singleton.mp new
      exact .inr ⟨rfl, rfl, sent⟩
  · exact .inl mem

lemma key_sent_deliver {clientId : ClientId} {other : TouchKey}
    (mem : other ∈ (s.deliver run r key clientId delivery).sent.map Prod.snd) :
    other ∈ s.sent.map Prod.snd ∨ other = key ∧ delivery.result.deliveryStatus = sentStatus := by
  obtain ⟨⟨clientId', _⟩, sent, rfl⟩ := List.mem_map.mp mem
  rcases mem_sent_deliver sent with old | ⟨_, same⟩
  · exact .inl (List.mem_map.mpr ⟨_, old, rfl⟩)
  · exact .inr same

lemma run_deliver {clientId : ClientId} {other : RunId} {r₁ : SendingRun}
    (found : (s.deliver run r key clientId delivery).runs.get? other = some r₁) :
    (other = run ∧ r₁ = { r with delivered := some delivery }) ∨
      other ≠ run ∧ s.runs.get? other = some r₁ := by
  simp only [Offers.deliver, Dict.get?_set] at found
  split at found
  · rename_i same
    cases found
    exact .inl ⟨same, rfl⟩
  · rename_i different
    exact .inr ⟨different, found⟩

lemma OfferSound.deliver (sound : OfferSound s) (found : s.runs.get? run = some r)
    (page : r.page = (key, touch) :: rest) (idle : r.delivered = none)
    (row : s.db.enrollments.get? key.1 = some e)
    (ended : ∀ e', delivery.moved = some e' → e'.status.isSchedulable = false) :
    OfferSound (s.deliver run r key e.clientId delivery) := by
  have sends := sound.sends
  have head : key ∈ r.page.map Prod.fst := by
    rw [page]
    exact .head _
  have unsent : key ∉ s.sent.map Prod.snd := by
    apply sends.waiting run r found
    rw [SendingRun.waiting, idle]
    exact head
  have pages : ∀ other r₁, (s.deliver run r key e.clientId delivery).runs.get? other = some r₁ →
      ∃ r₀, s.runs.get? other = some r₀ ∧ r₀.page = r₁.page := by
    intro other r₁ there
    rcases run_deliver there with ⟨rfl, rfl⟩ | ⟨_, before⟩
    · exact ⟨r, found, rfl⟩
    · exact ⟨r₁, before, rfl⟩
  refine ⟨sound.tables.runs, ?_, ?_, sound.gated⟩
  · refine sound.one.mono (fun _ _ found => found) fun id e₁ offer live => ⟨e₁, offer, rfl, ?_⟩
    rcases live with schedulable | ⟨other, r₁, there, stepNo, mem⟩ | ⟨stepNo, sent⟩
    · exact .inl schedulable
    · obtain ⟨r₀, before, same⟩ := pages other r₁ there
      exact .inr (.inl ⟨other, r₀, before, stepNo, same ▸ mem⟩)
    · rcases key_sent_deliver sent with old | ⟨same, _⟩
      · exact .inr (.inr ⟨stepNo, old⟩)
      · exact .inr (.inl ⟨run, r, found, stepNo, same ▸ head⟩)
  · refine ⟨?_, ?_, ?_, ?_, ?_, ?_, ?_, ?_, ?_⟩
    · intro other r₁ there
      obtain ⟨r₀, before, same⟩ := pages other r₁ there
      exact same ▸ sends.distinct other r₀ before
    · intro other r₁ there
      obtain ⟨r₀, before, same⟩ := pages other r₁ there
      exact same ▸ sends.listed other r₀ before
    · intro one two r₁ r₂ different there there'
      obtain ⟨r₀, before, same⟩ := pages one r₁ there
      obtain ⟨r₀', before', same'⟩ := pages two r₂ there'
      exact same ▸ same' ▸ sends.exclusive one two r₀ r₀' different before before'
    · intro other r₁ delivery₁ e₁ there delivered moved
      rcases run_deliver there with ⟨rfl, rfl⟩ | ⟨_, before⟩
      · cases delivered
        exact ended e₁ moved
      · exact sends.moved other r₁ delivery₁ e₁ before delivered moved
    · intro other r₁ there key₁ mem sent
      rcases run_deliver there with ⟨rfl, rfl⟩ | ⟨different, before⟩
      · have tail : key₁ ∈ rest.map Prod.fst := by
          simpa [SendingRun.waiting, page] using mem
        rcases key_sent_deliver sent with old | ⟨same, _⟩
        · refine sends.waiting other r found key₁ ?_ old
          rw [SendingRun.waiting, idle, page]
          exact .tail _ tail
        · have distinct := sends.distinct other r found
          rw [page, List.map_cons, List.nodup_cons] at distinct
          exact distinct.1 (same ▸ tail)
      · rcases key_sent_deliver sent with old | ⟨same, _⟩
        · exact sends.waiting other r₁ before key₁ mem old
        · exact sends.exclusive run other r r₁ (Ne.symm different) found before key head
            (same ▸ mem_page_of_waiting mem)
    · intro other r₁ key₁ touch₁ rest₁ delivery₁ there page₁ delivered sent
      rcases run_deliver there with ⟨rfl, rfl⟩ | ⟨different, before⟩
      · cases page.symm.trans page₁
        cases delivered
        rcases key_sent_deliver sent with old | ⟨_, status⟩
        · exact absurd old unsent
        · exact status
      · rcases key_sent_deliver sent with old | ⟨same, _⟩
        · exact sends.inHand other r₁ key₁ touch₁ rest₁ delivery₁ before page₁ delivered old
        · refine absurd ?_ (sends.exclusive run other r r₁ (Ne.symm different) found before key head)
          rw [page₁, ← same]
          exact .head _
    · intro clientId key₁ sent
      rcases mem_sent_deliver sent with old | ⟨rfl, rfl, _⟩
      · exact sends.offers clientId key₁ old
      · obtain ⟨logged, e₀, offer⟩ := sends.listed run r found _ head
        cases row.symm.trans offer.1
        exact ⟨logged, e, offer, rfl⟩
    · intro clientId key₁ sent
      rcases mem_sent_deliver sent with old | ⟨rfl, rfl, status⟩
      · refine (sends.recorded clientId key₁ old).imp_right ?_
        rintro ⟨other, r₁, touch₁, rest₁, delivery₁, before, page₁, delivered, status⟩
        refine ⟨other, r₁, touch₁, rest₁, delivery₁, ?_, page₁, delivered, status⟩
        refine (Dict.get?_set_ne _ _ fun same => ?_).trans before
        subst same
        cases found.symm.trans before
        rw [idle] at delivered
        cases delivered
      · exact .inr ⟨run, _, touch, rest, delivery, Dict.get?_set_self _ _ _, page, rfl, status⟩
    · rw [OfferedOnce, Offers.deliver]
      split
      · rw [List.map_append]
        refine List.Nodup.append sends.once (List.nodup_singleton _) ?_
        intro clientId old new
        rw [List.map_singleton, List.mem_singleton] at new
        subst new
        exact sound.first found head row unsent old
      · exact sends.once

lemma keepsRows_recordDelivery {before : TouchLog}
    (keyed : ∀ id e, db.enrollments.get? id = some e → e.enrollmentId = id)
    (ended : ∀ e', delivery.moved = some e' → e'.status.isSchedulable = false) :
    KeepsRows db (recordDelivery db key before delivery) := by
  cases moved : delivery.moved with
  | none =>
    rw [recordDelivery, moved]
    exact ⟨(Quiet.refl db).enrollments, fun _ there => there, rfl, fun _ => rfl⟩
  | some e' =>
    simp only [recordDelivery, moved, Option.elim_some, Database.writeAdvance]
    split
    · exact ⟨(Quiet.refl db).enrollments, fun _ there => there, rfl, fun _ => rfl⟩
    · rename_i row found
      have own : row.enrollmentId = e'.enrollmentId := keyed _ _ found
      refine ⟨?_, ?_, rfl, fun _ => rfl⟩
      · intro id written there
        simp only [Database.storeEnrollment, Dict.get?_set] at there
        split at there
        · rename_i here
          cases there
          refine ⟨row, ?_, rfl, rfl, rfl, fun still => ?_⟩
          · rw [here, own]
            exact found
          · rw [ended e' moved] at still
            cases still
        · exact ⟨written, there, rfl, rfl, rfl, fun status => status⟩
      · intro id there
        simp only [Database.storeEnrollment, Dict.get?_set]
        split
        · rfl
        · exact there

lemma touches_recordDelivery {before : TouchLog} : (recordDelivery db key before delivery).touches =
    db.touches.set key (before.delivered delivery.result) := by
  rw [recordDelivery]
  cases delivery.moved with
  | none => rfl
  | some e' =>
    rw [Option.elim_some, Database.writeAdvance]
    split <;> rfl

lemma OfferSound.commit {before : TouchLog} (sound : OfferSound s) (found : s.runs.get? run = some r)
    (page : r.page = (key, touch) :: rest) (delivered : r.delivered = some delivery)
    (logged : s.db.touches.get? key = some before) :
    OfferSound
      { s with
        db := recordDelivery s.db key before delivery
        runs := s.runs.set run { page := rest } } := by
  have keeps : KeepsRows s.db (recordDelivery s.db key before delivery) :=
    keepsRows_recordDelivery (fun id e row => (sound.tables.enrolled id e row).1)
      fun e' moved => sound.sends.moved run r delivery e' found delivered moved
  have touches : ∀ other, (recordDelivery s.db key before delivery).touches.get? other =
      if other = key then some (before.delivered delivery.result) else s.db.touches.get? other := by
    intro other
    rw [touches_recordDelivery, Dict.get?_set]
  have there : ∀ other, (s.db.touches.get? other).isSome = true →
      ((recordDelivery s.db key before delivery).touches.get? other).isSome = true := by
    intro other there
    rw [touches]
    split
    · rfl
    · exact there
  have filed : delivery.result.deliveryStatus = sentStatus →
      ({ s with db := recordDelivery s.db key before delivery } : Offers).filed key := by
    intro sent
    refine ⟨before.delivered delivery.result, (touches key).trans (if_pos rfl), ?_, rfl⟩
    exact congrArg some sent
  have written : OfferSound { s with db := recordDelivery s.db key before delivery } := by
    have sends := sound.sends
    refine ⟨sound.tables.rows keeps fun other found => ?_, sound.one.rows keeps, ?_, sound.gated⟩
    · left
      rw [touches] at found
      split at found
      · rename_i same
        rw [same, logged]
        rfl
      · exact found
    · refine ⟨sends.distinct, ?_, sends.exclusive, sends.moved, sends.waiting, sends.inHand, ?_, ?_,
        sends.once⟩
      · intro run r found other mem
        obtain ⟨listed, e, offer⟩ := sends.listed run r found other mem
        obtain ⟨e', offer', _⟩ := offer_forward keeps offer
        exact ⟨there other listed, e', offer'⟩
      · intro clientId other mem
        obtain ⟨listed, e, offer, client⟩ := sends.offers clientId other mem
        obtain ⟨e', offer', client'⟩ := offer_forward keeps offer
        exact ⟨there other listed, e', offer', client'.trans client⟩
      · intro clientId other mem
        by_cases same : other = key
        · subst same
          have sent : other ∈ s.sent.map Prod.snd := List.mem_map.mpr ⟨_, mem, rfl⟩
          exact .inl (filed (sends.inHand run r other touch rest delivery found page delivered sent))
        · rcases sends.recorded clientId other mem with ⟨touch', logged', status, sentAt⟩ | uncommitted
          · exact .inl ⟨touch', (touches other).trans ((if_neg same).trans logged'), status, sentAt⟩
          · exact .inr uncommitted
  refine written.next found page fun delivery' delivered' sent => ?_
  cases delivered.symm.trans delivered'
  exact filed sent

lemma OfferSound.lose (sound : OfferSound s)
    (empty : ∀ r, s.runs.get? run = some r → r.delivered = none) :
    OfferSound { s with runs := s.runs.erase run } := by
  have sends := sound.sends
  have before : ∀ other r, (s.runs.erase run).get? other = some r → s.runs.get? other = some r := by
    intro other r found
    rw [Dict.get?_erase] at found
    split at found
    · cases found
    · exact found
  refine ⟨sound.tables.runs, sound.one.runs ?_, ?_, sound.gated⟩
  · exact fun other r found key mem => .inl (onPage_of_mem (before other r found) mem)
  · refine ⟨fun other r found => sends.distinct other r (before other r found),
      fun other r found => sends.listed other r (before other r found),
      fun one two r₁ r₂ different found found' =>
        sends.exclusive one two r₁ r₂ different (before one r₁ found) (before two r₂ found'),
      fun other r delivery e found => sends.moved other r delivery e (before other r found),
      fun other r found => sends.waiting other r (before other r found),
      fun other r key touch rest delivery found =>
        sends.inHand other r key touch rest delivery (before other r found),
      sends.offers, ?_, sends.once⟩
    intro clientId key mem
    refine (sends.recorded clientId key mem).imp_right ?_
    rintro ⟨other, r, touch, rest, delivery, found, page, delivered, status⟩
    refine ⟨other, r, touch, rest, delivery, ?_, page, delivered, status⟩
    rw [Dict.get?_erase, if_neg, found]
    intro same
    rw [empty r (same ▸ found)] at delivered
    cases delivered

end Sending

/-! ## Runs -/

lemma OfferStart.sound (start : OfferStart s) : OfferSound s := by
  have unlinked : ∀ campaignId, s.linked campaignId = false := by
    intro campaignId
    rw [Offers.linked, start.proposals]
    rfl
  have noRun : ∀ run r, s.runs.get? run ≠ some r := by
    intro run r found
    rw [start.runs] at found
    cases found
  have noOffer : ∀ id e, ¬ s.offer id e := by
    intro id e ⟨_, linked⟩
    rw [unlinked] at linked
    cases linked
  have noSent : ∀ entry, entry ∉ s.sent := by
    intro entry mem
    rw [start.sent] at mem
    cases mem
  refine ⟨⟨start.enrolled, start.stepped, start.touched, ?_, ?_, ?_, ?_⟩, ⟨?_, ?_, ?_⟩, ?_, ?_⟩
  · intro id proposal found
    rw [start.proposals] at found
    cases found
  · intro campaignId linked
    rw [unlinked] at linked
    cases linked
  · intro campaignId linked
    rw [unlinked] at linked
    cases linked
  · exact fun id e _ offer => absurd offer (noOffer id e)
  · exact fun id e _ _ offer => absurd offer (noOffer id e)
  · intro call gated found
    rw [start.calls] at found
    cases found
  · intro call call' found
    rw [start.calls] at found
    cases found
  · refine ⟨fun run r found => absurd found (noRun run r), fun run r found => absurd found (noRun run r),
      fun run _ r _ _ found => absurd found (noRun run r), fun run r _ _ found => absurd found (noRun run r),
      fun run r found => absurd found (noRun run r),
      fun run r _ _ _ _ found => absurd found (noRun run r), fun _ _ mem => absurd mem (noSent _),
      fun _ _ mem => absurd mem (noSent _), ?_⟩
    rw [OfferedOnce, start.sent]
    exact List.nodup_nil
  · intro call gated found
    rw [start.calls] at found
    cases found

lemma advanced_ended {stepNo : ℤ} {sentAt : Rules.Instant} {moved : Campaigns.Enrollment}
    (lastStep : db.steps.get? (e.campaignId, stepNo + 1) = none)
    (schedulable : e.status.isSchedulable = true) (further : e.currentStep < stepNo)
    (advance : Campaigns.advanceEnrollment db e stepNo sentAt = .ok moved) :
    moved.status.isSchedulable = false := by
  rw [Campaigns.advanceEnrollment_of_schedulable schedulable further] at advance
  cases advance
  rw [Campaigns.advanced, lastStep]
  rfl

lemma OfferSound.step {l : OfferLabel} (sound : OfferSound s) (fit : OfferFit s l) (st : OfferStep s l s') :
    OfferSound s' := by
  cases st with
  | write fresh reads code =>
    refine sound.proposal ?_ (fun _ => rfl) ?_
    · rw [fresh]
      rfl
    · intro old found
      rw [fresh] at found
      cases found
  | decide found allowed waiting =>
    refine sound.proposal ?_ ?_ ?_
    · rw [found]
      rfl
    · intro waiting'
      apply sound.tables.unlinked _ _ found
      cases before : OfferProposal.status _ with
      | proposed => exact .inl rfl
      | approved => exact absurd before waiting
      | _ =>
        rw [before] at allowed
        rcases waiting' with rfl | rfl
        all_goals simp [allowedTransitions] at allowed
    · intro old there
      cases found.symm.trans there
      exact waiting
  | gate new found approved reads code =>
    obtain ⟨alone, clear⟩ := fit
    exact sound.gate found approved alone reads code (clear _ found)
  | @enroll call campaignId gated proposal enrolledAt ids primary here somebody found fresh new distinct =>
    obtain ⟨row, there, approved⟩ := sound.gated call gated here
    cases found.symm.trans there
    exact sound.enroll here found (sound.tables.unlinked _ _ found (.inr approved)) fresh new
  | draft row due ran => exact sound.quiet (quiet_runDueEnrollment row ran)
  | review found => exact sound.quiet quiet_storeMessage
  | select done ours => exact sound.select done ours fit
  | pass found page idle left => exact sound.pass found page idle left
  | @deliver run r key touch rest env message e result moved found page idle check advance =>
    have row := (Campaigns.sendCheck_handOver check).enrolled
    refine sound.deliver found page idle row fun e' same => ?_
    split at same
    · cases same
    · rename_i further
      cases same
      obtain ⟨logged, e₀, offer⟩ := sound.sends.listed run r found key (by rw [page]; exact .head _)
      cases row.symm.trans offer.1
      have one : key.2 = 1 := sound.tables.oneTouch key.1 e key.2 offer logged
      refine advanced_ended ?_ (fit r key touch rest e found page row) (not_le.mp further) advance
      rw [← Option.not_isSome_iff_eq_none]
      intro step
      have two := sound.tables.oneStep e.campaignId offer.2 _ step
      omega
  | @refuse run r key touch rest env message e result refused found page idle check advance =>
    have row := (Campaigns.sendCheck_handOver check).enrolled
    have schedulable := fit r key touch rest e found page row
    by_cases further : key.2 ≤ e.currentStep
    · rw [Campaigns.advanceEnrollment_of_le further] at advance
      cases advance
    · rw [Campaigns.advanceEnrollment_of_schedulable schedulable (not_le.mp further)] at advance
      cases advance
  | commit found page delivered logged => exact sound.commit found page delivered logged
  | lose => exact sound.lose fit
  | others quiet => exact sound.quiet quiet

section TwoOffers

def secondFund : ActionRow := ⟨secondFundAction, "Second fund", "healthy", some "second_fund", false⟩

def nobodyTold : GateFacts where
  actions := .ofList [(secondFundAction, secondFund)]

def oneClientRows : List ClientRow := [{ key := (5, 1), included := true }]

def oneMember : List GroupMember := [⟨5, 1, 500⟩]

lemma offeredBefore_untouched (untouched : s.db.touches = .empty) (clientId : ClientId) :
    s.offeredBefore clientId = false := by
  rw [Offers.offeredBefore, untouched]
  rfl

lemma write_secondFund {proposalId : ProposalId} (fresh : s.proposals.get? proposalId = none)
    (untouched : s.db.touches = .empty) :
    OfferStep s (.write proposalId)
      { s with proposals := s.proposals.set proposalId { status := .proposed, rows := oneClientRows } } := by
  have passed : skipReason nobodyTold secondFund ⟨5, 1, 500⟩ = none := by decide +kernel
  have rows : proposalRows nobodyTold secondFund oneMember = oneClientRows := by
    simp [proposalRows, oneMember, oneClientRows, passed, GroupMember.key]
  rw [← rows]
  exact .write fresh (fun clientId => (offeredBefore_untouched untouched clientId).symm) rfl

lemma gate_secondFund {call : CallId} {proposalId : ProposalId} (new : s.calls.get? call = none)
    (found : s.proposals.get? proposalId = some { status := .approved, rows := oneClientRows })
    (untouched : s.db.touches = .empty) :
    OfferStep s (.gate call proposalId) { s with calls := s.calls.set call ⟨proposalId, [5]⟩ } := by
  have passed : memberSkipReason nobodyTold ⟨5, 1, 500⟩ secondFund = none := by decide +kernel
  have members : membersOf oneClientRows (fun _ => 500) = oneMember := rfl
  have ready : readyOf nobodyTold secondFund (membersOf oneClientRows fun _ => 500) (fun _ => true) = [5] := by
    simp [readyOf, members, oneMember, passed]
  rw [← ready]
  exact @OfferStep.gate s call proposalId _ (fun _ => true) ⟨nobodyTold, "2024-05-02", fun _ => 500⟩
    secondFund new found rfl (fun clientId => (offeredBefore_untouched untouched clientId).symm) rfl

/-- One client of the book who can be written to. -/
def oneClientBook : Database where
  features := .ofList [(5, { purchaseDepth := "deep" })]
  vault := .ofList [(5, { contactEmail := some "a@example.com", contactPhone := none })]

lemma offerStart_oneClientBook : OfferStart { db := oneClientBook } := by
  refine ⟨rfl, rfl, rfl, rfl, fun id e row => ?_, fun key there => ?_, fun key there => ?_⟩
  · cases row
  · cases there
  · cases there

def offerEnrollment (id : EnrollmentId) (campaignId : CampaignId) : Campaigns.Enrollment where
  enrollmentId := id
  campaignId := campaignId
  clientId := 5
  enrolledAt := 0

def runningOffer (campaignId : CampaignId) : OfferProposal where
  status := .running
  campaignId := some campaignId
  rows := oneClientRows

lemma enroll_secondFund (base : ℤ) {call : CallId} {proposalId : ProposalId} {campaignId : CampaignId}
    (here : s.calls.get? call = some ⟨proposalId, [5]⟩)
    (found : s.proposals.get? proposalId = some { status := .approved, rows := oneClientRows })
    (fresh : s.db.campaigns.get? campaignId = none)
    (new : ∀ clientId, s.db.enrollments.get? (2 * clientId + base) = none) :
    OfferStep s (.enroll call campaignId)
      { s with
        db := addCampaign s.db campaignId [(2 * 5 + base, offerEnrollment (2 * 5 + base) campaignId)]
        proposals := s.proposals.set proposalId (runningOffer campaignId)
        calls := s.calls.erase call } := by
  refine @OfferStep.enroll s call campaignId ⟨proposalId, [5]⟩ _ 0 (2 * · + base) (fun _ => true) here
    (List.cons_ne_nil _ _) found fresh new ?_
  intro one two same
  have double : 2 * one = 2 * two := add_right_cancel same
  exact mul_left_cancel₀ two_ne_zero double

/-- One proposal, to its campaign. -/
lemma run_oneOffer : ∃ t, Run (Guarded OfferFit OfferStep) { db := oneClientBook }
    [.write 1, .decide 1 .approved, .gate 1 1, .enroll 1 31] t := by
  refine ⟨_, .snoc (.snoc (.snoc (.single ⟨trivial, write_secondFund rfl rfl⟩)
    ⟨trivial, .decide rfl ?allowed nofun⟩) ⟨?alone, gate_secondFund rfl rfl rfl⟩)
    ⟨trivial, enroll_secondFund 0 rfl rfl rfl fun _ => rfl⟩⟩
  case allowed => decide
  case alone =>
    refine ⟨fun _ => rfl, fun proposal found row mem included => ?_⟩
    rintro ⟨id, e, ⟨enrolled, _⟩, _⟩
    cases enrolled

def enrolledTwice : Database :=
  { oneClientBook with
    campaigns := .ofList [(31, { status := .running }), (32, { status := .running })]
    steps := .ofList [((31, 1), { offsetDays := 0 }), ((32, 1), { offsetDays := 0 })]
    enrollments := .ofList [(10, offerEnrollment 10 31), (11, offerEnrollment 11 32)] }

def twoRunning (db : Database) : Offers where
  db := db
  proposals := .ofList [(1, runningOffer 31), (2, runningOffer 32)]

/-- Both proposals run before either message is sent. -/
lemma run_enrolledTwice : ∃ t, Run OfferStep { db := oneClientBook }
    [.write 1, .write 2, .decide 1 .approved, .decide 2 .approved, .gate 1 1, .enroll 1 31, .gate 2 2,
      .enroll 2 32] t ∧ t = twoRunning enrolledTwice := by
  refine ⟨_, .snoc (.snoc (.snoc (.snoc (.snoc (.snoc (.snoc (.single (write_secondFund rfl rfl))
    (write_secondFund rfl rfl)) (.decide rfl ?first ?waits)) (.decide rfl ?second ?waitsToo))
    (gate_secondFund rfl rfl rfl)) (enroll_secondFund 0 rfl rfl rfl fun _ => rfl))
    (gate_secondFund rfl rfl rfl)) (enroll_secondFund 1 rfl rfl rfl ?new), rfl⟩
  case first => decide
  case second => decide
  case waits => decide
  case waitsToo => decide
  case new =>
    intro clientId
    change (Dict.ofList [((10 : ℤ), offerEnrollment 10 31)]).get? (2 * clientId + 1) = none
    have odd : ∀ n : ℤ, 2 * n + 1 ≠ 10 := by omega
    simp [Dict.ofList, odd clientId]

def draftAs (messageId : MessageId) : GenerateFn := fun _ e _ =>
  .ok (some (messageId, { campaignId := e.campaignId, clientId := e.clientId }))

def approvedTwice : Database :=
  { enrolledTwice with
    touches := .ofList [((10, 1), { touchId := 1, messageId := some "m1" }),
      ((11, 1), { touchId := 2, messageId := some "m2" })]
    nextTouchId := 3
    messages := .ofList [("m1", { campaignId := 31, clientId := 5, status := .approved }),
      ("m2", { campaignId := 32, clientId := 5, status := .approved })] }

lemma run_approvedTwice : ∃ t, Run OfferStep (twoRunning enrolledTwice)
    [.draft 10, .draft 11, .review "m1" .approved, .review "m2" .approved] t ∧
      t = twoRunning approvedTwice := by
  refine ⟨_, .snoc (.snoc (.snoc (.single
    (@OfferStep.draft _ Campaigns.dayFour (draftAs "m1") (offerEnrollment 10 31) _ _ rfl rfl rfl))
    (@OfferStep.draft _ Campaigns.dayFour (draftAs "m2") (offerEnrollment 11 32) _ _ rfl rfl rfl))
    (.review rfl)) (.review rfl), rfl⟩

def completedOffer (id : EnrollmentId) (campaignId : CampaignId) : Campaigns.Enrollment :=
  { offerEnrollment id campaignId with currentStep := 1, status := .completed }

/-- The first message is sent, and its run has committed that. -/
def firstSent : Offers :=
  { twoRunning
      { approvedTwice with
        enrollments := .ofList [(10, completedOffer 10 31), (11, offerEnrollment 11 32)]
        touches := .ofList [((10, 1), Campaigns.touchOne.delivered Campaigns.sentOnce),
          ((11, 1), { touchId := 2, messageId := some "m2" })] } with
    runs := .ofList [(1, {})]
    sent := [(5, (10, 1))] }

lemma run_firstSent : ∃ ls t, Run OfferStep (twoRunning approvedTwice) ls t ∧ t = firstSent := by
  refine ⟨_, _, .snoc (.snoc (.single (@OfferStep.select _ 1 31 10 0 rfl rfl))
    (@OfferStep.deliver _ 1 _ _ _ _ Campaigns.dayFour _ (offerEnrollment 10 31) Campaigns.sentOnce
      (completedOffer 10 31) rfl rfl rfl rfl rfl))
    (@OfferStep.commit _ 1 _ (10, 1) Campaigns.touchOne []
      ⟨Campaigns.sentOnce, some (completedOffer 10 31)⟩ Campaigns.touchOne rfl rfl rfl rfl), rfl⟩

lemma run_secondSent : ∃ ls t, Run OfferStep firstSent ls t ∧ ¬ OfferedOnce t := by
  refine ⟨_, _, .snoc (.single (@OfferStep.select _ 2 32 10 0 rfl rfl))
    (@OfferStep.deliver _ 2 _ _ _ _ Campaigns.dayFour _ (offerEnrollment 11 32) Campaigns.sentOnce
      (completedOffer 11 32) rfl rfl rfl rfl rfl), ?twice⟩
  unfold OfferedOnce
  decide +kernel

end TwoOffers

end ClientEngagement.Proposals
