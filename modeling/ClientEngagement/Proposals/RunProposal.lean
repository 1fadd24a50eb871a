import ClientEngagement.Lib.Runs
import ClientEngagement.Watchlist.Gates

/-!
# Running a proposal

Model of `run_proposal` (`agents/write_tools.py`) with `prepare_client_for_drafting` and the helper `upsert`
that commits (`campaigns/nurture_bridge.py`, `transform/load.py`). A call reads the status first and moves it
last, and several calls may be under way: `RunStep` is one piece of one call. Between them stand the commits of
the helper, and what a session holds uncommitted is in the call's phase. `run_once` says what holds of every
run whose steps meet `Fit`.
-/

namespace ClientEngagement.Proposals
open Agents (GroupMember doNothingAction)
open Risk (ClientId FundKey)
open Watchlist

abbrev ProposalId := ℤ
abbrev CampaignId := ℤ
abbrev CallId := ℕ

inductive ProposalStatus where
  | proposed
  | rejected
  | expired
  | approved
  | running
  | blocked
  | sent
  | stopped
  | measured
deriving DecidableEq

def ProposalStatus.text : ProposalStatus → String
  | .proposed => "proposed"
  | .rejected => "rejected"
  | .expired => "expired"
  | .approved => "approved"
  | .running => "running"
  | .blocked => "blocked"
  | .sent => "sent"
  | .stopped => "stopped"
  | .measured => "measured"

/-- `ALLOWED_TRANSITIONS`. -/
def allowedTransitions : ProposalStatus → List ProposalStatus
  | .proposed => [.rejected, .expired, .approved]
  | .approved => [.running]
  | .running => [.blocked, .sent, .stopped]
  | .sent => [.measured]
  | _ => []

structure AgentProposal where
  status : ProposalStatus
  actionCode : String
  catalogVersion : ℕ
  groupName : String
  angle : Option String
  campaignId : Option CampaignId := none

/-- A row of `agent_proposal_client`. -/
structure ClientRow where
  key : FundKey
  included : Bool
  skipReason : Option String := none
  variant : Option String := none

structure Side where
  angle : String
  contentMix : Option String := none

structure Split where
  sides : Dict String Side
  variantOf : Dict ClientId String

/-- The angle of a client's side of the test, the proposal's own without one. -/
def angleFor (split : Option Split) (clientId : ClientId) (proposalAngle : String) : String :=
  ((split.bind fun split => (split.variantOf.get? clientId).bind split.sides.get?).map Side.angle).getD
    proposalAngle

def loadSplit (sides : Dict String Side) (rows : List ClientRow) : Option Split :=
  if sides.items = [] then none
  else some ⟨sides, .ofList ((rows.filter (·.included)).filterMap fun row =>
    row.variant.map fun variant => (row.key.1, variant))⟩

structure ClientFeatures where
  activeBookAutoCheckin : Bool
  purchaseDepth : String
  priorityTier : String
  fundType : String

structure ClientMessageIndicators where
  messageAngle : String
  urgency : String
  priorityTier : String
  promptVariant : String
  ruleName : String
  ruleVersion : ℕ

structure Campaign where
  name : String
  status : String := "running"
  /-- `message_angle` of the one step, at once. -/
  stepAngle : String

structure Enrollment where
  campaignId : CampaignId
  clientId : ClientId
deriving DecidableEq

/-- The tables a call writes. -/
structure Tables where
  proposals : Dict ProposalId AgentProposal := .empty
  rows : Dict ProposalId (List ClientRow) := .empty
  sides : Dict ProposalId (Dict String Side) := .empty
  features : Dict ClientId ClientFeatures := .empty
  indicators : Dict ClientId ClientMessageIndicators := .empty
  campaigns : Dict CampaignId Campaign := .empty
  enrollments : List Enrollment := []

/-! ## The pieces of a call -/

inductive Refusal where
  | unknownProposal (proposalId : ProposalId)
  | proposalNotApproved (proposalId : ProposalId) (status : ProposalStatus)
  | nothingToRun (proposalId : ProposalId)
  | noMessageToDraft (proposalId : ProposalId) (actionCode : String)
  | unknownAction (actionCode day : String)
  | nobodyIncluded (proposalId : ProposalId)
  | everyClientWasLeftOut (dropped : List (String × ℕ))
  | nobodyInTheBook (proposalId : ProposalId)

def Refusal.error : Refusal → String
  | .unknownProposal _ => "unknown_proposal"
  | .proposalNotApproved _ _ => "proposal_not_approved"
  | .nothingToRun _ => "nothing_to_run"
  | .noMessageToDraft _ _ => "no_message_to_draft"
  | .unknownAction _ _ => "unknown_action"
  | .nobodyIncluded _ => "no_clients_left"
  | .everyClientWasLeftOut _ => "every_client_was_left_out"
  | .nobodyInTheBook _ => "no_clients_left"

def countsText (counts : List (String × ℕ)) : String :=
  "\x7b" ++ ", ".intercalate (counts.map fun (reason, count) => "'" ++ reason ++ "': " ++ toString count) ++
    "\x7d"

def Refusal.message : Refusal → String
  | .unknownProposal id => "there is no proposal " ++ toString id
  | .proposalNotApproved id status => "proposal " ++ toString id ++ " is " ++ status.text ++
      ", and only an approved proposal may be started"
  | .nothingToRun id => "proposal " ++ toString id ++ " is a decision to do nothing"
  | .noMessageToDraft id actionCode => "proposal " ++ toString id ++ " answers '" ++ actionCode ++
      "', which has no message angle to draft"
  | .unknownAction actionCode day => "'" ++ actionCode ++
      "' is not in the action catalogue in force on " ++ day
  | .nobodyIncluded id => "proposal " ++ toString id ++ " has nobody included on it"
  | .everyClientWasLeftOut dropped =>
      "every client on this proposal was left out by a check since it was written: " ++ countsText dropped
  | .nobodyInTheBook id => "nobody on proposal " ++ toString id ++
      " still holds anything in the active book"

/-- What a call reads on the day it runs. -/
structure Reading where
  facts : GateFacts
  day : String
  balance : FundKey → ℚ

/-- `_members_of`. -/
def membersOf (rows : List ClientRow) (balance : FundKey → ℚ) : List GroupMember :=
  (rows.filter (·.included)).map fun row => ⟨row.key.1, row.key.2, balance row.key⟩

/-- The client funds the checks of the day leave out. -/
def blockedOf (facts : GateFacts) (action : ActionRow) (members : List GroupMember) :
    List (FundKey × String) :=
  members.filterMap fun member =>
    (memberSkipReason facts member action).map fun reason => (member.key, reason)

/-- How many were left out, by reason. -/
def droppedOf (blocked : List (FundKey × String)) : List (String × ℕ) :=
  (blocked.map Prod.snd).dedup.map fun reason => (reason, (blocked.map Prod.snd).count reason)

/-- A call between the checks and the campaign. -/
structure Work where
  proposal : AgentProposal
  angle : String
  reading : Reading
  action : ActionRow
  split : Option Split
  /-- The members the checks leave in. -/
  members : List GroupMember
  /-- Those not yet prepared. -/
  left : List GroupMember
  /-- The clients prepared. -/
  ready : List ClientId := []
  /-- The exclusions that the session has not committed. -/
  pending : List (FundKey × String)

inductive Phase where
  | opened (proposal : AgentProposal) (angle : String)
  | preparing (work : Work)
  /-- The call returned a refusal; `pending` is still in its caller's session. -/
  | refused (refusal : Refusal) (pending : List (FundKey × String))
  | started (campaignId : CampaignId)

structure Call where
  proposalId : ProposalId
  phase : Phase

/-- The refusals before anything else is read. -/
def openCall (tables : Tables) (proposalId : ProposalId) : Phase :=
  match tables.proposals.get? proposalId with
  | none => .refused (.unknownProposal proposalId) []
  | some proposal =>
    if proposal.status ≠ .approved then .refused (.proposalNotApproved proposalId proposal.status) []
    else if proposal.actionCode = doNothingAction then .refused (.nothingToRun proposalId) []
    else match proposal.angle with
      | none => .refused (.noMessageToDraft proposalId proposal.actionCode) []
      | some angle => .opened proposal angle

/-- The checks on the members. What they leave out is marked in the session only. -/
def checkCall (tables : Tables) (proposalId : ProposalId) (proposal : AgentProposal) (angle : String)
    (reading : Reading) : Phase :=
  match loadActionOrRaise reading.facts proposal.actionCode with
  | .error _ => .refused (.unknownAction proposal.actionCode reading.day) []
  | .ok action =>
    let rows := tables.rows.getD proposalId []
    let members := membersOf rows reading.balance
    let allowed := members.filter fun member => memberSkipReason reading.facts member action = none
    if members = [] then .refused (.nobodyIncluded proposalId) []
    else if allowed = [] then
      .refused (.everyClientWasLeftOut (droppedOf (blockedOf reading.facts action members))) []
    else
      .preparing
        { proposal, angle, reading, action
          split := loadSplit (tables.sides.getD proposalId .empty) rows
          members := allowed
          left := allowed
          pending := blockedOf reading.facts action members }

/-- The exclusions of a session reach the table. -/
def flushRows (rows : List ClientRow) (pending : List (FundKey × String)) : List ClientRow :=
  rows.map fun row =>
    match pending.lookup row.key with
    | none => row
    | some reason => { row with included := false, skipReason := some reason }

def flush (tables : Tables) (proposalId : ProposalId) (pending : List (FundKey × String)) : Tables :=
  if pending = [] then tables
  else { tables with
    rows := tables.rows.set proposalId (flushRows (tables.rows.getD proposalId []) pending) }

/-- `_priority_tier_for`: each band is mapped to the default tier. -/
def defaultPriorityTier : String := "one_time_withdrawers"

/-- `_upsert_client_features`; a row that is there keeps its depth and its tier. -/
def upsertClientFeatures (features : Dict ClientId ClientFeatures) (clientId : ClientId)
    (fundType : String) : Dict ClientId ClientFeatures :=
  features.set clientId <| match features.get? clientId with
    | none => ⟨true, "capped", defaultPriorityTier, fundType⟩
    | some row => { row with activeBookAutoCheckin := true, fundType := fundType }

/-- `prepare_client_for_drafting` for a client with something in the active book, `fundType` that of its
    largest fund. The two upserts commit the session, so the exclusions it holds are written with them. -/
def prepareClientForDrafting (tables : Tables) (proposalId : ProposalId)
    (pending : List (FundKey × String)) (clientId : ClientId) (angle chosenBy : String)
    (catalogVersion : ℕ) (fundType : String) : Tables :=
  let tables := flush tables proposalId pending
  { tables with
    features := upsertClientFeatures tables.features clientId fundType
    indicators := tables.indicators.set clientId
      ⟨angle, "medium", defaultPriorityTier, angle, chosenBy, catalogVersion⟩ }

/-- `enroll_cohort`. -/
def enrollCohort (enrollments : List Enrollment) (campaignId : CampaignId) (clientIds : List ClientId) :
    List Enrollment :=
  enrollments ++ ((clientIds.dedup.map fun clientId => ⟨campaignId, clientId⟩).filter (· ∉ enrollments))

/-- The campaign, its step and its enrollments, and the proposal's row moved by its key. -/
def startCampaign (tables : Tables) (proposalId : ProposalId) (work : Work) (campaignId : CampaignId) :
    Tables :=
  { tables with
    campaigns := tables.campaigns.set campaignId
      { name := work.action.title ++ " for " ++ work.proposal.groupName, stepAngle := work.angle }
    enrollments := enrollCohort tables.enrollments campaignId work.ready
    proposals := match tables.proposals.get? proposalId with
      | none => tables.proposals
      | some row => tables.proposals.set proposalId
          { row with status := .running, campaignId := some campaignId } }

/-! ## Calls under way -/

/-- A campaign that was created, and on what reading. -/
structure StartedRun where
  proposalId : ProposalId
  campaignId : CampaignId
  reading : Reading
  action : ActionRow
  members : List GroupMember

structure State where
  tables : Tables
  calls : Dict CallId Call := .empty
  /-- The campaigns created so far. -/
  started : List StartedRun := []

def State.put (s : State) (call : CallId) (proposalId : ProposalId) (phase : Phase) : State :=
  { s with calls := s.calls.set call ⟨proposalId, phase⟩ }

/-- The next member is prepared; `fundType` is none where it holds nothing any more. -/
def State.prepare (s : State) (call : CallId) (proposalId : ProposalId) (work : Work)
    (member : GroupMember) (rest : List GroupMember) : Option String → State
  | none => s.put call proposalId (.preparing { work with left := rest })
  | some fundType =>
    { s with
      tables := prepareClientForDrafting s.tables proposalId work.pending member.clientId
        (angleFor work.split member.clientId work.angle) work.proposal.actionCode
        work.proposal.catalogVersion fundType
      calls := s.calls.set call ⟨proposalId, .preparing
        { work with left := rest, ready := work.ready ++ [member.clientId], pending := [] }⟩ }

def State.enroll (s : State) (call : CallId) (proposalId : ProposalId) (work : Work)
    (campaignId : CampaignId) : State :=
  { s with
    tables := startCampaign (flush s.tables proposalId work.pending) proposalId work campaignId
    calls := s.calls.set call ⟨proposalId, .started campaignId⟩
    started := s.started ++ [⟨proposalId, campaignId, work.reading, work.action, work.members⟩] }

inductive Label where
  | start (call : CallId) (proposalId : ProposalId)
  | check (call : CallId) (reading : Reading)
  | prepare (call : CallId) (fundType : Option String)
  | enroll (call : CallId) (campaignId : CampaignId)
  | refuse (call : CallId)
  /-- The caller commits its session after a refusal. -/
  | commit (call : CallId)

def Label.call : Label → CallId
  | .start call _ => call
  | .check call _ => call
  | .prepare call _ => call
  | .enroll call _ => call
  | .refuse call => call
  | .commit call => call

/-- One piece of one call. A call that fails takes no further step, and what its session held is lost. -/
inductive RunStep : State → Label → State → Prop where
  | start {s call proposalId} (fresh : s.calls.get? call = none) :
    RunStep s (.start call proposalId) (s.put call proposalId (openCall s.tables proposalId))
  | check {s call reading proposalId proposal angle}
      (here : s.calls.get? call = some ⟨proposalId, .opened proposal angle⟩) :
    RunStep s (.check call reading)
      (s.put call proposalId (checkCall s.tables proposalId proposal angle reading))
  | prepare {s call fundType proposalId work member rest}
      (here : s.calls.get? call = some ⟨proposalId, .preparing work⟩) (next : work.left = member :: rest) :
    RunStep s (.prepare call fundType) (s.prepare call proposalId work member rest fundType)
  | refuse {s call proposalId work} (here : s.calls.get? call = some ⟨proposalId, .preparing work⟩)
      (done : work.left = []) (nobody : work.ready = []) :
    RunStep s (.refuse call)
      (s.put call proposalId (.refused (.nobodyInTheBook proposalId) work.pending))
  | enroll {s call campaignId proposalId work}
      (here : s.calls.get? call = some ⟨proposalId, .preparing work⟩)
      (done : work.left = []) (somebody : work.ready ≠ [])
      (fresh : s.tables.campaigns.get? campaignId = none) :
    RunStep s (.enroll call campaignId) (s.enroll call proposalId work campaignId)
  | commit {s call proposalId refusal pending}
      (here : s.calls.get? call = some ⟨proposalId, .refused refusal pending⟩) :
    RunStep s (.commit call)
      (({ s with tables := flush s.tables proposalId pending } : State).put call proposalId
        (.refused refusal []))

/-! ## What is promised of a run -/

/-- Whoever is enrolled in a campaign that was created passed every check on the day. -/
def Gated (s : State) : Prop :=
  ∀ run ∈ s.started, ∀ e ∈ s.tables.enrollments, e.campaignId = run.campaignId →
    ∃ member ∈ run.members, member.clientId = e.clientId ∧
      skipReason run.reading.facts run.action member = none

/-- A call that ended in a refusal. -/
def State.refused (s : State) (call : CallId) : Prop :=
  ∃ proposalId refusal pending, s.calls.get? call = some ⟨proposalId, .refused refusal pending⟩

/-- What the steps of a call do in a run: they leave the tables. -/
def LeavesTables (step : State → Label → State → Prop) (s : State) (ls : List Label) (t : State)
    (call : CallId) : Prop :=
  ∀ before l after u v, ls = before ++ l :: after → Run step s before u → step u l v →
    Run step v after t → l.call = call → v.tables = u.tables

/-- What is promised of a run: a campaign for each proposal at most once, for clients that passed the checks, and
    nothing written by a call that refuses. -/
structure AtMostOnce (step : State → Label → State → Prop) (s : State) (ls : List Label) (t : State) :
    Prop where
  once : (t.started.map StartedRun.proposalId).Nodup
  gated : Gated t
  refused : ∀ call, t.refused call → LeavesTables step s ls t call

/-- The condition on the steps. A campaign is created while the proposal is still approved in the table, on a
    day on which the action is not paused and has its guide; a caller does not commit a refusal with
    exclusions. -/
def Fit (s : State) : Label → Prop
  | .enroll call _ => ∀ proposalId work, s.calls.get? call = some ⟨proposalId, .preparing work⟩ →
      (s.tables.proposals.get? proposalId).any (·.status = .approved) ∧
        actionIsPaused work.reading.facts work.action.actionCode = false ∧
          lacksAnApprovedGuide work.reading.facts work.action = false
  | .commit call => ∀ proposalId refusal pending,
      s.calls.get? call = some ⟨proposalId, .refused refusal pending⟩ → pending = []
  | _ => True

/-- No call is under way yet, and each enrollment is in a campaign that is there. -/
structure Fresh (s : State) : Prop where
  calls : s.calls = .empty
  started : s.started = []
  keyed : ∀ e ∈ s.tables.enrollments, s.tables.campaigns.contains e.campaignId = true

variable {s t : State} {ls : List Label}

/-- What a call between the checks and the campaign holds. -/
structure WorkSound (work : Work) : Prop where
  passed : ∀ member ∈ work.members, memberSkipReason work.reading.facts member work.action = none
  left : ∀ member ∈ work.left, member ∈ work.members
  ready : ∀ clientId ∈ work.ready, ∃ member ∈ work.members, member.clientId = clientId

structure Sound (s : State) : Prop where
  keyed : ∀ e ∈ s.tables.enrollments, s.tables.campaigns.contains e.campaignId = true
  known : ∀ run ∈ s.started, s.tables.campaigns.contains run.campaignId = true
  work : ∀ call proposalId work, s.calls.get? call = some ⟨proposalId, .preparing work⟩ → WorkSound work
  moved : ∀ run ∈ s.started,
    (s.tables.proposals.get? run.proposalId).any (·.status = .approved) = false
  once : (s.started.map StartedRun.proposalId).Nodup
  gated : Gated s

lemma Fresh.sound (fresh : Fresh s) : Sound s := by
  refine ⟨fresh.keyed, ?_, ?_, ?_, ?_, ?_⟩
  · rw [fresh.started]
    exact nofun
  · intro call proposalId work here
    rw [fresh.calls] at here
    cases here
  · rw [fresh.started]
    exact nofun
  · rw [fresh.started]
    exact List.nodup_nil
  · rw [Gated, fresh.started]
    exact nofun

/-- A step that leaves the proposals, the campaigns and the enrollments. -/
lemma Sound.update {tables : Tables} {call : CallId} {proposalId : ProposalId} {phase : Phase}
    (sound : Sound s) (proposals : tables.proposals = s.tables.proposals)
    (campaigns : tables.campaigns = s.tables.campaigns)
    (enrollments : tables.enrollments = s.tables.enrollments)
    (own : ∀ work, phase = .preparing work → WorkSound work) :
    Sound { s with tables := tables, calls := s.calls.set call ⟨proposalId, phase⟩ } where
  keyed := by
    simp only [enrollments, campaigns]
    exact sound.keyed
  known := by
    simp only [campaigns]
    exact sound.known
  work := by
    intro other id work here
    simp only [Dict.get?_set] at here
    split at here
    · cases here
      exact own work rfl
    · exact sound.work other id work here
  moved := by
    simp only [proposals]
    exact sound.moved
  once := sound.once
  gated := by
    simp only [Gated, enrollments]
    exact sound.gated

lemma openCall_preparing {tables : Tables} {proposalId : ProposalId} {work : Work} :
    openCall tables proposalId ≠ .preparing work := by
  intro same
  rw [openCall] at same
  repeat' split at same
  all_goals cases same

lemma checkCall_preparing {tables : Tables} {proposalId : ProposalId} {proposal : AgentProposal}
    {angle : String} {reading : Reading} {work : Work}
    (checked : checkCall tables proposalId proposal angle reading = .preparing work) :
    WorkSound work := by
  rw [checkCall] at checked
  split at checked
  · cases checked
  · dsimp only at checked
    split at checked
    · cases checked
    · split at checked
      · cases checked
      · cases checked
        refine ⟨?_, fun member mem => mem, fun clientId ready => absurd ready List.not_mem_nil⟩
        intro member mem
        exact of_decide_eq_true (List.mem_filter.mp mem).2

lemma mem_enrollCohort {enrollments : List Enrollment} {campaignId : CampaignId}
    {clientIds : List ClientId} {e : Enrollment} (mem : e ∈ enrollCohort enrollments campaignId clientIds) :
    e ∈ enrollments ∨ e.campaignId = campaignId ∧ e.clientId ∈ clientIds := by
  rcases List.mem_append.mp mem with old | new
  · exact .inl old
  · obtain ⟨clientId, listed, rfl⟩ := List.mem_map.mp (List.mem_filter.mp new).1
    exact .inr ⟨rfl, List.mem_dedup.mp listed⟩

@[simp] lemma flush_proposals {tables : Tables} {proposalId : ProposalId}
    {pending : List (FundKey × String)} : (flush tables proposalId pending).proposals = tables.proposals := by
  rw [flush]
  split <;> rfl

@[simp] lemma flush_campaigns {tables : Tables} {proposalId : ProposalId}
    {pending : List (FundKey × String)} : (flush tables proposalId pending).campaigns = tables.campaigns := by
  rw [flush]
  split <;> rfl

@[simp] lemma flush_enrollments {tables : Tables} {proposalId : ProposalId}
    {pending : List (FundKey × String)} :
    (flush tables proposalId pending).enrollments = tables.enrollments := by
  rw [flush]
  split <;> rfl

/-- A member that passed the checks on members passes all of them where the action does. -/
lemma skipReason_of_member {facts : GateFacts} {action : ActionRow} {member : GroupMember}
    (running : actionIsPaused facts action.actionCode = false)
    (guided : lacksAnApprovedGuide facts action = false)
    (passed : memberSkipReason facts member action = none) : skipReason facts action member = none := by
  simp only [skipReason, running, guided, Bool.false_eq_true, if_false, passed]

section Enroll
variable {call : CallId} {campaignId : CampaignId} {proposalId : ProposalId} {work : Work}

/-- No row is moved to approved, and the proposal's own is moved off it. -/
lemma approved_startCampaign {tables : Tables} {id : ProposalId} :
    ((startCampaign tables proposalId work campaignId).proposals.get? id).any (·.status = .approved) = true ↔
      id ≠ proposalId ∧ (tables.proposals.get? id).any (·.status = .approved) = true := by
  rw [startCampaign]
  cases stored : tables.proposals.get? proposalId with
  | none =>
    by_cases same : id = proposalId
    · subst same
      simp [stored]
    · simp [same]
  | some row =>
    by_cases same : id = proposalId
    · subst same
      simp
    · simp [same]

lemma Sound.enroll (sound : Sound s)
    (here : s.calls.get? call = some ⟨proposalId, .preparing work⟩)
    (fresh : s.tables.campaigns.get? campaignId = none)
    (approved : (s.tables.proposals.get? proposalId).any (·.status = .approved) = true)
    (running : actionIsPaused work.reading.facts work.action.actionCode = false)
    (guided : lacksAnApprovedGuide work.reading.facts work.action = false) :
    Sound (s.enroll call proposalId work campaignId) := by
  have worked := sound.work call proposalId work here
  have unknown : s.tables.campaigns.contains campaignId = false := by
    rw [Dict.contains, fresh, Option.isSome_none]
  have contains : ∀ id, (s.enroll call proposalId work campaignId).tables.campaigns.contains id = true ↔
      id = campaignId ∨ s.tables.campaigns.contains id = true := by
    intro id
    simp only [State.enroll, startCampaign, Dict.contains, Dict.get?_set, flush_campaigns]
    split
    · simp [*]
    · simp [*]
  refine ⟨?_, ?_, ?_, ?_, ?_, ?_⟩
  · intro e mem
    rw [contains]
    rcases mem_enrollCohort mem with old | ⟨new, _⟩
    · rw [flush_enrollments] at old
      exact .inr (sound.keyed e old)
    · exact .inl new
  · intro run mem
    rw [contains]
    rcases List.mem_append.mp mem with old | new
    · exact .inr (sound.known run old)
    · cases List.mem_singleton.mp new
      exact .inl rfl
  · intro other id work' there
    simp only [State.enroll, Dict.get?_set] at there
    split at there
    · cases there
    · exact sound.work other id work' there
  · intro run mem
    rw [← Bool.not_eq_true]
    intro still
    obtain ⟨other, still⟩ := approved_startCampaign.mp still
    rcases List.mem_append.mp mem with old | new
    · rw [flush_proposals, sound.moved run old] at still
      cases still
    · cases List.mem_singleton.mp new
      exact other rfl
  · rw [State.enroll, List.map_append]
    refine sound.once.append (List.nodup_singleton _) ?_
    intro id old new
    obtain ⟨run, mem, rfl⟩ := List.mem_map.mp old
    have moved := sound.moved run mem
    rw [List.map_singleton, List.mem_singleton] at new
    rw [new, approved] at moved
    cases moved
  · intro run mem e enrolled same
    rcases List.mem_append.mp mem with old | new
    · rcases mem_enrollCohort enrolled with before | ⟨new, _⟩
      · rw [flush_enrollments] at before
        exact sound.gated run old e before same
      · have known := sound.known run old
        rw [← same, new, unknown] at known
        cases known
    · cases List.mem_singleton.mp new
      rcases mem_enrollCohort enrolled with before | ⟨_, ready⟩
      · rw [flush_enrollments] at before
        have known := sound.keyed e before
        rw [same, unknown] at known
        cases known
      · obtain ⟨member, listed, client⟩ := worked.ready e.clientId ready
        exact ⟨member, listed, client, skipReason_of_member running guided (worked.passed member listed)⟩

end Enroll

lemma Sound.step {l : Label} (sound : Sound s) (fit : Fit s l) (st : RunStep s l t) : Sound t := by
  cases st with
  | start fresh => exact sound.update rfl rfl rfl fun work same => absurd same openCall_preparing
  | check here => exact sound.update rfl rfl rfl fun work same => checkCall_preparing same
  | @prepare call fundType proposalId work member rest here next =>
    have worked := sound.work call proposalId work here
    have listed : member ∈ work.members := by
      apply worked.left
      rw [next]
      exact .head _
    have left : ∀ member ∈ rest, member ∈ work.members := by
      intro other mem
      apply worked.left
      rw [next]
      exact .tail _ mem
    cases fundType with
    | none =>
      refine sound.update rfl rfl rfl fun work' same => ?_
      cases same
      exact ⟨worked.passed, left, worked.ready⟩
    | some fundType =>
      refine sound.update flush_proposals flush_campaigns flush_enrollments fun work' same => ?_
      cases same
      refine ⟨worked.passed, left, ?_⟩
      intro clientId mem
      rcases List.mem_append.mp mem with old | new
      · exact worked.ready clientId old
      · exact ⟨member, listed, (List.mem_singleton.mp new).symm⟩
  | refuse here done nobody =>
    refine sound.update rfl rfl rfl fun work same => ?_
    cases same
  | enroll here done somebody fresh =>
    obtain ⟨approved, running, guided⟩ := fit _ _ here
    exact sound.enroll here fresh approved running guided
  | commit here =>
    refine sound.update flush_proposals flush_campaigns flush_enrollments fun work same => ?_
    cases same

/-! ### What a refusal leaves -/

/-- A call that has written cannot refuse any more. -/
def Phase.committed : Phase → Prop
  | .preparing work => work.ready ≠ []
  | .started _ => True
  | _ => False

def State.committed (s : State) (call : CallId) : Prop :=
  ∃ proposalId phase, s.calls.get? call = some ⟨proposalId, phase⟩ ∧ phase.committed

lemma committed_not_refused {call : CallId} (committed : s.committed call) : ¬ s.refused call := by
  rintro ⟨proposalId, refusal, pending, here⟩
  obtain ⟨id, phase, there, written⟩ := committed
  cases here.symm.trans there
  exact written

/-- A step writes nothing, or its call has written from then on. -/
lemma writes_step {l : Label} (fit : Fit s l) (st : RunStep s l t) :
    t.tables = s.tables ∨ t.committed l.call := by
  cases st with
  | start fresh => exact .inl rfl
  | check here => exact .inl rfl
  | @prepare call fundType proposalId work member rest here next =>
    cases fundType with
    | none => exact .inl rfl
    | some fundType =>
      refine .inr ⟨proposalId, _, Dict.get?_set_self _ _ _, ?_⟩
      exact List.append_ne_nil_of_right_ne_nil _ (List.cons_ne_nil _ _)
  | refuse here done nobody => exact .inl rfl
  | @enroll call campaignId proposalId work here done somebody fresh =>
    exact .inr ⟨proposalId, _, Dict.get?_set_self _ _ _, trivial⟩
  | commit here =>
    left
    show flush s.tables _ _ = s.tables
    rw [flush, if_pos (fit _ _ _ here)]

lemma committed_put {call other : CallId} {proposalId : ProposalId} {phase : Phase} {tables : Tables}
    {started : List StartedRun} (committed : s.committed call)
    (own : call = other → s.committed other → phase.committed) :
    (State.mk tables (s.calls.set other ⟨proposalId, phase⟩) started).committed call := by
  by_cases same : call = other
  · subst same
    exact ⟨proposalId, phase, Dict.get?_set_self _ _ _, own rfl committed⟩
  · obtain ⟨id, before, here, written⟩ := committed
    refine ⟨id, before, ?_, written⟩
    rw [← here]
    exact Dict.get?_set_ne _ _ same

lemma committed_step {call : CallId} {l : Label} (committed : s.committed call) (st : RunStep s l t) :
    t.committed call := by
  cases st with
  | start fresh =>
    refine committed_put committed fun same ⟨_, _, there, _⟩ => ?_
    rw [fresh] at there
    cases there
  | check here =>
    refine committed_put committed fun same ⟨_, _, there, written⟩ => ?_
    cases here.symm.trans there
    exact written.elim
  | @prepare other fundType proposalId work member rest here next =>
    cases fundType with
    | none =>
      refine committed_put committed fun same ⟨_, _, there, written⟩ => ?_
      cases here.symm.trans there
      exact written
    | some fundType =>
      refine committed_put committed fun same _ => ?_
      exact List.append_ne_nil_of_right_ne_nil _ (List.cons_ne_nil _ _)
  | refuse here done nobody =>
    refine committed_put committed fun same ⟨_, _, there, written⟩ => ?_
    cases here.symm.trans there
    exact absurd nobody written
  | enroll here done somebody fresh => exact committed_put committed fun same _ => trivial
  | commit here =>
    refine committed_put committed fun same ⟨_, _, there, written⟩ => ?_
    cases here.symm.trans there
    exact written.elim

lemma leavesTables_of_refused {call : CallId} (refused : t.refused call) :
    LeavesTables (Guarded Fit RunStep) s ls t call := by
  rintro before l after u v - - ⟨fit, st⟩ rest rfl
  rcases writes_step fit st with same | committed
  · exact same
  · have still : t.committed l.call :=
      rest.invariant (·.committed l.call) committed fun _ _ _ held st => committed_step held st.2
    exact absurd refused (committed_not_refused still)

/-- In every run whose steps meet the condition, a proposal gets one campaign at most, its clients passed every
    check on the day, and a call that refuses has written nothing. -/
theorem run_once (fresh : Fresh s) (r : Run (Guarded Fit RunStep) s ls t) :
    AtMostOnce (Guarded Fit RunStep) s ls t := by
  have sound : Sound t :=
    r.invariant Sound fresh.sound fun _ _ _ sound st => sound.step st.1 st.2
  exact ⟨sound.once, sound.gated, fun call refused => leavesTables_of_refused refused⟩

/-! ### One proposal, and two calls -/

def checkIn : ActionRow := ⟨"check_in_rising_risk", "Check in", "rising risk", some "check_in", false⟩

def checkInProposal : AgentProposal where
  status := .approved
  actionCode := "check_in_rising_risk"
  catalogVersion := 1
  groupName := "more_urgent_but_not_called"
  angle := some "check_in"

def approvedState : State where
  tables :=
    { proposals := .ofList [(7, checkInProposal)]
      rows := .ofList [(7, [{ key := (5, 1), included := true }])] }

def quietDay : Reading where
  facts := { actions := .ofList [("check_in_rising_risk", checkIn)] }
  day := "2024-05-02"
  balance := fun _ => 500

def checkInWork : Work where
  proposal := checkInProposal
  angle := "check_in"
  reading := quietDay
  action := checkIn
  split := none
  members := [⟨5, 1, 500⟩]
  left := [⟨5, 1, 500⟩]
  pending := []

lemma fresh_approvedState : Fresh approvedState := ⟨rfl, rfl, nofun⟩

lemma start_approved {calls : Dict CallId Call} {call : CallId} (fresh : calls.get? call = none) :
    RunStep ⟨approvedState.tables, calls, []⟩ (.start call 7)
      ⟨approvedState.tables, calls.set call ⟨7, .opened checkInProposal "check_in"⟩, []⟩ := by
  have opened : openCall approvedState.tables 7 = .opened checkInProposal "check_in" := by
    simp [openCall, approvedState, checkInProposal, doNothingAction, Dict.ofList]
  have st : RunStep ⟨approvedState.tables, calls, []⟩ (.start call 7) _ := .start fresh
  rwa [State.put, opened] at st

lemma check_approved {calls : Dict CallId Call} {call : CallId}
    (here : calls.get? call = some ⟨7, .opened checkInProposal "check_in"⟩) :
    RunStep ⟨approvedState.tables, calls, []⟩ (.check call quietDay)
      ⟨approvedState.tables, calls.set call ⟨7, .preparing checkInWork⟩, []⟩ := by
  have checked : checkCall approvedState.tables 7 checkInProposal "check_in" quietDay =
      .preparing checkInWork := by
    have loaded : loadActionOrRaise quietDay.facts checkInProposal.actionCode = .ok checkIn := by
      simp [loadActionOrRaise, quietDay, checkInProposal, Dict.ofList]
    have members : membersOf (approvedState.tables.rows.getD 7 []) quietDay.balance = [⟨5, 1, 500⟩] := rfl
    have passed : memberSkipReason quietDay.facts ⟨5, 1, 500⟩ checkIn = none := by
      simp [memberSkipReason, quietDay, alreadyOffered]
    have split : loadSplit (approvedState.tables.sides.getD 7 .empty)
        (approvedState.tables.rows.getD 7 []) = none := rfl
    simp [checkCall, loaded, members, passed, split, blockedOf, checkInWork]
  have st : RunStep ⟨approvedState.tables, calls, []⟩ (.check call quietDay) _ := .check here
  rwa [State.put, checked] at st

def checkInReady : Work := { checkInWork with left := [], ready := [5] }

lemma enroll_ready {calls : Dict CallId Call} {call : CallId} {campaignId : CampaignId} {tables : Tables}
    {started : List StartedRun} (here : calls.get? call = some ⟨7, .preparing checkInReady⟩)
    (fresh : tables.campaigns.get? campaignId = none) :
    RunStep ⟨tables, calls, started⟩ (.enroll call campaignId)
      (State.enroll ⟨tables, calls, started⟩ call 7 checkInReady campaignId) :=
  .enroll here rfl (List.cons_ne_nil _ _) fresh

/-- One call, through to its campaign. -/
lemma run_approved : ∃ t, Run (Guarded Fit RunStep) approvedState
    [.start 1 7, .check 1 quietDay, .prepare 1 (some "money_market"), .enroll 1 30] t := by
  refine ⟨_, .snoc (.snoc (.snoc (.single ⟨trivial, start_approved rfl⟩)
    ⟨trivial, check_approved rfl⟩) ⟨trivial, .prepare rfl rfl⟩) ⟨?fit, enroll_ready rfl rfl⟩⟩
  rintro id work here
  cases here
  have running : actionIsPaused quietDay.facts checkIn.actionCode = false := by
    simp [actionIsPaused, quietDay, checkIn, Dict.ofList]
  exact ⟨rfl, running, by decide +kernel⟩

theorem run_once_checkIn : ∃ t, AtMostOnce (Guarded Fit RunStep) approvedState
    [.start 1 7, .check 1 quietDay, .prepare 1 (some "money_market"), .enroll 1 30] t := by
  obtain ⟨t, r⟩ := run_approved
  exact ⟨t, run_once fresh_approvedState r⟩

/-- Two calls that read the status before either moves it. -/
lemma run_twice : ∃ t, Run RunStep approvedState
    [.start 1 7, .start 2 7, .check 1 quietDay, .check 2 quietDay, .prepare 1 (some "money_market"),
      .prepare 2 (some "money_market"), .enroll 1 30, .enroll 2 31] t ∧
      ¬ (t.started.map StartedRun.proposalId).Nodup := by
  refine ⟨_, .snoc (.snoc (.snoc (.snoc (.snoc (.snoc (.snoc (.single (start_approved rfl))
    (start_approved rfl)) (check_approved rfl)) (check_approved rfl)) (.prepare rfl rfl))
    (.prepare rfl rfl)) (enroll_ready rfl rfl)) (enroll_ready rfl rfl), ?twice⟩
  decide

/-- The status is read at the start and moved at the end, by the key alone. -/
theorem two_campaigns : ¬ ∀ (s t : State) (ls : List Label), Fresh s → Run RunStep s ls t →
    AtMostOnce RunStep s ls t := by
  intro claim
  obtain ⟨t, r, twice⟩ := run_twice
  exact twice (claim _ _ _ fresh_approvedState r).once

end ClientEngagement.Proposals
