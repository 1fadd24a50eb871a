import ClientEngagement.Agents.Permissions
import ClientEngagement.Lib.Runs
import ClientEngagement.Risk.FaAllocation
import ClientEngagement.Risk.History

/-!
# What the agent does by itself

Model of the propose step of the nightly agent run (`agents/agent_loop.py`) and of what `run_proposal`
(`agents/write_tools.py`) starts. The step looks up the action's own setting, without any client's tier or
band, and reads no cap. `within_permission_iff` says exactly which runs stay within the settings written for
the clients they reach: those in which no narrowed setting asks for more, and the caps still have room,
whenever a proposal is run without a person.
-/

namespace ClientEngagement.Agents
open Risk (FundKey ClientId)
open Rules (Date)

structure GroupMember where
  clientId : ClientId
  unitFundId : ℤ
  balance : ℚ
deriving DecidableEq

def GroupMember.key (member : GroupMember) : FundKey := (member.clientId, member.unitFundId)

/-- What the step reads of the action catalog. -/
structure CatalogAction where
  actionCode : String
  version : ℤ := 1
  messageAngle : Option String
  moneyCeilingKes : Option ℚ := none

/-- What the check step decided for a group. -/
structure GroupDecision where
  action : CatalogAction
  included : List GroupMember

inductive ProposalStatus where
  | proposed
  | approved
deriving DecidableEq

structure AgentProposal where
  actionCode : String
  catalogVersion : ℤ
  moneyTotalKes : ℚ
  angle : Option String
  permissionApplied : PermissionLevel
  members : List GroupMember
  status : ProposalStatus := .proposed
  decidedBy : Option String := none

/-- The settings and the standing of the clients they are written for. -/
structure AgentRules where
  permissions : PermissionTable
  priorityTiers : Dict ClientId String := .empty
  riskBands : Dict FundKey String := .empty
  agentForceApproveEach : Bool := false

/-- What `run_proposal` finds when it starts. -/
structure RunChecks where
  actionOnFile : Bool := true
  blocked : GroupMember → Bool := fun _ => false
  prepared : ClientId → Bool := fun _ => true
  raises : Bool := false

/-! ## One proposal -/

def doNothingAction : String := "do_nothing"

def moneyTotal (decision : GroupDecision) : ℚ := (decision.included.map GroupMember.balance).sum

def proposalFor (rules : AgentRules) (decision : GroupDecision) : AgentProposal where
  actionCode := decision.action.actionCode
  catalogVersion := decision.action.version
  moneyTotalKes := moneyTotal decision
  angle := decision.action.messageAngle
  permissionApplied :=
    effectivePermission rules.agentForceApproveEach rules.permissions decision.action.actionCode
      none none (some (moneyTotal decision)) decision.action.moneyCeilingKes
  members := decision.included

/-- Whether the agent approves a proposal and runs it. -/
def actsAlone (proposal : AgentProposal) : Bool :=
  proposal.actionCode ≠ doNothingAction ∧ proposal.permissionApplied = .actAlone

/-- The members whose clients `run_proposal` enrolls. -/
def runProposal (checks : RunChecks) (proposal : AgentProposal) : List GroupMember :=
  if proposal.status ≠ .approved then []
  else if proposal.actionCode = doNothingAction then []
  else if proposal.angle = none then []
  else if ¬ checks.actionOnFile then []
  else if checks.raises then []
  else (proposal.members.filter fun member => ¬ checks.blocked member).filter fun member =>
    checks.prepared member.clientId

/-- A proposal the agent ran by itself, with the day, the rules at that time and whom it reached. -/
structure SelfRun where
  rules : AgentRules
  day : Date
  decision : GroupDecision
  started : List GroupMember

def SelfRun.actionCode (run : SelfRun) : String := run.decision.action.actionCode

structure AgentTables where
  rules : AgentRules
  proposals : List AgentProposal := []
  selfRuns : List SelfRun := []

def approve (proposal : AgentProposal) : AgentProposal :=
  { proposal with status := .approved, decidedBy := some "agent" }

def selfRun (s : AgentTables) (day : Date) (decision : GroupDecision) (checks : RunChecks) : SelfRun where
  rules := s.rules
  day := day
  decision := decision
  started := runProposal checks (approve (proposalFor s.rules decision))

/-- What the propose step does for one group. -/
def propose (s : AgentTables) (day : Date) (decision : GroupDecision) (checks : RunChecks) :
    AgentTables :=
  let proposal := proposalFor s.rules decision
  if actsAlone proposal then
    { s with
      proposals := s.proposals ++ [approve proposal]
      selfRuns := s.selfRuns ++ [selfRun s day decision checks] }
  else { s with proposals := s.proposals ++ [proposal] }

/-! ## What the settings allow -/

def dayRuns (runs : List SelfRun) (day : Date) (actionCode : String) : List SelfRun :=
  runs.filter fun run => run.day = day ∧ run.actionCode = actionCode

def clientsReached (runs : List SelfRun) (day : Date) (actionCode : String) : ℕ :=
  (((dayRuns runs day actionCode).flatMap SelfRun.started).map GroupMember.clientId).toFinset.card

def moneyTouched (runs : List SelfRun) (day : Date) (actionCode : String) : ℚ :=
  (((dayRuns runs day actionCode).flatMap SelfRun.started).map GroupMember.balance).sum

structure WithinCaps (runs : List SelfRun) (day : Date) (actionCode : String)
    (row : AgentPermission) : Prop where
  clients : ∀ cap ∈ row.maxClientsPerDay, (clientsReached runs day actionCode : ℤ) ≤ cap
  money : ∀ cap ∈ row.maxMoneyKes, moneyTouched runs day actionCode ≤ cap

/-- The setting that governs an action for a member. -/
def governing (rules : AgentRules) (actionCode : String) (member : GroupMember) :
    Option AgentPermission :=
  resolvePermission rules.permissions actionCode (rules.priorityTiers.get? member.clientId)
    (rules.riskBands.get? member.key)

/-- The setting written for the member's tier or band. -/
def narrowed (rules : AgentRules) (actionCode : String) (member : GroupMember) :
    Option AgentPermission :=
  narrowedPermission rules.permissions actionCode (rules.priorityTiers.get? member.clientId)
    (rules.riskBands.get? member.key)

structure WithinPermission (runs : List SelfRun) (run : SelfRun) : Prop where
  ceiling : ∀ ceiling ∈ run.decision.action.moneyCeilingKes, moneyTotal run.decision ≤ ceiling
  governed : ∀ member ∈ run.decision.included, ∃ row,
    governing run.rules run.actionCode member = some row ∧ row.permission = .actAlone ∧
      WithinCaps runs run.day run.actionCode row

/-- Nothing the agent ran by itself went beyond a setting. -/
def NeverBeyond (s : AgentTables) : Prop := ∀ run ∈ s.selfRuns, WithinPermission s.selfRuns run

/-! ## Nightly runs -/

inductive AgentLabel where
  | setPermission (request : PermissionRequest)
  | restand (priorityTiers : Dict ClientId String) (riskBands : Dict FundKey String)
  | force (agentForceApproveEach : Bool)
  | propose (day : Date) (decision : GroupDecision) (checks : RunChecks)

inductive AgentStep (s : AgentTables) : AgentLabel → AgentTables → Prop where
  | setPermission {request table} (accepted : setPermission s.rules.permissions request = .ok table) :
      AgentStep s (.setPermission request) { s with rules := { s.rules with permissions := table } }
  | restand {priorityTiers riskBands} :
      AgentStep s (.restand priorityTiers riskBands)
        { s with rules := { s.rules with priorityTiers, riskBands } }
  | force {agentForceApproveEach} :
      AgentStep s (.force agentForceApproveEach)
        { s with rules := { s.rules with agentForceApproveEach } }
  | propose {day decision checks} :
      AgentStep s (.propose day decision checks) (propose s day decision checks)

/-- No narrowed setting asks a person for a member, and every cap of the day has room. -/
structure NothingNarrower (s : AgentTables) (day : Date) (decision : GroupDecision)
    (checks : RunChecks) : Prop where
  alone : ∀ member ∈ decision.included, ∀ row,
    narrowed s.rules decision.action.actionCode member = some row → row.permission = .actAlone
  room : ∀ run ∈ dayRuns (s.selfRuns ++ [selfRun s day decision checks]) day decision.action.actionCode,
    ∀ member ∈ run.decision.included, ∀ row, governing run.rules run.actionCode member = some row →
      WithinCaps (s.selfRuns ++ [selfRun s day decision checks]) day decision.action.actionCode row

/-- The condition on a step: when the agent is to act alone, nothing narrower speaks against it. -/
def Unfenced (s : AgentTables) : AgentLabel → Prop
  | .propose day decision checks =>
    actsAlone (proposalFor s.rules decision) = true → NothingNarrower s day decision checks
  | _ => True

variable {s t : AgentTables} {label : AgentLabel} {ls : List AgentLabel} {runs : List SelfRun}
  {run : SelfRun} {day : Date} {decision : GroupDecision} {checks : RunChecks} {actionCode : String}
  {member : GroupMember}

/-- Tonight's run counts towards its own day and action only. -/
lemma dayRuns_append_ne (h : ¬ (run.day = day ∧ run.actionCode = actionCode)) :
    dayRuns (runs ++ [run]) day actionCode = dayRuns runs day actionCode := by
  have other : decide (run.day = day ∧ run.actionCode = actionCode) = false := decide_eq_false h
  rw [dayRuns, List.filter_append, List.filter_singleton, other]
  exact List.append_nil _

lemma withinCaps_append_ne {row : AgentPermission}
    (h : ¬ (run.day = day ∧ run.actionCode = actionCode)) :
    WithinCaps (runs ++ [run]) day actionCode row ↔ WithinCaps runs day actionCode row := by
  have same : dayRuns (runs ++ [run]) day actionCode = dayRuns runs day actionCode :=
    dayRuns_append_ne h
  constructor
  · rintro ⟨clients, money⟩
    rw [clientsReached, same] at clients
    rw [moneyTouched, same] at money
    exact ⟨clients, money⟩
  · rintro ⟨clients, money⟩
    constructor
    · rw [clientsReached, same]
      exact clients
    · rw [moneyTouched, same]
      exact money

lemma governing_eq (rules : AgentRules) : governing rules actionCode member =
    (narrowed rules actionCode member).or (rules.permissions.get? { actionCode := actionCode }) :=
  resolvePermission_eq

/-- What acting alone says, and what it leaves open. -/
lemma governed_iff (alone : actsAlone (proposalFor s.rules decision) = true) :
    (∀ member ∈ decision.included, ∃ row, governing s.rules decision.action.actionCode member = some row ∧
      row.permission = .actAlone) ↔
    ∀ member ∈ decision.included, ∀ row, narrowed s.rules decision.action.actionCode member = some row →
      row.permission = .actAlone := by
  obtain ⟨-, level⟩ := of_decide_eq_true alone
  obtain ⟨⟨own, found, allowed⟩, -⟩ := general_of_actAlone level
  refine forall₂_congr fun member _ => ?_
  rw [governing_eq]
  cases narrower : narrowed s.rules decision.action.actionCode member with
  | none =>
    rw [Option.none_or]
    exact ⟨fun _ _ absent => absurd absent nofun, fun _ => ⟨own, found, allowed⟩⟩
  | some row =>
    rw [Option.some_or]
    constructor
    · rintro ⟨row', same, allowed⟩ row'' same'
      rwa [← Option.some_inj.mp same', Option.some_inj.mp same]
    · exact fun h => ⟨row, rfl, h row rfl⟩

lemma mem_dayRuns : run ∈ dayRuns runs day actionCode ↔
    run ∈ runs ∧ run.day = day ∧ run.actionCode = actionCode := by
  rw [dayRuns, List.mem_filter, decide_eq_true_eq]

/-- A run is still within its settings after tonight's when the caps of the day have room. -/
lemma WithinPermission.append (earlier : WithinPermission s.selfRuns run) (mem : run ∈ s.selfRuns)
    (fits : NothingNarrower s day decision checks) :
    WithinPermission (s.selfRuns ++ [selfRun s day decision checks]) run := by
  refine ⟨earlier.ceiling, fun member included => ?_⟩
  obtain ⟨row, found, allowed, caps⟩ := earlier.governed member included
  refine ⟨row, found, allowed, ?_⟩
  by_cases same : run.day = day ∧ run.actionCode = decision.action.actionCode
  · have counted : run ∈ dayRuns (s.selfRuns ++ [selfRun s day decision checks]) day
        decision.action.actionCode := mem_dayRuns.mpr ⟨List.mem_append_left _ mem, same⟩
    rw [same.1, same.2]
    exact fits.room run counted member included row found
  · apply (withinCaps_append_ne ?_).mpr caps
    rintro ⟨sameDay, sameAction⟩
    exact same ⟨sameDay.symm, sameAction.symm⟩

/-- Tonight's own run, given that the agent acts alone. -/
lemma withinPermission_selfRun (alone : actsAlone (proposalFor s.rules decision) = true)
    (fits : NothingNarrower s day decision checks) :
    WithinPermission (s.selfRuns ++ [selfRun s day decision checks])
      (selfRun s day decision checks) := by
  have counted : selfRun s day decision checks ∈
      dayRuns (s.selfRuns ++ [selfRun s day decision checks]) day decision.action.actionCode :=
    mem_dayRuns.mpr ⟨List.mem_append_right _ (List.mem_singleton_self _), rfl, rfl⟩
  constructor
  · obtain ⟨-, level⟩ := of_decide_eq_true alone
    exact (general_of_actAlone level).2
  · intro member included
    obtain ⟨row, found, allowed⟩ := (governed_iff alone).mpr fits.alone member included
    exact ⟨row, found, allowed, fits.room _ counted member included row found⟩

lemma nothingNarrower_of_within (alone : actsAlone (proposalFor s.rules decision) = true)
    (within : ∀ run ∈ s.selfRuns ++ [selfRun s day decision checks],
      WithinPermission (s.selfRuns ++ [selfRun s day decision checks]) run) :
    NothingNarrower s day decision checks := by
  have own := within _ (List.mem_append_right _ (List.mem_singleton_self _))
  constructor
  · apply (governed_iff alone).mp
    intro member included
    obtain ⟨row, found, allowed, -⟩ := own.governed member included
    exact ⟨row, found, allowed⟩
  · intro run counted member included row found
    obtain ⟨mem, sameDay, sameAction⟩ := mem_dayRuns.mp counted
    obtain ⟨row', found', -, caps⟩ := (within run mem).governed member included
    rw [found'] at found
    cases found
    rwa [sameDay, sameAction] at caps

/-- A step keeps the agent within its settings exactly when it meets the condition. -/
lemma unfenced_iff (inv : NeverBeyond s) (st : AgentStep s label t) :
    Unfenced s label ↔ NeverBeyond t := by
  cases st with
  | setPermission _ => exact iff_of_true trivial inv
  | restand => exact iff_of_true trivial inv
  | force => exact iff_of_true trivial inv
  | @propose day decision checks =>
    by_cases alone : actsAlone (proposalFor s.rules decision) = true
    · rw [NeverBeyond, propose, if_pos alone]
      constructor
      · intro fits run mem
        rcases List.mem_append.mp mem with earlier | tonight
        · exact (inv run earlier).append earlier (fits alone)
        · rw [List.mem_singleton.mp tonight]
          exact withinPermission_selfRun alone (fits alone)
      · exact fun within _ => nothingNarrower_of_within alone within
    · rw [NeverBeyond, propose, if_neg alone]
      exact iff_of_true (fun h => absurd h alone) inv

/-- The runs that stay within the settings in every state are those in which nothing narrower speaks
    against a proposal that the agent runs by itself. -/
theorem within_permission_iff (unused : s.selfRuns = []) :
    Run (Guarded Unfenced AgentStep) s ls t ↔ Run (Keeping NeverBeyond AgentStep) s ls t := by
  apply Run.guarded_iff_keeping
  · rw [NeverBeyond, unused]
    exact nofun
  · exact fun _ _ _ => unfenced_iff

def welcome : GroupDecision where
  action := { actionCode := "welcome_and_top_up", messageAngle := some "welcome" }
  included := [⟨5, 1, 500⟩]

/-- The action acts alone for one client a day. -/
def oneADay : AgentTables where
  rules :=
    { permissions := .ofList [({ actionCode := "welcome_and_top_up" },
        { permission := .actAlone
          maxClientsPerDay := some 1
          clientsPositive := by decide })] }

lemma welcome_fits : NothingNarrower oneADay 1 welcome {} := by
  constructor
  · intro member included row found
    rw [List.mem_singleton.mp included] at found
    cases found
  · intro run counted member included row found
    have tonight : run = selfRun oneADay 1 welcome {} := List.mem_singleton.mp (mem_dayRuns.mp counted).1
    subst tonight
    rw [List.mem_singleton.mp included] at found
    cases found
    constructor
    · intro cap one
      cases one
      have reached : clientsReached [selfRun oneADay 1 welcome {}] 1 "welcome_and_top_up" = 1 := by
        decide +kernel
      exact (congrArg _ reached).le
    · nofun

/-- One client reached under a cap of one. -/
theorem within_permission_oneADay : Run (Keeping NeverBeyond AgentStep) oneADay
    [.propose 1 welcome {}] (propose oneADay 1 welcome {}) :=
  (within_permission_iff rfl).mp (.single ⟨fun _ => welcome_fits, .propose⟩)

/-! ## A tier a manager fenced off -/

/-- The action acts alone, clients of tier A wait for a person. -/
def fencedOff : AgentTables where
  rules :=
    { permissions := .ofList
        [({ actionCode := "welcome_and_top_up" }, { permission := .actAlone }),
          ({ actionCode := "welcome_and_top_up", priorityTier := some "A" },
            { permission := .approveEach })]
      priorityTiers := .ofList [(5, "A")] }

/-- The agent runs a proposal for a client whose setting asks for a person. -/
theorem within_permission_fails : ¬ ∀ (s t : AgentTables) (ls : List AgentLabel), s.selfRuns = [] →
    Run AgentStep s ls t → NeverBeyond t := by
  intro claim
  have r : Run AgentStep fencedOff _ (propose fencedOff 1 welcome {}) := .single .propose
  have alone : actsAlone (proposalFor fencedOff.rules welcome) = true := by decide +kernel
  have own : selfRun fencedOff 1 welcome {} ∈ (propose fencedOff 1 welcome {}).selfRuns := by
    rw [propose, if_pos alone]
    exact List.mem_singleton_self _
  obtain ⟨row, found, allowed, -⟩ := (claim _ _ _ rfl r _ own).governed ⟨5, 1, 500⟩ (.head _)
  have waits : (governing fencedOff.rules "welcome_and_top_up" ⟨5, 1, 500⟩).map
      AgentPermission.permission = some .approveEach := by decide
  rw [show governing fencedOff.rules "welcome_and_top_up" ⟨5, 1, 500⟩ = some row from found,
    Option.map_some, allowed] at waits
  cases waits

end ClientEngagement.Agents
