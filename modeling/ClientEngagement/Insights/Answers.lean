import ClientEngagement.Lib.Dict
import ClientEngagement.Lib.Runs

/-!
# The answers to a finding

Model of `start_action_run` and `execute_action_run` (`agents/action_agent.py`), of the tools `write_proposal`
and `record_no_action` (`agents/write_tools.py`) and of `save_insight_proposal` (`agents/insight_proposal.py`)
as sessions over the committed findings and proposals. A session looks at the finding long before it writes
its answer, and the writer moves the finding only if it is still accepted, but writes the proposal in any
case. `one_answer_iff` says exactly which interleavings leave one answer to each finding.
-/

namespace ClientEngagement.Insights

abbrev InsightId := ℤ
abbrev ProposalId := ℤ
abbrev SessionId := ℕ
abbrev FundKey := ℤ × ℤ

/-- `INSIGHT_STATES`. -/
inductive InsightState where
  | new
  | accepted
  | actedOn
  | dismissed
  | expired
deriving DecidableEq

def InsightState.text : InsightState → String
  | .new => "new"
  | .accepted => "accepted"
  | .actedOn => "acted_on"
  | .dismissed => "dismissed"
  | .expired => "expired"

/-- `INSIGHT_KINDS`. -/
inductive InsightKind where
  | risk
  | opportunity
  | lifecycleChange
  | anomaly
  | pattern
  | campaign
deriving DecidableEq

/-- `ALLOWED_TRANSITIONS`. -/
def allowedTransitions : InsightState → List InsightState
  | .new => [.accepted, .dismissed, .expired]
  | .accepted => [.actedOn, .dismissed, .expired]
  | .actedOn => []
  | .dismissed => []
  | .expired => []

structure AgentInsight where
  kind : InsightKind
  groupName : String
  state : InsightState := .new

/-- What was decided about the members of a finding's group: a client fund without a reason is in. -/
structure InsightDecision where
  actionCode : String
  angle : Option String := none
  reason : String
  members : List FundKey
  skipReasons : Dict FundKey (Option String)

structure InsightProposal where
  insightId : InsightId
  actionCode : String
  angle : Option String
  reason : String
  groupName : String
  /-- The client funds with why they were left out, if they were. -/
  clients : List (FundKey × Option String)

/-- The row `save_insight_proposal` writes; members the decision did not consider get no client row. -/
def proposalOf (insightId : InsightId) (insight : AgentInsight) (decision : InsightDecision) :
    InsightProposal where
  insightId := insightId
  actionCode := decision.actionCode
  angle := decision.angle
  reason := decision.reason
  groupName := insight.groupName
  clients := decision.members.filterMap fun key => (decision.skipReasons.get? key).map (key, ·)

/-- Why an action run does not start. -/
inductive NotActionable where
  | missing
  | notAccepted (state : InsightState)
  | pattern
  | lifecycleChange
deriving DecidableEq

/-- The checks of `start_action_run`. -/
def actionable (insight : Option AgentInsight) : Except NotActionable Unit :=
  match insight with
  | none => .error .missing
  | some insight =>
    if insight.state ≠ .accepted then .error (.notAccepted insight.state)
    else if insight.kind = .pattern then .error .pattern
    else if insight.kind = .lifecycleChange then .error .lifecycleChange
    else .ok ()

/-- Where a session is: its run is opened; it has read the finding as accepted; or it has loaded the finding
    again, flushed its proposal and moved the finding if it loaded it as accepted. -/
inductive AnswerPhase where
  | opened (insightId : InsightId)
  | read (insightId : InsightId)
  | wrote (insightId : InsightId) (loaded : AgentInsight) (decision : InsightDecision)

structure Findings where
  insights : Dict InsightId AgentInsight := .empty
  proposals : Dict ProposalId InsightProposal := .empty
  sessions : Dict SessionId AnswerPhase := .empty

/-- What the flush leaves of a finding loaded so. -/
def AgentInsight.answered (insight loaded : AgentInsight) : AgentInsight :=
  if loaded.state = .accepted then { insight with state := .actedOn } else insight

inductive AnswerLabel where
  | start (session : SessionId) (insightId : InsightId)
  | read (session : SessionId)
  | call (session : SessionId) (insightId : InsightId)
  | write (session : SessionId) (decision : InsightDecision)
  | commit (session : SessionId) (proposalId : ProposalId)
  | drop (session : SessionId)

/-- What a session does next. The lock on the finding's row only delays a second flush. -/
inductive AnswerStep (s : Findings) : AnswerLabel → Findings → Prop where
  | start {sid insightId} (new : s.sessions.get? sid = none)
      (allowed : actionable (s.insights.get? insightId) = .ok ()) :
      AnswerStep s (.start sid insightId)
        { s with sessions := s.sessions.set sid (.opened insightId) }
  -- the `read` step of the action run
  | read {sid insightId insight} (phase : s.sessions.get? sid = some (.opened insightId))
      (found : s.insights.get? insightId = some insight) (accepted : insight.state = .accepted) :
      AnswerStep s (.read sid) { s with sessions := s.sessions.set sid (.read insightId) }
  -- `_accepted_insight` of a tool call
  | call {sid insightId insight} (new : s.sessions.get? sid = none)
      (found : s.insights.get? insightId = some insight) (accepted : insight.state = .accepted) :
      AnswerStep s (.call sid insightId) { s with sessions := s.sessions.set sid (.read insightId) }
  -- the session still holds the finding as it read it, or loads it again
  | write {sid insightId insight loaded decision}
      (phase : s.sessions.get? sid = some (.read insightId))
      (found : s.insights.get? insightId = some insight)
      (load : loaded = insight ∨ loaded = { insight with state := .accepted }) :
      AnswerStep s (.write sid decision)
        { s with sessions := s.sessions.set sid (.wrote insightId loaded decision) }
  | commit {sid insightId insight loaded decision proposalId}
      (phase : s.sessions.get? sid = some (.wrote insightId loaded decision))
      (found : s.insights.get? insightId = some insight)
      (new : s.proposals.get? proposalId = none) :
      AnswerStep s (.commit sid proposalId)
        { insights := s.insights.set insightId (insight.answered loaded)
          proposals := s.proposals.set proposalId (proposalOf insightId loaded decision)
          sessions := s.sessions.erase sid }
  -- refused, or failed and rolled back
  | drop {sid} : AnswerStep s (.drop sid) { s with sessions := s.sessions.erase sid }

/-! ## One answer -/

/-- Each finding has at most one proposal, and is acted on when it has one. -/
structure OneAnswer (s : Findings) : Prop where
  single : ∀ id id' p p', s.proposals.get? id = some p → s.proposals.get? id' = some p' →
    p.insightId = p'.insightId → id = id'
  settled : ∀ id p, s.proposals.get? id = some p →
    ∃ insight, s.insights.get? p.insightId = some insight ∧ insight.state = .actedOn

/-- The condition on a commit: nobody answered the finding since the session read it. -/
def StillAccepted (s : Findings) : AnswerLabel → Prop
  | .commit sid _ => ∀ insightId loaded decision insight,
      s.sessions.get? sid = some (.wrote insightId loaded decision) →
      s.insights.get? insightId = some insight → insight.state = .accepted
  | _ => True

/-- The finding a session has seen accepted. -/
def AnswerPhase.seen : AnswerPhase → Option InsightId
  | .opened _ => none
  | .read insightId => some insightId
  | .wrote insightId _ _ => some insightId

/-- A finding somebody has seen accepted is so still, or has an answer. -/
def Seen (s : Findings) (insightId : InsightId) : Prop :=
  ∀ insight, s.insights.get? insightId = some insight →
    insight.state = .accepted ∨ ∃ id p, s.proposals.get? id = some p ∧ p.insightId = insightId

/-- A session that loaded the finding other than accepted was late. -/
def Late (s : Findings) (insightId : InsightId) (loaded : AgentInsight) : Prop :=
  ∀ insight, s.insights.get? insightId = some insight → loaded.state ≠ .accepted →
    insight.state ≠ .accepted

structure AnswerInv (s : Findings) : Prop where
  one : OneAnswer s
  seen : ∀ sid phase insightId, s.sessions.get? sid = some phase → phase.seen = some insightId →
    Seen s insightId
  late : ∀ sid insightId loaded decision,
    s.sessions.get? sid = some (.wrote insightId loaded decision) → Late s insightId loaded

variable {s t : Findings} {label : AnswerLabel} {ls : List AnswerLabel} {sid : SessionId}
  {insightId id : InsightId} {insight loaded : AgentInsight} {decision : InsightDecision}
  {proposalId : ProposalId} {phase : AnswerPhase}

lemma answered_state : (insight.answered loaded).state = .accepted →
    insight.state = .accepted ∧ loaded.state ≠ .accepted := by
  rw [AgentInsight.answered]
  split
  · nofun
  · rename_i other
    exact fun accepted => ⟨accepted, other⟩

/-- The tables alone count. -/
lemma OneAnswer.sessions (one : OneAnswer s) (sessions : Dict SessionId AnswerPhase) :
    OneAnswer { s with sessions := sessions } :=
  ⟨one.single, one.settled⟩

/-- A session that goes on leaves the tables as they are. -/
lemma AnswerInv.proceed (inv : AnswerInv s) (seen : ∀ insightId, phase.seen = some insightId →
      Seen s insightId)
    (late : ∀ insightId loaded decision, phase = .wrote insightId loaded decision →
      Late s insightId loaded) :
    AnswerInv { s with sessions := s.sessions.set sid phase } where
  one := inv.one.sessions _
  seen other phase' insightId there mine := by
    simp only [Dict.get?_set] at there
    split at there
    · cases there
      exact seen insightId mine
    · exact inv.seen other phase' insightId there mine
  late other insightId loaded decision there := by
    simp only [Dict.get?_set] at there
    split at there
    · cases there
      exact late insightId loaded decision rfl
    · exact inv.late other insightId loaded decision there

/-- So does one that ends without a commit. -/
lemma AnswerInv.drop (inv : AnswerInv s) :
    AnswerInv { s with sessions := s.sessions.erase sid } where
  one := inv.one.sessions _
  seen other phase insightId there mine := by
    simp only [Dict.get?_erase] at there
    split at there
    · cases there
    · exact inv.seen other phase insightId there mine
  late other insightId loaded decision there := by
    simp only [Dict.get?_erase] at there
    split at there
    · cases there
    · exact inv.late other insightId loaded decision there

/-- After a commit every finding that was seen accepted is so still, or has an answer. -/
lemma Seen.commit (before : Seen s id) (new : s.proposals.get? proposalId = none)
    (rows : t.insights = s.insights.set insightId (insight.answered loaded))
    (added : t.proposals = s.proposals.set proposalId (proposalOf insightId loaded decision)) :
    Seen t id := by
  intro row there
  by_cases same : id = insightId
  · refine .inr ⟨proposalId, proposalOf insightId loaded decision, ?_, same.symm⟩
    rw [added, Dict.get?_set_self]
  · rw [rows, Dict.get?_set_ne _ _ same] at there
    rcases before row there with accepted | ⟨other, p, filed, about⟩
    · exact .inl accepted
    · refine .inr ⟨other, p, ?_, about⟩
      rw [added, Dict.get?_set_ne]
      · exact filed
      · intro clash
        rw [clash, new] at filed
        cases filed

lemma Late.commit {loaded' : AgentInsight} (before : Late s id loaded')
    (found : s.insights.get? insightId = some insight)
    (rows : t.insights = s.insights.set insightId (insight.answered loaded)) : Late t id loaded' := by
  intro row there late accepted
  rw [rows, Dict.get?_set] at there
  split at there
  · rename_i same
    subst same
    cases there
    exact before insight found late (answered_state accepted).1
  · exact before row there late accepted

/-- The proposals after a commit. -/
lemma OneAnswer.commit (one : OneAnswer s) (found : s.insights.get? insightId = some insight)
    (accepted : insight.state = .accepted) (loadedSo : loaded.state = .accepted)
    (rows : t.insights = s.insights.set insightId (insight.answered loaded))
    (added : t.proposals = s.proposals.set proposalId (proposalOf insightId loaded decision)) :
    OneAnswer t := by
  have unanswered : ∀ id p, s.proposals.get? id = some p → p.insightId ≠ insightId := by
    intro id p filed about
    obtain ⟨row, there, acted⟩ := one.settled id p filed
    rw [about, found] at there
    cases there
    rw [accepted] at acted
    cases acted
  have back : ∀ id p, t.proposals.get? id = some p →
      id = proposalId ∧ p.insightId = insightId ∨ s.proposals.get? id = some p := by
    intro id p filed
    rw [added, Dict.get?_set] at filed
    split at filed
    · rename_i same
      cases filed
      exact .inl ⟨same, rfl⟩
    · exact .inr filed
  constructor
  · intro id id' p p' filed filed' about
    rcases back id p filed with ⟨first, mine⟩ | earlier
    · rcases back id' p' filed' with ⟨second, _⟩ | earlier'
      · rw [first, second]
      · exact absurd (about.symm.trans mine) (unanswered id' p' earlier')
    · rcases back id' p' filed' with ⟨_, mine⟩ | earlier'
      · exact absurd (about.trans mine) (unanswered id p earlier)
      · exact one.single id id' p p' earlier earlier' about
  · intro id p filed
    rw [rows]
    rcases back id p filed with ⟨_, mine⟩ | earlier
    · refine ⟨insight.answered loaded, ?_, ?_⟩
      · rw [mine, Dict.get?_set_self]
      · rw [AgentInsight.answered, if_pos loadedSo]
    · rw [Dict.get?_set_ne _ _ (unanswered id p earlier)]
      exact one.settled id p earlier

/-- A second answer is one too many. -/
lemma not_oneAnswer_of_answered {other : ProposalId} {p : InsightProposal}
    (filed : s.proposals.get? other = some p) (about : p.insightId = insightId)
    (new : s.proposals.get? proposalId = none)
    (added : t.proposals = s.proposals.set proposalId (proposalOf insightId loaded decision)) :
    ¬ OneAnswer t := by
  intro one
  have ne : other ≠ proposalId := by
    intro clash
    rw [clash, new] at filed
    cases filed
  have kept : t.proposals.get? other = some p := by
    rw [added, Dict.get?_set_ne _ _ ne]
    exact filed
  have own : t.proposals.get? proposalId = some (proposalOf insightId loaded decision) := by
    rw [added, Dict.get?_set_self]
  exact ne (one.single _ _ _ _ kept own about)

/-- A step leaves one answer to each finding exactly when it meets the condition. -/
lemma stillAccepted_iff (inv : AnswerInv s) (st : AnswerStep s label t) :
    StillAccepted s label ↔ OneAnswer t := by
  cases st with
  | start _ _ => exact iff_of_true trivial (inv.one.sessions _)
  | read _ _ _ => exact iff_of_true trivial (inv.one.sessions _)
  | call _ _ _ => exact iff_of_true trivial (inv.one.sessions _)
  | write _ _ _ => exact iff_of_true trivial (inv.one.sessions _)
  | drop => exact iff_of_true trivial (inv.one.sessions _)
  | commit phase found new =>
    constructor
    · intro still
      have accepted := still _ _ _ _ phase found
      refine inv.one.commit found accepted ?_ rfl rfl
      by_contra late
      exact inv.late _ _ _ _ phase _ found late accepted
    · intro one insightId loaded decision insight phase' found'
      cases phase.symm.trans phase'
      cases found.symm.trans found'
      rcases inv.seen _ _ _ phase rfl _ found with accepted | ⟨other, p, filed, about⟩
      · exact accepted
      · exact absurd one (not_oneAnswer_of_answered filed about new rfl)

lemma AnswerStep.keeps (inv : AnswerInv s) (st : AnswerStep s label t) (one : OneAnswer t) :
    AnswerInv t := by
  cases st with
  | start _ _ => exact inv.proceed nofun nofun
  | read phase found accepted =>
    refine inv.proceed (fun insightId mine row there => ?_) nofun
    cases mine
    cases found.symm.trans there
    exact .inl accepted
  | call _ found accepted =>
    refine inv.proceed (fun insightId mine row there => ?_) nofun
    cases mine
    cases found.symm.trans there
    exact .inl accepted
  | @write sid insightId insight loaded decision phase found load =>
    refine inv.proceed (fun id mine => ?_) (fun id loaded' decision' same => ?_)
    · cases mine
      exact inv.seen _ _ _ phase rfl
    · cases same
      intro row there late
      cases found.symm.trans there
      rcases load with rfl | rfl
      · exact late
      · exact absurd rfl late
  | drop => exact inv.drop
  | commit phase found new =>
    refine ⟨one, fun other phase' id there mine => ?_, fun other id loaded' decision' there => ?_⟩
    · simp only [Dict.get?_erase] at there
      split at there
      · cases there
      · exact (inv.seen other phase' id there mine).commit new rfl rfl
    · simp only [Dict.get?_erase] at there
      split at there
      · cases there
      · exact (inv.late other id loaded' decision' there).commit found rfl

lemma answerInv_start (one : OneAnswer s) (idle : s.sessions = .empty) : AnswerInv s where
  one := one
  seen sid phase insightId there := by
    rw [idle] at there
    cases there
  late sid insightId loaded decision there := by
    rw [idle] at there
    cases there

/-- The interleavings that leave at most one proposal to each finding, which is acted on from then on, are
    those in which each answer is committed while the finding is still accepted. -/
theorem one_answer_iff (one : OneAnswer s) (idle : s.sessions = .empty) :
    Run (Guarded StillAccepted AnswerStep) s ls t ↔
      Run (Respecting (fun _ => OneAnswer) AnswerStep) s ls t := by
  apply Run.guarded_iff_respecting (answerInv_start one idle)
  · exact fun _ _ _ inv st => st.keeps inv
  · exact fun _ _ _ => stillAccepted_iff

/-! ## Two answers -/

def oneFinding : Findings where
  insights := .ofList [(4, { kind := .risk, groupName := "gone quiet", state := .accepted })]

def doNothing : InsightDecision where
  actionCode := "do_nothing"
  reason := "leave them"
  members := []
  skipReasons := .empty

lemma oneAnswer_oneFinding : OneAnswer oneFinding := ⟨nofun, nofun⟩

/-- One run and its answer. -/
theorem one_answer_run : ∃ t, Run (Respecting (fun _ => OneAnswer) AnswerStep) oneFinding
    [.start 1 4, .read 1, .write 1 doNothing, .commit 1 9] t := by
  have r : ∃ t, Run (Guarded StillAccepted AnswerStep) oneFinding
      [.start 1 4, .read 1, .write 1 doNothing, .commit 1 9] t := by
    refine ⟨_, .snoc (.snoc (.snoc (.single ⟨trivial, .start rfl rfl⟩) ⟨trivial, .read rfl rfl rfl⟩)
      ⟨trivial, .write rfl rfl (.inl rfl)⟩) ⟨?accepted, .commit rfl rfl rfl⟩⟩
    case accepted =>
      intro insightId loaded decision insight phase found
      cases phase
      cases found
      rfl
  obtain ⟨t, r⟩ := r
  exact ⟨t, (one_answer_iff oneAnswer_oneFinding rfl).mp r⟩

/-- Two runs that both read the finding before either answers. -/
theorem two_answers : ¬ ∀ (s t : Findings) (ls : List AnswerLabel), OneAnswer s →
    s.sessions = .empty → Run AnswerStep s ls t → OneAnswer t := by
  intro claim
  have r : Run AnswerStep oneFinding
      [.start 1 4, .start 2 4, .read 1, .read 2, .write 1 doNothing, .commit 1 9, .write 2 doNothing,
        .commit 2 10] _ :=
    .snoc (.snoc (.snoc (.snoc (.snoc (.snoc (.snoc (.single (.start rfl rfl)) (.start rfl rfl))
      (.read rfl rfl rfl)) (.read rfl rfl rfl)) (.write rfl rfl (.inl rfl))) (.commit rfl rfl rfl))
      (.write rfl rfl (.inl rfl))) (.commit rfl rfl rfl)
  have one := claim _ _ _ oneAnswer_oneFinding rfl r
  cases one.single 9 10 _ _ rfl rfl rfl

end ClientEngagement.Insights
