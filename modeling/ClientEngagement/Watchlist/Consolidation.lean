import ClientEngagement.Lib.Results
import ClientEngagement.Watchlist.Gates

/-!
# One action per client fund

Model of the two writers of a night's proposals: `propose_watchlist` (`agents/propose.py`), which takes each
group's action from the rule table, and the steps `choose`, `check` and `propose` of the agent loop
(`agents/agent_loop.py`), where the model chooses. The groups overlap. The first writer leaves a client fund
in the most urgent of its groups only (`situationWinners`), the second does not look at the other groups:
`one_action_per_fund` says exactly when its proposals take each client fund once.
-/

namespace ClientEngagement.Watchlist
open Agents (GroupMember doNothingAction)
open Risk (ClientId FundKey)

inductive GroupName where
  | signedUpRecently
  | feePressureGoneQuiet
  | feePressureActiveContributor
  | verySmallAndQuiet
  | gettingSmaller
  | healthyOneFund
  | waitingOnACall
  | moreUrgentButNotCalled
deriving DecidableEq

def GroupName.text : GroupName → String
  | .signedUpRecently => "signed_up_recently"
  | .feePressureGoneQuiet => "fee_pressure_gone_quiet"
  | .feePressureActiveContributor => "fee_pressure_active_contributor"
  | .verySmallAndQuiet => "very_small_and_quiet"
  | .gettingSmaller => "getting_smaller"
  | .healthyOneFund => "healthy_one_fund"
  | .waitingOnACall => "waiting_on_a_call"
  | .moreUrgentButNotCalled => "more_urgent_but_not_called"

/-- `GROUP_NAMES`, in the order of `GROUP_FILTERS`. -/
def groupNames : List GroupName :=
  [.signedUpRecently, .feePressureGoneQuiet, .feePressureActiveContributor, .verySmallAndQuiet,
    .gettingSmaller, .healthyOneFund, .waitingOnACall, .moreUrgentButNotCalled]

/-- `GROUP_TO_SITUATION`. -/
def groupToSituation : GroupName → String
  | .signedUpRecently => "new_client_single_deposit"
  | .feePressureGoneQuiet => "fee_pressure_gone_quiet"
  | .feePressureActiveContributor => "fee_pressure_active_contributor"
  | .verySmallAndQuiet => "small_balance_inactive"
  | .gettingSmaller => "contribution_decline"
  | .healthyOneFund => "single_fund_healthy"
  | .waitingOnACall => "follow_up_overdue"
  | .moreUrgentButNotCalled => "risk_action_gap"

/-- `GROUP_ACTIONS`. -/
def groupActions : GroupName → String
  | .signedUpRecently => "welcome_and_top_up"
  | .feePressureGoneQuiet => "fee_pressure_warning_dormant"
  | .feePressureActiveContributor => "fee_pressure_encourage_active"
  | .verySmallAndQuiet => "start_win_back"
  | .gettingSmaller => "ask_what_changed"
  | .healthyOneFund => secondFundAction
  | .waitingOnACall => "follow_up_when_no_one_called"
  | .moreUrgentButNotCalled => "check_in_rising_risk"

/-- `SITUATION_PRIORITY`. -/
def situationPriority : List GroupName :=
  [.moreUrgentButNotCalled, .waitingOnACall, .feePressureGoneQuiet, .feePressureActiveContributor,
    .gettingSmaller, .verySmallAndQuiet, .signedUpRecently, .healthyOneFund]

structure WatchGroup where
  name : GroupName
  members : List GroupMember := []

/-- What the eight filters find on a day. -/
abbrev Book := GroupName → List GroupMember

def buildWatchlist (book : Book) : List WatchGroup := groupNames.map fun name => ⟨name, book name⟩

/-! ## The rule table -/

/-- `winners.setdefault` for each member of a group. -/
def settle (name : GroupName) (winners : Dict FundKey GroupName) (members : List GroupMember) :
    Dict FundKey GroupName :=
  members.foldl (fun winners member =>
    if winners.contains member.key then winners else winners.set member.key name) winners

/-- One turn of the loop over the situations. -/
def settleGroup (byName : Dict GroupName WatchGroup) (winners : Dict FundKey GroupName)
    (name : GroupName) : Dict FundKey GroupName :=
  match byName.get? name with
  | none => winners
  | some group => settle name winners group.members

/-- Which one group wins for each client fund. -/
def situationWinners (groups : List WatchGroup) : Dict FundKey GroupName :=
  situationPriority.foldl (settleGroup (.ofList (groups.map fun group => (group.name, group)))) .empty

def consolidatedIntoAnotherSituation : String := "consolidated_into_another_situation"

/-- The published mapping first, the fixed table where it says nothing. -/
def defaultActionCodeForGroup (facts : GateFacts) (name : GroupName) : String :=
  ((facts.mappings.find? (·.1 = groupToSituation name)).map Prod.snd).getD (groupActions name)

/-- A client fund's row of a proposal. -/
structure ProposalClient where
  key : FundKey
  included : Bool
  skipReason : Option String

structure NightProposal where
  groupName : GroupName
  action : ActionRow
  reason : String
  clients : List ProposalClient

/-- The loop over the groups. -/
def proposeAll {ε : Type} (propose : WatchGroup → Except ε (Option NightProposal)) :
    List WatchGroup → Except ε (List NightProposal)
  | [] => .ok []
  | group :: rest =>
    (propose group).bind fun made => (proposeAll propose rest).map fun later => made.toList ++ later

/-- The rows both writers store: in without a reason, out with it. -/
def clientRows (members : List GroupMember) (skipReasons : Dict FundKey (Option String)) :
    List ProposalClient :=
  members.map fun member =>
    let reason := (skipReasons.get? member.key).join
    { key := member.key, included := reason.isNone, skipReason := reason }

/-- The reasons with the client funds of other groups consolidated away. -/
def consolidate (winners : Dict FundKey GroupName) (group : WatchGroup)
    (skipReasons : Dict FundKey (Option String)) : Dict FundKey (Option String) :=
  group.members.foldl (fun reasons member =>
    if winners.get? member.key ≠ some group.name then
      reasons.set member.key (some consolidatedIntoAnotherSituation)
    else reasons) skipReasons

def includedMembers (members : List GroupMember) (skipReasons : Dict FundKey (Option String)) :
    List GroupMember :=
  members.filter fun member => (skipReasons.get? member.key).join = none

/-- How many separate clients the members are. -/
def clientCount (members : List GroupMember) : ℕ := (members.map GroupMember.clientId).dedup.length

/-- `_reason`. -/
def ruleReason (action : ActionRow) (name : GroupName) (included total : ℕ) : String :=
  if action.actionCode = doNothingAction then
    "Every one of the " ++ toString total ++ " clients in '" ++ name.text ++
      "' was left out by a check, so nothing is sent tonight."
  else
    action.title ++ " fits this group: " ++ action.who ++ ". " ++ toString included ++
      " clients qualify" ++
      (if total - included = 0 then ""
        else ", " ++ toString (total - included) ++ " left out by the checks") ++ "."

def proposeGroup (facts : GateFacts) (winners : Dict FundKey GroupName) (group : WatchGroup) :
    Except ProposalActionMissing (Option NightProposal) :=
  if group.members = [] then .ok none
  else
    (loadActionOrRaise facts (defaultActionCodeForGroup facts group.name)).bind fun mapped =>
      let skipReasons := consolidate winners group (groupSkipReasons facts group.members mapped)
      (if includedMembers group.members skipReasons = [] then loadActionOrRaise facts doNothingAction
        else .ok mapped).map fun action =>
          some
            { groupName := group.name
              action
              reason := ruleReason action group.name
                (clientCount (includedMembers group.members skipReasons)) (clientCount group.members)
              clients := clientRows group.members skipReasons }

def proposeWatchlist (facts : GateFacts) (book : Book) :
    Except ProposalActionMissing (List NightProposal) :=
  proposeAll (proposeGroup facts (situationWinners (buildWatchlist book))) (buildWatchlist book)

/-! ## The agent loop -/

/-- A `choose_action` call of the model. -/
structure AgentChoice where
  groupName : String
  actionCode : String
  angle : Option String
  reason : String

/-- One attempt at the choose step: its calls, and whether it ended with a final answer. -/
structure Attempt where
  calls : List AgentChoice
  finalAnswer : Bool

/-- The group a call is recorded for, unless it is refused. -/
def chosenGroup (actions : Dict String ActionRow) (candidates : List GroupName) (call : AgentChoice) :
    Option GroupName :=
  (candidates.find? (·.text = call.groupName)).filter fun _ =>
    (actions.get? call.actionCode).any (·.messageAngle = call.angle) ∧ ¬ Rules.isBlank call.reason

/-- `choose_action`: a later call for a group replaces the earlier one. -/
def chooseAction (actions : Dict String ActionRow) (candidates : List GroupName)
    (choices : Dict GroupName AgentChoice) (call : AgentChoice) : Dict GroupName AgentChoice :=
  match chosenGroup actions candidates call with
  | none => choices
  | some name => choices.set name call

/-- The choices of the first attempt that settles, if one of the allowed attempts does. -/
def choose (actions : Dict String ActionRow) (candidates : List GroupName) (maxAttempts : ℕ)
    (attempts : List Attempt) : Dict GroupName AgentChoice :=
  match (attempts.take maxAttempts).find? Attempt.finalAnswer with
  | none => .empty
  | some attempt => attempt.calls.foldl (chooseAction actions candidates) .empty

def notSelectedTonight : String := "not_selected_tonight"

/-- `MUST_REACH_OUT_GROUPS`. -/
def mustReachOutGroups : List GroupName :=
  [.verySmallAndQuiet, .gettingSmaller, .healthyOneFund, .moreUrgentButNotCalled,
    .feePressureGoneQuiet, .feePressureActiveContributor]

/-- `NO_MESSAGE_ACTIONS`. -/
def noMessageActions : List String := [doNothingAction, "watch_for_now"]

/-- The group's own default, where the model may not leave the group alone. -/
def requiredAction (facts : GateFacts) (name : GroupName) (chosen : Option String) : Option String :=
  if name ∈ mustReachOutGroups ∧ chosen.all (· ∈ noMessageActions) then
    (some (defaultActionCodeForGroup facts name)).filter fun code =>
      code ∉ noMessageActions ∧ (facts.actions.get? code).isSome
  else none

/-- The action code a group goes on with; none when it is left alone. -/
def actionCodeFor (facts : GateFacts) (name : GroupName) (choice : Option AgentChoice) :
    Option String :=
  (requiredAction facts name (choice.map AgentChoice.actionCode)).or
    ((choice.map AgentChoice.actionCode).filter (· ≠ doNothingAction))

/-- What the check step decides for a group: the action to propose, and who is left out. -/
structure GroupDecision where
  action : ActionRow
  reason : String
  skipReasons : Dict FundKey (Option String)

/-- Why a group goes on with an action: the model's reason, unless the required action took its place. -/
def decisionReason (facts : GateFacts) (name : GroupName) (choice : Option AgentChoice)
    (chosen : ActionRow) : String :=
  if (requiredAction facts name (choice.map AgentChoice.actionCode)).isSome then
    chosen.title ++ " is this group's required outreach action; the model chose not to send anything " ++
      "tonight, so this fixed default was used instead."
  else (choice.map AgentChoice.reason).getD ""

def checkGroup (facts : GateFacts) (choices : Dict GroupName AgentChoice) (group : WatchGroup) :
    Except ProposalActionMissing GroupDecision :=
  match actionCodeFor facts group.name (choices.get? group.name) with
  | none =>
    (loadActionOrRaise facts doNothingAction).map fun action =>
      { action
        reason := ((choices.get? group.name).map AgentChoice.reason).getD
          "the model did not choose an action for this group tonight"
        skipReasons := .ofList (group.members.map fun member => (member.key, some notSelectedTonight)) }
  | some code =>
    (loadActionOrRaise facts code).bind fun chosen =>
      let skipReasons := groupSkipReasons facts group.members chosen
      (if includedMembers group.members skipReasons = [] then loadActionOrRaise facts doNothingAction
        else .ok chosen).map fun action =>
          { action
            reason := decisionReason facts group.name (choices.get? group.name) chosen
            skipReasons }

def proposalFor (facts : GateFacts) (choices : Dict GroupName AgentChoice) (group : WatchGroup) :
    Except ProposalActionMissing (Option NightProposal) :=
  if group.members = [] then .ok none
  else (checkGroup facts choices group).map fun decision =>
    some
      { groupName := group.name
        action := decision.action
        reason := decision.reason
        clients := clientRows group.members decision.skipReasons }

/-- The groups that hold somebody. -/
def candidateNames (book : Book) : List GroupName := groupNames.filter fun name => book name ≠ []

/-- The proposals of a run. `actions` are those that could be selected when the run gathered its groups. -/
def nightlyProposals (facts : GateFacts) (actions : Dict String ActionRow) (book : Book)
    (maxAttempts : ℕ) (attempts : List Attempt) : Except ProposalActionMissing (List NightProposal) :=
  proposeAll (proposalFor facts (choose actions (candidateNames book) maxAttempts attempts))
    (buildWatchlist book)

/-! ## One action -/

/-- The first group by priority that holds a client fund. -/
def firstHolding (book : Book) (key : FundKey) : Option GroupName :=
  situationPriority.find? fun name => (book name).any (·.key = key)

/-- A proposal takes a client fund in. -/
def Includes (proposal : NightProposal) (key : FundKey) : Prop :=
  ∃ row ∈ proposal.clients, row.key = key ∧ row.included = true

structure OneAction (book : Book) (proposals : List NightProposal) : Prop where
  single : proposals.Pairwise fun p q => ∀ key, ¬ (Includes p key ∧ Includes q key)
  first : ∀ p ∈ proposals, ∀ key, Includes p key → firstHolding book key = some p.groupName
  excluded : ∀ p ∈ proposals, ∀ row ∈ p.clients, row.included = false → row.skipReason.isSome = true

/-- The condition on a night: whom the checks leave in a group's action, no more urgent group holds. -/
def Unopposed (facts : GateFacts) (book : Book) (choices : Dict GroupName AgentChoice) : Prop :=
  ∀ name code action, actionCodeFor facts name (choices.get? name) = some code →
    facts.actions.get? code = some action →
    ∀ member ∈ book name, skipReason facts action member = none →
      firstHolding book member.key = some name

variable {facts : GateFacts} {book : Book} {group : WatchGroup} {groups : List WatchGroup}
  {proposals : List NightProposal} {p : NightProposal} {key : FundKey} {name : GroupName}
  {members : List GroupMember} {reasons : Dict FundKey (Option String)} {member : GroupMember}

/-! ### The loop over the groups -/

section Loop
variable {ε : Type} {propose : WatchGroup → Except ε (Option NightProposal)}

lemma mem_proposeAll (ran : proposeAll propose groups = .ok proposals) (mem : p ∈ proposals) :
    ∃ group ∈ groups, propose group = .ok (some p) := by
  induction groups generalizing proposals with
  | nil =>
    cases ran
    cases mem
  | cons group rest ih =>
    obtain ⟨made, first, ran⟩ := bind_eq_ok.mp ran
    obtain ⟨later, after, rfl⟩ := map_eq_ok.mp ran
    rcases List.mem_append.mp mem with here | there
    · refine ⟨group, .head _, ?_⟩
      rw [first, Option.mem_toList.mp here]
    · obtain ⟨other, listed, made⟩ := ih after there
      exact ⟨other, .tail _ listed, made⟩

/-- A loop that ran asked every group, and kept what was made. -/
lemma proposeAll_asked (ran : proposeAll propose groups = .ok proposals) (mem : group ∈ groups) :
    ∃ made, propose group = .ok made ∧ ∀ p ∈ made, p ∈ proposals := by
  induction groups generalizing proposals with
  | nil => cases mem
  | cons first rest ih =>
    obtain ⟨made, asked, ran⟩ := bind_eq_ok.mp ran
    obtain ⟨later, after, rfl⟩ := map_eq_ok.mp ran
    cases mem with
    | head =>
      refine ⟨made, asked, fun p mine => ?_⟩
      exact List.mem_append_left _ (Option.mem_toList.mpr mine)
    | tail _ there =>
      obtain ⟨made', asked', kept⟩ := ih after there
      exact ⟨made', asked', fun p mine => List.mem_append_right _ (kept p mine)⟩

lemma names_proposeAll (own : ∀ group p, propose group = .ok (some p) → p.groupName = group.name)
    (ran : proposeAll propose groups = .ok proposals) :
    List.Sublist (proposals.map NightProposal.groupName) (groups.map WatchGroup.name) := by
  induction groups generalizing proposals with
  | nil =>
    cases ran
    exact .slnil
  | cons group rest ih =>
    obtain ⟨made, asked, ran⟩ := bind_eq_ok.mp ran
    obtain ⟨later, after, rfl⟩ := map_eq_ok.mp ran
    rw [List.map_append, List.map_cons]
    cases made with
    | none => exact (ih after).cons _
    | some p =>
      rw [← own group p asked]
      exact (ih after).cons_cons _

end Loop

lemma mem_buildWatchlist : group ∈ buildWatchlist book ↔ group = ⟨group.name, book group.name⟩ := by
  rw [buildWatchlist, List.mem_map]
  constructor
  · intro ⟨name, _, same⟩
    rw [← same]
  · intro same
    refine ⟨group.name, ?_, same.symm⟩
    cases group.name <;> decide

lemma names_buildWatchlist (book : Book) : (buildWatchlist book).map WatchGroup.name = groupNames := by
  rw [buildWatchlist, List.map_map]
  exact List.map_id _

lemma nodup_groupNames : groupNames.Nodup := by decide

/-- With one proposal a group, each client fund in the first group that holds it is in one proposal. -/
lemma oneAction_of {propose : WatchGroup → Except ProposalActionMissing (Option NightProposal)}
    (own : ∀ group p, propose group = .ok (some p) → p.groupName = group.name)
    (ran : proposeAll propose (buildWatchlist book) = .ok proposals)
    (first : ∀ p ∈ proposals, ∀ key, Includes p key → firstHolding book key = some p.groupName)
    (excluded : ∀ p ∈ proposals, ∀ row ∈ p.clients, row.included = false → row.skipReason.isSome = true) :
    OneAction book proposals := by
  refine ⟨?_, first, excluded⟩
  have names : (proposals.map NightProposal.groupName).Nodup := by
    apply (names_proposeAll own ran).nodup
    rw [names_buildWatchlist]
    exact nodup_groupNames
  rw [List.Nodup, List.pairwise_map] at names
  refine names.imp_of_mem fun mem mem' apart key both => apart ?_
  exact Option.some_inj.mp ((first _ mem key both.1).symm.trans (first _ mem' key both.2))

/-! ### The rows -/

lemma includes_clientRows {action : ActionRow} {reason : String} :
    Includes ⟨name, action, reason, clientRows members reasons⟩ key ↔
      ∃ member ∈ members, member.key = key ∧ (reasons.get? key).join = none := by
  constructor
  · rintro ⟨row, mem, rfl, inside⟩
    obtain ⟨member, listed, rfl⟩ := List.mem_map.mp mem
    exact ⟨member, listed, rfl, Option.isNone_iff_eq_none.mp inside⟩
  · rintro ⟨member, listed, rfl, passed⟩
    exact ⟨_, List.mem_map_of_mem listed, rfl, Option.isNone_iff_eq_none.mpr passed⟩

lemma excluded_clientRows {row : ProposalClient} (mem : row ∈ clientRows members reasons)
    (out : row.included = false) : row.skipReason.isSome = true := by
  obtain ⟨member, _, rfl⟩ := List.mem_map.mp mem
  rwa [Option.isNone_eq_false_iff] at out

/-! ### The winners -/

lemma get?_settle {winners : Dict FundKey GroupName} :
    (settle name winners members).get? key =
      (winners.get? key).or (if members.any (·.key = key) then some name else none) := by
  induction members generalizing winners with
  | nil => simp [settle]
  | cons member rest ih =>
    rw [settle, List.foldl_cons, ← settle, ih, List.any_cons]
    by_cases same : member.key = key
    · subst same
      cases held : winners.get? member.key with
      | none => simp [Dict.contains, held]
      | some other => simp [Dict.contains, held]
    · have other : key ≠ member.key := fun clash => same clash.symm
      split
      · simp [same]
      · simp [same, other]

lemma get?_byName : (Dict.ofList ((buildWatchlist book).map fun group => (group.name, group))).get?
    name = some ⟨name, book name⟩ := by
  rw [Dict.get?_ofList]
  · rw [List.mem_map]
    exact ⟨⟨name, book name⟩, mem_buildWatchlist.mpr rfl, rfl⟩
  · rw [List.map_map]
    exact (names_buildWatchlist book).symm ▸ nodup_groupNames

lemma get?_settleAll {names : List GroupName} {winners : Dict FundKey GroupName} :
    (names.foldl (settleGroup
      (.ofList ((buildWatchlist book).map fun group => (group.name, group)))) winners).get? key =
      (winners.get? key).or (names.find? fun name => (book name).any (·.key = key)) := by
  induction names generalizing winners with
  | nil => simp
  | cons name rest ih =>
    rw [List.foldl_cons, ih, settleGroup, get?_byName, List.find?_cons]
    simp only [get?_settle]
    cases held : (book name).any (·.key = key) with
    | true => simp
    | false => simp

/-- The winner is the first group that holds the client fund. -/
theorem get?_situationWinners :
    (situationWinners (buildWatchlist book)).get? key = firstHolding book key := by
  rw [situationWinners, get?_settleAll, Dict.get?_empty, Option.none_or, firstHolding]

lemma get?_consolidate {winners : Dict FundKey GroupName} (listed : key ∈ group.members.map GroupMember.key)
    (lost : winners.get? key ≠ some group.name) :
    (consolidate winners group reasons).get? key = some (some consolidatedIntoAnotherSituation) := by
  have pass : ∀ (ms : List GroupMember) (reasons : Dict FundKey (Option String)),
      key ∈ ms.map GroupMember.key ∨
        reasons.get? key = some (some consolidatedIntoAnotherSituation) →
      (ms.foldl (fun reasons member =>
        if winners.get? member.key ≠ some group.name then
          reasons.set member.key (some consolidatedIntoAnotherSituation)
        else reasons) reasons).get? key = some (some consolidatedIntoAnotherSituation) := by
    intro ms
    induction ms with
    | nil =>
      rintro reasons (none_left | there)
      · cases none_left
      · exact there
    | cons member rest ih =>
      intro reasons before
      rw [List.foldl_cons]
      apply ih
      by_cases same : key = member.key
      · subst same
        right
        rw [if_pos lost, Dict.get?_set_self]
      · rcases before with mem | there
        · rw [List.map_cons, List.mem_cons] at mem
          exact .inl (mem.resolve_left same)
        · right
          split
          · rw [Dict.get?_set_ne _ _ same, there]
          · exact there
  exact pass group.members reasons (.inl listed)

/-! ### The two writers -/

lemma proposeGroup_some {winners : Dict FundKey GroupName}
    (made : proposeGroup facts winners group = .ok (some p)) :
    ∃ action reason mapped, p = ⟨group.name, action, reason, clientRows group.members
      (consolidate winners group (groupSkipReasons facts group.members mapped))⟩ := by
  rw [proposeGroup] at made
  split at made
  · cases made
  · obtain ⟨mapped, _, made⟩ := bind_eq_ok.mp made
    obtain ⟨action, _, same⟩ := map_eq_ok.mp made
    cases same
    exact ⟨action, _, mapped, rfl⟩

/-- The rule table's proposals take each client fund once. -/
theorem proposeWatchlist_oneAction (ran : proposeWatchlist facts book = .ok proposals) :
    OneAction book proposals := by
  apply oneAction_of ?own ran
  case own =>
    intro group p made
    obtain ⟨action, reason, mapped, rfl⟩ := proposeGroup_some made
    rfl
  · intro p mem key inside
    obtain ⟨group, listed, made⟩ := mem_proposeAll ran mem
    obtain ⟨action, reason, mapped, rfl⟩ := proposeGroup_some made
    obtain ⟨member, among, rfl, passed⟩ := includes_clientRows.mp inside
    rw [← get?_situationWinners]
    by_contra lost
    rw [get?_consolidate (List.mem_map_of_mem among) lost] at passed
    cases passed
  · intro p mem row there out
    obtain ⟨group, listed, made⟩ := mem_proposeAll ran mem
    obtain ⟨action, reason, mapped, rfl⟩ := proposeGroup_some made
    exact excluded_clientRows there out

section Nightly
variable {choices : Dict GroupName AgentChoice}

lemma proposalFor_some (made : proposalFor facts choices group = .ok (some p)) :
    ∃ decision, checkGroup facts choices group = .ok decision ∧
      p = ⟨group.name, decision.action, decision.reason, clientRows group.members decision.skipReasons⟩ := by
  rw [proposalFor] at made
  split at made
  · cases made
  · obtain ⟨decision, checked, same⟩ := map_eq_ok.mp made
    cases same
    exact ⟨decision, checked, rfl⟩

/-- A group that holds somebody gets a proposal. -/
lemma proposalFor_made {made : Option NightProposal}
    (asked : proposalFor facts choices group = .ok made) (mem : member ∈ group.members) :
    ∃ p, made = some p := by
  rw [proposalFor, if_neg (List.ne_nil_of_mem mem)] at asked
  obtain ⟨decision, _, rfl⟩ := map_eq_ok.mp asked
  exact ⟨_, rfl⟩

/-- A member that the check leaves in passed the gate of the action its group went on with. -/
lemma passed_checkGroup {decision : GroupDecision} (checked : checkGroup facts choices group = .ok decision)
    (mem : member ∈ group.members) : (decision.skipReasons.get? member.key).join = none ↔
      ∃ code action, actionCodeFor facts group.name (choices.get? group.name) = some code ∧
        facts.actions.get? code = some action ∧ skipReason facts action member = none := by
  rw [checkGroup] at checked
  split at checked
  · rename_i alone
    obtain ⟨action, _, rfl⟩ := map_eq_ok.mp checked
    have out : (Dict.ofList (group.members.map fun member =>
        (member.key, some notSelectedTonight))).get? member.key = some (some notSelectedTonight) := by
      apply Dict.get?_foldl_set_of_agree
      · exact List.mem_map.mpr ⟨member, mem, rfl⟩
      · intro entry listed _
        obtain ⟨other, _, rfl⟩ := List.mem_map.mp listed
        rfl
    simp only [out, Option.join_some, reduceCtorEq, false_iff]
    rintro ⟨code, action, goes, _⟩
    rw [alone] at goes
    cases goes
  · rename_i code goes
    obtain ⟨chosen, loaded, checked⟩ := bind_eq_ok.mp checked
    obtain ⟨action, _, rfl⟩ := map_eq_ok.mp checked
    have found : facts.actions.get? code = some chosen := by
      rw [loadActionOrRaise] at loaded
      split at loaded
      · rename_i row there
        cases loaded
        exact there
      · cases loaded
    simp only [get?_groupSkipReasons mem, Option.join_some]
    constructor
    · exact fun passed => ⟨code, chosen, goes, found, passed⟩
    · rintro ⟨code', action', goes', found', passed⟩
      cases goes.symm.trans goes'
      cases found.symm.trans found'
      exact passed

lemma includes_proposalFor (made : proposalFor facts choices group = .ok (some p)) :
    Includes p key ↔ ∃ member ∈ group.members, member.key = key ∧ ∃ code action,
      actionCodeFor facts group.name (choices.get? group.name) = some code ∧
        facts.actions.get? code = some action ∧ skipReason facts action member = none := by
  obtain ⟨decision, checked, rfl⟩ := proposalFor_some made
  rw [includes_clientRows]
  refine exists_congr fun member => and_congr_right fun mem => and_congr_right fun same => ?_
  rw [← same]
  exact passed_checkGroup checked mem

end Nightly

/-- The agent loop's proposals take each client fund once exactly when nothing opposes them. -/
lemma nightlyProposals_oneAction {actions : Dict String ActionRow} {maxAttempts : ℕ}
    {attempts : List Attempt}
    (ran : nightlyProposals facts actions book maxAttempts attempts = .ok proposals) :
    OneAction book proposals ↔
      Unopposed facts book (choose actions (candidateNames book) maxAttempts attempts) := by
  constructor
  · intro one name code action goes found member mem passed
    have asked : (⟨name, book name⟩ : WatchGroup) ∈ buildWatchlist book := mem_buildWatchlist.mpr rfl
    obtain ⟨made, asked, kept⟩ := proposeAll_asked ran asked
    obtain ⟨p, rfl⟩ := proposalFor_made asked mem
    have inside : Includes p member.key :=
      (includes_proposalFor asked).mpr ⟨member, mem, rfl, code, action, goes, found, passed⟩
    obtain ⟨decision, _, rfl⟩ := proposalFor_some asked
    exact one.first _ (kept _ rfl) _ inside
  · intro unopposed
    apply oneAction_of ?own ran
    case own =>
      intro group p made
      obtain ⟨decision, _, rfl⟩ := proposalFor_some made
      rfl
    · intro p mem key inside
      obtain ⟨group, among, made⟩ := mem_proposeAll ran mem
      obtain ⟨member, listed, rfl, code, action, goes, found, passed⟩ :=
        (includes_proposalFor made).mp inside
      obtain ⟨decision, _, rfl⟩ := proposalFor_some made
      rw [mem_buildWatchlist.mp among] at listed
      exact unopposed group.name code action goes found member listed passed
    · intro p mem row there out
      obtain ⟨group, among, made⟩ := mem_proposeAll ran mem
      obtain ⟨decision, _, rfl⟩ := proposalFor_some made
      exact excluded_clientRows there out

/-- The agent loop's proposals of a night take each client fund in once, in the first group by priority that
    holds it, exactly when whom the checks leave in a group's action no more urgent group holds; those of the
    rule table always do. -/
theorem one_action_per_fund {rules : GateFacts} {actions : Dict String ActionRow} {maxAttempts : ℕ}
    {attempts : List Attempt} {listed : List NightProposal}
    (ran : nightlyProposals facts actions book maxAttempts attempts = .ok proposals)
    (tabled : proposeWatchlist rules book = .ok listed) :
    (OneAction book proposals ↔
      Unopposed facts book (choose actions (candidateNames book) maxAttempts attempts)) ∧
        OneAction book listed :=
  ⟨nightlyProposals_oneAction ran, proposeWatchlist_oneAction tabled⟩

def smallCatalogue : GateFacts where
  actions := .ofList
    [("check_in_rising_risk", ⟨"check_in_rising_risk", "Check in", "rising risk", some "check_in", false⟩),
      ("ask_what_changed", ⟨"ask_what_changed", "Ask", "shrinking", some "ask", false⟩),
      (doNothingAction, ⟨doNothingAction, "Nothing", "nobody", none, false⟩)]

def oneGroup : Book
  | .gettingSmaller => [⟨5, 1, 500⟩]
  | _ => []

/-- A client fund in one group. -/
theorem one_action_oneGroup : ∃ proposals listed,
    nightlyProposals smallCatalogue smallCatalogue.actions oneGroup 2 [] = .ok proposals ∧
      proposeWatchlist smallCatalogue oneGroup = .ok listed ∧
        (OneAction oneGroup proposals ↔ Unopposed smallCatalogue oneGroup
          (choose smallCatalogue.actions (candidateNames oneGroup) 2 [])) ∧
          OneAction oneGroup listed := by
  have ran : (nightlyProposals smallCatalogue smallCatalogue.actions oneGroup 2 []).isOk = true := by
    decide +kernel
  have tabled : (proposeWatchlist smallCatalogue oneGroup).isOk = true := by decide +kernel
  cases nightly : nightlyProposals smallCatalogue smallCatalogue.actions oneGroup 2 [] with
  | error missing =>
    rw [nightly] at ran
    cases ran
  | ok proposals =>
    cases table : proposeWatchlist smallCatalogue oneGroup with
    | error missing =>
      rw [table] at tabled
      cases tabled
    | ok listed =>
      obtain ⟨loop, rule⟩ := one_action_per_fund nightly table
      exact ⟨proposals, listed, rfl, rfl, loop, rule⟩

/-! ## A client fund in two groups -/

def twoGroups : Book
  | .gettingSmaller => [⟨5, 1, 500⟩]
  | .moreUrgentButNotCalled => [⟨5, 1, 500⟩]
  | _ => []

/-- Both groups have to be reached out to, whatever the model chooses. -/
theorem two_actions_for_one_fund : ¬ ∀ (facts : GateFacts) (actions : Dict String ActionRow)
    (book : Book) (maxAttempts : ℕ) (attempts : List Attempt) (proposals : List NightProposal),
    nightlyProposals facts actions book maxAttempts attempts = .ok proposals →
      OneAction book proposals := by
  intro claim
  have ran : (nightlyProposals smallCatalogue smallCatalogue.actions twoGroups 2 []).isOk = true := by
    decide +kernel
  cases nightly : nightlyProposals smallCatalogue smallCatalogue.actions twoGroups 2 [] with
  | error missing =>
    rw [nightly] at ran
    cases ran
  | ok proposals =>
    have unopposed := (nightlyProposals_oneAction nightly).mp (claim _ _ _ _ _ _ nightly)
    have goes : actionCodeFor smallCatalogue .gettingSmaller none = some "ask_what_changed" := by
      decide +kernel
    have found : (smallCatalogue.actions.get? "ask_what_changed").any (fun action =>
        skipReason smallCatalogue action ⟨5, 1, 500⟩ = none) = true := by decide +kernel
    obtain ⟨action, there, passed⟩ := (Option.any_eq_true _ _).mp found
    have first := unopposed .gettingSmaller _ action goes there ⟨5, 1, 500⟩ (.head _)
      (of_decide_eq_true passed)
    exact absurd first (by decide)

end ClientEngagement.Watchlist
