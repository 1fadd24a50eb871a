import ClientEngagement.Agents.Propose

/-!
# The checks on a group

Model of the checks a group's members pass before an action is proposed for them (`agents/propose.py`,
`agents/action_rules.py`, `agents/action_catalog.py`). What the checks read of the database on a day is one
`GateFacts`.
-/

namespace ClientEngagement.Watchlist
open Agents (GroupMember doNothingAction)
open Risk (ClientId FundKey)

/-- A row of the action catalogue in force. -/
structure ActionRow where
  actionCode : String
  title : String
  who : String
  messageAngle : Option String := none
  paused : Bool := false

/-- What the checks read on a day: the catalogue in force, the published mapping of situations in its order,
    and for actions, clients and client funds what is on file. -/
structure GateFacts where
  actions : Dict String ActionRow
  mappings : List (String × String) := []
  /-- `guides_for_action` finds an approved guide. -/
  hasGuide : ActionRow → Bool := fun _ => true
  suppressed : ClientId → Bool := fun _ => false
  openComplaint : ClientId → Bool := fun _ => false
  /-- A mail or a call logged since the cooldown began. -/
  contacted : FundKey → Bool := fun _ => false
  angleHeld : String → Bool := fun _ => false
  /-- A message of a real campaign of this action was sent. -/
  sent : ClientId → String → Bool := fun _ _ => false

def onDoNotContactList : String := "on_do_not_contact_list"
def openComplaint : String := "open_complaint"
def contactedRecently : String := "contacted_recently"
def anglePaused : String := "angle_paused"
def actionPaused : String := "action_paused"
def noApprovedGuide : String := "no_approved_guide"
def alreadyOfferedReason : String := "already_offered"

def secondFundAction : String := "suggest_second_fund"
def learningNoteAction : String := "send_learning_note"

/-- `OFFERED_ONCE`. -/
def offeredOnce : List String := [secondFundAction]

/-- `NEEDS_A_GUIDE`. -/
def needsAGuide : List String := [secondFundAction, learningNoteAction]

/-- An action without a row counts as paused. -/
def actionIsPaused (facts : GateFacts) (actionCode : String) : Bool :=
  (facts.actions.get? actionCode).all ActionRow.paused

def lacksAnApprovedGuide (facts : GateFacts) (action : ActionRow) : Bool :=
  action.actionCode ∈ needsAGuide ∧ ¬ facts.hasGuide action

def alreadyOffered (facts : GateFacts) (clientId : ClientId) (action : ActionRow) : Bool :=
  action.actionCode ∈ offeredOnce ∧ facts.sent clientId action.actionCode

def memberSkipReason (facts : GateFacts) (member : GroupMember) (action : ActionRow) : Option String :=
  if facts.suppressed member.clientId then some onDoNotContactList
  else if facts.openComplaint member.clientId then some openComplaint
  else if facts.contacted member.key then some contactedRecently
  else if (action.messageAngle.filter (· ≠ "")).any facts.angleHeld then some anglePaused
  else if alreadyOffered facts member.clientId action then some alreadyOfferedReason
  else none

/-- Why a member is left out of an action, the checks on the action first. -/
def skipReason (facts : GateFacts) (action : ActionRow) (member : GroupMember) : Option String :=
  if actionIsPaused facts action.actionCode then some actionPaused
  else if lacksAnApprovedGuide facts action then some noApprovedGuide
  else memberSkipReason facts member action

/-- The reasons by client fund. -/
def groupSkipReasons (facts : GateFacts) (members : List GroupMember) (action : ActionRow) :
    Dict FundKey (Option String) :=
  .ofList (members.map fun member => (member.key, skipReason facts action member))

/-- The rule table points at an action the live catalogue does not carry. -/
structure ProposalActionMissing where
  actionCode : String
deriving DecidableEq

def loadActionOrRaise (facts : GateFacts) (actionCode : String) : Except ProposalActionMissing ActionRow :=
  match facts.actions.get? actionCode with
  | some action => .ok action
  | none => .error ⟨actionCode⟩

/-! ## What a check says of a client fund -/

variable {facts : GateFacts} {action : ActionRow} {members : List GroupMember} {member : GroupMember}

/-- The reason of a member is about its client fund alone. -/
lemma skipReason_congr {member' : GroupMember} (same : member.key = member'.key) :
    skipReason facts action member = skipReason facts action member' := by
  have client : member.clientId = member'.clientId := congrArg Prod.fst same
  rw [skipReason, skipReason, memberSkipReason, memberSkipReason, same, client]

lemma get?_groupSkipReasons (mem : member ∈ members) :
    (groupSkipReasons facts members action).get? member.key = some (skipReason facts action member) := by
  rw [groupSkipReasons, Dict.ofList]
  apply Dict.get?_foldl_set_of_agree
  · exact List.mem_map.mpr ⟨member, mem, rfl⟩
  · intro entry listed same
    obtain ⟨other, _, rfl⟩ := List.mem_map.mp listed
    exact skipReason_congr same

end ClientEngagement.Watchlist
