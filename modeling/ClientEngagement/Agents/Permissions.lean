import ClientEngagement.Lib.Dict
import ClientEngagement.Rules.Catalog

/-!
# How much freedom an action has

Model of `agents/permissions.py`: `resolvePermission` (`resolve_permission`), `effectivePermission`
(`effective_permission`) and `setPermission` (`set_permission`). A setting covers an action, or the clients
of a priority tier, of a risk band or of both; the unique constraint of `agent_permission` counts an empty
tier or band as a value, so the table is a dictionary.
-/

namespace ClientEngagement.Agents
open Rules (isBlank)

/-- `PERMISSION_LEVELS`, the safest first. -/
inductive PermissionLevel where
  | suggestOnly
  | approveEach
  | approveSample
  | actAlone
deriving DecidableEq

def permissionLevels : List (String × PermissionLevel) :=
  [("suggest_only", .suggestOnly), ("approve_each", .approveEach),
    ("approve_sample", .approveSample), ("act_alone", .actAlone)]

def PermissionLevel.index : PermissionLevel → ℕ
  | .suggestOnly => 0
  | .approveEach => 1
  | .approveSample => 2
  | .actAlone => 3

/-- What is unique in `agent_permission`. -/
structure PermissionKey where
  actionCode : String
  priorityTier : Option String := none
  riskBand : Option String := none
deriving DecidableEq

/-- One setting, with the check constraints on its caps. -/
structure AgentPermission where
  permission : PermissionLevel
  maxClientsPerDay : Option ℤ := none
  maxMoneyKes : Option ℚ := none
  clientsPositive : ∀ cap ∈ maxClientsPerDay, 0 < cap := by nofun
  moneyPositive : ∀ cap ∈ maxMoneyKes, 0 < cap := by nofun

abbrev PermissionTable := Dict PermissionKey AgentPermission

/-! ## Looking up -/

/-- Whether a lookup narrows to the tier, and to the band, most specific first. -/
def narrowingOrder : List (Bool × Bool) := [(true, true), (true, false), (false, true), (false, false)]

def permissionAt (table : PermissionTable) (actionCode : String) (priorityTier riskBand : Option String)
    (narrowing : Bool × Bool) : Option AgentPermission :=
  if narrowing.1 ∧ priorityTier = none ∨ narrowing.2 ∧ riskBand = none then none
  else
    table.get?
      { actionCode := actionCode
        priorityTier := if narrowing.1 then priorityTier else none
        riskBand := if narrowing.2 then riskBand else none }

def resolvePermission (table : PermissionTable) (actionCode : String)
    (priorityTier riskBand : Option String) : Option AgentPermission :=
  narrowingOrder.findSome? (permissionAt table actionCode priorityTier riskBand)

/-- `ALWAYS_NEEDS_A_PERSON`. -/
def alwaysNeedsAPerson : List String := ["suggest_second_fund"]

def atMostApproveEach (level : PermissionLevel) : PermissionLevel :=
  if PermissionLevel.approveEach.index < level.index then .approveEach else level

/-- `money_total_kes > money_ceiling_kes`, when both are given. -/
def aboveCeiling (moneyTotalKes moneyCeilingKes : Option ℚ) : Bool :=
  moneyCeilingKes.any fun ceiling => moneyTotalKes.any fun total => ceiling < total

def effectivePermission (agentForceApproveEach : Bool) (table : PermissionTable) (actionCode : String)
    (priorityTier riskBand : Option String) (moneyTotalKes moneyCeilingKes : Option ℚ) :
    PermissionLevel :=
  if agentForceApproveEach then .approveEach
  else if aboveCeiling moneyTotalKes moneyCeilingKes then .approveEach
  else
    let level := ((resolvePermission table actionCode priorityTier riskBand).map
      AgentPermission.permission).getD .suggestOnly
    if actionCode ∈ alwaysNeedsAPerson then atMostApproveEach level else level

/-! ## Changing -/

structure PermissionRequest where
  key : PermissionKey
  permission : String
  changedBy : String
  changedReason : String
  maxClientsPerDay : Option ℤ := none
  maxMoneyKes : Option ℚ := none

/-- Writes or updates one setting, or says why it is refused. -/
def setPermission (table : PermissionTable) (request : PermissionRequest) :
    Except String PermissionTable :=
  match permissionLevels.lookup request.permission with
  | none => .error ("unknown permission level '" ++ request.permission ++ "'")
  | some level =>
    if isBlank request.changedBy then .error "a change needs to say who made it"
    else if isBlank request.changedReason then .error "a change needs a reason"
    else if clients : ∀ cap ∈ request.maxClientsPerDay, 0 < cap then
      if money : ∀ cap ∈ request.maxMoneyKes, 0 < cap then
        .ok (table.set request.key
          ⟨level, request.maxClientsPerDay, request.maxMoneyKes, clients, money⟩)
      else .error "a daily money cap must be above zero"
    else .error "a daily client cap must be above zero"

/-! ## The most specific setting -/

variable {table : PermissionTable} {actionCode : String} {priorityTier riskBand : Option String}

/-- The setting written for the tier or the band, if there is one. -/
def narrowedPermission (table : PermissionTable) (actionCode : String)
    (priorityTier riskBand : Option String) : Option AgentPermission :=
  [(true, true), (true, false), (false, true)].findSome?
    (permissionAt table actionCode priorityTier riskBand)

lemma permissionAt_general : permissionAt table actionCode priorityTier riskBand (false, false) =
    table.get? { actionCode := actionCode } := by
  rw [permissionAt, if_neg (by simp)]
  rfl

/-- A lookup takes the narrowed setting and falls back on the action's own. -/
lemma resolvePermission_eq : resolvePermission table actionCode priorityTier riskBand =
    (narrowedPermission table actionCode priorityTier riskBand).or
      (table.get? { actionCode := actionCode }) := by
  have split : narrowingOrder = [(true, true), (true, false), (false, true)] ++ [(false, false)] := rfl
  rw [resolvePermission, split, List.findSome?_append, narrowedPermission, List.findSome?_singleton,
    permissionAt_general]

/-- Without a tier and a band only the action's own setting is found. -/
lemma resolvePermission_general : resolvePermission table actionCode none none =
    table.get? { actionCode := actionCode } := by
  have unnarrowed : narrowedPermission table actionCode none none = none := by
    simp [narrowedPermission, permissionAt]
  rw [resolvePermission_eq, unnarrowed, Option.none_or]

lemma atMostApproveEach_ne (level : PermissionLevel) : atMostApproveEach level ≠ .actAlone := by
  cases level <;> decide

/-- What acting alone says about the action: its own setting allows it, and the money is in bounds. -/
lemma general_of_actAlone {force : Bool} {total : ℚ} {moneyCeilingKes : Option ℚ}
    (h : effectivePermission force table actionCode none none (some total) moneyCeilingKes =
      .actAlone) :
    (∃ row, table.get? { actionCode := actionCode } = some row ∧ row.permission = .actAlone) ∧
      ∀ ceiling ∈ moneyCeilingKes, total ≤ ceiling := by
  rw [effectivePermission] at h
  split at h
  · cases h
  · split at h
    · cases h
    · rename_i bounded
      constructor
      · rw [resolvePermission_general] at h
        have level : ((table.get? { actionCode := actionCode }).map
            AgentPermission.permission).getD .suggestOnly = .actAlone := by
          dsimp only at h
          split at h
          · exact absurd h (atMostApproveEach_ne _)
          · exact h
        cases own : table.get? { actionCode := actionCode } with
        | none =>
          rw [own] at level
          cases level
        | some row =>
          rw [own] at level
          exact ⟨row, rfl, level⟩
      · intro ceiling given
        rw [Option.mem_def.mp given] at bounded
        simpa [aboveCeiling] using bounded

end ClientEngagement.Agents
