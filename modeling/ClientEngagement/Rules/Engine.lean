import ClientEngagement.Rules.Store

/-!
# Resolving a client

Model of `rules/engine.py`: `resolve`, the first rule in priority order whose match a client's features
meet. The features are the view `feature_view` takes: the allow-listed columns that are set, as text.
-/

namespace ClientEngagement.Rules

/-- What a client resolved to, with the rule that won. -/
structure Resolution where
  messageAngle : String
  urgency : String
  priorityTier : String
  promptVariant : String
  ruleName : String
  version : ℤ

inductive ResolveError where
  | noRuleMatched (fields : List String)
  | unreadableMatch (rule : String)
deriving DecidableEq

/-- `_matches`. -/
def matchesFeatures (matchFields : Dict String (List String)) (features : Dict String String) : Bool :=
  matchFields.items.all fun (field, allowed) => (features.get? field).any (· ∈ allowed)

def resolutionOf (row : Row RuleRow) : Resolution where
  messageAngle := row.content.messageAngle
  urgency := row.content.urgency
  priorityTier := row.content.priorityTier
  promptVariant := row.content.promptVariant
  ruleName := row.content.name
  version := row.version

/-- The loop over the rules in order. -/
def firstMatch (view : Dict String String) : List (Row RuleRow) → Except ResolveError Resolution
  | [] => .error (.noRuleMatched (sortBy id view.keys))
  | row :: rest =>
    match matchOf? row.content.matchFields with
    | none => .error (.unreadableMatch row.content.name)
    | some matchFields =>
      if matchesFeatures matchFields view then .ok (resolutionOf row) else firstMatch view rest

/-- The allow-listed features alone (`ALLOWED_FEATURES`). -/
def allowedView (features : Dict String String) : Dict String String :=
  features.filterKeys (ruleFieldDomains.contains ·)

def resolve (features : Dict String String) (rules : List (Row RuleRow)) :
    Except ResolveError Resolution :=
  firstMatch (allowedView features) (sortBy (fun row => row.content.priority) rules)

/-- A client resolves to the angle of a rule of the set. -/
theorem resolve_mem {features : Dict String String} {rules : List (Row RuleRow)}
    {resolution : Resolution} (h : resolve features rules = .ok resolution) :
    ∃ row ∈ rules, resolution = resolutionOf row := by
  have search : ∀ (view : Dict String String) (l : List (Row RuleRow)),
      firstMatch view l = .ok resolution → ∃ row ∈ l, resolution = resolutionOf row := by
    intro view l
    induction l with
    | nil => nofun
    | cons row rest ih =>
      intro found
      rw [firstMatch] at found
      split at found
      · cases found
      · split at found
        · cases found
          exact ⟨row, .head _, rfl⟩
        · obtain ⟨later, mem, same⟩ := ih found
          exact ⟨later, .tail _ mem, same⟩
  obtain ⟨row, mem, same⟩ := search _ _ h
  exact ⟨row, mem_sortBy.mp mem, same⟩

end ClientEngagement.Rules
