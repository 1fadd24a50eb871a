import ClientEngagement.Campaigns.Tables
import ClientEngagement.Rules.Engine
import ClientEngagement.Rules.TierContract

/-!
# The angle of a client

The row of `client_message_indicators` and its two writers. `populateIndicators`
(`rules/indicators.py`) resolves every client with a current tier, `prepareClientForDrafting`
(`campaigns/nurture_bridge.py`) writes an angle somebody else chose. Each writes over the row there is.
-/

namespace ClientEngagement.Campaigns
open Rules (Date RuleStore Resolution ResolveError)

/-- A `client_features` row as the rules read it. -/
structure FeatureRow where
  view : Dict String String
  priorityTier : String

inductive PopulateError where
  | noActiveRules (date : Date)
  | resolve (error : ResolveError)
deriving DecidableEq

/-- `_indicator_dict`: a rule that names a real tier leaves the tier to the features. -/
def indicatorOf (feature : FeatureRow) (resolution : Resolution) : ClientMessageIndicators where
  messageAngle := resolution.messageAngle
  priorityTier :=
    if resolution.priorityTier ∈ Rules.priorityTiers then feature.priorityTier
    else resolution.priorityTier

/-- The rows of the clients whose tier is current; one client no rule matches raises for all. -/
def resolveAll (rules : List (Rules.Row Rules.RuleRow)) (features : List (ClientId × FeatureRow)) :
    Except ResolveError (List (ClientId × ClientMessageIndicators)) :=
  (features.filter fun (_, feature) => feature.priorityTier ∈ Rules.priorityTiers).mapM
    fun (clientId, feature) =>
      (Rules.resolve feature.view rules).map fun resolution =>
        (clientId, indicatorOf feature resolution)

/-- `upsert`, keyed by client. -/
def upsertIndicators (indicators : Dict ClientId ClientMessageIndicators)
    (rows : List (ClientId × ClientMessageIndicators)) : Dict ClientId ClientMessageIndicators :=
  rows.foldl (fun indicators row => indicators.set row.1 row.2) indicators

def populateIndicators (db : Database) (rules : RuleStore) (features : Dict ClientId FeatureRow)
    (date : Date) : Except PopulateError (Database × ℕ) :=
  match Rules.loadActiveRules rules date with
  | [] => .error (.noActiveRules date)
  | active =>
    match resolveAll active features.items with
    | .error error => .error (.resolve error)
    | .ok rows => .ok ({ db with indicators := upsertIndicators db.indicators rows }, rows.length)

/-- Writes the angle a client is to be drafted on. `holds` says whether it has anything in the active
    book, `priorityTier` is the tier its risk bands put it in. -/
def prepareClientForDrafting (db : Database) (clientId : ClientId) (angle priorityTier : String)
    (holds : Bool) : Database × Bool :=
  if ¬ holds then (db, false)
  else
    ({ db with indicators := db.indicators.set clientId ⟨angle, priorityTier⟩ }, true)

variable {db db' : Database} {rules : RuleStore} {features : Dict ClientId FeatureRow} {date : Date}
  {clientId : ClientId}

/-- A populate writes the indicators only. -/
lemma populateIndicators_ok {count : ℕ} (h : populateIndicators db rules features date = .ok (db', count)) :
    ∃ rows, resolveAll (Rules.loadActiveRules rules date) features.items = .ok rows ∧
      db' = { db with indicators := upsertIndicators db.indicators rows } := by
  rw [populateIndicators] at h
  split at h
  · cases h
  · split at h
    · cases h
    · rename_i rows resolved
      cases h
      exact ⟨rows, resolved, rfl⟩

end ClientEngagement.Campaigns
