import ClientEngagement.Rules.Catalog

/-!
# The tier contract

Model of `rules/tier_contract.py`: `validateTiers` (`validate_tiers`), `saveTierContractVersion`
(`save_tier_contract_version`) and the loaders `loadActiveTiers` and `loadTier`. Rates are exact
(`ℚ`); the selection is the catalogue's.
-/

namespace ClientEngagement.Rules

/-- `PRIORITY_TIERS`. -/
def priorityTiers : List String :=
  ["hot_leads", "low_depositors", "gradual_withdrawers", "frequent_withdrawers",
    "one_time_withdrawers"]

/-- One tier's channel, format and review policy. -/
structure TierSpec where
  tier : String
  displayName : String
  primaryChannel : String
  maxWords : ℤ
  signOff : String
  humanApproval : Bool
  reviewSampleRate : ℚ
  cohortSampleRate : Option ℚ := none
  secondaryChannel : Option String := none
deriving DecidableEq, Repr

/-- The policy as a contract row stores it. -/
structure TierPolicy where
  displayName : String
  primaryChannel : String
  secondaryChannel : Option String
  maxWords : ℤ
  signOff : String
  humanApproval : Bool
  reviewSampleRate : ℚ
  cohortSampleRate : Option ℚ
deriving DecidableEq, Repr

def TierSpec.policy (spec : TierSpec) : TierPolicy where
  displayName := spec.displayName
  primaryChannel := spec.primaryChannel
  secondaryChannel := spec.secondaryChannel
  maxWords := spec.maxWords
  signOff := spec.signOff
  humanApproval := spec.humanApproval
  reviewSampleRate := spec.reviewSampleRate
  cohortSampleRate := spec.cohortSampleRate

/-- The checks of one tier, in order, each with what its error says. -/
def tierChecks : List ((TierSpec → Bool) × String) :=
  [(fun spec => isBlank spec.displayName, "has no display name"),
    (fun spec => isBlank spec.primaryChannel, "has no primary channel"),
    (fun spec => isBlank spec.signOff, "has no sign off"),
    (fun spec => spec.maxWords ≤ 0, "has a non-positive word cap"),
    (fun spec => ¬ (0 ≤ spec.reviewSampleRate ∧ spec.reviewSampleRate ≤ 1),
      "review_sample_rate out of range"),
    (fun spec => spec.cohortSampleRate.any fun rate => ¬ (0 ≤ rate ∧ rate ≤ 1),
      "cohort_sample_rate out of range")]

def tierError (spec : TierSpec) : Option String :=
  (tierChecks.find? fun (fails, _) => fails spec).map fun (_, text) =>
    "tier '" ++ spec.tier ++ "' " ++ text

def validateTiers (tiers : List TierSpec) : Except String Unit :=
  if tiers = [] then .error "a tier contract may not be empty"
  else
    let identifiers := tiers.map TierSpec.tier
    let unknown := sortBy id (identifiers.filter (· ∉ priorityTiers)).dedup
    if ¬ identifiers.Nodup then .error "tier identifiers must be unique"
    else if unknown ≠ [] then .error ("unknown tier identifiers: " ++ reprNames unknown)
    else
      match tiers.findSome? tierError with
      | some reason => .error reason
      | none => .ok ()

/-- What `validate_tiers` lets through passes every check. -/
lemma passes_of_accepted {tiers : List TierSpec} {spec : TierSpec} (accepted : validateTiers tiers = .ok ())
    (listed : spec ∈ tiers) {fails : TierSpec → Bool} {text : String} (check : (fails, text) ∈ tierChecks) :
    fails spec = false := by
  simp only [validateTiers] at accepted
  split_ifs at accepted
  have passed : tierError spec = none := by
    cases e : tiers.findSome? tierError with
    | none => exact List.findSome?_eq_none_iff.mp e spec listed
    | some reason => simp [e] at accepted
  rw [tierError, Option.map_eq_none_iff] at passed
  exact Bool.not_eq_true _ ▸ List.find?_eq_none.mp passed _ check

abbrev TierContracts := Store (keyedSpec TierPolicy)

/-- Validates and inserts a new contract version (`save_tier_contract_version`). -/
def saveTierContractVersion (s : TierContracts) (version : ℤ) (tiers : List TierSpec)
    (validFrom : Date) (validTo : Option Date) (publishedAt : Instant) :
    Except VersioningError TierContracts :=
  s.saveVersion (validateTiers tiers) version (tiers.map fun spec => (spec.tier, spec.policy))
    (tiers.map TierSpec.tier) validFrom validTo publishedAt

/-- `active_tier_contract_version`. -/
def activeTierContractVersion (s : TierContracts) (date : Date) : Option ℤ :=
  activeVersion s.rows date

/-- The active contract by tier (`load_active_tiers`). -/
def loadActiveTiers (s : TierContracts) (date : Date) : Dict String (Row TierPolicy) :=
  match activeTierContractVersion s date with
  | none => .empty
  | some version =>
    .ofList ((sortBy Row.key (s.rows.filter (·.version = version))).map fun row => (row.key, row))

/-- One tier's row (`load_tier`). -/
def loadTier (s : TierContracts) (tier : String) (date : Date) : Option (Row TierPolicy) :=
  (loadActiveTiers s date).get? tier

/-- `loadTier` returns the row of its tier under the version in force. -/
lemma loadTier_iff {s : TierContracts} {tier : String} {date : Date} {r : Row TierPolicy} :
    loadTier s tier date = some r ↔
      r ∈ s.rows ∧ r.key = tier ∧ activeVersion s.rows date = some r.version := by
  rw [loadTier, loadActiveTiers, activeTierContractVersion]
  cases e : activeVersion s.rows date with
  | none => simp
  | some version =>
    have hp := sortBy_perm Row.key (s.rows.filter (·.version = version))
    have h := get?_activeRows_iff hp e tier r
    rw [e] at h
    exact h

end ClientEngagement.Rules
