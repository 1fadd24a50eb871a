import ClientEngagement.Campaigns.Touch
import ClientEngagement.Review.Personalization
import ClientEngagement.Rules.TierContract

/-!
# Review tables and sampling cohorts

The rows of the review workflow, and the model of `campaigns/cohorts.py`: which cohort a drafted
message belongs to and whether it is one of the cohort's samples (`resolveCohortSlot`,
`resolve_cohort_slot`). The message rows extend the ones the send gate reads.
-/

namespace ClientEngagement.Review
open Campaigns (CampaignId ClientId MessageId MessageStatus Database)
open Rules (Date TierPolicy TierContracts)

abbrev CohortId := String
abbrev RunId := String

inductive CohortStatus where
  | sampling
  | readyToApproveRest
  | completed
deriving DecidableEq

structure ReviewCohort where
  campaignId : CampaignId
  priorityTier : String
  sampleRate : Option ℚ
  sampleCap : Option ℤ
  assignedCount : ℤ := 0
  status : CohortStatus := .sampling

inductive RunStatus where
  | accepted
  | rejected
deriving DecidableEq

/-- One row of `generation_runs`, with the angle of its prompt version. -/
structure GenerationRun where
  clientId : ClientId
  priorityTier : Option String
  angle : Option String
  status : RunStatus
  failedGuardrail : Option String := none
  reason : Option String := none
  aiDraftContent : Content

structure OutreachMessage extends Campaigns.OutreachMessage where
  generationRunId : RunId
  aiDraftContent : Content
  personalizedContent : Option Content
  callBrief : Option String := none
  cohortId : Option CohortId := none
  isSample : Bool := false

/-- `REVIEW_OUTCOMES`. -/
inductive Outcome where
  | approve
  | editApprove
  | reject
  | escalate
  | hold
deriving DecidableEq

structure ReviewAction where
  messageId : MessageId
  reviewerId : String
  outcome : Outcome
  editedContent : Option (Dict String Json) := none
  messageAngle : Option String := none
  priorityTier : Option String := none
  reason : Option String := none

/-- The tables of the review workflow. `campaigns` holds the other tables of the send pipeline; its
    messages are those of `messages`. -/
structure Store where
  campaigns : Database := {}
  messages : Dict MessageId OutreachMessage := .empty
  runs : Dict RunId GenerationRun := .empty
  cohorts : Dict CohortId ReviewCohort := .empty
  actions : List ReviewAction := []
  tiers : TierContracts := .empty _
  records : ClientRecords := {}

/-- The database as the send pipeline reads it. -/
def Store.database (s : Store) : Database :=
  { s.campaigns with messages := s.messages.mapValues OutreachMessage.toOutreachMessage }

/-- The settings, the clock, and what Python prints and rounds. -/
structure Env where
  today : Date
  tierSamplingEnabled : Bool := true
  cohortSampleCap : ℤ := 25
  /-- The name of every client in test mode. -/
  testClientFirstName : Option String := none
  format : FactFormat
  /-- `round(1 / rate)`, in floating point. -/
  roundInverse : ℚ → ℤ

/-! ## Slots -/

/-- `cohort_sample_rate_for`. -/
def cohortSampleRateFor (tier : Option TierPolicy) (samplingEnabled : Bool) : Option ℚ :=
  if samplingEnabled then tier.bind TierPolicy.cohortSampleRate else none

/-- The cohort of a campaign and tier. -/
def findCohort (s : Store) (campaignId : CampaignId) (priorityTier : String) :
    Option (CohortId × ReviewCohort) :=
  s.cohorts.items.find? fun (_, cohort) =>
    cohort.campaignId = campaignId ∧ cohort.priorityTier = priorityTier

/-- A new cohort, sampled as the tier contract in force says. -/
def newCohort (env : Env) (s : Store) (campaignId : CampaignId) (priorityTier : String) :
    ReviewCohort :=
  let tier := (Rules.loadTier s.tiers priorityTier env.today).map Rules.Row.content
  let sampleRate := cohortSampleRateFor tier env.tierSamplingEnabled
  { campaignId := campaignId
    priorityTier := priorityTier
    sampleRate := sampleRate
    sampleCap := sampleRate.map fun _ => env.cohortSampleCap }

def getOrCreateCohort (env : Env) (s : Store) (campaignId : CampaignId) (priorityTier : String)
    (newId : CohortId) : CohortId × ReviewCohort :=
  (findCohort s campaignId priorityTier).getD (newId, newCohort env s campaignId priorityTier)

/-- The first message is a sample, and then every `round(1 / rate)`-th one up to the cap. -/
def isSampleSlot (env : Env) (slot : ℤ) (rate : Option ℚ) (cap : Option ℤ) : Bool :=
  match rate with
  | none => true
  | some rate =>
    if slot < 1 then false
    else if slot = 1 then true
    else if rate ≤ 0 then false
    else
      let every := max 1 (env.roundInverse rate)
      if (slot - 1) % every ≠ 0 then false
      else cap.all fun cap => 1 + (slot - 1) / every ≤ cap

/-- Claims the next slot; outside sampling every message is a sample. -/
def assignCohortSlot (env : Env) (cohort : ReviewCohort) : ReviewCohort × Bool :=
  let claimed := { cohort with assignedCount := cohort.assignedCount + 1 }
  (claimed,
    if cohort.status ≠ .sampling then true
    else isSampleSlot env claimed.assignedCount cohort.sampleRate cohort.sampleCap)

structure CohortSlot where
  cohortId : Option CohortId
  isSample : Bool

def resolveCohortSlot (env : Env) (s : Store) (campaignId : CampaignId)
    (priorityTier : Option String) (newId : CohortId) : Store × CohortSlot :=
  match priorityTier with
  | none => (s, ⟨none, false⟩)
  | some tier =>
    let (cohortId, cohort) := getOrCreateCohort env s campaignId tier newId
    let (claimed, isSample) := assignCohortSlot env cohort
    ({ s with cohorts := s.cohorts.set cohortId claimed }, ⟨some cohortId, isSample⟩)

/-! ## What a claim changes -/

variable {env : Env} {s : Store} {campaignId : CampaignId} {tier : String} {newId : CohortId}

/-- The first slot of a cohort is a sample. -/
lemma isSampleSlot_first (rate : Option ℚ) (cap : Option ℤ) :
    isSampleSlot env 1 rate cap = true := by
  cases rate with
  | none => rfl
  | some rate => rw [isSampleSlot, if_neg (by decide), if_pos rfl]

/-- What a claim of a slot does: `cohort` is the cohort before it. -/
structure Claim (s : Store) (cohortId : CohortId) (cohort : ReviewCohort) (isSample : Bool)
    (claimed : Store) (slot : CohortSlot) : Prop where
  slot : slot = ⟨some cohortId, isSample⟩
  left : claimed = { s with
    cohorts := s.cohorts.set cohortId { cohort with assignedCount := cohort.assignedCount + 1 } }

/-- A claim is made in the cohort on file, which gives away samples only once it is past sampling, or
    in a new one, whose first message is a sample. -/
lemma resolveCohortSlot_some :
    ∃ cohortId cohort isSample,
      Claim s cohortId cohort isSample (resolveCohortSlot env s campaignId (some tier) newId).1
        (resolveCohortSlot env s campaignId (some tier) newId).2 ∧
      ((findCohort s campaignId tier = some (cohortId, cohort) ∧
          s.cohorts.get? cohortId = some cohort ∧ (cohort.status ≠ .sampling → isSample = true)) ∨
        cohortId = newId ∧ cohort.status = .sampling ∧ isSample = true) := by
  cases found : findCohort s campaignId tier with
  | none =>
    have new : getOrCreateCohort env s campaignId tier newId =
        (newId, newCohort env s campaignId tier) := by
      rw [getOrCreateCohort, found, Option.getD_none]
    refine ⟨newId, newCohort env s campaignId tier, true, ⟨?_, ?_⟩, .inr ⟨rfl, rfl, rfl⟩⟩
    · simp only [resolveCohortSlot, new, assignCohortSlot]
      rw [if_neg (by simp [newCohort])]
      exact congrArg (CohortSlot.mk (some newId)) (isSampleSlot_first _ _)
    · simp only [resolveCohortSlot, new, assignCohortSlot]
  | some c =>
    have old : getOrCreateCohort env s campaignId tier newId = c := by
      rw [getOrCreateCohort, found, Option.getD_some]
    have onFile := s.cohorts.mem_items_iff.mp (List.mem_of_find?_eq_some found)
    refine ⟨c.1, c.2, (assignCohortSlot env c.2).2, ⟨?_, ?_⟩, .inl ⟨rfl, onFile, ?_⟩⟩
    · simp only [resolveCohortSlot, old]
    · simp only [resolveCohortSlot, old, assignCohortSlot]
    · intro past
      simp only [assignCohortSlot]
      rw [if_pos past]

end ClientEngagement.Review
