import ClientEngagement.Rules.Catalog

/-!
# The tables of a campaign

The rows the campaign code reads and writes, with the columns it uses, and the database as one
dictionary per table. Every key is the table's primary key or its UNIQUE constraint: a touch is
found under its enrollment and step number, a step under its campaign and step number, a batch item
under its batch and custom id. Columns with a CHECK constraint are inductive types, free text is
`String`, timestamps are microseconds and dates day numbers. Audit rows are written by every operation and read by none, so they are left out.
-/

namespace ClientEngagement.Campaigns
open Rules (Date Instant Catalog)

abbrev CampaignId := ℤ
abbrev EnrollmentId := ℤ
abbrev ClientId := ℤ
abbrev TouchId := ℤ
abbrev MessageId := String
abbrev BatchId := String
abbrev CustomId := String

inductive CampaignStatus where
  | draft
  | running
  | paused
  | completed
deriving DecidableEq

structure Campaign where
  status : CampaignStatus
  defaultChannel : String := "email"
  isTest : Bool := false

structure CampaignStep where
  offsetDays : ℤ
  channel : Option String := none

/-- `ENROLLMENT_STATUSES`. -/
inductive EnrollmentStatus where
  | enrolled
  | inProgress
  | excluded
  | completed
  | stoppedReply
  | stoppedOptout
  | stoppedBounce
  | stoppedReengaged
deriving DecidableEq

/-- One client in one campaign. -/
structure Enrollment where
  enrollmentId : EnrollmentId
  campaignId : CampaignId
  clientId : ClientId
  currentStep : ℤ := 0
  nextDueAt : Option Instant := none
  status : EnrollmentStatus := .enrolled
  isPrimaryContactRow : Bool := true
  enrolledAt : Instant

/-- One row of `touch_log`. -/
structure TouchLog where
  touchId : TouchId
  messageId : Option MessageId := none
  sentAt : Option Instant := none
  deliveryStatus : Option String := none
  providerStatus : Option String := none
  parts : Option ℤ := none
  cost : Option ℚ := none

inductive MessageStatus where
  | pendingReview
  | approved
  | rejected
  | escalated
  | held
deriving DecidableEq

structure OutreachMessage where
  campaignId : CampaignId
  clientId : ClientId
  channel : String := "email"
  status : MessageStatus := .pendingReview

inductive ContactEventType where
  | reply
  | opened
  | bounce
  | complaint
  | optout
deriving DecidableEq

structure ContactEvent where
  clientId : ClientId
  type : ContactEventType
  occurredAt : Instant

structure ClientFeatures where
  purchaseDepth : String := "none"
  neverFunded : Bool := false
  staleContact : Bool := false
  activeBookAutoCheckin : Bool := false
  highValue : Bool := false
  balanceBand : String := "nearly_empty"
  hasBalance : Bool := false
  cadenceBand : String := "None"
  exitReason : String := "unknown"
  fundType : String := "other"

structure Client where
  balance : Option ℚ
  lastActivityDate : Option Date

structure PiiVault where
  contactEmail : Option String
  contactPhone : Option String
  optOutFlag : Bool := false

inductive Side where
  | active
  | inactive
deriving DecidableEq

structure Suppression where
  reason : String

structure ClientMessageIndicators where
  messageAngle : String
  priorityTier : String

structure TestRecipient where
  email : Option String
  phone : Option String
  active : Bool := true

/-- `GENERATION_BATCH_STATUSES`. -/
inductive BatchStatus where
  | building
  | noEligibleClients
  | submitted
  | inProgress
  | ended
  | ingested
  | failed
deriving DecidableEq

structure GenerationBatch where
  campaignId : CampaignId
  providerBatchId : Option String := none
  status : BatchStatus := .building
  requestedLimit : ℕ
  requestedCount : ℕ := 0
  succeededCount : Option ℕ := none
  erroredCount : Option ℕ := none

/-- `GENERATION_BATCH_ITEM_STATUSES`. -/
inductive ItemStatus where
  | pending
  | accepted
  | rejected
deriving DecidableEq

/-- One row of `generation_batch_item`; `product` and `channel` are what its snapshot keeps. -/
structure GenerationBatchItem where
  clientId : ClientId
  enrollmentId : EnrollmentId
  stepNo : ℤ
  product : String
  channel : String
  status : ItemStatus := .pending

/-- One row of `generation_runs`, as an ingestion writes it. -/
structure GenerationRun where
  clientId : ClientId
  product : String
  status : ItemStatus
  reason : Option String := none

structure Database where
  campaigns : Dict CampaignId Campaign := .empty
  steps : Dict (CampaignId × ℤ) CampaignStep := .empty
  enrollments : Dict EnrollmentId Enrollment := .empty
  touches : Dict (EnrollmentId × ℤ) TouchLog := .empty
  /-- The sequence behind `touch_id`. -/
  nextTouchId : TouchId := 1
  messages : Dict MessageId OutreachMessage := .empty
  events : List ContactEvent := []
  features : Dict ClientId ClientFeatures := .empty
  clients : Dict ClientId Client := .empty
  vault : Dict ClientId PiiVault := .empty
  sides : Dict ClientId Side := .empty
  suppression : Dict ClientId Suppression := .empty
  indicators : Dict ClientId ClientMessageIndicators := .empty
  catalog : Catalog := .empty _
  testRecipients : List TestRecipient := []
  batches : Dict BatchId GenerationBatch := .empty
  items : Dict (BatchId × CustomId) GenerationBatchItem := .empty
  /-- The generation runs under their `run_id`. A run of a batch has its item's custom id. -/
  runs : Dict CustomId GenerationRun := .empty

inductive DeliveryMode where
  | test
  | live
deriving DecidableEq

/-- The settings the campaign code reads, and the clock. -/
structure Env where
  campaignCooldownDays : ℤ := 1
  requireDeliverableContact : Bool := false
  deliveryMode : DeliveryMode := .test
  /-- The database's clock. -/
  now : Instant
  /-- The day it is for the process. -/
  today : Date
  /-- The day of a timestamp in the session's time zone. -/
  dateOf : Instant → Date

def microsecondsPerDay : ℤ := 86400000000

end ClientEngagement.Campaigns
