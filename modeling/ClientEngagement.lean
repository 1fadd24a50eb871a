import ClientEngagement.Lib.Json
import ClientEngagement.Lib.JsonText
import ClientEngagement.Risk.Overflow
import ClientEngagement.Risk.AllocationRules
import ClientEngagement.Risk.AllocationOrder
import ClientEngagement.Lib.Runs
import ClientEngagement.Rules.Versioning
import ClientEngagement.Rules.Selection
import ClientEngagement.Rules.Catalog
import ClientEngagement.Rules.TierContract
import ClientEngagement.Rules.Calls
import ClientEngagement.Rules.KeyIsolation
import ClientEngagement.Rules.Store
import ClientEngagement.Rules.ActiveVersion
import ClientEngagement.Campaigns.StateMachine
import ClientEngagement.Campaigns.Scheduler
import ClientEngagement.Campaigns.Eligibility
import ClientEngagement.Campaigns.Touch
import ClientEngagement.Campaigns.GateSafety
import ClientEngagement.Campaigns.Progress
import ClientEngagement.Campaigns.Sending
import ClientEngagement.Campaigns.BatchGeneration
import ClientEngagement.Campaigns.Bundling
import ClientEngagement.Campaigns.Drafting
import ClientEngagement.Risk.ConfigStore
import ClientEngagement.Rules.LiveConfig
import ClientEngagement.Prompts.FactEligibility
import ClientEngagement.Prompts.Configuration
import ClientEngagement.Prompts.Pinning
import ClientEngagement.Lib.PythonText
import ClientEngagement.Lib.Regex
import ClientEngagement.Privacy.FactBlock
import ClientEngagement.Privacy.Scanners
import ClientEngagement.Privacy.Boundary
import ClientEngagement.Prompts.Payload
import ClientEngagement.Privacy.Conversation
import ClientEngagement.Privacy.LiteralScan
import ClientEngagement.Review.Personalization
import ClientEngagement.Review.Cohorts
import ClientEngagement.Review.CohortReview
import ClientEngagement.Delivery.ApprovedText
import ClientEngagement.Campaigns.Indicators
import ClientEngagement.Review.Drafts
import ClientEngagement.Delivery.SendBlocks
import ClientEngagement.Delivery.Dispatch
import ClientEngagement.Risk.History
import ClientEngagement.Risk.Routing
import ClientEngagement.Ingestion.Resume
import ClientEngagement.Ingestion.Bulk
import ClientEngagement.Ingestion.Retention
import ClientEngagement.Transform.Features
import ClientEngagement.Transform.ContactRow
import ClientEngagement.Transform.Repeats
import ClientEngagement.Risk.Detection
import ClientEngagement.Agents.Permissions
import ClientEngagement.Agents.Propose
import ClientEngagement.Review.Concurrent
import ClientEngagement.Agents.RunLifecycle
import ClientEngagement.Prompts.SystemPrompt
import ClientEngagement.Insights.Answers
import ClientEngagement.Watchlist.Gates
import ClientEngagement.Proposals.RunProposal
import ClientEngagement.Watchlist.Consolidation
import ClientEngagement.Events.Log
import ClientEngagement.Proposals.OfferedOnce
import ClientEngagement.Events.Progress
import ClientEngagement.Events.Stream
import ClientEngagement.Events.Agreement
import ClientEngagement.Agents.Graph
import ClientEngagement.Campaigns.OneContactRow
import ClientEngagement.Api.Idempotency
import ClientEngagement.Review.Traceability
import ClientEngagement.Review.Substitution
import ClientEngagement.Review.Figures
import ClientEngagement.Review.Paging
import ClientEngagement.Delivery.DigestEmail
import ClientEngagement.Agents.DraftChecks
import ClientEngagement.Agents.DraftParsers
import ClientEngagement.Prompts.PromptBlocks
import ClientEngagement.Campaigns.BatchDrafting
import ClientEngagement.Risk.Scoring
import ClientEngagement.Transform.WithdrawalCluster
import ClientEngagement.Transform.PageSplits
import ClientEngagement.Lib.Tallies
import ClientEngagement.Agents.QueryFields
import ClientEngagement.Agents.QueryTools
import ClientEngagement.Agents.InsightRecount
import ClientEngagement.Agents.Distribution
import ClientEngagement.Agents.ActionCatalog
import ClientEngagement.Agents.ToolRuntime
import ClientEngagement.Agents.ToolTrace
import ClientEngagement.Lib.Upsert
import ClientEngagement.Transform.Upsert
import ClientEngagement.Transform.Tables
import ClientEngagement.Transform.Load
import ClientEngagement.Lib.Words
import ClientEngagement.Review.SentLengths
import ClientEngagement.Lib.DistinctOn
import ClientEngagement.Lib.Streaks
import ClientEngagement.Agents.SituationHistory
import ClientEngagement.Agents.Signals
import ClientEngagement.Agents.Watchlist
import ClientEngagement.Review.SampleRate
import ClientEngagement.Campaigns.Steps
import ClientEngagement.Rag.Chunking
import ClientEngagement.Agents.ActionPerformance
import ClientEngagement.Agents.ActionResults
import ClientEngagement.Rules.Reachable
import ClientEngagement.Campaigns.TemplateDrafting
import ClientEngagement.Lib.FirstOf
import ClientEngagement.Agents.PatternSearch
import ClientEngagement.Lib.PythonJson
import ClientEngagement.Api.Cursors
import ClientEngagement.Agents.Cleaning
import ClientEngagement.Agents.SignOff
import ClientEngagement.Privacy.Coarsened
import ClientEngagement.Privacy.InboundJson
import ClientEngagement.Agents.ScenarioStudio
import ClientEngagement.Agents.AgentStudio
import ClientEngagement.Digest.Build
import ClientEngagement.Digest.Emails
import ClientEngagement.Delivery.DueTouches
import ClientEngagement.Prompts.Placeholders
