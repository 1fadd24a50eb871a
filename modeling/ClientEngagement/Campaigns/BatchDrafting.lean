import ClientEngagement.Agents.DraftChecks
import ClientEngagement.Agents.DraftParsers
import ClientEngagement.Campaigns.BatchGeneration
import ClientEngagement.Privacy.LiteralScan
import ClientEngagement.Prompts.Configuration
import ClientEngagement.Prompts.Payload
import ClientEngagement.Prompts.PromptBlocks

/-!
# One message drafted in a batch and at once

Model of what a batch drafts a message from and how it judges the reply (`_build_request`, `_context_snapshot`
and `_ingest_one` of `campaigns/batch_generation.py`), next to the nodes `retrieve_context` and
`assemble_prompt` with which an agent's graph does the same (`agents/graph.py`). The graph resolves the prompt
configuration; a batch resolves none and splits the prompt of an email.

`drafted_alike` says where the two agree: on the payload and the facts under rules that let every fact through,
on the prompt under texts that are the built-in ones, and on every reply under the built-in placeholders.
-/

namespace ClientEngagement.BatchDrafting
open Agents JsonText Privacy Prompts
open Campaigns (ProviderResult)
open Review (NumberText)

/-! ## The channels -/

/-- The keys of `CHANNEL_SPECS`. -/
inductive Channel where
  | email
  | sms
deriving DecidableEq

structure DraftingEnv (ν : Type) where
  scan : ScanSettings
  print : NumberText
  format : NumberFormat ν
  decodeText : String → String
  validationText : JsonValue ν → Option String → String
  /-- `_BASE_INSTRUCTIONS_CORE` of the agent's module. -/
  baseInstructions : Channel → String
  ragEnabled : Bool

variable {ν : Type}

def DraftingEnv.checkSettings (env : DraftingEnv ν) : CheckSettings where
  tables := env.scan.tables
  print := env.print
  publicContactNumbers := env.scan.publicContactNumbers

def DraftingEnv.parseSettings (env : DraftingEnv ν) : ParseSettings ν where
  tables := env.scan.tables
  format := env.format
  decodeText := env.decodeText
  validationText := env.validationText

/-- The parser and the checks of a channel. -/
structure ChannelSpec where
  schema : DraftSchema
  guardrailChecks : List DraftCheck

/-- `channel_spec`. -/
def channelSpec (env : DraftingEnv ν) : Channel → ChannelSpec
  | .email => ⟨emailDraft, defaultGuardrailChecks env.checkSettings⟩
  | .sms => ⟨smsDraft, smsGuardrailChecks env.checkSettings⟩

/-! ## The client -/

/-- What is stored about a client. The facts are those a validation gave. -/
structure ClientState (settings : ScanSettings) where
  rawContext : Dict String Json
  angle : String
  brief : Option Rules.AngleBrief
  contract : Option Rules.TierPolicy
  facts : Option (ModelFactBlock settings.tables)
  built : ∀ block ∈ facts, ∃ given, modelFactBlock settings.tables settings.lax given = .ok block
  /-- What `retrieve_product_facts` finds. -/
  retrieved : List GroundingChunk

structure ClientContext where
  rawContext : Dict String Json
  angle : String
  chunks : List GroundingChunk
  brief : Option Rules.AngleBrief
  contract : Option Rules.TierPolicy
  facts : Option (Dict String Json)

/-- `load_client_context`. -/
def loadClientContext {settings : ScanSettings} (client : ClientState settings) (useRag : Bool) : ClientContext where
  rawContext := client.rawContext
  angle := client.angle
  chunks := if useRag then client.retrieved else []
  brief := client.brief
  contract := client.contract
  facts := client.facts.map ModelFactBlock.facts

/-! ## The prompt -/

/-- The texts a prompt is built from, besides those of the client. -/
structure PromptTexts where
  core : String
  safetyWords : List String := bannedWords
  safetyPhrases : List String := []
  campaignProhibitions : List String := Prompts.campaignProhibitions
  outputRules : Option String := none
  defaultSignOff : Option String := none

/-- The texts where nothing is configured. -/
def builtInTexts (env : DraftingEnv ν) (channel : Channel) : PromptTexts where
  core := env.baseInstructions channel

inductive AssembleError where
  | facts (error : BlockError)
  /-- A configured word that is no text. -/
  | words

/-- `", ".join(words)` needs texts. -/
def textsOf (words : Option (List Json)) (builtIn : List String) : Except AssembleError (List String) :=
  match words with
  | none => .ok builtIn
  | some words =>
    match words.mapM Json.text? with
    | some texts => .ok texts
    | none => .error .words

/-- The texts that a configuration resolves to. -/
def promptTexts (env : DraftingEnv ν) (channel : Channel) (config : AgentConfiguration) :
    Except AssembleError PromptTexts :=
  (textsOf config.safetyWords bannedWords).bind fun safetyWords =>
  (textsOf config.safetyPhrases []).map fun safetyPhrases =>
    { core := config.voiceText.getD
        ((config.baseInstructions.filter (· ≠ "")).getD (env.baseInstructions channel))
      safetyWords := safetyWords
      safetyPhrases := safetyPhrases
      campaignProhibitions := (config.campaignProhibitions.map fun lines =>
        lines.map fun line => line.pyStr env.scan.repr).getD Prompts.campaignProhibitions
      outputRules := config.outputRules
      defaultSignOff := config.defaultSignOff }

def promptParts (texts : PromptTexts) (context : ClientContext) (facts : Option (Dict String Json)) :
    PromptParts where
  core := texts.core
  safetyWords := texts.safetyWords
  safetyPhrases := texts.safetyPhrases
  campaignProhibitions := texts.campaignProhibitions
  outputRules := texts.outputRules
  defaultSignOff := texts.defaultSignOff
  brief := context.brief
  contract := context.contract
  facts := facts.getD .empty
  chunks := context.chunks.map GroundingChunk.text

/-- `prompt_builder`. -/
def promptBuilder (channel : Channel) (parts : PromptParts) (angle : String) : List Char :=
  match channel with
  | .email => buildSystemPrompt parts angle [] none
  | .sms => buildSmsSystemPrompt parts angle []

/-! ## What a check reads -/

/-- The draft the checks read, from the mapping its fields are in. -/
def checkedDraft (content : String → Option Json) (facts : Option (Dict String Json))
    (chunks : List GroundingChunk) (contract : Option FormatContract) : CheckedDraft where
  subject := (content "subject").bind Json.text?
  body := ((content "body").bind Json.text?).getD ""
  facts := facts
  chunks := chunks
  contract := contract

def formatContract (contract : Rules.TierPolicy) : FormatContract where
  maxWords := contract.maxWords
  signOff := contract.signOff

/-! ## The graph of an agent -/

/-- What the first two nodes leave in the state. -/
structure Prepared where
  facts : Option (Dict String Json)
  context : Dict String Json
  chunks : List GroundingChunk
  contract : Option Rules.TierPolicy
  allowedPlaceholders : List String

/-- `_content`: the parsed draft, or the state itself where there is none. -/
def GenerationState.read (s : GenerationState Prepared) (field : String) : Option Json :=
  match s.content with
  | some draft => draft.fields.get? field
  | none => if field = "subject" then s.subject else if field = "body" then s.body else none

def graphCheck (check : DraftCheck) : GuardrailCheck Prepared := fun s =>
  check (checkedDraft (GenerationState.read s) s.prepared.facts s.prepared.chunks
    (s.prepared.contract.map formatContract))

/-- The verdict of the inbound scan. -/
def inboundLeak (env : DraftingEnv ν) (payload : Dict String Json) : Option String :=
  match scanInbound env.scan payload [] with
  | .error leak => some leak.reason
  | .ok () => none

/-- What `assemble_prompt` leaves to the loop, with the facts and the texts it came to. -/
def agentGraph (env : DraftingEnv ν) (channel : Channel) (config : AgentConfiguration) (maxAttempts : ℤ)
    (context : ClientContext) (facts : Option (Dict String Json)) (texts : PromptTexts) :
    GenerationGraph Prepared where
  maxAttempts := maxAttempts
  draftParser := fun raw prepared =>
    (channelSpec env channel).schema.parse env.parseSettings raw prepared.facts (some prepared.allowedPlaceholders)
  checks := (channelSpec env channel).guardrailChecks.map graphCheck
  prepared :=
    { facts := facts
      context := contextOf context.rawContext facts
      chunks := context.chunks
      contract := context.contract
      allowedPlaceholders := resolveAllowedPlaceholders env.scan.repr config.allowedPlaceholderFields }
  systemPrompt := String.ofList (promptBuilder channel (promptParts texts context facts) context.angle)
  inboundLeak := inboundLeak env (contextOf context.rawContext facts)

/-- The graph of the channel's default agent, run for a client as far as `assemble_prompt`. -/
def assemblePrompt (env : DraftingEnv ν) (channel : Channel) (config : AgentConfiguration) (maxAttempts : ℤ)
    (client : ClientState env.scan) : Except AssembleError (GenerationGraph Prepared) :=
  let context := loadClientContext client env.ragEnabled
  match narrowedFacts env.scan.tables env.scan.lax context.facts config.factEligibility with
  | .error error => .error (.facts error)
  | .ok facts => (promptTexts env channel config).map (agentGraph env channel config maxAttempts context facts)

/-- What the outbound scan says of a raw output. -/
def boundaryVerdict (env : DraftingEnv ν) (raw : String) : BoundaryVerdict :=
  match scanOutbound env.scan raw.toList [] with
  | .error leak => .leaked leak.reason
  | .ok () => .passed raw

/-! ## A batch -/

/-- What is kept of a client until the reply is there. -/
structure ContextSnapshot where
  channel : Channel
  facts : Option (Dict String Json)
  chunks : List GroundingChunk
  contract : Option FormatContract
  systemPrompt : String
  systemPromptCached : String
  systemPromptDynamic : String
  modelPayload : Dict String Json

/-- `_context_snapshot`. -/
def contextSnapshot (channel : Channel) (context : ClientContext) (blocks : SystemPromptBlocks)
    (modelPayload : Dict String Json) : ContextSnapshot where
  channel := channel
  facts := context.facts
  chunks := context.chunks
  contract := context.contract.map formatContract
  systemPrompt := String.ofList blocks.text
  systemPromptCached := String.ofList blocks.cached
  systemPromptDynamic := String.ofList blocks.dynamic
  modelPayload := modelPayload

/-- `_prompt_blocks_for_channel`. -/
def promptBlocksForChannel (env : DraftingEnv ν) (channel : Channel) (context : ClientContext) :
    SystemPromptBlocks :=
  let parts := promptParts (builtInTexts env channel) context context.facts
  match channel with
  | .email => buildSystemPromptBlocks parts context.angle []
  | .sms => ⟨buildSmsSystemPrompt parts context.angle [], []⟩

/-- The snapshot of a client whose request is sent (`_build_request`). -/
def buildRequest (env : DraftingEnv ν) (channel : Channel) (client : ClientState env.scan) :
    Option ContextSnapshot :=
  let context := loadClientContext client true
  let blocks := promptBlocksForChannel env channel context
  let payload := contextOf context.rawContext context.facts
  match inboundLeak env payload with
  | some _ => none
  | none => some (contextSnapshot channel context blocks payload)

/-- How a reply was judged, with the parse it came to. -/
structure Judgement where
  status : GenerationStatus
  reason : Option String := none
  failedGuardrail : Option String := none
  content : Option Draft := none

/-- The failure of the first check a draft does not pass. -/
def firstFailed : List DraftCheck → CheckedDraft → Option Review.GuardrailFailure
  | [], _ => none
  | check :: checks, draft =>
    match check draft with
    | .error failure => some failure
    | .ok () => firstFailed checks draft

/-- `_ingest_one`, as far as what it persists. -/
def ingestOne (env : DraftingEnv ν) (item : ContextSnapshot) (result : ProviderResult) : Judgement :=
  if result.type ≠ "succeeded" then { status := .rejected, reason := some ("batch result " ++ result.type) }
  else if result.stopReason = some "refusal" then
    { status := .rejected, reason := some "model declined the request" }
  else
    match scanOutbound env.scan result.text.toList [] with
    | .error leak => { status := .rejected, reason := some leak.reason, failedGuardrail := some "pii_scan" }
    | .ok () =>
      match (channelSpec env item.channel).schema.parse env.parseSettings result.text item.facts none with
      | .error reason =>
        { status := .rejected, reason := some reason, failedGuardrail := some "structured_output" }
      | .ok content =>
        let draft := checkedDraft content.fields.get? item.facts item.chunks item.contract
        match firstFailed (channelSpec env item.channel).guardrailChecks draft with
        | some failure =>
          { status := .rejected
            reason := some failure.reason
            failedGuardrail := some failure.guardrail
            content := some content }
        | none => { status := .accepted, content := some content }

/-! ## Where the two agree -/

section
variable {env : DraftingEnv ν} {channel : Channel} {config : AgentConfiguration} {maxAttempts : ℤ}
  {client : ClientState env.scan} {g : GenerationGraph Prepared} {item : ContextSnapshot}

/-- The rules of the configuration, if it has any, let every fact of the client through. -/
def EligibilityKeeps (config : AgentConfiguration) (client : ClientState env.scan) : Prop :=
  ∀ policy ∈ config.factEligibility, ∀ field ∈ (ownFacts client.facts).keys,
    Permitted policy (ownFacts client.facts) field

/-- The configuration resolves to the texts that are built in. -/
def TextsBuiltIn (env : DraftingEnv ν) (channel : Channel) (config : AgentConfiguration) : Prop :=
  promptTexts env channel config = .ok (builtInTexts env channel)

/-- The configuration allows the placeholders that are built in. -/
def PlaceholdersBuiltIn (env : DraftingEnv ν) (config : AgentConfiguration) : Prop :=
  ∀ token, token ∈ resolveAllowedPlaceholders env.scan.repr config.allowedPlaceholderFields ↔
    token ∈ allowedPlaceholders

def ClientState.withoutFacts {settings : ScanSettings} (client : ClientState settings) : ClientState settings :=
  { client with
    facts := none
    built := nofun }

/-- The prompt of an email in two parts: what it says to a client without facts, and the rest of its lines. -/
structure SplitPrompt (env : DraftingEnv ν) (config : AgentConfiguration) (client : ClientState env.scan)
    (item : ContextSnapshot) (prompt : String) : Prop where
  cached : ∃ g, assemblePrompt env .email config 1 client.withoutFacts = .ok g ∧
    item.systemPromptCached = g.systemPrompt
  lines : (textLines item.systemPrompt.toList).Perm (textLines prompt.toList ++
    if conditionalProhibitions (ownFacts client.facts) = [] then []
    else [[], "This client also must never:".toList])
  plain : (ownFacts client.facts).items = [] → item.systemPrompt = prompt

def PromptAlike (env : DraftingEnv ν) (channel : Channel) (config : AgentConfiguration)
    (client : ClientState env.scan) (item : ContextSnapshot) (prompt : String) : Prop :=
  match channel with
  | .email => SplitPrompt env config client item prompt
  | .sms => item.systemPrompt = prompt

/-- The judgement is the one a graph ended with. -/
structure SameJudgement (judged : Judgement) (s : GenerationState Prepared) : Prop where
  status : judged.status = s.status
  reason : judged.reason = s.reason
  failedGuardrail : judged.failedGuardrail = s.failedGuardrail
  content : judged.content = s.content

/-- Every output is judged as by the graph with one attempt. -/
def JudgedAlike (env : DraftingEnv ν) (item : ContextSnapshot) (g : GenerationGraph Prepared) : Prop :=
  ∀ result : ProviderResult, result.type = "succeeded" → result.stopReason ≠ some "refusal" →
    ∃ m, GenerationGraph.Ends { g with maxAttempts := 1 } (fun _ => boundaryVerdict env result.text) m ∧
      SameJudgement (ingestOne env item result) m.state

/-- Rules that let every fact through leave the facts as they are. -/
lemma narrowedFacts_kept (kept : EligibilityKeeps config client) :
    narrowedFacts env.scan.tables env.scan.lax (client.facts.map ModelFactBlock.facts) config.factEligibility =
      .ok (client.facts.map ModelFactBlock.facts) := by
  cases own : client.facts with
  | none => rfl
  | some block =>
    cases rules : config.factEligibility with
    | none => rfl
    | some policy =>
      rw [Option.map_some, narrowedFacts]
      split_ifs
      · rfl
      · have all : block.facts.filterKeys (filterFactsForPrompt block.facts policy).keeps = block.facts := by
          apply Dict.filterKeys_all
          intro field mem
          rw [keeps_filterFactsForPrompt]
          have permitted := kept policy rules field
          rw [own] at permitted
          exact ⟨mem, permitted mem⟩
        obtain ⟨given, built⟩ := client.built block own
        obtain ⟨block', again, same⟩ := modelFactBlock_again built
        dsimp only
        rw [all, again, ← same]
        rfl

/-- The graph of a client whose facts the rules let through. -/
lemma assemblePrompt_kept (kept : EligibilityKeeps config client) :
    assemblePrompt env channel config maxAttempts client = (promptTexts env channel config).map
      (agentGraph env channel config maxAttempts (loadClientContext client env.ragEnabled)
        (client.facts.map ModelFactBlock.facts)) := by
  have narrowed := @narrowedFacts_kept _ env _ _ kept
  simp only [assemblePrompt, loadClientContext, narrowed]

/-- A client without facts has nothing the rules could hold back. -/
lemma eligibilityKeeps_withoutFacts : EligibilityKeeps config client.withoutFacts := by
  intro policy _ field mem
  cases mem

/-! ### The prompts -/

lemma getD_facts : (client.facts.map ModelFactBlock.facts).getD .empty = ownFacts client.facts := rfl

/-- Built-in texts make the parts that a batch builds its blocks from. -/
lemma builtIn_promptParts (context : ClientContext) (facts : Option (Dict String Json)) :
    (promptParts (builtInTexts env channel) context facts).BuiltIn :=
  ⟨rfl, rfl, rfl, rfl, fun _ => rfl⟩

/-- What is built in does not depend on the facts. -/
lemma shared_promptParts (context : ClientContext) (facts : Option (Dict String Json)) (texts : PromptTexts) :
    (promptParts texts context facts).shared = promptParts texts context none := rfl

lemma splitPrompt (builtIn : TextsBuiltIn env .email config) (retrieval : env.ragEnabled = true)
    (payload : Dict String Json) :
    let context := loadClientContext client true
    SplitPrompt env config client (contextSnapshot .email context (promptBlocksForChannel env .email context) payload)
      (String.ofList (promptBuilder .email (promptParts (builtInTexts env .email) context context.facts)
        context.angle)) := by
  intro context
  have parts : (promptParts (builtInTexts env .email) context context.facts).BuiltIn :=
    builtIn_promptParts context context.facts
  refine ⟨?_, ?_, ?_⟩
  · have assembled := @assemblePrompt_kept _ env .email config 1 client.withoutFacts eligibilityKeeps_withoutFacts
    rw [builtIn] at assembled
    refine ⟨_, assembled, ?_⟩
    show String.ofList (buildSystemPromptBlocks _ _ _).cached = String.ofList (buildSystemPrompt _ _ _ _)
    rw [cached_eq_buildSystemPrompt parts, shared_promptParts, retrieval]
    rfl
  · have lines := @lines_blocks _ context.angle [] parts
    show (textLines (String.ofList _).toList).Perm (textLines (String.ofList _).toList ++ _)
    rw [String.toList_ofList, String.toList_ofList]
    exact lines
  · intro nothing
    exact congrArg String.ofList (text_of_no_facts parts nothing)

/-- The prompts of both, where the texts are built in. -/
lemma promptAlike (builtIn : TextsBuiltIn env channel config) (retrieval : env.ragEnabled = true)
    (payload : Dict String Json) :
    let context := loadClientContext client true
    PromptAlike env channel config client
      (contextSnapshot channel context (promptBlocksForChannel env channel context) payload)
      (String.ofList (promptBuilder channel (promptParts (builtInTexts env channel) context context.facts)
        context.angle)) := by
  cases channel with
  | email => exact splitPrompt builtIn retrieval payload
  | sms => exact congrArg String.ofList (if_pos rfl)

/-! ### The replies -/

/-- The checks of a graph see of a parse what those of a batch see. -/
lemma firstFailure_graphChecks (checks : List DraftCheck) {s : GenerationState Prepared} {content : Draft}
    (parsed : s.content = some content) :
    firstFailure (checks.map graphCheck) s = firstFailed checks (checkedDraft content.fields.get? s.prepared.facts
      s.prepared.chunks (s.prepared.contract.map formatContract)) := by
  have fields : GenerationState.read s = content.fields.get? := by
    funext field
    rw [GenerationState.read, parsed]
  induction checks with
  | nil => rfl
  | cons check checks ih =>
    cases found : check (checkedDraft content.fields.get? s.prepared.facts s.prepared.chunks
        (s.prepared.contract.map formatContract)) with
    | error failure => simp only [List.map_cons, firstFailure, firstFailed, graphCheck, fields, found]
    | ok => simp only [List.map_cons, firstFailure, firstFailed, graphCheck, fields, found, ih]

/-- With one attempt the graph ends after the first reply. -/
lemma ends_first (clear : g.inboundLeak = none) (reply : BoundaryVerdict) (single : g.maxAttempts = 1) :
    g.Ends (fun _ => reply) ⟨.finished, g.attempt g.initial reply, 1⟩ := by
  apply ends_stateAt (k := 0) clear
  · exact fun j low => absurd low (Nat.not_lt_zero j)
  · have one : g.limit = 1 := by
      rw [GenerationGraph.limit, single]
      rfl
    by_cases fails : g.Fails (fun _ => reply) 0
    · rw [status_stateAt fails, one, if_neg (Nat.lt_irrefl 1)]
      intro same
      cases same
    · rw [accepted_stateAt fails]
      intro same
      cases same

/-- A reply is judged as the graph's first attempt judges it. -/
lemma sameJudgement (builtIn : PlaceholdersBuiltIn env config) (context : ClientContext) (texts : PromptTexts)
    (blocks : SystemPromptBlocks) (payload : Dict String Json) (result : ProviderResult)
    (succeeded : result.type = "succeeded") (answered : result.stopReason ≠ some "refusal") :
    let g := agentGraph env channel config 1 context context.facts texts
    SameJudgement (ingestOne env (contextSnapshot channel context blocks payload) result)
      (g.attempt g.initial (boundaryVerdict env result.text)) := by
  intro g
  rw [ingestOne, if_neg (not_not.mpr succeeded), if_neg answered, boundaryVerdict]
  cases scanOutbound env.scan result.text.toList [] with
  | error leak => exact ⟨rfl, rfl, rfl, rfl⟩
  | ok =>
    have parse : g.draftParser result.text g.initial.prepared = (channelSpec env channel).schema.parse
        env.parseSettings result.text context.facts none := parse_congr _ _ _ _ builtIn
    dsimp only [contextSnapshot]
    rw [attempt_passed, parse]
    cases (channelSpec env channel).schema.parse env.parseSettings result.text context.facts none with
    | error reason => exact ⟨rfl, rfl, rfl, rfl⟩
    | ok content =>
      have first : firstFailure g.checks ((g.generate g.initial (.passed result.text)).withContent content) =
          firstFailed (channelSpec env channel).guardrailChecks (checkedDraft content.fields.get? context.facts
            context.chunks (context.contract.map formatContract)) := firstFailure_graphChecks _ rfl
      dsimp only
      rw [first]
      cases firstFailed (channelSpec env channel).guardrailChecks (checkedDraft content.fields.get? context.facts
          context.chunks (context.contract.map formatContract)) with
      | some failure => exact ⟨rfl, rfl, rfl, rfl⟩
      | none => exact ⟨rfl, rfl, rfl, rfl⟩

/-! ## A message drafted either way -/

/-- A payload that the inbound scan lets through is kept with its client. -/
lemma buildRequest_clear (clear : inboundLeak env (contextOf client.rawContext
    (client.facts.map ModelFactBlock.facts)) = none) : buildRequest env channel client =
      some (contextSnapshot channel (loadClientContext client true)
        (promptBlocksForChannel env channel (loadClientContext client true))
        (contextOf client.rawContext (client.facts.map ModelFactBlock.facts))) := by
  rw [buildRequest]
  dsimp only [loadClientContext]
  rw [clear]

/-- What a batch stores about a client is what the graph hands to the model, and the reply is judged alike. -/
structure DraftedAlike (env : DraftingEnv ν) (channel : Channel) (config : AgentConfiguration)
    (client : ClientState env.scan) (item : ContextSnapshot) (g : GenerationGraph Prepared) : Prop where
  clear : g.inboundLeak = none
  modelPayload : item.modelPayload = g.prepared.context
  facts : item.facts = g.prepared.facts
  prompt : TextsBuiltIn env channel config → PromptAlike env channel config client item g.systemPrompt
  judged : PlaceholdersBuiltIn env config → JudgedAlike env item g

/-- With retrieval on, and under rules that let every fact of the client through, a batch sends the payload and
    the facts that the graph sends on its first attempt, and sends nothing where the graph's inbound scan
    raises. With the built-in texts the prompt of an SMS is the graph's, and that of an email is the graph's in
    two parts; with the built-in placeholders every output is judged as by the graph with one attempt. -/
theorem drafted_alike (env : DraftingEnv ν) (channel : Channel) (config : AgentConfiguration) (maxAttempts : ℤ)
    (client : ClientState env.scan) (retrieval : env.ragEnabled = true) (kept : EligibilityKeeps config client)
    {g : GenerationGraph Prepared} (assembled : assemblePrompt env channel config maxAttempts client = .ok g) :
    match buildRequest env channel client with
    | none => g.inboundLeak ≠ none
    | some item => DraftedAlike env channel config client item g := by
  rw [assemblePrompt_kept kept, retrieval] at assembled
  obtain ⟨texts, resolved, rfl⟩ := map_eq_ok.mp assembled
  have scanned : (agentGraph env channel config maxAttempts (loadClientContext client true)
      (client.facts.map ModelFactBlock.facts) texts).inboundLeak =
        inboundLeak env (contextOf client.rawContext (client.facts.map ModelFactBlock.facts)) := rfl
  rw [scanned, buildRequest]
  dsimp only [loadClientContext]
  cases clear : inboundLeak env (contextOf client.rawContext (client.facts.map ModelFactBlock.facts)) with
  | some leak => exact nofun
  | none =>
    refine ⟨clear, rfl, rfl, ?_, ?_⟩
    · intro builtIn
      rw [builtIn] at resolved
      cases resolved
      exact promptAlike builtIn retrieval _
    · intro builtIn result succeeded answered
      refine ⟨_, ends_first clear _ rfl, ?_⟩
      exact sameJudgement builtIn (loadClientContext client true) texts _ _ result succeeded answered

end

/-- An agent for ASCII texts. -/
def sampleEnv : DraftingEnv ℕ where
  scan := asciiSettings
  print := ⟨fun _ => [], fun _ => []⟩
  format := naturals
  decodeText := fun _ => "Expecting value"
  validationText := fun _ message => message.getD "Field required"
  baseInstructions := fun channel => if channel = .email then "Draft one short email. " else "Draft one short text. "
  ragEnabled := true

/-- A client of whom one fact is known. -/
def waveBlock : ModelFactBlock sampleEnv.scan.tables where
  facts := ⟨[("in_wave", .bool true)], by decide⟩
  typed := by
    intro name value held
    obtain ⟨rfl, rfl⟩ := Prod.mk.inj (List.mem_singleton.mp ((Dict.mem_items_iff _).mpr held))
    exact ⟨.flag, rfl, rfl⟩
  monthTheyLeft := rfl
  monthTheAccountEmpties := rfl
  cadence := by decide

def waveClient : ClientState sampleEnv.scan where
  rawContext := .empty
  angle := "second_try"
  brief := none
  contract := none
  facts := some waveBlock
  built := by
    intro block mem
    cases mem
    exact ⟨waveBlock.facts, rfl⟩
  retrieved := []

/-- What is kept of the client. -/
def waveSnapshot (channel : Channel) : ContextSnapshot :=
  let context := loadClientContext waveClient true
  contextSnapshot channel context (promptBlocksForChannel sampleEnv channel context)
    (contextOf context.rawContext context.facts)

lemma buildRequest_wave (channel : Channel) :
    buildRequest sampleEnv channel waveClient = some (waveSnapshot channel) :=
  buildRequest_clear rfl

/-- Nothing is configured: the text message of the client is drafted and judged alike. -/
theorem drafted_alike_wave : ∃ g, assemblePrompt sampleEnv .sms hardcodedConfiguration 2 waveClient = .ok g ∧
    (waveSnapshot .sms).systemPrompt = g.systemPrompt ∧ JudgedAlike sampleEnv (waveSnapshot .sms) g := by
  have alike := drafted_alike sampleEnv .sms hardcodedConfiguration 2 waveClient rfl nofun rfl
  rw [buildRequest_wave] at alike
  exact ⟨_, rfl, alike.prompt rfl, alike.judged fun _ => Iff.rfl⟩

/-- A policy that lets no fact through. -/
def closedConfiguration : AgentConfiguration where
  factEligibility := some allProhibited

/-- The email of the client is drafted under another text, and under a policy that prohibits its fact a batch
    sends the fact. -/
theorem drafted_apart : (¬ ∀ (client : ClientState sampleEnv.scan) (item : ContextSnapshot)
      (g : GenerationGraph Prepared), assemblePrompt sampleEnv .email hardcodedConfiguration 2 client = .ok g →
        buildRequest sampleEnv .email client = some item → item.systemPrompt = g.systemPrompt) ∧
    ∃ item g, buildRequest sampleEnv .email waveClient = some item ∧
      assemblePrompt sampleEnv .email closedConfiguration 2 waveClient = .ok g ∧
        "in_wave" ∈ item.modelPayload.keys ∧ "in_wave" ∉ g.prepared.context.keys := by
  refine ⟨?_, _, _, buildRequest_wave .email, rfl, by decide, by decide⟩
  intro same
  have prompts := same waveClient _ _ rfl (buildRequest_wave .email)
  have split : SplitPrompt sampleEnv hardcodedConfiguration waveClient (waveSnapshot .email)
      (waveSnapshot .email).systemPrompt := by
    rw [prompts]
    exact @splitPrompt _ sampleEnv hardcodedConfiguration waveClient rfl rfl _
  have moved : conditionalProhibitions (ownFacts waveClient.facts) ≠ [] := by decide +kernel
  have lines := split.lines.length_eq
  rw [List.length_append, if_neg moved, List.length_cons] at lines
  omega

end ClientEngagement.BatchDrafting
