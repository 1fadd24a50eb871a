import ClientEngagement.Prompts.FactEligibility
import ClientEngagement.Rules.TierContract

/-!
# Prompt configuration

Model of `agents/prompt_config.py` over the tables it reads. The voice contract, the safety policy
and the output policy are keyed by channel, the base instructions by prompt name and the tier
contract by tier; the personalization policy is one component. `resolveActiveConfiguration`
(`resolve_active_configuration`) walks the dates, `resolvePinnedConfiguration`
(`resolve_pinned_configuration`) looks the given versions up; both end in `configurationFromRows`
(`_configuration_from_rows`).

The JSON columns may hold any value, so the code may raise on them (`ConfigurationError`). A SQL NULL
and a JSON null read alike. `repr` is what Python prints for a number, a list or a dictionary.
-/

namespace ClientEngagement.Prompts

open Rules

/-- What a configuration reads of a voice contract. -/
structure VoiceContract where
  bodyMarkdown : Option String := none
  defaultSignOff : Option String := none
  renderedText : String

/-- The word lists of a safety policy. -/
structure SafetyPolicy where
  bannedWords : Json := .null
  bannedPhrases : Json := .null
  campaignProhibitions : Json := .null

structure OutputPolicy where
  outputSchemaNote : Option String := none
  placeholderRules : Json := .null
  formattingRestrictions : Json := .null

/-- `personalization_policy`: no key column, one row a version. -/
def personalizationSpec : ComponentSpec Unit ℤ where
  keyed := false
  uniqueKey := fun version _ _ => version

/-- The component tables behind a prompt, and the fact eligibility rules. -/
structure PromptStores where
  tierContract : TierContracts
  voiceContract : Store (keyedSpec VoiceContract)
  safetyPolicy : Store (keyedSpec SafetyPolicy)
  outputPolicy : Store (keyedSpec OutputPolicy)
  personalizationPolicy : Store personalizationSpec
  agentPrompt : Store (keyedSpec String)
  factEligibility : FactTable

structure AgentConfiguration where
  tierContractVersion : Option ℤ := none
  voiceContractVersion : Option ℤ := none
  safetyPolicyVersion : Option ℤ := none
  outputPolicyVersion : Option ℤ := none
  personalizationPolicyVersion : Option ℤ := none
  voiceText : Option String := none
  safetyWords : Option (List Json) := none
  safetyPhrases : Option (List Json) := none
  campaignProhibitions : Option (List Json) := none
  outputRules : Option String := none
  defaultSignOff : Option String := none
  allowedPlaceholderFields : Option (List Json) := none
  factEligibility : Option (Dict String ExposureMode) := none
  baseInstructions : Option String := none
  baseInstructionsVersion : Option ℤ := none

/-- `HARDCODED_CONFIGURATION`. -/
def hardcodedConfiguration : AgentConfiguration := {}

/-- A JSON column does not have the shape the code expects of it. -/
inductive ConfigurationError where
  | wrongShape (column : String)
deriving DecidableEq, Repr

/-! ## Rendering a policy -/

/-- `value or {}`, which has to be a dictionary. -/
def dictOr (column : String) (value : Json) : Except ConfigurationError Json :=
  if value.truthy then
    match value with
    | .obj fields => .ok (.obj fields)
    | _ => .error (.wrongShape column)
  else .ok (.obj [])

/-- `tuple(value) if value else None`. -/
def tupleOf (column : String) (value : Json) : Except ConfigurationError (Option (List Json)) :=
  if value.truthy then
    match value.iter? with
    | some items => .ok (some items)
    | none => .error (.wrongShape column)
  else .ok none

/-- The tokens a message may use, as the prompt lists them. -/
def placeholderText (repr : Json → String) (fields : List Json) : String :=
  let tokens := ", ".intercalate (fields.map fun field => "\x7b\x7b" ++ field.pyStr repr ++ "\x7d\x7d")
  "PLACEHOLDERS: You may use \x7b\x7bfirst_name\x7d\x7d and \x7b\x7bfund_name\x7d\x7d. If the " ++
    "supplied facts contain any of these tokens, reproduce them exactly when relevant: " ++ tokens ++
    ". These tokens represent client specific values that will be filled after review. " ++
    "Do not replace them with numbers, calculate values from them, or omit them when the " ++
    "selected angle explicitly requires the token. These are the ONLY permitted " ++
    "placeholders. Never create, modify, or use another placeholder."

/-- The bounds the formatting restrictions put on a message. -/
def boundTexts (repr : Json → String) (restrictions : Json) : List String :=
  (match restrictions.field? "body_min_words", restrictions.field? "body_max_words" with
    | some least, some most =>
      ["The acceptable body range is " ++ least.pyStr repr ++ " to " ++ most.pyStr repr ++ " words."]
    | _, _ => []) ++
  (match restrictions.field? "subject_max_words" with
    | some most => ["Never exceed " ++ most.pyStr repr ++ " words in the subject."]
    | none => []) ++
  if (restrictions.field? "no_em_dashes").any Json.truthy then
    ["Do not use em dashes or hyphens anywhere in the subject or body."]
  else []

/-- `render_output_rules`. -/
def renderOutputRules (repr : Json → String) (output : OutputPolicy) :
    Except ConfigurationError String :=
  (dictOr "placeholder_rules" output.placeholderRules).bind fun rules =>
    (tupleOf "placeholder_rules" ((rules.field? "fields").getD .null)).bind fun fields =>
      (dictOr "formatting_restrictions" output.formattingRestrictions).map fun restrictions =>
        let note := output.outputSchemaNote.toList.filter (· ≠ "")
        let placeholders := fields.toList.map (placeholderText repr)
        let bounds := boundTexts repr restrictions
        let formatting := if bounds = [] then [] else ["FORMATTING: " ++ " ".intercalate bounds]
        " ".intercalate (note ++ placeholders ++ formatting)

/-- The versions a configuration is stamped with. -/
structure VersionStamps where
  tierContract : Option ℤ
  voiceContract : Option ℤ
  safetyPolicy : Option ℤ
  outputPolicy : Option ℤ
  personalizationPolicy : Option ℤ
  baseInstructions : Option ℤ
deriving DecidableEq, Repr

/-- What `assemble_prompt` puts on the run. -/
def AgentConfiguration.stamps (config : AgentConfiguration) : VersionStamps where
  tierContract := config.tierContractVersion
  voiceContract := config.voiceContractVersion
  safetyPolicy := config.safetyPolicyVersion
  outputPolicy := config.outputPolicyVersion
  personalizationPolicy := config.personalizationPolicyVersion
  baseInstructions := config.baseInstructionsVersion

/-- The rules are rendered only where the voice has no body of its own. -/
def outputRulesOf (repr : Json → String) (voice : Option VoiceContract) (output : Option OutputPolicy) :
    Except ConfigurationError (Option String) :=
  match output, voice with
  | some policy, some contract =>
    if contract.bodyMarkdown = none then (renderOutputRules repr policy).map some else .ok none
  | _, _ => .ok none

def allowedPlaceholderFieldsOf (output : Option OutputPolicy) :
    Except ConfigurationError (Option (List Json)) :=
  match output with
  | none => .ok none
  | some policy =>
    (dictOr "placeholder_rules" policy.placeholderRules).bind fun rules =>
      tupleOf "placeholder_rules" ((rules.field? "fields").getD .null)

def wordListOf (column : String) (read : SafetyPolicy → Json) (safety : Option SafetyPolicy) :
    Except ConfigurationError (Option (List Json)) :=
  match safety with
  | none => .ok none
  | some policy => tupleOf column (read policy)

/-- `_configuration_from_rows`. -/
def configurationFromRows (repr : Json → String) (stamps : VersionStamps)
    (voice : Option VoiceContract) (safety : Option SafetyPolicy) (output : Option OutputPolicy)
    (factEligibility : Option (Dict String ExposureMode)) (baseInstructions : Option String) :
    Except ConfigurationError AgentConfiguration :=
  (outputRulesOf repr voice output).bind fun outputRules =>
  (allowedPlaceholderFieldsOf output).bind fun allowed =>
  (wordListOf "banned_words" SafetyPolicy.bannedWords safety).bind fun words =>
  (wordListOf "banned_phrases" SafetyPolicy.bannedPhrases safety).bind fun phrases =>
  (wordListOf "campaign_prohibitions" SafetyPolicy.campaignProhibitions safety).map
    fun prohibitions =>
      { tierContractVersion := stamps.tierContract
        voiceContractVersion := stamps.voiceContract
        safetyPolicyVersion := stamps.safetyPolicy
        outputPolicyVersion := stamps.outputPolicy
        personalizationPolicyVersion := stamps.personalizationPolicy
        voiceText := voice.map VoiceContract.renderedText
        safetyWords := words
        safetyPhrases := phrases
        campaignProhibitions := prohibitions
        outputRules := outputRules
        defaultSignOff := voice.bind VoiceContract.defaultSignOff
        allowedPlaceholderFields := allowed
        factEligibility := factEligibility
        baseInstructions := baseInstructions
        baseInstructionsVersion := stamps.baseInstructions }

/-! ## Resolving -/

section
variable {ν ι : Type*} {spec : ComponentSpec ν ι}

/-- The version of a component in force on a date (`_resolve_version`). -/
def resolveVersion (s : Store spec) (componentKey : String) (date : Date) : Option ℤ :=
  activeVersion (s.rows.filter (spec.addresses componentKey)) date

/-- The row of one version and key. -/
def rowAt (s : Store (keyedSpec ν)) (version : ℤ) (key : String) : Option (Row ν) :=
  s.rows.find? fun r => r.version = version ∧ r.key = key

/-- The row of a version that may not be given. -/
def pinnedRow (s : Store (keyedSpec ν)) (version : Option ℤ) (key : String) : Option (Row ν) :=
  version.bind fun v => rowAt s v key

end

/-- `active_prompt`. -/
def activePrompt (s : Store (keyedSpec String)) (promptKey : String) (date : Date) :
    Option (Row String) :=
  minBy (fun r => OrderDual.toDual r.rank)
    (s.rows.filter fun r => r.key = promptKey ∧ r.inForce date)

def baseInstructionsKey (channel : String) : String :=
  if channel = "email" then "email_base_instructions" else "sms_base_instructions"

/-- The configuration in force on a date (`resolve_active_configuration`). `scan` lists the fact
    eligibility rules as the database returned them. -/
def resolveActiveConfiguration (repr : Json → String) (stores : PromptStores) (scan : List FactRule)
    (hardcoded : Bool) (angle tier : Option String) (channel : String) (date : Date) :
    Except ConfigurationError AgentConfiguration :=
  if hardcoded then .ok hardcodedConfiguration
  else
    let voiceVersion := resolveVersion stores.voiceContract channel date
    let safetyVersion := resolveVersion stores.safetyPolicy channel date
    let outputVersion := resolveVersion stores.outputPolicy channel date
    let personalizationVersion :=
      resolveVersion stores.personalizationPolicy defaultComponentKey date
    let baseRow := activePrompt stores.agentPrompt (baseInstructionsKey channel) date
    configurationFromRows repr
      { tierContract := tier.bind fun t => resolveVersion stores.tierContract t date
        voiceContract := voiceVersion
        safetyPolicy := safetyVersion
        outputPolicy := outputVersion
        personalizationPolicy := personalizationVersion
        baseInstructions := baseRow.map Row.version }
      ((pinnedRow stores.voiceContract voiceVersion channel).map Row.content)
      ((pinnedRow stores.safetyPolicy safetyVersion channel).map Row.content)
      ((pinnedRow stores.outputPolicy outputVersion channel).map Row.content)
      (personalizationVersion.map fun version => resolveFactEligibility scan angle version)
      (baseRow.map Row.content)

/-- The configuration of given versions (`resolve_pinned_configuration`). -/
def resolvePinnedConfiguration (repr : Json → String) (stores : PromptStores) (scan : List FactRule)
    (versions : VersionStamps) (angle : Option String) (channel : String) :
    Except ConfigurationError AgentConfiguration :=
  let baseRow := pinnedRow stores.agentPrompt versions.baseInstructions (baseInstructionsKey channel)
  let voiceRow := pinnedRow stores.voiceContract versions.voiceContract channel
  let safetyRow := pinnedRow stores.safetyPolicy versions.safetyPolicy channel
  let outputRow := pinnedRow stores.outputPolicy versions.outputPolicy channel
  configurationFromRows repr
    { tierContract := versions.tierContract
      voiceContract := voiceRow.map Row.version
      safetyPolicy := safetyRow.map Row.version
      outputPolicy := outputRow.map Row.version
      personalizationPolicy := versions.personalizationPolicy
      baseInstructions := baseRow.map Row.version }
    (voiceRow.map Row.content) (safetyRow.map Row.content) (outputRow.map Row.content)
    (versions.personalizationPolicy.map fun version => resolveFactEligibility scan angle version)
    (baseRow.map Row.content)

/-- A configuration carries the versions it was built for. -/
lemma stamps_of_configurationFromRows {repr : Json → String} {stamps : VersionStamps}
    {voice : Option VoiceContract} {safety : Option SafetyPolicy} {output : Option OutputPolicy}
    {facts : Option (Dict String ExposureMode)} {base : Option String} {config : AgentConfiguration}
    (h : configurationFromRows repr stamps voice safety output facts base = .ok config) :
    config.stamps = stamps := by
  rw [configurationFromRows] at h
  obtain ⟨outputRules, -, h⟩ := bind_eq_ok.mp h
  obtain ⟨allowed, -, h⟩ := bind_eq_ok.mp h
  obtain ⟨words, -, h⟩ := bind_eq_ok.mp h
  obtain ⟨phrases, -, h⟩ := bind_eq_ok.mp h
  obtain ⟨prohibitions, -, rfl⟩ := map_eq_ok.mp h
  rfl

end ClientEngagement.Prompts
