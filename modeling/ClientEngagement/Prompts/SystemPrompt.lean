import ClientEngagement.Lib.Json
import ClientEngagement.Lib.PythonText
import ClientEngagement.Rules.TierContract

/-!
# The system prompt

Model of `build_system_prompt` (`agents/email_agent.py`): the sections of the prompt a draft is written
under, and the lines of its prohibitions. What its caller resolves from the live configuration comes as
`PromptParts`. Every line a caller adds to the prohibitions and every mix instruction stands in the prompt
(`prohibition_in_prompt`, `mix_in_prompt`).
-/

namespace ClientEngagement.Prompts

/-- `CAMPAIGN_PROHIBITIONS`. -/
def campaignProhibitions : List String :=
  ["Never state how many times the client invested. Only part of their history is visible, so any " ++
      "count would be wrong for much of this population.",
    "Never mention a balance, an amount still invested, or money waiting in an account. Every client " ++
      "here holds none.",
    "Never imply when the client first invested, or how long the relationship lasted in total. Only " ++
      "their recent activity is visible.",
    "Never state a number that is not in the facts you were given. Do not calculate, round, or combine " ++
      "them into a new one.",
    "Never promise a return, a rate, or a guarantee.",
    "Never open the email by asking the client to confirm their contact details, identity, or preferred " ++
      "email address. Do not use contact verification as a generic opener, a personalization technique, " ++
      "or a safety habit, only when the selected angle's ask itself is to verify contact details.",
    "Never ask the client to explain, justify, or confirm a historical transaction or account event, " ++
      "unless the selected angle's ask is itself that diagnostic question. Facts about how or why an " ++
      "account event happened are for choosing the angle, not for putting in front of the client."]

/-- `BANNED_WORDS`. -/
def bannedWords : List String := ["park"]

/-- What a prompt is built from, besides the angle and what a proposal adds. `core` is the voice text, or
    the base instructions where there is none. -/
structure PromptParts where
  core : String
  safetyWords : List String := bannedWords
  safetyPhrases : List String := []
  campaignProhibitions : List String := Prompts.campaignProhibitions
  outputRules : Option String := none
  defaultSignOff : Option String := none
  brief : Option Rules.AngleBrief := none
  contract : Option Rules.TierPolicy := none
  facts : Dict String Json := .empty
  chunks : List String := []

/-! ## The sections -/

def bannedWordsClause (words : List String) : String :=
  if words = [] then ""
  else
    "BANNED WORDS: Never use these words, or any close variant or inflection of them, anywhere in the " ++
      "subject or body, even where one seems like the natural word to use: " ++
      ", ".intercalate words ++ ". Rewrite the sentence with a different word instead. "

def bannedPhrasesClause (phrases : List String) : String :=
  if phrases = [] then ""
  else
    "BANNED PHRASES: Never use these exact phrases anywhere in the subject or body: " ++
      ", ".intercalate phrases ++ ". Rewrite the sentence to avoid them. "

/-- `_DEFAULT_VARIANT_GUIDANCE`; a prompt is built without a session, so no variant has its own. -/
def defaultVariantGuidance : String :=
  "Offer a flexible, low pressure way back in, grounded only in the facts provided."

def templateText (parts : PromptParts) : String :=
  parts.core ++ bannedWordsClause parts.safetyWords ++ bannedPhrasesClause parts.safetyPhrases ++
    "\n\n" ++ defaultVariantGuidance

def briefBlock (brief : Rules.AngleBrief) : String :=
  "\n".intercalate
    (["Angle: " ++ brief.headline ++ "\nWhat is true about this client: " ++ brief.claim ++
        "\nWhat to ask them for: " ++ brief.ask] ++
      ((brief.use.filter (· ≠ "")).map fun use =>
        "How retrieved facts may be used for this angle: " ++ use).toList ++
      ((brief.cta.filter (· ≠ "")).map fun cta =>
        "The call to action must read, as close to verbatim as natural: " ++ cta).toList)

def contractBlock (contract : Rules.TierPolicy) : String :=
  "Write no more than " ++ toString contract.maxWords ++ " words in the body. Sign the message off as " ++
    contract.signOff ++ "."

/-- What a client's own figures add to the prohibitions. -/
def conditionalProhibitions (facts : Dict String Json) : List String :=
  if facts.items = [] then []
  else
    (if (facts.get? "invested_every_n_days").any Json.truthy then []
      else ["This client has no measurable cadence. Never reference a rhythm, a schedule, or a pattern " ++
        "of investing."]) ++
    if (facts.get? "exit_reason").bind Json.text? = some "charge_settled" then
      ["This client's balance settled to zero through a charge, not a withdrawal they asked for. This " ++
        "is internal targeting context only: never refer to a decision to leave, and never mention the " ++
        "balance, the charge, or the account settling to zero to the client."]
    else []

/-- The lines of `prohibitions_block`. -/
def prohibitionLines (parts : PromptParts) (extra : List String) : List String :=
  parts.campaignProhibitions ++ (parts.brief.map Rules.AngleBrief.never).toList ++ extra ++
    conditionalProhibitions parts.facts

/-- A line as `prohibitions_block` writes it. -/
def bullet (line : String) : List Char := "- ".toList ++ line.toList

def prohibitionsBlock (parts : PromptParts) (extra : List String) : List Char :=
  separated ['\n'] ((prohibitionLines parts extra).map bullet)

def renderFacts (chunks : List String) : List Char :=
  if chunks = [] then "(no facts retrieved; do not cite a rate or return)".toList
  else separated ['\n'] (chunks.map bullet)

/-- The section of a mix instruction. -/
def mixSection (mixInstruction : String) : List Char :=
  "How much to explain and how much to ask:\n".toList ++ mixInstruction.toList

def signOffSection (parts : PromptParts) : List String :=
  match parts.contract with
  | some contract => [contractBlock contract]
  | none =>
    ((parts.defaultSignOff.filter (· ≠ "")).map fun signOff =>
      "Sign every email off as \"" ++ signOff ++ "\", exactly as given.").toList

def promptSections (parts : PromptParts) (angle : String) (extraProhibitions : List String)
    (mixInstruction : Option String) : List (List Char) :=
  [(templateText parts).toList] ++
    (parts.outputRules.map String.toList).toList ++
    [match parts.brief with
      | some brief => (briefBlock brief).toList
      | none => "Angle: ".toList ++ (if angle = "" then "winback" else angle).toList] ++
    ((mixInstruction.filter (· ≠ "")).map mixSection).toList ++
    (signOffSection parts).map String.toList ++
    ["You must never:\n".toList ++ prohibitionsBlock parts extraProhibitions] ++
    (if parts.facts.items = [] then []
      else [("The client's own figures are given in the user message. Use only those, exactly as " ++
        "written, and omit any claim you have no fact for.").toList]) ++
    ["Facts you may cite (only these, verbatim):\n".toList ++ renderFacts parts.chunks]

def buildSystemPrompt (parts : PromptParts) (angle : String) (extraProhibitions : List String)
    (mixInstruction : Option String) : List Char :=
  separated "\n\n".toList (promptSections parts angle extraProhibitions mixInstruction)

/-! ## What stands in a prompt -/

variable {parts : PromptParts} {angle : String} {extra : List String} {mix : Option String}

lemma section_in_prompt {part : List Char} (mem : part ∈ promptSections parts angle extra mix) :
    part <:+: buildSystemPrompt parts angle extra mix :=
  infix_separated _ mem

/-- A line a caller adds is one of those the prompt prohibits. -/
theorem prohibition_in_prompt {line : String} (added : line ∈ extra) :
    bullet line <:+: buildSystemPrompt parts angle extra mix := by
  have listed : bullet line ∈ (prohibitionLines parts extra).map bullet := by
    apply List.mem_map_of_mem
    rw [prohibitionLines]
    exact List.mem_append_left _ (List.mem_append_right _ added)
  have block : bullet line <:+: "You must never:\n".toList ++ prohibitionsBlock parts extra :=
    (infix_separated _ listed).trans (List.suffix_append _ _).isInfix
  apply block.trans
  apply section_in_prompt
  rw [promptSections]
  refine List.mem_append_left _ (List.mem_append_left _ (List.mem_append_right _ ?_))
  exact List.mem_singleton_self _

/-- So is the instruction on how much to explain. -/
theorem mix_in_prompt {instruction : String} (filled : instruction ≠ "") :
    mixSection instruction <:+: buildSystemPrompt parts angle extra (some instruction) := by
  apply section_in_prompt
  rw [promptSections, Option.filter_some, if_pos (decide_eq_true filled)]
  refine List.mem_append_left _ (List.mem_append_left _ (List.mem_append_left _
    (List.mem_append_left _ (List.mem_append_right _ ?_))))
  exact List.mem_singleton_self _

end ClientEngagement.Prompts
