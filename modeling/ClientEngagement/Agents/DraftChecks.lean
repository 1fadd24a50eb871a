import ClientEngagement.Agents.Graph
import ClientEngagement.Prompts.SystemPrompt
import ClientEngagement.Review.Traceability

/-!
# The checks a draft has to pass

Model of the checks of `agents/guardrails.py` and of `rag/grounding.py`: what each channel holds a parsed draft
to. A check reads the draft's subject and body, the facts and the chunks it was drafted from and the contract of
its tier, and nothing else (`CheckedDraft`).
-/

namespace ClientEngagement.Agents
open Privacy (placeholderPattern digitClass decimals wordBoundary)
open Review (GuardrailFailure NumberText numbersIn traceableNumbers)
open Rules (isSpace reprNames)

/-- A retrieved chunk, as the checks see it. -/
structure GroundingChunk where
  chunkId : ℤ
  text : String

/-- What a check reads of a tier contract. -/
structure FormatContract where
  maxWords : ℤ
  signOff : String

/-- What a check reads. -/
structure CheckedDraft where
  subject : Option String
  body : String
  facts : Option (Dict String Json)
  chunks : List GroundingChunk
  contract : Option FormatContract

/-- What the checks take from elsewhere: the Unicode tables, Python's printing of numbers and the public
    contact numbers of the settings. -/
structure CheckSettings where
  tables : Unicode
  print : NumberText
  publicContactNumbers : List String

abbrev DraftCheck := CheckedDraft → Except GuardrailFailure Unit

/-- `f"\x7bsubject\x7d\n\x7bbody\x7d"`. -/
def CheckedDraft.whole (draft : CheckedDraft) : List Char :=
  (draft.subject.getD "" ++ "\n" ++ draft.body).toList

/-! ## Patterns -/

/-- The letters of other alphabets that `re.IGNORECASE` takes for an ASCII letter. -/
def otherCases (letter : Char) : List ℕ :=
  if letter = 'i' then [0x130, 0x131] else if letter = 's' then [0x17f] else if letter = 'k' then [0x212a] else []

/-- A lower-case letter in either case. -/
def anyCase (letter : Char) : Regex Char :=
  .one fun c => c.toLower = letter || c.toNat ∈ otherCases letter

def anyCaseText (text : String) : Regex Char := .seqs (text.toList.map anyCase)

/-- `\d\x7b1,3\x7d(?:\.\d+)?`. -/
def ratePattern (tables : Unicode) : Regex Char :=
  .seq (.between 1 2 (digitClass tables)) (decimals tables)

/-- `_PCT`, and `_PERCENT`. -/
def percentPattern (tables : Unicode) : Regex Char :=
  .seqs [ratePattern tables, .star (.one isSpace),
    .alt (.lit ['%']) (.seqs [anyCaseText "per", .opt (.one isSpace), anyCaseText "cent"])]

/-- `_VAGUE_RETURN`. -/
def vagueReturnPattern (tables : Unicode) : Regex Char :=
  .seqs [wordBoundary tables,
    .alts (["meaningful", "competitive", "attractive", "solid", "strong", "healthy", "generous", "great", "good",
      "decent"].map anyCaseText),
    .plus (.one isSpace),
    .alts (["return", "rate", "yield"].map fun noun => .seq (anyCaseText noun) (.opt (anyCase 's'))),
    wordBoundary tables]

/-- `_NON_KES_CURRENCY`. -/
def nonKesPattern (tables : Unicode) : Regex Char :=
  .alt (.lit ['$']) (.seqs [wordBoundary tables, .lit "USD".toList, wordBoundary tables])

/-- `_BANNED_WORD_PATTERN`. -/
def bannedWordPattern (tables : Unicode) : Regex Char :=
  .seqs [wordBoundary tables, .alts (Prompts.bannedWords.map anyCaseText), .star (.one tables.word)]

/-! ## The checks -/

/-- The figure of each percentage claim of a text, in order. -/
def ratesIn (tables : Unicode) (text : List Char) : List (List Char) :=
  (Regex.findall (percentPattern tables) text).map fun found =>
    found.takeWhile fun c => tables.digit c || c = '.'

section
local instance lawfulFigure : LawfulBEq (List Char) := inferInstance

/-- The claims of a text that no chunk makes (`check_grounding`). -/
def unsupportedRates (tables : Unicode) (text : String) (chunks : List GroundingChunk) : List (List Char) :=
  (ratesIn tables (Regex.sub placeholderPattern [' '] text.toList)).eraseDups.filter fun rate =>
    chunks.all fun chunk => rate ∉ ratesIn tables chunk.text.toList

end

section
variable (settings : CheckSettings)

/-- `default_grounding_check`. -/
def defaultGroundingCheck : DraftCheck := fun draft =>
  let unsupported := unsupportedRates settings.tables draft.body draft.chunks
  if unsupported = [] then .ok ()
  else .error
    { reason := "unsupported rate claims: " ++
        reprNames (unsupported.map fun rate => String.ofList (rate ++ ['%']))
      guardrail := "grounding" }

/-- `traceable_numbers` of the facts and the chunks, with the public contact numbers. -/
def allowedNumbers (facts : Option (Dict String Json)) (chunks : List GroundingChunk) : List (List Char) :=
  traceableNumbers settings.tables settings.print (facts.getD .empty) ++
    (chunks.flatMap fun chunk => numbersIn settings.tables chunk.text.toList) ++
      settings.publicContactNumbers.flatMap fun number => numbersIn settings.tables number.toList

section
local instance lawfulNumber : LawfulBEq (List Char) := inferInstance

/-- `default_numeric_traceability_check`. -/
def defaultNumericTraceabilityCheck : DraftCheck := fun draft =>
  let body := Regex.sub placeholderPattern [' '] draft.body.toList
  let untraceable := (numbersIn settings.tables body).filter fun number =>
    number ∉ allowedNumbers settings draft.facts draft.chunks
  if untraceable = [] then .ok ()
  else .error
    { reason := "body carries numbers that trace to no fact or retrieved chunk: " ++
        reprNames (sortBy id (untraceable.map String.ofList).dedup)
      guardrail := "numeric_traceability" }

end

/-- A draft of the wrong length. -/
def wrongLength (reason : String) : Except GuardrailFailure Unit :=
  .error { reason, guardrail := "format_length" }

/-- `_word_count`. -/
def wordCount (text : String) : ℕ := ((text.toList.splitOnP isSpace).filter (· ≠ [])).length

/-- `default_format_check`. -/
def defaultFormatCheck : DraftCheck := fun draft =>
  let subject := (draft.subject.getD "").toList.length
  let body := draft.body.toList.length
  if 100 < subject then wrongLength ("subject is " ++ toString subject ++ " characters, over the 100 limit")
  else if body < 20 then wrongLength ("body is " ++ toString body ++ " characters, under the 20 minimum")
  else
    match draft.contract with
    | some contract =>
      let words := wordCount draft.body
      if contract.maxWords < words then
        wrongLength ("body is " ++ toString words ++ " words, over the " ++ toString contract.maxWords ++
          " this tier allows")
      else .ok ()
    | none =>
      if 2000 < body then wrongLength ("body is " ++ toString body ++ " characters, over the 2000 limit")
      else .ok ()

/-- `sms_part_count`. -/
def smsPartCount (body : String) : ℕ :=
  let length := body.toList.length
  if length = 0 then 0 else if length ≤ 160 then 1 else (length + 152) / 153

/-- `default_sms_length_check`. -/
def defaultSmsLengthCheck : DraftCheck := fun draft =>
  let body := draft.body.toList.length
  if body < 10 then wrongLength ("body is " ++ toString body ++ " characters, under the 10 minimum")
  else if 3 < smsPartCount draft.body then
    wrongLength ("body runs to " ++ toString (smsPartCount draft.body) ++ " SMS parts, over the 3 allowed")
  else .ok ()

/-- `default_currency_check`. -/
def defaultCurrencyCheck : DraftCheck := fun draft =>
  if (nonKesPattern settings.tables).search draft.whole then
    .error
      { reason := "draft used a non-KES currency ($ or USD); client money is KES only"
        guardrail := "currency" }
  else .ok ()

/-- `default_banned_words_check`. -/
def defaultBannedWordsCheck : DraftCheck := fun draft =>
  let hits := (Regex.findall (bannedWordPattern settings.tables) draft.whole).map fun found =>
    String.ofList (lower settings.tables found)
  if hits = [] then .ok ()
  else .error
    { reason := "draft used a banned word: " ++ reprNames (sortBy id hits.dedup)
      guardrail := "banned_words" }

/-- `default_sign_off_check`. -/
def defaultSignOffCheck : DraftCheck := fun draft =>
  match draft.contract with
  | none => .ok ()
  | some contract =>
    if occursIn contract.signOff.toList draft.body.toList then .ok ()
    else .error
      { reason := "body is missing the required sign off: '" ++ contract.signOff ++ "'"
        guardrail := "sign_off" }

/-- `default_rate_specificity_check`. -/
def defaultRateSpecificityCheck : DraftCheck := fun draft =>
  let states := (percentPattern settings.tables).search
  if states draft.body.toList then .ok ()
  else if ¬ (vagueReturnPattern settings.tables).search draft.body.toList then .ok ()
  else if states (separated [' '] (draft.chunks.map fun chunk => chunk.text.toList)) then
    .error
      { reason := "body describes a return vaguely while a specific rate was retrieved and available"
        guardrail := "rate_specificity" }
  else .ok ()

/-- `DEFAULT_GUARDRAIL_CHECKS`. -/
def defaultGuardrailChecks : List DraftCheck :=
  [defaultGroundingCheck settings, defaultNumericTraceabilityCheck settings, defaultFormatCheck,
    defaultCurrencyCheck settings, defaultBannedWordsCheck settings, defaultSignOffCheck,
    defaultRateSpecificityCheck settings]

/-- `SMS_GUARDRAIL_CHECKS`: a length in parts, and no sign off. -/
def smsGuardrailChecks : List DraftCheck :=
  [defaultGroundingCheck settings, defaultNumericTraceabilityCheck settings, defaultSmsLengthCheck,
    defaultCurrencyCheck settings, defaultBannedWordsCheck settings, defaultRateSpecificityCheck settings]

end

end ClientEngagement.Agents
