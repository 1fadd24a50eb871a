import ClientEngagement.Agents.DraftChecks
import ClientEngagement.Lib.Words
import ClientEngagement.Review.Substitution

/-!
# The length of what is sent

The checks of `agents/guardrails.py` bound the length of a draft with its placeholders; what is stored for a
client has the values in their place, and is not measured again. `lengthWith` and `wordsWith` say how long a
text gets from the text and the values: each placeholder, when its turn comes, adds what its value is longer,
as often as it is found. `sent_within_bounds_iff` says that the stored content keeps the bounds of an accepted
draft if and only if these lengths do, and what they come to for plain values.
-/

namespace ClientEngagement.Review
open Agents (CheckSettings CheckedDraft DraftCheck FormatContract GroundingChunk defaultGuardrailChecks
  smsGuardrailChecks defaultFormatCheck defaultSmsLengthCheck smsPartCount wordCount)
open Campaigns (CampaignId ClientId MessageId)
open Privacy (placeholderPattern)
open Rules (isSpace)

/-! ## The bounds -/

/-- What a draft is checked as. -/
inductive DraftKind where
  | email
  | sms

/-- `DEFAULT_GUARDRAIL_CHECKS` and `SMS_GUARDRAIL_CHECKS`. -/
def DraftKind.checks (settings : CheckSettings) : DraftKind → List DraftCheck
  | .email => defaultGuardrailChecks settings
  | .sms => smsGuardrailChecks settings

/-- What the checks read of a draft. -/
def checkedContent (content : Content) (facts : Option (Dict String Json)) (chunks : List GroundingChunk)
    (contract : Option FormatContract) : CheckedDraft where
  subject := content.get? "subject"
  body := content.getD "body" ""
  facts := facts
  chunks := chunks
  contract := contract

/-- The bounds on lengths, however characters and words are counted. -/
def Bounded (kind : DraftKind) (contract : Option FormatContract) (length words : String → ℤ)
    (content : Content) : Prop :=
  match kind with
  | .sms => length (content.getD "body" "") ≤ 459
  | .email =>
    length (content.getD "subject" "") ≤ 100 ∧
      match contract with
      | some contract => words (content.getD "body" "") ≤ contract.maxWords
      | none => length (content.getD "body" "") ≤ 2000

/-- The bounds the checks hold a text to: parts of an SMS, a subject's characters, a body's words or
    characters. -/
def WithinBounds (kind : DraftKind) (contract : Option FormatContract) (content : Content) : Prop :=
  match kind with
  | .sms => smsPartCount (content.getD "body" "") ≤ 3
  | .email =>
    (content.getD "subject" "").toList.length ≤ 100 ∧
      match contract with
      | some contract => (wordCount (content.getD "body" "") : ℤ) ≤ contract.maxWords
      | none => (content.getD "body" "").toList.length ≤ 2000

/-! ## How long a text gets -/

/-- What the replacements add up to, each in the text it is made in. -/
def gains (gain : List Char → List Char → List Char → ℤ) : List (String × Option String) → String → ℤ
  | [], _ => 0
  | (_, none) :: names, text => gains gain names text
  | (name, some value) :: names, text =>
    gain (token name.toList) value.toList text.toList +
      gains gain names (replaceText text (placeholder name) value)

/-- A placeholder adds what its value is longer, as often as it is found. -/
def lengthGain (found value text : List Char) : ℤ := occurrences found text * (value.length - found.length)

/-- A placeholder adds the words that begin with its value, less its own. -/
def wordsGain (found value text : List Char) : ℤ :=
  wordGain isSpace value false (Regex.pieces (.lit found) text)

/-- The characters of a text with the values put in. -/
def lengthWith (values : PlaceholderValues) (text : String) : ℤ :=
  text.toList.length + gains lengthGain values.all text

/-- The words of a text with the values put in. -/
def wordsWith (values : PlaceholderValues) (text : String) : ℤ :=
  wordCount text + gains wordsGain values.all text

/-- What is stored under the id. -/
def StoredContent (result : Except CreateError (Store × Option MessageId)) (id : MessageId)
    (content : Content) : Prop :=
  ∃ s message, result = .ok (s, some id) ∧ s.messages.get? id = some message ∧
    message.personalizedContent = some content

variable {kind : DraftKind} {contract : Option FormatContract} {values : PlaceholderValues}
  {content draft : Content} {text : String}

/-! ## What is resolved -/

/-- What holds of one replacement adds up over all of them. -/
lemma gains_foldl {measure : String → ℤ} {gain : List Char → List Char → List Char → ℤ}
    {names : List (String × Option String)}
    (step : ∀ p ∈ names, ∀ value ∈ p.2, ∀ text : String, measure (replaceText text (placeholder p.1) value) =
      measure text + gain (token p.1.toList) value.toList text.toList) (text : String) :
    measure (names.foldl resolveFact text) = measure text + gains gain names text := by
  induction names generalizing text with
  | nil => exact (add_zero _).symm
  | cons p names ih =>
    obtain ⟨name, value⟩ := p
    have later := ih fun p mem => step p (List.mem_cons_of_mem _ mem)
    rw [List.foldl_cons]
    cases value with
    | none => exact later text
    | some value =>
      rw [resolveFact, later, step _ (List.mem_cons_self ..) value rfl, gains, add_assoc]

lemma token_ne_nil (name : List Char) : token name ≠ [] := List.cons_ne_nil _ _

/-- The characters of a resolved text. -/
lemma length_resolved (values : PlaceholderValues) (text : String) :
    ((resolvePlaceholders values text).toList.length : ℤ) = lengthWith values text := by
  rw [resolvePlaceholders_eq_foldl, lengthWith]
  refine @gains_foldl (fun text => (text.toList.length : ℤ)) _ _ (fun p _ value _ text => ?_) text
  show ((String.ofList _).toList.length : ℤ) = _
  rw [String.toList_ofList, toList_placeholder, length_sub_lit (token_ne_nil _)]
  rfl

/-- No placeholder has a blank. -/
lemma tokens_solid (values : PlaceholderValues) :
    ∀ p ∈ values.all, ∀ c ∈ token p.1.toList, isSpace c = false := by
  have solid : (values.all.map Prod.fst).all (fun name => (token name.toList).all fun c => !isSpace c) := by
    show ["first_name", "fund_name", "typical_contribution", "largest_contribution", "years_since_exit",
      "days_held_after_last_topup", "month_they_left", "cadence_interval_days"].all _
    decide +kernel
  intro p mem c mem'
  have name := List.all_eq_true.mp solid p.1 (List.mem_map_of_mem mem)
  exact (Bool.not_eq_true' _).mp (List.all_eq_true.mp name c mem')

lemma wordCount_eq (text : String) : wordCount text = starts isSpace false text.toList :=
  length_splitOnP text.toList

/-- The words of a resolved text. -/
lemma words_resolved (values : PlaceholderValues) (text : String) :
    (wordCount (resolvePlaceholders values text) : ℤ) = wordsWith values text := by
  rw [resolvePlaceholders_eq_foldl, wordsWith]
  refine @gains_foldl (fun text => (wordCount text : ℤ)) _ _ (fun p mem value _ text => ?_) text
  show (wordCount (String.ofList _) : ℤ) = _
  rw [wordCount_eq, wordCount_eq, String.toList_ofList, toList_placeholder,
    starts_sub_lit (token_ne_nil _) (tokens_solid values p mem)]
  rfl

lemma smsPartCount_le (text : String) : smsPartCount text ≤ 3 ↔ text.toList.length ≤ 459 := by
  rw [smsPartCount]
  split_ifs
  · omega
  · omega
  · omega

/-- The bounds on the resolved text are the bounds on what the values make of the draft. -/
lemma withinBounds_iff : WithinBounds kind contract (personalizeContent values draft) ↔
    Bounded kind contract (lengthWith values) (wordsWith values) draft := by
  have body := getD_personalized values draft "body"
  cases kind with
  | sms =>
    show smsPartCount _ ≤ 3 ↔ lengthWith values _ ≤ 459
    rw [body, smsPartCount_le, ← length_resolved]
    exact Nat.cast_le.symm
  | email =>
    refine and_congr ?_ ?_
    · rw [getD_personalized, ← length_resolved]
      exact Nat.cast_le.symm
    · cases contract with
      | some contract =>
        show (wordCount _ : ℤ) ≤ contract.maxWords ↔ wordsWith values _ ≤ contract.maxWords
        rw [body, words_resolved]
      | none =>
        show _ ≤ 2000 ↔ lengthWith values _ ≤ 2000
        rw [body, ← length_resolved]
        exact Nat.cast_le.symm

/-! ## Plain values -/

/-- What the placeholders of a text add, by what they and their values measure. -/
def tokenGain (measure : List Char → ℕ) (values : PlaceholderValues) (text : String) : ℤ :=
  ((tokens text).map fun found => (measure (valueIn values.all found) - measure found : ℤ)).sum

/-- The values begin and end with a character that is no blank. -/
def SolidValues (values : PlaceholderValues) : Prop :=
  ∀ p ∈ values.all, ∀ value ∈ p.2, SolidEnds isSpace value.toList

/-- The placeholders of a cut. -/
def placed (cut : List (Piece Char)) : List (List Char) :=
  cut.filterMap fun
    | .kept _ => none
    | .matched found => some found

lemma placed_pieces (text : String) : placed (Regex.pieces placeholderPattern text.toList) = tokens text := by
  refine List.filterMap_congr fun piece _ => ?_
  cases piece with
  | kept c => rfl
  | matched found => rfl

variable {σ : List Char → List Char}

lemma length_fill (cut : List (Piece Char)) : ((fill σ cut).length : ℤ) =
    (Regex.source cut).length + ((placed cut).map fun found => ((σ found).length - found.length : ℤ)).sum := by
  induction cut with
  | nil => rfl
  | cons piece cut ih =>
    cases piece with
    | kept c =>
      rw [fill_kept, source_kept, List.length_cons, List.length_cons]
      push_cast
      rw [ih]
      show _ = _ + 1 + ((placed cut).map _).sum
      ring
    | matched found =>
      rw [fill_matched, source_matched, List.length_append, List.length_append]
      push_cast
      rw [ih]
      show _ = _ + _ + ((((σ found).length : ℤ) - found.length) + ((placed cut).map _).sum)
      ring

/-- Where placeholders and values begin and end inside a word, each adds its words. -/
lemma starts_fill {cut : List (Piece Char)} {blank : Char → Bool}
    (solid : ∀ found ∈ placed cut, SolidEnds blank found ∧ SolidEnds blank (σ found)) (inside : Bool) :
    (starts blank inside (fill σ cut) : ℤ) = starts blank inside (Regex.source cut) +
      ((placed cut).map fun found => (starts blank false (σ found) - starts blank false found : ℤ)).sum := by
  induction cut generalizing inside with
  | nil => rfl
  | cons piece cut ih =>
    cases piece with
    | kept c =>
      have later := fun inside => ih (fun found mem => solid found mem) inside
      rw [fill_kept, source_kept, starts, starts]
      cases blank c with
      | true => exact later false
      | false =>
        show ((_ + starts blank true (fill σ cut) : ℕ) : ℤ) =
          (_ + starts blank true (Regex.source cut) : ℕ) + ((placed cut).map _).sum
        push_cast
        rw [later]
        ring
    | matched found =>
      obtain ⟨token_ends, value_ends⟩ := solid found (List.mem_cons_self ..)
      have later := ih (fun found mem => solid found (List.mem_cons_of_mem _ mem)) true
      obtain ⟨token_begun, token_ended⟩ := token_ends.starts_eq inside
      obtain ⟨value_begun, value_ended⟩ := value_ends.starts_eq inside
      rw [fill_matched, source_matched, starts_append, starts_append, token_ended, value_ended]
      push_cast
      rw [later]
      show _ = _ + _ + (((starts blank false (σ found) : ℤ) - starts blank false found) +
        ((placed cut).map _).sum)
      linarith

/-- What a placeholder looks like. -/
lemma token_of_placed {cut : List (Piece Char)} (h : Cut cut) {found : List Char} (mem : found ∈ placed cut) :
    ∃ name, found = token name := by
  induction h with
  | nil => cases mem
  | char no h ih => exact ih mem
  | @token inner cut closed h ih =>
    cases List.mem_cons.mp mem with
    | inl here => exact ⟨inner, here⟩
    | inr later => exact ih later

lemma solidEnds_token (name : List Char) : SolidEnds isSpace (token name) := by
  refine ⟨⟨'{', '{' :: (name ++ ['}', '}']), rfl, by decide⟩, ?_⟩
  have last : token name = (['{', '{'] ++ (name ++ ['}'])) ++ ['}'] := by simp [token]
  rw [last, endsInside_concat]
  decide

/-- Plain values lengthen a text by what they are longer than the placeholders it has. -/
lemma lengthWith_plain (plain : values.Plain) (standalone : Standalone values text) :
    lengthWith values text = text.toList.length + tokenGain List.length values text := by
  rw [← length_resolved, resolvePlaceholders_eq_substitute plain standalone, substitute, String.toList_ofList,
    length_fill, Regex.source_pieces, placed_pieces]
  rfl

/-- Plain values without blanks at their ends add their words. -/
lemma wordsWith_plain (plain : values.Plain) (standalone : Standalone values text) (solid : SolidValues values) :
    wordsWith values text = wordCount text + tokenGain (starts isSpace false) values text := by
  rw [← words_resolved, resolvePlaceholders_eq_substitute plain standalone, substitute, wordCount_eq,
    String.toList_ofList, starts_fill, Regex.source_pieces, placed_pieces, wordCount_eq]
  · rfl
  · intro found mem
    obtain ⟨name, rfl⟩ := token_of_placed (cut_pieces text.toList) mem
    refine ⟨solidEnds_token name, ?_⟩
    rcases valueIn_cases values.all (token name) with self | ⟨other, value, listed, -, eq⟩
    · rw [self]
      exact solidEnds_token name
    · rw [eq]
      exact solid _ listed value rfl

/-! ## What is accepted, and what is stored -/

/-- A bound that is checked is kept. -/
lemma kept_of_passed {p : Prop} [Decidable p] {reason : String} {rest : Except GuardrailFailure Unit}
    (passed : (if p then Agents.wrongLength reason else rest) = .ok ()) : ¬ p ∧ rest = .ok () := by
  split at passed
  · cases passed
  · rename_i kept
    exact ⟨kept, passed⟩

/-- A draft that passes its checks is within the bounds. -/
lemma accepted_within {settings : CheckSettings} {facts : Option (Dict String Json)}
    {chunks : List GroundingChunk}
    (accepted : ∀ check ∈ kind.checks settings, check (checkedContent draft facts chunks contract) = .ok ()) :
    WithinBounds kind contract draft := by
  cases kind with
  | sms =>
    have passed := accepted defaultSmsLengthCheck (by simp [DraftKind.checks, smsGuardrailChecks])
    rw [defaultSmsLengthCheck] at passed
    obtain ⟨-, later⟩ := kept_of_passed passed
    exact Nat.not_lt.mp (kept_of_passed later).1
  | email =>
    have passed := accepted defaultFormatCheck (by simp [DraftKind.checks, defaultGuardrailChecks])
    rw [defaultFormatCheck] at passed
    obtain ⟨subject, later⟩ := kept_of_passed passed
    obtain ⟨-, body⟩ := kept_of_passed later
    refine ⟨Nat.not_lt.mp subject, ?_⟩
    cases contract with
    | some contract => exact not_lt.mp (kept_of_passed body).1
    | none => exact Nat.not_lt.mp (kept_of_passed body).1

variable {env : Env} {s s' : Store} {runId : RunId} {run : GenerationRun} {campaignId : CampaignId}
  {channel : String} {callBrief : Option String} {slot : Option CohortSlot} {newMessage : MessageId}
  {newCohort : CohortId} {numeric : NumericEnv} {template : MessageTemplate} {clientId : ClientId}

/-- A run's message has the run's draft with the client's values. -/
lemma created (made : createOutreachMessage env s runId run campaignId channel callBrief slot newMessage newCohort =
    .ok (s', some newMessage)) :
    ∃ message, s'.messages.get? newMessage = some message ∧ message.personalizedContent =
      some (personalizeContent (placeholderValues env.format s.records env.testClientFirstName run.clientId)
        run.aiDraftContent) := by
  unfold createOutreachMessage at made
  dsimp only at made
  split at made
  · cases made
  · split at made
    · cases made
    · cases made
      exact ⟨_, Dict.get?_set_self .., rfl⟩

/-- A template's message has the template's draft with the client's values. -/
lemma instantiated (made : instantiateMessageForTemplate env numeric s template clientId campaignId callBrief
    newMessage = .ok (s', some newMessage)) :
    ∃ message, s'.messages.get? newMessage = some message ∧ message.personalizedContent =
      some (personalizeContent (placeholderValues env.format s.records env.testClientFirstName clientId)
        template.aiDraftContent) := by
  unfold instantiateMessageForTemplate at made
  dsimp only at made
  split at made
  · cases made
  · split at made
    · cases made
    · cases made
      exact ⟨_, Dict.get?_set_self .., rfl⟩

/-- The content that is stored is the one the message has. -/
lemma StoredContent.eq {result : Except CreateError (Store × Option MessageId)} {expected : Content}
    (stored : StoredContent result newMessage content)
    (made : ∀ s', result = .ok (s', some newMessage) → ∃ message, s'.messages.get? newMessage = some message ∧
      message.personalizedContent = some expected) : content = expected := by
  obtain ⟨s', message, ok, found, kept⟩ := stored
  obtain ⟨other, known, values⟩ := made s' ok
  rw [found] at known
  cases known
  exact Option.some.inj (kept.symm.trans values)

/-- An accepted draft is within the bounds; what is stored of it for a client is so if and only if the lengths
    its values bring it to are. For plain values these are the lengths of the text and of what its placeholders
    stand for, less the placeholders. -/
theorem sent_within_bounds_iff (settings : CheckSettings) (kind : DraftKind) (draft : Content)
    (facts : Option (Dict String Json)) (chunks : List GroundingChunk) (contract : Option FormatContract)
    (accepted : ∀ check ∈ kind.checks settings, check (checkedContent draft facts chunks contract) = .ok ())
    (values : PlaceholderValues) :
    WithinBounds kind contract draft ∧
    (∀ (env : Env) (s : Store) (runId : RunId) (run : GenerationRun) (campaignId : CampaignId) (channel : String)
      (callBrief : Option String) (slot : Option CohortSlot) (newMessage : MessageId) (newCohort : CohortId)
      (content : Content), placeholderValues env.format s.records env.testClientFirstName run.clientId = values →
      run.aiDraftContent = draft →
      StoredContent (createOutreachMessage env s runId run campaignId channel callBrief slot newMessage newCohort)
        newMessage content →
      (WithinBounds kind contract content ↔
        Bounded kind contract (lengthWith values) (wordsWith values) draft)) ∧
    (∀ (env : Env) (numeric : NumericEnv) (s : Store) (template : MessageTemplate) (clientId : ClientId)
      (campaignId : CampaignId) (callBrief : Option String) (newMessage : MessageId) (content : Content),
      placeholderValues env.format s.records env.testClientFirstName clientId = values →
      template.aiDraftContent = draft →
      StoredContent (instantiateMessageForTemplate env numeric s template clientId campaignId callBrief newMessage)
        newMessage content →
      (WithinBounds kind contract content ↔
        Bounded kind contract (lengthWith values) (wordsWith values) draft)) ∧
    (values.Plain → ∀ text, Standalone values text →
      lengthWith values text = text.toList.length + tokenGain List.length values text ∧
      (SolidValues values →
        wordsWith values text = wordCount text + tokenGain (starts isSpace false) values text)) := by
  refine ⟨accepted_within accepted, ?_, ?_, ?_⟩
  · rintro env s runId run campaignId channel callBrief slot newMessage newCohort content rfl rfl stored
    rw [stored.eq fun _ => created]
    exact withinBounds_iff
  · rintro env numeric s template clientId campaignId callBrief newMessage content rfl rfl stored
    rw [stored.eq fun _ => instantiated]
    exact withinBounds_iff
  · intro plain text standalone
    exact ⟨lengthWith_plain plain standalone, wordsWith_plain plain standalone⟩

/-! ## A long first name -/

/-- A subject of 97 characters. -/
def longSubjectDraft : Content :=
  .ofList
    [("subject", placeholder "first_name" ++
      ", a small and steady step today can bring your savings plan back on track this year"),
      ("body", "We would love to hear from you.")]

def longNameSettings : CheckSettings where
  tables := .ascii
  print := ⟨fun _ => [], fun _ => []⟩
  publicContactNumbers := []

def longNameEnv : Env where
  today := 0
  format := { amount := fun _ => "", general := fun _ => "", plain := fun _ => "", month := fun _ => "" }
  roundInverse := fun _ => 2

def longNameStore : Store where
  records := { clientName := .ofList [(1, some "Bartholomew-Alexander Otieno")] }

def longNameRun : GenerationRun where
  clientId := 1
  priorityTier := none
  angle := none
  status := .accepted
  aiDraftContent := longSubjectDraft

def longNameValues : PlaceholderValues :=
  placeholderValues longNameEnv.format longNameStore.records longNameEnv.testClientFirstName 1

lemma longSubject_accepted : ∀ check ∈ DraftKind.email.checks longNameSettings,
    check (checkedContent longSubjectDraft none [] none) = .ok () := by
  have passed : (DraftKind.email.checks longNameSettings).all
      fun check => (check (checkedContent longSubjectDraft none [] none)).isOk := by decide +kernel
  intro check mem
  have ok := List.all_eq_true.mp passed check mem
  cases result : check (checkedContent longSubjectDraft none [] none) with
  | ok => rfl
  | error failure =>
    rw [result] at ok
    cases ok

lemma longName_stored : StoredContent (createOutreachMessage longNameEnv longNameStore "run" longNameRun 1 "email"
    none none "m" "c") "m" (personalizeContent longNameValues longSubjectDraft) := by
  have checked : checkNoUnresolvedPlaceholders
      ((personalizeContent longNameValues longSubjectDraft).getD "subject" "")
      ((personalizeContent longNameValues longSubjectDraft).getD "body" "") = .ok () :=
    checkNoUnresolved_iff.mpr (by decide +kernel)
  have has_body : longNameRun.aiDraftContent.contains "body" = true := by decide +kernel
  have stored : Stored (createOutreachMessage longNameEnv longNameStore "run" longNameRun 1 "email" none none "m"
      "c") "m" := (stored_createOutreachMessage has_body rfl).mpr checked
  obtain ⟨s, made⟩ := stored
  obtain ⟨message, found, kept⟩ := created made
  exact ⟨s, message, made, found, kept⟩

theorem sent_within_bounds_iff_longName : WithinBounds .email none longSubjectDraft ∧
    (WithinBounds .email none (personalizeContent longNameValues longSubjectDraft) ↔
      Bounded .email none (lengthWith longNameValues) (wordsWith longNameValues) longSubjectDraft) := by
  obtain ⟨within, stored, -⟩ := sent_within_bounds_iff longNameSettings .email longSubjectDraft none [] none
    longSubject_accepted longNameValues
  exact ⟨within, stored _ _ _ _ _ _ _ _ _ _ _ rfl rfl longName_stored⟩

/-- The accepted subject is stored with 104 characters. -/
theorem long_name_over_bound :
    (∀ check ∈ DraftKind.email.checks longNameSettings,
      check (checkedContent longSubjectDraft none [] none) = .ok ()) ∧
    ∃ content, StoredContent (createOutreachMessage longNameEnv longNameStore "run" longNameRun 1 "email" none
        none "m" "c") "m" content ∧ ¬ WithinBounds .email none content := by
  refine ⟨longSubject_accepted, personalizeContent longNameValues longSubjectDraft, longName_stored, ?_⟩
  rintro ⟨subject, -⟩
  revert subject
  decide +kernel

end ClientEngagement.Review
