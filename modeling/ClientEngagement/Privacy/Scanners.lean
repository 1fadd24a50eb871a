import ClientEngagement.Privacy.FactBlock
import ClientEngagement.Rules.Catalog

/-!
# The privacy scanners

Model of `privacy/scanners.py`: the patterns, `scanInbound` (`scan_inbound`) over a payload and
`scanOutbound` (`scan_outbound`) over a drafted text. What the scans take from elsewhere is one
record, `ScanSettings`: the Unicode tables, pydantic, Python's printing of numbers and containers, and
the configured public contact numbers.
-/

namespace ClientEngagement.Privacy

open Rules (isSpace reprNames)

/-- `MODEL_ALLOWED_KEYS`. -/
def modelAllowedKeys : List String :=
  ["recency_band", "value_band", "cadence_band", "hold_band", "purchase_depth", "trend_band",
    "exit_reason", "fund_type", "in_wave", "has_depth", "staged_exit", "stale_contact",
    "newly_dormant"]

structure ScanSettings where
  tables : Unicode
  lax : Lax
  /-- What Python prints for a number, a list or a dictionary. -/
  repr : Json → String
  /-- How `json.dumps` writes a number. -/
  number : ℚ → List Char
  /-- What pydantic says of a payload that follows no schema. -/
  validationText : Dict String Json → String
  publicContactNumbers : List String
  /-- The numbers become patterns as they are, so they are plain digits. -/
  digitsOnly : ∀ number ∈ publicContactNumbers, number.toList.all Char.isDigit = true

/-- A scan hit; the text of the exception. -/
inductive Leak where
  | inbound (reason : String)
  | outbound (reason : String)
deriving DecidableEq, Repr

/-! ## Patterns -/

section
variable (tables : Unicode)

def digitClass : Regex Char := .one tables.digit

def oneOf (chars : List Char) : Regex Char := .one (· ∈ chars)

def wordBoundary : Regex Char := .boundary tables.word

/-- `\.\d+`, optional. -/
def decimals : Regex Char := .opt (.seq (.lit ['.']) (.plus (digitClass tables)))

def emailPattern : Regex Char :=
  let name := .one fun c => tables.word c || c ∈ ['.', '+', '-']
  let host := .one fun c => tables.word c || c = '-'
  let rest := .one fun c => tables.word c || c ∈ ['.', '-']
  .seqs [.plus name, .lit ['@'], .plus host, .lit ['.'], .plus rest]

/-- Seven or more digits, each with at most one separator after it. -/
def accountOrPhonePattern : Regex Char :=
  .atLeast 7 (.seq (digitClass tables)
    (.opt (.one fun c => isSpace c || c ∈ ['(', ')', '.', '+', '-'])))

def moneyPattern : Regex Char :=
  let digit := digitClass tables
  .alts
    [.seqs [.alts (["KES", "KSh", "Ksh", "USD", "$"].map fun tag => .lit tag.toList),
        .opt (.one isSpace), digit, .star (.alt digit (.lit [','])), decimals tables],
      .seqs [.between 1 2 digit, .plus (.seq (.lit [',']) (.times 3 digit)), decimals tables],
      .seqs [.plus digit, .lit ['.'], .times 2 digit]]

def datePattern : Regex Char :=
  let digit := digitClass tables
  let two := .times 2 digit
  let zone := .alt (.lit ['Z']) (.seqs [oneOf ['+', '-'], two, .opt (.lit [':']), two])
  let clock := .seqs [oneOf ['T', ' '], two, .lit [':'], two, .lit [':'], two, decimals tables, .opt zone]
  .alts
    [.seqs [wordBoundary tables, .times 4 digit, .lit ['-'], two, .lit ['-'], two, .opt clock,
        wordBoundary tables],
      .seqs [wordBoundary tables, .between 1 1 digit, .lit ['/'], .between 1 1 digit, .lit ['/'],
        .between 2 2 digit, wordBoundary tables]]

/-- A bare number value in JSON text. -/
def jsonNumberPattern : Regex Char :=
  .seqs [.behind [(· = ' '), (· = ':')], .plus (digitClass tables), decimals tables,
    .ahead (· ∈ [',', '}', ']'])]

end

/-- The categories a scan looks for, with the names its reasons give. -/
inductive Category where
  | email
  | accountOrPhone
  | money
  | date
deriving DecidableEq, Repr

def Category.name : Category → String
  | .email => "email"
  | .accountOrPhone => "account_or_phone"
  | .money => "money"
  | .date => "date"

/-- `_PATTERNS`. -/
def Category.pattern (tables : Unicode) : Category → Regex Char
  | .email => emailPattern tables
  | .accountOrPhone => accountOrPhonePattern tables
  | .money => moneyPattern tables
  | .date => datePattern tables

/-- `_INBOUND_CATEGORIES`. -/
def inboundCategories : List Category := [.email, .accountOrPhone, .money, .date]

/-- `_OUTBOUND_CATEGORIES`. -/
def outboundCategories : List Category := [.email, .accountOrPhone]

/-- `_PLACEHOLDER`. -/
def placeholderPattern : Regex Char :=
  .seqs [.lit ['{', '{'], .star (.one (· ≠ '}')), .lit ['}', '}']]

/-- A public number with any separators between its digits (`_public_contact_patterns`). -/
def publicContactPattern (number : String) : Regex Char :=
  .seqs ((number.toList.map fun c => .lit [c]).intersperse
    (.star (.one fun c => isSpace c || c ∈ ['(', ')', '.', '+', '-'])))

/-- `_strip_public_contacts`. -/
def stripPublicContacts (settings : ScanSettings) (text : List Char) : List Char :=
  Regex.subs [' '] (settings.publicContactNumbers.map publicContactPattern) text

/-- `_pattern_reasons`. Dates and bare JSON numbers do not count as phone or account numbers. -/
def patternReasons (tables : Unicode) (text : List Char) (categories : List Category) : List String :=
  let withoutDates := Regex.sub (datePattern tables) [' '] text
  let withoutNumbers := Regex.sub (jsonNumberPattern tables) [' '] withoutDates
  (categories.filter fun category =>
    (category.pattern tables).search (if category = .accountOrPhone then withoutNumbers else text)).map
      Category.name

/-- `_literal_reasons`: one reason for each identifier found, those of a single character aside. -/
def literalReasons (tables : Unicode) (text : List Char) (identifiers : List String) : List String :=
  (identifiers.filter fun value =>
    2 ≤ value.toList.length && occursIn (lower tables value.toList) (lower tables text)).map
      fun _ => "literal_identifier"

/-! ## The inbound scan -/

/-- The first schema a payload follows (`_validate_against_known_schema`). -/
def knownSchema (settings : ScanSettings) (payload : Dict String Json) : Option (String → Json) :=
  match readModelFacts settings.tables settings.lax payload with
  | .ok read => some read
  | .error _ =>
    match readFields settings.lax riskFields payload with
    | .ok read => some read
    | .error _ => none

/-- `_VALIDATOR_CORRECTED_FIELDS`. -/
def validatorCorrectedFields : List String :=
  ["typical_contribution_kes", "largest_contribution_kes", "years_since_exit", "invested_every_n_days"]

/-- Python's `!=` between a given value and a validated one. -/
def differs (given built : Json) : Bool :=
  match given.number?, built.number? with
  | some a, some b => a ≠ b
  | _, _ =>
    match given, built with
    | .str a, .str b => a ≠ b
    | _, _ => true

/-- The fields whose value a schema would have corrected. -/
def uncorrectedFields (payload : Dict String Json) (read : String → Json) : List String :=
  validatorCorrectedFields.filter fun field =>
    (payload.get? field).any fun value => present value && differs value (read field)

/-- The values as one text. -/
def payloadText (settings : ScanSettings) (payload : Dict String Json) : List Char :=
  (" ".intercalate (payload.items.map fun (_, value) => value.pyStr settings.repr)).toList

/-- What is wrong with the shape of a payload. -/
def shapeReason (settings : ScanSettings) (payload : Dict String Json) : Option String :=
  if payload.keys.all (· ∈ modelAllowedKeys) then
    let reasons := patternReasons settings.tables (payloadText settings payload) inboundCategories
    if reasons = [] then none else some ("payload matched " ++ reprNames reasons)
  else
    match knownSchema settings payload with
    | none => some ("payload failed fact-block validation: " ++ settings.validationText payload)
    | some read =>
      let uncorrected := uncorrectedFields payload read
      if uncorrected = [] then none
      else some ("payload carried a value the schema would have corrected: " ++ reprNames uncorrected)

def scanInbound (settings : ScanSettings) (payload : Dict String Json) (identifiers : List String) :
    Except Leak Unit :=
  match shapeReason settings payload with
  | some reason => .error (.inbound reason)
  | none =>
    let reasons := literalReasons settings.tables (payloadText settings payload) identifiers
    if reasons = [] then .ok () else .error (.inbound ("payload matched " ++ reprNames reasons))

/-! ## The outbound scan -/

/-- The text the outbound patterns and identifiers are looked for in. -/
def scannedText (settings : ScanSettings) (draft : List Char) : List Char :=
  stripPublicContacts settings (Regex.sub placeholderPattern [' '] draft)

def scanOutbound (settings : ScanSettings) (draft : List Char) (identifiers : List String) :
    Except Leak Unit :=
  let text := scannedText settings draft
  let reasons := patternReasons settings.tables text outboundCategories ++
    literalReasons settings.tables text identifiers
  if reasons = [] then .ok () else .error (.outbound ("draft echoed " ++ reprNames reasons))

end ClientEngagement.Privacy
