import ClientEngagement.Agents.Graph
import ClientEngagement.Lib.JsonText
import ClientEngagement.Prompts.FactEligibility

/-!
# Reading a draft

Model of `schemas/email_draft.py` and `schemas/sms_draft.py`: what the model answers with is JSON, in a code
fence or not, with exactly the fields of the channel. The fields lose their dashes, and the placeholders in
them are checked against those a draft needs and those it may use. The texts of the errors that `json` and
pydantic raise are parameters (`ParseSettings`).
-/

namespace ClientEngagement.Agents
open JsonText (NumberFormat)
open Privacy (placeholderPattern textEnd)
open Prompts (tokenName)
open Review (placeholder)
open Rules (isSpace reprNames)

structure ParseSettings (ν : Type) where
  tables : Unicode
  format : NumberFormat ν
  /-- What `json.loads` says of a text it does not read. -/
  decodeText : String → String
  /-- What pydantic says of a value a schema refuses; the message is that of the schema's own check, where
      that is what refuses it. -/
  validationText : JsonValue ν → Option String → String

/-- The fields of a draft, and what is said of a draft with a blank one. -/
structure DraftSchema where
  names : List String
  nodup : names.Nodup
  own : ∀ name ∈ names, name ∉ graphKeys
  blankText : String

/-- `EmailDraft`. -/
def emailDraft : DraftSchema where
  names := ["subject", "body"]
  nodup := by decide
  own := by decide
  blankText := "subject and body must not be blank"

/-- `SmsDraft`. -/
def smsDraft : DraftSchema where
  names := ["body"]
  nodup := by decide
  own := by decide
  blankText := "body must not be blank"

/-! ## Placeholders -/

/-- `PLACEHOLDER_FACT_FIELDS`. -/
def placeholderFactFields : List String :=
  ["typical_contribution_kes", "largest_contribution_kes", "years_since_exit", "days_held_after_last_topup",
    "month_they_left", "invested_every_n_days"].map tokenName

/-- `ALLOWED_PLACEHOLDERS`. -/
def allowedPlaceholders : List String :=
  [placeholder "first_name", placeholder "fund_name"] ++ placeholderFactFields.map placeholder

/-- `resolve_allowed_placeholders`. -/
def resolveAllowedPlaceholders (repr : Json → String) (fields : Option (List Json)) : List String :=
  match fields with
  | none => allowedPlaceholders
  | some fields =>
    [placeholder "first_name", placeholder "fund_name"] ++ fields.map fun field => placeholder (field.pyStr repr)

/-- `required_placeholders`: a draft that was told the name of the fund may write it out. -/
def requiredPlaceholders (facts : Option (Dict String Json)) : List String :=
  if ((facts.getD .empty).get? "fund_name").any Json.truthy then [placeholder "first_name"]
  else [placeholder "first_name", placeholder "fund_name"]

/-- `_check_placeholders`, after the check for blank fields. -/
def checkPlaceholders (text : List Char) (facts : Option (Dict String Json)) (allowed : Option (List String)) :
    Except String Unit :=
  let missing := (requiredPlaceholders facts).filter fun token => ¬ occursIn token.toList text
  let used := (Regex.findall placeholderPattern text).map String.ofList
  let unexpected := used.dedup.filter (· ∉ allowed.getD allowedPlaceholders)
  if missing ≠ [] then .error ("missing required placeholders: " ++ reprNames missing)
  else if unexpected ≠ [] then .error ("unexpected placeholder tokens: " ++ reprNames (sortBy id unexpected))
  else .ok ()

/-! ## Dashes -/

/-- `str.strip` of the characters that pass the test. -/
def stripOf (p : Char → Bool) (text : List Char) : List Char :=
  ((text.dropWhile p).reverse.dropWhile p).reverse

lemma stripOf_within (p : Char → Bool) (text : List Char) : stripOf p text <:+: text := by
  have front := List.dropWhile_suffix (l := text) p
  have back := List.rdropWhile_prefix p (text.dropWhile p)
  exact back.isInfix.trans front.isInfix

lemma stripOf_eq_self {p : Char → Bool} {text : List Char} (first : ∀ c ∈ text.head?, p c = false)
    (last : ∀ c ∈ text.getLast?, p c = false) : stripOf p text = text := by
  have front : text.dropWhile p = text := by
    cases text with
    | nil => rfl
    | cons c rest => exact List.dropWhile_cons_of_neg (by simp [first c rfl])
  have back : text.rdropWhile p = text := by
    rw [List.rdropWhile_eq_self_iff]
    intro some_text
    simp [last _ (List.getLast?_eq_some_getLast some_text)]
  have both : stripOf p text = (text.dropWhile p).rdropWhile p := rfl
  rw [both, front, back]

lemma ends_stripOf (p : Char → Bool) (text : List Char) :
    (∀ c ∈ (stripOf p text).head?, p c = false) ∧ ∀ c ∈ (stripOf p text).getLast?, p c = false := by
  have both : stripOf p text = (text.dropWhile p).rdropWhile p := rfl
  constructor
  · intro c first
    obtain ⟨dropped, parts⟩ := List.rdropWhile_prefix p (text.dropWhile p)
    have start : (text.dropWhile p).head? = some c := by
      rw [← parts, List.head?_append]
      exact Option.or_eq_some_iff.mpr (.inl first)
    have stops := List.head?_dropWhile_not p text
    rw [start] at stops
    exact stops
  · intro c last
    have some_text := List.getLast?_isSome.mp (Option.isSome_iff_exists.mpr ⟨c, last⟩)
    have stops := List.rdropWhile_last_not p (text.dropWhile p) some_text
    obtain rfl := Option.some_inj.mp ((List.getLast?_eq_some_getLast some_text).symm.trans last)
    exact Bool.not_eq_true _ ▸ stops

lemma mem_dropWhile {p : Char → Bool} {text : List Char} {c : Char} (mem : c ∈ text) (stays : p c = false) :
    c ∈ text.dropWhile p := by
  rw [← List.takeWhile_append_dropWhile (p := p) (l := text), List.mem_append] at mem
  rcases mem with taken | left
  · rw [List.mem_takeWhile_imp taken] at stays
    cases stays
  · exact left

lemma mem_stripOf {p : Char → Bool} {text : List Char} {c : Char} (mem : c ∈ text) (stays : p c = false) :
    c ∈ stripOf p text := by
  rw [stripOf, List.mem_reverse]
  exact mem_dropWhile (List.mem_reverse.mpr (mem_dropWhile mem stays)) stays

def spaces : Regex Char := .star (.one isSpace)

def punctuation (c : Char) : Bool := c ∈ [',', '.', ';', ':', '!', '?']

/-- `strip_ai_dashes`. The space before a mark goes and the mark stays. -/
def stripAiDashes (tables : Unicode) (text : List Char) : List Char :=
  let compoundHyphen := .seqs [.behind [tables.word], .lit ['-'], .ahead tables.word]
  let dash := .alt (.plus (.lit ['-'])) (.one fun c => c.toNat ∈ [0x2012, 0x2013, 0x2014, 0x2015])
  let remainingDash := .seqs [spaces, dash, spaces]
  let duplicatePunctuation := .seqs [.lit [','], spaces, .ahead punctuation]
  let spaceBeforePunctuation := .seq (.plus (.one isSpace)) (.ahead punctuation)
  let repeatedSpace := .atLeast 2 (.one fun c => c = ' ' || c = '\t')
  let cleaned := Regex.sub compoundHyphen [' '] text
  let cleaned := Regex.sub remainingDash [',', ' '] cleaned
  let cleaned := Regex.sub duplicatePunctuation [] cleaned
  let cleaned := Regex.sub spaceBeforePunctuation [] cleaned
  stripOf (fun c => c = ' ' || c = ',') (Regex.sub repeatedSpace [' '] cleaned)

/-! ## Parsing -/

section
variable {ν : Type}

/-- `json.loads` of a text, which may not begin with a mark of its encoding. -/
def loadsText (format : NumberFormat ν) (text : List Char) : Option (JsonValue ν) :=
  if text.head?.any (·.toNat = 0xfeff) then none else JsonText.loads format text

/-- `_strip_code_fence`. -/
def stripCodeFence (text : List Char) : List Char :=
  let ticks := .lit ['\x60', '\x60', '\x60']
  let opening := .seqs [.start, ticks, .star (.one Char.isAlpha), .opt (.lit ['\n'])]
  let closing := .seqs [.opt (.lit ['\n']), ticks, textEnd]
  stripOf isSpace (Regex.sub (.alt opening closing) [] (stripOf isSpace text))

/-- The fields of a value that has those of the schema and no others, all of them texts. -/
def DraftSchema.read (schema : DraftSchema) : JsonValue ν → Option (String → String)
  | .obj fields =>
    let given := Dict.ofList fields
    let text (name : String) : Option String :=
      match given.get? name with
      | some (.str text) => some text
      | _ => none
    if given.keys.all (· ∈ schema.names) && schema.names.all fun name => (text name).isSome then
      some fun name => (text name).getD ""
    else none
  | _ => none

/-- `model_dump` of a draft. -/
def DraftSchema.dump (schema : DraftSchema) (text : String → String) : Draft where
  fields := .ofList (schema.names.map fun name => (name, .str (text name)))
  own := by
    intro key mem
    have names : (schema.names.map fun name => (name, Json.str (text name))).map Prod.fst = schema.names := by
      rw [List.map_map]
      exact List.map_id _
    rw [Dict.keys_ofList (by rw [names]; exact schema.nodup), names] at mem
    exact schema.own key mem

/-- `parse_email_draft` and `parse_sms_draft`. -/
def DraftSchema.parse (schema : DraftSchema) (settings : ParseSettings ν) (raw : String)
    (facts : Option (Dict String Json)) (allowed : Option (List String)) : Except String Draft :=
  match (loadsText settings.format raw.toList).or (loadsText settings.format (stripCodeFence raw.toList)) with
  | none => .error ("draft was not valid JSON: " ++ settings.decodeText raw)
  | some payload =>
    let refused (message : Option String) : Except String Draft :=
      .error ("draft failed schema validation: " ++ settings.validationText payload message)
    match schema.read payload with
    | none => refused none
    | some read =>
      let cleaned (name : String) := stripAiDashes settings.tables (read name).toList
      if schema.names.any fun name => (cleaned name).all isSpace then refused (some schema.blankText)
      else
        match checkPlaceholders (separated ['\n'] (schema.names.map cleaned)) facts allowed with
        | .error message => refused (some message)
        | .ok () => .ok (schema.dump fun name => String.ofList (cleaned name))

end

/-- The placeholders that count are those in the list, in whatever order. -/
lemma checkPlaceholders_congr {text : List Char} {facts : Option (Dict String Json)}
    {allowed allowed' : Option (List String)}
    (same : ∀ token, token ∈ allowed.getD allowedPlaceholders ↔ token ∈ allowed'.getD allowedPlaceholders) :
    checkPlaceholders text facts allowed = checkPlaceholders text facts allowed' := by
  have unexpected (used : List String) : used.filter (· ∉ allowed.getD allowedPlaceholders) =
      used.filter (· ∉ allowed'.getD allowedPlaceholders) := by
    apply List.filter_congr
    intro token _
    rw [decide_eq_decide, same token]
  rw [checkPlaceholders, checkPlaceholders, unexpected]

lemma parse_congr {ν : Type} (schema : DraftSchema) (settings : ParseSettings ν) (raw : String)
    (facts : Option (Dict String Json)) {allowed allowed' : Option (List String)}
    (same : ∀ token, token ∈ allowed.getD allowedPlaceholders ↔ token ∈ allowed'.getD allowedPlaceholders) :
    schema.parse settings raw facts allowed = schema.parse settings raw facts allowed' := by
  simp only [DraftSchema.parse, checkPlaceholders_congr same]

end ClientEngagement.Agents
