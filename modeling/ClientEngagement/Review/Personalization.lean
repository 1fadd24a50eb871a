import ClientEngagement.Privacy.Scanners

/-!
# Personalization

Model of the part of `services/review.py` that puts a client's values into a draft:
`resolvePlaceholders` (`resolve_placeholders`), `personalizeContent` (`personalize_content`), where the
values come from, and `checkNoUnresolvedPlaceholders` (`check_no_unresolved_placeholders` of
`agents/guardrails.py`), which lets no placeholder through (`resolved_of_check`).
-/

namespace ClientEngagement.Review
open Privacy (placeholderPattern present)
open Rules (isSpace reprNames)

/-- The fields of a text: a subject and a body, or a body alone. -/
abbrev Content := Dict String String

/-- `str.replace`. -/
def replaceText (text old new : String) : String :=
  String.ofList (Regex.sub (.lit old.toList) new.toList text.toList)

/-- The placeholder of a name. -/
def placeholder (name : String) : String := "\x7b\x7b" ++ name ++ "\x7d\x7d"

/-- What the placeholders of a draft stand for. -/
structure PlaceholderValues where
  firstName : String
  fundName : String
  typicalContribution : Option String := none
  largestContribution : Option String := none
  yearsSinceExit : Option String := none
  daysHeldAfterLastTopup : Option String := none
  monthTheyLeft : Option String := none
  cadenceIntervalDays : Option String := none

/-- The values that may be absent, in the order they are substituted. -/
def PlaceholderValues.facts (values : PlaceholderValues) : List (String × Option String) :=
  [("typical_contribution", values.typicalContribution),
    ("largest_contribution", values.largestContribution),
    ("years_since_exit", values.yearsSinceExit),
    ("days_held_after_last_topup", values.daysHeldAfterLastTopup),
    ("month_they_left", values.monthTheyLeft),
    ("cadence_interval_days", values.cadenceIntervalDays)]

/-- Substitutes one value, if there is one. -/
def resolveFact (text : String) : String × Option String → String
  | (_, none) => text
  | (name, some value) => replaceText text (placeholder name) value

def resolvePlaceholders (values : PlaceholderValues) (text : String) : String :=
  let named := replaceText (replaceText text (placeholder "first_name") values.firstName)
    (placeholder "fund_name") values.fundName
  values.facts.foldl resolveFact named

def personalizeContent (values : PlaceholderValues) (draft : Content) : Content :=
  draft.mapValues (resolvePlaceholders values)

/-! ## Where the values come from -/

/-- `_first_name_from_full_name`. -/
def firstNameFromFullName (fullName : Option String) : String :=
  match fullName with
  | none => "Valued Client"
  | some name =>
    match (name.toList.dropWhile isSpace).takeWhile fun c => ¬ isSpace c with
    | [] => "Valued Client"
    | first => String.ofList first

/-- How Python prints a fact: an amount with its thousands separated, `:g`, `str` and the month of a
    date such as `2025-03`. -/
structure FactFormat where
  amount : Json → String
  general : Json → String
  plain : Json → String
  month : Json → String

/-- What is on file about a client: the vault's name, the fund it holds, the funds' names and the facts
    of a client that has any. -/
structure ClientRecords where
  clientName : Dict ℤ (Option String) := .empty
  unitFund : Dict ℤ ℤ := .empty
  fundName : Dict ℤ String := .empty
  facts : Dict ℤ (Dict String Json) := .empty

/-- `_resolve_fund_name`. -/
def resolveFundName (records : ClientRecords) (clientId : ℤ) : String :=
  ((records.unitFund.get? clientId).bind records.fundName.get?).getD "your fund"

/-- `_resolve_first_name`: a test send has a name of its own. -/
def resolveFirstName (records : ClientRecords) (testName : Option String) (clientId : ℤ) : String :=
  testName.getD (firstNameFromFullName ((records.clientName.get? clientId).bind id))

/-- A fact that is on file, printed. -/
def printedFact (facts : Dict String Json) (field : String) (print : Json → String) : Option String :=
  ((facts.get? field).filter (present ·)).map print

/-- The values of a client (`_placeholder_facts_for_client` and the two names). -/
def placeholderValues (format : FactFormat) (records : ClientRecords) (testName : Option String)
    (clientId : ℤ) : PlaceholderValues :=
  let facts := records.facts.getD clientId .empty
  { firstName := resolveFirstName records testName clientId
    fundName := resolveFundName records clientId
    typicalContribution := printedFact facts "typical_contribution_kes" format.amount
    largestContribution := printedFact facts "largest_contribution_kes" format.amount
    yearsSinceExit := printedFact facts "years_since_exit" format.general
    daysHeldAfterLastTopup := printedFact facts "days_held_after_last_topup" format.plain
    monthTheyLeft := printedFact facts "month_they_left" format.month
    cadenceIntervalDays := printedFact facts "invested_every_n_days" format.plain }

/-! ## The check -/

structure GuardrailFailure where
  reason : String
  guardrail : String

/-- The placeholders left in a text, each once, in order. -/
def leftoverPlaceholders (text : String) : List String :=
  sortBy id ((Regex.findall placeholderPattern text.toList).map String.ofList).dedup

def checkNoUnresolvedPlaceholders (subject body : String) : Except GuardrailFailure Unit :=
  let leftover := leftoverPlaceholders (subject ++ "\n" ++ body)
  if leftover = [] then .ok ()
  else .error
    { reason := "resolved message still carries unresolved placeholders: " ++ reprNames leftover
      guardrail := "unresolved_placeholder" }

/-- A placeholder is still in the text. -/
def Unresolved (text : String) : Prop :=
  ∃ before name after, text.toList = before ++ (['{', '{'] ++ (name ++ (['}', '}'] ++ after))) ∧
    '}' ∉ name

/-- The pattern matches wherever a placeholder begins. -/
lemma ends_placeholderPattern {name : List Char} (closed : '}' ∉ name) (before after : List Char) :
    Regex.ends placeholderPattern ⟨before, ['{', '{'] ++ (name ++ (['}', '}'] ++ after))⟩ ≠ [] := by
  have inside : ∀ c ∈ name, (fun c : Char => decide (c ≠ '}')) c = true := by
    intro c mem
    exact decide_eq_true (ne_of_mem_of_not_mem mem closed)
  have opening := Regex.mem_ends_lit ['{', '{'] before (name ++ (['}', '}'] ++ after))
  have filling := Regex.mem_ends_star_one inside (['{', '{'].reverse ++ before) (['}', '}'] ++ after)
  have closing := Regex.mem_ends_lit ['}', '}'] (name.reverse ++ (['{', '{'].reverse ++ before)) after
  apply List.ne_nil_of_mem
  rw [placeholderPattern, Regex.seqs, Regex.ends, List.mem_flatMap]
  refine ⟨_, opening, ?_⟩
  rw [Regex.seqs, Regex.ends, List.mem_flatMap]
  refine ⟨_, filling, ?_⟩
  rw [Regex.seqs, Regex.ends, List.mem_flatMap]
  exact ⟨_, closing, List.mem_singleton_self _⟩

lemma not_unresolved_of_leftover {text : String} (none_left : leftoverPlaceholders text = []) :
    ¬ Unresolved text := by
  intro ⟨before, name, after, whole, closed⟩
  have found : Regex.findall placeholderPattern text.toList = [] := by
    have sorted := (sortBy_perm id
      ((Regex.findall placeholderPattern text.toList).map String.ofList).dedup).length_eq
    rw [leftoverPlaceholders] at none_left
    rw [none_left, List.length_nil, eq_comm, List.length_eq_zero_iff, List.dedup_eq_nil] at sorted
    exact List.map_eq_nil_iff.mp sorted
  rw [whole] at found
  exact ends_placeholderPattern closed _ _ (Regex.ends_eq_nil_of_findall found (by simp))

/-- A placeholder in a part is one in the whole. -/
lemma Unresolved.context {text whole : String} (h : Unresolved text) (before after : List Char)
    (eq : whole.toList = before ++ text.toList ++ after) : Unresolved whole := by
  obtain ⟨a, name, b, parts, closed⟩ := h
  refine ⟨before ++ a, name, b ++ after, ?_, closed⟩
  rw [eq, parts]
  simp only [List.append_assoc]

/-- What passes the check has no placeholder left, in the subject or in the body. -/
theorem resolved_of_check {subject body : String}
    (h : checkNoUnresolvedPlaceholders subject body = .ok ()) :
    ¬ Unresolved subject ∧ ¬ Unresolved body := by
  rw [checkNoUnresolvedPlaceholders] at h
  split at h
  · rename_i none_left
    have clean := not_unresolved_of_leftover none_left
    constructor
    · intro left
      exact clean (left.context [] ("\n" ++ body).toList (by simp))
    · intro left
      exact clean (left.context (subject ++ "\n").toList [] (by simp))
  · cases h

end ClientEngagement.Review
