import ClientEngagement.Lib.Json
import ClientEngagement.Rules.TierContract

/-!
# The business rule store

Model of `rules/store.py`: the allow-lists, `validateRules` (`validate_rules`), `saveVersion`
(`save_version`) and `loadActiveRules` (`load_active_rules`). The table has no key column: the whole
prioritised list is one component, and a version holds one row per priority (`ruleSpec`). The `match`
column is JSON, so a row (`RuleRow`) may hold a match no `RuleSpec` has; `RuleRow.spec?` reads it.
-/

namespace ClientEngagement.Rules

/-- One rule: a match over features and the outputs it resolves to. -/
structure RuleSpec where
  name : String
  priority : ℤ
  matchFields : Dict String (List String) := .empty
  messageAngle : String := "pick_up_again"
  urgency : String := "low"
  priorityTier : String := "one_time_withdrawers"
  promptVariant : String := "pick_up_again"

/-! ## Validation -/

def boolDomain : List String := ["true", "false"]

/-- `RULE_FIELD_DOMAINS`. -/
def ruleFieldDomains : Dict String (List String) := .ofList
  [("history_censored", boolDomain),
    ("purchases_censored", boolDomain),
    ("holds_other_funds", boolDomain),
    ("recency_band", ["Under 1y", "1 to 3y", "3 to 6y", "Over 6y", "Unknown"]),
    ("value_band", ["Low", "Medium", "High", "Top"]),
    ("balance_band", ["nearly_empty", "sliding", "worth_saving"]),
    ("cadence_band", ["None", "Tight", "Regular", "Periodic", "Infrequent"]),
    ("hold_band", ["Under 2m", "Under 6m", "Stayed months", "Stayed years", "Unknown"]),
    ("purchase_depth", ["none", "single", "few", "capped"]),
    ("trend_band", ["rising", "flat", "falling", "unknown"]),
    ("exit_reason", ["client_sale", "charge_settled", "unknown"]),
    ("fund_type", ["money_market", "high_yield", "other"]),
    ("in_wave", boolDomain),
    ("has_depth", boolDomain),
    ("staged_exit", boolDomain),
    ("stale_contact", boolDomain),
    ("newly_dormant", boolDomain),
    ("never_funded", boolDomain),
    ("active_book_auto_checkin", boolDomain),
    ("high_value", boolDomain),
    ("has_balance", boolDomain)]

/-- `MESSAGE_ANGLES`. -/
def messageAngles : List String :=
  ["not_a_goodbye", "wrong_shelf", "see_what_changed", "the_long_hold", "your_next_deposit",
    "second_try", "you_wound_down", "you_were_scaling", "you_were_fading", "back_on_schedule",
    "onboarding_retry", "pick_up_again", "sitting_still", "welcome_and_top_up", "fee_warning",
    "fee_pressure_warning_dormant", "fee_pressure_encourage_active",
    "follow_up_when_no_one_called", "suggest_second_fund", "ask_what_changed",
    "send_learning_note", "start_win_back", "first_deposit_welcome", "grow_back",
    "former_high_value"]

/-- `URGENCIES`. -/
def urgencies : List String := ["low", "medium", "high"]

/-- Every client matching `narrow` also matches `broad` (`_covers`). -/
def covers (broad narrow : Dict String (List String)) : Bool :=
  broad.items.all fun (key, values) =>
    (narrow.get? key).any fun inner => inner.all (· ∈ values)

/-- What is wrong with one match field of a rule. -/
def fieldError (rule : RuleSpec) (name : String) (values : List String) : Option String :=
  match ruleFieldDomains.get? name with
  | none => some ("rule '" ++ rule.name ++ "' matches unknown field '" ++ name ++ "'")
  | some domain =>
    let outside := sortBy id (values.filter (· ∉ domain)).dedup
    if values = [] then
      some ("rule '" ++ rule.name ++ "' has an empty value list for '" ++ name ++ "'")
    else if outside ≠ [] then
      some ("rule '" ++ rule.name ++ "' field '" ++ name ++ "' has values outside its range: " ++
        reprNames outside)
    else none

/-- What is wrong with one rule, its fields first. -/
def ruleError (rule : RuleSpec) : Option String :=
  match rule.matchFields.items.findSome? fun (name, values) => fieldError rule name values with
  | some reason => some reason
  | none =>
    if rule.messageAngle ∉ messageAngles then
      some ("rule '" ++ rule.name ++ "' has unknown angle '" ++ rule.messageAngle ++ "'")
    else if rule.urgency ∉ urgencies then
      some ("rule '" ++ rule.name ++ "' has unknown urgency '" ++ rule.urgency ++ "'")
    else if rule.priorityTier ∉ priorityTiers then
      some ("rule '" ++ rule.name ++ "' has unknown priority tier '" ++ rule.priorityTier ++ "'")
    else if rule.promptVariant = "" then
      some ("rule '" ++ rule.name ++ "' has no prompt variant")
    else none

/-- The first rule that an earlier one covers; `earlier` holds the rules already passed. -/
def unreachableRule (earlier : List RuleSpec) : List RuleSpec → Option (RuleSpec × RuleSpec)
  | [] => none
  | later :: rest =>
    match earlier.find? fun rule => covers rule.matchFields later.matchFields with
    | some rule => some (later, rule)
    | none => unreachableRule (earlier ++ [later]) rest

def validateRules (rules : List RuleSpec) : Except String Unit :=
  if rules = [] then .error "a rule set may not be empty"
  else if ¬ (rules.map RuleSpec.priority).Nodup then
    .error "rule priorities must be unique within a version"
  else
    match rules.findSome? ruleError with
    | some reason => .error reason
    | none =>
      match unreachableRule [] (sortBy RuleSpec.priority rules) with
      | some (later, earlier) =>
        .error ("rule '" ++ later.name ++ "' is unreachable; '" ++ earlier.name ++
          "' already covers it")
      | none => .ok ()

/-! ## The store -/

/-- A rule as a row of `business_rules` stores it. -/
structure RuleRow where
  name : String
  priority : ℤ
  matchFields : Json
  messageAngle : String
  urgency : String
  priorityTier : String
  promptVariant : String

def RuleSpec.row (rule : RuleSpec) : RuleRow where
  name := rule.name
  priority := rule.priority
  matchFields := .obj (rule.matchFields.items.map fun (field, values) => (field, .texts values))
  messageAngle := rule.messageAngle
  urgency := rule.urgency
  priorityTier := rule.priorityTier
  promptVariant := rule.promptVariant

def fieldOf? (field : String × Json) : Option (String × List String) :=
  field.2.members?.map fun names => (field.1, names)

/-- A stored match, when it can be read as one. -/
def matchOf? : Json → Option (Dict String (List String))
  | .obj fields => (fields.mapM fieldOf?).map .ofList
  | _ => none

def RuleRow.spec? (row : RuleRow) : Option RuleSpec :=
  (matchOf? row.matchFields).map fun matchFields =>
    { name := row.name
      priority := row.priority
      matchFields := matchFields
      messageAngle := row.messageAngle
      urgency := row.urgency
      priorityTier := row.priorityTier
      promptVariant := row.promptVariant }

/-- `business_rules`: no key column, one row per version and priority. -/
def ruleSpec : ComponentSpec RuleRow (ℤ × ℤ) where
  keyed := false
  uniqueKey := fun version _ rule => (version, rule.priority)

abbrev RuleStore := Store ruleSpec

/-- Inserts a new version of the rule set (`save_version`). -/
def saveVersion (s : RuleStore) (version : ℤ) (rules : List RuleSpec) (validFrom : Date)
    (validTo : Option Date) (validate : Bool) (publishedAt : Instant) :
    Except VersioningError RuleStore :=
  s.saveVersion (if validate then validateRules rules else .ok ()) version
    (rules.map fun rule => (defaultComponentKey, rule.row)) [defaultComponentKey] validFrom validTo
    publishedAt

/-- The rules of the version in force, by priority (`load_active_rules`). -/
def loadActiveRules (s : RuleStore) (date : Date) : List (Row RuleRow) :=
  sortBy (fun row => row.content.priority) (activeRows s.rows date)

lemma mapM_fieldOf? (items : List (String × List String)) :
    (items.map fun (field, values) => (field, Json.texts values)).mapM fieldOf? = some items := by
  induction items with
  | nil => rfl
  | cons item items ih =>
    rw [List.map_cons, List.mapM_cons, ih]
    simp [fieldOf?]

/-- What `save_version` stores is read back as the rule it was given. -/
lemma spec?_row (rule : RuleSpec) : rule.row.spec? = some rule := by
  have same : Dict.ofList rule.matchFields.items = rule.matchFields := by
    cases h : rule.matchFields with
    | mk items nodup =>
      have kept := Dict.items_ofList nodup
      cases h' : Dict.ofList items with
      | mk items' nodup' =>
        rw [h'] at kept
        cases kept
        rfl
  rw [RuleRow.spec?, RuleSpec.row]
  simp only [matchOf?, mapM_fieldOf?, Option.map_some, same]

lemma mem_loadActiveRules {s : RuleStore} {date : Date} {r : Row RuleRow} :
    r ∈ loadActiveRules s date ↔ r ∈ s.rows ∧ activeVersion s.rows date = some r.version := by
  rw [loadActiveRules, mem_sortBy, activeRows]
  cases activeVersion s.rows date with
  | none => simp
  | some version => simp [eq_comm]

/-- An accepted rule set is not empty. -/
lemma validateRules_ne_nil {rules : List RuleSpec} (h : validateRules rules = .ok ()) : rules ≠ [] := by
  intro e
  rw [validateRules, if_pos e] at h
  cases h

end ClientEngagement.Rules
