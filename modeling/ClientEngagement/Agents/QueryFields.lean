import ClientEngagement.Lib.JsonText

/-!
# The fields a filter may name

Model of `agents/query_fields.py`: the listed fields with their kinds, operators and bands, and
`compileConditions` (`compile_conditions`), which checks a list of conditions and returns the clauses of
the query beside the conditions as they are recorded. The conditions come as JSON, over any kind of number.
A refusal is the message the model reads. What is recorded compiles to the same again
(`compileConditions_recorded`).
-/

namespace ClientEngagement.Agents.Query

inductive Table where
  | clientRiskFeatures | activeClientFund
deriving DecidableEq

inductive Kind where
  | category | number | flag
deriving DecidableEq

/-- One field the agent may filter on, with its cut points. -/
structure FieldSpec where
  name : String
  table : Table
  kind : Kind
  bands : List ℚ := []
deriving DecidableEq

def riskFields : List FieldSpec :=
  [⟨"risk_band", .clientRiskFeatures, .category, []⟩,
    ⟨"value_tier", .clientRiskFeatures, .category, []⟩,
    ⟨"balance_tier", .clientRiskFeatures, .category, []⟩,
    ⟨"recency_band", .clientRiskFeatures, .category, []⟩,
    ⟨"route", .clientRiskFeatures, .category, []⟩,
    ⟨"risk_score", .clientRiskFeatures, .number, [20, 40, 60, 80]⟩,
    ⟨"fund_at_risk", .clientRiskFeatures, .number, [10000, 100000, 1000000]⟩,
    ⟨"overdue_multiple", .clientRiskFeatures, .number, [1, 2, 3, 5]⟩,
    ⟨"pattern_is_reliable", .clientRiskFeatures, .flag, []⟩,
    ⟨"sig_heavy_withdrawal", .clientRiskFeatures, .flag, []⟩,
    ⟨"sig_dormant", .clientRiskFeatures, .flag, []⟩,
    ⟨"sig_broken_pattern", .clientRiskFeatures, .flag, []⟩,
    ⟨"sig_shrinking", .clientRiskFeatures, .flag, []⟩,
    ⟨"sig_going_dormant", .clientRiskFeatures, .flag, []⟩,
    ⟨"sig_never_repeated", .clientRiskFeatures, .flag, []⟩]

def fundFields : List FieldSpec :=
  [⟨"balance", .activeClientFund, .number, [10000, 100000, 1000000]⟩,
    ⟨"months_until_empty", .activeClientFund, .number, [3, 6, 12, 24]⟩,
    ⟨"typical_gap_days", .activeClientFund, .number, [30, 90, 180, 365]⟩,
    ⟨"avg_deposit_amount", .activeClientFund, .number, [10000, 100000, 1000000]⟩,
    ⟨"last_deposit_amount", .activeClientFund, .number, [10000, 100000, 1000000]⟩,
    ⟨"deposit_trend", .activeClientFund, .number, [-1 / 4, 0, 1 / 4]⟩,
    ⟨"n_deposits", .activeClientFund, .number, [1, 3, 5, 10]⟩,
    ⟨"n_withdrawals", .activeClientFund, .number, [1, 3, 5, 10]⟩,
    ⟨"deposit_count_capped", .activeClientFund, .flag, []⟩,
    ⟨"withdrawal_history_hidden", .activeClientFund, .flag, []⟩]

/-- `FIELDS`. -/
def fields : List FieldSpec := riskFields ++ fundFields

inductive Operator where
  | eq | ne | gt | gte | lt | lte | isIn | notIn | isNull | notNull | isTrue | isFalse
deriving DecidableEq

def Operator.text : Operator → String
  | eq => "eq"
  | ne => "ne"
  | gt => "gt"
  | gte => "gte"
  | lt => "lt"
  | lte => "lte"
  | isIn => "in"
  | notIn => "not_in"
  | isNull => "is_null"
  | notNull => "not_null"
  | isTrue => "is_true"
  | isFalse => "is_false"

/-- `OPERATORS_BY_KIND`. -/
def operatorsByKind : Kind → List Operator
  | .category => [.eq, .ne, .isIn, .notIn, .isNull, .notNull]
  | .number => [.eq, .ne, .gt, .gte, .lt, .lte, .isNull, .notNull]
  | .flag => [.isTrue, .isFalse]

def Operator.valueless (operator : Operator) : Bool :=
  [isNull, notNull, isTrue, isFalse].contains operator

def Operator.takesList (operator : Operator) : Bool := [isIn, notIn].contains operator

/-- `agent_query_max_conditions` and `agent_query_max_values`. -/
structure QueryLimits where
  maxConditions : ℕ := 10
  maxValues : ℕ := 25

/-- The message of a `FilterRefused`. -/
abbrev FilterRefused := String

variable {ν : Type}

/-- A member of an object; a later one of the same name wins. -/
def member? (name : String) : JsonValue ν → Option (JsonValue ν)
  | .obj members => members.reverse.lookup name
  | _ => none

def fieldSpec (name : String) : Except FilterRefused FieldSpec :=
  match fields.find? (·.name = name) with
  | some spec => .ok spec
  | none => .error ("'" ++ name ++ "' is not a field this agent may filter on")

/-- `_condition_parts`: the field, the operator's text and the value, null when there is none. -/
def conditionParts (raw : JsonValue ν) : Except FilterRefused (String × String × JsonValue ν) :=
  match raw with
  | .obj _ =>
    match member? "field" raw, member? "op" raw with
    | some (.str field), some (.str operator) =>
      .ok (field, operator, (member? "value" raw).getD .null)
    | _, _ => .error "each condition needs a field name and an operator, both text"
  | _ => .error "each condition must be an object with a field and an operator"

/-- The check of a list of values. -/
def checkList (limits : QueryLimits) (field : String) (operator : Operator) :
    JsonValue ν → Except FilterRefused (Option (JsonValue ν))
  | .arr (item :: items) =>
    if limits.maxValues < items.length + 1 then
      .error ("'" ++ operator.text ++ "' on '" ++ field ++ "' lists more than " ++
        toString limits.maxValues ++ " values")
    else .ok (some (.arr (item :: items)))
  | _ => .error ("'" ++ operator.text ++ "' on '" ++ field ++ "' needs a non empty list of values")

/-- The check of a single value. -/
def checkPlain (field : String) (operator : Operator) :
    JsonValue ν → Except FilterRefused (Option (JsonValue ν))
  | .bool value => .ok (some (.bool value))
  | .num value => .ok (some (.num value))
  | .str text => .ok (some (.str text))
  | _ => .error ("'" ++ operator.text ++ "' on '" ++ field ++ "' needs one plain value")

/-- `_check_value`: the value a condition carries, none for an operator that takes none. -/
def checkValue (limits : QueryLimits) (field : String) (operator : Operator) (value : JsonValue ν) :
    Except FilterRefused (Option (JsonValue ν)) :=
  if operator.valueless then .ok none
  else if operator.takesList then checkList limits field operator value
  else checkPlain field operator value

/-- One clause of the query, over the column of a field. -/
structure Clause (ν : Type) where
  spec : FieldSpec
  operator : Operator
  value : Option (JsonValue ν)

/-- What is recorded of a condition; a value is left out where there is none. -/
def Clause.entry (clause : Clause ν) : JsonValue ν :=
  .obj ([("field", .str clause.spec.name), ("op", .str clause.operator.text)] ++
    clause.value.toList.map fun value => ("value", value))

def compileCondition (limits : QueryLimits) (raw : JsonValue ν) : Except FilterRefused (Clause ν) := do
  let (field, operatorText, value) ← conditionParts raw
  let spec ← fieldSpec field
  match (operatorsByKind spec.kind).find? (·.text = operatorText) with
  | none => .error ("'" ++ operatorText ++ "' cannot be used on '" ++ field ++ "'. Allowed here: " ++
      ", ".intercalate ((operatorsByKind spec.kind).map Operator.text))
  | some operator =>
    let checked ← checkValue limits field operator value
    .ok ⟨spec, operator, checked⟩

/-- The clauses of a list of conditions and what is recorded of them (`compile_conditions`). -/
def compileConditions (limits : QueryLimits) (conditions : List (JsonValue ν)) :
    Except FilterRefused (List (Clause ν) × List (JsonValue ν)) :=
  if limits.maxConditions < conditions.length then
    .error ("a filter may hold at most " ++ toString limits.maxConditions ++ " conditions")
  else
    match conditions.mapM (compileCondition limits) with
    | .error refused => .error refused
    | .ok clauses => .ok (clauses, clauses.map Clause.entry)

/-! ## What is recorded -/

variable {limits : QueryLimits} {raw : JsonValue ν} {clause : Clause ν}

lemma fieldSpec_ok {name : String} {spec : FieldSpec} (found : fieldSpec name = .ok spec) :
    spec.name = name := by
  rw [fieldSpec] at found
  split at found
  · rename_i listed
    cases found
    simpa using List.find?_some listed
  · cases found

lemma checkList_again {field : String} {operator : Operator} {value : JsonValue ν}
    {checked : Option (JsonValue ν)} (ok : checkList limits field operator value = .ok checked) :
    checkList limits field operator (checked.getD .null) = .ok checked := by
  match value with
  | .arr (item :: items) =>
    have kept := ok
    rw [checkList] at ok
    split at ok
    · cases ok
    · cases ok
      exact kept
  | .arr [] | .null | .bool _ | .num _ | .str _ | .obj _ => cases ok

lemma checkPlain_again {field : String} {operator : Operator} {value : JsonValue ν}
    {checked : Option (JsonValue ν)} (ok : checkPlain field operator value = .ok checked) :
    checkPlain field operator (checked.getD .null) = .ok checked := by
  match value with
  | .bool _ | .num _ | .str _ =>
    cases ok
    rfl
  | .null | .arr _ | .obj _ => cases ok

/-- The value that passed its check passes it again. -/
lemma checkValue_again {field : String} {operator : Operator} {value : JsonValue ν}
    {checked : Option (JsonValue ν)} (ok : checkValue limits field operator value = .ok checked) :
    checkValue limits field operator (checked.getD .null) = .ok checked := by
  rw [checkValue] at ok ⊢
  by_cases valueless : operator.valueless = true
  · rw [if_pos valueless] at ok ⊢
    exact ok
  · rw [if_neg valueless] at ok ⊢
    by_cases takesList : operator.takesList = true
    · rw [if_pos takesList] at ok ⊢
      exact checkList_again ok
    · rw [if_neg takesList] at ok ⊢
      exact checkPlain_again ok

/-- What a compiled condition is made of. -/
lemma compileCondition_ok (ok : compileCondition limits raw = .ok clause) :
    ∃ value, fieldSpec clause.spec.name = .ok clause.spec ∧
      (operatorsByKind clause.spec.kind).find? (·.text = clause.operator.text) = some clause.operator ∧
      checkValue limits clause.spec.name clause.operator value = .ok clause.value := by
  rw [compileCondition] at ok
  cases parts : conditionParts raw with
  | error refused =>
    rw [parts] at ok
    cases ok
  | ok read =>
    obtain ⟨field, operatorText, value⟩ := read
    rw [parts] at ok
    cases listed : fieldSpec field with
    | error refused =>
      simp only [bind, Except.bind, listed] at ok
      cases ok
    | ok spec =>
      simp only [bind, Except.bind, listed] at ok
      have name := fieldSpec_ok listed
      subst name
      split at ok
      · cases ok
      · rename_i operator allowed
        have text : operator.text = operatorText := by simpa using List.find?_some allowed
        subst text
        cases checked : checkValue limits spec.name operator value with
        | error refused =>
          rw [checked] at ok
          cases ok
        | ok kept =>
          rw [checked] at ok
          cases ok
          exact ⟨value, listed, allowed, checked⟩

lemma conditionParts_entry (clause : Clause ν) : conditionParts clause.entry =
    .ok (clause.spec.name, clause.operator.text, clause.value.getD .null) := by
  obtain ⟨spec, operator, value⟩ := clause
  cases value with
  | none => rfl
  | some value => rfl

/-- The record of a condition compiles to the same clause. -/
lemma compileCondition_entry (ok : compileCondition limits raw = .ok clause) :
    compileCondition limits clause.entry = .ok clause := by
  obtain ⟨value, listed, allowed, checked⟩ := compileCondition_ok ok
  rw [compileCondition, conditionParts_entry]
  simp only [bind, Except.bind, listed, allowed, checkValue_again checked]

lemma mapM_entries {conditions : List (JsonValue ν)} {clauses : List (Clause ν)}
    (ok : conditions.mapM (compileCondition limits) = .ok clauses) :
    clauses.length = conditions.length ∧
      (clauses.map Clause.entry).mapM (compileCondition limits) = .ok clauses := by
  induction conditions generalizing clauses with
  | nil =>
    cases ok
    exact ⟨rfl, rfl⟩
  | cons raw conditions ih =>
    rw [List.mapM_cons] at ok
    cases first : compileCondition limits raw with
    | error refused =>
      rw [first] at ok
      cases ok
    | ok clause =>
      rw [first] at ok
      cases rest : conditions.mapM (compileCondition limits) with
      | error refused =>
        rw [rest] at ok
        cases ok
      | ok others =>
        rw [rest] at ok
        cases ok
        obtain ⟨length, again⟩ := ih rest
        refine ⟨by rw [List.length_cons, List.length_cons, length], ?_⟩
        rw [List.map_cons, List.mapM_cons, compileCondition_entry first, again]
        rfl

/-- Compiling what was recorded gives the same clauses and the same record. -/
theorem compileConditions_recorded {conditions recorded : List (JsonValue ν)}
    {clauses : List (Clause ν)} (ok : compileConditions limits conditions = .ok (clauses, recorded)) :
    compileConditions limits recorded = .ok (clauses, recorded) := by
  rw [compileConditions] at ok
  split at ok
  · cases ok
  · rename_i few
    split at ok
    · cases ok
    · rename_i compiled
      cases ok
      obtain ⟨length, again⟩ := mapM_entries compiled
      rw [compileConditions, if_neg (by rw [List.length_map, length]; exact few), again]

end ClientEngagement.Agents.Query
