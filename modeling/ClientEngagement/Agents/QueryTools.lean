import ClientEngagement.Agents.QueryFields
import ClientEngagement.Lib.Dict
import ClientEngagement.Privacy.FactBlock

/-!
# The tools that count a filter

Model of `agents/query_tools.py` and `agents/query_banding.py`. A filter narrows the book, one row for
each client fund joined to what is known of the fund, by clauses in the logic of SQL, where a comparison
with null is unknown. `measureSlice` and its blocking twin `measureRecordedFilter` measure what is left,
`distribution` counts the clients of each value of a field and folds the values into bands. How a value
of the filter reaches the database is `QueryEnv.bind`; `none` is an error the database raises.
-/

namespace ClientEngagement.Agents.Query
open Privacy (roundHalfEven)

/-- A client and a fund. -/
abbrev FundKey := ℤ × ℤ

/-- The columns of `client_risk_features` a filter or a measure reads. -/
structure RiskFeatures where
  riskBand : String := "None"
  valueTier : Option String := none
  balanceTier : Option String := none
  recencyBand : Option String := none
  route : Option String := none
  riskScore : ℤ := 0
  fundAtRisk : ℚ := 0
  overdueMultiple : Option ℚ := none
  patternIsReliable : Bool := false
  sigHeavyWithdrawal : Bool := false
  sigDormant : Bool := false
  sigBrokenPattern : Bool := false
  sigShrinking : Bool := false
  sigGoingDormant : Bool := false
  sigNeverRepeated : Bool := false

/-- Those of `active_client_fund`. -/
structure ClientFund where
  balance : Option ℚ := none
  monthsUntilEmpty : Option ℚ := none
  typicalGapDays : Option ℚ := none
  avgDepositAmount : Option ℚ := none
  lastDepositAmount : Option ℚ := none
  depositTrend : Option ℚ := none
  nDeposits : ℕ := 0
  nWithdrawals : ℕ := 0
  depositCountCapped : Bool := false
  withdrawalHistoryHidden : Bool := false

structure Book where
  riskFeatures : Dict FundKey RiskFeatures
  clientFunds : Dict FundKey ClientFund

/-- A row of the one join these tools make. -/
structure JoinedRow where
  key : FundKey
  risk : RiskFeatures
  fund : Option ClientFund

def Book.joined (book : Book) : List JoinedRow :=
  book.riskFeatures.items.map fun (key, risk) => ⟨key, risk, book.clientFunds.get? key⟩

inductive SqlValue where
  | null
  | text (text : String)
  | number (value : ℚ)
  | bool (value : Bool)
deriving DecidableEq

def ofText (text : Option String) : SqlValue := (text.map SqlValue.text).getD .null

def ofNumber (value : Option ℚ) : SqlValue := (value.map SqlValue.number).getD .null

/-- The value of a field's column; a fund that is not known has nulls. -/
def JoinedRow.column (row : JoinedRow) : String → SqlValue
  | "risk_band" => .text row.risk.riskBand
  | "value_tier" => ofText row.risk.valueTier
  | "balance_tier" => ofText row.risk.balanceTier
  | "recency_band" => ofText row.risk.recencyBand
  | "route" => ofText row.risk.route
  | "risk_score" => .number row.risk.riskScore
  | "fund_at_risk" => .number row.risk.fundAtRisk
  | "overdue_multiple" => ofNumber row.risk.overdueMultiple
  | "pattern_is_reliable" => .bool row.risk.patternIsReliable
  | "sig_heavy_withdrawal" => .bool row.risk.sigHeavyWithdrawal
  | "sig_dormant" => .bool row.risk.sigDormant
  | "sig_broken_pattern" => .bool row.risk.sigBrokenPattern
  | "sig_shrinking" => .bool row.risk.sigShrinking
  | "sig_going_dormant" => .bool row.risk.sigGoingDormant
  | "sig_never_repeated" => .bool row.risk.sigNeverRepeated
  | "balance" => ofNumber (row.fund.bind ClientFund.balance)
  | "months_until_empty" => ofNumber (row.fund.bind ClientFund.monthsUntilEmpty)
  | "typical_gap_days" => ofNumber (row.fund.bind ClientFund.typicalGapDays)
  | "avg_deposit_amount" => ofNumber (row.fund.bind ClientFund.avgDepositAmount)
  | "last_deposit_amount" => ofNumber (row.fund.bind ClientFund.lastDepositAmount)
  | "deposit_trend" => ofNumber (row.fund.bind ClientFund.depositTrend)
  | "n_deposits" => ofNumber (row.fund.map fun fund => (fund.nDeposits : ℚ))
  | "n_withdrawals" => ofNumber (row.fund.map fun fund => (fund.nWithdrawals : ℚ))
  | "deposit_count_capped" => ((row.fund.map fun fund => SqlValue.bool fund.depositCountCapped)).getD .null
  | "withdrawal_history_hidden" =>
    ((row.fund.map fun fund => SqlValue.bool fund.withdrawalHistoryHidden)).getD .null
  | _ => .null

/-! ## Clauses over rows -/

variable {ν : Type}

/-- The settings of the tools and how the database takes a value for a field's column. -/
structure QueryEnv (ν : Type) where
  limits : QueryLimits := {}
  minGroupSize : ℕ := 5
  timeoutMs : ℕ := 5000
  bind : FieldSpec → Operator → JsonValue ν → Option SqlValue

/-- Equality in the logic of SQL. -/
def SqlValue.equals : SqlValue → SqlValue → Option Bool
  | .text a, .text b => some (decide (a = b))
  | .number a, .number b => some (decide (a = b))
  | .bool a, .bool b => some (decide (a = b))
  | _, _ => none

def SqlValue.less : SqlValue → SqlValue → Option Bool
  | .number a, .number b => some (decide (a < b))
  | _, _ => none

/-- Whether one of the values is equal: unknown where none is and some comparison is. -/
def SqlValue.isOneOf (value : SqlValue) (values : List SqlValue) : Option Bool :=
  if values.any fun other => value.equals other = some true then some true
  else if values.any fun other => value.equals other = none then none
  else some false

/-- A clause with the values the database takes. -/
structure BoundClause where
  spec : FieldSpec
  operator : Operator
  values : List SqlValue

def Clause.bound (env : QueryEnv ν) (clause : Clause ν) : Option BoundClause :=
  let values :=
    match clause.value with
    | none => some []
    | some (.arr items) => items.mapM (env.bind clause.spec clause.operator)
    | some value => (env.bind clause.spec clause.operator value).map fun value => [value]
  values.map fun values => ⟨clause.spec, clause.operator, values⟩

/-- `_clause` over one row; unknown where a comparison is. -/
def BoundClause.holds (clause : BoundClause) (row : JoinedRow) : Option Bool :=
  let column := row.column clause.spec.name
  let value := clause.values.headD .null
  match clause.operator with
  | .eq => column.equals value
  | .ne => (column.equals value).map not
  | .gt => value.less column
  | .gte => (column.less value).map not
  | .lt => column.less value
  | .lte => (value.less column).map not
  | .isIn => column.isOneOf clause.values
  | .notIn => (column.isOneOf clause.values).map not
  | .isNull => some (decide (column = .null))
  | .notNull => some (decide (column ≠ .null))
  | .isTrue => some (decide (column = .bool true))
  | .isFalse => some (decide (column = .bool false))

/-- The rows every clause holds of. -/
def selectRows (env : QueryEnv ν) (book : Book) (clauses : List (Clause ν)) : Option (List JoinedRow) :=
  (clauses.mapM (Clause.bound env)).map fun bound =>
    book.joined.filter fun row => bound.all fun clause => clause.holds row = some true

/-! ## Measures -/

inductive Measure where
  | clientCount | fundCount | moneyTotal | moneyAtRisk | avgRiskScore
deriving DecidableEq

def Measure.text : Measure → String
  | clientCount => "client_count"
  | fundCount => "fund_count"
  | moneyTotal => "money_total_kes"
  | moneyAtRisk => "money_at_risk_kes"
  | avgRiskScore => "avg_risk_score"

/-- `MEASURES`. -/
def allMeasures : List Measure := [.clientCount, .fundCount, .moneyTotal, .moneyAtRisk, .avgRiskScore]

def defaultMeasures : List String := ["client_count", "fund_count", "money_total_kes"]

def checkMeasures (measures : List String) : Except FilterRefused (List Measure) :=
  if measures.isEmpty then .error "ask for at least one measure"
  else measures.mapM fun measure =>
    match allMeasures.find? (·.text = measure) with
    | some found => .ok found
    | none => .error ("'" ++ measure ++ "' is not a measure this agent may ask for")

/-- The clients of some rows, each once. -/
def clientsOf (rows : List JoinedRow) : List ℤ := (rows.map fun row => row.key.1).dedup

/-- `sum` over the values that are not null. -/
def sqlSum (values : List (Option ℚ)) : Option ℚ :=
  if (values.filterMap id).isEmpty then none else some (values.filterMap id).sum

/-- `_MEASURE_EXPRESSIONS`. -/
def Measure.evaluate (rows : List JoinedRow) : Measure → Option ℚ
  | clientCount => some (clientsOf rows).length
  | fundCount => some rows.length
  | moneyTotal => sqlSum (rows.map fun row => row.fund.bind ClientFund.balance)
  | moneyAtRisk => sqlSum (rows.map fun row => some row.risk.fundAtRisk)
  | avgRiskScore =>
    (sqlSum (rows.map fun row => some (row.risk.riskScore : ℚ))).map fun total => total / rows.length

/-- Money rounded to a size. -/
def roundMoney (amount : ℚ) : ℚ :=
  let step : ℚ :=
    if |amount| < 10000 then 1000
    else if |amount| < 1000000 then 10000
    else if |amount| < 100000000 then 100000
    else 1000000
  roundHalfEven (amount / step) * step

def bandMeasure (measure : Measure) (value : Option ℚ) : Option ℚ :=
  match measure with
  | .moneyTotal | .moneyAtRisk => value.map roundMoney
  | .avgRiskScore => value.map fun average => (roundHalfEven average : ℚ)
  | .clientCount | .fundCount => value

/-- Members, but too few to report on. -/
def isTooSmall (minGroupSize clientCount : ℕ) : Bool := 0 < clientCount && clientCount < minGroupSize

/-- `band_measures`: withheld, or rounded. -/
inductive Banded where
  | tooSmall
  | shown (values : Dict Measure (Option ℚ))

def bandMeasures (minGroupSize : ℕ) (measures : List (Measure × Option ℚ)) (clientCount : ℕ) : Banded :=
  if isTooSmall minGroupSize clientCount then .tooSmall
  else .shown (.ofList (measures.map fun (measure, value) => (measure, bandMeasure measure value)))

def measureRows (env : QueryEnv ν) (rows : List JoinedRow) (wanted : List Measure) : Banded :=
  bandMeasures env.minGroupSize (wanted.map fun measure => (measure, measure.evaluate rows))
    (clientsOf rows).length

/-- Which table to name as the source. -/
def tableFor (clauses : List (Clause ν)) : Table :=
  if clauses ≠ [] ∧ clauses.all (fun clause => clause.spec.table = .activeClientFund) then
    .activeClientFund
  else .clientRiskFeatures

/-- What a tool answers: a refusal with its code and message, or what it counted. -/
inductive ToolAnswer (ν α : Type) where
  | refused (code message : String)
  | answered (sourceTable : Table) (conditions : List (JsonValue ν)) (counted : α)

def timedOut (env : QueryEnv ν) {α : Type} : ToolAnswer ν α :=
  .refused "timed_out" ("this filter took longer than " ++ toString env.timeoutMs ++ "ms to count")

/-- How many clients and how much money match a filter (`measure_slice`). The database may cancel the
    query; whatever it raises is answered as that. -/
def measureSlice (env : QueryEnv ν) (book : Book) (cancelled : Bool)
    (conditions : List (JsonValue ν)) (measures : List String) : ToolAnswer ν Banded :=
  match checkMeasures (if measures.isEmpty then defaultMeasures else measures) with
  | .error message => .refused "filter_refused" message
  | .ok wanted =>
    match compileConditions env.limits conditions with
    | .error message => .refused "filter_refused" message
    | .ok (clauses, recorded) =>
      if cancelled then timedOut env
      else
        match selectRows env book clauses with
        | none => timedOut env
        | some rows => .answered (tableFor clauses) recorded (measureRows env rows wanted)

inductive RecountError where
  | refused (message : FilterRefused)
  | database
deriving DecidableEq

/-- The blocking twin, for a filter already recorded (`measure_recorded_filter`). -/
def measureRecordedFilter (env : QueryEnv ν) (book : Book) (recorded : List (JsonValue ν))
    (measures : List String) : Except RecountError Banded :=
  match checkMeasures measures with
  | .error message => .error (.refused message)
  | .ok wanted =>
    match compileConditions env.limits recorded with
    | .error message => .error (.refused message)
    | .ok (clauses, _) =>
      match selectRows env book clauses with
      | none => .error .database
      | some rows => .ok (measureRows env rows wanted)

/-! ## Distribution -/

/-- `_number`; `repr` is what Python prints for a number that is not whole. -/
def numberText (repr : ℚ → String) (value : ℚ) : String :=
  if value.isInt then toString value.num else repr value

/-- The bands that follow a cut point, up to the last. -/
def bandAbove (repr : ℚ → String) (value : ℚ) (low : ℚ) : List ℚ → String
  | [] => numberText repr low ++ " and above"
  | high :: rest =>
    if value < high then numberText repr low ++ " to " ++ numberText repr high
    else bandAbove repr value high rest

/-- `band_label`: which band a number falls in. -/
def bandLabel (repr : ℚ → String) (bands : List ℚ) (value : Option ℚ) : String :=
  match value, bands with
  | none, _ => "unknown"
  | some value, [] => repr value
  | some value, first :: rest =>
    if value < first then "under " ++ numberText repr first else bandAbove repr value first rest

/-- `_bucket_label`. -/
def bucketLabel (repr : ℚ → String) (spec : FieldSpec) (value : SqlValue) : String :=
  match spec.kind with
  | .category =>
    match value with
    | .text text => text
    | .null => "unknown"
    | .number value => numberText repr value
    | .bool value => if value then "True" else "False"
  | .flag => if value = .bool true then "yes" else "no"
  | .number =>
    match value with
    | .number value => bandLabel repr spec.bands (some value)
    | _ => bandLabel repr spec.bands none

/-- One row of the query for each value, with the clients that have it. -/
def groupCounts (spec : FieldSpec) (rows : List JoinedRow) : List (SqlValue × ℕ) :=
  (rows.map fun row => row.column spec.name).dedup.map fun value =>
    (value, (clientsOf (rows.filter fun row => row.column spec.name = value)).length)

/-- The counts of the values added up by label. -/
def foldBuckets (repr : ℚ → String) (spec : FieldSpec) (groups : List (SqlValue × ℕ)) : Dict String ℕ :=
  groups.foldl (fun buckets (value, count) =>
    buckets.modify (bucketLabel repr spec value) 0 (· + count)) .empty

def withheldLabel : String := "too small to show"

/-- The buckets that are large enough, and one line for the others. -/
def shownBuckets (minGroupSize : ℕ) (buckets : Dict String ℕ) : Dict String ℕ :=
  let shown := Dict.ofList (buckets.items.filter fun bucket => !isTooSmall minGroupSize bucket.2)
  let withheld := ((buckets.items.filter fun bucket => isTooSmall minGroupSize bucket.2).map Prod.snd).sum
  if withheld ≠ 0 then shown.set withheldLabel withheld else shown

/-- How a group spreads across one field (`distribution`). -/
def distribution (env : QueryEnv ν) (repr : ℚ → String) (book : Book) (cancelled : Bool) (field : String)
    (conditions : List (JsonValue ν)) : ToolAnswer ν (Dict String ℕ) :=
  match fieldSpec field with
  | .error message => .refused "filter_refused" message
  | .ok spec =>
    match compileConditions env.limits conditions with
    | .error message => .refused "filter_refused" message
    | .ok (clauses, recorded) =>
      if cancelled then timedOut env
      else
        match selectRows env book clauses with
        | none => timedOut env
        | some rows => .answered (tableFor clauses) recorded
            (shownBuckets env.minGroupSize (foldBuckets repr spec (groupCounts spec rows)))

end ClientEngagement.Agents.Query
