import ClientEngagement.Lib.Json
import ClientEngagement.Rules.Catalog

/-!
# The risk configuration store

Model of `risk/store.py`: `validateConfig` (`validate_config`), `saveConfigVersion`
(`save_config_version`) and `loadActiveConfig` (`load_active_config`). Weights and thresholds are JSON
columns, so a stored configuration holds whatever JSON it was given; the version is unique in the
table.
-/

namespace ClientEngagement.Risk
open Rules (Date Instant Row Store ComponentSpec VersioningError activeVersion defaultComponentKey
  reprNames)

/-- The names of `SIGNAL_FUNCS`. -/
def signalNames : List String :=
  ["sig_broken_pattern", "sig_dormant", "sig_heavy_withdrawal", "sig_shrinking",
    "sig_going_dormant", "sig_never_repeated"]

/-- `_REQUIRED_THRESHOLDS`. -/
def requiredThresholds : List String :=
  ["DORMANT_DAYS", "HEAVY_WITHDRAWAL_PCT", "OVERDUE_MULTIPLE", "SHRINKING_TREND", "TINY_BALANCE",
    "WORTH_A_CALL_BALANCE", "MONTHS_UNTIL_EMPTY", "FEE_PER_MONTH", "SYSTEM_FEE_MAX",
    "RISK_BAND_CUTOFFS"]

/-- One configuration as a row stores it. -/
structure RiskConfig where
  weights : Json
  thresholds : Json
  faCallCapacity : ℤ
  atRiskMin : ℤ
  digestCapPerGroup : ℤ := 12

/-- What a check of a configuration raises: its own error, or one of Python's on JSON of another
    shape. -/
inductive ConfigError where
  | invalid (reason : String)
  /-- `weights must sum to 100, got {total}`. -/
  | weightsTotal (total : ℚ)
  | malformed
deriving DecidableEq

/-- Names in order that are in one list and not in the other. -/
def missingFrom (names present : List String) : List String :=
  sortBy id (names.filter (· ∉ present)).dedup

def checkWeights (weights : Json) : Except ConfigError Unit :=
  match weights with
  | .obj fields =>
    let given := fields.map Prod.fst
    if missingFrom signalNames given ≠ [] then
      .error (.invalid ("missing weights for signals: " ++ reprNames (missingFrom signalNames given)))
    else if missingFrom given signalNames ≠ [] then
      .error (.invalid ("weights name unknown signals: " ++ reprNames (missingFrom given signalNames)))
    else
      match fields.mapM fun field => field.2.number? with
      | none => .error .malformed
      | some values =>
        if values.sum ≠ 100 then .error (.weightsTotal values.sum) else .ok ()
  | _ => .error .malformed

/-- Strictly ascending numbers, or texts: what sorting compares is one kind or raises. -/
def ascending (cutoffs : List Json) : Except ConfigError Bool :=
  match cutoffs.mapM Json.number? with
  | some values => .ok (decide (values.Pairwise (· < ·)))
  | none =>
    match cutoffs.mapM Json.text? with
    | some values => .ok (decide (values.Pairwise (· < ·)))
    | none => .error .malformed

def checkCutoffs (cutoffs : Option Json) : Except ConfigError Unit :=
  match cutoffs with
  | some (.arr items) =>
    if items.length ≠ 4 then
      .error (.invalid "RISK_BAND_CUTOFFS must be four cutoffs, one per band")
    else
      match ascending items with
      | .error error => .error error
      | .ok true => .ok ()
      | .ok false => .error (.invalid "RISK_BAND_CUTOFFS must be four strictly ascending numbers")
  | _ => .error (.invalid "RISK_BAND_CUTOFFS must be four cutoffs, one per band")

def checkThresholds (thresholds : Json) : Except ConfigError Unit :=
  match thresholds with
  | .obj fields =>
    let missing := missingFrom requiredThresholds (fields.map Prod.fst)
    if missing ≠ [] then .error (.invalid ("missing thresholds: " ++ reprNames missing))
    else checkCutoffs (thresholds.field? "RISK_BAND_CUTOFFS")
  | _ => .error .malformed

def validateConfig (weights thresholds : Json) : Except ConfigError Unit :=
  match checkWeights weights with
  | .error error => .error error
  | .ok () => checkThresholds thresholds

/-- `risk_config_version`: no key column, one row per version. -/
def riskConfigSpec : ComponentSpec RiskConfig ℤ where
  keyed := false
  uniqueKey := fun version _ _ => version

abbrev RiskConfigStore := Store riskConfigSpec

/-- A save raises the check's error or the store's. -/
inductive SaveConfigError where
  | config (error : ConfigError)
  | store (error : VersioningError)

/-- Validates and inserts a new version (`save_config_version`). -/
def saveConfigVersion (s : RiskConfigStore) (version : ℤ) (config : RiskConfig) (validFrom : Date)
    (validTo : Option Date) (publishedAt : Instant) : Except SaveConfigError RiskConfigStore :=
  match validateConfig config.weights config.thresholds with
  | .error error => .error (.config error)
  | .ok () =>
    (s.saveVersion (.ok ()) version [(defaultComponentKey, config)] [defaultComponentKey] validFrom
      validTo publishedAt).mapError .store

/-- The full configuration row in force on a date (`load_active_config`). -/
def loadActiveConfig (s : RiskConfigStore) (date : Date) : Option (Row RiskConfig) :=
  (activeVersion s.rows date).bind fun version => s.rows.find? (·.version = version)

end ClientEngagement.Risk
