import ClientEngagement.Lib.Dict
import ClientEngagement.Lib.MapM
import ClientEngagement.Risk.ConfigStore

/-!
# Composing the signals into a score

Model of `risk/signals.py` and `risk/scoring.py`: the six signals over one client fund's measures
(`firedSignals`), and `composeScore` (`compose_score`) with the band walk. `none` is a raised error: a
threshold that is read and is no number. The score of an accepted configuration is a bounded and
monotone priority when no weight is negative (`Prioritises`).
-/

namespace ClientEngagement.Risk

/-- What the signals and the tiers read of one client fund (`ActiveFeatureMeasures`). -/
structure FeatureMeasures where
  balance : Option ℚ := none
  nDeposits : ℕ := 0
  typicalGapDays : Option ℚ := none
  avgDepositAmount : Option ℚ := none
  depositTrend : Option ℚ := none
  withdrawalPct : Option ℚ := none
  monthsUntilEmpty : Option ℚ := none
  daysSinceDeposit : Option ℤ := none
deriving DecidableEq

inductive Signal where
  | brokenPattern | dormant | heavyWithdrawal | shrinking | goingDormant | neverRepeated
deriving DecidableEq

namespace Signal

/-- `SIGNAL_ORDER`. -/
def order : List Signal :=
  [brokenPattern, dormant, heavyWithdrawal, shrinking, goingDormant, neverRepeated]

def name : Signal → String
  | brokenPattern => "sig_broken_pattern"
  | dormant => "sig_dormant"
  | heavyWithdrawal => "sig_heavy_withdrawal"
  | shrinking => "sig_shrinking"
  | goingDormant => "sig_going_dormant"
  | neverRepeated => "sig_never_repeated"

/-- `SIGNAL_LABELS`. -/
def label : Signal → String
  | brokenPattern => "Broke their own pattern"
  | dormant => "No deposit in 12 months"
  | heavyWithdrawal => "Heavy withdrawal"
  | shrinking => "Shrinking deposits"
  | goingDormant => "Fees will empty the account"
  | neverRepeated => "Never made a second deposit"

lemma mem_order (signal : Signal) : signal ∈ order := by
  cases signal <;> decide

lemma order_names : order.map name = signalNames := rfl

lemma name_injective : Function.Injective name := by
  intro signal other same
  cases signal <;> cases other <;> first | rfl | exact absurd same (by decide)

end Signal

/-- A threshold as a comparison reads it. -/
def threshold? (thresholds : Json) (name : String) : Option ℚ :=
  (thresholds.field? name).bind Json.number?

/-- A measure the row lacks never fires, and its threshold is not read. -/
def whenPresent {α : Type} (measure : Option α) (fires : α → Option Bool) : Option Bool :=
  match measure with
  | none => some false
  | some value => fires value

def sigHeavyWithdrawal (row : FeatureMeasures) (thresholds : Json) : Option Bool :=
  whenPresent row.withdrawalPct fun pct =>
    (threshold? thresholds "HEAVY_WITHDRAWAL_PCT").map fun limit => decide (limit ≤ pct)

def sigDormant (row : FeatureMeasures) (thresholds : Json) : Option Bool :=
  whenPresent row.daysSinceDeposit fun days =>
    (threshold? thresholds "DORMANT_DAYS").map fun limit => decide (limit < (days : ℚ))

def sigBrokenPattern (row : FeatureMeasures) (thresholds : Json) : Option Bool :=
  whenPresent row.typicalGapDays fun gap => whenPresent row.daysSinceDeposit fun days =>
    (threshold? thresholds "OVERDUE_MULTIPLE").map fun multiple =>
      decide (multiple * gap < (days : ℚ))

def sigShrinking (row : FeatureMeasures) (thresholds : Json) : Option Bool :=
  whenPresent row.depositTrend fun trend =>
    (threshold? thresholds "SHRINKING_TREND").map fun limit => decide (trend < limit)

def sigGoingDormant (row : FeatureMeasures) (thresholds : Json) : Option Bool :=
  whenPresent row.monthsUntilEmpty fun months =>
    (threshold? thresholds "MONTHS_UNTIL_EMPTY").map fun limit => decide (months < limit)

def sigNeverRepeated (row : FeatureMeasures) (_ : Json) : Option Bool :=
  some (decide (row.nDeposits = 1))

/-- `SIGNAL_FUNCS`. -/
def Signal.func : Signal → FeatureMeasures → Json → Option Bool
  | .brokenPattern => sigBrokenPattern
  | .dormant => sigDormant
  | .heavyWithdrawal => sigHeavyWithdrawal
  | .shrinking => sigShrinking
  | .goingDormant => sigGoingDormant
  | .neverRepeated => sigNeverRepeated

/-- Every signal's outcome for one row, keyed by signal (`fired_signals`). -/
def firedSignals (row : FeatureMeasures) (thresholds : Json) : Option (List (Signal × Bool)) :=
  Signal.order.mapM fun signal => (signal.func row thresholds).map fun fired => (signal, fired)

/-- `int(signals[name])`. -/
def firedAs (signals : List (Signal × Bool)) (signal : Signal) : ℚ :=
  if signals.lookup signal = some true then 1 else 0

/-- `config.weights[name]`. -/
def weight? (weights : Json) (signal : Signal) : Option ℚ :=
  (weights.field? signal.name).bind Json.number?

/-- The weighted sum of the fired signals. -/
def weightedSum (signals : List (Signal × Bool)) (weights : Json) : Option ℚ :=
  (Signal.order.mapM fun signal => (weight? weights signal).map (firedAs signals signal * ·)).map
    List.sum

/-- `RISK_BANDS`. -/
inductive RiskBand where
  | none | low | watch | high | critical
deriving DecidableEq

/-- A band's place in `RISK_BAND_ORDER` (`band_rank`). -/
def bandRank : RiskBand → ℕ
  | .none => 0
  | .low => 1
  | .watch => 2
  | .high => 3
  | .critical => 4

/-- `_band`: right-closed, a score on a cutoff belongs to the band below it. -/
def bandOf (score : ℚ) (noneMax lowMax watchMax highMax : ℚ) : RiskBand :=
  if highMax < score then .critical
  else if watchMax < score then .high
  else if lowMax < score then .watch
  else if noneMax < score then .low
  else .none

/-- `_band` over the stored cutoffs. -/
def band (score : ℚ) (cutoffs : Option Json) : Option RiskBand :=
  match cutoffs with
  | some (.arr items) =>
    match items.mapM Json.number? with
    | some [noneMax, lowMax, watchMax, highMax] =>
      some (bandOf score noneMax lowMax watchMax highMax)
    | _ => none
  | _ => none

/-- `_reasons`: the labels of the fired signals in order. -/
def reasons (signals : List (Signal × Bool)) : String :=
  let fired := (Signal.order.filter fun signal => signals.lookup signal = some true).map Signal.label
  if fired.isEmpty then "no signal" else "; ".intercalate fired

/-- `_bucket`: right-closed, and `Unknown` where the value is missing. -/
def bucket (value : Option ℚ) (cutoffs : List ℚ) (labels : List String) : String :=
  match value with
  | none => "Unknown"
  | some value =>
    match (cutoffs.zip labels).find? fun entry => decide (value ≤ entry.1) with
    | some entry => entry.2
    | none => labels.getLastD "Unknown"

def balanceTier (balance : Option ℚ) : String :=
  bucket balance [100, 1000, 10000, 100000, 1000000]
    ["Tiny", "Micro", "Small", "Core", "Premium", "Institutional"]

def recencyBand (days : Option ℤ) : String :=
  bucket (days.map Int.cast) [30, 90, 180, 365, 730] ["<=1m", "1-3m", "3-6m", "6-12m", "1-2y", "2y+"]

def valueTier (avgDepositAmount : Option ℚ) : String :=
  bucket avgDepositAmount [500, 3000, 18500] ["Low", "Medium", "High", "Top"]

structure ScoreResult where
  riskScore : ℚ
  riskBand : RiskBand
  riskReasons : String
  fundAtRisk : ℚ
  signals : List (Signal × Bool)
  recencyBand : String
  balanceTier : String
  valueTier : String

/-- One client fund's row as a score, a band and reasons (`compose_score`). -/
def composeScore (row : FeatureMeasures) (config : RiskConfig) : Option ScoreResult := do
  let signals ← firedSignals row config.thresholds
  let score ← weightedSum signals config.weights
  let riskBand ← band score (config.thresholds.field? "RISK_BAND_CUTOFFS")
  return {
    riskScore := score
    riskBand := riskBand
    riskReasons := reasons signals
    fundAtRisk := row.balance.getD 0 * score / 100
    signals := signals
    recencyBand := recencyBand row.daysSinceDeposit
    balanceTier := balanceTier row.balance
    valueTier := valueTier row.avgDepositAmount }

/-- A configuration the check accepts. Its weights are a dictionary, so each name occurs once. -/
structure AcceptedConfig where
  config : RiskConfig
  distinct : ∀ fields, config.weights = .obj fields → (fields.map Prod.fst).Nodup
  accepted : validateConfig config.weights config.thresholds = .ok ()

/-- The score is a bounded, monotone priority: where two rows hold the same balance and whatever fires
    on the first fires on the second, the second is placed no lower. -/
def Prioritises (config : RiskConfig) : Prop :=
  ∀ first second : FeatureMeasures,
    first.balance = second.balance →
    0 ≤ first.balance.getD 0 →
    (∀ signal : Signal, signal.func first config.thresholds = some true →
      signal.func second config.thresholds = some true) →
    ∃ a b, composeScore first config = some a ∧ composeScore second config = some b ∧
      0 ≤ a.riskScore ∧ a.riskScore ≤ b.riskScore ∧ b.riskScore ≤ 100 ∧
      bandRank a.riskBand ≤ bandRank b.riskBand ∧
      a.fundAtRisk ≤ b.fundAtRisk ∧ b.fundAtRisk ≤ second.balance.getD 0

/-- The thresholds the signals read. -/
def signalThresholds : List String :=
  ["HEAVY_WITHDRAWAL_PCT", "DORMANT_DAYS", "OVERDUE_MULTIPLE", "SHRINKING_TREND",
    "MONTHS_UNTIL_EMPTY"]

/-- No weight is negative, and what a score compares with is a number. -/
structure SoundConfig (config : RiskConfig) : Prop where
  weights : ∀ signal v, weight? config.weights signal = some v → 0 ≤ v
  thresholds : ∀ name ∈ signalThresholds, ∃ limit, threshold? config.thresholds name = some limit
  cutoffs : ∃ items values, config.thresholds.field? "RISK_BAND_CUTOFFS" = some (.arr items) ∧
    items.mapM Json.number? = some values

lemma subset_of_missingFrom {names present : List String} (none : missingFrom names present = []) :
    names ⊆ present := by
  intro name mem
  by_contra absent
  have found : name ∈ missingFrom names present := by
    rw [missingFrom, mem_sortBy, List.mem_dedup, List.mem_filter]
    exact ⟨mem, decide_eq_true absent⟩
  rw [none] at found
  cases found

/-- A member of a dictionary is what its name looks up. -/
lemma field?_of_mem {fields : List (String × Json)} (distinct : (fields.map Prod.fst).Nodup)
    {name : String} {value : Json} (mem : (name, value) ∈ fields) :
    (Json.obj fields).field? name = some value := by
  have nodup : (fields.reverse.map Prod.fst).Nodup := by
    rw [List.map_reverse]
    exact List.nodup_reverse.mpr distinct
  have found := (Dict.mem_items_iff ⟨fields.reverse, nodup⟩).mp (List.mem_reverse.mpr mem)
  exact found

/-- The accepted weights: a dictionary of the six signals' names, of numbers that add up to 100. -/
lemma checkWeights_ok {weights : Json} (ok : checkWeights weights = .ok ()) :
    ∃ fields values, weights = .obj fields ∧ signalNames ⊆ fields.map Prod.fst ∧
      fields.map Prod.fst ⊆ signalNames ∧ (fields.mapM fun field => field.2.number?) = some values ∧
      values.sum = 100 := by
  cases weights with
  | obj fields =>
    simp only [checkWeights] at ok
    split at ok
    · cases ok
    · split at ok
      · cases ok
      · rename_i named known
        cases numbers : fields.mapM fun field => field.2.number? with
        | none =>
          rw [numbers] at ok
          cases ok
        | some values =>
          rw [numbers] at ok
          by_cases total : values.sum = 100
          · exact ⟨fields, values, rfl, subset_of_missingFrom (not_not.mp named),
              subset_of_missingFrom (not_not.mp known), numbers, total⟩
          · simp only [ne_eq, total, not_false_eq_true, if_true] at ok
            cases ok
  | _ => cases ok

lemma mapM_number_eq {fields : List (String × Json)} {values : List ℚ}
    (numbers : (fields.mapM fun field => field.2.number?) = some values) :
    values = fields.map (fun field => field.2.number?.getD 0) ∧
      ∀ field ∈ fields, field.2.number? = some (field.2.number?.getD 0) := by
  induction fields generalizing values with
  | nil =>
    cases numbers
    exact ⟨rfl, fun _ mem => nomatch mem⟩
  | cons field fields ih =>
    rw [List.mapM_cons] at numbers
    obtain ⟨value, first, rest⟩ := Option.bind_eq_some_iff.mp numbers
    obtain ⟨tail, rest, made⟩ := Option.bind_eq_some_iff.mp rest
    obtain ⟨eq, all⟩ := ih rest
    cases made
    refine ⟨by rw [List.map_cons, first, ← eq]; rfl, fun other mem => ?_⟩
    cases mem with
    | head => rw [first]; rfl
    | tail _ mem => exact all other mem

/-- The checked weights are one number a signal, and the numbers add up to 100. -/
lemma AcceptedConfig.weighted (c : AcceptedConfig) :
    ∃ v : Signal → ℚ, (∀ signal, weight? c.config.weights signal = some (v signal)) ∧
      (Signal.order.map v).sum = 100 := by
  have ok : checkWeights c.config.weights = .ok () := by
    have accepted := c.accepted
    rw [validateConfig] at accepted
    split at accepted
    · cases accepted
    · assumption
  obtain ⟨fields, values, weights, named, known, numbers, total⟩ := checkWeights_ok ok
  have distinct := c.distinct fields weights
  obtain ⟨made, all⟩ := mapM_number_eq numbers
  rw [weights]
  let given (name : String) : ℚ := (((Json.obj fields).field? name).bind Json.number?).getD 0
  have looked : ∀ field ∈ fields, field.2.number?.getD 0 = given field.1 := by
    intro field mem
    simp only [given, field?_of_mem distinct mem, Option.bind_some]
  refine ⟨fun signal => given signal.name, fun signal => ?_, ?_⟩
  · have mem : signal.name ∈ fields.map Prod.fst := by
      apply named
      rw [← Signal.order_names]
      exact List.mem_map_of_mem signal.mem_order
    obtain ⟨field, mem, same⟩ := List.mem_map.mp mem
    rw [weight?, ← same, field?_of_mem distinct mem, Option.bind_some, all field mem,
      looked field mem]
    exact congrArg (fun name => some (given name)) same
  · have perm : signalNames.Perm (fields.map Prod.fst) :=
      (List.perm_ext_iff_of_nodup (by decide) distinct).mpr fun name =>
        ⟨fun mem => named mem, fun mem => known mem⟩
    calc (Signal.order.map fun signal => given signal.name).sum
        = (signalNames.map given).sum := by rw [← Signal.order_names, List.map_map]; rfl
      _ = ((fields.map Prod.fst).map given).sum := (perm.map given).sum_eq
      _ = values.sum := by
        rw [made, List.map_map]
        exact congrArg List.sum (List.map_congr_left fun field mem => (looked field mem).symm)
      _ = 100 := total

/-- What a run of keyed lookups collected is looked up by its key. -/
lemma lookup_of_mapM {κ ν : Type} [DecidableEq κ] {f : κ → Option ν} {l : List κ}
    {d : List (κ × ν)} (made : (l.mapM fun k => (f k).map fun v => (k, v)) = some d) {k : κ}
    (mem : k ∈ l) : d.lookup k = f k := by
  induction l generalizing d with
  | nil => cases mem
  | cons x l ih =>
    rw [List.mapM_cons] at made
    obtain ⟨entry, first, made⟩ := Option.bind_eq_some_iff.mp made
    obtain ⟨tail, rest, eq⟩ := Option.bind_eq_some_iff.mp made
    obtain ⟨v, value, pair⟩ := Option.map_eq_some_iff.mp first
    cases eq
    cases pair
    by_cases same : k = x
    · subst same
      rw [value]
      exact List.lookup_cons_self
    · rw [Dict.lookup_cons_ite, if_neg same]
      exact ih rest ((List.mem_cons.mp mem).resolve_left same)

lemma exists_firedSignals_iff {row : FeatureMeasures} {thresholds : Json} :
    (∃ signals, firedSignals row thresholds = some signals) ↔
      ∀ signal : Signal, ∃ fired, signal.func row thresholds = some fired := by
  rw [firedSignals, exists_mapM_iff]
  constructor
  · intro all signal
    obtain ⟨_, made⟩ := all signal signal.mem_order
    obtain ⟨fired, value, _⟩ := Option.map_eq_some_iff.mp made
    exact ⟨fired, value⟩
  · intro all signal _
    obtain ⟨fired, value⟩ := all signal
    exact ⟨(signal, fired), by rw [value]; rfl⟩

/-- The score of a row: the weights of what fires, added up. -/
def scoreOf (v : Signal → ℚ) (row : FeatureMeasures) (thresholds : Json) : ℚ :=
  (Signal.order.map fun signal =>
    if signal.func row thresholds = some true then v signal else 0).sum

lemma firedAs_mul {signals : List (Signal × Bool)} {row : FeatureMeasures} {thresholds : Json}
    (made : firedSignals row thresholds = some signals) (signal : Signal) (weight : ℚ) :
    firedAs signals signal * weight =
      if signal.func row thresholds = some true then weight else 0 := by
  rw [firedAs, lookup_of_mapM made signal.mem_order]
  split
  · rw [one_mul]
  · rw [zero_mul]

lemma weightedSum_eq {signals : List (Signal × Bool)} {row : FeatureMeasures} {config : RiskConfig}
    {v : Signal → ℚ} (weighted : ∀ signal, weight? config.weights signal = some (v signal))
    (made : firedSignals row config.thresholds = some signals) :
    weightedSum signals config.weights = some (scoreOf v row config.thresholds) := by
  rw [weightedSum, scoreOf]
  simp only [weighted, Option.map_some, firedAs_mul made]
  rfl

/-- What a composed score is made of. -/
lemma composeScore_eq_some {row : FeatureMeasures} {config : RiskConfig} {result : ScoreResult}
    {v : Signal → ℚ} (weighted : ∀ signal, weight? config.weights signal = some (v signal))
    (composed : composeScore row config = some result) :
    (∀ signal : Signal, ∃ fired, signal.func row config.thresholds = some fired) ∧
      result.riskScore = scoreOf v row config.thresholds ∧
      band result.riskScore (config.thresholds.field? "RISK_BAND_CUTOFFS") = some result.riskBand ∧
      result.fundAtRisk = row.balance.getD 0 * result.riskScore / 100 := by
  obtain ⟨signals, made, composed⟩ := Option.bind_eq_some_iff.mp composed
  obtain ⟨score, total, composed⟩ := Option.bind_eq_some_iff.mp composed
  obtain ⟨riskBand, walked, composed⟩ := Option.bind_eq_some_iff.mp composed
  rw [weightedSum_eq weighted made] at total
  cases total
  cases composed
  exact ⟨exists_firedSignals_iff.mp ⟨signals, made⟩, rfl, walked, rfl⟩

/-- A score is composed when every signal can be told and the cutoffs are four numbers. -/
lemma exists_composeScore {row : FeatureMeasures} {config : RiskConfig} {v : Signal → ℚ}
    (weighted : ∀ signal, weight? config.weights signal = some (v signal))
    (told : ∀ signal : Signal, ∃ fired, signal.func row config.thresholds = some fired)
    (walked : ∀ score, ∃ riskBand,
      band score (config.thresholds.field? "RISK_BAND_CUTOFFS") = some riskBand) :
    ∃ result, composeScore row config = some result := by
  obtain ⟨signals, made⟩ := exists_firedSignals_iff.mpr told
  obtain ⟨riskBand, banded⟩ := walked (scoreOf v row config.thresholds)
  rw [composeScore, made, Option.bind_eq_bind, Option.bind_some, weightedSum_eq weighted made,
    Option.bind_eq_bind, Option.bind_some, banded]
  exact ⟨_, rfl⟩

/-- The band walk is monotone, whatever the cutoffs. -/
lemma bandRank_bandOf_mono {score score' : ℚ} (le : score ≤ score') (a b c d : ℚ) :
    bandRank (bandOf score a b c d) ≤ bandRank (bandOf score' a b c d) := by
  have keeps : ∀ {cutoff : ℚ}, cutoff < score → cutoff < score' := fun lt => lt.trans_le le
  unfold bandOf
  split_ifs <;> first | decide | exact absurd (keeps ‹_›) ‹_›

/-- The cutoffs an accepted configuration holds are four. -/
lemma AcceptedConfig.four_cutoffs (c : AcceptedConfig) {items : List Json}
    (stored : c.config.thresholds.field? "RISK_BAND_CUTOFFS" = some (.arr items)) :
    items.length = 4 := by
  have accepted := c.accepted
  rw [validateConfig] at accepted
  split at accepted
  · cases accepted
  · generalize c.config.thresholds = thresholds at stored accepted
    cases thresholds with
    | obj fields =>
      simp only [checkThresholds, stored, checkCutoffs] at accepted
      by_contra other
      rw [if_pos other] at accepted
      split at accepted <;> cases accepted
    | _ => cases accepted

lemma AcceptedConfig.band_eq (c : AcceptedConfig) {items : List Json} {values : List ℚ}
    (stored : c.config.thresholds.field? "RISK_BAND_CUTOFFS" = some (.arr items))
    (numbers : items.mapM Json.number? = some values) :
    ∃ noneMax lowMax watchMax highMax, ∀ score,
      band score (c.config.thresholds.field? "RISK_BAND_CUTOFFS") =
        some (bandOf score noneMax lowMax watchMax highMax) := by
  have four : values.length = 4 := by
    rw [← c.four_cutoffs stored]
    exact length_of_mapM numbers
  match values, four with
  | [noneMax, lowMax, watchMax, highMax], _ =>
    refine ⟨noneMax, lowMax, watchMax, highMax, fun score => ?_⟩
    rw [stored]
    simp only [band, numbers]

/-- A sound configuration tells every signal of every row. -/
lemma SoundConfig.told {config : RiskConfig} (sound : SoundConfig config) (row : FeatureMeasures)
    (signal : Signal) : ∃ fired, signal.func row config.thresholds = some fired := by
  have limit (name : String) (mem : name ∈ signalThresholds) := sound.thresholds name mem
  cases signal with
  | brokenPattern =>
    obtain ⟨multiple, read⟩ := limit "OVERDUE_MULTIPLE" (by decide)
    simp only [Signal.func, sigBrokenPattern, whenPresent, read, Option.map_some]
    split
    · exact ⟨_, rfl⟩
    · split <;> exact ⟨_, rfl⟩
  | dormant =>
    obtain ⟨days, read⟩ := limit "DORMANT_DAYS" (by decide)
    simp only [Signal.func, sigDormant, whenPresent, read, Option.map_some]
    split <;> exact ⟨_, rfl⟩
  | heavyWithdrawal =>
    obtain ⟨pct, read⟩ := limit "HEAVY_WITHDRAWAL_PCT" (by decide)
    simp only [Signal.func, sigHeavyWithdrawal, whenPresent, read, Option.map_some]
    split <;> exact ⟨_, rfl⟩
  | shrinking =>
    obtain ⟨trend, read⟩ := limit "SHRINKING_TREND" (by decide)
    simp only [Signal.func, sigShrinking, whenPresent, read, Option.map_some]
    split <;> exact ⟨_, rfl⟩
  | goingDormant =>
    obtain ⟨months, read⟩ := limit "MONTHS_UNTIL_EMPTY" (by decide)
    simp only [Signal.func, sigGoingDormant, whenPresent, read, Option.map_some]
    split <;> exact ⟨_, rfl⟩
  | neverRepeated => exact ⟨_, rfl⟩

section Weighted
variable {v : Signal → ℚ} (nonneg : ∀ signal, 0 ≤ v signal)
include nonneg

lemma scoreOf_nonneg (row : FeatureMeasures) (thresholds : Json) : 0 ≤ scoreOf v row thresholds := by
  apply List.sum_nonneg
  intro x mem
  obtain ⟨signal, _, rfl⟩ := List.mem_map.mp mem
  split
  · exact nonneg signal
  · exact le_rfl

lemma scoreOf_le_total (row : FeatureMeasures) (thresholds : Json) :
    scoreOf v row thresholds ≤ (Signal.order.map v).sum := by
  apply List.sum_le_sum
  intro signal _
  split
  · exact le_rfl
  · exact nonneg signal

lemma scoreOf_mono {first second : FeatureMeasures} {thresholds : Json}
    (fires : ∀ signal : Signal, signal.func first thresholds = some true →
      signal.func second thresholds = some true) :
    scoreOf v first thresholds ≤ scoreOf v second thresholds := by
  apply List.sum_le_sum
  intro signal _
  by_cases fired : signal.func first thresholds = some true
  · rw [if_pos fired, if_pos (fires signal fired)]
  · rw [if_neg fired]
    split
    · exact nonneg signal
    · exact le_rfl

end Weighted

/-- In a sound configuration more signals never lower the score, its band or the money at risk. -/
lemma SoundConfig.prioritises {c : AcceptedConfig} (sound : SoundConfig c.config) :
    Prioritises c.config := by
  obtain ⟨v, weighted, total⟩ := c.weighted
  have nonneg (signal : Signal) : 0 ≤ v signal := sound.weights signal _ (weighted signal)
  obtain ⟨items, values, stored, numbers⟩ := sound.cutoffs
  obtain ⟨noneMax, lowMax, watchMax, highMax, walk⟩ := c.band_eq stored numbers
  intro first second same balance fires
  obtain ⟨a, composed⟩ := exists_composeScore weighted (sound.told first) fun score => ⟨_, walk score⟩
  obtain ⟨b, composed'⟩ :=
    exists_composeScore weighted (sound.told second) fun score => ⟨_, walk score⟩
  obtain ⟨-, score, banded, risk⟩ := composeScore_eq_some weighted composed
  obtain ⟨-, score', banded', risk'⟩ := composeScore_eq_some weighted composed'
  rw [walk] at banded banded'
  have le : a.riskScore ≤ b.riskScore := by
    rw [score, score']
    exact scoreOf_mono nonneg fires
  have low : 0 ≤ a.riskScore := score ▸ scoreOf_nonneg nonneg first _
  have high : b.riskScore ≤ 100 := by
    rw [score', ← total]
    exact scoreOf_le_total nonneg second _
  refine ⟨a, b, composed, composed', low, le, high, ?_, ?_, ?_⟩
  · rw [← Option.some.inj banded, ← Option.some.inj banded']
    exact bandRank_bandOf_mono le _ _ _ _
  · rw [risk, risk', ← same]
    have scaled := mul_le_mul_of_nonneg_left le balance
    exact div_le_div_of_nonneg_right scaled (by norm_num)
  · rw [risk', ← same]
    have scaled := mul_le_mul_of_nonneg_left high balance
    linarith

/-- A row every signal's measure is present on. -/
def fullRow : FeatureMeasures :=
  { balance := some 100
    nDeposits := 2
    typicalGapDays := some 30
    depositTrend := some 0
    withdrawalPct := some 0
    monthsUntilEmpty := some 12
    daysSinceDeposit := some 10 }

/-- A row no signal's measure is present on. -/
def quietRow : FeatureMeasures := { balance := some 100, nDeposits := 2 }

/-- For each signal there are two rows that differ in it alone. -/
lemma exists_apart {thresholds : Json}
    (read : ∀ name ∈ signalThresholds, ∃ limit, threshold? thresholds name = some limit)
    (signal : Signal) :
    ∃ first second : FeatureMeasures, first.balance = some 100 ∧ second.balance = some 100 ∧
      signal.func first thresholds = some false ∧ signal.func second thresholds = some true ∧
      ∀ other, other ≠ signal → other.func first thresholds = other.func second thresholds := by
  cases signal with
  | brokenPattern =>
    obtain ⟨multiple, isMultiple⟩ := read "OVERDUE_MULTIPLE" (by decide)
    refine ⟨{ quietRow with daysSinceDeposit := some 1 },
      { quietRow with daysSinceDeposit := some 1, typicalGapDays := some 0 }, rfl, rfl, rfl, ?_, ?_⟩
    · simp [Signal.func, sigBrokenPattern, whenPresent, isMultiple]
    · intro other apart
      cases other <;> first | rfl | exact absurd rfl apart
  | dormant =>
    obtain ⟨limit, isLimit⟩ := read "DORMANT_DAYS" (by decide)
    refine ⟨quietRow, { quietRow with daysSinceDeposit := some (max (⌊limit⌋ + 1) 0) }, rfl, rfl, rfl,
      ?_, ?_⟩
    · have lt : limit < ((max (⌊limit⌋ + 1) 0 : ℤ) : ℚ) := by
        have below := Int.lt_floor_add_one limit
        have le : ((⌊limit⌋ + 1 : ℤ) : ℚ) ≤ ((max (⌊limit⌋ + 1) 0 : ℤ) : ℚ) := by
          exact_mod_cast le_max_left _ _
        push_cast at le below ⊢
        linarith
      simp only [Signal.func, sigDormant, whenPresent, isLimit, Option.map_some, decide_eq_true lt]
    · intro other apart
      cases other <;> first | rfl | exact absurd rfl apart
  | heavyWithdrawal =>
    obtain ⟨limit, isLimit⟩ := read "HEAVY_WITHDRAWAL_PCT" (by decide)
    refine ⟨quietRow, { quietRow with withdrawalPct := some limit }, rfl, rfl, rfl, ?_, ?_⟩
    · simp [Signal.func, sigHeavyWithdrawal, whenPresent, isLimit]
    · intro other apart
      cases other <;> first | rfl | exact absurd rfl apart
  | shrinking =>
    obtain ⟨limit, isLimit⟩ := read "SHRINKING_TREND" (by decide)
    refine ⟨quietRow, { quietRow with depositTrend := some (limit - 1) }, rfl, rfl, rfl, ?_, ?_⟩
    · simp [Signal.func, sigShrinking, whenPresent, isLimit]
    · intro other apart
      cases other <;> first | rfl | exact absurd rfl apart
  | goingDormant =>
    obtain ⟨limit, isLimit⟩ := read "MONTHS_UNTIL_EMPTY" (by decide)
    refine ⟨quietRow, { quietRow with monthsUntilEmpty := some (limit - 1) }, rfl, rfl, rfl, ?_, ?_⟩
    · simp [Signal.func, sigGoingDormant, whenPresent, isLimit]
    · intro other apart
      cases other <;> first | rfl | exact absurd rfl apart
  | neverRepeated =>
    refine ⟨quietRow, { quietRow with nDeposits := 1 }, rfl, rfl, rfl, rfl, ?_⟩
    intro other apart
    cases other <;> first | rfl | exact absurd rfl apart

/-- Rows that differ in one signal score its weight apart. -/
lemma scoreOf_apart {v : Signal → ℚ} {first second : FeatureMeasures} {thresholds : Json}
    {signal : Signal} (quiet : signal.func first thresholds = some false)
    (fired : signal.func second thresholds = some true)
    (others : ∀ other, other ≠ signal → other.func first thresholds = other.func second thresholds) :
    scoreOf v second thresholds = scoreOf v first thresholds + v signal := by
  have each (other : Signal) : (if other.func second thresholds = some true then v other else 0) =
      (if other.func first thresholds = some true then v other else 0) +
        if other = signal then v other else 0 := by
    by_cases same : other = signal
    · subst same
      rw [quiet, if_pos fired, if_neg (by decide), if_pos rfl, zero_add]
    · rw [others other same, if_neg same, add_zero]
  have one : (Signal.order.map fun other => if other = signal then v other else 0).sum = v signal := by
    cases signal <;> simp [Signal.order]
  rw [scoreOf, scoreOf, funext each, List.sum_map_add, one]

/-- A threshold a row's measure is compared with is a number when the row can be scored. -/
lemma threshold_of_told {thresholds : Json}
    (told : ∀ signal : Signal, ∃ fired, signal.func fullRow thresholds = some fired) :
    ∀ name ∈ signalThresholds, ∃ limit, threshold? thresholds name = some limit := by
  have read {name : String} {decided : ℚ → Bool} {fired : Bool}
      (value : (threshold? thresholds name).map decided = some fired) :
      ∃ limit, threshold? thresholds name = some limit := by
    obtain ⟨limit, isLimit, _⟩ := Option.map_eq_some_iff.mp value
    exact ⟨limit, isLimit⟩
  intro name mem
  simp only [signalThresholds, List.mem_cons, List.not_mem_nil, or_false] at mem
  rcases mem with rfl | rfl | rfl | rfl | rfl
  · obtain ⟨_, value⟩ := told .heavyWithdrawal
    exact read value
  · obtain ⟨_, value⟩ := told .dormant
    exact read value
  · obtain ⟨_, value⟩ := told .brokenPattern
    exact read value
  · obtain ⟨_, value⟩ := told .shrinking
    exact read value
  · obtain ⟨_, value⟩ := told .goingDormant
    exact read value

lemma cutoffs_of_band {score : ℚ} {cutoffs : Option Json} {riskBand : RiskBand}
    (walked : band score cutoffs = some riskBand) :
    ∃ items values, cutoffs = some (.arr items) ∧ items.mapM Json.number? = some values := by
  match cutoffs with
  | some (.arr items) =>
    simp only [band] at walked
    split at walked
    · rename_i numbers
      exact ⟨items, _, rfl, numbers⟩
    · cases walked
  | none | some .null | some (.bool _) | some (.num _) | some (.str _) | some (.obj _) => cases walked

/-- The score of an accepted configuration is a bounded, monotone priority exactly when no weight is
    negative and the thresholds and cutoffs it reads are numbers. -/
theorem prioritises_iff (c : AcceptedConfig) : Prioritises c.config ↔ SoundConfig c.config := by
  refine ⟨fun prioritises => ?_, SoundConfig.prioritises⟩
  obtain ⟨v, weighted, -⟩ := c.weighted
  obtain ⟨full, -, composed, -⟩ :=
    prioritises fullRow fullRow rfl (by decide +kernel) fun _ fired => fired
  obtain ⟨told, -, walked, -⟩ := composeScore_eq_some weighted composed
  have read := threshold_of_told told
  refine ⟨fun signal w isWeight => ?_, read, cutoffs_of_band walked⟩
  obtain ⟨first, second, held, held', quiet, fired, others⟩ := exists_apart read signal
  obtain ⟨a, b, composed, composed', -, le, -⟩ :=
    prioritises first second (held.trans held'.symm) (by rw [held]; decide +kernel) fun other fires => by
      by_cases same : other = signal
      · rw [same]
        exact fired
      · rw [← others other same]
        exact fires
  obtain ⟨-, score, -⟩ := composeScore_eq_some weighted composed
  obtain ⟨-, score', -⟩ := composeScore_eq_some weighted composed'
  rw [score, score', scoreOf_apart quiet fired others] at le
  have isV : w = v signal := Option.some.inj (isWeight.symm.trans (weighted signal))
  rw [isV]
  linarith

/-- The shipped thresholds with a weight that discounts one signal; the weights add up to 100. -/
def discountConfig : AcceptedConfig where
  config :=
    { weights := .obj [("sig_heavy_withdrawal", .num 60), ("sig_dormant", .num 25),
        ("sig_broken_pattern", .num 20), ("sig_shrinking", .num 15), ("sig_going_dormant", .num (-23)),
        ("sig_never_repeated", .num 3)]
      thresholds := .obj [("DORMANT_DAYS", .num 365), ("HEAVY_WITHDRAWAL_PCT", .num (1 / 2)),
        ("OVERDUE_MULTIPLE", .num 3), ("SHRINKING_TREND", .num (-1 / 10)), ("TINY_BALANCE", .num 100),
        ("WORTH_A_CALL_BALANCE", .num 10000), ("MONTHS_UNTIL_EMPTY", .num 12),
        ("FEE_PER_MONTH", .num 50), ("SYSTEM_FEE_MAX", .num 100),
        ("RISK_BAND_CUTOFFS", .arr [.num 0, .num 24, .num 49, .num 74])]
      faCallCapacity := 150
      atRiskMin := 25 }
  distinct := by
    intro fields eq
    cases eq
    decide
  accepted := by decide +kernel

/-- A dormant client whose fees will empty the account scores 2, one that is only dormant 25. -/
theorem discounted_below : ¬ ∀ c : AcceptedConfig, Prioritises c.config := by
  intro all
  let first : FeatureMeasures := { balance := some 500, nDeposits := 2, daysSinceDeposit := some 400 }
  let second : FeatureMeasures := { first with monthsUntilEmpty := some 10 }
  have scored : (composeScore first discountConfig.config).map ScoreResult.riskScore = some 25 := by
    decide +kernel
  have scored' : (composeScore second discountConfig.config).map ScoreResult.riskScore = some 2 := by
    decide +kernel
  obtain ⟨a, b, composed, composed', -, le, -⟩ :=
    all discountConfig first second rfl (by decide +kernel) fun signal fired => by
      cases signal <;> first | exact fired | decide +kernel
  rw [composed] at scored
  rw [composed'] at scored'
  have isTwentyFive : a.riskScore = 25 := Option.some.inj scored
  have isTwo : b.riskScore = 2 := Option.some.inj scored'
  rw [isTwentyFive, isTwo] at le
  norm_num at le

end ClientEngagement.Risk
