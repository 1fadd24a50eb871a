import ClientEngagement.Lib.Dict
import ClientEngagement.Lib.PythonText
import ClientEngagement.Lib.Regex
import ClientEngagement.Lib.Results

/-!
# Fact blocks

Model of `privacy/fact_block.py`: the closed schemas a payload may follow. A schema is its list of
fields with their types (`modelFields`, `riskFields`); `readFields` validates a payload against one,
as pydantic does. What pydantic makes of a value that is not of the field's type is the parameter
`Lax`. `modelFactBlock` adds the privacy rules of `ModelFactBlock` and dumps the fields that are
present, as `to_dict` does; what comes out is a `ModelFactBlock`.

Numbers are exact, so `roundSigFigs` (`round_sig_figs`) has no floating-point error.
-/

namespace ClientEngagement.Privacy

/-- The type of a field. -/
inductive FactKind where
  | band (values : List String)
  | flag
  | number
  | whole
  | text

/-- The value is of the field's type already. -/
def FactKind.accepts : FactKind → Json → Bool
  | .band values, .str given => given ∈ values
  | .flag, .bool _ => true
  | .number, .num _ => true
  | .whole, .num value => value.den = 1
  | .text, .str _ => true
  | _, _ => false

/-- pydantic's conversion of a value that is not of the field's type; it ends in one that is, or the
    field is refused. -/
abbrev Lax := (kind : FactKind) → Json → Option {value : Json // kind.accepts value = true}

/-- `FUND_DISPLAY_NAMES`. -/
def fundDisplayNames : Dict String String := .ofList
  [("money_market", "Cytonn Money Market Fund"), ("high_yield", "Cytonn High Yield Fund")]

/-- The fields of `ModelFactBlock`. -/
def modelFields : List (String × FactKind) :=
  [("recency_band", .band ["Under 1y", "1 to 3y", "3 to 6y", "Over 6y", "Unknown"]),
    ("value_band", .band ["Low", "Medium", "High", "Top"]),
    ("cadence_band", .band ["None", "Tight", "Regular", "Periodic", "Infrequent"]),
    ("hold_band", .band ["Under 2m", "Under 6m", "Stayed months", "Stayed years", "Unknown"]),
    ("purchase_depth", .band ["none", "single", "few", "capped"]),
    ("trend_band", .band ["rising", "flat", "falling", "unknown"]),
    ("exit_reason", .band ["client_sale", "charge_settled", "unknown"]),
    ("fund_type", .band ["money_market", "high_yield", "other"]),
    ("in_wave", .flag),
    ("has_depth", .flag),
    ("staged_exit", .flag),
    ("stale_contact", .flag),
    ("newly_dormant", .flag),
    ("fund_name", .band (fundDisplayNames.items.map Prod.snd)),
    ("years_since_exit", .number),
    ("typical_contribution_kes", .number),
    ("largest_contribution_kes", .number),
    ("invested_every_n_days", .whole),
    ("days_held_after_last_topup", .whole),
    ("month_they_left", .text),
    ("month_the_account_empties", .text)]

/-- The fields of `RiskFactBlock`. -/
def riskFields : List (String × FactKind) :=
  [("risk_band", .band ["None", "Low", "Watch", "High", "Critical"]),
    ("route", .band ["small_balance_review", "fa_call_priority", "fa_watchlist", "auto_checkin",
      "monitor_only"]),
    ("balance_tier", .band ["Tiny", "Micro", "Small", "Core", "Premium", "Institutional"]),
    ("recency_band", .band ["<=1m", "1-3m", "3-6m", "6-12m", "1-2y", "2y+"]),
    ("value_tier", .band ["Low", "Medium", "High", "Top"]),
    ("deposit_trend_band", .band ["rising", "flat", "falling", "unknown"]),
    ("fund_name", .band (fundDisplayNames.items.map Prod.snd)),
    ("sig_heavy_withdrawal", .flag),
    ("sig_dormant", .flag),
    ("sig_broken_pattern", .flag),
    ("sig_shrinking", .flag),
    ("sig_going_dormant", .flag),
    ("sig_never_repeated", .flag),
    ("deposit_count_capped", .flag),
    ("withdrawal_history_hidden", .flag),
    ("holds_both_funds", .flag),
    ("has_open_complaint", .flag)]

/-! ## The privacy rules -/

/-- Rounding to the nearest integer, a tie to the even one. -/
def roundHalfEven (value : ℚ) : ℤ :=
  let below := ⌊value⌋
  let rest := value - below
  if rest < 1 / 2 then below
  else if 1 / 2 < rest then below + 1
  else if below % 2 = 0 then below
  else below + 1

/-- `round(value, digits)`. -/
def roundTo (value : ℚ) (digits : ℤ) : ℚ := roundHalfEven (value * 10 ^ digits) / 10 ^ digits

/-- `round_sig_figs` of a present number. -/
def roundSigFigs (value : ℚ) (sigFigs : ℤ) : ℚ :=
  if value = 0 then value else roundTo value (sigFigs - Int.log 10 |value| - 1)

def mapNumber (f : ℚ → ℚ) : Json → Json
  | .num value => .num (f value)
  | value => value

/-- The band says that there is no cadence to quote. -/
def noCadence : Json → Bool
  | .null => true
  | .str text => text = "None"
  | _ => false

/-- The corrections of `_apply_privacy_rules`. -/
def corrected (read : String → Json) (name : String) : Json :=
  if name = "typical_contribution_kes" ∨ name = "largest_contribution_kes" then
    mapNumber (roundSigFigs · 2) (read name)
  else if name = "years_since_exit" then mapNumber (roundTo · 1) (read name)
  else if name = "invested_every_n_days" ∧ noCadence (read "cadence_band") = true then .null
  else read name

def monthNames : List String :=
  ["January", "February", "March", "April", "May", "June", "July", "August", "September", "October",
    "November", "December"]

/-- The end of a text, or just before a final newline (`$`). -/
def textEnd : Regex Char := .stop (· = '\n')

/-- `_MONTH_FORMAT`. -/
def monthFormat (tables : Unicode) : Regex Char :=
  .seqs [.start, .times 4 (.one tables.digit), .lit ['-'], .times 2 (.one tables.digit), textEnd]

/-- `_MONTH_NAME_FORMAT`. -/
def monthNameFormat (tables : Unicode) : Regex Char :=
  .seqs [.start, .alts (monthNames.map fun name => .lit name.toList), .lit [' '],
    .times 4 (.one tables.digit), textEnd]

/-- A present text has to match. -/
def formatHolds (format : Regex Char) : Json → Bool
  | .str text => format.matchesPrefix text.toList
  | _ => true

/-! ## Validation -/

inductive BlockError where
  | extraField
  | wrongType
  | monthTheyLeft (given : Json)
  | monthTheAccountEmpties (given : Json)

/-- One field's value after validation; null where it is absent. -/
def checkField (lax : Lax) (kind : FactKind) : Json → Option Json
  | .null => some .null
  | value => if kind.accepts value then some value else (lax kind value).map Subtype.val

/-- Validates a payload against a schema, as a function of the field. -/
def readFields (lax : Lax) (fields : List (String × FactKind)) (given : Dict String Json) :
    Except BlockError (String → Json) :=
  if given.keys.any (· ∉ fields.map Prod.fst) then .error .extraField
  else if fields.any fun (name, kind) => (checkField lax kind (given.getD name .null)).isNone then
    .error .wrongType
  else .ok fun name =>
    ((fields.lookup name).bind fun kind => checkField lax kind (given.getD name .null)).getD .null

def present : Json → Bool
  | .null => false
  | _ => true

/-- The fields that are present, in schema order (`model_dump(exclude_none=True)`). -/
def dumpFields (fields : List (String × FactKind)) (read : String → Json) : Dict String Json :=
  .ofList ((fields.map fun (name, _) => (name, read name)).filter fun (_, value) => present value)

/-- `ModelFactBlock(**given)`, as a function of the field. -/
def readModelFacts (tables : Unicode) (lax : Lax) (given : Dict String Json) :
    Except BlockError (String → Json) :=
  (readFields lax modelFields given).bind fun read =>
    if formatHolds (monthFormat tables) (read "month_they_left") = false then
      .error (.monthTheyLeft (read "month_they_left"))
    else if formatHolds (monthNameFormat tables) (read "month_the_account_empties") = false then
      .error (.monthTheAccountEmpties (read "month_the_account_empties"))
    else .ok (corrected read)

/-- The facts of a validated block: typed fields, months in their formats, and no interval quoted
    without a cadence. -/
structure ModelFactBlock (tables : Unicode) where
  facts : Dict String Json
  typed : ∀ name value, facts.get? name = some value →
    ∃ kind, modelFields.lookup name = some kind ∧ kind.accepts value = true
  monthTheyLeft : formatHolds (monthFormat tables) (facts.getD "month_they_left" .null) = true
  monthTheAccountEmpties :
    formatHolds (monthNameFormat tables) (facts.getD "month_the_account_empties" .null) = true
  cadence : "invested_every_n_days" ∈ facts.keys → noCadence (facts.getD "cadence_band" .null) = false

/-! ## What a validated block holds -/

variable {tables : Unicode} {lax : Lax} {given : Dict String Json} {name : String}

lemma present_iff {value : Json} : present value = true ↔ value ≠ .null := by
  cases value with
  | null => simp [present]
  | _ => simp [present]

lemma present_of_accepts {kind : FactKind} {value : Json} (h : kind.accepts value = true) :
    present value = true := by
  cases value with
  | null => cases kind <;> cases h
  | _ => rfl

lemma checkField_of_accepts {kind : FactKind} {value : Json} (h : kind.accepts value = true) :
    checkField lax kind value = some value := by
  cases value with
  | null => cases kind <;> cases h
  | bool b => rw [checkField, if_pos h]; exact nofun
  | num q => rw [checkField, if_pos h]; exact nofun
  | str t => rw [checkField, if_pos h]; exact nofun
  | arr items => rw [checkField, if_pos h]; exact nofun
  | obj fields => rw [checkField, if_pos h]; exact nofun

/-- A validated field is null or of its type. -/
lemma accepts_of_checkField {kind : FactKind} {value checked : Json}
    (h : checkField lax kind value = some checked) (there : checked ≠ .null) :
    kind.accepts checked = true := by
  rw [checkField.eq_def] at h
  split at h
  · cases h
    exact absurd rfl there
  · split at h
    · rename_i accepted
      cases h
      exact accepted
    · obtain ⟨typed, -, rfl⟩ := Option.map_eq_some_iff.mp h
      exact typed.2

lemma modelFields_nodup : (modelFields.map Prod.fst).Nodup := by decide

lemma readFields_ok {fields : List (String × FactKind)} {read : String → Json}
    (h : readFields lax fields given = .ok read) (name : String) :
    read name = ((fields.lookup name).bind fun kind =>
      checkField lax kind (given.getD name .null)).getD .null := by
  rw [readFields] at h
  split at h
  · cases h
  · split at h
    · cases h
    · cases h
      rfl

lemma typed_of_readFields {fields : List (String × FactKind)} {read : String → Json}
    (h : readFields lax fields given = .ok read) {name : String} (there : read name ≠ .null) :
    ∃ kind, fields.lookup name = some kind ∧ kind.accepts (read name) = true := by
  have e := readFields_ok h name
  cases known : fields.lookup name with
  | none =>
    rw [known] at e
    exact absurd e there
  | some kind =>
    rw [known, Option.bind_some] at e
    cases checked : checkField lax kind (given.getD name .null) with
    | none =>
      rw [checked] at e
      exact absurd e there
    | some value =>
      rw [checked, Option.getD_some] at e
      rw [e] at there ⊢
      exact ⟨kind, rfl, accepts_of_checkField checked there⟩

lemma accepts_mapNumber {kind : FactKind} (number : kind = .number) {f : ℚ → ℚ} {value : Json}
    (h : kind.accepts value = true) : kind.accepts (mapNumber f value) = true := by
  subst number
  cases value with
  | num q => rfl
  | _ => cases h

lemma mapNumber_eq_null {f : ℚ → ℚ} {value : Json} : mapNumber f value = .null ↔ value = .null := by
  cases value with
  | num q => simp [mapNumber]
  | _ => simp [mapNumber]

/-- A correction empties a field only where it had no value, or an interval without a cadence. -/
lemma corrected_eq_null {read : String → Json} : corrected read name = .null ↔
    read name = .null ∨ name = "invested_every_n_days" ∧ noCadence (read "cadence_band") = true := by
  rw [corrected]
  split
  · rename_i amount
    rw [mapNumber_eq_null]
    constructor
    · exact .inl
    · intro h
      cases h with
      | inl h => exact h
      | inr h =>
        rw [h.1] at amount
        exact absurd amount (by decide)
  · split
    · rename_i years
      rw [mapNumber_eq_null]
      constructor
      · exact .inl
      · intro h
        cases h with
        | inl h => exact h
        | inr h =>
          rw [years] at h
          exact absurd h.1 (by decide)
    · split
      · rename_i interval
        exact ⟨fun _ => .inr interval, fun _ => rfl⟩
      · rename_i interval
        exact ⟨.inl, fun h => h.resolve_right interval⟩

/-- Corrections keep the type of a field. -/
lemma typed_corrected {read : String → Json}
    (typed : ∀ name, read name ≠ .null →
      ∃ kind, modelFields.lookup name = some kind ∧ kind.accepts (read name) = true)
    (there : corrected read name ≠ .null) :
    ∃ kind, modelFields.lookup name = some kind ∧ kind.accepts (corrected read name) = true := by
  have given : read name ≠ .null := fun e => there (corrected_eq_null.mpr (.inl e))
  obtain ⟨kind, known, accepted⟩ := typed name given
  refine ⟨kind, known, ?_⟩
  have kinds : ∀ field, field = "typical_contribution_kes" ∨ field = "largest_contribution_kes" ∨
      field = "years_since_exit" → modelFields.lookup field = some .number := by
    intro field h
    rcases h with rfl | rfl | rfl <;> rfl
  rw [corrected]
  split
  · rename_i amount
    have number := kinds name (amount.imp_right .inl)
    rw [known] at number
    exact accepts_mapNumber (Option.some.inj number) accepted
  · split
    · rename_i years
      have number := kinds name (.inr (.inr years))
      rw [known] at number
      exact accepts_mapNumber (Option.some.inj number) accepted
    · split
      · rename_i interval
        exact absurd (corrected_eq_null.mpr (.inr interval)) there
      · exact accepted

/-- A dump holds the fields of the schema that are present. -/
lemma get?_dumpFields {fields : List (String × FactKind)} (nodup : (fields.map Prod.fst).Nodup)
    {read : String → Json} {value : Json} : (dumpFields fields read).get? name = some value ↔
      name ∈ fields.map Prod.fst ∧ read name = value ∧ value ≠ .null := by
  have names : ((fields.map fun field => (field.1, read field.1)).map Prod.fst) =
      fields.map Prod.fst := by
    rw [List.map_map]
    rfl
  have kept : (((fields.map fun field => (field.1, read field.1)).filter
      fun field => present field.2).map Prod.fst).Nodup := by
    refine List.Nodup.sublist ((List.filter_sublist).map _) ?_
    rw [names]
    exact nodup
  rw [dumpFields, Dict.get?_ofList kept, List.mem_filter, List.mem_map, present_iff, List.mem_map]
  constructor
  · intro h
    obtain ⟨⟨field, mem, e⟩, there⟩ := h
    obtain ⟨rfl, rfl⟩ := Prod.mk.inj e
    exact ⟨⟨field, mem, rfl⟩, rfl, there⟩
  · intro h
    obtain ⟨⟨field, mem, rfl⟩, rfl, there⟩ := h
    exact ⟨⟨field, mem, rfl⟩, there⟩

lemma getD_dumpFields {fields : List (String × FactKind)} (nodup : (fields.map Prod.fst).Nodup)
    {read : String → Json} (known : name ∈ fields.map Prod.fst) :
    (dumpFields fields read).getD name .null = read name := by
  rw [Dict.getD]
  cases e : (dumpFields fields read).get? name with
  | some value => exact ((get?_dumpFields nodup).mp e).2.1.symm
  | none =>
    by_contra there
    have held := (get?_dumpFields nodup).mpr ⟨known, rfl, Ne.symm there⟩
    rw [e] at held
    cases held

lemma readModelFacts_ok {read : String → Json} (h : readModelFacts tables lax given = .ok read) :
    ∃ raw, readFields lax modelFields given = .ok raw ∧ read = corrected raw ∧
      formatHolds (monthFormat tables) (raw "month_they_left") = true ∧
      formatHolds (monthNameFormat tables) (raw "month_the_account_empties") = true := by
  rw [readModelFacts] at h
  obtain ⟨raw, parsed, h⟩ := bind_eq_ok.mp h
  split at h
  · cases h
  · split at h
    · cases h
    · rename_i left empties
      cases h
      exact ⟨raw, parsed, rfl, by simpa using left, by simpa using empties⟩

/-- `ModelFactBlock(**given).to_dict()`. -/
def modelFactBlock (tables : Unicode) (lax : Lax) (given : Dict String Json) :
    Except BlockError (ModelFactBlock tables) :=
  match h : readModelFacts tables lax given with
  | .error e => .error e
  | .ok read => .ok
    { facts := dumpFields modelFields read
      typed := by
        intro name value held
        obtain ⟨raw, parsed, rfl, -, -⟩ := readModelFacts_ok h
        obtain ⟨-, rfl, there⟩ := (get?_dumpFields modelFields_nodup).mp held
        exact typed_corrected (fun _ => typed_of_readFields parsed) there
      monthTheyLeft := by
        obtain ⟨raw, -, rfl, left, -⟩ := readModelFacts_ok h
        rw [getD_dumpFields modelFields_nodup (by decide)]
        exact left
      monthTheAccountEmpties := by
        obtain ⟨raw, -, rfl, -, empties⟩ := readModelFacts_ok h
        rw [getD_dumpFields modelFields_nodup (by decide)]
        exact empties
      cadence := by
        intro quoted
        obtain ⟨raw, -, rfl, -, -⟩ := readModelFacts_ok h
        obtain ⟨value, held⟩ := (Dict.mem_keys_iff _).mp quoted
        obtain ⟨-, e, there⟩ := (get?_dumpFields modelFields_nodup).mp held
        rw [getD_dumpFields modelFields_nodup (by decide)]
        have kept : ¬ noCadence (raw "cadence_band") = true := by
          intro none_there
          rw [← e] at there
          exact there (corrected_eq_null.mpr (.inr ⟨rfl, none_there⟩))
        simpa [corrected] using kept }

lemma modelFactBlock_of_read {read : String → Json} (h : readModelFacts tables lax given = .ok read) :
    ∃ block, modelFactBlock tables lax given = .ok block ∧
      block.facts = dumpFields modelFields read := by
  unfold modelFactBlock
  split
  · rename_i e failed
    rw [h] at failed
    cases failed
  · rename_i read' parsed
    rw [h] at parsed
    cases parsed
    exact ⟨_, rfl, rfl⟩

/-- A payload whose values are of their types already is read as it is. -/
lemma readFields_of_typed {fields : List (String × FactKind)} (nodup : (fields.map Prod.fst).Nodup)
    (typed : ∀ name value, given.get? name = some value →
      ∃ kind, fields.lookup name = some kind ∧ kind.accepts value = true) :
    ∃ read, readFields lax fields given = .ok read ∧ ∀ name, read name = given.getD name .null := by
  have checked : ∀ name kind, fields.lookup name = some kind →
      checkField lax kind (given.getD name .null) = some (given.getD name .null) := by
    intro name kind known
    rw [Dict.getD]
    cases e : given.get? name with
    | none => rfl
    | some value =>
      obtain ⟨kind', known', accepted⟩ := typed name value e
      rw [known] at known'
      cases known'
      exact checkField_of_accepts accepted
  have names : ∀ name value, given.get? name = some value → name ∈ fields.map Prod.fst := by
    intro name value held
    obtain ⟨kind, known, -⟩ := typed name value held
    exact List.mem_map.mpr ⟨_, (Dict.mem_items_iff ⟨fields, nodup⟩).mpr known, rfl⟩
  have closed : given.keys.any (· ∉ fields.map Prod.fst) = false := by
    rw [List.any_eq_false]
    intro name mem
    obtain ⟨value, held⟩ := (given.mem_keys_iff).mp mem
    simpa using names name value held
  have valid : (fields.any fun (name, kind) =>
      (checkField lax kind (given.getD name .null)).isNone) = false := by
    rw [List.any_eq_false]
    intro field mem
    have known : fields.lookup field.1 = some field.2 :=
      (Dict.mem_items_iff ⟨fields, nodup⟩).mp mem
    show ¬ (checkField lax field.2 (given.getD field.1 .null)).isNone = true
    rw [checked field.1 field.2 known]
    exact Bool.false_ne_true
  have read : readFields lax fields given = .ok fun name =>
      ((fields.lookup name).bind fun kind => checkField lax kind (given.getD name .null)).getD .null := by
    rw [readFields, if_neg (by rw [closed]; exact Bool.false_ne_true), if_neg (by rw [valid]; exact Bool.false_ne_true)]
  refine ⟨_, read, fun name => ?_⟩
  cases known : fields.lookup name with
  | some kind => rw [Option.bind_some, checked name kind known, Option.getD_some]
  | none =>
    rw [Option.bind_none, Option.getD_none, Dict.getD]
    cases e : given.get? name with
    | none => rfl
    | some value =>
      obtain ⟨kind, known', -⟩ := typed name value e
      rw [known] at known'
      cases known'

/-- Validating part of a validated block succeeds. It keeps the fields it is given, but for an
    interval whose cadence is left out. -/
theorem modelFactBlock_restrict (lax : Lax) (block : ModelFactBlock tables) (p : String → Bool) :
    ∃ block', modelFactBlock tables lax (block.facts.filterKeys p) = .ok block' ∧
      ∀ name, name ∈ block'.facts.keys ↔ name ∈ block.facts.keys ∧ p name = true ∧
        (name = "invested_every_n_days" → p "cadence_band" = true) := by
  have part : ∀ name, (block.facts.filterKeys p).getD name .null =
      if p name then block.facts.getD name .null else .null := by
    intro name
    rw [Dict.getD, Dict.get?_filterKeys]
    split
    · rfl
    · rfl
  have typed : ∀ name value, (block.facts.filterKeys p).get? name = some value →
      ∃ kind, modelFields.lookup name = some kind ∧ kind.accepts value = true := by
    intro name value held
    rw [Dict.get?_filterKeys] at held
    split at held
    · exact block.typed name value held
    · cases held
  obtain ⟨raw, parsed, same⟩ : ∃ raw, readFields lax modelFields (block.facts.filterKeys p) = .ok raw ∧
      ∀ name, raw name = (block.facts.filterKeys p).getD name .null :=
    readFields_of_typed modelFields_nodup typed
  have left : formatHolds (monthFormat tables) (raw "month_they_left") = true := by
    rw [same, part]
    split
    · exact block.monthTheyLeft
    · rfl
  have empties : formatHolds (monthNameFormat tables) (raw "month_the_account_empties") = true := by
    rw [same, part]
    split
    · exact block.monthTheAccountEmpties
    · rfl
  have read : readModelFacts tables lax (block.facts.filterKeys p) = .ok (corrected raw) := by
    rw [readModelFacts, parsed]
    show (if _ then _ else if _ then _ else _) = _
    rw [if_neg (by rw [left]; exact Ne.symm Bool.false_ne_true), if_neg (by rw [empties]; exact Ne.symm Bool.false_ne_true)]
  obtain ⟨block', built, facts⟩ := modelFactBlock_of_read read
  refine ⟨block', built, fun name => ?_⟩
  have held : name ∈ block'.facts.keys ↔ name ∈ modelFields.map Prod.fst ∧ corrected raw name ≠ .null := by
    rw [Dict.mem_keys_iff, facts]
    constructor
    · intro h
      obtain ⟨value, h⟩ := h
      obtain ⟨known, rfl, there⟩ := (get?_dumpFields modelFields_nodup).mp h
      exact ⟨known, there⟩
    · intro h
      exact ⟨_, (get?_dumpFields modelFields_nodup).mpr ⟨h.1, rfl, h.2⟩⟩
  have there : ∀ name, block.facts.getD name .null ≠ .null ↔ name ∈ block.facts.keys := by
    intro name
    rw [Dict.getD, Dict.mem_keys_iff]
    cases e : block.facts.get? name with
    | none => simp
    | some value =>
      obtain ⟨kind, -, accepted⟩ := block.typed name value e
      have := present_iff.mp (present_of_accepts accepted)
      simpa using this
  have known : name ∈ block.facts.keys → name ∈ modelFields.map Prod.fst := by
    intro mem
    obtain ⟨value, e⟩ := (Dict.mem_keys_iff _).mp mem
    obtain ⟨kind, known, -⟩ := block.typed name value e
    exact List.mem_map.mpr ⟨_, (Dict.mem_items_iff ⟨modelFields, modelFields_nodup⟩).mpr known, rfl⟩
  rw [held, Ne, corrected_eq_null, same, same, part, part, not_or]
  constructor
  · intro h
    obtain ⟨-, given_there, quoted⟩ := h
    have shown : p name = true := by
      by_contra hidden
      exact given_there (if_neg hidden)
    rw [if_pos shown] at given_there
    refine ⟨(there name).mp given_there, shown, fun interval => ?_⟩
    by_contra hidden
    exact quoted ⟨interval, by rw [if_neg hidden]; rfl⟩
  · intro h
    obtain ⟨mem, shown, interval⟩ := h
    refine ⟨known mem, ?_, ?_⟩
    · rw [if_pos shown]
      exact (there name).mpr mem
    · intro dropped
      obtain ⟨rfl, none_there⟩ := dropped
      rw [if_pos (interval rfl), block.cadence mem] at none_there
      cases none_there

/-! ## A second validation changes nothing -/

lemma roundHalfEven_intCast (n : ℤ) : roundHalfEven n = n := by
  have rest : ((n : ℚ) - ⌊(n : ℚ)⌋) < 1 / 2 := by
    rw [Int.floor_intCast, sub_self]
    norm_num
  rw [roundHalfEven, if_pos rest, Int.floor_intCast]

/-- What has no further digits is not rounded. -/
lemma roundTo_of_whole {value : ℚ} {digits n : ℤ} (whole : value * 10 ^ digits = n) : roundTo value digits = value := by
  rw [roundTo, whole, roundHalfEven_intCast, ← whole]
  exact mul_div_cancel_right₀ value (zpow_ne_zero digits (by norm_num))

lemma roundTo_roundTo (value : ℚ) (digits : ℤ) : roundTo (roundTo value digits) digits = roundTo value digits :=
  roundTo_of_whole (div_mul_cancel₀ _ (zpow_ne_zero digits (by norm_num)))

/-- A bound that is a whole number is kept by rounding. -/
lemma abs_roundHalfEven_le {value : ℚ} {bound : ℤ} (low : |value| < bound) : |roundHalfEven value| ≤ bound := by
  have below : ⌊value⌋ < bound := Int.floor_lt.mpr (lt_of_abs_lt low)
  have above : -bound ≤ ⌊value⌋ := by
    apply Int.le_floor.mpr
    rw [Int.cast_neg]
    exact (neg_lt_of_abs_lt low).le
  rw [abs_le, roundHalfEven]
  split_ifs <;> omega

/-- An amount has two leading digits once it was rounded to them. -/
lemma roundSigFigs_roundSigFigs (value : ℚ) : roundSigFigs (roundSigFigs value 2) 2 = roundSigFigs value 2 := by
  have ten_pos (e : ℤ) : (0 : ℚ) < 10 ^ e := zpow_pos (by norm_num) e
  by_cases zero : value = 0
  · have kept : roundSigFigs value 2 = value := by rw [roundSigFigs, if_pos zero]
    rw [kept, kept]
  generalize e_def : Int.log 10 |value| = e
  generalize n_def : roundHalfEven (value * 10 ^ (2 - e - 1)) = n
  have rounded : roundSigFigs value 2 = n / 10 ^ (2 - e - 1) := by
    rw [roundSigFigs, if_neg zero, roundTo, e_def, n_def]
  rw [rounded]
  generalize r_def : (n : ℚ) / 10 ^ (2 - e - 1) = r
  have digits : r * 10 ^ (2 - e - 1) = n := by
    rw [← r_def]
    exact div_mul_cancel₀ _ (ten_pos _).ne'
  rw [roundSigFigs]
  split_ifs with nothing
  · rfl
  · by_cases same : Int.log 10 |r| ≤ e
    · -- no digit was gained, so the digits of the first rounding are enough
      obtain ⟨k, more⟩ := Int.le.dest same
      apply roundTo_of_whole (n := n * 10 ^ k)
      have split : (2 - Int.log 10 |r| - 1 : ℤ) = (2 - e - 1) + k := by omega
      rw [split, zpow_add₀ (by norm_num), ← mul_assoc, digits]
      push_cast
      rfl
    · -- the digits were rounded up to a power of ten
      rw [not_le, ← Int.add_one_le_iff] at same
      have scale : (10 : ℚ) ^ (e + 1) * 10 ^ (2 - e - 1) = 100 := by
        rw [← zpow_add₀ (by norm_num), show e + 1 + (2 - e - 1) = (2 : ℤ) by omega]
        norm_num
      have most : |n| ≤ 100 := by
        rw [← n_def]
        apply abs_roundHalfEven_le
        rw [abs_mul, abs_of_pos (ten_pos _)]
        have bound := Int.lt_zpow_succ_log_self (b := 10) (by norm_num) |value|
        rw [e_def] at bound
        push_cast at bound ⊢
        rw [← scale]
        exact mul_lt_mul_of_pos_right bound (ten_pos _)
      have reached := (Int.zpow_le_iff_le_log (b := 10) (by norm_num) (abs_pos.mpr nothing)).mpr same
      push_cast at reached
      have least : 100 ≤ |n| := by
        have grown := mul_le_mul_of_nonneg_right reached (ten_pos (2 - e - 1)).le
        rw [scale, ← abs_of_pos (ten_pos (2 - e - 1)), ← abs_mul, digits] at grown
        exact_mod_cast grown
      have power : |r| = 10 ^ (e + 1) := by
        have whole : |r| * 10 ^ (2 - e - 1) = 100 := by
          rw [← abs_of_pos (ten_pos (2 - e - 1)), ← abs_mul, digits]
          exact_mod_cast le_antisymm most least
        exact mul_right_cancel₀ (ten_pos (2 - e - 1)).ne' (whole.trans scale.symm)
      have log : Int.log 10 |r| = e + 1 := by
        rw [power]
        exact_mod_cast Int.log_zpow (R := ℚ) (b := 10) (by norm_num) (e + 1)
      obtain ⟨m, tens⟩ : ∃ m, n = 10 * m := by
        rcases abs_eq (by norm_num) |>.mp (le_antisymm most least) with h | h
        · exact ⟨10, by omega⟩
        · exact ⟨-10, by omega⟩
      apply roundTo_of_whole (n := m)
      have less : (2 - Int.log 10 |r| - 1 : ℤ) = (2 - e - 1) - 1 := by omega
      rw [less, zpow_sub₀ (by norm_num), ← mul_div_assoc, digits, tens]
      push_cast
      norm_num

lemma corrected_corrected (read : String → Json) : corrected (corrected read) = corrected read := by
  have twice (f : ℚ → ℚ) (idem : ∀ q, f (f q) = f q) (value : Json) :
      mapNumber f (mapNumber f value) = mapNumber f value := by
    cases value with
    | num q => rw [mapNumber, mapNumber, idem]
    | _ => rfl
  have band : corrected read "cadence_band" = read "cadence_band" := rfl
  funext name
  rw [corrected.eq_1 (corrected read), band]
  split_ifs with amount years interval
  · rw [corrected, if_pos amount, twice _ roundSigFigs_roundSigFigs]
  · rw [corrected, if_neg amount, if_pos years, twice _ (roundTo_roundTo · 1)]
  · rw [corrected, if_neg amount, if_neg years, if_pos interval]
  · rfl

/-- What comes out of a validation passes it again as it is. -/
theorem modelFactBlock_again {block : ModelFactBlock tables} (built : modelFactBlock tables lax given = .ok block) :
    ∃ block', modelFactBlock tables lax block.facts = .ok block' ∧ block'.facts = block.facts := by
  obtain ⟨read, first⟩ : ∃ read, readModelFacts tables lax given = .ok read := by
    unfold modelFactBlock at built
    split at built
    · cases built
    · rename_i read parsed
      exact ⟨read, parsed⟩
  obtain ⟨same, built', facts⟩ := modelFactBlock_of_read first
  rw [built] at built'
  cases built'
  obtain ⟨raw, parsed, rfl, -, -⟩ := readModelFacts_ok first
  obtain ⟨raw', parsed', given'⟩ : ∃ raw', readFields lax modelFields block.facts = .ok raw' ∧
      ∀ name, raw' name = block.facts.getD name .null := readFields_of_typed modelFields_nodup block.typed
  have again : raw' = corrected raw := by
    funext name
    rw [given', facts]
    by_cases known : name ∈ modelFields.map Prod.fst
    · exact getD_dumpFields modelFields_nodup known
    · have unread : raw name = .null := by
        by_contra there
        obtain ⟨kind, listed, -⟩ := typed_of_readFields parsed there
        exact known (List.mem_map.mpr ⟨_, (Dict.mem_items_iff ⟨modelFields, modelFields_nodup⟩).mpr listed, rfl⟩)
      rw [corrected_eq_null.mpr (.inl unread), Dict.getD]
      cases held : (dumpFields modelFields (corrected raw)).get? name with
      | none => rfl
      | some value => exact absurd ((get?_dumpFields modelFields_nodup).mp held).1 known
  have read : readModelFacts tables lax block.facts = .ok (corrected raw) := by
    rw [readModelFacts, parsed']
    show (if _ then _ else if _ then _ else _) = _
    rw [given', given', if_neg (by rw [block.monthTheyLeft]; exact Ne.symm Bool.false_ne_true),
      if_neg (by rw [block.monthTheAccountEmpties]; exact Ne.symm Bool.false_ne_true), again, corrected_corrected]
  obtain ⟨block', built', facts'⟩ := modelFactBlock_of_read read
  exact ⟨block', built', facts'.trans facts.symm⟩

end ClientEngagement.Privacy
