import ClientEngagement.Lib.RegexNeeds
import ClientEngagement.Privacy.Scanners

/-!
# The inbound scan over Python values

`scan_inbound` over everything a payload may hold: numbers that are infinite or NaN, and objects that are no
JSON. `ModelFactBlock(**payload)` then raises a second error beside that of validation, since the magnitude of
an infinite amount is no integer, and `str` raises on an integer with too many digits. `coarsened_iff` says when
neither happens, and what a payload that passes looks like.
-/

namespace ClientEngagement.Privacy.Inbound
open Rules (reprNames)

/-! ## Python values -/

/-- A Python number. -/
inductive PyNumber where
  | finite (value : ℚ)
  | infinite (negative : Bool)
  | nan
deriving DecidableEq

/-- Python's `==` of numbers; NaN is equal to nothing. -/
def PyNumber.equals : PyNumber → PyNumber → Bool
  | .finite a, .finite b => a = b
  | .infinite a, .infinite b => a = b
  | _, _ => false

/-- `round(value, digits)`. -/
def PyNumber.round (digits : ℤ) : PyNumber → PyNumber
  | .finite value => .finite (roundTo value digits)
  | value => value

/-- A Python value; `object` is one of any other class. -/
inductive Value (ω : Type) where
  | none
  | bool (value : Bool)
  | number (value : PyNumber)
  | text (text : String)
  | object (it : ω)
deriving DecidableEq

/-- The value is of the field's type already. -/
def accepts {ω : Type} : FactKind → Value ω → Bool
  | .band values, .text given => given ∈ values
  | .flag, .bool _ => true
  | .number, .number _ => true
  | .whole, .number (.finite value) => value.den = 1
  | .text, .text _ => true
  | _, _ => false

/-- What the scan takes from Python and from pydantic. -/
structure Platform (ω : Type) where
  tables : Unicode
  digits : ∀ c, c.toNat < 128 → tables.digit c = c.isDigit
  /-- `str` of a number; none where it raises. -/
  printNumber : PyNumber → Option String
  printObject : ω → Option String
  /-- The number that a comparison takes an object for. -/
  numberOf : ω → Option PyNumber
  /-- pydantic's conversion of a value that is not of the field's type. -/
  lax : (kind : FactKind) → Value ω → Option {value : Value ω // accepts kind value = true}
  validationText : Dict String (Value ω) → String

section Scan

variable {ω : Type} (platform : Platform ω)

/-- `str(value)`. -/
def print : Value ω → Option String
  | .none => some "None"
  | .bool value => some (if value then "True" else "False")
  | .number value => platform.printNumber value
  | .text text => some text
  | .object it => platform.printObject it

/-- The number that a comparison takes a value for. -/
def number? : Value ω → Option PyNumber
  | .number value => some value
  | .bool value => some (.finite (if value then 1 else 0))
  | .object it => platform.numberOf it
  | _ => none

/-! ## Fact blocks -/

/-- What a validator raises. -/
inductive RuleError where
  | valueError
  | overflowError

/-- `math.floor(math.log10(abs(value)))`. -/
def floorLog10 : PyNumber → Except RuleError ℤ
  | .finite value => .ok (Int.log 10 |value|)
  | .infinite _ => .error .overflowError
  | .nan => .error .valueError

/-- `round_sig_figs` of a present number. -/
def roundSigFigs (value : PyNumber) (sigFigs : ℤ) : Except RuleError PyNumber :=
  if value = .finite 0 then .ok value
  else (floorLog10 value).map fun magnitude => value.round (sigFigs - magnitude - 1)

def roundAmount : Value ω → Except RuleError (Value ω)
  | .number value => (roundSigFigs value 2).map .number
  | value => .ok value

def roundYears : Value ω → Value ω
  | .number value => .number (value.round 1)
  | value => value

/-- The band says that there is no cadence to quote. -/
def noCadence : Value ω → Bool
  | .none => true
  | .text text => text = "None"
  | _ => false

/-- A present text has to match. -/
def formatHolds (format : Regex Char) : Value ω → Bool
  | .text text => format.matchesPrefix text.toList
  | _ => true

/-- The fields of a block that has these amounts. -/
def corrected (read : String → Value ω) (typical largest : Value ω) (name : String) : Value ω :=
  if name = "typical_contribution_kes" then typical
  else if name = "largest_contribution_kes" then largest
  else if name = "years_since_exit" then roundYears (read name)
  else if name = "invested_every_n_days" ∧ noCadence (read "cadence_band") = true then .none
  else read name

/-- `_apply_privacy_rules`, in its order. -/
def applyPrivacyRules (read : String → Value ω) : Except RuleError (String → Value ω) :=
  (roundAmount (read "typical_contribution_kes")).bind fun typical =>
    (roundAmount (read "largest_contribution_kes")).bind fun largest =>
      if formatHolds (monthFormat platform.tables) (read "month_they_left") = false then .error .valueError
      else if formatHolds (monthNameFormat platform.tables) (read "month_the_account_empties") = false then
        .error .valueError
      else .ok (corrected read typical largest)

/-- One field's value after validation. -/
def checkField (kind : FactKind) : Value ω → Option (Value ω)
  | .none => some .none
  | value => if accepts kind value then some value else (platform.lax kind value).map Subtype.val

/-- Validates a payload's keys and types, as a function of the field. -/
def readFields (fields : List (String × FactKind)) (payload : Dict String (Value ω)) :
    Option (String → Value ω) :=
  if payload.keys.any (· ∉ fields.map Prod.fst) then none
  else if fields.any fun (name, kind) => (checkField platform kind (payload.getD name .none)).isNone then none
  else some fun name =>
    ((fields.lookup name).bind fun kind => checkField platform kind (payload.getD name .none)).getD .none

/-- How building a block fails. -/
inductive BlockError where
  | validationError
  | overflowError

/-- `ModelFactBlock(**payload)`: pydantic turns only a `ValueError` of the validator into its own error. -/
def modelFactBlock (payload : Dict String (Value ω)) : Except BlockError (String → Value ω) :=
  match readFields platform modelFields payload with
  | none => .error .validationError
  | some read =>
    match applyPrivacyRules platform read with
    | .ok block => .ok block
    | .error .valueError => .error .validationError
    | .error .overflowError => .error .overflowError

/-- `RiskFactBlock(**payload)`. -/
def riskFactBlock (payload : Dict String (Value ω)) : Except BlockError (String → Value ω) :=
  match readFields platform riskFields payload with
  | none => .error .validationError
  | some block => .ok block

def present : Value ω → Bool
  | .none => false
  | _ => true

/-- The present fields of a block, in schema order (`model_dump(exclude_none=True)`). -/
def toDict (fields : List (String × FactKind)) (block : String → Value ω) : Dict String (Value ω) :=
  .ofList ((fields.map fun (name, _) => (name, block name)).filter fun (_, value) => present value)

/-! ## The scan -/

/-- What a scan raises. -/
inductive Raised where
  | inboundLeak (reason : String)
  | overflowError
  | unprintable
deriving DecidableEq

/-- `_validate_against_known_schema`. -/
def validateAgainstKnownSchema (payload : Dict String (Value ω)) : Except BlockError (String → Value ω) :=
  match modelFactBlock platform payload with
  | .ok block => .ok block
  | .error .overflowError => .error .overflowError
  | .error .validationError => riskFactBlock platform payload

/-- Python's `!=` between a given value and a validated one. -/
def differs (given built : Value ω) : Bool :=
  match number? platform given, number? platform built with
  | some a, some b => !a.equals b
  | _, _ => true

/-- The fields whose value the schema would have corrected. -/
def uncorrectedFields (payload : Dict String (Value ω)) (block : String → Value ω) : List String :=
  validatorCorrectedFields.filter fun field =>
    present (payload.getD field .none) && differs platform (payload.getD field .none) (block field)

def raiseReasons (reasons : List String) : Except Raised Unit :=
  if reasons = [] then .ok () else .error (.inboundLeak ("payload matched " ++ reprNames reasons))

/-- `set(payload) <= MODEL_ALLOWED_KEYS`. -/
def keyedInside (payload : Dict String (Value ω)) : Bool := payload.keys.all (· ∈ modelAllowedKeys)

/-- The first half of `scan_inbound`: the shape of the payload. -/
def checkShape (payload : Dict String (Value ω)) (text : List Char) : Except Raised Unit :=
  if keyedInside payload then raiseReasons (patternReasons platform.tables text inboundCategories)
  else
    match validateAgainstKnownSchema platform payload with
    | .error .overflowError => .error .overflowError
    | .error .validationError =>
      .error (.inboundLeak ("payload failed fact-block validation: " ++ platform.validationText payload))
    | .ok block =>
      if uncorrectedFields platform payload block = [] then .ok ()
      else .error (.inboundLeak ("payload carried a value the schema would have corrected: " ++
        reprNames (uncorrectedFields platform payload block)))

/-- `scan_inbound`. -/
def scanInbound (payload : Dict String (Value ω)) (identifiers : List String) : Except Raised Unit :=
  match payload.items.mapM fun (_, value) => print platform value with
  | none => .error .unprintable
  | some printed =>
    let text := (" ".intercalate printed).toList
    (checkShape platform payload text).bind fun _ =>
      raiseReasons (literalReasons platform.tables text identifiers)

/-! ## What a validated block holds -/

variable {platform} {payload : Dict String (Value ω)} {block read : String → Value ω} {name : String}

lemma present_iff {value : Value ω} : present value = true ↔ value ≠ .none := by
  cases value with
  | none => simp [present]
  | _ => simp [present]

lemma checkField_of_accepts {kind : FactKind} {value : Value ω} (typed : accepts kind value = true) :
    checkField platform kind value = some value := by
  cases value with
  | none => rfl
  | bool b => exact if_pos typed
  | number x => exact if_pos typed
  | text t => exact if_pos typed
  | object o => exact if_pos typed

/-- A validated field is absent or of its type. -/
lemma accepts_of_checkField {kind : FactKind} {value checked : Value ω}
    (valid : checkField platform kind value = some checked) (there : checked ≠ .none) :
    accepts kind checked = true := by
  rw [checkField.eq_def] at valid
  split at valid
  · cases valid
    exact absurd rfl there
  · split at valid
    · rename_i typed
      cases valid
      exact typed
    · obtain ⟨converted, -, rfl⟩ := Option.map_eq_some_iff.mp valid
      exact converted.2

/-- The block has the fields of the schema, each absent or of its type. -/
def Typed (fields : List (String × FactKind)) (block : String → Value ω) : Prop :=
  ∀ name, block name ≠ .none → ∃ kind, fields.lookup name = some kind ∧ accepts kind (block name) = true

lemma Typed.mem {fields : List (String × FactKind)} (typed : Typed fields block) (there : block name ≠ .none) :
    name ∈ fields.map Prod.fst := by
  obtain ⟨kind, known, -⟩ := typed name there
  obtain ⟨before, after, cut, -⟩ := List.lookup_eq_some_iff.mp known
  exact List.mem_map.mpr ⟨(name, kind), cut ▸ List.mem_append_right before List.mem_cons_self, rfl⟩

lemma readFields_eq {fields : List (String × FactKind)} (valid : readFields platform fields payload = some read)
    (name : String) : read name =
      ((fields.lookup name).bind fun kind => checkField platform kind (payload.getD name .none)).getD .none := by
  rw [readFields] at valid
  split at valid
  · cases valid
  · split at valid
    · cases valid
    · cases valid
      rfl

lemma mem_of_readFields {fields : List (String × FactKind)}
    (valid : readFields platform fields payload = some read) (given : name ∈ payload.keys) :
    name ∈ fields.map Prod.fst := by
  rw [readFields] at valid
  split at valid
  · cases valid
  · rename_i closed
    by_contra unknown
    exact closed (List.any_eq_true.mpr ⟨name, given, decide_eq_true unknown⟩)

lemma typed_of_readFields {fields : List (String × FactKind)}
    (valid : readFields platform fields payload = some read) : Typed fields read := by
  intro name there
  have eq := readFields_eq valid name
  cases known : fields.lookup name with
  | none =>
    rw [known] at eq
    exact absurd eq there
  | some kind =>
    rw [known, Option.bind_some] at eq
    cases checked : checkField platform kind (payload.getD name .none) with
    | none =>
      rw [checked] at eq
      exact absurd eq there
    | some value =>
      rw [checked, Option.getD_some] at eq
      rw [eq] at there ⊢
      exact ⟨kind, rfl, accepts_of_checkField checked there⟩

/-- A field that was given of its type is read as it is. -/
lemma read_of_accepts {fields : List (String × FactKind)} (valid : readFields platform fields payload = some read)
    {kind : FactKind} (known : fields.lookup name = some kind)
    (given : payload.getD name .none = .none ∨ accepts kind (payload.getD name .none) = true) :
    read name = payload.getD name .none := by
  rw [readFields_eq valid, known, Option.bind_some]
  rcases given with absent | typed
  · rw [absent]
    rfl
  · rw [checkField_of_accepts typed, Option.getD_some]

lemma getD_toDict {fields : List (String × FactKind)} (nodup : (fields.map Prod.fst).Nodup)
    (typed : Typed fields block) (name : String) : (toDict fields block).getD name .none = block name := by
  have names : ((fields.map fun field => (field.1, block field.1)).map Prod.fst) = fields.map Prod.fst := by
    rw [List.map_map]
    rfl
  have kept : (((fields.map fun field => (field.1, block field.1)).filter
      fun field => present field.2).map Prod.fst).Nodup := by
    apply List.Nodup.sublist ((List.filter_sublist).map Prod.fst)
    rw [names]
    exact nodup
  have held (value : Value ω) : (toDict fields block).get? name = some value ↔
      (∃ field ∈ fields, (field.1, block field.1) = (name, value)) ∧ present value = true := by
    rw [toDict, Dict.get?_ofList kept, List.mem_filter, List.mem_map]
  rw [Dict.getD]
  cases here : (toDict fields block).get? name with
  | some value =>
    obtain ⟨⟨field, mem, same⟩, -⟩ := (held value).mp here
    cases same
    rfl
  | none =>
    by_contra there
    obtain ⟨field, mem, rfl⟩ := List.mem_map.mp (typed.mem (Ne.symm there))
    rw [(held (block field.1)).mpr ⟨⟨field, mem, rfl⟩, present_iff.mpr (Ne.symm there)⟩] at here
    cases here

lemma get?_toDict {fields : List (String × FactKind)} (nodup : (fields.map Prod.fst).Nodup)
    (typed : Typed fields block) {value : Value ω} (held : (toDict fields block).get? name = some value) :
    block name = value ∧ value ≠ .none := by
  have eq := getD_toDict nodup typed name
  rw [Dict.getD, held] at eq
  refine ⟨eq.symm, ?_⟩
  obtain ⟨-, shown⟩ := List.mem_filter.mp (Dict.mem_of_get?_ofList held)
  exact present_iff.mp shown

/-- What a block dumps validates, and is read as the block. -/
lemma readFields_toDict {fields : List (String × FactKind)} (nodup : (fields.map Prod.fst).Nodup)
    (typed : Typed fields block) : readFields platform fields (toDict fields block) = some block := by
  have checked (name : String) (kind : FactKind) (known : fields.lookup name = some kind) :
      checkField platform kind (block name) = some (block name) := by
    by_cases absent : block name = .none
    · rw [absent]
      rfl
    · obtain ⟨kind', known', accepted⟩ := typed name absent
      rw [known] at known'
      cases known'
      exact checkField_of_accepts accepted
  have closed : ¬((toDict fields block).keys.any (· ∉ fields.map Prod.fst)) = true := by
    rw [List.any_eq_true]
    rintro ⟨name, mem, unknown⟩
    obtain ⟨value, held⟩ := (Dict.mem_keys_iff _).mp mem
    obtain ⟨same, there⟩ := get?_toDict nodup typed held
    exact of_decide_eq_true unknown (typed.mem (same.symm ▸ there))
  have valid : ¬(fields.any fun (name, kind) =>
      (checkField platform kind ((toDict fields block).getD name .none)).isNone) = true := by
    rw [List.any_eq_true]
    rintro ⟨field, mem, refused⟩
    have known : fields.lookup field.1 = some field.2 := (Dict.mem_items_iff ⟨fields, nodup⟩).mp mem
    simp only [getD_toDict nodup typed, checked field.1 field.2 known] at refused
    cases refused
  rw [readFields, if_neg closed, if_neg valid]
  congr 1
  funext name
  cases known : fields.lookup name with
  | some kind => rw [Option.bind_some, getD_toDict nodup typed, checked name kind known, Option.getD_some]
  | none =>
    by_contra there
    obtain ⟨kind, known', -⟩ := typed name (Ne.symm there)
    rw [known] at known'
    cases known'

/-! ## Figures that were rounded -/

/-- At most so many significant figures. -/
def SigFigs (most : ℕ) : PyNumber → Prop
  | .finite value => ∃ n e : ℤ, |n| < 10 ^ most ∧ value = n * 10 ^ e
  | _ => False

/-- At most so many decimals; an infinity has none. -/
def Decimals (most : ℕ) : PyNumber → Prop
  | .finite value => ∃ n : ℤ, value = n / 10 ^ most
  | .infinite _ => True
  | .nan => False

/-- A whole number of tens has its figures further left. -/
lemma sigFigs_div (n k : ℤ) (most : |n| ≤ 100) : ∃ m e : ℤ, |m| < 10 ^ 2 ∧ (n : ℚ) / 10 ^ k = m * 10 ^ e := by
  by_cases less : |n| < 100
  · exact ⟨n, -k, less, by rw [zpow_neg, div_eq_mul_inv]⟩
  · have hundred : n = 100 ∨ n = -100 := (abs_eq (by norm_num)).mp (le_antisymm most (not_lt.mp less))
    have scaled (m : ℤ) : (10 * m : ℚ) / 10 ^ k = m * 10 ^ (1 - k) := by
      rw [zpow_sub₀ (by norm_num), zpow_one]
      ring
    rcases hundred with rfl | rfl
    · exact ⟨10, 1 - k, by norm_num, by rw [← scaled]; norm_num⟩
    · exact ⟨-10, 1 - k, by norm_num, by rw [← scaled]; norm_num⟩

lemma abs_round_le (value : ℚ) :
    |roundHalfEven (value * 10 ^ (2 - Int.log 10 |value| - 1))| ≤ 100 := by
  have pos : (0 : ℚ) < 10 ^ (2 - Int.log 10 |value| - 1) := zpow_pos (by norm_num) _
  apply abs_roundHalfEven_le
  rw [abs_mul, abs_of_pos pos]
  have bound := Int.lt_zpow_succ_log_self (b := 10) (by norm_num) |value|
  have scale : (10 : ℚ) ^ (Int.log 10 |value| + 1) * 10 ^ (2 - Int.log 10 |value| - 1) = 100 := by
    rw [← zpow_add₀ (by norm_num), show Int.log 10 |value| + 1 + (2 - Int.log 10 |value| - 1) = (2 : ℤ) by omega]
    norm_num
  push_cast at bound ⊢
  rw [← scale]
  exact mul_lt_mul_of_pos_right bound pos

/-- Rounding an amount gives a finite one of two significant figures. -/
lemma sigFigs_roundSigFigs {value rounded : PyNumber} (ok : roundSigFigs value 2 = .ok rounded) :
    SigFigs 2 rounded := by
  rw [roundSigFigs] at ok
  split at ok
  · rename_i zero
    cases ok
    rw [zero]
    exact ⟨0, 0, by norm_num, by norm_num⟩
  · cases value with
    | finite value =>
      cases ok
      exact sigFigs_div _ _ (abs_round_le value)
    | infinite negative => cases ok
    | nan => cases ok

lemma roundSigFigs_finite (value : ℚ) :
    roundSigFigs (.finite value) 2 = .ok (.finite (Privacy.roundSigFigs value 2)) := by
  rw [roundSigFigs, Privacy.roundSigFigs]
  by_cases zero : value = 0
  · rw [if_pos (congrArg PyNumber.finite zero), if_pos zero]
  · rw [if_neg fun same => zero (PyNumber.finite.inj same), if_neg zero]
    rfl

/-- A rounded amount is rounded to itself. -/
lemma roundSigFigs_again {value rounded : PyNumber} (ok : roundSigFigs value 2 = .ok rounded) :
    roundSigFigs rounded 2 = .ok rounded := by
  cases value with
  | finite value =>
    rw [roundSigFigs_finite] at ok
    cases ok
    rw [roundSigFigs_finite, roundSigFigs_roundSigFigs]
  | infinite negative => cases ok
  | nan => cases ok

lemma round_round (value : PyNumber) (digits : ℤ) : (value.round digits).round digits = value.round digits := by
  cases value with
  | finite value => exact congrArg PyNumber.finite (roundTo_roundTo value digits)
  | infinite negative => rfl
  | nan => rfl

lemma decimals_round {value : PyNumber} (number : value ≠ .nan) : Decimals 1 (value.round 1) := by
  cases value with
  | finite value => exact ⟨roundHalfEven (value * 10 ^ (1 : ℤ)), by rw [roundTo, zpow_one, pow_one]⟩
  | infinite negative => trivial
  | nan => exact absurd rfl number

lemma equals_iff {a b : PyNumber} : a.equals b = true ↔ a = b ∧ a ≠ .nan := by
  cases a with
  | nan => simp [PyNumber.equals]
  | _ =>
    cases b with
    | _ => simp [PyNumber.equals]

end Scan

end ClientEngagement.Privacy.Inbound
