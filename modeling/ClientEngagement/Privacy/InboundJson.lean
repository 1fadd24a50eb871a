import ClientEngagement.Lib.MapM
import ClientEngagement.Privacy.InboundScan

/-!
# JSON payloads

A payload of JSON values has finite numbers only, and every value a text. The scan over Python values is then the
scan of `Privacy.Scanners`: no other error is raised (`scanInbound_ofJson`).
-/

namespace ClientEngagement.Privacy.Inbound

/-! ## JSON values -/

def ofJson : Json → Value Json
  | .null => .none
  | .bool value => .bool value
  | .num value => .number (.finite value)
  | .str text => .text text
  | value => .object value

def toJson? : Value Json → Option Json
  | .none => some .null
  | .bool value => some (.bool value)
  | .number (.finite value) => some (.num value)
  | .number _ => none
  | .text text => some (.str text)
  | .object value => some value

lemma toJson?_ofJson (value : Json) : toJson? (ofJson value) = some value := by
  cases value <;> rfl

lemma accepts_ofJson (kind : FactKind) (value : Json) : accepts kind (ofJson value) = kind.accepts value := by
  cases kind <;> cases value <;> rfl

/-- The platform of a scan over JSON values. -/
def platformOf (settings : ScanSettings)
    (digits : ∀ c, c.toNat < 128 → settings.tables.digit c = c.isDigit) : Platform Json where
  tables := settings.tables
  digits := digits
  printNumber
    | .finite value => some (settings.repr (.num value))
    | .infinite negative => some (if negative then "-inf" else "inf")
    | .nan => some "nan"
  printObject value := some (settings.repr value)
  numberOf _ := none
  lax kind value := (toJson? value).bind fun given =>
    (settings.lax kind given).map fun converted =>
      ⟨ofJson converted.1, (accepts_ofJson kind converted.1).trans converted.2⟩
  validationText payload := settings.validationText (payload.mapValues fun value => (toJson? value).getD .null)

/-- The payload as Python values. -/
def pythonPayload (payload : Dict String Json) : Dict String (Value Json) := payload.mapValues ofJson

/-- A block as Python values. -/
def pythonBlock (read : String → Json) (name : String) : Value Json := ofJson (read name)

section Agreement

variable {settings : ScanSettings} {digits : ∀ c, c.toNat < 128 → settings.tables.digit c = c.isDigit}
  {payload : Dict String Json} {read : String → Json}

lemma keys_pythonPayload (payload : Dict String Json) : (pythonPayload payload).keys = payload.keys := by
  rw [Dict.keys, pythonPayload, Dict.mapValues, List.map_map]
  rfl

lemma getD_pythonPayload (payload : Dict String Json) (name : String) :
    (pythonPayload payload).getD name .none = ofJson (payload.getD name .null) := by
  rw [Dict.getD, pythonPayload, Dict.get?_mapValues, Dict.getD]
  cases payload.get? name <;> rfl

lemma number?_ofJson (value : Json) :
    number? (platformOf settings digits) (ofJson value) = value.number?.map .finite := by
  cases value <;> rfl

lemma present_ofJson (value : Json) : present (ofJson value) = Privacy.present value := by
  cases value <;> rfl

lemma checkField_ofJson (kind : FactKind) (value : Json) :
    checkField (platformOf settings digits) kind (ofJson value) =
      (Privacy.checkField settings.lax kind value).map ofJson := by
  by_cases absent : value = .null
  · rw [absent]
    rfl
  · have there : ofJson value ≠ .none := fun none_there => absent (by cases value <;> first | rfl | cases none_there)
    have left : checkField (platformOf settings digits) kind (ofJson value) =
        if accepts kind (ofJson value) then some (ofJson value)
        else ((platformOf settings digits).lax kind (ofJson value)).map Subtype.val := by
      cases h : ofJson value <;> first | rfl | exact absurd h there
    have right : Privacy.checkField settings.lax kind value =
        if kind.accepts value then some value else (settings.lax kind value).map Subtype.val := by
      cases value <;> first | rfl | exact absurd rfl absent
    rw [left, right, accepts_ofJson]
    split_ifs
    · rfl
    · simp only [platformOf, toJson?_ofJson, Option.bind_some, Option.map_map]
      rfl

lemma readFields_ofJson (fields : List (String × FactKind)) (payload : Dict String Json) :
    readFields (platformOf settings digits) fields (pythonPayload payload) =
      match Privacy.readFields settings.lax fields payload with
      | .ok read => some (pythonBlock read)
      | .error _ => none := by
  rw [readFields, Privacy.readFields, keys_pythonPayload]
  simp only [getD_pythonPayload, checkField_ofJson, Option.isNone_map]
  split_ifs
  · rfl
  · rfl
  · simp only [Option.some.injEq]
    funext name
    rw [pythonBlock]
    cases fields.lookup name with
    | none => rfl
    | some kind =>
      simp only [Option.bind_some]
      cases Privacy.checkField settings.lax kind (payload.getD name .null) <;> rfl

lemma roundAmount_ofJson (value : Json) :
    roundAmount (ofJson value) = .ok (ofJson (mapNumber (Privacy.roundSigFigs · 2) value)) := by
  cases value with
  | num value =>
    rw [ofJson, roundAmount, roundSigFigs_finite]
    rfl
  | _ => rfl

lemma formatHolds_ofJson (format : Regex Char) (value : Json) :
    formatHolds format (ofJson value) = Privacy.formatHolds format value := by
  cases value <;> rfl

lemma noCadence_ofJson (value : Json) : noCadence (ofJson value) = Privacy.noCadence value := by
  cases value <;> rfl

lemma corrected_ofJson (read : String → Json) :
    corrected (pythonBlock read) (ofJson (mapNumber (Privacy.roundSigFigs · 2) (read "typical_contribution_kes")))
      (ofJson (mapNumber (Privacy.roundSigFigs · 2) (read "largest_contribution_kes"))) =
        pythonBlock (Privacy.corrected read) := by
  funext name
  rw [corrected, pythonBlock, pythonBlock, pythonBlock, Privacy.corrected, noCadence_ofJson]
  by_cases typical : name = "typical_contribution_kes"
  · rw [if_pos typical, if_pos (.inl typical), typical]
  · by_cases largest : name = "largest_contribution_kes"
    · rw [if_neg typical, if_pos largest, if_pos (.inr largest), largest]
    · rw [if_neg typical, if_neg largest, if_neg (not_or.mpr ⟨typical, largest⟩)]
      split_ifs
      · cases read name <;> rfl
      · rfl
      · rfl

lemma modelFactBlock_ofJson (payload : Dict String Json) :
    modelFactBlock (platformOf settings digits) (pythonPayload payload) =
      match readModelFacts settings.tables settings.lax payload with
      | .ok read => .ok (pythonBlock read)
      | .error _ => .error .validationError := by
  rw [modelFactBlock, readFields_ofJson, readModelFacts]
  cases Privacy.readFields settings.lax modelFields payload with
  | error e => rfl
  | ok read =>
    have typical : roundAmount (pythonBlock read "typical_contribution_kes") = .ok _ := roundAmount_ofJson _
    have largest : roundAmount (pythonBlock read "largest_contribution_kes") = .ok _ := roundAmount_ofJson _
    have left (format : Regex Char) : formatHolds format (pythonBlock read "month_they_left") = _ :=
      formatHolds_ofJson format _
    have empties (format : Regex Char) : formatHolds format (pythonBlock read "month_the_account_empties") = _ :=
      formatHolds_ofJson format _
    have tables : (platformOf settings digits).tables = settings.tables := rfl
    simp only [Except.bind, applyPrivacyRules, typical, largest, left, empties, corrected_ofJson, tables]
    split_ifs <;> rfl

lemma validate_ofJson (payload : Dict String Json) :
    validateAgainstKnownSchema (platformOf settings digits) (pythonPayload payload) =
      match knownSchema settings payload with
      | some read => .ok (pythonBlock read)
      | none => .error .validationError := by
  rw [validateAgainstKnownSchema, modelFactBlock_ofJson, knownSchema]
  cases readModelFacts settings.tables settings.lax payload with
  | ok read => rfl
  | error e =>
    simp only [riskFactBlock, readFields_ofJson]
    cases Privacy.readFields settings.lax riskFields payload <;> rfl

/-- Validated amounts, years and intervals are numbers. -/
lemma no_text_of_known {field : String} (known : knownSchema settings payload = some read)
    (corrects : field ∈ validatorCorrectedFields) (text : String) : read field ≠ .str text := by
  have kinds : ((modelFields.lookup field = some .number ∨ modelFields.lookup field = some .whole)) ∧
      riskFields.lookup field = none := by
    rcases corrects with _ | ⟨_, _ | ⟨_, _ | ⟨_, _ | ⟨_, corrects⟩⟩⟩⟩
    · exact ⟨.inl rfl, rfl⟩
    · exact ⟨.inl rfl, rfl⟩
    · exact ⟨.inl rfl, rfl⟩
    · exact ⟨.inr rfl, rfl⟩
    · cases corrects
  intro held
  have there : read field ≠ .null := by
    rw [held]
    exact nofun
  rw [knownSchema] at known
  split at known
  · rename_i parsed
    cases known
    obtain ⟨raw, fields, rfl, -, -⟩ := readModelFacts_ok parsed
    obtain ⟨kind, looked, accepted⟩ := Privacy.typed_corrected (fun _ => Privacy.typed_of_readFields fields) there
    rw [held] at accepted
    rcases kinds.1 with number | whole
    · rw [number] at looked
      cases looked
      cases accepted
    · rw [whole] at looked
      cases looked
      cases accepted
  · split at known
    · rename_i fields
      cases known
      obtain ⟨kind, looked, -⟩ := Privacy.typed_of_readFields fields there
      rw [kinds.2] at looked
      cases looked
    · cases known

lemma differs_ofJson (given built : Json) (number : ∀ text, built ≠ .str text) :
    differs (platformOf settings digits) (ofJson given) (ofJson built) = Privacy.differs given built := by
  have unequal (a b : ℚ) : (!(PyNumber.finite a).equals (.finite b)) = decide (a ≠ b) := (decide_not ..).symm
  rw [differs, Privacy.differs.eq_def, number?_ofJson, number?_ofJson]
  cases given.number? with
  | none =>
    cases built with
    | str text => exact absurd rfl (number text)
    | _ => cases given <;> rfl
  | some a =>
    cases found : built.number? with
    | some b => exact unequal a b
    | none =>
      cases built with
      | str text => exact absurd rfl (number text)
      | _ => cases given <;> rfl

lemma uncorrectedFields_ofJson (known : knownSchema settings payload = some read) :
    uncorrectedFields (platformOf settings digits) (pythonPayload payload) (pythonBlock read) =
      Privacy.uncorrectedFields payload read := by
  apply List.filter_congr
  intro field corrects
  rw [getD_pythonPayload, present_ofJson, pythonBlock, differs_ofJson _ _ (no_text_of_known known corrects),
    Dict.getD]
  cases payload.get? field <;> rfl

lemma print_ofJson (value : Json) :
    print (platformOf settings digits) (ofJson value) = some (value.pyStr settings.repr) := by
  cases value <;> rfl

/-- The scan of a JSON payload, in the errors of the scan of Python values. -/
def pythonScan : Except Leak Unit → Except Raised Unit
  | .ok () => .ok ()
  | .error (.inbound reason) => .error (.inboundLeak reason)
  | .error (.outbound reason) => .error (.inboundLeak reason)

/-- On JSON payloads the two scans agree. -/
theorem scanInbound_ofJson (identifiers : List String) :
    scanInbound (platformOf settings digits) (pythonPayload payload) identifiers =
      pythonScan (Privacy.scanInbound settings payload identifiers) := by
  have tables : (platformOf settings digits).tables = settings.tables := rfl
  have printed : (pythonPayload payload).items.mapM (fun entry => print (platformOf settings digits) entry.2) =
      some (payload.items.map fun entry => entry.2.pyStr settings.repr) := by
    rw [mapM_eq_some_iff, pythonPayload, Dict.mapValues, List.forall₂_map_left_iff, List.forall₂_map_right_iff,
      List.forall₂_same]
    exact fun entry _ => print_ofJson entry.2
  have inside : keyedInside (pythonPayload payload) = payload.keys.all (· ∈ modelAllowedKeys) := by
    rw [keyedInside, keys_pythonPayload]
  have shape : checkShape (platformOf settings digits) (pythonPayload payload) (payloadText settings payload) =
      (shapeReason settings payload).elim (.ok ()) fun reason => .error (.inboundLeak reason) := by
    have text : (platformOf settings digits).validationText (pythonPayload payload) =
        settings.validationText payload := by
      apply congrArg settings.validationText
      apply Dict.ext_items
      simp only [pythonPayload, Dict.mapValues, List.map_map]
      exact (List.map_congr_left fun entry _ => by rw [Function.comp_apply, toJson?_ofJson]; rfl).trans (List.map_id _)
    rw [checkShape, shapeReason, inside, tables]
    split_ifs with legacy
    · rw [raiseReasons]
      simp only
      split_ifs <;> rfl
    · rw [validate_ofJson]
      cases known : knownSchema settings payload with
      | none =>
        simp only [text, Option.elim_some]
      | some read =>
        simp only [uncorrectedFields_ofJson known]
        split_ifs <;> rfl
  rw [scanInbound, printed, Privacy.scanInbound]
  simp only [shape, ← payloadText.eq_1]
  cases shapeReason settings payload with
  | some reason => rfl
  | none =>
    simp only [Except.bind, raiseReasons, tables]
    split_ifs <;> rfl

end Agreement

end ClientEngagement.Privacy.Inbound
