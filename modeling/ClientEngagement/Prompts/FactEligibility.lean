import ClientEngagement.Lib.Dict
import ClientEngagement.Lib.Json
import ClientEngagement.Lib.Results

/-!
# Fact eligibility

Model of `personalization/eligibility.py` over the table `fact_eligibility_rule`. A rule opens one
fact field of a personalization policy, for every angle (`angle` is `none`, a global rule) or for
one. The table's UNIQUE constraint covers the angle, and NULLs never clash, so a policy may hold
several global rules for one field.

`resolveFactEligibility` (`resolve_fact_eligibility`) reads the rules in the order the database
returned them. `get?_resolveFactEligibility` says what it finds for a field, and `resolve_of_spells`
when that does not depend on the order.
-/

namespace ClientEngagement.Prompts

/-- `EXPOSURE_MODES`. -/
inductive ExposureMode where
  | direct
  | placeholder
  | conditional
  | prohibited
deriving DecidableEq, Repr

def ExposureMode.ofText? : String → Option ExposureMode
  | "direct" => some .direct
  | "placeholder" => some .placeholder
  | "conditional" => some .conditional
  | "prohibited" => some .prohibited
  | _ => none

/-- `FACT_FIELDS`: the fields of `ModelFactBlock`, in order. -/
def factFields : List String :=
  ["recency_band", "value_band", "cadence_band", "hold_band", "purchase_depth", "trend_band",
    "exit_reason", "fund_type", "in_wave", "has_depth", "staged_exit", "stale_contact",
    "newly_dormant", "fund_name", "years_since_exit", "typical_contribution_kes",
    "largest_contribution_kes", "invested_every_n_days", "days_held_after_last_topup",
    "month_they_left", "month_the_account_empties"]

/-- `_TOKEN_NAMES`. -/
def tokenNames : Dict String String := .ofList
  [("typical_contribution_kes", "typical_contribution"),
    ("largest_contribution_kes", "largest_contribution"),
    ("invested_every_n_days", "cadence_interval_days")]

/-- The token a template stands in for a field (`token_name`). -/
def tokenName (factField : String) : String := tokenNames.getD factField factField

/-- A row of `fact_eligibility_rule`. -/
structure FactRule where
  policyVersion : ℤ
  angle : Option String
  factField : String
  exposureMode : ExposureMode
  condition : Option String := none
deriving DecidableEq, Repr

/-- What the UNIQUE constraint compares; a row with a NULL never clashes. -/
def FactRule.scope? (row : FactRule) : Option (ℤ × String × String) :=
  row.angle.map fun angle => (row.policyVersion, angle, row.factField)

structure FactTable where
  rows : List FactRule
  unique : (rows.filterMap FactRule.scope?).Nodup

inductive FactEligibilityError where
  | invalid (reason : String)
  | uniqueViolation
deriving DecidableEq, Repr

/-- Every field prohibited, what a resolution starts from. -/
def allProhibited : Dict String ExposureMode := .ofList (factFields.map fun field => (field, .prohibited))

/-- What a row sets, unless its field is not one the resolution knows. -/
def applyRule (resolved : Dict String ExposureMode) (row : FactRule) : Dict String ExposureMode :=
  if resolved.contains row.factField then resolved.set row.factField row.exposureMode else resolved

/-- The mode of every field under a policy: prohibited, then the global rules, then the angle's
    own (`resolve_fact_eligibility`). `scan` lists the table as the database returned it. -/
def resolveFactEligibility (scan : List FactRule) (angle : Option String) (policyVersion : ℤ) :
    Dict String ExposureMode :=
  let rows := scan.filter fun row =>
    row.policyVersion = policyVersion ∧ (row.angle = none ∨ row.angle = angle)
  let general := (rows.filter (·.angle = none)).foldl applyRule allProhibited
  (rows.filter (·.angle ≠ none)).foldl applyRule general

/-- Checks and inserts one rule (`save_fact_eligibility_rule`). -/
def saveFactEligibilityRule (table : FactTable) (policyVersion : ℤ) (factField exposureMode : String)
    (angle condition : Option String) : Except FactEligibilityError FactTable :=
  if factField ∉ factFields then
    .error (.invalid ("'" ++ factField ++ "' is not a ModelFactBlock field"))
  else
    match ExposureMode.ofText? exposureMode with
    | none => .error (.invalid ("'" ++ exposureMode ++ "' is not a recognised exposure mode"))
    | some mode =>
      let row : FactRule := ⟨policyVersion, angle, factField, mode, condition⟩
      if h : ((table.rows ++ [row]).filterMap FactRule.scope?).Nodup then
        .ok ⟨table.rows ++ [row], h⟩
      else .error .uniqueViolation

/-- One entry of a request to replace a policy's global rules. -/
structure FactRequest where
  factField : String
  exposureMode : String
  condition : Option String := none

def FactTable.withoutGlobals (table : FactTable) (policyVersion : ℤ) : FactTable where
  rows := table.rows.filter fun row => ¬ (row.policyVersion = policyVersion ∧ row.angle = none)
  unique := table.unique.sublist (List.filter_sublist.filterMap _)

def saveGlobals (table : FactTable) (policyVersion : ℤ) :
    List FactRequest → Except FactEligibilityError FactTable
  | [] => .ok table
  | row :: rows =>
    (saveFactEligibilityRule table policyVersion row.factField row.exposureMode none
      row.condition).bind fun table' => saveGlobals table' policyVersion rows

/-- Replaces the global rules of a policy, whatever its status
    (`set_global_fact_eligibility`). -/
def setGlobalFactEligibility (table : FactTable) (policyVersion : ℤ) (rows : List FactRequest) :
    Except FactEligibilityError FactTable :=
  saveGlobals (table.withoutGlobals policyVersion) policyVersion rows

/-! ## Filtering a client's facts -/

/-- The fields a prompt may state, and the ones a token stands in for (`FilteredFacts`). -/
structure FilteredFacts where
  direct : Dict String Json := .empty
  placeholder : Dict String String := .empty

/-- `facts.get(field) is not None`. -/
def hasFact (facts : Dict String Json) (field : String) : Bool :=
  match facts.get? field with
  | none => false
  | some .null => false
  | some _ => true

/-- Whether a conditional field's own check holds of the client's facts
    (`_CONDITIONAL_FIELD_CHECKS`); a field without a check counts as met. -/
def conditionMet (facts : Dict String Json) (field : String) : Bool :=
  if field = "month_the_account_empties" then hasFact facts field else true

def filterFact (facts : Dict String Json) (eligibility : Dict String ExposureMode)
    (filtered : FilteredFacts) (fact : String × Json) : FilteredFacts :=
  match eligibility.getD fact.1 .prohibited with
  | .direct => { filtered with direct := filtered.direct.set fact.1 fact.2 }
  | .placeholder =>
    { filtered with placeholder := filtered.placeholder.set fact.1 (tokenName fact.1) }
  | .conditional =>
    if conditionMet facts fact.1 then
      { filtered with direct := filtered.direct.set fact.1 fact.2 }
    else filtered
  | .prohibited => filtered

/-- Splits a client's facts by what the policy allows (`filter_facts_for_prompt`). -/
def filterFactsForPrompt (facts : Dict String Json) (eligibility : Dict String ExposureMode) :
    FilteredFacts :=
  facts.items.foldl (filterFact facts eligibility) {}

/-! ## What a resolution finds -/

variable {rows : List FactRule} {angle : Option String} {version : ℤ} {field : String}

/-- The modes of the angle's own rules for a field, in scan order. -/
def ownModes (rows : List FactRule) (angle : Option String) (version : ℤ) (field : String) :
    List ExposureMode :=
  (rows.filter fun row => row.policyVersion = version ∧ row.angle ≠ none ∧ row.angle = angle ∧
    row.factField = field).map FactRule.exposureMode

/-- The modes of the global rules for a field, in scan order. -/
def globalModes (rows : List FactRule) (version : ℤ) (field : String) : List ExposureMode :=
  (rows.filter fun row => row.policyVersion = version ∧ row.angle = none ∧
    row.factField = field).map FactRule.exposureMode

/-- The modes name one mode; no mode at all means prohibited. -/
def Spells (modes : List ExposureMode) (mode : ExposureMode) : Prop :=
  (∀ m ∈ modes, m = mode) ∧ (modes = [] → mode = .prohibited)

instance (modes : List ExposureMode) (mode : ExposureMode) : Decidable (Spells modes mode) :=
  inferInstanceAs (Decidable (_ ∧ _))

lemma keys_applyRule (resolved : Dict String ExposureMode) (row : FactRule) :
    (applyRule resolved row).keys = resolved.keys := by
  rw [applyRule]
  split
  · rename_i h
    exact Dict.keys_set_of_mem (resolved.contains_iff.mp h)
  · rfl

lemma keys_foldl_applyRule (resolved : Dict String ExposureMode) :
    (rows.foldl applyRule resolved).keys = resolved.keys := by
  induction rows generalizing resolved with
  | nil => rfl
  | cons row rows ih => exact (ih _).trans (keys_applyRule resolved row)

/-- A loop over rules leaves a known field with the last mode the rules give it. -/
lemma get?_foldl_applyRule {resolved : Dict String ExposureMode} (known : field ∈ resolved.keys) :
    (rows.foldl applyRule resolved).get? field =
      (((rows.filter (·.factField = field)).map FactRule.exposureMode).getLast?).or
        (resolved.get? field) := by
  induction rows generalizing resolved with
  | nil => rfl
  | cons row rows ih =>
    rw [List.foldl_cons, ih (by rwa [keys_applyRule])]
    cases eq_or_ne row.factField field with
    | inl same =>
      have applied : (applyRule resolved row).get? field = some row.exposureMode := by
        rw [applyRule, if_pos (by rw [same]; exact resolved.contains_iff.mpr known), same,
          Dict.get?_set_self]
      rw [applied, List.filter_cons_of_pos (by simpa using same), List.map_cons,
        List.getLast?_cons]
      cases ((rows.filter (·.factField = field)).map FactRule.exposureMode).getLast? with
      | none => rfl
      | some mode => rfl
    | inr other =>
      have kept : (applyRule resolved row).get? field = resolved.get? field := by
        rw [applyRule]
        split
        · exact Dict.get?_set_ne _ _ other.symm
        · rfl
      rw [kept, List.filter_cons_of_neg (by simpa using other)]

lemma keys_allProhibited : allProhibited.keys = factFields := by
  rw [allProhibited, Dict.keys_ofList (by decide)]
  decide

lemma get?_allProhibited (known : field ∈ factFields) :
    allProhibited.get? field = some .prohibited := by
  rw [allProhibited, Dict.get?_ofList (by decide)]
  exact List.mem_map.mpr ⟨field, known, rfl⟩

lemma keys_resolveFactEligibility (scan : List FactRule) (angle : Option String) (version : ℤ) :
    (resolveFactEligibility scan angle version).keys = factFields := by
  simp only [resolveFactEligibility, keys_foldl_applyRule]
  exact keys_allProhibited

lemma own_scan :
    ((rows.filter fun row => row.policyVersion = version ∧
      (row.angle = none ∨ row.angle = angle)).filter (·.angle ≠ none)).filter (·.factField = field) =
      rows.filter fun row => row.policyVersion = version ∧ row.angle ≠ none ∧ row.angle = angle ∧
        row.factField = field := by
  rw [List.filter_filter, List.filter_filter]
  apply List.filter_congr
  intro row _
  rw [Bool.eq_iff_iff]
  simp only [Bool.and_eq_true, decide_eq_true_eq]
  tauto

lemma global_scan :
    ((rows.filter fun row => row.policyVersion = version ∧
      (row.angle = none ∨ row.angle = angle)).filter (·.angle = none)).filter (·.factField = field) =
      rows.filter fun row => row.policyVersion = version ∧ row.angle = none ∧
        row.factField = field := by
  rw [List.filter_filter, List.filter_filter]
  apply List.filter_congr
  intro row _
  rw [Bool.eq_iff_iff]
  simp only [Bool.and_eq_true, decide_eq_true_eq]
  tauto

/-- The angle's own rule decides a field, else the global rules do, else it is prohibited. -/
lemma get?_resolveFactEligibility (known : field ∈ factFields) :
    (resolveFactEligibility rows angle version).get? field =
      some (((ownModes rows angle version field).getLast?.or
        (globalModes rows version field).getLast?).getD .prohibited) := by
  have base : field ∈ allProhibited.keys := by rwa [keys_allProhibited]
  simp only [resolveFactEligibility]
  rw [get?_foldl_applyRule (by rwa [keys_foldl_applyRule]), get?_foldl_applyRule base,
    get?_allProhibited known, own_scan, global_scan, ← ownModes, ← globalModes]
  cases (ownModes rows angle version field).getLast? with
  | some mode => rfl
  | none =>
    cases (globalModes rows version field).getLast? with
    | some mode => rfl
    | none => rfl

lemma Spells.getLast?_getD {modes : List ExposureMode} {mode : ExposureMode} (h : Spells modes mode) :
    modes.getLast?.getD .prohibited = mode := by
  cases e : modes.getLast? with
  | none => exact (h.2 (List.getLast?_eq_none_iff.mp e)).symm
  | some m => exact h.1 m (List.mem_of_getLast? e)

lemma Spells.perm {modes modes' : List ExposureMode} {mode : ExposureMode} (h : Spells modes mode)
    (p : modes'.Perm modes) : Spells modes' mode := by
  constructor
  · exact fun m hm => h.1 m (p.mem_iff.mp hm)
  · intro e
    subst e
    exact h.2 p.nil_eq.symm

lemma globalModes_perm {scan : List FactRule} (p : scan.Perm rows) :
    (globalModes scan version field).Perm (globalModes rows version field) :=
  (p.filter _).map _

/-- The UNIQUE constraint leaves an angle at most one rule for a field. -/
lemma length_ownModes (table : FactTable) (angle : Option String) (version : ℤ) (field : String) :
    (ownModes table.rows angle version field).length ≤ 1 := by
  rw [ownModes, List.length_map]
  cases angle with
  | none =>
    have empty : (table.rows.filter fun row : FactRule => row.policyVersion = version ∧
        row.angle ≠ none ∧ row.angle = none ∧ row.factField = field) = [] := by
      rw [List.filter_eq_nil_iff]
      intro row _ hc
      simp only [decide_eq_true_eq] at hc
      exact hc.2.1 hc.2.2.1
    rw [empty]
    exact Nat.zero_le 1
  | some name =>
    have nodup := table.unique.sublist ((List.filter_sublist (p := fun row : FactRule =>
      row.policyVersion = version ∧ row.angle ≠ none ∧ row.angle = some name ∧
        row.factField = field)).filterMap FactRule.scope?)
    have same : ∀ row ∈ table.rows.filter (fun row : FactRule =>
        row.policyVersion = version ∧ row.angle ≠ none ∧ row.angle = some name ∧
          row.factField = field), row.scope? = some (version, name, field) := by
      intro row hrow
      have h := (List.mem_filter.mp hrow).2
      simp only [decide_eq_true_eq] at h
      rw [FactRule.scope?, h.2.2.1, h.1, h.2.2.2]
      rfl
    generalize table.rows.filter _ = l at nodup same ⊢
    -- two rows of one scope would bind it twice
    match l with
    | [] => simp
    | [_] => simp
    | a :: b :: l =>
      rw [List.filterMap_cons, List.filterMap_cons, same a (by simp), same b (by simp)] at nodup
      simp at nodup

/-- What an angle has of its own does not depend on the scan. -/
lemma ownModes_scan {table : FactTable} {scan : List FactRule} (p : scan.Perm table.rows) :
    ownModes scan angle version field = ownModes table.rows angle version field := by
  have hp : (ownModes scan angle version field).Perm (ownModes table.rows angle version field) :=
    (p.filter _).map _
  have short := length_ownModes table angle version field
  generalize ownModes table.rows angle version field = modes at hp short ⊢
  match modes with
  | [] => exact List.perm_nil.mp hp
  | [m] => exact List.perm_singleton.mp hp

/-- A field resolves alike under two tables and any scans of them: the angle's own rules agree, and
    where it has none the global rules of both name one mode. -/
lemma get?_resolve_congr {table table' : FactTable} {scan scan' : List FactRule}
    (p : scan.Perm table.rows) (p' : scan'.Perm table'.rows) (known : field ∈ factFields)
    (own : ownModes table'.rows angle version field = ownModes table.rows angle version field)
    (spells : ownModes table.rows angle version field ≠ [] ∨ ∃ mode,
      Spells (globalModes table.rows version field) mode ∧
        Spells (globalModes table'.rows version field) mode) :
    (resolveFactEligibility scan' angle version).get? field =
      (resolveFactEligibility scan angle version).get? field := by
  rw [get?_resolveFactEligibility known, get?_resolveFactEligibility known, ownModes_scan p,
    ownModes_scan p', own]
  cases spells with
  | inl some_own =>
    cases e : (ownModes table.rows angle version field).getLast? with
    | none => exact absurd (List.getLast?_eq_none_iff.mp e) some_own
    | some mode => rfl
  | inr named =>
    obtain ⟨mode, before, after⟩ := named
    cases (ownModes table.rows angle version field).getLast? with
    | some mode => rfl
    | none =>
      rw [Option.none_or, Option.none_or,
        (before.perm (globalModes_perm p)).getLast?_getD,
        (after.perm (globalModes_perm p')).getLast?_getD]

/-- Two resolutions that agree on every field are the same map. -/
lemma resolve_ext {scan scan' : List FactRule} {angle' : Option String} {version' : ℤ}
    (h : ∀ field ∈ factFields, (resolveFactEligibility scan' angle' version').get? field =
      (resolveFactEligibility scan angle version).get? field) :
    resolveFactEligibility scan' angle' version' = resolveFactEligibility scan angle version := by
  apply Dict.eq_of_same
  · rw [keys_resolveFactEligibility, keys_resolveFactEligibility]
  · intro field
    by_cases known : field ∈ factFields
    · exact h field known
    · have out : ∀ (l : List FactRule) (a : Option String) (v : ℤ),
          (resolveFactEligibility l a v).get? field = none := by
        intro l a v
        rw [Dict.get?_eq_none_iff, keys_resolveFactEligibility]
        exact known
      rw [out, out]

/-! ## What replacing the global rules does -/

lemma saveFactEligibilityRule_ok {table table' : FactTable} {factField exposureMode : String}
    {angle condition : Option String}
    (h : saveFactEligibilityRule table version factField exposureMode angle condition = .ok table') :
    ∃ mode, ExposureMode.ofText? exposureMode = some mode ∧
      table'.rows = table.rows ++ [⟨version, angle, factField, mode, condition⟩] := by
  rw [saveFactEligibilityRule] at h
  split at h
  · cases h
  · cases e : ExposureMode.ofText? exposureMode with
    | none =>
      rw [e] at h
      cases h
    | some mode =>
      rw [e] at h
      simp only at h
      split at h
      · cases h
        exact ⟨mode, rfl, rfl⟩
      · cases h

/-- The modes a request gives a field. -/
def requestedModes (requests : List FactRequest) (field : String) : List ExposureMode :=
  (requests.filter (·.factField = field)).filterMap fun r => ExposureMode.ofText? r.exposureMode

lemma saveGlobals_ok {table table' : FactTable} {requests : List FactRequest}
    (h : saveGlobals table version requests = .ok table') :
    (∀ angle v field, ownModes table'.rows angle v field = ownModes table.rows angle v field) ∧
      (∀ v field, v ≠ version → globalModes table'.rows v field = globalModes table.rows v field) ∧
      ∀ field, globalModes table'.rows version field =
        globalModes table.rows version field ++ requestedModes requests field := by
  induction requests generalizing table with
  | nil =>
    cases h
    exact ⟨fun _ _ _ => rfl, fun _ _ _ => rfl, fun _ => (List.append_nil _).symm⟩
  | cons request requests ih =>
    rw [saveGlobals] at h
    obtain ⟨mid, saved, rest⟩ := bind_eq_ok.mp h
    obtain ⟨own, others, here⟩ := ih rest
    obtain ⟨mode, parsed, rows_eq⟩ := saveFactEligibilityRule_ok saved
    refine ⟨fun angle v field => ?_, fun v field ne => ?_, fun field => ?_⟩
    · rw [own, rows_eq, ownModes, List.filter_append, List.map_append]
      simp [ownModes]
    · rw [others v field ne, rows_eq, globalModes, List.filter_append, List.map_append]
      simp [globalModes, ne.symm]
    · rw [here, rows_eq, globalModes, List.filter_append, List.map_append, List.append_assoc]
      apply congrArg
      cases eq_or_ne request.factField field with
      | inl same => simp [requestedModes, same, parsed]
      | inr other => simp [requestedModes, other]

/-- A replacement writes the modes it was given and leaves the angles' own rules and the other
    policies alone. -/
lemma setGlobal_ok {table table' : FactTable} {requests : List FactRequest}
    (h : setGlobalFactEligibility table version requests = .ok table') :
    (∀ angle v field, ownModes table'.rows angle v field = ownModes table.rows angle v field) ∧
      (∀ v field, v ≠ version → globalModes table'.rows v field = globalModes table.rows v field) ∧
      ∀ field, globalModes table'.rows version field = requestedModes requests field := by
  obtain ⟨own, others, here⟩ := saveGlobals_ok h
  have kept : ∀ (p : FactRule → Prop) [DecidablePred p],
      (∀ row, p row → ¬ (row.policyVersion = version ∧ row.angle = none)) →
        (table.withoutGlobals version).rows.filter p = table.rows.filter p := by
    intro p _ hp
    rw [FactTable.withoutGlobals, List.filter_filter]
    apply List.filter_congr
    intro row _
    rw [Bool.eq_iff_iff]
    simp only [Bool.and_eq_true, decide_eq_true_eq, and_iff_left_iff_imp]
    exact hp row
  refine ⟨fun angle v field => ?_, fun v field ne => ?_, fun field => ?_⟩
  · rw [own, ownModes, ownModes, kept]
    exact fun row hp hc => hp.2.1 hc.2
  · rw [others v field ne, globalModes, globalModes, kept]
    exact fun row hp hc => ne (hp.1.symm.trans hc.1)
  · rw [here]
    have gone : globalModes (table.withoutGlobals version).rows version field = [] := by
      rw [globalModes, FactTable.withoutGlobals, List.filter_filter, List.map_eq_nil_iff,
        List.filter_eq_nil_iff]
      intro row _ hc
      simp only [Bool.and_eq_true, decide_eq_true_eq] at hc
      exact hc.2 ⟨hc.1.1, hc.1.2.1⟩
    rw [gone, List.nil_append]

end ClientEngagement.Prompts
