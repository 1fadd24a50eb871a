import ClientEngagement.Agents.QueryTools
import ClientEngagement.Watchlist.Consolidation

/-!
# Counting a fact again

Model of `agents/insight_recount.py`: `recountFact` (`recount_fact`) runs the filter a fact was counted
from once more. A filter that compiled is the same after it was written as JSON and read, it measures the
same, and the fact recounts what a new measurement would say (`recorded_replays`).
-/

namespace ClientEngagement.Agents.Query
open ClientEngagement.Watchlist (groupNames)
open JsonText (NumberFormat render loads loads_render)

variable {ν : Type}

/-- What a recount reads of a fact. -/
structure Fact (ν : Type) where
  factValue : String
  sourceFilter : JsonValue ν

/-- What the fact's filter counts today, or why it could not be run. -/
structure RecountResult where
  canRecount : Bool
  asOf : ℤ
  storedValue : String
  groupName : Option String := none
  clientCount : Option ℚ := none
  fundCount : Option ℚ := none
  moneyTotalKes : Option ℚ := none
  reason : Option String := none

/-- The watch list group a fact was counted from, if it names one. -/
def groupNameFor (fact : Fact ν) : Option String :=
  match member? "group_name" fact.sourceFilter with
  | some (.str named) => if named ∈ groupNames.map (·.text) then some named else none
  | _ => none

def tooFewReason : String := "this filter now matches too few clients to report a count for"

def notRecountable (fact : Fact ν) (asOf : ℤ) (reason : String) : RecountResult :=
  { canRecount := false, asOf := asOf, storedValue := fact.factValue, reason := some reason }

/-- `_recount_conditions`; `none` is an error of the database. -/
def recountConditions (env : QueryEnv ν) (book : Book) (fact : Fact ν) (asOf : ℤ) :
    Option RecountResult :=
  match member? "conditions" fact.sourceFilter with
  | some (.arr conditions) =>
    match measureRecordedFilter env book conditions defaultMeasures with
    | .error .database => none
    | .error (.refused message) => some (notRecountable fact asOf message)
    | .ok .tooSmall => some (notRecountable fact asOf tooFewReason)
    | .ok (.shown values) =>
      some { canRecount := true
             asOf := asOf
             storedValue := fact.factValue
             clientCount := (values.get? .clientCount).join
             fundCount := (values.get? .fundCount).join
             moneyTotalKes := (values.get? .moneyTotal).join }
  | _ => some (notRecountable fact asOf ("this fact's filter is neither a watch list group nor a list of " ++
      "conditions, so it cannot be run again"))

/-- Counts a fact's filter again; `recountGroup` is the watch list built against today's data. -/
def recountFact (env : QueryEnv ν) (book : Book) (recountGroup : String → RecountResult) (fact : Fact ν)
    (asOf : ℤ) : Option RecountResult :=
  match groupNameFor fact with
  | some groupName => some (recountGroup groupName)
  | none => recountConditions env book fact asOf

/-- What a fact is stored with when it was counted from a filter. -/
def sourceFilterOf (recorded : List (JsonValue ν)) : JsonValue ν := .obj [("conditions", .arr recorded)]

/-- A recount agrees with what a measurement says: withheld where that is, else the same figures. -/
def AgreesWith (result : RecountResult) : Banded → Prop
  | .tooSmall => result.canRecount = false ∧ result.reason = some tooFewReason ∧
      result.clientCount = none ∧ result.fundCount = none ∧ result.moneyTotalKes = none
  | .shown values => result.canRecount = true ∧
      result.clientCount = (values.get? .clientCount).join ∧
      result.fundCount = (values.get? .fundCount).join ∧
      result.moneyTotalKes = (values.get? .moneyTotal).join

/-- The filter that compiled to these clauses can be run again from its record. -/
structure Replays (env : QueryEnv ν) (format : NumberFormat ν) (conditions : List (JsonValue ν))
    (clauses : List (Clause ν)) (recorded : List (JsonValue ν)) : Prop where
  /-- The record is read back as it was written. -/
  reads : loads format (render format (.arr recorded)) = some (.arr recorded)
  /-- It compiles to the same record and to clauses that select the same rows. -/
  compiles : ∃ again, compileConditions env.limits recorded = .ok (again, recorded) ∧
    ∀ book, selectRows env book again = selectRows env book clauses
  /-- It measures what the original conditions measured. -/
  measures : ∀ book measures table said values,
    measureSlice env book false conditions measures = .answered table said values →
    said = recorded ∧ measureRecordedFilter env book recorded
      (if measures.isEmpty then defaultMeasures else measures) = .ok values
  /-- Once it was measured, its fact recounts on every later book what a measurement there says. -/
  recounts : ∀ before measures table said values,
    measureSlice env before false conditions measures = .answered table said values →
    ∀ now recountGroup asOf fact,
      loads format (render format (sourceFilterOf recorded)) = some fact.sourceFilter →
      ∃ table result banded, measureSlice env now false conditions [] = .answered table recorded banded ∧
        recountFact env now recountGroup fact asOf = some result ∧ AgreesWith result banded

/-! ## What a measured filter says -/

variable {env : QueryEnv ν} {conditions recorded : List (JsonValue ν)} {clauses : List (Clause ν)}
  {book : Book}

/-- What the default measures are checked to. -/
def checkedDefaults : List Measure := [.clientCount, .fundCount, .moneyTotal]

lemma checkMeasures_default : checkMeasures defaultMeasures = .ok checkedDefaults := by decide

/-- A slice that was answered compiled, and the database took its values. -/
lemma measureSlice_answered {measures : List String} {table : Table} {said : List (JsonValue ν)}
    {values : Banded} (ok : compileConditions env.limits conditions = .ok (clauses, recorded))
    (answered : measureSlice env book false conditions measures = .answered table said values) :
    said = recorded ∧ ∃ wanted rows,
      checkMeasures (if measures.isEmpty then defaultMeasures else measures) = .ok wanted ∧
      selectRows env book clauses = some rows ∧ values = measureRows env rows wanted := by
  rw [measureSlice] at answered
  cases checked : checkMeasures (if measures.isEmpty then defaultMeasures else measures) with
  | error message =>
    rw [checked] at answered
    cases answered
  | ok wanted =>
    simp only [checked, ok] at answered
    cases selected : selectRows env book clauses with
    | none =>
      rw [selected] at answered
      cases answered
    | some rows =>
      rw [selected] at answered
      cases answered
      exact ⟨rfl, wanted, rows, rfl, rfl, rfl⟩

/-- Whether the database takes the values of a filter does not depend on the book. -/
lemma selectRows_isSome {other : Book} {rows : List JoinedRow}
    (selected : selectRows env book clauses = some rows) :
    ∃ rows, selectRows env other clauses = some rows := by
  obtain ⟨bound, taken, _⟩ := Option.map_eq_some_iff.mp selected
  exact ⟨_, by rw [selectRows, taken]; rfl⟩

lemma measureRecordedFilter_eq {measures : List String} {wanted : List Measure} {rows : List JoinedRow}
    (ok : compileConditions env.limits recorded = .ok (clauses, recorded))
    (checked : checkMeasures measures = .ok wanted) (selected : selectRows env book clauses = some rows) :
    measureRecordedFilter env book recorded measures = .ok (measureRows env rows wanted) := by
  rw [measureRecordedFilter]
  simp only [checked, ok, selected]

/-- A fact recounts what its conditions measure. -/
lemma recountFact_agrees {fact : Fact ν} {rows : List JoinedRow} {recountGroup : String → RecountResult}
    {asOf : ℤ} (ok : compileConditions env.limits recorded = .ok (clauses, recorded))
    (selected : selectRows env book clauses = some rows)
    (stored : fact.sourceFilter = sourceFilterOf recorded) :
    ∃ result, recountFact env book recountGroup fact asOf = some result ∧
      AgreesWith result (measureRows env rows checkedDefaults) := by
  have noGroup : groupNameFor fact = none := by
    rw [groupNameFor, stored]
    rfl
  have given : member? "conditions" fact.sourceFilter = some (.arr recorded) := by
    rw [stored]
    rfl
  have measured : measureRecordedFilter env book recorded defaultMeasures =
      .ok (measureRows env rows checkedDefaults) :=
    measureRecordedFilter_eq ok checkMeasures_default selected
  rw [recountFact, noGroup]
  simp only [recountConditions, given, measured]
  cases measureRows env rows checkedDefaults with
  | tooSmall => exact ⟨_, rfl, rfl, rfl, rfl, rfl, rfl⟩
  | shown values => exact ⟨_, rfl, rfl, rfl, rfl, rfl⟩

/-- Every filter that compiles can be run again from its record. -/
theorem recorded_replays (format : NumberFormat ν)
    (ok : compileConditions env.limits conditions = .ok (clauses, recorded)) :
    Replays env format conditions clauses recorded := by
  have again := compileConditions_recorded ok
  refine ⟨loads_render format _, ⟨clauses, again, fun _ => rfl⟩, ?_, ?_⟩
  · intro book measures table said values answered
    obtain ⟨same, wanted, rows, checked, selected, rfl⟩ := measureSlice_answered ok answered
    exact ⟨same, measureRecordedFilter_eq again checked selected⟩
  · intro before measures table said values answered now recountGroup asOf fact stored
    obtain ⟨-, _, _, -, selected, -⟩ := measureSlice_answered ok answered
    obtain ⟨rows, selected⟩ := @selectRows_isSome _ _ _ _ now _ selected
    have filter : fact.sourceFilter = sourceFilterOf recorded := by
      rw [loads_render] at stored
      exact (Option.some.inj stored).symm
    obtain ⟨result, recounted, agrees⟩ :=
      @recountFact_agrees _ _ _ _ _ fact _ recountGroup asOf again selected filter
    have measured : measureSlice env now false conditions [] =
        .answered (tableFor clauses) recorded (measureRows env rows checkedDefaults) := by
      rw [measureSlice, List.isEmpty_nil, if_pos rfl, checkMeasures_default]
      simp only [ok, selected]
      rfl
    exact ⟨_, result, _, measured, recounted, agrees⟩

/-! ## A filter of several kinds of values -/

/-- Texts and numbers are taken as they are. -/
def plainEnv : QueryEnv ℕ where
  bind _ _
    | .str text => some (.text text)
    | .num value => some (.number value)
    | _ => none

def mixedConditions : List (JsonValue ℕ) :=
  [.obj [("field", .str "risk_band"), ("op", .str "in"), ("value", .arr [.str "High", .str "Critical"])],
    .obj [("op", .str "gte"), ("field", .str "risk_score"), ("value", .num 40), ("note", .null)],
    .obj [("field", .str "sig_dormant"), ("op", .str "is_true"), ("value", .bool true)]]

def emptyBook : Book := ⟨.empty, .empty⟩

/-- A list of texts, a number and a flag, with members the record leaves out. -/
theorem recorded_replays_sample : ∃ clauses recorded,
    compileConditions plainEnv.limits mixedConditions = .ok (clauses, recorded) ∧
    (∃ table values, measureSlice plainEnv emptyBook false mixedConditions [] =
      .answered table recorded values) ∧
    Replays plainEnv JsonText.naturals mixedConditions clauses recorded :=
  ⟨_, _, rfl, ⟨_, _, rfl⟩, recorded_replays JsonText.naturals rfl⟩

end ClientEngagement.Agents.Query
