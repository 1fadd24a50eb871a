import ClientEngagement.Events.Log

/-!
# The progress of a run

Model of `ProgressWalk` and `progress_from` (`services/agent_events.py`): the short status of a run, counted from
its events one at a time.
-/

namespace ClientEngagement.Events

def runStatus : String := "run_status"
def stepStarted : String := "step_started"
def stepCompleted : String := "step_completed"
def insightCreated : String := "insight_created"
def insightUpdated : String := "insight_updated"
def insightDismissed : String := "insight_dismissed"
def approvalNeeded : String := "approval_needed"
def approvalGiven : String := "approval_given"
def runCompleted : String := "run_completed"

def investigating : String := "investigating"
def groupStarted : String := "group_started"
def groupDone : String := "group_done"
def stateChange : String := "state"

structure RunProgress where
  groupsTotal : Option ℤ
  groupsLookedAt : ℕ
  insightsFound : ℕ
  waitingOnAPerson : ℕ
  doingNow : Option String
  finished : Bool
  outcome : Option Json

/-- What the walk over the events is keeping track of. -/
structure Tally where
  groupsTotal : Option ℤ := none
  groupsDone : Finset String := ∅
  groupsStarted : Finset String := ∅
  openSteps : List String := []
  undecidedInsights : Finset ℤ := ∅
  insightsFound : ℕ := 0
  awaitingApproval : Finset ℤ := ∅
  finished : Bool := false
  outcome : Option Json := none

/-- A whole number, or a boolean as one. -/
def int? : Json → Option ℤ
  | .num value => if value.isInt then some value.num else none
  | .bool value => some (if value then 1 else 0)
  | _ => none

def addId (holder : Finset ℤ) (value : Option Json) : Finset ℤ :=
  match value.bind int? with
  | none => holder
  | some id => insert id holder

def dropId (holder : Finset ℤ) (value : Option Json) : Finset ℤ :=
  match value.bind int? with
  | none => holder
  | some id => holder.erase id

variable (repr : Json → String)

/-- `str(detail.get(name, ""))`. -/
def textOf (detail : Detail) (name : String) : String :=
  ((detail.lookup name).map (Json.pyStr repr)).getD ""

/-- `detail.get(name) == text`. -/
def Detail.carries (detail : Detail) (name text : String) : Bool :=
  (detail.lookup name).bind Json.text? = some text

def Tally.applyStatus (tally : Tally) (detail : Detail) : Tally :=
  if Detail.carries detail "stage" investigating then
    { tally with groupsTotal := (detail.lookup "group_count").bind int? }
  else if Detail.carries detail "stage" groupStarted then
    { tally with groupsStarted := insert (textOf repr detail "group_name") tally.groupsStarted }
  else if Detail.carries detail "stage" groupDone then
    { tally with groupsDone := insert (textOf repr detail "group_name") tally.groupsDone }
  else tally

def Tally.apply (tally : Tally) (kind : String) (detail : Detail) : Tally :=
  if kind = runStatus then tally.applyStatus repr detail
  else if kind = stepStarted then
    { tally with openSteps := tally.openSteps ++ [textOf repr detail "step"] }
  else if kind = stepCompleted then
    { tally with openSteps := tally.openSteps.erase (textOf repr detail "step") }
  else if kind = insightCreated then
    { tally with
      insightsFound := tally.insightsFound + 1
      undecidedInsights := addId tally.undecidedInsights (detail.lookup "insight_id") }
  else if kind = insightDismissed then
    { tally with undecidedInsights := dropId tally.undecidedInsights (detail.lookup "insight_id") }
  else if kind = insightUpdated && Detail.carries detail "change" stateChange then
    { tally with undecidedInsights := dropId tally.undecidedInsights (detail.lookup "insight_id") }
  else if kind = approvalNeeded then
    { tally with awaitingApproval := addId tally.awaitingApproval (detail.lookup "proposal_id") }
  else if kind = approvalGiven then
    { tally with awaitingApproval := dropId tally.awaitingApproval (detail.lookup "proposal_id") }
  else if kind = runCompleted then
    { tally with
      finished := true
      outcome := detail.lookup "state"
      openSteps := [] }
  else tally

def Tally.doingNow (tally : Tally) : Option String :=
  (((tally.groupsStarted \ tally.groupsDone).sort (· ≤ ·)).head?).or tally.openSteps.getLast?

def Tally.progress (tally : Tally) : RunProgress where
  groupsTotal := tally.groupsTotal
  groupsLookedAt := tally.groupsDone.card
  insightsFound := tally.insightsFound
  waitingOnAPerson := tally.undecidedInsights.card + tally.awaitingApproval.card
  doingNow := if tally.finished then none else tally.doingNow
  finished := tally.finished
  outcome := tally.outcome

/-- The walk over some more events. -/
def Tally.walk (tally : Tally) (events : List (Ordinal × AgentEvent)) : Tally :=
  events.foldl (fun tally entry => tally.apply repr entry.2.kind entry.2.detail) tally

def progressFrom (events : List (Ordinal × AgentEvent)) : RunProgress :=
  (Tally.walk repr {} events).progress

lemma Tally.walk_append (tally : Tally) (events more : List (Ordinal × AgentEvent)) :
    tally.walk repr (events ++ more) = (tally.walk repr events).walk repr more :=
  List.foldl_append

/-! ## What the walk counts -/

/-- The finding an event says was written. -/
def AgentEvent.creates (row : AgentEvent) : Option ℤ :=
  if row.kind = insightCreated then (row.detail.lookup "insight_id").bind int? else none

/-- The finding an event says was decided. -/
def AgentEvent.settles (row : AgentEvent) : Option ℤ :=
  if row.kind = insightDismissed ∨ row.kind = insightUpdated ∧ Detail.carries row.detail "change" stateChange then
    (row.detail.lookup "insight_id").bind int?
  else none

/-- The group an event says was looked at. -/
def AgentEvent.completes (row : AgentEvent) : Option String :=
  if row.kind = runStatus ∧ Detail.carries row.detail "stage" groupDone then
    some (textOf repr row.detail "group_name")
  else none

def Tally.add (tally : Tally) (row : AgentEvent) : Tally :=
  tally.apply repr row.kind row.detail

def tallyOf (rows : List AgentEvent) : Tally := rows.foldl (Tally.add repr) {}

variable {repr : Json → String} {row : AgentEvent} {rows : List AgentEvent}

lemma Tally.add_insightsFound (tally : Tally) : (tally.add repr row).insightsFound =
    tally.insightsFound + (if row.kind = insightCreated then 1 else 0) := by
  rw [Tally.add, Tally.apply, Tally.applyStatus]
  split_ifs <;> simp_all [runStatus, stepStarted, stepCompleted, insightCreated]

lemma Detail.carries_unique {detail : Detail} {name text other : String} (here : Detail.carries detail name text = true)
    (there : Detail.carries detail name other = true) : text = other := by
  have same := (of_decide_eq_true here).symm.trans (of_decide_eq_true there)
  exact Option.some.inj same

lemma Tally.add_groupsDone (tally : Tally) : (tally.add repr row).groupsDone =
    match row.completes repr with
    | some name => insert name tally.groupsDone
    | none => tally.groupsDone := by
  rw [Tally.add, Tally.apply, Tally.applyStatus, AgentEvent.completes]
  by_cases done : row.kind = runStatus ∧ Detail.carries row.detail "stage" groupDone
  · have notStage : ∀ stage, stage ≠ groupDone → ¬ Detail.carries row.detail "stage" stage = true :=
      fun stage other carries => other (Detail.carries_unique carries done.2)
    rw [if_pos done, if_pos done.1, if_neg (notStage _ (by decide)), if_neg (notStage _ (by decide)),
      if_pos done.2]
  · rw [if_neg done]
    split_ifs <;> simp_all

lemma Tally.add_undecidedInsights (tally : Tally) : (tally.add repr row).undecidedInsights =
    match row.creates, row.settles with
    | some id, _ => insert id tally.undecidedInsights
    | none, some id => tally.undecidedInsights.erase id
    | none, none => tally.undecidedInsights := by
  rw [Tally.add, Tally.apply, Tally.applyStatus, AgentEvent.creates, AgentEvent.settles, addId, dropId]
  generalize (row.detail.lookup "insight_id").bind int? = id
  cases id <;> split_ifs <;>
    simp_all [runStatus, stepStarted, stepCompleted, insightCreated, insightDismissed, insightUpdated,
      approvalNeeded, approvalGiven, runCompleted]

lemma Tally.add_awaitingApproval (tally : Tally) (notNeeded : row.kind ≠ approvalNeeded)
    (notGiven : row.kind ≠ approvalGiven) :
    (tally.add repr row).awaitingApproval = tally.awaitingApproval := by
  rw [Tally.add, Tally.apply, Tally.applyStatus]
  split_ifs <;> simp_all

lemma tallyOf_concat : tallyOf repr (rows ++ [row]) = (tallyOf repr rows).add repr row := by
  rw [tallyOf, tallyOf, List.foldl_append]
  rfl

lemma insightsFound_tallyOf (rows : List AgentEvent) :
    (tallyOf repr rows).insightsFound = (rows.filter (·.kind = insightCreated)).length := by
  induction rows using List.reverseRecOn with
  | nil => rfl
  | append_singleton rows row ih =>
    rw [tallyOf_concat, Tally.add_insightsFound, ih, List.filter_append, List.length_append]
    by_cases created : row.kind = insightCreated <;> simp [created]

lemma mem_groupsDone_tallyOf {name : String} :
    name ∈ (tallyOf repr rows).groupsDone ↔ ∃ row ∈ rows, row.completes repr = some name := by
  induction rows using List.reverseRecOn with
  | nil => simp [tallyOf]
  | append_singleton rows row ih =>
    rw [tallyOf_concat, Tally.add_groupsDone]
    simp only [List.mem_append, List.mem_singleton, or_and_right, exists_or, exists_eq_left, ← ih]
    cases row.completes repr with
    | none => simp
    | some done =>
      rw [Finset.mem_insert, Option.some.injEq, or_comm, eq_comm]

/-- An event that decides a finding comes after the one that says it was written. -/
def DecidedAfter (rows : List AgentEvent) : Prop :=
  rows.Pairwise fun a b => ∀ id, a.settles = some id → b.creates ≠ some id

lemma mem_undecidedInsights_tallyOf {id : ℤ} (order : DecidedAfter rows) :
    id ∈ (tallyOf repr rows).undecidedInsights ↔
      (∃ row ∈ rows, row.creates = some id) ∧ ∀ row ∈ rows, row.settles ≠ some id := by
  induction rows using List.reverseRecOn with
  | nil => simp [tallyOf]
  | append_singleton rows row ih =>
    obtain ⟨before, _, after⟩ := List.pairwise_append.mp order
    have exclusive : row.creates = none ∨ row.settles = none := by
      rw [AgentEvent.creates, AgentEvent.settles]
      by_cases created : row.kind = insightCreated
      · right
        apply if_neg
        rw [created]
        simp [insightCreated, insightDismissed, insightUpdated]
      · exact .inl (if_neg created)
    have written : (∃ r ∈ rows ++ [row], r.creates = some id) ↔
        (∃ r ∈ rows, r.creates = some id) ∨ row.creates = some id := by
      simp only [List.mem_append, List.mem_singleton, or_and_right, exists_or, exists_eq_left]
    have undecided : (∀ r ∈ rows ++ [row], r.settles ≠ some id) ↔
        (∀ r ∈ rows, r.settles ≠ some id) ∧ row.settles ≠ some id := by
      simp only [List.mem_append, List.mem_singleton, or_imp, forall_and, forall_eq]
    rw [tallyOf_concat, Tally.add_undecidedInsights, written, undecided]
    cases created : row.creates with
    | some new =>
      rw [created] at exclusive
      have settles : row.settles = none := exclusive.resolve_left nofun
      rw [settles, Finset.mem_insert, ih before]
      have unsettled : ∀ old ∈ rows, old.settles ≠ some new :=
        fun old mem settled => after old mem row (List.mem_singleton.mpr rfl) new settled created
      constructor
      · rintro (rfl | ⟨written, unsettled⟩)
        · exact ⟨.inr rfl, unsettled, nofun⟩
        · exact ⟨.inl written, unsettled, nofun⟩
      · rintro ⟨written | same, unsettled, _⟩
        · exact .inr ⟨written, unsettled⟩
        · exact .inl (Option.some.inj same).symm
    | none =>
      cases settled : row.settles with
      | none => simp [ih before]
      | some old =>
        rw [Finset.mem_erase, ih before]
        have other : some old ≠ some id ↔ id ≠ old := by rw [ne_eq, Option.some.injEq, ne_eq, eq_comm]
        rw [other]
        simp only [reduceCtorEq, or_false]
        constructor
        · rintro ⟨ne, written, unsettled⟩
          exact ⟨written, unsettled, ne⟩
        · rintro ⟨written, unsettled, ne⟩
          exact ⟨ne, written, unsettled⟩

lemma awaitingApproval_tallyOf (none : ∀ row ∈ rows, row.kind ≠ approvalNeeded ∧ row.kind ≠ approvalGiven) :
    (tallyOf repr rows).awaitingApproval = ∅ := by
  induction rows using List.reverseRecOn with
  | nil => rfl
  | append_singleton rows row ih =>
    obtain ⟨notNeeded, notGiven⟩ := none row (List.mem_append_right _ (List.mem_singleton.mpr rfl))
    rw [tallyOf_concat, Tally.add_awaitingApproval _ notNeeded notGiven]
    exact ih fun row mem => none row (List.mem_append_left _ mem)

end ClientEngagement.Events
