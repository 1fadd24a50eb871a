import ClientEngagement.Campaigns.Eligibility
import ClientEngagement.Campaigns.Scheduler

/-!
# The steps of a campaign

Model of `add_campaign_step` of `services/campaigns.py`. `add_campaign_step_sound` says that the steps stay
in order whatever is asked for, and what the scheduler may therefore count on.
-/

namespace ClientEngagement.Campaigns
open Rules (Instant)

inductive StepError where
  | campaignNotFound (campaignId : CampaignId)
  | decreasingStepOffset (offsetDays previousOffsetDays : ℤ)
  | duplicateChannelSameDay (offsetDays : ℤ) (channel : String)
deriving DecidableEq

/-- The arguments of one call. -/
structure StepRequest extends CampaignStep where
  campaignId : CampaignId

/-- A campaign's steps with their numbers. -/
def stepsOf (db : Database) (campaignId : CampaignId) : List (ℤ × CampaignStep) :=
  db.steps.items.filterMap fun ((id, stepNo), step) =>
    if id = campaignId then some (stepNo, step) else none

/-- The step with the greatest number. -/
def previousStep (db : Database) (campaignId : CampaignId) : Option (ℤ × CampaignStep) :=
  minBy (fun row => -row.1) (stepsOf db campaignId)

/-- Adds a step after the last one, or refuses it. -/
def addCampaignStep (db : Database) (request : StepRequest) :
    Database × Except StepError (ℤ × CampaignStep) :=
  match db.campaigns.get? request.campaignId with
  | none => (db, .error (.campaignNotFound request.campaignId))
  | some campaign =>
    let previous := previousStep db request.campaignId
    match previous.filter fun row => request.offsetDays < row.2.offsetDays with
    | some row => (db, .error (.decreasingStepOffset request.offsetDays row.2.offsetDays))
    | none =>
      let resolvedChannel := stepChannel request.toCampaignStep campaign
      let sameDaySteps := (stepsOf db request.campaignId).filter (·.2.offsetDays = request.offsetDays)
      let sameDayChannels := sameDaySteps.map fun row => stepChannel row.2 campaign
      if resolvedChannel ∈ sameDayChannels then
        (db, .error (.duplicateChannelSameDay request.offsetDays resolvedChannel))
      else
        let nextStepNo := (previous.map Prod.fst).getD 0 + 1
        ({ db with steps := db.steps.set (request.campaignId, nextStepNo) request.toCampaignStep },
          .ok (nextStepNo, request.toCampaignStep))

/-- The database after a sequence of calls. -/
def addCampaignSteps (db : Database) (requests : List StepRequest) : Database :=
  requests.foldl (fun db request => (addCampaignStep db request).1) db

variable {db db' : Database} {request : StepRequest} {campaignId : CampaignId} {n : ℕ}

lemma mem_stepsOf {row : ℤ × CampaignStep} :
    row ∈ stepsOf db campaignId ↔ db.steps.get? (campaignId, row.1) = some row.2 := by
  rw [stepsOf, List.mem_filterMap, ← Dict.mem_items_iff]
  constructor
  · rintro ⟨⟨⟨id, stepNo⟩, step⟩, mem, kept⟩
    simp only at kept
    split_ifs at kept with same
    cases kept
    rw [← same]
    exact mem
  · intro mem
    exact ⟨_, mem, if_pos rfl⟩

/-! ## What one call does -/

/-- A step that may follow the steps of its campaign. -/
structure Follows (db : Database) (request : StepRequest) (campaign : Campaign) (last : ℤ) : Prop where
  found : db.campaigns.get? request.campaignId = some campaign
  last : last = ((previousStep db request.campaignId).map Prod.fst).getD 0
  offset : ∀ row, previousStep db request.campaignId = some row → row.2.offsetDays ≤ request.offsetDays
  channel : ∀ row ∈ stepsOf db request.campaignId, row.2.offsetDays = request.offsetDays →
    stepChannel row.2 campaign ≠ stepChannel request.toCampaignStep campaign

/-- A call is refused and leaves the database as it was, or its step follows the last one. -/
theorem addCampaignStep_cases (db : Database) (request : StepRequest) :
    (∃ error, addCampaignStep db request = (db, .error error)) ∨
      ∃ campaign last, Follows db request campaign last ∧
        addCampaignStep db request =
          ({ db with steps := db.steps.set (request.campaignId, last + 1) request.toCampaignStep },
            .ok (last + 1, request.toCampaignStep)) := by
  rw [addCampaignStep]
  cases found : db.campaigns.get? request.campaignId with
  | none => exact .inl ⟨_, rfl⟩
  | some campaign =>
    simp only
    cases early : (previousStep db request.campaignId).filter
        fun row => request.offsetDays < row.2.offsetDays with
    | some row => exact .inl ⟨_, rfl⟩
    | none =>
      simp only
      split_ifs with twice
      · exact .inl ⟨_, rfl⟩
      · refine .inr ⟨campaign, _, ⟨found, rfl, ?_, ?_⟩, rfl⟩
        · intro row previous
          rw [previous] at early
          simpa [Option.filter_eq_none_iff] using early
        · intro row mem sameDay sameChannel
          apply twice
          rw [← sameChannel]
          exact List.mem_map_of_mem (List.mem_filter.mpr ⟨mem, by simpa using sameDay⟩)

/-! ## The steps in order -/

/-- The steps of a campaign are numbered from one, never go back in time and do not use a channel twice on
    one day. -/
structure StepsInOrder (db : Database) (campaignId : CampaignId) (n : ℕ) : Prop where
  numbers : ∀ stepNo, (db.steps.get? (campaignId, stepNo)).isSome ↔ 1 ≤ stepNo ∧ stepNo ≤ n
  offsets : ∀ i j a b, db.steps.get? (campaignId, i) = some a → db.steps.get? (campaignId, j) = some b →
    i ≤ j → a.offsetDays ≤ b.offsetDays
  channels : ∀ campaign i j a b, db.campaigns.get? campaignId = some campaign →
    db.steps.get? (campaignId, i) = some a → db.steps.get? (campaignId, j) = some b →
    i ≠ j → a.offsetDays = b.offsetDays → stepChannel a campaign ≠ stepChannel b campaign

/-- A campaign begins without steps, or with the one step of the proposal it came from. -/
lemma StepsInOrder.start (new : ∀ stepNo, stepNo ≠ 1 → db.steps.get? (campaignId, stepNo) = none) :
    ∃ n, StepsInOrder db campaignId n := by
  have first {i : ℤ} {a : CampaignStep} (there : db.steps.get? (campaignId, i) = some a) : i = 1 := by
    by_contra other
    rw [new i other] at there
    cases there
  refine ⟨if (db.steps.get? (campaignId, 1)).isSome then 1 else 0, ?_, ?_, ?_⟩
  · intro stepNo
    rcases eq_or_ne stepNo 1 with rfl | other
    · split_ifs with there <;> simp [there]
    · rw [new stepNo other]
      simp only [Option.isSome_none, Bool.false_eq_true, false_iff]
      split_ifs <;> push_cast <;> omega
  · intro i j a b ha hb _
    obtain rfl := first ha
    obtain rfl := first hb
    cases ha.symm.trans hb
    exact le_refl _
  · intro campaign i j a b _ ha hb ne
    exact absurd ((first ha).trans (first hb).symm) ne

/-- The step that counts as the previous one is the last. -/
lemma StepsInOrder.previous (sound : StepsInOrder db campaignId n) :
    ((previousStep db campaignId).map Prod.fst).getD 0 = n ∧
      ∀ i a, db.steps.get? (campaignId, i) = some a →
        ∃ row, previousStep db campaignId = some row ∧ a.offsetDays ≤ row.2.offsetDays := by
  cases previous : previousStep db campaignId with
  | none =>
    have none_there := minBy_eq_none.mp previous
    have empty (i : ℤ) (a : CampaignStep) (there : db.steps.get? (campaignId, i) = some a) : False := by
      have mem : (i, a) ∈ stepsOf db campaignId := mem_stepsOf.mpr there
      rw [none_there] at mem
      cases mem
    refine ⟨?_, fun i a there => (empty i a there).elim⟩
    by_contra some_steps
    change ¬ (0 : ℤ) = n at some_steps
    obtain ⟨a, there⟩ := Option.isSome_iff_exists.mp ((sound.numbers n).mpr ⟨by omega, le_refl _⟩)
    exact empty n a there
  | some row =>
    have there := mem_stepsOf.mp (minBy_mem previous)
    have greatest (i : ℤ) (a : CampaignStep) (h : db.steps.get? (campaignId, i) = some a) : i ≤ row.1 := by
      have least := minBy_le previous (mem_stepsOf.mpr h : (i, a) ∈ _)
      omega
    have inside := (sound.numbers row.1).mp (Option.isSome_of_eq_some there)
    obtain ⟨a, last⟩ := Option.isSome_iff_exists.mp ((sound.numbers n).mpr ⟨by omega, le_refl _⟩)
    refine ⟨le_antisymm inside.2 (greatest n a last), fun i b h => ⟨row, rfl, ?_⟩⟩
    exact sound.offsets i row.1 b row.2 h there (greatest i b h)

/-- A call on another campaign leaves a campaign's steps alone. -/
lemma StepsInOrder.of_same (sound : StepsInOrder db campaignId n) (campaigns : db'.campaigns = db.campaigns)
    (same : ∀ stepNo, db'.steps.get? (campaignId, stepNo) = db.steps.get? (campaignId, stepNo)) :
    StepsInOrder db' campaignId n where
  numbers stepNo := by
    rw [same]
    exact sound.numbers stepNo
  offsets i j a b := by
    rw [same, same]
    exact sound.offsets i j a b
  channels campaign i j a b := by
    rw [same, same, campaigns]
    exact sound.channels campaign i j a b

lemma StepsInOrder.snoc {campaign : Campaign} {last : ℤ} (sound : StepsInOrder db request.campaignId n)
    (follows : Follows db request campaign last) :
    StepsInOrder
      { db with steps := db.steps.set (request.campaignId, last + 1) request.toCampaignStep }
      request.campaignId (n + 1) := by
  obtain ⟨number, latest⟩ := sound.previous
  have last_eq : last = n := follows.last.trans number
  subst last_eq
  have look (stepNo : ℤ) :
      (db.steps.set (request.campaignId, (n : ℤ) + 1) request.toCampaignStep).get?
          (request.campaignId, stepNo) =
        if stepNo = n + 1 then some request.toCampaignStep else db.steps.get? (request.campaignId, stepNo) := by
    simp [Dict.get?_set]
  have old {i : ℤ} {a : CampaignStep} (there : db.steps.get? (request.campaignId, i) = some a) : i ≤ n :=
    ((sound.numbers i).mp (Option.isSome_of_eq_some there)).2
  have before {i : ℤ} {a : CampaignStep} (there : db.steps.get? (request.campaignId, i) = some a) :
      a.offsetDays ≤ request.offsetDays := by
    obtain ⟨row, previous, le⟩ := latest i a there
    exact le.trans (follows.offset row previous)
  constructor
  · intro stepNo
    simp only [look]
    split_ifs with new
    · simp only [Option.isSome_some, true_iff]
      push_cast
      omega
    · rw [sound.numbers]
      push_cast
      omega
  · intro i j a b ha hb le
    simp only [look] at ha hb
    split_ifs at ha hb with i_new j_new j_new
    · cases ha
      cases hb
      exact le_refl _
    · have := old hb
      omega
    · cases hb
      exact before ha
    · exact sound.offsets i j a b ha hb le
  · intro campaign' i j a b found ha hb ne sameDay
    obtain rfl : campaign = campaign' := Option.some.inj (follows.found.symm.trans found)
    simp only [look] at ha hb
    split_ifs at ha hb with i_new j_new j_new
    · omega
    · cases ha
      exact (follows.channel (j, b) (mem_stepsOf.mpr hb) sameDay.symm).symm
    · cases hb
      exact follows.channel (i, a) (mem_stepsOf.mpr ha) sameDay
    · exact sound.channels campaign i j a b found ha hb ne sameDay

/-- Every call keeps the steps of every campaign in order. -/
lemma StepsInOrder.step (sound : StepsInOrder db campaignId n) (request : StepRequest) :
    ∃ m, StepsInOrder (addCampaignStep db request).1 campaignId m := by
  obtain ⟨error, refused⟩ | ⟨campaign, last, follows, added⟩ := addCampaignStep_cases db request
  · rw [refused]
    exact ⟨n, sound⟩
  · rw [added]
    rcases eq_or_ne request.campaignId campaignId with rfl | other
    · exact ⟨n + 1, sound.snoc follows⟩
    · refine ⟨n, sound.of_same rfl fun stepNo => ?_⟩
      apply Dict.get?_set_ne
      intro same
      exact other (Prod.mk.inj same).1.symm

lemma exists_stepsInOrder (requests : List StepRequest) (sound : StepsInOrder db campaignId n) :
    ∃ m, StepsInOrder (addCampaignSteps db requests) campaignId m := by
  induction requests generalizing db n with
  | nil => exact ⟨n, sound⟩
  | cons request requests ih =>
    obtain ⟨m, next⟩ := sound.step request
    exact ih next

/-! ## What the scheduler counts on -/

/-- The days between a step and the next. -/
def daysBetween (db : Database) (campaignId : CampaignId) (stepNo : ℤ) (nextStep : CampaignStep) : ℤ :=
  nextStep.offsetDays - ((db.steps.get? (campaignId, stepNo)).map CampaignStep.offsetDays).getD 0

/-- Between steps in order the scheduler never has to cut a negative delay off. -/
lemma StepsInOrder.daysBetween_nonneg (sound : StepsInOrder db campaignId n) {stepNo : ℤ} (sent : 1 ≤ stepNo)
    {nextStep : CampaignStep} (next : db.steps.get? (campaignId, stepNo + 1) = some nextStep) :
    0 ≤ daysBetween db campaignId stepNo nextStep := by
  have inside := (sound.numbers (stepNo + 1)).mp (Option.isSome_of_eq_some next)
  obtain ⟨current, there⟩ := Option.isSome_iff_exists.mp ((sound.numbers stepNo).mpr ⟨sent, by omega⟩)
  have le := sound.offsets stepNo (stepNo + 1) current nextStep there next (by omega)
  rw [daysBetween, there]
  exact sub_nonneg.mpr le

/-- What an advance leaves, whether the state machine accepts the move or not. -/
def leftBy : Except Refused Enrollment → Enrollment
  | .ok e => e
  | .error refused => refused.left

lemma leftBy_moveTo_nextDueAt (e : Enrollment) (toStatus : EnrollmentStatus) :
    (leftBy (moveTo e toStatus)).nextDueAt = e.nextDueAt := by
  by_cases allowed : toStatus ∈ allowedTransitions e.status
  · rw [moveTo_of_mem allowed]
    rfl
  · rw [moveTo_of_not_mem allowed]
    rfl

/-- An advance past the enrollment's own step sets its due date from the next step, if there is one. -/
lemma nextDueAt_advance {e : Enrollment} {stepNo : ℤ} (later : e.currentStep < stepNo) (sentAt : Instant) :
    (leftBy (advanceEnrollment db e stepNo sentAt)).nextDueAt =
      (db.steps.get? (e.campaignId, stepNo + 1)).map fun nextStep =>
        sentAt + max (daysBetween db e.campaignId stepNo nextStep) 0 * microsecondsPerDay := by
  rw [advanceEnrollment, if_neg (not_le.mpr later)]
  cases next : db.steps.get? (e.campaignId, stepNo + 1) with
  | some nextStep => exact leftBy_moveTo_nextDueAt _ _
  | none =>
    simp only
    split_ifs with fresh
    · change e.status = .enrolled at fresh
      rw [moveTo_of_mem (by simp [fresh, allowedTransitions])]
      exact leftBy_moveTo_nextDueAt _ _
    · exact leftBy_moveTo_nextDueAt _ _

/-- Every sequence of calls leaves a campaign's steps in order; a refused call leaves them as they were; and
    an advance along them waits for the days between the steps, which are never negative. -/
theorem add_campaign_step_sound (new : ∀ stepNo, stepNo ≠ 1 → db.steps.get? (campaignId, stepNo) = none)
    (requests : List StepRequest) :
    (∃ m, StepsInOrder (addCampaignSteps db requests) campaignId m) ∧
      (∀ request db' error, addCampaignStep (addCampaignSteps db requests) request = (db', .error error) →
        db' = addCampaignSteps db requests) ∧
      ∀ (e : Enrollment) stepNo sentAt, e.campaignId = campaignId → e.currentStep < stepNo →
        ∀ due,
          (leftBy (advanceEnrollment (addCampaignSteps db requests) e stepNo sentAt)).nextDueAt = some due →
          sentAt ≤ due ∧
            (1 ≤ stepNo → ∃ nextStep days,
              (addCampaignSteps db requests).steps.get? (campaignId, stepNo + 1) = some nextStep ∧
                days = daysBetween (addCampaignSteps db requests) campaignId stepNo nextStep ∧ 0 ≤ days ∧
                due = sentAt + days * microsecondsPerDay) := by
  obtain ⟨n, start⟩ := StepsInOrder.start new
  obtain ⟨m, sound⟩ := exists_stepsInOrder requests start
  refine ⟨⟨m, sound⟩, ?_, ?_⟩
  · intro request db' error refused
    obtain ⟨_, same⟩ | ⟨_, _, _, added⟩ := addCampaignStep_cases (addCampaignSteps db requests) request
    · rw [same] at refused
      exact (Prod.mk.inj refused).1.symm
    · rw [added] at refused
      cases (Prod.mk.inj refused).2
  · rintro e stepNo sentAt rfl later due set
    rw [nextDueAt_advance later, Option.map_eq_some_iff] at set
    obtain ⟨nextStep, next, rfl⟩ := set
    constructor
    · have waits : 0 ≤ max (daysBetween (addCampaignSteps db requests) e.campaignId stepNo nextStep) 0 *
          microsecondsPerDay := Int.mul_nonneg (le_max_right _ _) (by decide)
      exact le_add_of_nonneg_right waits
    · intro sent
      have days := sound.daysBetween_nonneg sent next
      refine ⟨nextStep, _, next, rfl, days, ?_⟩
      rw [max_eq_left days]

/-- A campaign by email, and five calls on it: the third and the fifth are refused. -/
def emailCampaign : Database where
  campaigns := .ofList [(1, { status := .running })]

def fiveCalls : List StepRequest :=
  [{ campaignId := 1, offsetDays := 0 },
    { campaignId := 1, offsetDays := 3, channel := some "" },
    { campaignId := 1, offsetDays := 3, channel := some "email" },
    { campaignId := 1, offsetDays := 3, channel := some "sms" },
    { campaignId := 1, offsetDays := 2, channel := some "phone" }]

example : (stepsOf (addCampaignSteps emailCampaign fiveCalls) 1).map Prod.fst = [1, 2, 3] := by decide

theorem add_campaign_step_sound_email :
    (∃ m, StepsInOrder (addCampaignSteps emailCampaign fiveCalls) 1 m) ∧
      ∀ (e : Enrollment) sentAt due, e.campaignId = 1 → e.currentStep = 0 →
        (leftBy (advanceEnrollment (addCampaignSteps emailCampaign fiveCalls) e 1 sentAt)).nextDueAt =
          some due → sentAt ≤ due := by
  have new (stepNo : ℤ) (_ : stepNo ≠ 1) : emailCampaign.steps.get? (1, stepNo) = none :=
    Dict.get?_empty (1, stepNo)
  have sound := add_campaign_step_sound new fiveCalls
  refine ⟨sound.1, fun e sentAt due campaign fresh set => ?_⟩
  exact (sound.2.2 e 1 sentAt campaign (by omega) due set).1

end ClientEngagement.Campaigns
