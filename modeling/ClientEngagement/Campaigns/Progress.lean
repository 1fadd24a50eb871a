import ClientEngagement.Campaigns.GateSafety

/-!
# One enrollment's progress

The calls on one enrollment in any order, a crash between a send and its advance among them
(`ProgressStep`). `counted` is the touch a call advances past and `CallClear` the condition under
which that advance is sound: the enrollment has not ended in between, and no step is left behind by
a gap in the numbering. `OnTrack` is what every call that meets it keeps; `advances_are_sound` is
the result about whole runs.
-/

namespace ClientEngagement.Campaigns
open Rules (Date Instant)

/-! ## The calls -/

/-- A call on the enrollment, with what it takes from outside. `others` is whatever happens to the
    rest of the database in between. -/
inductive ProgressCall where
  | others (db' : Database)
  | turn (env : Env) (generate : GenerateFn)
  | decide (messageId : MessageId) (status : MessageStatus)
  | recheck (env : Env) (stepNo : ℤ)
  | send (env : Env) (stepNo : ℤ) (result : SendResult)
  | interruptedSend (env : Env) (stepNo : ℤ) (result : SendResult)
  | advance (stepNo : ℤ)
  | reconcile

/-- The step and the sending time a call advances past. -/
def counted (db : Database) (id : EnrollmentId) : ProgressCall → Option (ℤ × Instant)
  | .send _ stepNo result => some (stepNo, result.sentAt)
  | .advance stepNo =>
    ((db.touches.get? (id, stepNo)).bind TouchLog.sentAt).map fun sentAt => (stepNo, sentAt)
  | .reconcile => latestSent db id
  | _ => none

/-- A call, with the error it raises and the database it leaves in the session. -/
inductive ProgressStep (id : EnrollmentId) (db : Database) :
    ProgressCall × Option InvalidTransition → Database → Prop where
  | others {db'} (row : db'.enrollments.get? id = db.enrollments.get? id)
      (touches : ∀ n, db'.touches.get? (id, n) = db.touches.get? (id, n))
      (steps : db'.steps = db.steps) :
      ProgressStep id db (.others db', none) db'
  | turn {env generate e db' outcome} (row : db.enrollments.get? id = some e)
      (ran : runDueEnrollment env generate db e = .ok (db', outcome)) :
      ProgressStep id db (.turn env generate, none) db'
  | decide {messageId status message} (found : db.messages.get? messageId = some message) :
      ProgressStep id db (.decide messageId status, none)
        (db.storeMessage messageId { message with status := status })
  | recheck {env stepNo touch reason e'} (logged : db.touches.get? (id, stepNo) = some touch)
      (blocked : sendCheck db env id touch = .blocked reason (some e')) :
      ProgressStep id db (.recheck env stepNo, none) (db.storeEnrollment e')
  | send {env stepNo result touch message e} (logged : db.touches.get? (id, stepNo) = some touch)
      (checked : sendCheck db env id touch = .handOver message e) :
      ProgressStep id db (.send env stepNo result, (recordSend db e stepNo touch result).2)
        (recordSend db e stepNo touch result).1
  -- the delivery is on file, the enrollment is not advanced yet
  | interruptedSend {env stepNo result touch message e}
      (logged : db.touches.get? (id, stepNo) = some touch)
      (checked : sendCheck db env id touch = .handOver message e) :
      ProgressStep id db (.interruptedSend env stepNo result, none)
        (db.storeTouch (id, stepNo) (touch.delivered result))
  | advance {stepNo touch sentAt e} (row : db.enrollments.get? id = some e)
      (logged : db.touches.get? (id, stepNo) = some touch) (sent : touch.sentAt = some sentAt) :
      ProgressStep id db (.advance stepNo, (settle db (advanceEnrollment db e stepNo sentAt)).2)
        (settle db (advanceEnrollment db e stepNo sentAt)).1
  | reconcile {e} (row : db.enrollments.get? id = some e) :
      ProgressStep id db (.reconcile, (settle db (reconcileEnrollment db e)).2)
        (settle db (reconcileEnrollment db e)).1

/-! ## What the calls should do -/

/-- The last step of the campaign went out. -/
def LastSent (db : Database) (id : EnrollmentId) (campaignId : CampaignId) : Prop :=
  ∃ n touch, (db.steps.get? (campaignId, n)).isSome = true ∧
    (∀ m, (db.steps.get? (campaignId, m)).isSome = true → m ≤ n) ∧
    db.touches.get? (id, n) = some touch ∧ touch.sentAt.isSome = true

/-- The step and the due date are written together with an accepted move, forward, and the due date
    is no earlier than the sending it was computed from. -/
def MovedOn (sending : Option (ℤ × Instant)) (e e' : Enrollment) : Prop :=
  ∃ sentAt, sending = some (e'.currentStep, sentAt) ∧ e.currentStep < e'.currentStep ∧
    e.status.isSchedulable = true ∧ (e'.status = .inProgress ∨ e'.status = .completed) ∧
    ∀ due, e'.nextDueAt = some due → sentAt ≤ due

/-- A sound call: nothing is raised, the enrollment stays where it is or moves on as a whole, and it
    is completed only once the last step went out. -/
structure CallSound (id : EnrollmentId) (db : Database) (sending : Option (ℤ × Instant))
    (raised : Option InvalidTransition) (db' : Database) : Prop where
  noRaise : raised = none
  whole : ∃ e e', db.enrollments.get? id = some e ∧ db'.enrollments.get? id = some e' ∧
    (e'.currentStep = e.currentStep ∧ e'.nextDueAt = e.nextDueAt ∨ MovedOn sending e e')
  last : ∀ e', db'.enrollments.get? id = some e' → e'.status = .completed →
    LastSent db' id e'.campaignId

/-- The call advances past nothing new, or it does so while the enrollment is still under way and,
    when no step follows directly, no later step exists either. -/
def CallClear (id : EnrollmentId) (db : Database) (call : ProgressCall) : Prop :=
  ∀ e stepNo sentAt, db.enrollments.get? id = some e → counted db id call = some (stepNo, sentAt) →
    e.currentStep < stepNo → e.status.isSchedulable = true ∧
      (db.steps.get? (e.campaignId, stepNo + 1) = none →
        ∀ m, (db.steps.get? (e.campaignId, m)).isSome = true → m ≤ stepNo)

/-- An enrollment without touches, as it is inserted. -/
structure Started (id : EnrollmentId) (db : Database) : Prop where
  row : ∃ e, db.enrollments.get? id = some e ∧ e.enrollmentId = id ∧ Fresh e
  untouched : ∀ n, db.touches.get? (id, n) = none

/-- No touch is more than one step ahead, every touch is of a step the campaign has, and a completed
    enrollment has been sent the last one. -/
structure OnTrack (id : EnrollmentId) (db : Database) (e : Enrollment) : Prop where
  row : db.enrollments.get? id = some e
  own : e.enrollmentId = id
  ahead : ∀ n touch, db.touches.get? (id, n) = some touch →
    n ≤ e.currentStep + 1 ∧ (db.steps.get? (e.campaignId, n)).isSome = true
  last : e.status = .completed → LastSent db id e.campaignId

variable {id : EnrollmentId} {db db' : Database} {e e' : Enrollment}

lemma Started.onTrack (start : Started id db) : ∃ e, OnTrack id db e := by
  obtain ⟨e, row, own, fresh⟩ := start.row
  refine ⟨e, row, own, fun n touch h => ?_, fun h => ?_⟩
  · cases (start.untouched n).symm.trans h
  · cases fresh.status.symm.trans h

/-! ## Calls that advance past nothing -/

/-- A call that writes neither step nor due date, and no completion, is sound and stays on track. -/
lemma OnTrack.quiet (sending : Option (ℤ × Instant)) (t : OnTrack id db e)
    (row : db'.enrollments.get? id = some e') (own : e'.enrollmentId = id)
    (same : e'.currentStep = e.currentStep ∧ e'.nextDueAt = e.nextDueAt ∧
      e'.campaignId = e.campaignId)
    (completed : e'.status = .completed → e.status = .completed)
    (steps : db'.steps = db.steps)
    (ahead : ∀ n touch, db'.touches.get? (id, n) = some touch →
      n ≤ e.currentStep + 1 ∧ (db.steps.get? (e.campaignId, n)).isSome = true)
    (sent : ∀ n touch, db.touches.get? (id, n) = some touch → touch.sentAt.isSome = true →
      ∃ touch', db'.touches.get? (id, n) = some touch' ∧ touch'.sentAt.isSome = true) :
    CallSound id db sending none db' ∧ OnTrack id db' e' := by
  have last : e'.status = .completed → LastSent db' id e'.campaignId := by
    intro h
    obtain ⟨n, touch, step, top, logged, went⟩ := t.last (completed h)
    obtain ⟨touch', logged', went'⟩ := sent n touch logged went
    rw [same.2.2]
    exact ⟨n, touch', steps ▸ step, fun m hm => top m (steps ▸ hm), logged', went'⟩
  refine ⟨⟨rfl, ⟨e, e', t.row, row, .inl ⟨same.1, same.2.1⟩⟩, fun e'' row'' h => ?_⟩, row, own,
    fun n touch h => ?_, last⟩
  · cases row.symm.trans row''
    exact last h
  · rw [same.1, same.2.2, steps]
    exact ahead n touch h

/-- A call that leaves the row, the steps and every sent touch leaves the enrollment on track. -/
lemma OnTrack.aside (t : OnTrack id db e)
    (row : db'.enrollments.get? id = some e) (steps : db'.steps = db.steps)
    (ahead : ∀ n touch, db'.touches.get? (id, n) = some touch →
      n ≤ e.currentStep + 1 ∧ (db.steps.get? (e.campaignId, n)).isSome = true)
    (sent : ∀ n touch, db.touches.get? (id, n) = some touch → touch.sentAt.isSome = true →
      ∃ touch', db'.touches.get? (id, n) = some touch' ∧ touch'.sentAt.isSome = true) :
    CallSound id db none none db' ∧ OnTrack id db' e :=
  t.quiet none row t.own ⟨rfl, rfl, rfl⟩ (fun h => h) steps ahead sent

/-- A stop keeps everything but the status, and never completes. -/
lemma OnTrack.stopped (sending : Option (ℤ × Instant)) (t : OnTrack id db e)
    (h : e' = e ∨ ∃ status, status ∈ allowedTransitions e.status ∧
      (status = .excluded ∨ status ∈ stoppedStatuses) ∧ e' = { e with status := status }) :
    CallSound id db sending none (db.storeEnrollment e') ∧
      OnTrack id (db.storeEnrollment e') e' := by
  have same : e'.enrollmentId = e.enrollmentId ∧ e'.currentStep = e.currentStep ∧
      e'.nextDueAt = e.nextDueAt ∧ e'.campaignId = e.campaignId ∧
      (e'.status = .completed → e.status = .completed) := by
    cases h with
    | inl h => simp [h]
    | inr h =>
      obtain ⟨status, _, landing, rfl⟩ := h
      refine ⟨rfl, rfl, rfl, rfl, fun completed => ?_⟩
      cases landing with
      | inl excluded => cases excluded.symm.trans completed
      | inr stopped => exact absurd completed (stopped_ne stopped).2.2
  have own : e'.enrollmentId = id := same.1.trans t.own
  refine t.quiet sending ?_ own ⟨same.2.1, same.2.2.1, same.2.2.2.1⟩ same.2.2.2.2 rfl t.ahead
    fun n touch logged went => ⟨touch, logged, went⟩
  rw [Database.storeEnrollment, own]
  exact Dict.get?_set_self _ _ _

/-! ## Calls that advance -/

variable {stepNo : ℤ} {sentAt : Instant}

lemma advanced_frame : (advanced db e stepNo sentAt).enrollmentId = e.enrollmentId ∧
    (advanced db e stepNo sentAt).campaignId = e.campaignId := by
  rw [advanced]
  cases db.steps.get? (e.campaignId, stepNo + 1) with
  | some _ => exact ⟨rfl, rfl⟩
  | none => exact ⟨rfl, rfl⟩

lemma advanced_status : (advanced db e stepNo sentAt).status = .inProgress ∨
    (advanced db e stepNo sentAt).status = .completed := by
  rw [advanced]
  cases db.steps.get? (e.campaignId, stepNo + 1) with
  | some _ => exact .inl rfl
  | none => exact .inr rfl

/-- An advance completes exactly when no step follows directly. -/
lemma advanced_completed_iff : (advanced db e stepNo sentAt).status = .completed ↔
    db.steps.get? (e.campaignId, stepNo + 1) = none := by
  rw [advanced]
  cases db.steps.get? (e.campaignId, stepNo + 1) with
  | some _ => simp
  | none => simp

lemma sentAt_le_of_advanced {due : Instant}
    (h : (advanced db e stepNo sentAt).nextDueAt = some due) : sentAt ≤ due := by
  rw [advanced] at h
  cases hn : db.steps.get? (e.campaignId, stepNo + 1) with
  | some nextStep =>
    rw [hn] at h
    cases h
    exact sentAt_le_dueAfter
  | none =>
    rw [hn] at h
    cases h

/-- What an advance past a new step needs. -/
def AdvanceClear (db : Database) (e : Enrollment) (stepNo : ℤ) : Prop :=
  e.status.isSchedulable = true ∧ (db.steps.get? (e.campaignId, stepNo + 1) = none →
    ∀ m, (db.steps.get? (e.campaignId, m)).isSome = true → m ≤ stepNo)

variable {before : Database} {touch : TouchLog}

lemma OnTrack.advance_clear (sentAt : Instant) (t : OnTrack id db e)
    (row : before.enrollments.get? id = some e) (lt : e.currentStep < stepNo) (logged : db.touches.get? (id, stepNo) = some touch)
    (went : touch.sentAt.isSome = true) (clear : AdvanceClear db e stepNo) :
    CallSound id before (some (stepNo, sentAt))
        (settle db (advanceEnrollment db e stepNo sentAt)).2
        (settle db (advanceEnrollment db e stepNo sentAt)).1 ∧
      ∃ e', OnTrack id (settle db (advanceEnrollment db e stepNo sentAt)).1 e' := by
  rw [advanceEnrollment_of_schedulable clear.1 lt]
  have own : (advanced db e stepNo sentAt).enrollmentId = id := advanced_frame.1.trans t.own
  have row' : (db.storeEnrollment (advanced db e stepNo sentAt)).enrollments.get? id =
      some (advanced db e stepNo sentAt) := by
    rw [Database.storeEnrollment, own]
    exact Dict.get?_set_self _ _ _
  have last : (advanced db e stepNo sentAt).status = .completed →
      LastSent (db.storeEnrollment (advanced db e stepNo sentAt)) id
        (advanced db e stepNo sentAt).campaignId := by
    intro completed
    rw [advanced_frame.2]
    exact ⟨stepNo, touch, (t.ahead stepNo touch logged).2,
      clear.2 (advanced_completed_iff.mp completed), logged, went⟩
  constructor
  · refine ⟨rfl, ⟨e, _, row, row', .inr ⟨sentAt, ?_, ?_, clear.1, advanced_status, ?_⟩⟩, ?_⟩
    · rw [advanced_currentStep]
    · rw [advanced_currentStep]
      exact lt
    · exact fun due h => sentAt_le_of_advanced h
    · intro e' h completed
      cases row'.symm.trans h
      exact last completed
  · refine ⟨_, row', own, fun n touch' h => ?_, last⟩
    have near := t.ahead n touch' h
    rw [advanced_currentStep, advanced_frame.2]
    exact ⟨by omega, near.2⟩

/-- Past the last touch nothing is logged, so a completion over a gap is not sound, and neither is
    an advance of an enrollment that has ended. -/
lemma OnTrack.clear_of_sound (t : OnTrack id db e) (lt : e.currentStep < stepNo)
    {sending : Option (ℤ × Instant)}
    (sound : CallSound id before sending (settle db (advanceEnrollment db e stepNo sentAt)).2
      (settle db (advanceEnrollment db e stepNo sentAt)).1) : AdvanceClear db e stepNo := by
  cases hs : e.status.isSchedulable with
  | false =>
    obtain ⟨r, hr, _⟩ := advanceEnrollment_of_terminal db sentAt hs lt
    rw [hr] at sound
    cases sound.noRaise
  | true =>
    refine ⟨hs, fun none m hm => ?_⟩
    rw [advanceEnrollment_of_schedulable hs lt] at sound
    have own : (advanced db e stepNo sentAt).enrollmentId = id := advanced_frame.1.trans t.own
    have row' : (db.storeEnrollment (advanced db e stepNo sentAt)).enrollments.get? id =
        some (advanced db e stepNo sentAt) := by
      rw [Database.storeEnrollment, own]
      exact Dict.get?_set_self _ _ _
    obtain ⟨n, touch, _, top, logged, _⟩ :=
      sound.last _ row' (advanced_completed_iff.mpr none)
    rw [advanced_frame.2] at top
    have near := (t.ahead n touch logged).1
    have below := top m hm
    omega

/-- An advance is sound exactly when it is clear, and then the enrollment stays on track. -/
lemma OnTrack.advance (t : OnTrack id db e) (row : before.enrollments.get? id = some e)
    (logged : db.touches.get? (id, stepNo) = some touch) (went : touch.sentAt.isSome = true) :
    (CallSound id before (some (stepNo, sentAt))
        (settle db (advanceEnrollment db e stepNo sentAt)).2
        (settle db (advanceEnrollment db e stepNo sentAt)).1 ↔
      (e.currentStep < stepNo → AdvanceClear db e stepNo)) ∧
    ((e.currentStep < stepNo → AdvanceClear db e stepNo) →
      ∃ e', OnTrack id (settle db (advanceEnrollment db e stepNo sentAt)).1 e') := by
  cases lt_or_ge e.currentStep stepNo with
  | inl lt =>
    constructor
    · constructor
      · exact fun sound _ => t.clear_of_sound lt sound
      · exact fun clear => (t.advance_clear sentAt row lt logged went (clear lt)).1
    · exact fun clear => (t.advance_clear sentAt row lt logged went (clear lt)).2
  | inr le =>
    have quiet : CallSound id before (some (stepNo, sentAt)) none (db.storeEnrollment e) ∧
        OnTrack id (db.storeEnrollment e) e := by
      have h := t.stopped (some (stepNo, sentAt)) (.inl rfl)
      refine ⟨⟨rfl, ⟨e, e, row, h.2.row, .inl ⟨rfl, rfl⟩⟩, h.1.last⟩, h.2⟩
    rw [advanceEnrollment_of_le le]
    exact ⟨iff_of_true quiet.1 fun lt => absurd lt (not_lt.mpr le), fun _ => ⟨e, quiet.2⟩⟩

/-! ## Every call -/

/-- A delivery recorded on a logged touch keeps the enrollment on track. -/
lemma OnTrack.delivered (result : SendResult) (t : OnTrack id db e)
    (logged : db.touches.get? (id, stepNo) = some touch) :
    CallSound id db none none (db.storeTouch (id, stepNo) (touch.delivered result)) ∧
      OnTrack id (db.storeTouch (id, stepNo) (touch.delivered result)) e := by
  refine t.aside t.row rfl (fun n touch' h => ?_) fun n touch' h went => ?_
  · simp only [Database.storeTouch, Dict.get?_set, Prod.mk.injEq, true_and] at h
    split at h
    · rename_i same
      exact same ▸ t.ahead stepNo touch logged
    · exact t.ahead n touch' h
  · simp only [Database.storeTouch, Dict.get?_set, Prod.mk.injEq, true_and]
    split
    · exact ⟨_, rfl, rfl⟩
    · exact ⟨touch', h, went⟩

/-- One turn of a generation run stops the enrollment, logs its next touch, or does nothing. -/
lemma OnTrack.turn {env : Env} {generate : GenerateFn} {outcome : TouchRunOutcome}
    (t : OnTrack id db e) (ran : runDueEnrollment env generate db e = .ok (db', outcome)) :
    CallSound id db none none db' ∧ ∃ e', OnTrack id db' e' := by
  rw [runDueEnrollment] at ran
  cases hg : checkEligibility db env e with
  | error error =>
    rw [hg] at ran
    cases ran
  | ok gate =>
    rw [hg, Except.map] at ran
    split at ran
    · cases ran
      have stopped := t.stopped none (checkEligibility_cases hg)
      exact ⟨stopped.1, _, stopped.2⟩
    · rename_i eligible
      obtain ⟨_, step, untouched⟩ := checkEligibility_eligible hg (by simpa using eligible)
      split at ran
      · cases ran
        have same := t.aside t.row rfl t.ahead fun n touch h went => ⟨touch, h, went⟩
        exact ⟨same.1, e, same.2⟩
      · rename_i db'' touch generated
        cases ran
        obtain ⟨rows, steps, others⟩ := generateTouch_frame generated
        rw [t.own] at others
        have aside : CallSound id db none none db' ∧ OnTrack id db' e := by
          refine t.aside (by rw [rows]; exact t.row) steps (fun n touch' h => ?_)
            fun n touch' h went => ?_
          · cases eq_or_ne n (e.currentStep + 1) with
            | inl next => exact ⟨next.le, next ▸ step⟩
            | inr ne =>
              rw [others (id, n) (by simpa using ne)] at h
              exact t.ahead n touch' h
          · cases eq_or_ne n (e.currentStep + 1) with
            | inl next =>
              -- the gate saw no touch for the next step
              rw [alreadyTouched, t.own, ← next, h] at untouched
              cases untouched
            | inr ne =>
              rw [others (id, n) (by simpa using ne)]
              exact ⟨touch', h, went⟩
        exact ⟨aside.1, e, aside.2⟩

/-- A send-time recheck that blocks leaves the enrollment, or stops it. -/
lemma sendCheck_blocked {env : Env} {reason : Option String} (row : db.enrollments.get? id = some e)
    (h : sendCheck db env id touch = .blocked reason (some e')) :
    e' = e ∨ ∃ status, status ∈ allowedTransitions e.status ∧
      (status = .excluded ∨ status ∈ stoppedStatuses) ∧ e' = { e with status := status } := by
  rw [sendCheck] at h
  split at h
  · cases h
  · split at h
    · cases h
    · simp only [row] at h
      split at h
      · cases h
      · split at h
        · cases h
        · rename_i gate hg
          split at h
          · cases h
          · cases h
            exact checkStopConditions_cases hg

lemma reconcileEnrollment_eq {sent : ℤ × Instant} (h : latestSent db e.enrollmentId = some sent) :
    reconcileEnrollment db e = advanceEnrollment db e sent.1 sent.2 := by
  rw [reconcileEnrollment, h]
  simp only
  split
  · rename_i le
    exact (advanceEnrollment_of_le le).symm
  · rfl

/-- Every call on an enrollment that is on track is sound exactly when it is clear, and then the
    enrollment stays on track. -/
theorem OnTrack.step {call : ProgressCall} {raised : Option InvalidTransition}
    (t : OnTrack id db e) (st : ProgressStep id db (call, raised) db') :
    (CallSound id db (counted db id call) raised db' ↔ CallClear id db call) ∧
      (CallClear id db call → ∃ e', OnTrack id db' e') := by
  -- a call that counts nothing is clear, so it only has to be sound
  have uncounted (nothing : counted db id call = none)
      (h : CallSound id db none raised db' ∧ ∃ e', OnTrack id db' e') :
      (CallSound id db (counted db id call) raised db' ↔ CallClear id db call) ∧
        (CallClear id db call → ∃ e', OnTrack id db' e') := by
    refine ⟨?_, fun _ => h.2⟩
    rw [nothing]
    refine iff_of_true h.1 fun e stepNo sentAt _ something => ?_
    cases nothing.symm.trans something
  -- a call that counts a touch is clear when its advance is
  have clear_iff {stepNo : ℤ} {sentAt : Instant} (h : counted db id call = some (stepNo, sentAt)) :
      CallClear id db call ↔ (e.currentStep < stepNo → AdvanceClear db e stepNo) := by
    constructor
    · exact fun clear lt => clear e stepNo sentAt t.row h lt
    · intro clear e' stepNo' sentAt' row' h' lt
      cases t.row.symm.trans row'
      cases h.symm.trans h'
      exact clear lt
  cases st with
  | others row touches steps =>
    apply uncounted rfl
    have aside := t.aside (by rw [row]; exact t.row) steps
      (fun n touch h => t.ahead n touch (by rw [← touches]; exact h))
      fun n touch h went => ⟨touch, by rw [touches]; exact h, went⟩
    exact ⟨aside.1, e, aside.2⟩
  | turn row ran =>
    cases t.row.symm.trans row
    exact uncounted rfl (t.turn ran)
  | @decide messageId status message found =>
    apply uncounted rfl
    have aside : CallSound id db none none
        (db.storeMessage messageId { message with status := status }) ∧ OnTrack id _ e :=
      t.aside t.row rfl t.ahead fun n touch h went => ⟨touch, h, went⟩
    exact ⟨aside.1, e, aside.2⟩
  | recheck logged blocked =>
    have stopped := t.stopped none (sendCheck_blocked t.row blocked)
    exact uncounted rfl ⟨stopped.1, _, stopped.2⟩
  | @interruptedSend _ _ result _ _ _ logged checked =>
    have sent := t.delivered result logged
    exact uncounted rfl ⟨sent.1, e, sent.2⟩
  | @send _ stepNo result touch _ e₁ logged checked =>
    cases t.row.symm.trans (sendCheck_handOver checked).enrolled
    rw [clear_iff rfl, recordSend, t.own]
    exact (t.delivered result logged).2.advance t.row
      (Dict.get?_set_self _ _ _) rfl
  | @advance stepNo touch sentAt e₁ row logged sent =>
    cases t.row.symm.trans row
    have h : counted db id (.advance stepNo) = some (stepNo, sentAt) := by
      rw [counted, logged, Option.bind_some, sent]
      rfl
    rw [clear_iff h, h]
    exact t.advance t.row logged (by rw [sent]; rfl)
  | @reconcile e₁ row =>
    cases t.row.symm.trans row
    cases h : latestSent db id with
    | none =>
      have idle : reconcileEnrollment db e = .ok e := by
        rw [reconcileEnrollment, t.own, h]
      apply uncounted h
      rw [idle]
      have stays := t.stopped none (.inl rfl)
      exact ⟨stays.1, e, stays.2⟩
    | some sent =>
      obtain ⟨stepNo, sentAt⟩ := sent
      obtain ⟨touch, logged, went⟩ := latestSent_some h
      rw [clear_iff h, reconcileEnrollment_eq (by rw [t.own]; exact h)]
      have counts : counted db id .reconcile = some (stepNo, sentAt) := h
      rw [counts]
      exact t.advance t.row logged (by rw [went]; rfl)

variable {start : Database} {calls : List (ProgressCall × Option InvalidTransition)}

/-- The system restricted to the calls that meet the condition. -/
abbrev ClearStep (id : EnrollmentId) :=
  Guarded (fun db (call : ProgressCall × Option InvalidTransition) => CallClear id db call.1)
    (ProgressStep id)

lemma Started.run (s : Started id start) (r : Run (ClearStep id) start calls db) :
    ∃ e, OnTrack id db e := by
  apply r.invariant (fun db => ∃ e, OnTrack id db e) s.onTrack
  rintro db ⟨call, raised⟩ db' ⟨e, t⟩ ⟨clear, st⟩
  exact (t.step st).2 clear

/-- After any run of clear calls a completed enrollment has been sent its last step, and the next
    call, whichever it is, is sound exactly when it is clear. -/
theorem advances_are_sound (s : Started id start) (r : Run (ClearStep id) start calls db) :
    (∃ e, db.enrollments.get? id = some e ∧
      (e.status = .completed → LastSent db id e.campaignId)) ∧
    ∀ call raised db', ProgressStep id db (call, raised) db' →
      (CallSound id db (counted db id call) raised db' ↔ CallClear id db call) := by
  obtain ⟨e, t⟩ := s.run r
  exact ⟨⟨e, t.row, t.last⟩, fun call raised db' st => (t.step st).1⟩

/-! ## A client who opts out between a send and its advance -/

/-- One campaign of two steps, one client with a contact, one fresh enrollment. -/
def twoSteps : Database where
  campaigns := .ofList [(1, { status := .running })]
  steps := .ofList [((1, 1), { offsetDays := 0 }), ((1, 2), { offsetDays := 3 })]
  enrollments := .ofList [(7, { enrollmentId := 7, campaignId := 1, clientId := 5, enrolledAt := 0 })]
  features := .ofList [(5, { purchaseDepth := "deep" })]
  vault := .ofList [(5, { contactEmail := some "a@example.com", contactPhone := none })]

lemma twoSteps_started : Started 7 twoSteps where
  row := ⟨_, rfl, rfl, rfl, rfl⟩
  untouched _ := rfl

def draftOne : GenerateFn := fun _ _ _ => .ok (some ("m1", { campaignId := 1, clientId := 5 }))

/-- After the first turn: touch 1 with a message to review. -/
def draftedOnce : Database :=
  { twoSteps with
    touches := .ofList [((7, 1), { touchId := 1, messageId := some "m1" })]
    nextTouchId := 2
    messages := .ofList [("m1", { campaignId := 1, clientId := 5 })] }

def approvedOnce : Database :=
  draftedOnce.storeMessage "m1" { campaignId := 1, clientId := 5, status := .approved }

def sentOnce : SendResult where
  deliveryStatus := "sent"
  sentAt := 0

def touchOne : TouchLog where
  touchId := 1
  messageId := some "m1"

/-- The message went out, and the process stopped before it advanced the enrollment. -/
def interruptedOnce : Database := approvedOnce.storeTouch (7, 1) (touchOne.delivered sentOnce)

def suppressedOnce : Database :=
  { interruptedOnce with suppression := .ofList [(5, { reason := "asked to stop" })] }

/-- A second send was blocked by the suppression, which excluded the enrollment. -/
def excludedOnce : Database :=
  suppressedOnce.storeEnrollment
    { enrollmentId := 7, campaignId := 1, clientId := 5, enrolledAt := 0, status := .excluded }

lemma drafts : ProgressStep 7 twoSteps (.turn dayFour draftOne, none) draftedOnce := .turn rfl rfl

lemma approves : ProgressStep 7 draftedOnce (.decide "m1" .approved, none) approvedOnce :=
  .decide (show draftedOnce.messages.get? "m1" = some { campaignId := 1, clientId := 5 } from rfl)

/-- The catch-up raises with the step and the due date already written. -/
theorem reconcile_raises_half_written :
    Started 7 twoSteps ∧
      Run (ProgressStep 7) twoSteps
        [(.turn dayFour draftOne, none), (.decide "m1" .approved, none),
          (.interruptedSend dayFour 1 sentOnce, none), (.others suppressedOnce, none),
          (.recheck dayFour 1, none)] excludedOnce ∧
      ∃ e r, excludedOnce.enrollments.get? 7 = some e ∧
        reconcileEnrollment excludedOnce e = .error r ∧
        e.currentStep = 0 ∧ e.nextDueAt = none ∧ r.left.currentStep = 1 ∧
        r.left.nextDueAt = some (3 * microsecondsPerDay) ∧ r.left.status = e.status := by
  have interrupted : ProgressStep 7 approvedOnce (.interruptedSend dayFour 1 sentOnce, none)
      interruptedOnce :=
    .interruptedSend (show approvedOnce.touches.get? (7, 1) = some touchOne from rfl) rfl
  have suppressed : ProgressStep 7 interruptedOnce (.others suppressedOnce, none)
      suppressedOnce := .others rfl (fun _ => rfl) rfl
  have excluded : ProgressStep 7 suppressedOnce (.recheck dayFour 1, none) excludedOnce :=
    .recheck rfl rfl
  refine ⟨twoSteps_started, ?_, _, _, rfl, rfl, rfl, rfl, rfl, rfl, rfl⟩
  exact .snoc (.snoc (.snoc (.snoc (.snoc .nil drafts) approves) interrupted) suppressed) excluded

/-- Two clear calls, and what the next one is then known to do. -/
theorem advances_are_sound_approved :
    (∃ e, approvedOnce.enrollments.get? 7 = some e ∧
      (e.status = .completed → LastSent approvedOnce 7 e.campaignId)) ∧
    ∀ call raised db', ProgressStep 7 approvedOnce (call, raised) db' →
      (CallSound 7 approvedOnce (counted approvedOnce 7 call) raised db' ↔
        CallClear 7 approvedOnce call) := by
  have drafted : ClearStep 7 twoSteps (.turn dayFour draftOne, none) draftedOnce :=
    ⟨fun _ _ _ _ h => (by cases h), drafts⟩
  have approved : ClearStep 7 draftedOnce (.decide "m1" .approved, none) approvedOnce :=
    ⟨fun _ _ _ _ h => (by cases h), approves⟩
  exact advances_are_sound twoSteps_started (.snoc (.snoc .nil drafted) approved)

end ClientEngagement.Campaigns
