import ClientEngagement.Campaigns.Touch

/-!
# The gate and the state machine

When the gate stays inside the enrollment state machine. `Reached` is what a fresh enrollment can
become by sends, gate checks and rechecks, each against a database of its own; `Paced` is its
invariant. The gate's only move the table can refuse is `excluded` for an enrollment past its first
touch, so `checkEligibility` is safe exactly when `GateClear`, `checkStopConditions` exactly when
`SendClear`, and a whole run exactly when `BatchClear` (`gate_stays_inside`).
-/

namespace ClientEngagement.Campaigns
open Rules (Date Instant)

/-! ## Reachable enrollments -/

/-- What moves an enrollment. Every move reads a database of its own. -/
inductive LifecycleMove where
  | advance (db : Database) (stepNo : ℤ) (sentAt : Instant)
  | check (db : Database) (env : Env)
  | recheck (db : Database) (env : Env) (channel : String)

def LifecycleStep (e : Enrollment) (move : LifecycleMove) (e' : Enrollment) : Prop :=
  match move with
  | .advance db stepNo sentAt => advanceEnrollment db e stepNo sentAt = .ok e'
  | .check db env => (checkEligibility db env e).map GateOutcome.enrollment = .ok e'
  | .recheck db env channel =>
    (checkStopConditions db env e channel).map GateOutcome.enrollment = .ok e'

/-- An enrollment as `enroll_cohort` inserts it. -/
structure Fresh (e : Enrollment) : Prop where
  currentStep : e.currentStep = 0
  status : e.status = .enrolled

def Reached (e : Enrollment) : Prop :=
  ∃ e₀ moves, Fresh e₀ ∧ Run LifecycleStep e₀ moves e

def Database.AllReached (db : Database) : Prop :=
  ∀ id e, db.enrollments.get? id = some e → Reached e

/-- Mid-sequence means past the first touch, and enrolled means before it. -/
structure Paced (e : Enrollment) : Prop where
  nonneg : 0 ≤ e.currentStep
  enrolled : e.status = .enrolled → e.currentStep = 0
  inProgress : e.status = .inProgress → 0 < e.currentStep

/-! ## The gate's decisions -/

/-- The outcome is a result, a terminal skip lands where the table allows, and any other leaves the
    status alone. -/
def Inside (e : Enrollment) (outcome : Except InvalidTransition GateOutcome) : Prop :=
  ∃ gate, outcome = .ok gate ∧
    (gate.terminal = true → gate.enrollment.status ∈ allowedTransitions e.status) ∧
    (gate.terminal = false → gate.enrollment.status = e.status)

/-- Nothing to stop on but a missing contact. -/
def LacksContact (db : Database) (env : Env) (e : Enrollment) (channel : String) : Prop :=
  db.suppression.get? e.clientId = none ∧ vaultSignals db env e.clientId channel = (false, false)

/-- The gate wants this enrollment excluded: no visible history, or no deliverable contact. -/
def GateExcludes (db : Database) (env : Env) (e : Enrollment) : Prop :=
  ∃ campaign step, activeCampaign db e.campaignId = some campaign ∧
    movedOffInactive db e.clientId = false ∧
    db.steps.get? (e.campaignId, e.currentStep + 1) = some step ∧
    (hasNoVisibleHistory db e.clientId = true ∨
      hasNoVisibleHistory db e.clientId = false ∧
      alreadyTouched db e.enrollmentId (e.currentStep + 1) = false ∧
      hasUnresolvedTouch db e.enrollmentId = false ∧ env.requireDeliverableContact = true ∧
      LacksContact db env e (stepChannel step campaign))

/-- The recheck wants this enrollment excluded: no deliverable contact. -/
def SendExcludes (db : Database) (env : Env) (e : Enrollment) (channel : String) : Prop :=
  (activeCampaign db e.campaignId).isSome = true ∧ movedOffInactive db e.clientId = false ∧
    angleHeld db env e.clientId = false ∧ LacksContact db env e channel

/-- `excluded` is a way out of `enrolled` only, so past the first touch nothing may ask for it. -/
def GateClear (db : Database) (env : Env) (e : Enrollment) : Prop :=
  e.currentStep = 0 ∨ ¬ GateExcludes db env e

def SendClear (db : Database) (env : Env) (e : Enrollment) (channel : String) : Prop :=
  e.currentStep = 0 ∨ ¬ SendExcludes db env e channel

/-- Every selected enrollment is clear in the database the turns before it leave. -/
def BatchClear (db : Database) (env : Env) (generate : GenerateFn) (due : List Enrollment) : Prop :=
  ∀ done e rest, due = done ++ e :: rest →
    ∀ db' outcomes, runSelected env generate db done = .ok (db', outcomes) → GateClear db' env e

/-- The statuses a stop past the first touch lands on. -/
def stoppedStatuses : List EnrollmentStatus :=
  [.stoppedReply, .stoppedOptout, .stoppedBounce, .stoppedReengaged]

/-- What a gate call can do: leave the enrollment, or ask for a stop. -/
inductive Decides (e : Enrollment) (excludes : Prop) :
    Except InvalidTransition GateOutcome → Prop where
  | stay {gate} (terminal : gate.terminal = false) (same : gate.enrollment = e)
      (no : ¬ excludes) : Decides e excludes (.ok gate)
  | stop {stop} (landing : stop.status = .excluded ∨ stop.status ∈ stoppedStatuses)
      (iff : stop.status = .excluded ↔ excludes) : Decides e excludes (skipTerminal e stop)

variable {db : Database} {env : Env} {e e' : Enrollment} {channel : String}

/-! ## What the gate decides -/

lemma stopped_allowed {status : EnrollmentStatus} (h : status ∈ stoppedStatuses) :
    status ∈ allowedTransitions .inProgress := by
  revert status
  decide

lemma stopped_ne {status : EnrollmentStatus} (h : status ∈ stoppedStatuses) :
    status ≠ .excluded ∧ status ≠ .inProgress ∧ status ≠ .completed := by
  revert status
  decide

lemma suppressionStatus_stopped (suppression : Suppression) :
    suppressionStatus suppression ∈ stoppedStatuses := by
  rw [suppressionStatus]
  cases mentionsBounce suppression.reason with
  | true => decide
  | false => decide

/-- A stop lands on `excluded` for a missing contact, and on a stopped status otherwise. -/
lemma stopReason_some {requireContact : Bool} {stop : StopReason}
    (h : stopReason db env e channel requireContact = some stop) :
    (stop.status = .excluded ∧ requireContact = true ∧ LacksContact db env e channel) ∨
      (stop.status ∈ stoppedStatuses ∧
        ¬ (requireContact = true ∧ LacksContact db env e channel)) := by
  rw [stopReason] at h
  cases hs : db.suppression.get? e.clientId with
  | some suppression =>
    rw [hs] at h
    cases h
    refine .inr ⟨suppressionStatus_stopped suppression, ?_⟩
    rintro ⟨_, lacks⟩
    cases hs.symm.trans lacks.1
  | none =>
    cases hv : vaultSignals db env e.clientId channel with
    | mk optedOut hasContact =>
      simp only [hs, hv] at h
      split at h
      · rename_i opted
        cases h
        refine .inr ⟨by decide, ?_⟩
        rintro ⟨_, lacks⟩
        cases (hv.symm.trans lacks.2)
        cases opted
      · rename_i opted
        split at h
        · rename_i missing
          cases h
          refine .inl ⟨rfl, missing.2, hs, ?_⟩
          rw [hv, Bool.eq_false_of_not_eq_true opted, Bool.eq_false_of_not_eq_true missing.1]
        · rename_i present
          have no : ¬ (requireContact = true ∧ LacksContact db env e channel) := by
            rintro ⟨required, lacks⟩
            cases (hv.symm.trans lacks.2)
            exact present ⟨by simp, required⟩
          split at h
          · cases h
            exact .inr ⟨by simp [stoppedStatuses], no⟩
          · split at h
            · cases h
              exact .inr ⟨by decide, no⟩
            · split at h
              · cases h
                exact .inr ⟨by decide, no⟩
              · cases h

lemma stopReason_none {requireContact : Bool}
    (h : stopReason db env e channel requireContact = none) :
    ¬ (requireContact = true ∧ LacksContact db env e channel) := by
  rintro ⟨required, lacks⟩
  rw [stopReason, lacks.1, lacks.2] at h
  simp [required] at h

lemma decides_skip {excludes : Prop} {reason : String} (no : ¬ excludes) :
    Decides e excludes (.ok (skip e reason)) :=
  .stay rfl rfl no

/-- What the stop reason decides, when nothing before it did. -/
lemma decides_stopReason {requireContact : Bool} {excludes : Prop}
    {rest : Except InvalidTransition GateOutcome}
    (iff : excludes ↔ requireContact = true ∧ LacksContact db env e channel)
    (pass : ¬ excludes → Decides e excludes rest) :
    Decides e excludes (match stopReason db env e channel requireContact with
      | some stop => skipTerminal e stop
      | none => rest) := by
  cases h : stopReason db env e channel requireContact with
  | none => exact pass fun ex => stopReason_none h (iff.mp ex)
  | some stop =>
    cases stopReason_some h with
    | inl missing => exact .stop (.inl missing.1) (iff_of_true missing.1 (iff.mpr missing.2))
    | inr other =>
      exact .stop (.inr other.1) (iff_of_false (stopped_ne other.1).1 fun ex => other.2 (iff.mp ex))

theorem checkEligibility_decides : Decides e (GateExcludes db env e) (checkEligibility db env e) := by
  rw [checkEligibility]
  cases hc : activeCampaign db e.campaignId with
  | none =>
    apply decides_skip
    rintro ⟨campaign, step, active, _⟩
    cases hc.symm.trans active
  | some campaign =>
    simp only
    split
    · rename_i moved
      apply decides_skip
      rintro ⟨_, _, _, stayed, _⟩
      cases moved.symm.trans stayed
    · rename_i stayed
      cases hs : db.steps.get? (e.campaignId, e.currentStep + 1) with
      | none =>
        apply decides_skip
        rintro ⟨_, step, _, _, found, _⟩
        cases hs.symm.trans found
      | some step =>
        -- from here on only the last conjunct of `GateExcludes` is open
        have open_iff {p : Prop} (h : (hasNoVisibleHistory db e.clientId = true ∨
            hasNoVisibleHistory db e.clientId = false ∧
            alreadyTouched db e.enrollmentId (e.currentStep + 1) = false ∧
            hasUnresolvedTouch db e.enrollmentId = false ∧ env.requireDeliverableContact = true ∧
            LacksContact db env e (stepChannel step campaign)) ↔ p) :
            GateExcludes db env e ↔ p := by
          refine ⟨?_, fun hp => ⟨campaign, step, hc, by simpa using stayed, hs, h.mpr hp⟩⟩
          rintro ⟨campaign', step', active, _, found, rest⟩
          cases hc.symm.trans active
          cases hs.symm.trans found
          exact h.mp rest
        simp only
        split
        · rename_i blank
          exact .stop (.inl rfl) (iff_of_true rfl ((open_iff Iff.rfl).mpr (.inl blank)))
        · rename_i history
          split
          · rename_i touched
            apply decides_skip
            rw [open_iff Iff.rfl]
            simp [history, touched]
          · rename_i untouched
            split
            · rename_i pending
              apply decides_skip
              rw [open_iff Iff.rfl]
              simp [history, pending]
            · rename_i resolved
              apply decides_stopReason
              · exact open_iff (by simp [history, untouched, resolved])
              · intro no
                split
                · exact decides_skip no
                · exact .stay rfl rfl no

theorem checkStopConditions_decides :
    Decides e (SendExcludes db env e channel) (checkStopConditions db env e channel) := by
  rw [checkStopConditions]
  cases hc : activeCampaign db e.campaignId with
  | none =>
    apply decides_skip
    rintro ⟨active, _⟩
    rw [hc] at active
    cases active
  | some campaign =>
    simp only
    split
    · rename_i moved
      apply decides_skip
      rintro ⟨_, stayed, _⟩
      cases moved.symm.trans stayed
    · rename_i stayed
      split
      · rename_i held
        apply decides_skip
        rintro ⟨_, _, free, _⟩
        cases held.symm.trans free
      · rename_i free
        apply decides_stopReason
        · simp [SendExcludes, hc, stayed, free]
        · exact fun no => .stay rfl rfl no

/-! ## The enrollment after a decision -/

lemma skipTerminal_of_mem {stop : StopReason}
    (mem : landingStatus e stop ∈ allowedTransitions e.status) :
    skipTerminal e stop = .ok
      { result := { eligible := false, reason := some stop.reason, detail := stop.detail }
        terminal := true
        enrollment := { e with status := landingStatus e stop } } := by
  rw [skipTerminal, transitionEnrollment_of_mem mem]
  rfl

lemma skipTerminal_of_not_mem {stop : StopReason}
    (no : landingStatus e stop ∉ allowedTransitions e.status) :
    skipTerminal e stop = .error ⟨e.status, landingStatus e stop⟩ := by
  rw [skipTerminal, transitionEnrollment_of_not_mem no]
  rfl

/-- A stop that did not raise landed where the table allows. -/
lemma landing_mem_of_ok {stop : StopReason} {gate : GateOutcome}
    (h : skipTerminal e stop = .ok gate) : landingStatus e stop ∈ allowedTransitions e.status := by
  by_contra no
  rw [skipTerminal_of_not_mem no] at h
  cases h

lemma inside_of_mem {stop : StopReason}
    (mem : landingStatus e stop ∈ allowedTransitions e.status) :
    Inside e (skipTerminal e stop) := by
  rw [skipTerminal_of_mem mem]
  exact ⟨_, rfl, fun _ => mem, fun h => by cases h⟩

lemma Inside.ok {outcome : Except InvalidTransition GateOutcome} (h : Inside e outcome) :
    ∃ gate, outcome = .ok gate := by
  obtain ⟨gate, hg, _⟩ := h
  exact ⟨gate, hg⟩

/-- For a decision, being inside the state machine is not raising. -/
lemma Decides.inside_of_ok {excludes : Prop} {outcome : Except InvalidTransition GateOutcome}
    (d : Decides e excludes outcome) (h : ∃ gate, outcome = .ok gate) : Inside e outcome := by
  cases d with
  | stay terminal same no =>
    refine ⟨_, rfl, fun h => ?_, fun _ => by rw [same]⟩
    cases terminal.symm.trans h
  | stop landing iff =>
    obtain ⟨gate, hg⟩ := h
    exact inside_of_mem (landing_mem_of_ok hg)

/-- A decision is inside the state machine unless it excludes an enrollment past its first touch. -/
theorem Decides.inside_iff {excludes : Prop} {outcome : Except InvalidTransition GateOutcome}
    (d : Decides e excludes outcome) (paced : Paced e) (hs : e.status.isSchedulable = true) :
    Inside e outcome ↔ e.currentStep = 0 ∨ ¬ excludes := by
  cases d with
  | stay terminal same no =>
    exact iff_of_true ((Decides.stay terminal same no).inside_of_ok ⟨_, rfl⟩) (.inr no)
  | @stop stop landing iff =>
    cases isSchedulable_iff.mp hs with
    | inl enrolled =>
      have first := paced.enrolled enrolled
      refine iff_of_true (inside_of_mem ?_) (.inl first)
      rw [landingStatus, if_pos first, enrolled]
      decide
    | inr inProgress =>
      have past : e.currentStep ≠ 0 := ne_of_gt (paced.inProgress inProgress)
      have lands : landingStatus e stop = stop.status := if_neg past
      cases landing with
      | inl excluded =>
        refine iff_of_false (fun inside => ?_) fun clear => ?_
        · obtain ⟨gate, hg⟩ := inside.ok
          have mem := landing_mem_of_ok hg
          rw [lands, excluded, inProgress] at mem
          revert mem
          decide
        · cases clear with
          | inl first => exact past first
          | inr no => exact no (iff.mp excluded)
      | inr stopped =>
        refine iff_of_true (inside_of_mem ?_) (.inr fun ex => (stopped_ne stopped).1 (iff.mpr ex))
        rw [lands, inProgress]
        exact stopped_allowed stopped

/-- Nothing leads to `enrolled`. -/
lemma enrolled_not_allowed (status : EnrollmentStatus) :
    EnrollmentStatus.enrolled ∉ allowedTransitions status := by
  cases status with
  | enrolled => decide
  | inProgress => decide
  | _ => exact List.not_mem_nil

/-- All an accepted decision does to the enrollment: nothing, or a stop the table allows. -/
theorem Decides.enrollment_cases {excludes : Prop}
    {outcome : Except InvalidTransition GateOutcome} (d : Decides e excludes outcome)
    (h : outcome.map GateOutcome.enrollment = .ok e') :
    e' = e ∨ ∃ status, status ∈ allowedTransitions e.status ∧
      (status = .excluded ∨ status ∈ stoppedStatuses) ∧ e' = { e with status := status } := by
  cases d with
  | stay terminal same no =>
    cases h
    exact .inl same
  | @stop stop landing iff =>
    cases hg : skipTerminal e stop with
    | error error =>
      rw [hg] at h
      cases h
    | ok gate =>
      have mem := landing_mem_of_ok hg
      rw [skipTerminal_of_mem mem] at h
      cases h
      refine .inr ⟨landingStatus e stop, mem, ?_, rfl⟩
      rw [landingStatus]
      split
      · exact .inl rfl
      · exact landing

lemma checkEligibility_cases {gate : GateOutcome} (h : checkEligibility db env e = .ok gate) :
    gate.enrollment = e ∨ ∃ status, status ∈ allowedTransitions e.status ∧
      (status = .excluded ∨ status ∈ stoppedStatuses) ∧
      gate.enrollment = { e with status := status } :=
  checkEligibility_decides.enrollment_cases (by rw [h]; rfl)

lemma checkStopConditions_cases {gate : GateOutcome}
    (h : checkStopConditions db env e channel = .ok gate) :
    gate.enrollment = e ∨ ∃ status, status ∈ allowedTransitions e.status ∧
      (status = .excluded ∨ status ∈ stoppedStatuses) ∧
      gate.enrollment = { e with status := status } :=
  checkStopConditions_decides.enrollment_cases (by rw [h]; rfl)

/-- A decision that is accepted keeps the pace. -/
lemma Decides.keeps_paced {excludes : Prop} {outcome : Except InvalidTransition GateOutcome}
    (d : Decides e excludes outcome) (paced : Paced e)
    (h : outcome.map GateOutcome.enrollment = .ok e') : Paced e' := by
  cases d.enrollment_cases h with
  | inl same =>
    rw [same]
    exact paced
  | inr moved =>
    obtain ⟨status, mem, landing, rfl⟩ := moved
    refine ⟨paced.nonneg, fun enrolled => ?_, fun inProgress => ?_⟩
    · have same : status = .enrolled := enrolled
      rw [same] at mem
      exact absurd mem (enrolled_not_allowed _)
    · have same : status = .inProgress := inProgress
      rw [same] at landing
      cases landing with
      | inl h => cases h
      | inr h => exact absurd rfl (stopped_ne h).2.1

/-! ## Reachable enrollments keep the pace -/

lemma Fresh.paced (fresh : Fresh e) : Paced e where
  nonneg := fresh.currentStep.ge
  enrolled _ := fresh.currentStep
  inProgress h := by cases fresh.status.symm.trans h

lemma Paced.advanced {stepNo : ℤ} {sentAt : Instant} (paced : Paced e)
    (lt : e.currentStep < stepNo) : Paced (advanced db e stepNo sentAt) := by
  have pos : 0 < stepNo := lt_of_le_of_lt paced.nonneg lt
  rw [Campaigns.advanced]
  cases db.steps.get? (e.campaignId, stepNo + 1) with
  | some next => exact ⟨pos.le, fun h => (by cases h), fun _ => pos⟩
  | none => exact ⟨pos.le, fun h => (by cases h), fun _ => pos⟩

/-- A move keeps the pace. -/
lemma Paced.step {move : LifecycleMove} (paced : Paced e) (st : LifecycleStep e move e') :
    Paced e' := by
  cases move with
  | advance db stepNo sentAt =>
    cases advanceEnrollment_cases st with
    | inl same => exact same.2 ▸ paced
    | inr moved => exact moved.2.2 ▸ paced.advanced moved.1
  | check db env => exact Decides.keeps_paced checkEligibility_decides paced st
  | recheck db env channel => exact Decides.keeps_paced checkStopConditions_decides paced st

/-- Every reachable enrollment keeps the pace. -/
theorem Reached.paced (r : Reached e) : Paced e := by
  obtain ⟨e₀, moves, fresh, run⟩ := r
  exact run.invariant Paced fresh.paced fun _ _ _ paced st => paced.step st

/-! ## A whole run -/

variable {generate : GenerateFn}

/-- A turn of the loop is completed exactly when its gate call is clear. -/
lemma runDueEnrollment_ok_iff (paced : Paced e) (hs : e.status.isSchedulable = true) :
    (∃ r, runDueEnrollment env generate db e = .ok r) ↔ GateClear db env e := by
  rw [GateClear, ← Decides.inside_iff checkEligibility_decides paced hs, runDueEnrollment]
  constructor
  · intro ⟨r, hr⟩
    apply Decides.inside_of_ok checkEligibility_decides
    cases hg : checkEligibility db env e with
    | error error =>
      rw [hg] at hr
      cases hr
    | ok gate => exact ⟨gate, rfl⟩
  · intro inside
    obtain ⟨gate, hg⟩ := inside.ok
    rw [hg]
    exact ⟨_, rfl⟩

lemma runSelected_cons (e : Enrollment) (rest : List Enrollment) :
    runSelected env generate db (e :: rest) =
      (runDueEnrollment env generate db e).bind fun (db', outcome) =>
        (runSelected env generate db' rest).map fun (db'', outcomes) => (db'', outcome :: outcomes) := rfl

lemma runSelected_cons_ok {rest : List Enrollment} {db' : Database} {outcome : TouchRunOutcome}
    (h : runDueEnrollment env generate db e = .ok (db', outcome)) :
    runSelected env generate db (e :: rest) =
      (runSelected env generate db' rest).map fun (db'', outcomes) =>
        (db'', outcome :: outcomes) := by
  rw [runSelected_cons, h]
  rfl

lemma batchClear_cons {rest : List Enrollment} {db' : Database} {outcome : TouchRunOutcome}
    (h : runDueEnrollment env generate db e = .ok (db', outcome)) :
    BatchClear db env generate (e :: rest) ↔
      GateClear db env e ∧ BatchClear db' env generate rest := by
  constructor
  · intro clear
    refine ⟨clear [] e rest rfl db [] rfl, fun done f tail heq db'' outcomes hrun => ?_⟩
    refine clear (e :: done) f tail (by rw [heq]; rfl) db'' (outcome :: outcomes) ?_
    rw [runSelected_cons_ok h, hrun]
    rfl
  · intro ⟨first, clear⟩ done f tail heq db'' outcomes hrun
    cases done with
    | nil =>
      cases heq
      cases hrun
      exact first
    | cons d done =>
      cases heq
      rw [runSelected_cons_ok h] at hrun
      cases hrest : runSelected env generate db' done with
      | error error =>
        rw [hrest] at hrun
        cases hrun
      | ok r =>
        rw [hrest] at hrun
        cases hrun
        exact clear done f tail rfl r.1 r.2 hrest

/-- The loop runs to its end exactly when every gate call is clear in its own state. -/
theorem runSelected_ok_iff {due : List Enrollment}
    (ready : ∀ e ∈ due, Paced e ∧ e.status.isSchedulable = true) :
    (∃ r, runSelected env generate db due = .ok r) ↔ BatchClear db env generate due := by
  induction due generalizing db with
  | nil =>
    refine iff_of_true ⟨_, rfl⟩ fun done e rest heq => ?_
    cases done with
    | nil => cases heq
    | cons _ _ => cases heq
  | cons e rest ih =>
    obtain ⟨paced, hs⟩ := ready e List.mem_cons_self
    have ih' (db' : Database) : (∃ r, runSelected env generate db' rest = .ok r) ↔
        BatchClear db' env generate rest := ih fun f hf => ready f (List.mem_cons_of_mem _ hf)
    cases hturn : runDueEnrollment env generate db e with
    | error error =>
      have unclear : ¬ GateClear db env e := by
        intro clear
        have ran : ∃ r, runDueEnrollment env generate db e = .ok r :=
          (runDueEnrollment_ok_iff paced hs).mpr clear
        rw [hturn] at ran
        obtain ⟨r, hr⟩ := ran
        cases hr
      refine iff_of_false ?_ fun clear => unclear (clear [] e rest rfl db [] rfl)
      rintro ⟨r, hr⟩
      rw [runSelected_cons, hturn] at hr
      cases hr
    | ok r =>
      obtain ⟨db', outcome⟩ := r
      have first : GateClear db env e := (runDueEnrollment_ok_iff paced hs).mp ⟨_, hturn⟩
      rw [batchClear_cons hturn, runSelected_cons_ok hturn, ← ih' db']
      constructor
      · rintro ⟨r, hr⟩
        cases hrest : runSelected env generate db' rest with
        | error error =>
          rw [hrest] at hr
          cases hr
        | ok r' => exact ⟨first, r', rfl⟩
      · rintro ⟨_, r, hr⟩
        rw [hr]
        exact ⟨_, rfl⟩

lemma mem_selectDueEnrollments {campaignId : Option CampaignId} {limit : ℕ}
    (h : e ∈ selectDueEnrollments db env campaignId limit) :
    (∃ id, db.enrollments.get? id = some e) ∧ isDue db env e = true := by
  have mem := List.mem_of_mem_take h
  simp only [mem_sortBy, List.mem_filter, List.mem_map, decide_eq_true_eq] at mem
  obtain ⟨⟨⟨id, e'⟩, listed, same⟩, due, _⟩ := mem
  cases same
  exact ⟨⟨id, (Dict.mem_items_iff _).mp listed⟩, due⟩

lemma isSchedulable_of_isDue (h : isDue db env e = true) : e.status.isSchedulable = true := by
  simp only [isDue, decide_eq_true_eq] at h
  exact h.1

/-- The gate calls stay inside the state machine exactly when they are clear, and a run over the due
    enrollments ends exactly when every gate call it makes is. -/
theorem gate_stays_inside (reached : db.AllReached) :
    (∀ id e, db.enrollments.get? id = some e → e.status.isSchedulable = true →
      (Inside e (checkEligibility db env e) ↔ GateClear db env e) ∧
        ∀ channel, Inside e (checkStopConditions db env e channel) ↔ SendClear db env e channel) ∧
    ∀ campaignId limit generate,
      (∃ r, runDueEnrollments db env campaignId limit generate = .ok r) ↔
        BatchClear db env generate (selectDueEnrollments db env campaignId limit) := by
  constructor
  · intro id e found hs
    have paced := (reached id e found).paced
    exact ⟨checkEligibility_decides.inside_iff paced hs,
      fun channel => checkStopConditions_decides.inside_iff paced hs⟩
  · intro campaignId limit generate
    apply runSelected_ok_iff
    intro e mem
    obtain ⟨⟨id, found⟩, due⟩ := mem_selectDueEnrollments mem
    exact ⟨(reached id e found).paced, isSchedulable_of_isDue due⟩

/-! ## A client whose history vanished mid-sequence -/

/-- Enrolled at the start of day 0 in a campaign with steps on day 0 and day 3. -/
def vanishing : Enrollment where
  enrollmentId := 7
  campaignId := 1
  clientId := 5
  enrolledAt := 0

/-- The same enrollment once its first touch went out. -/
def vanished : Enrollment :=
  { vanishing with
    currentStep := 1, nextDueAt := some (3 * microsecondsPerDay), status := .inProgress }

/-- No history on file, and no contact either. -/
def vanishedDb (e : Enrollment) : Database where
  campaigns := .ofList [(1, { status := .running })]
  steps := .ofList [((1, 1), { offsetDays := 0 }), ((1, 2), { offsetDays := 3 })]
  enrollments := .ofList [(7, e)]
  features := .ofList [(5, { purchaseDepth := "none" })]

def dayFour : Env where
  deliveryMode := .live
  now := 4 * microsecondsPerDay
  today := 4
  dateOf instant := instant / microsecondsPerDay

lemma vanished_reached : Reached vanished := by
  refine ⟨vanishing, [.advance (vanishedDb vanishing) 1 0], ⟨rfl, rfl⟩, ?_⟩
  exact .snoc .nil rfl

lemma vanishedDb_allReached : (vanishedDb vanished).AllReached := by
  intro id e found
  have listed := Dict.mem_of_get?_ofList found
  rw [List.mem_singleton] at listed
  cases listed
  exact vanished_reached

/-- The gate asks for `excluded` mid-sequence, which aborts the run. -/
theorem gate_raises_mid_sequence :
    Reached vanished ∧ vanished.status.isSchedulable = true ∧
      (vanishedDb vanished).enrollments.get? 7 = some vanished ∧
      checkEligibility (vanishedDb vanished) dayFour vanished = .error ⟨.inProgress, .excluded⟩ ∧
      checkStopConditions (vanishedDb vanished) dayFour vanished "email" =
        .error ⟨.inProgress, .excluded⟩ ∧
      ∀ generate, runDueEnrollments (vanishedDb vanished) dayFour (some 1) 10 generate =
        .error ⟨.inProgress, .excluded⟩ := by
  refine ⟨vanished_reached, rfl, rfl, rfl, rfl, fun generate => ?_⟩
  rfl

theorem gate_stays_inside_vanished :
    (∀ id e, (vanishedDb vanished).enrollments.get? id = some e →
      e.status.isSchedulable = true →
      (Inside e (checkEligibility (vanishedDb vanished) dayFour e) ↔
        GateClear (vanishedDb vanished) dayFour e) ∧
        ∀ channel, Inside e (checkStopConditions (vanishedDb vanished) dayFour e channel) ↔
          SendClear (vanishedDb vanished) dayFour e channel) ∧
    ∀ campaignId limit generate,
      (∃ r, runDueEnrollments (vanishedDb vanished) dayFour campaignId limit generate = .ok r) ↔
        BatchClear (vanishedDb vanished) dayFour generate
          (selectDueEnrollments (vanishedDb vanished) dayFour campaignId limit) :=
  gate_stays_inside vanishedDb_allReached

/-! ## A whole life -/

/-- One line of `ALLOWED_TRANSITIONS`. -/
def Allows (status next : EnrollmentStatus) : Prop := next ∈ allowedTransitions status

/-- The status went along the table, and an enrollment that had ended is as it was. -/
structure AlongTable (e e' : Enrollment) : Prop where
  path : Relation.ReflTransGen Allows e.status e'.status
  ended : e.status.isTerminal = true → e' = e

lemma AlongTable.refl (e : Enrollment) : AlongTable e e := ⟨.refl, fun _ => rfl⟩

lemma AlongTable.trans {e'' : Enrollment} (first : AlongTable e e') (next : AlongTable e' e'') :
    AlongTable e e'' where
  path := first.path.trans next.path
  ended closed := by
    have same := first.ended closed
    subst same
    exact next.ended closed

lemma not_terminal_of_mem {status next : EnrollmentStatus} (mem : next ∈ allowedTransitions status) :
    ¬ status.isTerminal = true := by
  intro closed
  have none_left : allowedTransitions status = [] := of_decide_eq_true closed
  rw [none_left] at mem
  cases mem

lemma AlongTable.of_decides {excludes : Prop} {outcome : Except InvalidTransition GateOutcome}
    (d : Decides e excludes outcome) (h : outcome.map GateOutcome.enrollment = .ok e') : AlongTable e e' := by
  cases d.enrollment_cases h with
  | inl same =>
    rw [same]
    exact .refl e
  | inr moved =>
    obtain ⟨status, mem, -, rfl⟩ := moved
    exact ⟨.single mem, fun closed => absurd closed (not_terminal_of_mem mem)⟩

/-- A first touch that is the last goes through `in_progress`. -/
lemma follows_advanced {stepNo : ℤ} {sentAt : Instant} (schedulable : e.status.isSchedulable = true) :
    AlongTable e (advanced db e stepNo sentAt) := by
  have begun : Allows e.status .inProgress := by
    rcases isSchedulable_iff.mp schedulable with status | status
    · rw [Allows, status]
      decide
    · rw [Allows, status]
      decide
  refine ⟨?_, fun closed => absurd closed (not_terminal_of_mem begun)⟩
  rw [advanced]
  cases db.steps.get? (e.campaignId, stepNo + 1) with
  | some next => exact .single begun
  | none => exact (Relation.ReflTransGen.single begun).tail (show EnrollmentStatus.completed ∈ _ by decide)

/-- A move keeps to the table. -/
lemma LifecycleStep.follows {move : LifecycleMove} (st : LifecycleStep e move e') : AlongTable e e' := by
  cases move with
  | advance db stepNo sentAt =>
    cases advanceEnrollment_cases st with
    | inl same => exact same.2 ▸ .refl e
    | inr moved => exact moved.2.2 ▸ follows_advanced moved.2.1
  | check db env => exact .of_decides checkEligibility_decides st
  | recheck db env channel => exact .of_decides checkStopConditions_decides st

lemma vanishing_ends : Run LifecycleStep vanishing [.advance (vanishedDb vanishing) 1 0,
    .advance (vanishedDb vanishing) 2 (3 * microsecondsPerDay)]
    { vanished with currentStep := 2, nextDueAt := none, status := .completed } := by
  have first : LifecycleStep vanishing (.advance (vanishedDb vanishing) 1 0) vanished := rfl
  exact .snoc (.snoc .nil first) rfl

end ClientEngagement.Campaigns
