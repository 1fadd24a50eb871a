import ClientEngagement.Campaigns.BatchGeneration
import ClientEngagement.Campaigns.GateSafety
import ClientEngagement.Lib.Results

/-!
# What a batch bundles

When a submission touches exactly the enrollments it bundles, and when an ingestion settles every
item. `Submitted` describes the session's database after a prefix of the due enrollments in terms of
the database at the start; `submitOne` keeps it (`Submitted.step`), and the results about whole calls
are read off it (`batch_claims_what_it_bundles`).
-/

namespace ClientEngagement.Campaigns
open Rules (Date Instant)

/-! ## What the gate does not see -/

variable {db db' : Database} {env : Env} {e : Enrollment}

/-- The gate reads, of what a submission writes, only the enrollment's own touches and who was sent
    something lately. -/
lemma checkEligibility_view {enrollments touches nextTouchId batches items}
    (view : db' = { db with
      enrollments := enrollments, touches := touches, nextTouchId := nextTouchId
      batches := batches, items := items })
    (own : touchesOf db' e.enrollmentId = touchesOf db e.enrollmentId)
    (lately : withinCooldown db' env e.clientId = withinCooldown db env e.clientId) :
    checkEligibility db' env e = checkEligibility db env e := by
  have touched : alreadyTouched db' e.enrollmentId (e.currentStep + 1) =
      alreadyTouched db e.enrollmentId (e.currentStep + 1) := by
    have same : db'.touches.get? (e.enrollmentId, e.currentStep + 1) =
        db.touches.get? (e.enrollmentId, e.currentStep + 1) := by
      apply Option.ext
      intro touch
      rw [← mem_touchesOf, ← mem_touchesOf, own]
    rw [alreadyTouched, same, alreadyTouched]
  have stop (channel : String) (requireContact : Bool) :
      stopReason db' env e channel requireContact = stopReason db env e channel requireContact := by
    have last : lastTouchSentAt db' e = lastTouchSentAt db e := by
      rw [lastTouchSentAt, own, lastTouchSentAt]
    rw [stopReason, last, stopReason]
    subst view
    rfl
  have unresolved : hasUnresolvedTouch db' e.enrollmentId =
      hasUnresolvedTouch db e.enrollmentId := by
    rw [hasUnresolvedTouch, own, hasUnresolvedTouch]
    subst view
    rfl
  rw [checkEligibility, checkEligibility, touched, unresolved, lately]
  simp only [stop]
  subst view
  rfl

/-- The gate accepts the enrollment. -/
def accepts (db : Database) (env : Env) (e : Enrollment) : Bool :=
  match checkEligibility db env e with
  | .ok gate => gate.result.eligible
  | .error _ => false

variable {γ : Type} {services : SubmitServices γ}

/-- The client's context loads and passes the inbound scan. -/
def resolves (services : SubmitServices γ) (db : Database) (e : Enrollment) : Bool :=
  match services.loadContext e.clientId (resolveProduct db e.clientId) with
  | .ok context => ! services.leaksInbound context
  | .error _ => false

/-- The submission logs a touch for the enrollment. -/
def logsTouch (db : Database) (env : Env) (e : Enrollment) : Bool :=
  accepts db env e && ! alreadyBatched db e.enrollmentId (e.currentStep + 1)

/-- The submission bundles the enrollment. -/
def bundles (services : SubmitServices γ) (db : Database) (env : Env) (e : Enrollment) : Bool :=
  logsTouch db env e && resolves services db e

/-- The key of an enrollment's next touch. -/
def Enrollment.nextTouch (e : Enrollment) : EnrollmentId × ℤ := (e.enrollmentId, e.currentStep + 1)

/-- What the schema guarantees: a row is stored under its own primary key, and every item belongs to
    a batch on file. -/
structure Database.WellKeyed (db : Database) : Prop where
  enrollment : ∀ id e, db.enrollments.get? id = some e → e.enrollmentId = id
  item : ∀ batchId customId item, db.items.get? (batchId, customId) = some item →
    db.batches.contains batchId = true

/-! ## The three tables a submission writes -/

/-- The enrollments after the gate looked at those in `done`: a row is as it was, or it is ended. -/
structure RowsAfter (db : Database) (done : List Enrollment)
    (rows : Dict EnrollmentId Enrollment) : Prop where
  others : ∀ id, (∀ e ∈ done, e.enrollmentId ≠ id) → rows.get? id = db.enrollments.get? id
  clients : ∀ id, (rows.get? id).map Enrollment.clientId =
    (db.enrollments.get? id).map Enrollment.clientId
  ended : ∀ e ∈ done, ∃ e', rows.get? e.enrollmentId = some e' ∧
    (e' = e ∨ e'.status.isTerminal = true)

/-- The touches after the enrollments in `done`: one more, empty, for each that logs one. -/
structure TouchesAfter (db : Database) (env : Env) (done : List Enrollment)
    (touches : Dict (EnrollmentId × ℤ) TouchLog) : Prop where
  kept : ∀ key touch, db.touches.get? key = some touch → touches.get? key = some touch
  fresh : ∀ key touch, touches.get? key = some touch → db.touches.get? key = some touch ∨
    touch.sentAt = none ∧ ∃ e ∈ done, logsTouch db env e = true ∧ key = e.nextTouch
  logged : ∀ e ∈ done, logsTouch db env e = true →
    db.touches.get? e.nextTouch = none ∧ (touches.get? e.nextTouch).isSome = true
  own : ∀ id, (∀ e ∈ done, e.enrollmentId ≠ id) →
    touchesOf { db with touches := touches } id = touchesOf db id

/-- An item is for the enrollment's next step. -/
def GenerationBatchItem.isFor (item : GenerationBatchItem) (e : Enrollment) : Prop :=
  item.enrollmentId = e.enrollmentId ∧ item.stepNo = e.currentStep + 1

/-- The items after the enrollments in `done`: one of the new batch for each that is bundled. -/
structure ItemsAfter (services : SubmitServices γ) (db : Database) (env : Env) (batchId : BatchId)
    (done : List Enrollment) (items : Dict (BatchId × CustomId) GenerationBatchItem)
    (requests : List CustomId) : Prop where
  others : ∀ id customId, id ≠ batchId → items.get? (id, customId) = db.items.get? (id, customId)
  source : ∀ customId item, items.get? (batchId, customId) = some item → customId ∈ requests ∧
    ∃ e ∈ done, bundles services db env e = true ∧ item.isFor e
  requested : ∀ customId ∈ requests, (items.get? (batchId, customId)).isSome = true
  bundled : ∀ e ∈ done, bundles services db env e = true →
    ∃ customId item, items.get? (batchId, customId) = some item ∧ item.isFor e
  one : ∀ customId customId' item item', items.get? (batchId, customId) = some item →
    items.get? (batchId, customId') = some item' → item.enrollmentId = item'.enrollmentId →
      customId = customId'
  nodup : requests.Nodup

variable {done : List Enrollment} {rows : Dict EnrollmentId Enrollment}
  {logs : Dict (EnrollmentId × ℤ) TouchLog} {batchId : BatchId}
  {items : Dict (BatchId × CustomId) GenerationBatchItem} {requests : List CustomId}
  {e' : Enrollment}

lemma forall_append_single {α : Type*} {P : α → Prop} {l : List α} {a : α}
    (before : ∀ x ∈ l, P x) (now : P a) : ∀ x ∈ l ++ [a], P x := by
  intro x mem
  rw [List.mem_append, List.mem_singleton] at mem
  cases mem with
  | inl h => exact before x h
  | inr h => exact h ▸ now

/-- The gate left the row, or ended the enrollment. -/
lemma RowsAfter.write (r : RowsAfter db done rows) (fresh : ∀ d ∈ done, d.enrollmentId ≠ e.enrollmentId)
    (row : db.enrollments.get? e.enrollmentId = some e) (client : e'.clientId = e.clientId)
    (outcome : e' = e ∨ e'.status.isTerminal = true) :
    RowsAfter db (done ++ [e]) (rows.set e.enrollmentId e') where
  others id none := by
    have ne : id ≠ e.enrollmentId := (none e (by simp)).symm
    rw [Dict.get?_set_ne _ _ ne]
    exact r.others id fun d mem => none d (List.mem_append_left _ mem)
  clients id := by
    cases eq_or_ne id e.enrollmentId with
    | inl same => rw [same, Dict.get?_set_self, row, Option.map_some, Option.map_some, client]
    | inr ne => rw [Dict.get?_set_ne _ _ ne, r.clients]
  ended := by
    refine forall_append_single (fun d mem => ?_) ⟨e', Dict.get?_set_self _ _ _, outcome⟩
    rw [Dict.get?_set_ne _ _ (fresh d mem)]
    exact r.ended d mem

/-- The row was not written. -/
lemma RowsAfter.same (r : RowsAfter db done rows) (fresh : ∀ d ∈ done, d.enrollmentId ≠ e.enrollmentId)
    (row : db.enrollments.get? e.enrollmentId = some e) : RowsAfter db (done ++ [e]) rows where
  others id none := r.others id fun d mem => none d (List.mem_append_left _ mem)
  clients := r.clients
  ended := forall_append_single r.ended ⟨e, by rw [r.others _ fresh, row], .inl rfl⟩

lemma TouchesAfter.same (t : TouchesAfter db env done logs) (no : logsTouch db env e = false) :
    TouchesAfter db env (done ++ [e]) logs where
  kept := t.kept
  fresh key touch h := by
    cases t.fresh key touch h with
    | inl old => exact .inl old
    | inr new =>
      obtain ⟨unsent, d, mem, rest⟩ := new
      exact .inr ⟨unsent, d, List.mem_append_left _ mem, rest⟩
  logged := forall_append_single t.logged fun yes => by rw [no] at yes; cases yes
  own id none := t.own id fun d mem => none d (List.mem_append_left _ mem)

/-- An empty touch was logged for the next step. -/
lemma TouchesAfter.log (t : TouchesAfter db env done logs) (touch : TouchLog)
    (yes : logsTouch db env e = true) (untouched : logs.get? e.nextTouch = none)
    (unsent : touch.sentAt = none) :
    TouchesAfter db env (done ++ [e]) (logs.set e.nextTouch touch) where
  kept key touch' h := by
    have old := t.kept key touch' h
    have ne : key ≠ e.nextTouch := by
      intro same
      rw [same, untouched] at old
      cases old
    rw [Dict.get?_set_ne _ _ ne]
    exact old
  fresh key touch' h := by
    cases eq_or_ne key e.nextTouch with
    | inl same =>
      rw [same, Dict.get?_set_self] at h
      cases h
      exact .inr ⟨unsent, e, by simp, yes, same⟩
    | inr ne =>
      rw [Dict.get?_set_ne _ _ ne] at h
      cases t.fresh key touch' h with
      | inl old => exact .inl old
      | inr new =>
        obtain ⟨unsent', d, mem, rest⟩ := new
        exact .inr ⟨unsent', d, List.mem_append_left _ mem, rest⟩
  logged := by
    refine forall_append_single (fun d mem log => ?_) fun _ => ⟨?_, by simp⟩
    · obtain ⟨none, some⟩ := t.logged d mem log
      refine ⟨none, ?_⟩
      rw [Dict.get?_set]
      split
      · rfl
      · exact some
    · cases h : db.touches.get? e.nextTouch with
      | none => rfl
      | some old => cases untouched.symm.trans (t.kept _ old h)
  own id none := by
    have ne : e.enrollmentId ≠ id := none e (by simp)
    rw [← t.own id fun d mem => none d (List.mem_append_left _ mem)]
    exact Dict.filterMap_set _ fun u => if_neg ne

lemma ItemsAfter.same (i : ItemsAfter services db env batchId done items requests)
    (no : bundles services db env e = false) :
    ItemsAfter services db env batchId (done ++ [e]) items requests where
  others := i.others
  source customId item h := by
    obtain ⟨req, d, mem, rest⟩ := i.source customId item h
    exact ⟨req, d, List.mem_append_left _ mem, rest⟩
  requested := i.requested
  bundled := forall_append_single i.bundled fun yes => by rw [no] at yes; cases yes
  one := i.one
  nodup := i.nodup

/-- An item was added under a new custom id. -/
lemma ItemsAfter.add (i : ItemsAfter services db env batchId done items requests)
    (fresh : ∀ d ∈ done, d.enrollmentId ≠ e.enrollmentId)
    {customId : CustomId} {item : GenerationBatchItem}
    (yes : bundles services db env e = true) (new : items.get? (batchId, customId) = none)
    (isFor : item.isFor e) :
    ItemsAfter services db env batchId (done ++ [e]) (items.set (batchId, customId) item)
      (requests ++ [customId]) where
  others id customId' ne := by
    rw [Dict.get?_set_ne _ _ (by simp [ne])]
    exact i.others id customId' ne
  source customId' item' h := by
    cases eq_or_ne customId' customId with
    | inl same =>
      rw [same, Dict.get?_set_self] at h
      cases h
      exact ⟨by simp [same], e, by simp, yes, isFor⟩
    | inr ne =>
      rw [Dict.get?_set_ne _ _ (by simp [ne])] at h
      obtain ⟨req, d, mem, rest⟩ := i.source customId' item' h
      exact ⟨List.mem_append_left _ req, d, List.mem_append_left _ mem, rest⟩
  requested := by
    refine forall_append_single (fun c mem => ?_) (by simp)
    rw [Dict.get?_set]
    split
    · rfl
    · exact i.requested c mem
  bundled := by
    refine forall_append_single (fun d mem b => ?_) fun _ => ⟨customId, item, by simp, isFor⟩
    obtain ⟨c, item', h, rest⟩ := i.bundled d mem b
    have ne : c ≠ customId := by
      intro same
      rw [same, new] at h
      cases h
    exact ⟨c, item', by rw [Dict.get?_set_ne _ _ (by simp [ne])]; exact h, rest⟩
  one c c' item₁ item₂ h h' same := by
    -- the new item is for an enrollment that no earlier item is for
    have apart (c : CustomId) (item' : GenerationBatchItem)
        (h : items.get? (batchId, c) = some item') : item'.enrollmentId ≠ item.enrollmentId := by
      obtain ⟨_, d, mem, _, isFor'⟩ := i.source c item' h
      rw [isFor'.1, isFor.1]
      exact fresh d mem
    simp only [Dict.get?_set, Prod.mk.injEq, true_and] at h h'
    split at h
    · split at h'
      · rename_i hc hc'
        rw [hc, hc']
      · cases h
        exact absurd same.symm (apart c' item₂ h')
    · split at h'
      · cases h'
        exact absurd same (apart c item₁ h)
      · exact i.one c c' item₁ item₂ h h' same
  nodup := by
    refine i.nodup.append (List.nodup_singleton _) ?_
    rw [List.disjoint_singleton]
    intro mem
    have some := i.requested customId mem
    rw [new] at some
    cases some

/-! ## A submission under way -/

/-- The session's database and requests after the enrollments in `done`. -/
structure Submitted (services : SubmitServices γ) (db : Database) (env : Env) (batchId : BatchId)
    (batch : GenerationBatch) (done : List Enrollment) (s : Submission) : Prop where
  view : s.db = { db with
    enrollments := s.db.enrollments, touches := s.db.touches, nextTouchId := s.db.nextTouchId
    batches := db.batches.set batchId batch, items := s.db.items }
  rows : RowsAfter db done s.db.enrollments
  touches : TouchesAfter db env done s.db.touches
  items : ItemsAfter services db env batchId done s.db.items s.requests

variable {batch : GenerationBatch} {s s' : Submission}

lemma alreadyBatched_iff {id : EnrollmentId} {stepNo : ℤ} : alreadyBatched db id stepNo = true ↔
    ∃ batchId customId item batch, db.items.get? (batchId, customId) = some item ∧
      item.enrollmentId = id ∧ item.stepNo = stepNo ∧ db.batches.get? batchId = some batch ∧
      batch.status ≠ .failed := by
  rw [alreadyBatched, List.any_eq_true]
  constructor
  · rintro ⟨⟨⟨b, c⟩, item⟩, mem, h⟩
    simp only [decide_eq_true_eq, Option.any_eq_true] at h
    obtain ⟨hid, hstep, batch, found, live⟩ := h
    exact ⟨b, c, item, batch, (Dict.mem_items_iff _).mp mem, hid, hstep, found, live⟩
  · rintro ⟨b, c, item, batch, found, hid, hstep, hbatch, live⟩
    refine ⟨((b, c), item), (Dict.mem_items_iff _).mpr found, ?_⟩
    simp [hid, hstep, hbatch, live]

lemma withinCooldown_iff {clientId : ClientId} : withinCooldown db env clientId = true ↔
    ∃ key touch, db.touches.get? key = some touch ∧
      (db.enrollments.get? key.1).map Enrollment.clientId = some clientId ∧
      touch.sentAt.any (env.now - env.campaignCooldownDays * microsecondsPerDay ≤ ·) = true := by
  rw [withinCooldown, List.any_eq_true]
  constructor
  · rintro ⟨⟨key, touch⟩, mem, h⟩
    simp only [decide_eq_true_eq, Option.any_eq_true] at h
    obtain ⟨⟨e, found, client⟩, lately⟩ := h
    refine ⟨key, touch, (Dict.mem_items_iff _).mp mem, by rw [found, Option.map_some, client], ?_⟩
    simpa only [Option.any_eq_true, decide_eq_true_eq] using lately
  · rintro ⟨key, touch, found, client, lately⟩
    obtain ⟨e, row, same⟩ := Option.map_eq_some_iff.mp client
    refine ⟨(key, touch), (Dict.mem_items_iff _).mpr found, ?_⟩
    simp only [row, same, Option.any_some, decide_true, true_and, decide_eq_true_eq]
    simpa only [Option.any_eq_true, decide_eq_true_eq] using lately

/-- For an enrollment not reached yet the session shows the gate what the start did. -/
lemma Submitted.gate (t : Submitted services db env batchId batch done s)
    (fresh : ∀ d ∈ done, d.enrollmentId ≠ e.enrollmentId) :
    checkEligibility s.db env e = checkEligibility db env e := by
  refine checkEligibility_view t.view ?_ ?_
  · exact t.touches.own e.enrollmentId fresh
  · rw [Bool.eq_iff_iff, withinCooldown_iff, withinCooldown_iff]
    constructor
    · rintro ⟨key, touch, found, client, lately⟩
      rw [t.rows.clients] at client
      cases t.touches.fresh key touch found with
      | inl old => exact ⟨key, touch, old, client, lately⟩
      | inr new =>
        rw [new.1] at lately
        cases lately
    · rintro ⟨key, touch, found, client, lately⟩
      rw [← t.rows.clients] at client
      exact ⟨key, touch, t.touches.kept key touch found, client, lately⟩

/-- And the same earlier batches. -/
lemma Submitted.batched (t : Submitted services db env batchId batch done s)
    (new : db.batches.get? batchId = none)
    (fresh : ∀ d ∈ done, d.enrollmentId ≠ e.enrollmentId) (stepNo : ℤ) :
    alreadyBatched s.db e.enrollmentId stepNo = alreadyBatched db e.enrollmentId stepNo := by
  have batches : s.db.batches = db.batches.set batchId batch := congrArg Database.batches t.view
  rw [Bool.eq_iff_iff, alreadyBatched_iff, alreadyBatched_iff, batches]
  constructor
  · rintro ⟨b, c, item, batch', found, hid, hstep, hbatch, live⟩
    cases eq_or_ne b batchId with
    | inl same =>
      subst same
      obtain ⟨_, d, mem, _, isFor⟩ := t.items.source c item found
      exact absurd (isFor.1.symm.trans hid) (fresh d mem)
    | inr ne =>
      rw [t.items.others b c ne] at found
      rw [Dict.get?_set_ne _ _ ne] at hbatch
      exact ⟨b, c, item, batch', found, hid, hstep, hbatch, live⟩
  · rintro ⟨b, c, item, batch', found, hid, hstep, hbatch, live⟩
    have ne : b ≠ batchId := by
      intro same
      rw [same, new] at hbatch
      cases hbatch
    refine ⟨b, c, item, batch', ?_, hid, hstep, ?_, live⟩
    · rw [t.items.others b c ne]
      exact found
    · rw [Dict.get?_set_ne _ _ ne]
      exact hbatch

lemma Submitted.product (t : Submitted services db env batchId batch done s) (clientId : ClientId) :
    resolveProduct s.db clientId = resolveProduct db clientId := by
  rw [resolveProduct, congrArg Database.features t.view, resolveProduct]

/-- A terminal status is one nothing leaves. -/
lemma isTerminal_of_stopped {status : EnrollmentStatus}
    (h : status = .excluded ∨ status ∈ stoppedStatuses) : status.isTerminal = true := by
  cases h with
  | inl excluded => rw [excluded]; rfl
  | inr stopped =>
    revert stopped
    revert status
    decide

lemma recordTouch_of_untouched {id : EnrollmentId} {stepNo : ℤ}
    (untouched : db.touches.get? (id, stepNo) = none) :
    recordTouch db id stepNo =
      ({ db.storeTouch (id, stepNo) { touchId := db.nextTouchId } with
          nextTouchId := db.nextTouchId + 1 }, { touchId := db.nextTouchId }) := by
  rw [recordTouch, untouched]

/-- A request that was built added an item when the context resolves, and nothing otherwise. -/
lemma buildRequest_ok {stepNo : ℤ} {channel : String}
    (h : buildRequest services batchId s e stepNo channel = .ok s') :
    (resolves services s.db e = false ∧ s'.db = s.db ∧ s'.requests = s.requests) ∨
      resolves services s.db e = true ∧ ∃ customId item,
        s.db.items.get? (batchId, customId) = none ∧ item.enrollmentId = e.enrollmentId ∧
        item.stepNo = stepNo ∧ s'.requests = s.requests ++ [customId] ∧
        s'.db = { s.db with items := s.db.items.set (batchId, customId) item } := by
  simp only [buildRequest] at h
  rw [resolves]
  split at h
  · rename_i failure hc
    cases h
    rw [hc]
    exact .inl ⟨rfl, rfl, rfl⟩
  · rename_i context hc
    rw [hc]
    split at h
    · cases h
    · split at h
      · rename_i leak
        cases h
        exact .inl ⟨by simp [leak], rfl, rfl⟩
      · rename_i clean
        split at h
        · cases h
        · rename_i unused
          cases h
          refine .inr ⟨by simp [clean], _, _, ?_, rfl, rfl, rfl, rfl⟩
          rw [Dict.get?_eq_none_iff, ← Dict.contains_iff]
          exact unused

/-- One turn of the loop keeps the description. -/
theorem Submitted.step (t : Submitted services db env batchId batch done s)
    (new : db.batches.get? batchId = none) {campaignId : CampaignId}
    (fresh : ∀ d ∈ done, d.enrollmentId ≠ e.enrollmentId)
    (row : db.enrollments.get? e.enrollmentId = some e)
    (h : submitOne services env campaignId batchId s e = .ok s') :
    Submitted services db env batchId batch (done ++ [e]) s' := by
  rw [submitOne, t.gate fresh] at h
  cases hg : checkEligibility db env e with
  | error error =>
    rw [hg] at h
    cases h
  | ok gate =>
    simp only [hg] at h
    have accepted : accepts db env e = gate.result.eligible := by rw [accepts, hg]
    split at h
    · -- skipped by the gate, which may have ended the enrollment
      rename_i skipped
      cases h
      have no : logsTouch db env e = false := by
        rw [logsTouch, accepted, Bool.eq_false_of_not_eq_true skipped, Bool.false_and]
      have outcome : gate.enrollment.enrollmentId = e.enrollmentId ∧
          gate.enrollment.clientId = e.clientId ∧
          (gate.enrollment = e ∨ gate.enrollment.status.isTerminal = true) := by
        cases checkEligibility_cases hg with
        | inl same => exact ⟨by rw [same], by rw [same], .inl same⟩
        | inr stopped =>
          obtain ⟨status, _, landing, same⟩ := stopped
          exact ⟨by rw [same], by rw [same], .inr (by rw [same]; exact isTerminal_of_stopped landing)⟩
      have rows := t.rows.write fresh row outcome.2.1 outcome.2.2
      rw [← outcome.1] at rows
      refine ⟨?_, rows, t.touches.same no, t.items.same (by rw [bundles, no, Bool.false_and])⟩
      simp only [Database.storeEnrollment]
      rw [t.view]
    · rename_i eligible
      have eligible' : gate.result.eligible = true := by simpa using eligible
      rw [t.batched new fresh] at h
      split at h
      · -- an earlier batch has the step
        rename_i batched
        cases h
        have no : logsTouch db env e = false := by
          rw [logsTouch, batched, Bool.not_true, Bool.and_false]
        exact ⟨t.view, t.rows.same fresh row, t.touches.same no,
          t.items.same (by rw [bundles, no, Bool.false_and])⟩
      · rename_i unbatched
        have yes : logsTouch db env e = true := by
          rw [logsTouch, accepted, eligible', Bool.eq_false_of_not_eq_true unbatched]
          rfl
        have gate' : checkEligibility s.db env e = .ok gate := by rw [t.gate fresh, hg]
        have untouched : s.db.touches.get? (e.enrollmentId, e.currentStep + 1) = none := by
          have h := (checkEligibility_eligible gate' eligible').2.2
          rwa [alreadyTouched, Option.isSome_eq_false_iff, Option.isNone_iff_eq_none] at h
        rw [recordTouch_of_untouched untouched] at h
        simp only [Option.isSome_none, Bool.false_eq_true, if_false] at h
        have touches := t.touches.log { touchId := s.db.nextTouchId } yes untouched rfl
        have resolved (q : Database) (same : q.features = s.db.features) :
            resolves services q e = resolves services db e := by
          have product : resolveProduct q e.clientId = resolveProduct db e.clientId := by
            rw [← t.product, resolveProduct, same, resolveProduct]
          rw [resolves, product, resolves]
        cases buildRequest_ok h with
        | inl skipped =>
          -- the touch is logged, nothing is bundled
          obtain ⟨no, sameDb, sameRequests⟩ := skipped
          have no' : resolves services db e = false := (resolved _ rfl).symm.trans no
          refine ⟨?_, ?_, ?_, ?_⟩
          · rw [sameDb]
            simp only [Database.storeTouch]
            rw [t.view]
          · rw [sameDb]
            exact t.rows.same fresh row
          · rw [sameDb]
            exact touches
          · rw [sameDb, sameRequests]
            exact t.items.same (by rw [bundles, no', Bool.and_false])
        | inr bundled =>
          obtain ⟨ok, customId, item, unused, hid, hstep, requests, db'⟩ := bundled
          have ok' : resolves services db e = true := (resolved _ rfl).symm.trans ok
          refine ⟨?_, ?_, ?_, ?_⟩
          · rw [db']
            simp only [Database.storeTouch]
            rw [t.view]
          · rw [db']
            exact t.rows.same fresh row
          · rw [db']
            exact touches
          · rw [db', requests]
            exact t.items.add fresh (by rw [bundles, yes, ok']; rfl) unused ⟨hid, hstep⟩

lemma Submitted.loop {campaignId : CampaignId} {rest : List Enrollment}
    (t : Submitted services db env batchId batch done s) (new : db.batches.get? batchId = none)
    (rows : ∀ e ∈ rest, db.enrollments.get? e.enrollmentId = some e)
    (distinct : ((done ++ rest).map Enrollment.enrollmentId).Nodup)
    (h : submitLoop services env campaignId batchId s rest = .ok s') :
    Submitted services db env batchId batch (done ++ rest) s' := by
  induction rest generalizing done s with
  | nil =>
    cases h
    rw [List.append_nil]
    exact t
  | cons e rest ih =>
    rw [submitLoop] at h
    cases hs : submitOne services env campaignId batchId s e with
    | error error =>
      rw [hs] at h
      cases h
    | ok s₁ =>
      rw [hs] at h
      have fresh : ∀ d ∈ done, d.enrollmentId ≠ e.enrollmentId := by
        intro d mem same
        rw [List.map_append, List.nodup_append] at distinct
        exact distinct.2.2 _ (List.mem_map_of_mem mem) _ (by simp) same
      have t₁ := t.step new fresh (rows e List.mem_cons_self) hs
      have distinct' : (((done ++ [e]) ++ rest).map Enrollment.enrollmentId).Nodup := by
        rw [List.append_assoc]
        exact distinct
      have last := ih t₁ (fun d mem => rows d (List.mem_cons_of_mem _ mem)) distinct' h
      rw [List.append_assoc] at last
      exact last

/-! ## Whole submissions -/

variable {campaignId : CampaignId} {limit : ℕ}

lemma mem_selectDue (keyed : db.WellKeyed)
    (h : e ∈ selectDueEnrollments db env (some campaignId) limit) :
    db.enrollments.get? e.enrollmentId = some e ∧ isDue db env e = true ∧
      e.campaignId = campaignId := by
  have mem := List.mem_of_mem_take h
  simp only [mem_sortBy, List.mem_filter, List.mem_map, decide_eq_true_eq, Option.all_some] at mem
  obtain ⟨⟨⟨id, e'⟩, listed, same⟩, due, campaign⟩ := mem
  cases same
  have found := (Dict.mem_items_iff _).mp listed
  exact ⟨by rw [keyed.enrollment id _ found]; exact found, due, campaign⟩

/-- An enrollment is selected, for a large enough limit, when it is on file and due. -/
lemma mem_selectDue_of_isDue {id : EnrollmentId} (row : db.enrollments.get? id = some e)
    (due : isDue db env e = true) (campaign : e.campaignId = campaignId) :
    ∃ limit, e ∈ selectDueEnrollments db env (some campaignId) limit := by
  refine ⟨(db.enrollments.items.map Prod.snd).length, ?_⟩
  rw [selectDueEnrollments, List.take_of_length_le]
  · rw [mem_sortBy, List.mem_filter, List.mem_map]
    refine ⟨⟨(id, e), (Dict.mem_items_iff _).mpr row, rfl⟩, ?_⟩
    simp [due, campaign]
  · rw [length_sortBy]
    exact List.length_filter_le _ _

lemma nodup_selectDue (keyed : db.WellKeyed) :
    ((selectDueEnrollments db env (some campaignId) limit).map Enrollment.enrollmentId).Nodup := by
  rw [selectDueEnrollments]
  refine ((List.take_sublist _ _).map _).nodup ?_
  rw [((sortBy_perm _ _).map Enrollment.enrollmentId).nodup_iff]
  refine (List.filter_sublist.map _).nodup ?_
  have keys : (db.enrollments.items.map Prod.snd).map Enrollment.enrollmentId =
      db.enrollments.items.map Prod.fst := by
    rw [List.map_map]
    refine List.map_congr_left fun ⟨id, e⟩ mem => ?_
    exact keyed.enrollment id e ((Dict.mem_items_iff _).mp mem)
  rw [keys]
  exact db.enrollments.nodup

/-- What a submission that returns has done. -/
theorem submitBatch_ok (keyed : db.WellKeyed)
    (h : submitBatch services db env campaignId limit batchId = .ok db') :
    db.batches.get? batchId = none ∧ ∃ s,
      Submitted services db env batchId (newBatch campaignId limit)
        (selectDueEnrollments db env (some campaignId) limit) s ∧
      db' = { s.db with
        batches := s.db.batches.set batchId
          (submittedBatch services (newBatch campaignId limit) s.requests) } := by
  rw [submitBatch] at h
  split at h
  · cases h
  · rename_i unused
    have new : db.batches.get? batchId = none := by
      rw [Dict.get?_eq_none_iff, ← Dict.contains_iff]
      exact unused
    refine ⟨new, ?_⟩
    simp only at h
    generalize hl : submitLoop services env campaignId batchId _ _ = out at h
    cases out with
    | error error => cases h
    | ok s =>
      cases h
      refine ⟨s, ?_, rfl⟩
      have none (customId : CustomId) : db.items.get? (batchId, customId) = none := by
        cases found : db.items.get? (batchId, customId) with
        | none => rfl
        | some item =>
          have known := keyed.item batchId customId item found
          rw [Dict.contains, new] at known
          cases known
      have start : Submitted services db env batchId (newBatch campaignId limit) []
          { db := { db with batches := db.batches.set batchId (newBatch campaignId limit) } } := by
        refine ⟨rfl, ⟨fun _ _ => rfl, fun _ => rfl, fun _ h => by cases h⟩,
          ⟨fun _ _ h => h, fun _ _ h => .inl h, fun _ h => (by cases h), fun _ _ => rfl⟩,
          ⟨fun _ _ _ => rfl, fun c item h => ?_, fun _ h => (by cases h), fun _ h => (by cases h),
            fun c _ item _ h => ?_, List.nodup_nil⟩⟩
        · cases (none c).symm.trans h
        · cases (none c).symm.trans h
      have last := start.loop new (fun e mem => (mem_selectDue keyed mem).1)
        (by rw [List.nil_append]; exact nodup_selectDue keyed) hl
      rw [List.nil_append] at last
      exact last

/-- A batch claims a step exactly when it bundles it, once, under its own custom id; and every other
    enrollment that was due is due still, unless the gate ended it. -/
structure ClaimsExactly (db db' : Database) (env : Env) (campaignId : CampaignId)
    (batchId : BatchId) : Prop where
  exact : ∀ id e, db.enrollments.get? id = some e →
    ((db.touches.get? e.nextTouch = none ∧ (db'.touches.get? e.nextTouch).isSome = true) ↔
      ∃ customId item, db'.items.get? (batchId, customId) = some item ∧ item.isFor e)
  one : ∀ customId customId' item item', db'.items.get? (batchId, customId) = some item →
    db'.items.get? (batchId, customId') = some item' → item.enrollmentId = item'.enrollmentId →
      customId = customId'
  distinct : ((batchItems db' batchId).map Prod.fst).Nodup
  count : ∃ batch, db'.batches.get? batchId = some batch ∧
    batch.requestedCount = (batchItems db' batchId).length
  due : ∀ limit e, e ∈ selectDueEnrollments db env (some campaignId) limit →
    (¬ ∃ customId item, db'.items.get? (batchId, customId) = some item ∧ item.isFor e) →
      ∃ e', db'.enrollments.get? e.enrollmentId = some e' ∧ (e'.status.isTerminal = true ∨
        ∃ limit', e' ∈ selectDueEnrollments db' env (some campaignId) limit')

/-- Two enrollments on file under one id are one. -/
lemma Database.WellKeyed.same_row {d : Enrollment} {id : EnrollmentId} (keyed : db.WellKeyed)
    (hd : db.enrollments.get? d.enrollmentId = some d) (he : db.enrollments.get? id = some e)
    (same : d.enrollmentId = e.enrollmentId) : d = e := by
  rw [same, keyed.enrollment id e he, he] at hd
  cases hd
  rfl

/-- A new touch is of a selected enrollment that logs one, and that enrollment's only. -/
lemma Submitted.newTouch {id : EnrollmentId} (keyed : db.WellKeyed)
    (t : Submitted services db env batchId batch
      (selectDueEnrollments db env (some campaignId) limit) s)
    (row : db.enrollments.get? id = some e) :
    (db.touches.get? e.nextTouch = none ∧ (s.db.touches.get? e.nextTouch).isSome = true) ↔
      e ∈ selectDueEnrollments db env (some campaignId) limit ∧ logsTouch db env e = true := by
  constructor
  · rintro ⟨none, some⟩
    obtain ⟨touch, found⟩ := Option.isSome_iff_exists.mp some
    cases t.touches.fresh _ touch found with
    | inl old => cases none.symm.trans old
    | inr new =>
      obtain ⟨_, d, mem, log, key⟩ := new
      have same : d = e :=
        keyed.same_row (mem_selectDue keyed mem).1 row (congrArg Prod.fst key).symm
      exact same ▸ ⟨mem, log⟩
  · rintro ⟨mem, log⟩
    exact t.touches.logged e mem log

/-- An item is for an enrollment exactly when that one was selected and bundled. -/
lemma Submitted.item_iff {id : EnrollmentId} (keyed : db.WellKeyed)
    (t : Submitted services db env batchId batch
      (selectDueEnrollments db env (some campaignId) limit) s)
    (row : db.enrollments.get? id = some e) :
    (∃ customId item, s.db.items.get? (batchId, customId) = some item ∧ item.isFor e) ↔
      e ∈ selectDueEnrollments db env (some campaignId) limit ∧
        bundles services db env e = true := by
  constructor
  · rintro ⟨customId, item, found, isFor⟩
    obtain ⟨_, d, mem, bundled, isFor'⟩ := t.items.source customId item found
    have same : d = e :=
      keyed.same_row (mem_selectDue keyed mem).1 row (isFor'.1.symm.trans isFor.1)
    exact same ▸ ⟨mem, bundled⟩
  · rintro ⟨mem, bundled⟩
    exact t.items.bundled e mem bundled

/-- An enrollment that was due and logged no touch is due still, or the gate ended it. -/
lemma Submitted.still_due {db₁ : Database} (keyed : db.WellKeyed)
    (t : Submitted services db env batchId batch
      (selectDueEnrollments db env (some campaignId) limit) s)
    (rows : db₁.enrollments = s.db.enrollments) (logs : db₁.touches = s.db.touches)
    (row : db.enrollments.get? e.enrollmentId = some e) (due : isDue db env e = true)
    (campaign : e.campaignId = campaignId)
    (unlogged : ¬ (e ∈ selectDueEnrollments db env (some campaignId) limit ∧
      logsTouch db env e = true)) :
    ∃ e', db₁.enrollments.get? e.enrollmentId = some e' ∧ (e'.status.isTerminal = true ∨
      ∃ limit', e' ∈ selectDueEnrollments db₁ env (some campaignId) limit') := by
  -- the row as it was is due, since no touch of its next step was logged
  have stays (found : db₁.enrollments.get? e.enrollmentId = some e) :
      ∃ limit', e ∈ selectDueEnrollments db₁ env (some campaignId) limit' := by
    refine mem_selectDue_of_isDue found ?_ campaign
    simp only [isDue, decide_eq_true_eq] at due ⊢
    refine ⟨due.1, due.2.1, due.2.2.1, ?_⟩
    cases h : db₁.touches.get? (e.enrollmentId, e.currentStep + 1) with
    | none => rfl
    | some touch =>
      rw [logs] at h
      exact absurd ((t.newTouch keyed row).mp ⟨due.2.2.2, Option.isSome_iff_exists.mpr ⟨_, h⟩⟩)
        unlogged
  cases Classical.em (∃ d ∈ selectDueEnrollments db env (some campaignId) limit,
      d.enrollmentId = e.enrollmentId) with
  | inl reached =>
    obtain ⟨d, mem, same⟩ := reached
    have same : d = e := keyed.same_row (mem_selectDue keyed mem).1 row same
    obtain ⟨e', found, outcome⟩ := t.rows.ended e (same ▸ mem)
    rw [← rows] at found
    refine ⟨e', found, ?_⟩
    cases outcome with
    | inl same =>
      rw [same] at found ⊢
      exact .inr (stays found)
    | inr ended => exact .inl ended
  | inr beyond =>
    have found : db₁.enrollments.get? e.enrollmentId = some e := by
      rw [rows, t.rows.others _ fun d mem same => beyond ⟨d, mem, same⟩, row]
    exact ⟨e, found, .inr (stays found)⟩

/-- The batch has as many items as the submission sent requests. -/
lemma Submitted.length_batchItems {db₁ : Database}
    (t : Submitted services db env batchId batch done s) (items : db₁.items = s.db.items) :
    (batchItems db₁ batchId).length = s.requests.length := by
  have same : ((batchItems db₁ batchId).map Prod.fst).Perm s.requests := by
    rw [List.perm_ext_iff_of_nodup nodup_batchItems t.items.nodup]
    intro customId
    constructor
    · intro mem
      obtain ⟨⟨c, item⟩, listed, rfl⟩ := List.mem_map.mp mem
      rw [mem_batchItems, items] at listed
      exact (t.items.source c item listed).1
    · intro mem
      obtain ⟨item, found⟩ := Option.isSome_iff_exists.mp (t.items.requested customId mem)
      rw [← items, ← mem_batchItems] at found
      exact List.mem_map_of_mem found
  simpa using same.length_eq

lemma requestedCount_submittedBatch :
    (submittedBatch services (newBatch campaignId limit) requests).requestedCount =
      requests.length := by
  rw [submittedBatch]
  split
  · rename_i nothing
    rw [nothing]
    rfl
  · rfl

/-- A submission claims exactly what it bundles when the context of every enrollment it logs a touch
    for resolves, and not otherwise. -/
theorem submitBatch_claimsExactly_iff (keyed : db.WellKeyed)
    (h : submitBatch services db env campaignId limit batchId = .ok db') :
    ClaimsExactly db db' env campaignId batchId ↔
      ∀ e ∈ selectDueEnrollments db env (some campaignId) limit,
        logsTouch db env e = true → resolves services db e = true := by
  obtain ⟨_, s, t, rfl⟩ := submitBatch_ok keyed h
  constructor
  · intro claims e mem log
    have row := (mem_selectDue keyed mem).1
    have item := (claims.exact _ e row).mp ((t.newTouch keyed row).mpr ⟨mem, log⟩)
    have bundled := ((t.item_iff keyed row).mp item).2
    rw [bundles, log, Bool.true_and] at bundled
    exact bundled
  · intro resolved
    have same {id : EnrollmentId} {e : Enrollment} (row : db.enrollments.get? id = some e) :
        (e ∈ selectDueEnrollments db env (some campaignId) limit ∧ logsTouch db env e = true) ↔
          ∃ customId item, s.db.items.get? (batchId, customId) = some item ∧ item.isFor e := by
      rw [t.item_iff keyed row]
      constructor
      · intro logged
        exact ⟨logged.1, by rw [bundles, logged.2, resolved e logged.1 logged.2]; rfl⟩
      · intro bundled
        refine ⟨bundled.1, ?_⟩
        have both := bundled.2
        rw [bundles, Bool.and_eq_true] at both
        exact both.1
    refine ⟨fun id e row => ?_, t.items.one, nodup_batchItems, ?_, fun limit' e mem other => ?_⟩
    · rw [← same row]
      exact t.newTouch keyed row
    · refine ⟨_, Dict.get?_set_self _ _ _, ?_⟩
      rw [requestedCount_submittedBatch]
      exact (t.length_batchItems rfl).symm
    · obtain ⟨row, due, campaign⟩ := mem_selectDue keyed mem
      rw [← same row] at other
      exact t.still_due keyed rfl rfl row due campaign other

/-! ## Whole ingestions -/

variable {δ : Type} {ingest : IngestServices δ} {waiting : Dict CustomId GenerationBatchItem}
  {results : List ProviderResult} {item : GenerationBatchItem} {customId : CustomId}

lemma items_pointTouch {key : EnrollmentId × ℤ} {id : MessageId} :
    (pointTouch db key id).items = db.items := by
  rw [pointTouch]
  split
  · rfl
  · rfl

/-- One result settles its item and no other. -/
lemma items_ingestOne {db₁ : Database} {outcome : BatchIngestOutcome} {result : ProviderResult}
    (h : ingestOne ingest db batchId batch item result = .ok (db₁, outcome)) :
    ∃ status, status ≠ ItemStatus.pending ∧
      db₁.items = db.items.set (batchId, result.customId) { item with status := status } := by
  unfold ingestOne persistResult at h
  split at h
  · cases h
  · cases hj : judge ingest item result with
    | error reason =>
      rw [hj] at h
      cases h
      exact ⟨.rejected, by decide, rfl⟩
    | ok id =>
      rw [hj] at h
      cases h
      refine ⟨.accepted, by decide, ?_⟩
      simp only [items_pointTouch]
      rfl

/-- The loop settles the waiting items that have a result and leaves every other one. -/
lemma items_ingestLoop {db₁ : Database} {outcomes : List BatchIngestOutcome}
    (h : ingestLoop ingest batchId batch waiting db results = .ok (db₁, outcomes))
    (customId : CustomId) :
    ((∃ item, waiting.get? customId = some item) ∧ customId ∈ results.map ProviderResult.customId →
      ∃ item, db₁.items.get? (batchId, customId) = some item ∧ item.status ≠ .pending) ∧
    (¬ ((∃ item, waiting.get? customId = some item) ∧
        customId ∈ results.map ProviderResult.customId) →
      db₁.items.get? (batchId, customId) = db.items.get? (batchId, customId)) := by
  induction results generalizing db outcomes with
  | nil =>
    cases h
    constructor
    · rintro ⟨_, mem⟩
      cases mem
    · exact fun _ => rfl
  | cons result rest ih =>
    rw [ingestLoop] at h
    cases hw : waiting.get? result.customId with
    | none =>
      -- a result nothing waits for
      rw [hw] at h
      have same : ((∃ item, waiting.get? customId = some item) ∧
          customId ∈ (result :: rest).map ProviderResult.customId) ↔
          (∃ item, waiting.get? customId = some item) ∧
            customId ∈ rest.map ProviderResult.customId := by
        rw [List.map_cons, List.mem_cons]
        refine and_congr_right fun ⟨item, found⟩ => or_iff_right fun h => ?_
        rw [h, hw] at found
        cases found
      rw [same]
      exact ih h
    | some item =>
      rw [hw] at h
      obtain ⟨⟨db₂, outcome⟩, one, h⟩ := bind_eq_ok.mp h
      obtain ⟨⟨db₃, outcomes'⟩, loop, same⟩ := map_eq_ok.mp h
      cases same
      obtain ⟨status, settled, items⟩ := items_ingestOne one
      obtain ⟨later, kept⟩ := ih loop
      cases Classical.em ((∃ item, waiting.get? customId = some item) ∧
          customId ∈ rest.map ProviderResult.customId) with
      | inl again =>
        refine ⟨fun _ => later again, fun no => absurd ⟨again.1, ?_⟩ no⟩
        rw [List.map_cons]
        exact List.mem_cons_of_mem _ again.2
      | inr done =>
        rw [kept done, items]
        cases eq_or_ne customId result.customId with
        | inl same =>
          -- settled by this result, for the last time
          subst same
          refine ⟨fun _ => ⟨_, Dict.get?_set_self _ _ _, settled⟩, fun no => absurd ⟨?_, ?_⟩ no⟩
          · exact ⟨item, hw⟩
          · simp
        | inr ne =>
          refine ⟨fun h => absurd ⟨h.1, ?_⟩ done, fun _ => Dict.get?_set_ne _ _ (by simp [ne])⟩
          have mem := h.2
          rw [List.map_cons, List.mem_cons] at mem
          exact mem.resolve_left ne

/-- An ingestion that ends a batch settles every item when every pending one has a result, and not
    otherwise. -/
theorem ingestBatch_settles_iff {provider : ProviderBatch} {outcomes : List BatchIngestOutcome}
    (h : ingestBatch ingest db batchId provider results = .ok (db', outcomes))
    (before : (db.batches.get? batchId).map GenerationBatch.status ≠ some .ingested)
    (after : (db'.batches.get? batchId).map GenerationBatch.status = some .ingested) :
    (∀ customId item, db'.items.get? (batchId, customId) = some item → item.status ≠ .pending) ↔
      ∀ customId item, db.items.get? (batchId, customId) = some item → item.status = .pending →
        customId ∈ results.map ProviderResult.customId := by
  rw [ingestBatch] at h
  split at h
  · cases h
  · split at h
    · cases h
      exact absurd after before
    · split at h
      · cases h
        simp only [Dict.get?_set_self, Option.map_some, Option.some.injEq] at after
        cases after
      · obtain ⟨⟨db₁, outcomes'⟩, looped, same⟩ := map_eq_ok.mp h
        cases same
        have loop := items_ingestLoop looped
        constructor
        · intro settled customId item listed pending
          by_contra missing
          have same := (loop customId).2 fun reached => missing reached.2
          exact settled customId item (same.trans listed) pending
        · intro answered customId item listed
          cases Classical.em ((∃ item, (pendingItems db batchId).get? customId = some item) ∧
              customId ∈ results.map ProviderResult.customId) with
          | inl reached =>
            obtain ⟨item', found', settled⟩ := (loop customId).1 reached
            have listed' : _ = some item := listed
            rw [found'] at listed'
            cases listed'
            exact settled
          | inr no =>
            have same := (loop customId).2 no
            have old : db.items.get? (batchId, customId) = some item := same.symm.trans listed
            intro pending
            exact no ⟨⟨item, get?_pendingItems.mpr ⟨old, pending⟩⟩,
              answered customId item old pending⟩

/-- A submission claims exactly what it bundles when every context it needs resolves, an ingestion
    settles every item when every pending one has a result, and neither does otherwise. -/
theorem batch_claims_what_it_bundles (services : SubmitServices γ) (ingest : IngestServices δ)
    (keyed : db.WellKeyed) :
    (∀ db', submitBatch services db env campaignId limit batchId = .ok db' →
      (ClaimsExactly db db' env campaignId batchId ↔
        ∀ e ∈ selectDueEnrollments db env (some campaignId) limit,
          logsTouch db env e = true → resolves services db e = true)) ∧
    ∀ provider results db' outcomes,
      ingestBatch ingest db batchId provider results = .ok (db', outcomes) →
      (db.batches.get? batchId).map GenerationBatch.status ≠ some .ingested →
      (db'.batches.get? batchId).map GenerationBatch.status = some .ingested →
      ((∀ customId item, db'.items.get? (batchId, customId) = some item → item.status ≠ .pending) ↔
        ∀ customId item, db.items.get? (batchId, customId) = some item → item.status = .pending →
          customId ∈ results.map ProviderResult.customId) :=
  ⟨fun _ h => submitBatch_claimsExactly_iff keyed h,
    fun _ _ _ _ h before after => ingestBatch_settles_iff h before after⟩

/-! ## A client whose facts are missing, and a result that never came -/

/-- One due enrollment in a running campaign of one step. -/
def oneDue : Database where
  campaigns := .ofList [(1, { status := .running })]
  steps := .ofList [((1, 1), { offsetDays := 0 })]
  enrollments := .ofList [(7, vanishing)]
  features := .ofList [(5, { purchaseDepth := "deep" })]

/-- A loader that finds a context for every client, or for none. -/
def loader (finds : Bool) : SubmitServices Unit where
  loadContext _ _ := if finds then .ok () else .error "no llm_client_context row"
  leaksInbound _ := false
  createBatch _ := "provider-1"
  uuid n := "run-" ++ String.ofList (List.replicate n 'x')

/-- One batch the provider has, with one item. -/
def oneItem : Database where
  batches := .ofList [("b1", { campaignId := 1, requestedLimit := 10, requestedCount := 1
                               providerBatchId := some "provider-1", status := .submitted })]
  items := .ofList [(("b1", "run-"), { clientId := 5, enrollmentId := 7, stepNo := 1
                                       product := "other", channel := "email" })]

def acceptAll : IngestServices Unit where
  scanOutbound _ := none
  parse _ _ := .ok ()
  guardrails _ := []
  createMessage _ _ := .ok "m1"

lemma oneDue_wellKeyed : oneDue.WellKeyed where
  enrollment id e found := by
    have listed := Dict.mem_of_get?_ofList found
    rw [List.mem_singleton] at listed
    cases listed
    rfl
  item _ _ _ found := by cases found

/-- The touch is logged, nothing is bundled and nothing is due any more; and a batch is ingested with
    its item pending. -/
theorem batch_claims_without_bundling :
    (∃ db', submitBatch (loader false) oneDue dayFour 1 10 "b1" = .ok db' ∧
      (selectDueEnrollments oneDue dayFour (some 1) 10).map Enrollment.enrollmentId = [7] ∧
      (db'.touches.get? (7, 1)).isSome = true ∧ batchItems db' "b1" = [] ∧
      selectDueEnrollments db' dayFour (some 1) 10 = []) ∧
    ∃ db', ingestBatch acceptAll oneItem "b1" { ended := true } [] = .ok (db', []) ∧
      (db'.batches.get? "b1").map GenerationBatch.status = some .ingested ∧
      (batchItems db' "b1").map (fun i => i.2.status) = [.pending] := by
  constructor
  · exact ⟨_, rfl, rfl, rfl, rfl, rfl⟩
  · exact ⟨_, rfl, rfl, rfl⟩

/-- With a loader that finds the context, the batch claims exactly what it bundles. -/
theorem batch_claims_what_it_bundles_oneDue :
    ∃ db', submitBatch (loader true) oneDue dayFour 1 10 "b1" = .ok db' ∧
      (batchItems db' "b1").length = 1 ∧ ClaimsExactly oneDue db' dayFour 1 "b1" := by
  have returned : submitBatch (loader true) oneDue dayFour 1 10 "b1" = .ok _ := rfl
  refine ⟨_, returned, rfl, ?_⟩
  have whole := (batch_claims_what_it_bundles (loader true) acceptAll oneDue_wellKeyed).1 _ returned
  exact whole.mpr fun _ _ _ => rfl

end ClientEngagement.Campaigns
