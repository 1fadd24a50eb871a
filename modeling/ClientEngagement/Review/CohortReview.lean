import ClientEngagement.Lib.Runs
import ClientEngagement.Review.Decisions

/-!
# Cohort review

What a cohort's status says about its messages, over any run of the workflow. A completed cohort never
has a pending message that is not a sample (`Sound`). The other two statuses are kept by the calls of
`CohortGuard` only: while a cohort is sampling it has a pending sample, and none once its remainder may
be approved (`Tidy`). A draft that arrives in between, or a batch that decides the last sample, breaks
that (`cohort_review_breaks`).
-/

namespace ClientEngagement.Review
open Campaigns (CampaignId ClientId MessageId MessageStatus Database)

/-! ## The invariants -/

/-- Pending messages are in cohorts on file, and in a completed cohort they are samples. -/
structure Sound (s : Store) : Prop where
  known : ∀ cohortId isSample, pendingIn s cohortId isSample ≠ [] →
    (s.cohorts.get? cohortId).isSome = true
  completed : ∀ cohortId cohort, s.cohorts.get? cohortId = some cohort →
    cohort.status = .completed → pendingIn s cohortId false = []

/-- A sampling cohort has a pending sample, and one whose remainder may be approved has none. -/
structure Tidy (s : Store) : Prop where
  sampling : ∀ cohortId cohort, s.cohorts.get? cohortId = some cohort →
    cohort.status = .sampling → pendingIn s cohortId true ≠ []
  ready : ∀ cohortId cohort, s.cohorts.get? cohortId = some cohort →
    cohort.status = .readyToApproveRest → pendingIn s cohortId true = []

/-- No message arrives in a cohort whose remainder may be approved, and no batch decides the last
    pending samples of a cohort that is sampling. -/
def CohortGuard (s : Store) : ReviewCall → Prop
  | .create campaignId (some tier) => ∀ cohortId cohort,
      findCohort s campaignId tier = some (cohortId, cohort) → cohort.status ≠ .readyToApproveRest
  | .decideBatch ids .approve => ∀ cohortId cohort, s.cohorts.get? cohortId = some cohort →
      cohort.status = .sampling → ∃ id ∈ pendingIn s cohortId true, id ∉ ids
  | _ => True

/-- A workflow in which nothing was drafted yet. -/
structure Unstarted (s : Store) : Prop where
  messages : s.messages = .empty
  cohorts : s.cohorts = .empty

/-! ## Pending messages -/

variable {s s' : Store} {id newMessage : MessageId} {cohortId : CohortId} {isSample : Bool}
  {outcome : Outcome} {reviewerId : String} {reason : Option String}

lemma mem_pendingIn : id ∈ pendingIn s cohortId isSample ↔
    ∃ message, s.messages.get? id = some message ∧ message.cohortId = some cohortId ∧
      message.isSample = isSample ∧ message.status = .pendingReview := by
  simp only [pendingIn, List.mem_map, List.mem_filter, decide_eq_true_eq]
  constructor
  · intro ⟨⟨key, message⟩, ⟨listed, pending⟩, same⟩
    cases same
    exact ⟨message, s.messages.mem_items_iff.mp listed, pending⟩
  · intro ⟨message, found, pending⟩
    exact ⟨(id, message), ⟨s.messages.mem_items_iff.mpr found, pending⟩, rfl⟩

/-- Pending messages depend on the message rows only. -/
lemma pendingIn_congr (same : s'.messages = s.messages) :
    pendingIn s' cohortId isSample = pendingIn s cohortId isSample := by
  rw [pendingIn, pendingIn, same]

lemma decided_not_pending (message : OutreachMessage) (outcome : Outcome) :
    (message.decided outcome).status ≠ .pendingReview := by
  cases outcome with
  | approve => nofun
  | editApprove => nofun
  | reject => nofun
  | escalate => nofun
  | hold => nofun

/-- A decision takes its message off the pending ones. -/
lemma Decided.mem_pendingIn {edited : Option (Dict String Json)} {message : OutreachMessage}
    {action : ReviewAction} {key : MessageId}
    (decided : Decided s id outcome edited message action s') :
    key ∈ pendingIn s' cohortId isSample ↔ key ≠ id ∧ key ∈ pendingIn s cohortId isSample := by
  rw [Review.mem_pendingIn, Review.mem_pendingIn, decided.left]
  simp only [Dict.get?_set]
  cases eq_or_ne key id with
  | inl same =>
    rw [if_pos same]
    constructor
    · intro ⟨row, found, _, _, pending⟩
      cases found
      exact absurd pending (decided_not_pending message outcome)
    · intro ⟨ne, _⟩
      exact absurd same ne
  | inr ne =>
    rw [if_neg ne]
    exact ⟨fun h => ⟨ne, h⟩, fun h => h.2⟩

/-- A new message is pending where its slot says. -/
lemma mem_pendingIn_set {message : OutreachMessage} {runId : RunId} {run : GenerationRun}
    {campaignId : CampaignId} {channel : String} {slot : CohortSlot} {key : MessageId}
    (fresh : s.messages.get? newMessage = none)
    (drafted : Drafted message runId run campaignId channel slot)
    (rows : s'.messages = s.messages.set newMessage message) :
    key ∈ pendingIn s' cohortId isSample ↔
      key = newMessage ∧ slot = ⟨some cohortId, isSample⟩ ∨ key ∈ pendingIn s cohortId isSample := by
  rw [mem_pendingIn, mem_pendingIn, rows]
  simp only [Dict.get?_set]
  cases eq_or_ne key newMessage with
  | inl same =>
    subst same
    rw [if_pos rfl, fresh]
    constructor
    · intro ⟨row, found, inCohort, sample, _⟩
      cases found
      refine .inl ⟨rfl, ?_⟩
      cases slot with
      | mk slotCohort slotSample =>
        rw [drafted.cohortId] at inCohort
        rw [drafted.isSample] at sample
        simp only at inCohort sample
        rw [inCohort, sample]
    · intro h
      cases h with
      | inl placed =>
        obtain ⟨_, same⟩ := placed
        subst same
        exact ⟨message, rfl, drafted.cohortId, drafted.isSample, drafted.pending⟩
      | inr there =>
        obtain ⟨_, absent, _⟩ := there
        cases absent
  | inr ne =>
    rw [if_neg ne]
    constructor
    · exact .inr
    · intro h
      exact h.resolve_left fun placed => ne placed.1

/-- A decision that a batch can take decides the message or leaves the store. -/
lemma decideEach_cons {id : MessageId} {ids : List MessageId} :
    (∃ s₁ message action, Decided s id outcome none message action s₁ ∧
      (decideEach s outcome reviewerId reason (id :: ids)).1 =
        (decideEach s₁ outcome reviewerId reason ids).1) ∨
    (∃ error, decideMessage s id outcome reviewerId reason none = .error error) ∧
      (decideEach s outcome reviewerId reason (id :: ids)).1 =
        (decideEach s outcome reviewerId reason ids).1 := by
  rw [decideEach]
  cases h : decideMessage s id outcome reviewerId reason none with
  | ok decided =>
    obtain ⟨message, wrote⟩ := decideMessage_ok h
    exact .inl ⟨decided.1, message, decided.2, wrote, rfl⟩
  | error error => exact .inr ⟨⟨error, rfl⟩, rfl⟩

/-- A batch leaves the cohorts. -/
lemma decideEach_cohorts (s : Store) (ids : List MessageId) :
    (decideEach s outcome reviewerId reason ids).1.cohorts = s.cohorts := by
  induction ids generalizing s with
  | nil => rfl
  | cons id ids ih =>
    rcases decideEach_cons with ⟨s₁, message, action, decided, same⟩ | ⟨_, same⟩
    · rw [same, ih, decided.left]
    · rw [same, ih]

/-- Of the pending messages a batch leaves those that are not in it, and no others. -/
lemma mem_pendingIn_decideEach {key : MessageId} (s : Store) (ids : List MessageId) :
    (key ∈ pendingIn (decideEach s outcome reviewerId reason ids).1 cohortId isSample →
      key ∈ pendingIn s cohortId isSample) ∧
    (key ∉ ids → key ∈ pendingIn s cohortId isSample →
      key ∈ pendingIn (decideEach s outcome reviewerId reason ids).1 cohortId isSample) := by
  induction ids generalizing s with
  | nil => exact ⟨fun h => h, fun _ h => h⟩
  | cons id ids ih =>
    rcases decideEach_cons with ⟨s₁, message, action, decided, same⟩ | ⟨_, same⟩
    · rw [same]
      refine ⟨fun h => (decided.mem_pendingIn.mp ((ih s₁).1 h)).2, fun out h => ?_⟩
      obtain ⟨ne, rest⟩ := not_or.mp (mt List.mem_cons.mpr out)
      exact (ih s₁).2 rest (decided.mem_pendingIn.mpr ⟨ne, h⟩)
    · rw [same]
      exact ⟨(ih s).1, fun out => (ih s).2 fun mem => out (List.mem_cons_of_mem _ mem)⟩

/-- What a batch approves is not pending afterwards. -/
lemma approved_not_pending {key : MessageId} {ids : List MessageId} (s : Store) (mem : key ∈ ids) :
    key ∉ pendingIn (decideEach s .approve reviewerId reason ids).1 cohortId isSample := by
  induction ids generalizing s with
  | nil => cases mem
  | cons id ids ih =>
    intro pending
    rcases decideEach_cons with ⟨s₁, message, action, decided, same⟩ | ⟨⟨error, refused⟩, same⟩
    · rw [same] at pending
      cases List.mem_cons.mp mem with
      | inl here => exact (decided.mem_pendingIn.mp ((mem_pendingIn_decideEach s₁ ids).1 pending)).1 here
      | inr later => exact ih s₁ later pending
    · rw [same] at pending
      cases List.mem_cons.mp mem with
      | inl here =>
        subst here
        obtain ⟨message, found, _, _, waits⟩ :=
          mem_pendingIn.mp ((mem_pendingIn_decideEach s ids).1 pending)
        have decides : ∃ s₁ action,
            decideMessage s _ .approve reviewerId reason none = .ok (s₁, action) :=
          decideMessage_approve found (by rw [waits]; decide)
        obtain ⟨s₁, action, ok⟩ := decides
        cases ok.symm.trans refused
      | inr later => exact ih s later pending

/-- Outcomes that are not for cohorts decide no cohort message. -/
lemma mem_pendingIn_disallowed {key : MessageId} (disallowed : outcome ∈ cohortDisallowedOutcomes)
    (s : Store) (ids : List MessageId) (pending : key ∈ pendingIn s cohortId isSample) :
    key ∈ pendingIn (decideEach s outcome reviewerId reason ids).1 cohortId isSample := by
  induction ids generalizing s with
  | nil => exact pending
  | cons id ids ih =>
    rcases decideEach_cons with ⟨s₁, message, action, decided, same⟩ | ⟨_, same⟩
    · rw [same]
      apply ih
      refine decided.mem_pendingIn.mpr ⟨?_, pending⟩
      intro here
      subst here
      obtain ⟨row, found, inCohort, _⟩ := mem_pendingIn.mp pending
      cases found.symm.trans decided.found
      exact decided.allowed (by rw [inCohort]; rfl) disallowed
    · rw [same]
      exact ih s pending

/-! ## The steps -/

lemma cohorts_setStatus (s : Store) (cohortId : CohortId) (status : CohortStatus) :
    (s.setStatus cohortId status).cohorts.get? id =
      if id = cohortId then (s.cohorts.get? id).map fun cohort => { cohort with status := status }
      else s.cohorts.get? id := by
  rw [Store.setStatus]
  split
  · rename_i absent
    split
    · rename_i same
      rw [same, absent, Option.map_none]
    · rfl
  · rename_i cohort found
    simp only [Dict.get?_set]
    split
    · rename_i same
      rw [same, found, Option.map_some]
    · rfl

lemma messages_setStatus (s : Store) (cohortId : CohortId) (status : CohortStatus) :
    (s.setStatus cohortId status).messages = s.messages := by
  rw [Store.setStatus]
  split
  · rfl
  · rfl

/-- What the check after a decision does: nothing, unless the last pending sample of a cohort that is
    sampling was decided. -/
lemma checkCohortReady_cases (s : Store) (message : OutreachMessage) :
    ((checkCohortReady s message).1 = s ∧ ∀ cohortId cohort, message.cohortId = some cohortId →
      message.isSample = true → s.cohorts.get? cohortId = some cohort →
        cohort.status = .sampling → pendingIn s cohortId true ≠ []) ∨
    ∃ cohortId status, message.cohortId = some cohortId ∧
      (checkCohortReady s message).1 = s.setStatus cohortId status ∧
      pendingIn s cohortId true = [] ∧
      (status = .completed ∧ pendingIn s cohortId false = [] ∨ status = .readyToApproveRest) := by
  rw [checkCohortReady]
  cases inCohort : message.cohortId with
  | none => exact .inl ⟨rfl, nofun⟩
  | some cohortId =>
    dsimp only
    split
    · rename_i other
      refine .inl ⟨rfl, fun _ _ _ sample => absurd sample other⟩
    · cases found : s.cohorts.get? cohortId with
      | none =>
        refine .inl ⟨rfl, ?_⟩
        intro _ _ same _ there
        cases same
        cases found.symm.trans there
      | some cohort =>
        dsimp only
        split
        · rename_i past
          refine .inl ⟨rfl, ?_⟩
          intro _ _ same _ there sampling
          cases same
          cases found.symm.trans there
          exact absurd sampling past
        · split
          · rename_i pending
            refine .inl ⟨rfl, ?_⟩
            intro _ _ same _ _ _
            cases same
            exact pending
          · rename_i noSamples
            split
            · rename_i noRest
              exact .inr ⟨_, _, rfl, rfl, not_not.mp noSamples, .inl ⟨rfl, noRest⟩⟩
            · exact .inr ⟨_, _, rfl, rfl, not_not.mp noSamples, .inr rfl⟩

/-- A stored draft without a cohort changes no cohort's messages, one with a cohort adds to it. -/
lemma create_cases {env : Env} {runId : RunId} {run : GenerationRun} {campaignId : CampaignId}
    {channel : String} {callBrief : Option String} {newCohort : CohortId} {made : Option MessageId}
    (freshMessage : s.messages.get? newMessage = none)
    (created : createOutreachMessage env s runId run campaignId channel callBrief none newMessage
      newCohort = .ok (s', made)) :
    (s'.cohorts = s.cohorts ∧ ∀ c b key, key ∈ pendingIn s' c b ↔ key ∈ pendingIn s c b) ∨
    ∃ tier cohortId cohort sample, run.priorityTier = some tier ∧
      s'.cohorts = s.cohorts.set cohortId
        { cohort with assignedCount := cohort.assignedCount + 1 } ∧
      (∀ c b key, key ∈ pendingIn s' c b ↔
        key = newMessage ∧ c = cohortId ∧ b = sample ∨ key ∈ pendingIn s c b) ∧
      ((findCohort s campaignId tier = some (cohortId, cohort) ∧
          s.cohorts.get? cohortId = some cohort ∧ (cohort.status ≠ .sampling → sample = true)) ∨
        cohortId = newCohort ∧ cohort.status = .sampling ∧ sample = true) := by
  rcases createOutreachMessage_ok created with ⟨_, refused, left⟩ |
    ⟨_, message, claimed, slot, claim, drafted, left⟩
  · refine .inl ⟨by rw [left], fun c b key => ?_⟩
    have rows : s'.messages = s.messages := by rw [left]
    rw [pendingIn_congr rows]
  · cases drawn : run.priorityTier with
    | none =>
      rw [claimSlot, drawn] at claim
      cases claim
      refine .inl ⟨by rw [left], fun c b key => ?_⟩
      rw [mem_pendingIn_set freshMessage drafted (by rw [left])]
      constructor
      · intro h
        exact h.resolve_left fun placed => by cases placed.2
      · exact .inr
    | some tier =>
      rw [claimSlot, drawn] at claim
      obtain ⟨cohortId, cohort, sample, did, where_⟩ :=
        @resolveCohortSlot_some env s campaignId tier newCohort
      have first : (resolveCohortSlot env s campaignId (some tier) newCohort).1 = claimed :=
        congrArg Prod.fst claim
      have second : (resolveCohortSlot env s campaignId (some tier) newCohort).2 = slot :=
        congrArg Prod.snd claim
      rw [first, second] at did
      refine .inr ⟨tier, cohortId, cohort, sample, rfl, by rw [left, did.left], ?_, where_⟩
      intro c b key
      rw [mem_pendingIn_set freshMessage drafted (by rw [left, did.left]), did.slot]
      constructor
      · intro h
        refine h.imp_left fun placed => ?_
        cases placed.2
        exact ⟨placed.1, rfl, rfl⟩
      · intro h
        refine h.imp_left fun placed => ?_
        obtain ⟨here, inCohort, same⟩ := placed
        rw [inCohort, same]
        exact ⟨here, rfl⟩

/-- A fresh draft takes the place of the old one. -/
lemma mem_pendingIn_regenerate {env : Env} {state : GenerationState} {fresh : MessageId}
    (cohortId : CohortId) (isSample : Bool) (key : MessageId)
    (freshMessage : s.messages.get? newMessage = none)
    (regenerated : regenerateMessage env s id state newMessage = .ok (s', fresh)) :
    s'.cohorts = s.cohorts ∧ (key ∈ pendingIn s' cohortId isSample ↔
      key = newMessage ∧ id ∈ pendingIn s cohortId isSample ∨
        key ≠ id ∧ key ∈ pendingIn s cohortId isSample) := by
  obtain ⟨_, message, new, run, found, pending, drafted, -, left⟩ := regenerateMessage_ok regenerated
  have ne : newMessage ≠ id := by
    intro same
    rw [same, found] at freshMessage
    cases freshMessage
  refine ⟨by rw [left], ?_⟩
  rw [mem_pendingIn, mem_pendingIn, mem_pendingIn, left]
  simp only [Dict.get?_erase, Dict.get?_set, found]
  cases eq_or_ne key id with
  | inl same =>
    subst same
    simp [ne.symm]
  | inr other =>
    rw [if_neg other]
    cases eq_or_ne key newMessage with
    | inl same =>
      subst same
      rw [if_pos rfl, freshMessage]
      simp [drafted.cohortId, drafted.isSample, drafted.pending, pending]
    | inr old =>
      rw [if_neg old]
      simp [old, other]

/-- Deciding through the endpoint is deciding, then checking the message's cohort. -/
lemma decideReview_ok {edited : Option (Dict String Json)}
    {result : ReviewAction × Option CohortReadyInfo}
    (h : decideReview s id outcome reviewerId reason edited = .ok (s', result)) :
    ∃ message action s₁, Decided s id outcome edited message action s₁ ∧
      s' = (checkCohortReady s₁ message).1 := by
  obtain ⟨row, got, h⟩ := bind_eq_ok.mp h
  obtain ⟨⟨s₁, action⟩, decided, h⟩ := map_eq_ok.mp h
  obtain ⟨message, wrote⟩ := decideMessage_ok decided
  have same : row = message := by
    rw [getMessage, wrote.found] at got
    cases got
    rfl
  subst same
  exact ⟨row, action, s₁, wrote, (congrArg Prod.fst h).symm⟩

/-- Approving a remainder approves every pending message that is not a sample, then closes the
    cohort. -/
lemma approveCohortRemainder_ok {result : BatchDecideResult}
    (h : approveCohortRemainder s cohortId reviewerId = .ok (s', result)) :
    ∃ cohort, s.cohorts.get? cohortId = some cohort ∧ cohort.status = .readyToApproveRest ∧
      s' = (decideEach s .approve reviewerId (some "cohort sample approved")
        (pendingIn s cohortId false)).1.setStatus cohortId .completed := by
  rw [approveCohortRemainder] at h
  split at h
  · cases h
  · rename_i cohort found
    split at h
    · cases h
    · rename_i ready
      obtain ⟨⟨last, outcomes⟩, batch, h⟩ := map_eq_ok.mp h
      rw [decideBatch, if_neg (by decide)] at batch
      cases h
      refine ⟨cohort, found, not_not.mp ready, ?_⟩
      rw [Except.ok.inj batch]

lemma approveCohortRemainder_of_ready {cohort : ReviewCohort}
    (found : s.cohorts.get? cohortId = some cohort) (ready : cohort.status = .readyToApproveRest) :
    ∃ s' result, approveCohortRemainder s cohortId reviewerId = .ok (s', result) := by
  rw [approveCohortRemainder, found]
  dsimp only
  rw [if_neg (not_not.mpr ready), decideBatch, if_neg (by decide)]
  exact ⟨_, _, rfl⟩

lemma decideBatch_ok {ids : List MessageId} {result : BatchDecideResult}
    (h : decideBatch s ids outcome reviewerId reason = .ok (s', result)) :
    outcome ≠ .editApprove ∧ s' = (decideEach s outcome reviewerId reason ids).1 := by
  rw [decideBatch] at h
  split at h
  · cases h
  · rename_i other
    exact ⟨other, (congrArg Prod.fst (Except.ok.inj h)).symm⟩

namespace Sound

/-- Nothing new pending, the same cohorts. -/
lemma shrink (sound : Sound s) (cohorts : s'.cohorts = s.cohorts)
    (sub : ∀ c b key, key ∈ pendingIn s' c b → key ∈ pendingIn s c b) : Sound s' where
  known c b some_pending := by
    obtain ⟨key, mem⟩ := List.exists_mem_of_ne_nil _ some_pending
    rw [cohorts]
    exact sound.known c b (List.ne_nil_of_mem (sub c b key mem))
  completed c cohort found closed := by
    rw [cohorts] at found
    apply List.eq_nil_iff_forall_not_mem.mpr
    intro key mem
    have before := sub c false key mem
    rw [sound.completed c cohort found closed] at before
    cases before

lemma setStatus (sound : Sound s) {status : CohortStatus}
    (closes : status = .completed → pendingIn s cohortId false = []) :
    Sound (s.setStatus cohortId status) where
  known c b some_pending := by
    rw [pendingIn_congr (messages_setStatus s cohortId status)] at some_pending
    rw [cohorts_setStatus]
    have there := sound.known c b some_pending
    split
    · rw [Option.isSome_map]
      exact there
    · exact there
  completed c cohort found closed := by
    rw [pendingIn_congr (messages_setStatus s cohortId status)]
    rw [cohorts_setStatus] at found
    split at found
    · rename_i same
      obtain ⟨before, _, eq⟩ := Option.map_eq_some_iff.mp found
      rw [same]
      apply closes
      rw [← closed, ← eq]
    · exact sound.completed c cohort found closed

/-- Every call of the workflow keeps the invariant. -/
theorem step {call : ReviewCall} (sound : Sound s) (st : ReviewStep s call s') : Sound s' := by
  cases st with
  | create freshMessage freshCohort created =>
    rcases create_cases freshMessage created with ⟨cohorts, same⟩ |
      ⟨tier, c, cohort, sample, -, cohorts, placed, where_⟩
    · exact sound.shrink cohorts fun c b key => (same c b key).mp
    · constructor
      · intro c' b some_pending
        obtain ⟨key, mem⟩ := List.exists_mem_of_ne_nil _ some_pending
        rw [cohorts, Dict.get?_set]
        split
        · rfl
        · rename_i other
          cases (placed c' b key).mp mem with
          | inl new => exact absurd new.2.1 other
          | inr old => exact sound.known c' b (List.ne_nil_of_mem old)
      · intro c' cohort' found closed
        apply List.eq_nil_iff_forall_not_mem.mpr
        intro key mem
        rw [cohorts, Dict.get?_set] at found
        split at found
        · rename_i same
          subst same
          cases found
          -- a completed cohort is on file, so its new message is a sample
          rcases where_ with ⟨_, onFile, past⟩ | ⟨_, sampling, _⟩
          · cases (placed c' false key).mp mem with
            | inl new =>
              have sampled := past (by rw [closed]; decide)
              rw [sampled] at new
              cases new.2.2
            | inr old =>
              rw [sound.completed c' cohort onFile closed] at old
              cases old
          · cases sampling.symm.trans closed
        · rename_i other
          cases (placed c' false key).mp mem with
          | inl new => exact other new.2.1
          | inr old =>
            rw [sound.completed c' cohort' found closed] at old
            cases old
  | @regenerate _ id _ newMessage _ _ freshMessage regenerated =>
    have effect (c b key) := mem_pendingIn_regenerate c b key freshMessage regenerated
    have cohorts := (effect "" false id).1
    constructor
    · intro c b some_pending
      obtain ⟨key, mem⟩ := List.exists_mem_of_ne_nil _ some_pending
      rw [cohorts]
      rcases (effect c b key).2.mp mem with ⟨_, old⟩ | ⟨_, old⟩
      · exact sound.known c b (List.ne_nil_of_mem old)
      · exact sound.known c b (List.ne_nil_of_mem old)
    · intro c cohort found closed
      rw [cohorts] at found
      apply List.eq_nil_iff_forall_not_mem.mpr
      intro key mem
      have none_before := sound.completed c cohort found closed
      rcases (effect c false key).2.mp mem with ⟨_, old⟩ | ⟨_, old⟩
      · rw [none_before] at old
        cases old
      · rw [none_before] at old
        cases old
  | decide decided =>
    obtain ⟨message, action, s₁, wrote, left⟩ := decideReview_ok decided
    have sound₁ : Sound s₁ := sound.shrink (by rw [wrote.left]) fun c b key mem =>
      (wrote.mem_pendingIn.mp mem).2
    rcases checkCohortReady_cases s₁ message with ⟨same, _⟩ | ⟨c, status, _, moved, _, why⟩
    · rw [left, same]
      exact sound₁
    · rw [left, moved]
      apply sound₁.setStatus
      intro closed
      cases why with
      | inl done => exact done.2
      | inr ready => cases ready.symm.trans closed
  | @decideBatch ids _ _ _ _ _ decided =>
    rw [(decideBatch_ok decided).2]
    exact sound.shrink (decideEach_cohorts s ids) fun c b key => (mem_pendingIn_decideEach s ids).1
  | @approveRemainder c reviewer _ _ approved =>
    obtain ⟨cohort, _, _, left⟩ := approveCohortRemainder_ok approved
    have sound₁ : Sound (decideEach s .approve reviewer (some "cohort sample approved")
        (pendingIn s c false)).1 := by
      apply sound.shrink (decideEach_cohorts s _)
      intro c' b key
      exact (mem_pendingIn_decideEach s _).1
    rw [left]
    apply sound₁.setStatus
    intro _
    apply List.eq_nil_iff_forall_not_mem.mpr
    intro key mem
    exact approved_not_pending s ((mem_pendingIn_decideEach s _).1 mem) mem
  | others messages cohorts actions =>
    apply sound.shrink cohorts
    intro c b key mem
    rwa [pendingIn_congr messages] at mem

end Sound

namespace Tidy

lemma setStatus (tidy : Tidy s) {status : CohortStatus} (past : status ≠ .sampling)
    (decided : status = .readyToApproveRest → pendingIn s cohortId true = []) :
    Tidy (s.setStatus cohortId status) where
  sampling c cohort found sampling := by
    rw [pendingIn_congr (messages_setStatus s cohortId status)]
    rw [cohorts_setStatus] at found
    split at found
    · obtain ⟨before, _, eq⟩ := Option.map_eq_some_iff.mp found
      rw [← eq] at sampling
      exact absurd sampling past
    · exact tidy.sampling c cohort found sampling
  ready c cohort found ready := by
    rw [pendingIn_congr (messages_setStatus s cohortId status)]
    rw [cohorts_setStatus] at found
    split at found
    · rename_i same
      obtain ⟨before, _, eq⟩ := Option.map_eq_some_iff.mp found
      rw [same]
      apply decided
      rw [← ready, ← eq]
    · exact tidy.ready c cohort found ready

/-- The same cohorts, no new pending samples, and the sampling cohorts keep one. -/
lemma keep (tidy : Tidy s) (cohorts : s'.cohorts = s.cohorts)
    (sub : ∀ c cohort, s.cohorts.get? c = some cohort → cohort.status = .readyToApproveRest →
      ∀ key, key ∈ pendingIn s' c true → ∃ key', key' ∈ pendingIn s c true)
    (left : ∀ c cohort, s.cohorts.get? c = some cohort → cohort.status = .sampling →
      pendingIn s' c true ≠ []) : Tidy s' where
  sampling c cohort found sampling := by
    rw [cohorts] at found
    exact left c cohort found sampling
  ready c cohort found ready := by
    rw [cohorts] at found
    apply List.eq_nil_iff_forall_not_mem.mpr
    intro key mem
    obtain ⟨key', before⟩ := sub c cohort found ready key mem
    rw [tidy.ready c cohort found ready] at before
    cases before

/-- Every call that meets the condition keeps the invariant. -/
theorem step {call : ReviewCall} (tidy : Tidy s) (guard : CohortGuard s call)
    (st : ReviewStep s call s') : Tidy s' := by
  cases st with
  | @create env runId run campaignId _ _ newMessage newCohort _ _ freshMessage freshCohort created =>
    rcases create_cases freshMessage created with ⟨cohorts, same⟩ |
      ⟨tier, c, cohort, sample, drawn, cohorts, placed, where_⟩
    · refine tidy.keep cohorts (fun c _ _ _ key mem => ⟨key, (same c true key).mp mem⟩) ?_
      intro c cohort found sampling
      obtain ⟨key, mem⟩ := List.exists_mem_of_ne_nil _ (tidy.sampling c cohort found sampling)
      exact List.ne_nil_of_mem ((same c true key).mpr mem)
    · rw [drawn] at guard
      constructor
      · intro c' cohort' found sampling
        rw [cohorts, Dict.get?_set] at found
        split at found
        · rename_i here
          subst here
          cases found
          rcases where_ with ⟨_, onFile, _⟩ | ⟨_, _, first⟩
          · obtain ⟨key, mem⟩ := List.exists_mem_of_ne_nil _ (tidy.sampling c' cohort onFile sampling)
            exact List.ne_nil_of_mem ((placed c' true key).mpr (.inr mem))
          · exact List.ne_nil_of_mem ((placed c' true newMessage).mpr (.inl ⟨rfl, rfl, first.symm⟩))
        · obtain ⟨key, mem⟩ := List.exists_mem_of_ne_nil _ (tidy.sampling c' cohort' found sampling)
          exact List.ne_nil_of_mem ((placed c' true key).mpr (.inr mem))
      · intro c' cohort' found ready
        rw [cohorts, Dict.get?_set] at found
        split at found
        · cases found
          rcases where_ with ⟨isIts, onFile, _⟩ | ⟨_, sampling, _⟩
          · exact absurd ready (guard c cohort isIts)
          · cases sampling.symm.trans ready
        · rename_i other
          apply List.eq_nil_iff_forall_not_mem.mpr
          intro key mem
          cases (placed c' true key).mp mem with
          | inl new => exact other new.2.1
          | inr old =>
            rw [tidy.ready c' cohort' found ready] at old
            cases old
  | @regenerate _ id _ newMessage _ _ freshMessage regenerated =>
    have effect (c key) := mem_pendingIn_regenerate c true key freshMessage regenerated
    apply tidy.keep (effect "" id).1
    · intro c cohort found ready key mem
      rcases (effect c key).2.mp mem with ⟨_, old⟩ | ⟨_, old⟩
      · exact ⟨id, old⟩
      · exact ⟨key, old⟩
    · intro c cohort found sampling
      obtain ⟨key, mem⟩ := List.exists_mem_of_ne_nil _ (tidy.sampling c cohort found sampling)
      cases eq_or_ne key id with
      | inl same =>
        subst same
        exact List.ne_nil_of_mem ((effect c newMessage).2.mpr (.inl ⟨rfl, mem⟩))
      | inr other => exact List.ne_nil_of_mem ((effect c key).2.mpr (.inr ⟨other, mem⟩))
  | @decide id _ _ _ _ _ _ decided =>
    obtain ⟨message, action, s₁, wrote, left⟩ := decideReview_ok decided
    have cohorts : s₁.cohorts = s.cohorts := by rw [wrote.left]
    have ready₁ : ∀ c cohort, s₁.cohorts.get? c = some cohort → cohort.status = .readyToApproveRest →
        pendingIn s₁ c true = [] := by
      intro c cohort found ready
      rw [cohorts] at found
      apply List.eq_nil_iff_forall_not_mem.mpr
      intro key mem
      have before := (wrote.mem_pendingIn.mp mem).2
      rw [tidy.ready c cohort found ready] at before
      cases before
    -- only the message's own cohort can have lost its last pending sample
    have sampling₁ : ∀ c cohort, s₁.cohorts.get? c = some cohort → cohort.status = .sampling →
        pendingIn s₁ c true ≠ [] ∨ message.cohortId = some c ∧ message.isSample = true := by
      intro c cohort found sampling
      rw [cohorts] at found
      obtain ⟨key, mem⟩ := List.exists_mem_of_ne_nil _ (tidy.sampling c cohort found sampling)
      cases eq_or_ne key id with
      | inl same =>
        subst same
        obtain ⟨row, there, inCohort, sample, _⟩ := mem_pendingIn.mp mem
        cases there.symm.trans wrote.found
        exact .inr ⟨inCohort, sample⟩
      | inr other => exact .inl (List.ne_nil_of_mem (wrote.mem_pendingIn.mpr ⟨other, mem⟩))
    rcases checkCohortReady_cases s₁ message with ⟨same, open_⟩ | ⟨c, status, inCohort, moved, none_left, why⟩
    · rw [left, same]
      refine ⟨fun c cohort found sampling => ?_, ready₁⟩
      cases sampling₁ c cohort found sampling with
      | inl more => exact more
      | inr its => exact open_ c cohort its.1 its.2 found sampling
    · rw [left, moved]
      constructor
      · intro c' cohort' found sampling
        rw [pendingIn_congr (messages_setStatus s₁ c status)]
        rw [cohorts_setStatus] at found
        split at found
        · obtain ⟨before, _, eq⟩ := Option.map_eq_some_iff.mp found
          rw [← eq] at sampling
          rcases why with ⟨closed, _⟩ | closed
          · cases closed.symm.trans sampling
          · cases closed.symm.trans sampling
        · rename_i other
          cases sampling₁ c' cohort' found sampling with
          | inl more => exact more
          | inr its =>
            cases inCohort.symm.trans its.1
            exact absurd rfl other
      · intro c' cohort' found ready
        rw [pendingIn_congr (messages_setStatus s₁ c status)]
        rw [cohorts_setStatus] at found
        split at found
        · rename_i here
          rw [here]
          exact none_left
        · exact ready₁ c' cohort' found ready
  | @decideBatch ids outcome reviewer reason _ _ decided =>
    obtain ⟨other, left⟩ := decideBatch_ok decided
    rw [left]
    apply tidy.keep (decideEach_cohorts s ids)
    · intro c cohort found ready key mem
      exact ⟨key, (mem_pendingIn_decideEach s ids).1 mem⟩
    · intro c cohort found sampling
      have stay (refused : outcome ∈ cohortDisallowedOutcomes) :
          pendingIn (decideEach s outcome reviewer reason ids).1 c true ≠ [] := by
        obtain ⟨key, mem⟩ := List.exists_mem_of_ne_nil _ (tidy.sampling c cohort found sampling)
        exact List.ne_nil_of_mem (mem_pendingIn_disallowed refused s ids mem)
      cases outcome with
      | approve =>
        obtain ⟨key, mem, out⟩ := guard c cohort found sampling
        exact List.ne_nil_of_mem ((mem_pendingIn_decideEach s ids).2 out mem)
      | editApprove => exact absurd rfl other
      | reject => exact stay (by decide)
      | escalate => exact stay (by decide)
      | hold => exact stay (by decide)
  | @approveRemainder c reviewer _ _ approved =>
    obtain ⟨cohort, found, ready, left⟩ := approveCohortRemainder_ok approved
    rw [left]
    refine setStatus ?_ (by decide) (fun h => by cases h)
    apply tidy.keep (decideEach_cohorts s _)
    · intro c' cohort' _ _ key mem
      exact ⟨key, (mem_pendingIn_decideEach s _).1 mem⟩
    · intro c' cohort' found' sampling
      obtain ⟨key, mem⟩ := List.exists_mem_of_ne_nil _ (tidy.sampling c' cohort' found' sampling)
      refine List.ne_nil_of_mem ((mem_pendingIn_decideEach s _).2 ?_ mem)
      -- a sample is not in the remainder
      intro rest
      obtain ⟨row, there, _, sample, _⟩ := mem_pendingIn.mp mem
      obtain ⟨row', there', _, noSample, _⟩ := mem_pendingIn.mp rest
      cases there.symm.trans there'
      cases sample.symm.trans noSample
  | others messages cohorts actions =>
    apply tidy.keep cohorts
    · intro c _ _ _ key mem
      rw [pendingIn_congr messages] at mem
      exact ⟨key, mem⟩
    · intro c cohort found sampling
      rw [pendingIn_congr messages]
      exact tidy.sampling c cohort found sampling

end Tidy

/-! ## Over a run -/

lemma Unstarted.sound (fresh : Unstarted s) : Sound s where
  known c b some_pending := by
    rw [pendingIn, fresh.messages] at some_pending
    exact absurd rfl some_pending
  completed c cohort found _ := by
    rw [fresh.cohorts] at found
    cases found

lemma Unstarted.tidy (fresh : Unstarted s) : Tidy s where
  sampling c cohort found _ := by
    rw [fresh.cohorts] at found
    cases found
  ready c cohort found _ := by
    rw [fresh.cohorts] at found
    cases found

/-- No message that is not a sample is left pending in a completed cohort. While every call meets the
    condition, a remainder is approved only when no sample of the cohort is pending, a cohort whose
    samples are decided can be approved if it has messages left, and whatever the default queue does
    not show is behind a pending sample or ready to be approved. -/
theorem cohort_review {start : Store} (fresh : Unstarted start) :
    (∀ calls s, Run ReviewStep start calls s → ∀ cohortId cohort,
      s.cohorts.get? cohortId = some cohort → cohort.status = .completed →
        pendingIn s cohortId false = []) ∧
    ∀ calls s, Run (Guarded CohortGuard ReviewStep) start calls s → ∀ cohortId,
      (∀ reviewerId s' result, approveCohortRemainder s cohortId reviewerId = .ok (s', result) →
        pendingIn s cohortId true = []) ∧
      (∀ cohort, s.cohorts.get? cohortId = some cohort → pendingIn s cohortId true = [] →
        pendingIn s cohortId false ≠ [] → cohort.status = .readyToApproveRest) ∧
      (pendingIn s cohortId false ≠ [] → pendingIn s cohortId true ≠ [] ∨
        ∃ cohort, s.cohorts.get? cohortId = some cohort ∧ cohort.status = .readyToApproveRest) := by
  constructor
  · intro calls s r cohortId cohort found closed
    have sound := r.invariant Sound fresh.sound fun _ _ _ h st => h.step st
    exact sound.completed cohortId cohort found closed
  · intro calls s r cohortId
    have sound := r.of_guarded.invariant Sound fresh.sound fun _ _ _ h st => h.step st
    have tidy := r.invariant Tidy fresh.tidy fun _ _ _ h st => h.step st.1 st.2
    have ready (cohort : ReviewCohort) (found : s.cohorts.get? cohortId = some cohort)
        (decided : pendingIn s cohortId true = []) (rest : pendingIn s cohortId false ≠ []) :
        cohort.status = .readyToApproveRest := by
      cases status : cohort.status with
      | sampling => exact absurd decided (tidy.sampling cohortId cohort found status)
      | readyToApproveRest => rfl
      | completed => exact absurd (sound.completed cohortId cohort found status) rest
    refine ⟨fun reviewerId s' result approved => ?_, ready, fun rest => ?_⟩
    · obtain ⟨cohort, found, may, _⟩ := approveCohortRemainder_ok approved
      exact tidy.ready cohortId cohort found may
    · obtain ⟨cohort, found⟩ := Option.isSome_iff_exists.mp (sound.known cohortId false rest)
      cases eq_or_ne (pendingIn s cohortId true) [] with
      | inl decided => exact .inr ⟨cohort, found, ready cohort found decided rest⟩
      | inr pending => exact .inl pending

/-! ## Two histories -/

/-- Every second message of a tier is a sample. -/
def sampleStart : Store where
  tiers :=
    { rows := [Rules.Store.publishedRow 1 0 none 0 "hot_leads"
        { displayName := "Hot leads", primaryChannel := "email", secondaryChannel := none
          maxWords := 100, signOff := "Regards", humanApproval := true, reviewSampleRate := 1
          cohortSampleRate := some (1 / 2) }]
      active := .empty
      unique := by decide }

def sampleEnv : Env where
  today := 0
  format :=
    { amount := fun _ => "", general := fun _ => "", plain := fun _ => "", month := fun _ => "" }
  roundInverse := fun _ => 2

def sampleRun : GenerationRun where
  clientId := 1
  priorityTier := some "hot_leads"
  angle := none
  status := .accepted
  aiDraftContent := .ofList [("body", "Hi")]

/-- The store once one more draft is stored, under its id. -/
def arrive (s : Store) (id : MessageId) : Store :=
  match createOutreachMessage sampleEnv s "run" sampleRun 1 "email" none none id id with
  | .ok (s', _) => s'
  | .error _ => s

/-- Whether the draft is stored. -/
def isStored (s : Store) (id : MessageId) : Bool :=
  match createOutreachMessage sampleEnv s "run" sampleRun 1 "email" none none id id with
  | .ok (_, some _) => true
  | _ => false

lemma arrives {s : Store} {id : MessageId} (stored : isStored s id = true) :
    createOutreachMessage sampleEnv s "run" sampleRun 1 "email" none none id id =
      .ok (arrive s id, some id) := by
  rw [isStored] at stored
  rw [arrive]
  split at stored
  · rename_i s' made created
    rw [created]
    rcases createOutreachMessage_ok created with ⟨none_made, _⟩ | ⟨same, _⟩
    · cases none_made
    · rw [same]
  · cases stored

/-- A sample and a message that rides on it. -/
def twoArrived : Store := arrive (arrive sampleStart "m1") "m2"

/-- The sample is approved, one by one or in a batch. -/
def singlyDecided : Store :=
  match decideReview twoArrived "m1" .approve "reviewer" none none with
  | .ok (s', _) => s'
  | .error _ => twoArrived

def batchDecided : Store :=
  match decideBatch twoArrived ["m1"] .approve "reviewer" none with
  | .ok (s', _) => s'
  | .error _ => twoArrived

lemma reaches_twoArrived :
    Run (Guarded CohortGuard ReviewStep) sampleStart
      [.create 1 (some "hot_leads"), .create 1 (some "hot_leads")] twoArrived := by
  have first : isStored sampleStart "m1" = true := by decide +kernel
  have second : isStored (arrive sampleStart "m1") "m2" = true := by decide +kernel
  have guard₁ : CohortGuard sampleStart (.create 1 (some "hot_leads")) := nofun
  have guard₂ : CohortGuard (arrive sampleStart "m1") (.create 1 (some "hot_leads")) := by
    intro cohortId cohort found
    cases found
    decide
  exact .snoc (.snoc .nil ⟨guard₁, .create rfl rfl (arrives first)⟩)
    ⟨guard₂, .create rfl rfl (arrives second)⟩

lemma reaches_singlyDecided :
    Run (Guarded CohortGuard ReviewStep) sampleStart
      [.create 1 (some "hot_leads"), .create 1 (some "hot_leads"), .decide "m1" .approve none]
      singlyDecided := by
  have decided : ∃ result, decideReview twoArrived "m1" .approve "reviewer" none none =
      .ok (singlyDecided, result) := ⟨_, rfl⟩
  obtain ⟨result, decided⟩ := decided
  exact .snoc reaches_twoArrived ⟨trivial, .decide decided⟩

/-- Once the sample is approved, the other message can be approved with it. -/
theorem cohort_review_sample :
    ∃ cohort, singlyDecided.cohorts.get? "m1" = some cohort ∧
      cohort.status = .readyToApproveRest := by
  have fresh : Unstarted sampleStart := ⟨rfl, rfl⟩
  have law := ((cohort_review fresh).2 _ _ reaches_singlyDecided "m1").2.1
  have decided : pendingIn singlyDecided "m1" true = [] := by decide +kernel
  have rest : pendingIn singlyDecided "m1" false ≠ [] := by decide +kernel
  have there : (singlyDecided.cohorts.get? "m1").isSome = true := by decide +kernel
  obtain ⟨cohort, found⟩ := Option.isSome_iff_exists.mp there
  exact ⟨cohort, found, law cohort found decided rest⟩

/-- A remainder is approved while a sample that arrived late is pending, and a batch that decides the
    sample leaves the other message out of reach. -/
theorem cohort_review_breaks :
    (∃ calls s s' result, Run ReviewStep sampleStart calls s ∧
      approveCohortRemainder s "m1" "reviewer" = .ok (s', result) ∧ pendingIn s "m1" true ≠ []) ∧
    ∃ calls s cohort, Run ReviewStep sampleStart calls s ∧
      s.cohorts.get? "m1" = some cohort ∧ pendingIn s "m1" true = [] ∧
      pendingIn s "m1" false ≠ [] ∧ cohort.status = .sampling := by
  constructor
  · have late : isStored singlyDecided "m3" = true := by decide +kernel
    have newMessage : (singlyDecided.messages.get? "m3").isNone = true := by decide +kernel
    have newCohort : (singlyDecided.cohorts.get? "m3").isNone = true := by decide +kernel
    have arrived := reaches_singlyDecided.of_guarded.snoc (.create
      (Option.isNone_iff_eq_none.mp newMessage) (Option.isNone_iff_eq_none.mp newCohort) (arrives late))
    have pending : pendingIn (arrive singlyDecided "m3") "m1" true ≠ [] := by decide +kernel
    have ready : ((arrive singlyDecided "m3").cohorts.get? "m1").map ReviewCohort.status =
        some .readyToApproveRest := by decide +kernel
    obtain ⟨cohort, found, status⟩ := Option.map_eq_some_iff.mp ready
    have approves : ∃ s' result, approveCohortRemainder (arrive singlyDecided "m3") "m1" "reviewer" =
        .ok (s', result) := approveCohortRemainder_of_ready found status
    obtain ⟨s', result, approved⟩ := approves
    exact ⟨_, arrive singlyDecided "m3", s', result, arrived, approved, pending⟩
  · have decided : ∃ result, decideBatch twoArrived ["m1"] .approve "reviewer" none =
        .ok (batchDecided, result) := ⟨_, rfl⟩
    obtain ⟨result, decided⟩ := decided
    have batched := reaches_twoArrived.of_guarded.snoc (.decideBatch decided)
    have noSample : pendingIn batchDecided "m1" true = [] := by decide +kernel
    have rest : pendingIn batchDecided "m1" false ≠ [] := by decide +kernel
    have sampling : (batchDecided.cohorts.get? "m1").map ReviewCohort.status = some .sampling := by
      decide +kernel
    obtain ⟨cohort, found, status⟩ := Option.map_eq_some_iff.mp sampling
    exact ⟨_, batchDecided, cohort, batched, found, noSample, rest, status⟩

end ClientEngagement.Review
