import ClientEngagement.Review.Decisions

/-!
# Reviewers at the same time

The endpoints of `api/routers/review.py` as transactions at READ COMMITTED: `decide`, `decide_batch`,
`approve_cohort_remainder` and `regenerate_message` read what is committed at the time, under their own
writes, and write when they commit. The row locks between a flush and its commit only make others wait, so
the order of the commits is all that counts; the foreign key of `review_action` refuses a decision on a
deleted message and the deletion of a decided one. Each decision is the `decideMessage` of the sequential
model, on the tables the transaction sees. `decisions_are_final` says when decisions stay as they were made.
-/

namespace ClientEngagement.Review
open Campaigns (MessageId MessageStatus)

/-- A decision with its `created_at`, the start of its transaction. -/
structure StampedAction extends ReviewAction where
  createdAt : ℕ

/-- The committed tables. -/
structure ReviewTables where
  messages : Dict MessageId OutreachMessage
  runs : Dict RunId GenerationRun := .empty
  cohorts : Dict CohortId ReviewCohort := .empty
  actions : List StampedAction := []

def ReviewTables.store (tables : ReviewTables) : Store where
  messages := tables.messages
  runs := tables.runs
  cohorts := tables.cohorts
  actions := tables.actions.map StampedAction.toReviewAction

/-- A request that decides messages. `wrote` holds the statuses it changes, `made` its decisions. -/
structure Deciding where
  outcome : Outcome
  reviewerId : String
  reason : Option String := none
  editedContent : Option (Dict String Json) := none
  begun : ℕ
  listing : Option CohortId := none
  todo : List MessageId := []
  wrote : Dict MessageId MessageStatus := .empty
  made : List ReviewAction := []

inductive Transaction where
  | deciding (request : Deciding)
  | regenerating (id : MessageId)

structure Shared where
  tables : ReviewTables
  transactions : Dict ℕ Transaction := .empty
  clock : ℕ := 0

/-! ## The requests -/

inductive Request where
  | decide (id : MessageId) (outcome : Outcome) (reviewerId : String) (reason : Option String)
      (editedContent : Option (Dict String Json))
  | decideBatch (ids : List MessageId) (outcome : Outcome) (reviewerId : String)
      (reason : Option String)
  | approveRemainder (cohortId : CohortId) (reviewerId : String)
  | regenerate (id : MessageId)

/-- What a request does up to its first read, if it is not refused. -/
def openRequest (tables : ReviewTables) (clock : ℕ) : Request → Option Transaction
  | .decide id outcome reviewerId reason editedContent =>
    some (.deciding
      { outcome, reviewerId, reason, editedContent
        begun := clock
        todo := [id] })
  | .decideBatch ids outcome reviewerId reason =>
    if outcome = .editApprove then none
    else
      some (.deciding
        { outcome, reviewerId, reason
          begun := clock
          todo := ids })
  | .approveRemainder cohortId reviewerId =>
    if (tables.cohorts.get? cohortId).map ReviewCohort.status = some .readyToApproveRest then
      some (.deciding
        { outcome := .approve
          reviewerId := reviewerId
          reason := some "cohort sample approved"
          begun := clock
          listing := some cohortId })
    else none
  | .regenerate id =>
    if (tables.messages.get? id).map (·.status) = some .pendingReview then some (.regenerating id)
    else none

/-- The messages under a transaction's own writes. -/
def underWrites (messages : Dict MessageId OutreachMessage) (wrote : Dict MessageId MessageStatus) :
    Dict MessageId OutreachMessage :=
  messages.mapEntries fun id message => { message with status := (wrote.get? id).getD message.status }

def ReviewTables.seenBy (tables : ReviewTables) (request : Deciding) : ReviewTables :=
  { tables with messages := underWrites tables.messages request.wrote }

/-- Decides the next message on the tables as they are seen; one that cannot be decided is skipped. A
    status that stays as it was read is not written. -/
def decideNext (tables : ReviewTables) (request : Deciding) (id : MessageId) (ids : List MessageId) :
    Deciding :=
  let seen := (tables.seenBy request).store
  match decideMessage seen id request.outcome request.reviewerId request.reason
    request.editedContent with
  | .error _ => { request with todo := ids }
  | .ok (_, action) =>
    { request with
      todo := ids
      made := request.made ++ [action]
      wrote :=
        if (seen.messages.get? id).map (·.status) = some (statusForOutcome request.outcome) then
          request.wrote
        else request.wrote.set id (statusForOutcome request.outcome) }

def stamp (request : Deciding) (action : ReviewAction) : StampedAction :=
  { action with createdAt := request.begun }

/-- The tables after the commit of a request's decisions. -/
def ReviewTables.decided (tables : ReviewTables) (request : Deciding) : ReviewTables :=
  { tables with
    messages := underWrites tables.messages request.wrote
    actions := tables.actions ++ request.made.map (stamp request) }

inductive ReviewLabel where
  | begin (request : Request)
  | list (n : ℕ)
  | decideNext (n : ℕ)
  | commit (n : ℕ)
  | rollback (n : ℕ)
  | moveCohort (cohortId : CohortId) (status : CohortStatus)

/-- The statements of the open transactions in any order. `check_cohort_ready` moves cohorts on. -/
inductive TransactionStep (s : Shared) : ReviewLabel → Shared → Prop where
  | begin {request transaction}
      (opened : openRequest s.tables s.clock request = some transaction) :
      TransactionStep s (.begin request)
        { s with
          transactions := s.transactions.set s.clock transaction
          clock := s.clock + 1 }
  | list {n request cohortId} (running : s.transactions.get? n = some (.deciding request))
      (listing : request.listing = some cohortId) :
      TransactionStep s (.list n)
        { s with transactions := s.transactions.set n (.deciding
          { request with
            listing := none
            todo := pendingIn s.tables.store cohortId false }) }
  | decideNext {n request id ids} (running : s.transactions.get? n = some (.deciding request))
      (next : request.todo = id :: ids) :
      TransactionStep s (.decideNext n)
        { s with transactions :=
            s.transactions.set n (.deciding (decideNext s.tables request id ids)) }
  | commitDecisions {n request} (running : s.transactions.get? n = some (.deciding request))
      (listed : request.listing = none) (done : request.todo = [])
      (foreignKey : ∀ action ∈ request.made, action.messageId ∈ s.tables.messages.keys) :
      TransactionStep s (.commit n)
        { s with
          tables := s.tables.decided request
          transactions := s.transactions.erase n }
  | commitRegenerate {n id newMessage draft}
      (running : s.transactions.get? n = some (.regenerating id))
      (foreignKey : ∀ action ∈ s.tables.actions, action.messageId ≠ id)
      (fresh : newMessage ∉ s.tables.messages.keys) (pending : draft.status = .pendingReview) :
      TransactionStep s (.commit n)
        { s with
          tables := { s.tables with messages := (s.tables.messages.erase id).set newMessage draft }
          transactions := s.transactions.erase n }
  | rollback {n} : TransactionStep s (.rollback n)
      { s with transactions := s.transactions.erase n }
  | moveCohort {cohortId cohort status} (found : s.tables.cohorts.get? cohortId = some cohort) :
      TransactionStep s (.moveCohort cohortId status)
        { s with tables :=
            { s.tables with
              cohorts := s.tables.cohorts.set cohortId { cohort with status := status } } }

/-! ## What is final -/

def actionsOn (tables : ReviewTables) (id : MessageId) : List StampedAction :=
  tables.actions.filter fun action => action.messageId = id

/-- Every decision made on a message, oldest first (`get_review_history`). -/
def reviewHistory (tables : ReviewTables) (id : MessageId) : List StampedAction :=
  sortBy StampedAction.createdAt (actionsOn tables id)

/-- An approving or rejecting outcome. -/
def Outcome.isFinal (outcome : Outcome) : Bool := statusForOutcome outcome ∈ terminalStatuses

structure Final (tables : ReviewTables) : Prop where
  once : ∀ id, ((actionsOn tables id).filter fun action => action.outcome.isFinal).length ≤ 1
  agrees : ∀ id message action, tables.messages.get? id = some message →
    (reviewHistory tables id).getLast? = some action → message.status = statusForOutcome action.outcome

/-- What later tables keep of earlier ones. -/
structure Keeps (tables later : ReviewTables) : Prop where
  status : ∀ id message, tables.messages.get? id = some message → message.status ∈ terminalStatuses →
    ∃ message', later.messages.get? id = some message' ∧ message'.status = message.status
  decided : ∀ action ∈ tables.actions, action ∈ later.actions ∧ action.messageId ∈ later.messages.keys

/-- Messages as they are drafted: pending, with no decision and nobody at work. -/
structure Untouched (s : Shared) : Prop where
  pending : ∀ id message, s.tables.messages.get? id = some message → message.status = .pendingReview
  undecided : s.tables.actions = []
  idle : s.transactions = .empty

/-- A request may still commit its decisions: each message is undecided, with the status that is not
    written, and no decision of a later request is there yet. -/
structure InTime (tables : ReviewTables) (request : Deciding) : Prop where
  undecided : ∀ action ∈ request.made, ∀ message, tables.messages.get? action.messageId = some message →
    message.status ∉ terminalStatuses
  unwritten : ∀ action ∈ request.made, ∀ message, tables.messages.get? action.messageId = some message →
    action.messageId ∉ request.wrote.keys → message.status = statusForOutcome request.outcome
  latest : ∀ action ∈ request.made, ∀ earlier ∈ tables.actions,
    earlier.messageId = action.messageId → earlier.createdAt ≤ request.begun

def CommitsInTime (s : Shared) : ReviewLabel → Prop
  | .commit n => ∀ request, s.transactions.get? n = some (.deciding request) → InTime s.tables request
  | _ => True

/-! ## One request -/

variable {s t u : Shared} {tables : ReviewTables} {request : Deciding} {id : MessageId}
  {ids : List MessageId} {label : ReviewLabel} {ls ls' : List ReviewLabel}

/-- What a request has decided and written so far. -/
structure Deciding.Sound (request : Deciding) : Prop where
  outcome : ∀ action ∈ request.made, action.outcome = request.outcome
  wrote : ∀ id status, request.wrote.get? id = some status →
    status = statusForOutcome request.outcome ∧ id ∈ request.made.map ReviewAction.messageId
  distinct : request.outcome.isFinal = true → (request.made.map ReviewAction.messageId).Nodup
  written : request.outcome.isFinal = true →
    ∀ id ∈ request.made.map ReviewAction.messageId, id ∈ request.wrote.keys

lemma Deciding.Sound.nil (made : request.made = []) (wrote : request.wrote = .empty) :
    request.Sound := by
  constructor
  · rw [made]
    nofun
  · rw [wrote]
    nofun
  · rw [made]
    exact fun _ => List.nodup_nil
  · rw [made]
    nofun

lemma openRequest_sound {clock : ℕ} {r : Request}
    (h : openRequest tables clock r = some (.deciding request)) : request.Sound := by
  cases r with
  | decide =>
    cases h
    exact .nil rfl rfl
  | decideBatch =>
    rw [openRequest] at h
    split at h
    · cases h
    · cases h
      exact .nil rfl rfl
  | approveRemainder =>
    rw [openRequest] at h
    split at h
    · cases h
      exact .nil rfl rfl
    · cases h
  | regenerate =>
    rw [openRequest] at h
    split at h
    · cases h
    · cases h

lemma Deciding.Sound.unwritten (sound : request.Sound)
    (h : id ∉ request.made.map ReviewAction.messageId) : request.wrote.get? id = none := by
  rw [Dict.get?_eq_none_iff, Dict.mem_keys_iff]
  rintro ⟨status, wrote⟩
  exact h (sound.wrote id status wrote).2

lemma get?_underWrites {messages : Dict MessageId OutreachMessage}
    {wrote : Dict MessageId MessageStatus} : (underWrites messages wrote).get? id =
      (messages.get? id).map fun message =>
        { message with status := (wrote.get? id).getD message.status } :=
  Dict.get?_mapEntries _ _ _

/-- What deciding the next message does. -/
structure DecidesNext (tables : ReviewTables) (request : Deciding) (id : MessageId)
    (ids : List MessageId) (message : OutreachMessage) (action : ReviewAction) : Prop where
  found : (underWrites tables.messages request.wrote).get? id = some message
  undecided : message.status ∉ terminalStatuses
  messageId : action.messageId = id
  outcome : action.outcome = request.outcome
  next : decideNext tables request id ids =
    { request with
      todo := ids
      made := request.made ++ [action]
      wrote :=
        if message.status = statusForOutcome request.outcome then request.wrote
        else request.wrote.set id (statusForOutcome request.outcome) }

lemma decideNext_cases (tables : ReviewTables) (request : Deciding) (id : MessageId)
    (ids : List MessageId) : decideNext tables request id ids = { request with todo := ids } ∨
    ∃ message action, DecidesNext tables request id ids message action := by
  cases decided : decideMessage (tables.seenBy request).store id request.outcome request.reviewerId
      request.reason request.editedContent with
  | error error =>
    left
    rw [decideNext]
    simp only [decided]
  | ok result =>
    obtain ⟨after, action⟩ := result
    obtain ⟨message, made⟩ := decideMessage_ok decided
    refine .inr ⟨message, action, made.found, made.undecided, made.messageId, made.outcome, ?_⟩
    rw [decideNext]
    simp only [decided, made.found, Option.map_some, Option.some_inj]

lemma Deciding.Sound.decideNext (sound : request.Sound) :
    (decideNext tables request id ids).Sound := by
  rcases decideNext_cases tables request id ids with skipped | ⟨message, action, made⟩
  · rw [skipped]
    exact ⟨sound.outcome, sound.wrote, sound.distinct, sound.written⟩
  · have decided : (request.made ++ [action]).map ReviewAction.messageId =
        request.made.map ReviewAction.messageId ++ [id] := by
      rw [List.map_append, List.map_singleton, made.messageId]
    -- a final outcome is always written: no message is read with the status of one
    have differs : request.outcome.isFinal = true →
        message.status ≠ statusForOutcome request.outcome :=
      fun final same => made.undecided (same ▸ of_decide_eq_true final)
    rw [made.next]
    constructor
    · intro old mem
      rcases List.mem_append.mp mem with earlier | last
      · exact sound.outcome old earlier
      · rw [List.mem_singleton.mp last, made.outcome]
    · intro key status wrote
      rw [decided, List.mem_append]
      dsimp only at wrote
      split at wrote
      · exact ⟨(sound.wrote key status wrote).1, .inl (sound.wrote key status wrote).2⟩
      · rw [Dict.get?_set] at wrote
        split at wrote
        · rename_i same
          cases wrote
          exact ⟨rfl, .inr (same ▸ List.mem_singleton_self _)⟩
        · exact ⟨(sound.wrote key status wrote).1, .inl (sound.wrote key status wrote).2⟩
    · intro final
      rw [decided]
      refine List.Nodup.append (sound.distinct final) (List.nodup_singleton _) ?_
      rw [List.disjoint_singleton]
      intro again
      obtain ⟨status, wrote⟩ := (Dict.mem_keys_iff _).mp (sound.written final id again)
      obtain ⟨committed, -, seen⟩ := Option.map_eq_some_iff.mp (get?_underWrites.symm.trans made.found)
      apply differs final
      rw [← seen, wrote]
      exact (sound.wrote id status wrote).1
    · intro final key mem
      dsimp only
      rw [if_neg (differs final), Dict.mem_keys_set]
      rw [decided] at mem
      rcases List.mem_append.mp mem with earlier | last
      · exact .inr (sound.written final key earlier)
      · exact .inl (List.mem_singleton.mp last)

/-! ## A request with nobody else about -/

lemma underWrites_empty (messages : Dict MessageId OutreachMessage) :
    underWrites messages .empty = messages := by
  apply Dict.ext_items
  exact List.map_id _

/-- A decision that no other transaction interrupts leaves what the sequential model leaves. -/
theorem decided_alone {s' : Store} {action : ReviewAction} (fresh : request.made = [])
    (unwritten : request.wrote = .empty)
    (h : decideMessage tables.store id request.outcome request.reviewerId request.reason
      request.editedContent = .ok (s', action)) :
    (tables.decided (decideNext tables request id ids)).store.actions = s'.actions ∧
      ∀ key, (tables.decided (decideNext tables request id ids)).store.messages.get? key =
        s'.messages.get? key := by
  have seen : tables.seenBy request = tables := by
    rw [ReviewTables.seenBy, unwritten, underWrites_empty]
  obtain ⟨message, made⟩ := decideMessage_ok h
  have stored : tables.messages.get? id = some message := made.found
  have next : decideNext tables request id ids =
      { request with
        todo := ids
        made := [action]
        wrote :=
          if message.status = statusForOutcome request.outcome then .empty
          else Dict.set .empty id (statusForOutcome request.outcome) } := by
    rw [decideNext]
    simp only [seen, h, fresh, unwritten, made.found, Option.map_some, Option.some_inj,
      List.nil_append]
  rw [next, made.left]
  constructor
  · simp [ReviewTables.decided, ReviewTables.store, stamp]
  · intro key
    rw [ReviewTables.store, ReviewTables.decided]
    dsimp only
    rw [get?_underWrites, Dict.get?_set]
    by_cases same : key = id
    · subst same
      rw [if_pos rfl, stored]
      by_cases kept : message.status = statusForOutcome request.outcome
      · rw [if_pos kept]
        simp [OutreachMessage.decided, kept]
      · rw [if_neg kept, Dict.get?_set_self]
        rfl
    · have other : (if message.status = statusForOutcome request.outcome then Dict.empty
          else (Dict.empty : Dict MessageId MessageStatus).set id
            (statusForOutcome request.outcome)).get? key = none := by
        split
        · rfl
        · rw [Dict.get?_set_ne _ _ same]
          rfl
      rw [if_neg same, other]
      exact Option.map_id'

/-! ## The history of a message -/

/-- The decisions on a message, in the order of their commits, and the status they leave. -/
structure Settled (status : MessageStatus) (history : List StampedAction) : Prop where
  status : status =
    ((history.getLast?).map fun action => statusForOutcome action.outcome).getD .pendingReview
  finals : ∀ action ∈ history.dropLast, action.outcome.isFinal = false
  ordered : history.Pairwise fun a b => a.createdAt ≤ b.createdAt

variable {status : MessageStatus} {history new : List StampedAction} {outcome : Outcome}

lemma settled_nil : Settled .pendingReview [] := ⟨rfl, nofun, .nil⟩

/-- Decisions made in time continue a history. -/
lemma Settled.append (begun : ℕ) (h : Settled status history) (undecided : status ∉ terminalStatuses)
    (some_new : new ≠ []) (made : ∀ action ∈ new, action.outcome = outcome ∧ action.createdAt = begun)
    (single : outcome.isFinal = true → new.length ≤ 1)
    (later : ∀ action ∈ history, action.createdAt ≤ begun) :
    Settled (statusForOutcome outcome) (history ++ new) := by
  have last := List.getLast?_eq_some_getLast some_new
  have lastMade := made _ (List.getLast_mem some_new)
  constructor
  · rw [List.getLast?_append, last, Option.some_or, Option.map_some, lastMade.1]
    rfl
  · intro action mem
    rw [List.dropLast_append_of_ne_nil some_new] at mem
    rcases List.mem_append.mp mem with earlier | recent
    · rcases List.eq_nil_or_concat history with rfl | ⟨before, final, rfl⟩
      · cases earlier
      · rw [List.concat_eq_append] at earlier h
        rcases List.mem_append.mp earlier with old | same
        · exact h.finals action (by rwa [List.dropLast_concat])
        · have current := h.status
          rw [List.getLast?_concat] at current
          rw [List.mem_singleton.mp same]
          exact decide_eq_false fun final => undecided (current ▸ final)
    · have own := (made action (List.mem_of_mem_dropLast recent)).1
      cases final : action.outcome.isFinal with
      | false => rfl
      | true =>
        have one := single (own ▸ final)
        have none_left : new.dropLast = [] := by
          rw [← List.length_eq_zero_iff, List.length_dropLast]
          omega
        rw [none_left] at recent
        cases recent
  · rw [List.pairwise_append]
    refine ⟨h.ordered, ?_, ?_⟩
    · rw [List.pairwise_iff_forall_sublist]
      intro a b sub
      have memA := made a (sub.subset (.head _))
      have memB := made b (sub.subset (.tail _ (.head _)))
      rw [memA.2, memB.2]
    · intro a memA b memB
      rw [(made b memB).2]
      exact later a memA

/-- At most one decision of a settled history is final. -/
lemma Settled.once (h : Settled status history) :
    (history.filter fun action => action.outcome.isFinal).length ≤ 1 := by
  rcases List.eq_nil_or_concat history with rfl | ⟨before, last, rfl⟩
  · exact Nat.zero_le _
  · rw [List.concat_eq_append] at h ⊢
    have open_before : before.filter (fun action => action.outcome.isFinal) = [] := by
      rw [List.filter_eq_nil_iff]
      intro action mem
      rw [h.finals action (by rwa [List.dropLast_concat])]
      nofun
    rw [List.filter_append, open_before, List.nil_append]
    exact List.length_filter_le _ _

/-- A decided status has a decision behind it. -/
lemma Settled.ne_nil (h : Settled status history) (decided : status ∈ terminalStatuses) :
    history ≠ [] := by
  rintro rfl
  rw [h.status] at decided
  revert decided
  decide

/-! ## The committed tables -/

/-- The foreign key of `review_action`. -/
def Referenced (tables : ReviewTables) : Prop :=
  ∀ action ∈ tables.actions, action.messageId ∈ tables.messages.keys

structure Consistent (tables : ReviewTables) : Prop where
  settled : ∀ id message, tables.messages.get? id = some message →
    Settled message.status (actionsOn tables id)
  referenced : Referenced tables

lemma mem_actionsOn {action : StampedAction} :
    action ∈ actionsOn tables id ↔ action ∈ tables.actions ∧ action.messageId = id := by
  rw [actionsOn, List.mem_filter, decide_eq_true_eq]

lemma Consistent.final (h : Consistent tables) : Final tables := by
  constructor
  · intro id
    cases stored : tables.messages.get? id with
    | some message => exact (h.settled id message stored).once
    | none =>
      have undecided : actionsOn tables id = [] := by
        rw [actionsOn, List.filter_eq_nil_iff]
        intro action mem on
        apply (Dict.get?_eq_none_iff _).mp stored
        exact of_decide_eq_true on ▸ h.referenced action mem
      rw [undecided]
      exact Nat.zero_le _
  · intro id message action stored last
    have settled := h.settled id message stored
    have sorted : reviewHistory tables id = actionsOn tables id :=
      List.Pairwise.insertionSort_eq (settled.ordered.imp fun le => le)
    rw [sorted] at last
    rw [settled.status, last]
    rfl

lemma actionsOn_decided : actionsOn (tables.decided request) id = actionsOn tables id ++
    (request.made.filter fun action => action.messageId = id).map (stamp request) := by
  rw [actionsOn, ReviewTables.decided, List.filter_append, List.filter_map]
  rfl

lemma keys_decided {key : MessageId} : key ∈ (tables.decided request).messages.keys ↔
    key ∈ tables.messages.keys := by
  rw [Dict.mem_keys_iff, Dict.mem_keys_iff, ReviewTables.decided]
  dsimp only
  rw [get?_underWrites]
  constructor
  · rintro ⟨_, h⟩
    obtain ⟨message, stored, -⟩ := Option.map_eq_some_iff.mp h
    exact ⟨message, stored⟩
  · rintro ⟨message, stored⟩
    rw [stored]
    exact ⟨_, rfl⟩

lemma Referenced.decided (h : Referenced tables)
    (foreignKey : ∀ action ∈ request.made, action.messageId ∈ tables.messages.keys) :
    Referenced (tables.decided request) := by
  intro action mem
  rw [keys_decided]
  rcases List.mem_append.mp mem with earlier | new
  · exact h action earlier
  · obtain ⟨source, made, rfl⟩ := List.mem_map.mp new
    exact foreignKey source made

/-- The status a commit leaves, of a message it decides. -/
lemma status_decided {action : ReviewAction} {message : OutreachMessage} (sound : request.Sound)
    (inTime : InTime tables request) (made : action ∈ request.made)
    (stored : tables.messages.get? action.messageId = some message) :
    (request.wrote.get? action.messageId).getD message.status = statusForOutcome request.outcome := by
  cases wrote : request.wrote.get? action.messageId with
  | some status => exact (sound.wrote _ _ wrote).1
  | none =>
    apply inTime.unwritten action made message stored
    rwa [← Dict.get?_eq_none_iff]

/-- The commit of decisions made in time. -/
lemma Consistent.decided (h : Consistent tables) (sound : request.Sound)
    (foreignKey : ∀ action ∈ request.made, action.messageId ∈ tables.messages.keys)
    (inTime : InTime tables request) : Consistent (tables.decided request) := by
  constructor
  · intro id message' stored'
    obtain ⟨message, stored, rfl⟩ := Option.map_eq_some_iff.mp (get?_underWrites.symm.trans stored')
    have settled := h.settled id message stored
    rw [actionsOn_decided]
    by_cases decides : id ∈ request.made.map ReviewAction.messageId
    · obtain ⟨first, made, rfl⟩ := List.mem_map.mp decides
      rw [status_decided sound inTime made stored]
      have mine : first ∈ request.made.filter fun action => action.messageId = first.messageId :=
        List.mem_filter.mpr ⟨made, decide_eq_true rfl⟩
      refine settled.append request.begun ?_ ?_ ?_ ?_ ?_
      · exact inTime.undecided first made message stored
      · exact List.ne_nil_of_mem (List.mem_map_of_mem mine)
      · intro action mem
        obtain ⟨source, listed, rfl⟩ := List.mem_map.mp mem
        exact ⟨sound.outcome source (List.mem_filter.mp listed).1, rfl⟩
      · intro final
        have once := List.nodup_iff_count_le_one.mp (sound.distinct final) first.messageId
        rw [List.count, List.countP_map, List.countP_eq_length_filter] at once
        rw [List.length_map]
        exact once
      · intro action mem
        obtain ⟨committed, on⟩ := mem_actionsOn.mp mem
        exact inTime.latest first made action committed on
    · have unwritten : request.wrote.get? id = none := sound.unwritten decides
      have none_new : request.made.filter (fun action => action.messageId = id) = [] := by
        rw [List.filter_eq_nil_iff]
        intro action made on
        exact decides (List.mem_map.mpr ⟨action, made, of_decide_eq_true on⟩)
      rw [unwritten, none_new, List.map_nil, List.append_nil]
      exact settled
  · exact h.referenced.decided foreignKey

/-- Nothing decided is lost by a commit made in time. -/
lemma keeps_decided (inTime : InTime tables request) (h : Consistent tables) (sound : request.Sound) :
    Keeps tables (tables.decided request) := by
  constructor
  · intro id message stored decided
    refine ⟨_, get?_underWrites.trans (congrArg _ stored), ?_⟩
    have unwritten : request.wrote.get? id = none := by
      apply sound.unwritten
      intro decides
      obtain ⟨action, made, rfl⟩ := List.mem_map.mp decides
      exact inTime.undecided action made message stored decided
    rw [unwritten]
    rfl
  · intro action mem
    refine ⟨List.mem_append_left _ mem, ?_⟩
    rw [keys_decided]
    exact h.referenced action mem

lemma Keeps.refl (h : Consistent tables) : Keeps tables tables :=
  ⟨fun _ message stored _ => ⟨message, stored, rfl⟩, fun _ mem => ⟨mem, h.referenced _ mem⟩⟩

lemma Keeps.trans {between later : ReviewTables} (h : Keeps tables between)
    (h' : Keeps between later) : Keeps tables later := by
  constructor
  · intro id message stored decided
    obtain ⟨message', stored', same⟩ := h.status id message stored decided
    obtain ⟨message'', stored'', same'⟩ := h'.status id message' stored' (same ▸ decided)
    exact ⟨message'', stored'', same'.trans same⟩
  · exact fun action mem => h'.decided action (h.decided action mem).1

lemma Referenced.regenerated {newMessage : MessageId} {draft : OutreachMessage} (h : Referenced tables)
    (foreignKey : ∀ action ∈ tables.actions, action.messageId ≠ id) :
    Referenced { tables with messages := (tables.messages.erase id).set newMessage draft } := by
  intro action mem
  obtain ⟨message, stored⟩ := (Dict.mem_keys_iff _).mp (h action mem)
  rw [Dict.mem_keys_set]
  right
  rw [Dict.mem_keys_iff]
  exact ⟨message, by rw [Dict.get?_erase, if_neg (foreignKey action mem), stored]⟩

/-- Replacing a message nobody decided. -/
lemma Consistent.regenerated {newMessage : MessageId} {draft : OutreachMessage} (h : Consistent tables)
    (foreignKey : ∀ action ∈ tables.actions, action.messageId ≠ id)
    (fresh : newMessage ∉ tables.messages.keys) (pending : draft.status = .pendingReview) :
    Consistent { tables with messages := (tables.messages.erase id).set newMessage draft } ∧
      Keeps tables { tables with messages := (tables.messages.erase id).set newMessage draft } := by
  have get : ∀ key, key ≠ newMessage → key ≠ id →
      ((tables.messages.erase id).set newMessage draft).get? key = tables.messages.get? key := by
    intro key notNew notOld
    rw [Dict.get?_set_ne _ _ notNew, Dict.get?_erase, if_neg notOld]
  have referenced : Referenced
      { tables with messages := (tables.messages.erase id).set newMessage draft } :=
    h.referenced.regenerated foreignKey
  refine ⟨⟨?_, referenced⟩, ?_, fun action mem => ⟨mem, referenced action mem⟩⟩
  · intro key message stored
    by_cases new : key = newMessage
    · subst new
      rw [Dict.get?_set_self] at stored
      cases stored
      have unused : actionsOn tables key = [] := by
        rw [actionsOn, List.filter_eq_nil_iff]
        intro action mem on
        exact fresh (of_decide_eq_true on ▸ h.referenced action mem)
      rw [pending]
      exact unused ▸ settled_nil
    · by_cases old : key = id
      · rw [Dict.get?_set_ne _ _ new, Dict.get?_erase, if_pos old] at stored
        cases stored
      · exact h.settled key message (get key new old ▸ stored)
  · intro key message stored decided
    have notNew : key ≠ newMessage := by
      rintro rfl
      exact fresh ((Dict.mem_keys_iff _).mpr ⟨message, stored⟩)
    have notOld : key ≠ id := by
      rintro rfl
      obtain ⟨action, on⟩ := List.exists_mem_of_ne_nil _ ((h.settled key message stored).ne_nil decided)
      obtain ⟨mem, same⟩ := mem_actionsOn.mp on
      exact foreignKey action mem same
    exact ⟨message, (get key notNew notOld).trans stored, rfl⟩

/-! ## Whole runs -/

structure SharedSound (s : Shared) : Prop where
  tables : Consistent s.tables
  requests : ∀ n request, s.transactions.get? n = some (.deciding request) → request.Sound

lemma sharedSound_untouched (h : Untouched s) : SharedSound s := by
  refine ⟨⟨?_, ?_⟩, ?_⟩
  · intro id message stored
    have undecided : actionsOn s.tables id = [] := by
      rw [actionsOn, h.undecided]
      rfl
    rw [undecided, h.pending id message stored]
    exact settled_nil
  · intro action mem
    rw [h.undecided] at mem
    cases mem
  · rw [h.idle]
    nofun

lemma requests_set {n : ℕ} {transaction : Transaction}
    (h : ∀ n request, s.transactions.get? n = some (.deciding request) → request.Sound)
    (own : ∀ request, transaction = .deciding request → request.Sound) :
    ∀ m request, (s.transactions.set n transaction).get? m = some (.deciding request) →
      request.Sound := by
  intro m request running
  rw [Dict.get?_set] at running
  split at running
  · exact own request (Option.some_inj.mp running)
  · exact h m request running

lemma requests_erase {n : ℕ}
    (h : ∀ n request, s.transactions.get? n = some (.deciding request) → request.Sound) :
    ∀ m request, (s.transactions.erase n).get? m = some (.deciding request) → request.Sound := by
  intro m request running
  rw [Dict.get?_erase] at running
  split at running
  · cases running
  · exact h m request running

/-- A step in time keeps the invariant and every decision. -/
lemma SharedSound.step (sound : SharedSound s)
    (st : Guarded CommitsInTime TransactionStep s label t) :
    SharedSound t ∧ Keeps s.tables t.tables := by
  obtain ⟨tables, requests⟩ := sound
  obtain ⟨guard, st⟩ := st
  have same := Keeps.refl tables
  cases st with
  | begin opened =>
    refine ⟨⟨tables, requests_set requests ?_⟩, same⟩
    rintro request rfl
    exact openRequest_sound opened
  | list running listing =>
    refine ⟨⟨tables, requests_set requests ?_⟩, same⟩
    intro request own
    cases own
    obtain ⟨outcome, wrote, distinct, written⟩ := requests _ _ running
    exact ⟨outcome, wrote, distinct, written⟩
  | decideNext running next =>
    refine ⟨⟨tables, requests_set requests ?_⟩, same⟩
    intro request own
    cases own
    exact (requests _ _ running).decideNext
  | commitDecisions running listed done foreignKey =>
    have inTime := guard _ running
    have own := requests _ _ running
    exact ⟨⟨tables.decided own foreignKey inTime, requests_erase requests⟩,
      keeps_decided inTime tables own⟩
  | commitRegenerate running foreignKey fresh pending =>
    obtain ⟨consistent, keeps⟩ := tables.regenerated foreignKey fresh pending
    exact ⟨⟨consistent, requests_erase requests⟩, keeps⟩
  | rollback => exact ⟨⟨tables, requests_erase requests⟩, same⟩
  | moveCohort found => exact ⟨⟨⟨tables.settled, tables.referenced⟩, requests⟩, same.status, same.decided⟩

lemma SharedSound.run (sound : SharedSound s)
    (r : Run (Guarded CommitsInTime TransactionStep) s ls t) :
    SharedSound t ∧ Keeps s.tables t.tables := by
  apply r.invariant (fun t => SharedSound t ∧ Keeps s.tables t.tables)
  · exact ⟨sound, .refl sound.tables⟩
  · rintro t label u ⟨sound', keeps⟩ st
    obtain ⟨sound'', keeps'⟩ := sound'.step st
    exact ⟨sound'', keeps.trans keeps'⟩

/-- Decisions are final in every run whose commits come in time. -/
theorem decisions_are_final (untouched : Untouched s)
    (r : Run (Guarded CommitsInTime TransactionStep) s ls t)
    (r' : Run (Guarded CommitsInTime TransactionStep) t ls' u) :
    Final t.tables ∧ Keeps t.tables u.tables := by
  obtain ⟨sound, -⟩ := (sharedSound_untouched untouched).run r
  exact ⟨sound.tables.final, (sound.run r').2⟩

def oneMessage : ReviewTables where
  messages := .ofList [("m1",
    { campaignId := 1
      clientId := 5
      channel := "email"
      status := .pendingReview
      generationRunId := "run"
      aiDraftContent := .empty
      personalizedContent := none })]

/-- A reviewer's request on the message. -/
def asks (begun : ℕ) (outcome : Outcome) : Deciding where
  outcome := outcome
  reviewerId := "reviewer"
  begun := begun
  todo := ["m1"]

/-- The request once it has read the message. -/
def reads (tables : ReviewTables) (begun : ℕ) (outcome : Outcome) : Deciding :=
  decideNext tables (asks begun outcome) "m1" []

def approvedOnce : ReviewTables := oneMessage.decided (reads oneMessage 0 .approve)

lemma untouched_oneMessage : Untouched { tables := oneMessage } := by
  refine ⟨?_, rfl, rfl⟩
  intro id message stored
  have only := Dict.mem_of_get?_ofList stored
  rw [List.mem_singleton, Prod.mk.injEq] at only
  rw [only.2]

lemma inTime_first : InTime oneMessage (reads oneMessage 0 .approve) := by
  constructor
  · intro action _ message stored
    rw [untouched_oneMessage.pending _ message stored]
    decide
  · intro action made _ _ unwritten
    have written : ∀ action ∈ (reads oneMessage 0 .approve).made,
        action.messageId ∈ (reads oneMessage 0 .approve).wrote.keys := by decide
    exact absurd (written action made) unwritten
  · exact fun _ _ _ => nofun

/-- The second reviewer reads what the first has committed, and decides nothing. -/
lemma inTime_second : InTime approvedOnce (reads approvedOnce 1 .reject) := by
  have undecided : (reads approvedOnce 1 .reject).made = [] := rfl
  constructor <;> rw [undecided] <;> nofun

theorem decisions_are_final_oneMessage :
    Final approvedOnce ∧ Keeps approvedOnce (approvedOnce.decided (reads approvedOnce 1 .reject)) := by
  have r : Run (Guarded CommitsInTime TransactionStep) { tables := oneMessage }
      [.begin (.decide "m1" .approve "reviewer" none none), .decideNext 0, .commit 0]
      { tables := approvedOnce, clock := 1 } := by
    refine .snoc (.snoc (.snoc .nil ⟨trivial, .begin rfl⟩) ⟨trivial, .decideNext rfl rfl⟩)
      ⟨?_, .commitDecisions rfl rfl rfl (by decide)⟩
    intro request running
    have same : some (Transaction.deciding (reads oneMessage 0 .approve)) =
        some (.deciding request) := running
    cases same
    exact inTime_first
  have r' : Run (Guarded CommitsInTime TransactionStep) { tables := approvedOnce, clock := 1 }
      [.begin (.decide "m1" .reject "reviewer" none none), .decideNext 1, .commit 1]
      { tables := approvedOnce.decided (reads approvedOnce 1 .reject), clock := 2 } := by
    refine .snoc (.snoc (.snoc .nil ⟨trivial, .begin rfl⟩) ⟨trivial, .decideNext rfl rfl⟩)
      ⟨?_, .commitDecisions rfl rfl rfl (by decide)⟩
    intro request running
    have same : some (Transaction.deciding (reads approvedOnce 1 .reject)) =
        some (.deciding request) := running
    cases same
    exact inTime_second
  exact decisions_are_final untouched_oneMessage r r'

/-- Two reviewers who read the message before either commits both decide it. -/
theorem decisions_not_final : ¬ ∀ (s t u : Shared) (ls ls' : List ReviewLabel), Untouched s →
    Run TransactionStep s ls t → Run TransactionStep t ls' u →
      Final t.tables ∧ Keeps t.tables u.tables := by
  intro claim
  have r : Run TransactionStep { tables := oneMessage }
      [.begin (.decide "m1" .approve "reviewer" none none),
        .begin (.decide "m1" .reject "reviewer" none none), .decideNext 0, .decideNext 1, .commit 0,
        .commit 1] _ :=
    .snoc (.snoc (.snoc (.snoc (.snoc (.snoc .nil (.begin rfl)) (.begin rfl)) (.decideNext rfl rfl))
      (.decideNext rfl rfl)) (.commitDecisions rfl rfl rfl (by decide)))
      (.commitDecisions rfl rfl rfl (by decide))
  have once := (claim _ _ _ _ _ untouched_oneMessage r .nil).1.once "m1"
  revert once
  decide

end ClientEngagement.Review
