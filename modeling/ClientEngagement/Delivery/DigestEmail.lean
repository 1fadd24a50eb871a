import ClientEngagement.Lib.Dict
import ClientEngagement.Lib.Runs

/-!
# The morning email

Model of `send_digest_emails` (workers/digest_email.py): calls that run at the same time over one table of
markers (`SendStep`). A call reads the markers once, then goes through its emails: the mailer takes one or
raises, and the marker is committed after that, under a unique constraint. A call may die at any point.

A second email goes out when two calls are about the same advisor, and a marker is missing for good when a
call dies, or cannot commit, between the mailer and the marker. `mails_once_iff` says that nothing else
goes wrong.
-/

namespace ClientEngagement.Delivery.DigestEmail

abbrev DigestRunId := ℤ
abbrev FaId := String
abbrev CallId := ℕ

/-- What the marker of an advisor is unique by. -/
abbrev Key := DigestRunId × FaId

structure FaRecord where
  faId : FaId
  email : String

/-- A roster names no advisor twice. -/
structure Roster where
  records : List FaRecord
  distinct : (records.map (·.faId)).Nodup

/-- An advisor's email, with what its marker keeps of it. -/
structure AdvisorEmail where
  advisor : FaRecord
  clientsToCall : ℕ
  totalAtRisk : ℚ

/-- A row of `digest_email_send`. -/
structure DigestEmailSend where
  status : String
  clientCount : ℕ
  fundValueTotal : ℚ

/-- `build_advisor_emails`; `summary` counts an advisor's calls and sums up their funds. -/
def buildAdvisorEmails (summary : FaId → ℕ × ℚ) (roster : Roster) (onlyFaId : Option FaId) : List AdvisorEmail :=
  (roster.records.filter fun record => onlyFaId.all (record.faId = ·)).map fun record =>
    ⟨record, (summary record.faId).1, (summary record.faId).2⟩

/-- Where a call is in its loop. -/
inductive Phase where
  | next
  /-- The mailer has taken the email. -/
  | mailed (email : AdvisorEmail) (status : String)
  /-- The failure is still to be audited. -/
  | failing (email : AdvisorEmail)

/-- A call at work. What was mailed and what the mailer refused is kept for the record. -/
structure Call where
  digestRunId : DigestRunId
  emails : List AdvisorEmail
  remaining : List AdvisorEmail
  done : List FaId
  phase : Phase := .next
  sent : ℕ := 0
  failed : ℕ := 0
  mailed : List FaId := []
  refused : List FaId := []

/-- What a call returns. -/
structure DigestEmailRunResult where
  digestRunId : DigestRunId
  advisors : ℕ
  sent : ℕ
  alreadySent : ℕ
  failed : ℕ

def Call.result (call : Call) : DigestEmailRunResult where
  digestRunId := call.digestRunId
  advisors := call.emails.length
  sent := call.sent
  alreadySent := call.done.length
  failed := call.failed

/-- The tables, the calls at work, and what the mailer has taken. -/
structure World where
  digestRuns : List DigestRunId
  markers : Dict Key DigestEmailSend := .empty
  calls : Dict CallId Call := .empty
  accepted : List Key := []
  returned : List (Call × DigestEmailRunResult) := []

/-- `_already_sent`. -/
def alreadySent (w : World) (digestRunId : DigestRunId) (faIds : List FaId) : List FaId :=
  faIds.filter fun faId => w.markers.contains (digestRunId, faId)

/-- A call that has read the markers. -/
def begin (w : World) (digestRunId : DigestRunId) (emails : List AdvisorEmail) : Call where
  digestRunId := digestRunId
  emails := emails
  remaining := emails
  done := alreadySent w digestRunId (emails.map (·.advisor.faId))

inductive Event where
  | start (c : CallId) (digestRunId : DigestRunId) (roster : Roster) (onlyFaId : Option FaId)
  | skip (c : CallId)
  | mailerTakes (c : CallId) (sent : Bool)
  | mailerRaises (c : CallId)
  | commit (c : CallId)
  | conflict (c : CallId)
  | commitFails (c : CallId)
  | auditFailure (c : CallId)
  | finish (c : CallId)
  | crash (c : CallId)

def Call.key (call : Call) (email : AdvisorEmail) : Key := (call.digestRunId, email.advisor.faId)

def World.setCall (w : World) (c : CallId) (call : Call) : World := { w with calls := w.calls.set c call }

inductive SendStep (w : World) : Event → World → Prop where
  -- the emails are built and the markers read; without the digest run the call raises at once
  | start {c digestRunId roster onlyFaId} (summary : FaId → ℕ × ℚ) (free : w.calls.get? c = none)
      (known : digestRunId ∈ w.digestRuns) :
      SendStep w (.start c digestRunId roster onlyFaId)
        (w.setCall c (begin w digestRunId (buildAdvisorEmails summary roster onlyFaId)))
  | skip {c call email rest} (running : w.calls.get? c = some call) (phase : call.phase = .next)
      (head : call.remaining = email :: rest) (known : email.advisor.faId ∈ call.done) :
      SendStep w (.skip c) (w.setCall c { call with remaining := rest })
  | mailerTakes {c call email rest sent} (running : w.calls.get? c = some call) (phase : call.phase = .next)
      (head : call.remaining = email :: rest) (new : email.advisor.faId ∉ call.done) :
      SendStep w (.mailerTakes c sent)
        { w.setCall c { call with
            remaining := rest
            phase := .mailed email (if sent then "sent" else "recorded")
            mailed := call.mailed ++ [email.advisor.faId] } with
          accepted := w.accepted ++ [call.key email] }
  | mailerRaises {c call email rest} (running : w.calls.get? c = some call) (phase : call.phase = .next)
      (head : call.remaining = email :: rest) (new : email.advisor.faId ∉ call.done) :
      SendStep w (.mailerRaises c)
        (w.setCall c { call with
          remaining := rest
          phase := .failing email
          refused := call.refused ++ [email.advisor.faId] })
  | commit {c call email status} (running : w.calls.get? c = some call) (phase : call.phase = .mailed email status)
      (new : call.key email ∉ w.markers.keys) :
      SendStep w (.commit c)
        { w.setCall c { call with phase := .next, sent := call.sent + 1 } with
          markers := w.markers.set (call.key email) ⟨status, email.clientsToCall, email.totalAtRisk⟩ }
  -- the unique constraint; the transaction is rolled back
  | conflict {c call email status} (running : w.calls.get? c = some call) (phase : call.phase = .mailed email status)
      (taken : call.key email ∈ w.markers.keys) :
      SendStep w (.conflict c)
        (w.setCall c { call with phase := .next, done := call.done ++ [email.advisor.faId] })
  | commitFails {c call email status} (running : w.calls.get? c = some call)
      (phase : call.phase = .mailed email status) :
      SendStep w (.commitFails c) (w.setCall c { call with phase := .failing email })
  | auditFailure {c call email} (running : w.calls.get? c = some call) (phase : call.phase = .failing email) :
      SendStep w (.auditFailure c) (w.setCall c { call with phase := .next, failed := call.failed + 1 })
  | finish {c call} (running : w.calls.get? c = some call) (phase : call.phase = .next) (empty : call.remaining = []) :
      SendStep w (.finish c)
        { w with calls := w.calls.erase c, returned := w.returned ++ [(call, call.result)] }
  | crash {c call} (running : w.calls.get? c = some call) :
      SendStep w (.crash c) { w with calls := w.calls.erase c }

/-! ## Between the mailer and the marker -/

def Call.writing (call : Call) : Option Key :=
  match call.phase with
  | .mailed email _ => some (call.key email)
  | _ => none

/-- The marker a call is about to commit. -/
def World.writing (w : World) (c : CallId) : Option Key := (w.calls.get? c).bind Call.writing

/-- What a step does to the markers, to what the mailer took and to what is about to be committed. -/
inductive Effect (w w' : World) : Event → Prop where
  | quiet {event} (markers : w'.markers = w.markers) (accepted : w'.accepted = w.accepted)
      (writing : w'.writing = w.writing) : Effect w w' event
  | taken {c sent key} (before : w.writing c = none) (markers : w'.markers = w.markers)
      (accepted : w'.accepted = w.accepted ++ [key])
      (writing : w'.writing = Function.update w.writing c (some key)) : Effect w w' (.mailerTakes c sent)
  | committed {c key row} (before : w.writing c = some key) (new : key ∉ w.markers.keys)
      (markers : w'.markers = w.markers.set key row) (accepted : w'.accepted = w.accepted)
      (writing : w'.writing = Function.update w.writing c none) : Effect w w' (.commit c)
  | conflicted {c key} (before : w.writing c = some key) (marked : key ∈ w.markers.keys)
      (markers : w'.markers = w.markers) (accepted : w'.accepted = w.accepted)
      (writing : w'.writing = Function.update w.writing c none) : Effect w w' (.conflict c)
  | lost {c key event} (event_eq : event = .commitFails c ∨ event = .crash c) (before : w.writing c = some key)
      (markers : w'.markers = w.markers) (accepted : w'.accepted = w.accepted)
      (writing : w'.writing = Function.update w.writing c none) : Effect w w' event

lemma World.writing_setCall (w : World) (c : CallId) (call : Call) :
    (w.setCall c call).writing = Function.update w.writing c call.writing := by
  funext x
  rw [writing, setCall, Dict.get?_set, Function.update_apply]
  split_ifs
  · rfl
  · rfl

lemma World.writing_erase (w : World) (c : CallId) (returned : List (Call × DigestEmailRunResult)) :
    World.writing { w with calls := w.calls.erase c, returned := returned } = Function.update w.writing c none := by
  funext x
  rw [writing, Dict.get?_erase, Function.update_apply]
  split_ifs
  · rfl
  · rfl

lemma World.writing_of_running {w : World} {c : CallId} {call : Call} (running : w.calls.get? c = some call) :
    w.writing c = call.writing := by
  rw [writing, running]
  rfl

/-- A call that was not about to commit a marker, and is not either after the step. -/
lemma update_none {w : World} {c : CallId} {call : Call} (running : w.calls.get? c = some call)
    (idle : call.writing = none) : Function.update w.writing c none = w.writing := by
  rw [Function.update_eq_self_iff, World.writing_of_running running, idle]

lemma writing_mailed {w : World} {c : CallId} {call : Call} {email : AdvisorEmail} {status : String}
    (running : w.calls.get? c = some call) (phase : call.phase = .mailed email status) :
    w.writing c = some (call.key email) := by
  rw [World.writing_of_running running, Call.writing, phase]

lemma writing_idle {w : World} {c : CallId} {call call' : Call} (running : w.calls.get? c = some call)
    (idle : call.writing = none) (idle' : call'.writing = none) : (w.setCall c call').writing = w.writing := by
  rw [World.writing_setCall, idle', update_none running idle]

lemma SendStep.effect {w w' : World} {event : Event} (st : SendStep w event w') : Effect w w' event := by
  cases st with
  | @start c digestRunId roster onlyFaId summary free known =>
    refine .quiet rfl rfl ?_
    rw [World.writing_setCall, Function.update_eq_self_iff, World.writing, free]
    rfl
  | @skip c call email rest running phase head known =>
    have idle : call.writing = none := by rw [Call.writing, phase]
    exact .quiet rfl rfl (writing_idle running idle idle)
  | @mailerTakes c call email rest sent running phase head new =>
    refine .taken ?_ rfl rfl (World.writing_setCall _ _ _)
    rw [World.writing_of_running running, Call.writing, phase]
  | @mailerRaises c call email rest running phase head new =>
    have idle : call.writing = none := by rw [Call.writing, phase]
    exact .quiet rfl rfl (writing_idle running idle rfl)
  | @commit c call email status running phase new =>
    exact .committed (writing_mailed running phase) new rfl rfl (World.writing_setCall _ _ _)
  | @conflict c call email status running phase taken =>
    exact .conflicted (writing_mailed running phase) taken rfl rfl (World.writing_setCall _ _ _)
  | @commitFails c call email status running phase =>
    exact .lost (.inl rfl) (writing_mailed running phase) rfl rfl (World.writing_setCall _ _ _)
  | @auditFailure c call email running phase =>
    have idle : call.writing = none := by rw [Call.writing, phase]
    exact .quiet rfl rfl (writing_idle running idle rfl)
  | @finish c call running phase empty =>
    have idle : call.writing = none := by rw [Call.writing, phase]
    refine .quiet rfl rfl ?_
    rw [World.writing_erase, update_none running idle]
  | @crash c call running =>
    have erased := w.writing_erase c w.returned
    cases writing : call.writing with
    | none =>
      refine .quiet rfl rfl ?_
      rw [erased, update_none running writing]
    | some key =>
      have before : w.writing c = some key := (World.writing_of_running running).trans writing
      exact .lost (.inr rfl) before rfl rfl erased

/-! ## One email for each advisor -/

/-- Nobody was mailed twice, and the markers are of those who were mailed, but for a marker that a call is about
    to commit. -/
structure OnePerAdvisor (w : World) : Prop where
  once : ∀ key, w.accepted.count key ≤ 1
  marked : ∀ key, key ∈ w.markers.keys ↔ key ∈ w.accepted ∧ ∀ c, w.writing c ≠ some key

/-- When the mailer takes an advisor's email, no marker is there that the call did not see, and no other call is
    between the mailer and the marker of that advisor; and no call dies there, or cannot commit. -/
def MailsSafely (w : World) : Event → Prop
  | .mailerTakes c _ => ∀ call email rest, w.calls.get? c = some call → call.remaining = email :: rest →
      call.key email ∉ w.markers.keys ∧ ∀ other, w.writing other ≠ some (call.key email)
  | .commitFails c => w.writing c = none
  | .crash c => w.writing c = none
  | _ => True

/-- Every marker and every marker about to be committed has an email of its own. -/
structure Tallied (w : World) : Prop where
  marked : ∀ key ∈ w.markers.keys, key ∈ w.accepted
  writing : ∀ c key, w.writing c = some key → key ∈ w.accepted
  both : ∀ c key, key ∈ w.markers.keys → w.writing c = some key → 2 ≤ w.accepted.count key
  two : ∀ c c' key, c ≠ c' → w.writing c = some key → w.writing c' = some key → 2 ≤ w.accepted.count key

lemma Tallied.step {w w' : World} {event : Event} (tallied : Tallied w) (effect : Effect w w' event) : Tallied w' := by
  have released {c : CallId} (markers : w'.markers = w.markers) (accepted : w'.accepted = w.accepted)
      (writing : w'.writing = Function.update w.writing c none) : Tallied w' := by
    have before {x key} (now : w'.writing x = some key) : w.writing x = some key := by
      rw [writing, Function.update_apply] at now
      split_ifs at now
      exact now
    constructor
    · rw [markers, accepted]
      exact tallied.marked
    · rw [accepted]
      exact fun x key now => tallied.writing x key (before now)
    · rw [markers, accepted]
      exact fun x key mem now => tallied.both x key mem (before now)
    · rw [accepted]
      exact fun x y key ne now now' => tallied.two x y key ne (before now) (before now')
  cases effect with
  | quiet markers accepted writing =>
    constructor
    · rw [markers, accepted]
      exact tallied.marked
    · rw [accepted, writing]
      exact tallied.writing
    · rw [markers, accepted, writing]
      exact tallied.both
    · rw [accepted, writing]
      exact tallied.two
  | @taken c sent key before markers accepted writing =>
    have count (x : Key) : w'.accepted.count x = w.accepted.count x + if key = x then 1 else 0 := by
      rw [accepted, List.count_append, List.count_singleton]
      simp only [beq_iff_eq]
    have mailed {x : Key} (mem : x ∈ w.accepted) : x ∈ w'.accepted := accepted ▸ List.mem_append_left _ mem
    have now {y : CallId} {x : Key} (is : w'.writing y = some x) : y = c ∧ x = key ∨ y ≠ c ∧ w.writing y = some x := by
      rw [writing, Function.update_apply] at is
      split_ifs at is with same
      · exact .inl ⟨same, (Option.some_inj.mp is).symm⟩
      · exact .inr ⟨same, is⟩
    have again (mem : key ∈ w.accepted) : 2 ≤ w'.accepted.count key := by
      have := List.count_pos_iff.mpr mem
      rw [count, if_pos rfl]
      omega
    have more (x : Key) : w.accepted.count x ≤ w'.accepted.count x := by
      rw [count]
      omega
    constructor
    · rw [markers]
      exact fun x mem => mailed (tallied.marked x mem)
    · intro y x is
      rcases now is with ⟨_, rfl⟩ | ⟨_, was⟩
      · exact accepted ▸ List.mem_append_right _ List.mem_cons_self
      · exact mailed (tallied.writing y x was)
    · intro y x mem is
      rw [markers] at mem
      rcases now is with ⟨_, rfl⟩ | ⟨_, was⟩
      · exact again (tallied.marked _ mem)
      · exact (tallied.both y x mem was).trans (more x)
    · intro y z x ne is is'
      rcases now is with ⟨rfl, rfl⟩ | ⟨_, was⟩
      · rcases now is' with ⟨rfl, _⟩ | ⟨_, was'⟩
        · exact absurd rfl ne
        · exact again (tallied.writing z _ was')
      · rcases now is' with ⟨_, rfl⟩ | ⟨_, was'⟩
        · exact again (tallied.writing y _ was)
        · exact (tallied.two y z x ne was was').trans (more x)
  | @committed c key row before new markers accepted writing =>
    have was {y : CallId} {x : Key} (is : w'.writing y = some x) : y ≠ c ∧ w.writing y = some x := by
      rw [writing, Function.update_apply] at is
      split_ifs at is with same
      exact ⟨same, is⟩
    constructor
    · rw [markers, accepted]
      intro x mem
      rcases (Dict.mem_keys_set _ _ _ _).mp mem with rfl | old
      · exact tallied.writing c _ before
      · exact tallied.marked x old
    · rw [accepted]
      exact fun y x is => tallied.writing y x (was is).2
    · rw [markers, accepted]
      intro y x mem is
      rcases (Dict.mem_keys_set _ _ _ _).mp mem with rfl | old
      · exact tallied.two y c _ (was is).1 (was is).2 before
      · exact tallied.both y x old (was is).2
    · rw [accepted]
      exact fun y z x ne is is' => tallied.two y z x ne (was is).2 (was is').2
  | conflicted before marked markers accepted writing => exact released markers accepted writing
  | lost event_eq before markers accepted writing => exact released markers accepted writing

/-- A step that takes an email is about the advisor at the head of its call. -/
lemma SendStep.taken_iff {w w' : World} {c : CallId} {sent : Bool} (st : SendStep w (.mailerTakes c sent) w') {key : Key}
    (accepted : w'.accepted = w.accepted ++ [key]) :
    MailsSafely w (.mailerTakes c sent) ↔ key ∉ w.markers.keys ∧ ∀ other, w.writing other ≠ some key := by
  cases st with
  | @mailerTakes _ call email rest _ running phase head new =>
    have same : call.key email = key := (List.cons.inj (List.append_cancel_left accepted)).1
    rw [← same]
    constructor
    · exact fun safe => safe call email rest running head
    · intro safe call' email' rest' running' head'
      obtain rfl := Option.some_inj.mp (running.symm.trans running')
      obtain ⟨rfl, rfl⟩ := List.cons.inj (head.symm.trans head')
      exact safe

/-- The condition is the one under which a step leaves one email and one marker for each advisor. -/
lemma mailsSafely_iff {w w' : World} {event : Event} (tallied : Tallied w) (one : OnePerAdvisor w)
    (st : SendStep w event w') : MailsSafely w event ↔ OnePerAdvisor w' := by
  have tallied' := tallied.step st.effect
  -- where nobody else is there, giving up a marker that is there already or never comes
  have alone {c : CallId} {key : Key} (before : w.writing c = some key) (x : CallId) :
      Function.update w.writing c none x ≠ some key := by
    rw [Function.update_apply]
    split_ifs with same
    · nofun
    · intro other
      have twice := tallied.two x c key same other before
      have once := one.once key
      omega
  cases st.effect with
  | quiet markers accepted writing =>
    have kept : OnePerAdvisor w' := by
      constructor
      · rw [accepted]
        exact one.once
      · rw [markers, accepted, writing]
        exact one.marked
    refine iff_of_true ?_ kept
    cases event with
    | mailerTakes c sent =>
      cases st with
      | mailerTakes => exact absurd accepted (by simp)
    | commitFails c =>
      cases st with
      | commitFails running phase =>
        have before := writing_mailed running phase
        rw [← writing, World.writing_setCall, Function.update_self] at before
        cases before
    | crash c =>
      have after : w'.writing c = none := by
        cases st with
        | crash running => rw [World.writing, Dict.get?_erase, if_pos rfl]; rfl
      rw [MailsSafely, ← writing, after]
    | start | skip | mailerRaises | commit | conflict | auditFailure | finish => trivial
  | @taken c sent key before markers accepted writing =>
    rw [st.taken_iff accepted]
    constructor
    · rintro ⟨unmarked, unwritten⟩
      have new : key ∉ w.accepted := fun mem => unmarked ((one.marked key).mpr ⟨mem, unwritten⟩)
      constructor
      · intro x
        rw [accepted, List.count_append, List.count_singleton]
        by_cases same : x = key
        · rw [same, List.count_eq_zero.mpr new]
          simp
        · have := one.once x
          simp [beq_false_of_ne (Ne.symm same), this]
      · intro x
        rw [markers, one.marked, accepted, writing]
        by_cases same : x = key
        · subst same
          refine iff_of_false (fun marked => new marked.1) ?_
          rintro ⟨_, free⟩
          exact free c (Function.update_self ..)
        · rw [List.mem_append, List.mem_singleton, or_iff_left same]
          refine and_congr_right fun _ => forall_congr' fun y => ?_
          rw [Function.update_apply]
          split_ifs with here
          · rw [here, before]
            exact iff_of_true nofun fun eq => same (Option.some_inj.mp eq).symm
          · rfl
    · intro one'
      have once := one'.once key
      rw [accepted, List.count_append, List.count_singleton_self] at once
      have new : key ∉ w.accepted := fun mem => by
        have := List.count_pos_iff.mpr mem
        omega
      exact ⟨fun marked => new (tallied.marked key marked), fun x written => new (tallied.writing x key written)⟩
  | @committed c key row before new markers accepted writing =>
    refine iff_of_true trivial ?_
    constructor
    · rw [accepted]
      exact one.once
    · intro x
      rw [markers, Dict.mem_keys_set, accepted, writing, one.marked]
      by_cases same : x = key
      · subst same
        exact iff_of_true (.inl rfl) ⟨tallied.writing c _ before, alone before⟩
      · rw [or_iff_right same]
        refine and_congr_right fun _ => forall_congr' fun y => ?_
        rw [Function.update_apply]
        split_ifs with here
        · rw [here, before]
          exact iff_of_true (fun eq => same (Option.some_inj.mp eq).symm) nofun
        · rfl
  | @conflicted c key before marked markers accepted writing =>
    have twice := tallied.both c key marked before
    have once := one.once key
    omega
  | @lost c key event event_eq before markers accepted writing =>
    refine iff_of_false ?_ ?_
    · rcases event_eq with rfl | rfl
      · exact fun safe => Option.some_ne_none key (before.symm.trans safe)
      · exact fun safe => Option.some_ne_none key (before.symm.trans safe)
    · intro one'
      have marked : key ∈ w'.markers.keys := by
        rw [one'.marked, accepted, writing]
        exact ⟨tallied.writing c key before, alone before⟩
      rw [markers, one.marked] at marked
      exact marked.2 c before

/-! ## Nobody is kept from their email -/

/-- Whom a call is done with: they have a marker, the call mailed them, or the mailer refused their own email. -/
def Seen (markers : List Key) (call : Call) (email : AdvisorEmail) : Prop :=
  call.key email ∈ markers ∨ email.advisor.faId ∈ call.mailed ∨ email.advisor.faId ∈ call.refused

/-- A call leaves nobody out of those it is past. -/
structure Attends (markers : List Key) (call : Call) : Prop where
  seen : ∀ email ∈ call.emails, email ∈ call.remaining ∨ Seen markers call email
  marked : ∀ faId ∈ call.done, (call.digestRunId, faId) ∈ markers

structure Attending (w : World) : Prop where
  running : ∀ c call, w.calls.get? c = some call → Attends w.markers.keys call
  returned : ∀ entry ∈ w.returned, ∀ email ∈ entry.1.emails, Seen w.markers.keys entry.1 email

lemma Seen.mono {markers markers' : List Key} {call : Call} {email : AdvisorEmail} (sub : markers ⊆ markers')
    (seen : Seen markers call email) : Seen markers' call email :=
  seen.imp_left fun mem => sub mem

lemma Attends.mono {markers markers' : List Key} {call : Call} (sub : markers ⊆ markers')
    (attends : Attends markers call) : Attends markers' call :=
  ⟨fun email mem => (attends.seen email mem).imp_right (Seen.mono sub), fun faId mem => sub (attends.marked faId mem)⟩

/-- The head of the list is looked at, and then the call goes on with the rest. -/
lemma Attends.next {markers : List Key} {call call' : Call} {email : AdvisorEmail} {rest : List AdvisorEmail}
    (attends : Attends markers call) (head : call.remaining = email :: rest)
    (same : call'.emails = call.emails ∧ call'.remaining = rest ∧ call'.done = call.done ∧
      call'.digestRunId = call.digestRunId)
    (mailed : call.mailed ⊆ call'.mailed) (refused : call.refused ⊆ call'.refused) (here : Seen markers call' email) :
    Attends markers call' := by
  obtain ⟨emails, remaining, done, run⟩ := same
  constructor
  · intro other mem
    rw [emails] at mem
    rcases attends.seen other mem with left | marked | sent | raised
    · rw [head, List.mem_cons] at left
      rcases left with rfl | later
      · exact .inr here
      · exact .inl (remaining ▸ later)
    · exact .inr (.inl (by rw [Call.key, run]; exact marked))
    · exact .inr (.inr (.inl (mailed sent)))
    · exact .inr (.inr (.inr (refused raised)))
  · rw [done, run]
    exact attends.marked

lemma Attending.setCall {w : World} {c : CallId} {call : Call} (attending : Attending w)
    (attends : Attends w.markers.keys call) : Attending (w.setCall c call) := by
  refine ⟨fun x other found => ?_, attending.returned⟩
  rw [World.setCall, Dict.get?_set] at found
  split_ifs at found with same
  · exact Option.some_inj.mp found ▸ attends
  · exact attending.running x other found

lemma Attending.erase {w : World} {c : CallId} {x : CallId} {call : Call} (attending : Attending w)
    (found : (w.calls.erase c).get? x = some call) : Attends w.markers.keys call := by
  rw [Dict.get?_erase] at found
  split_ifs at found
  exact attending.running x call found

lemma Attending.step {w w' : World} {event : Event} (attending : Attending w) (st : SendStep w event w') :
    Attending w' := by
  cases st with
  | start summary free known =>
    apply attending.setCall
    refine ⟨fun email mem => .inl mem, fun faId mem => ?_⟩
    exact (w.markers.contains_iff).mp (List.mem_filter.mp mem).2
  | skip running phase head known =>
    have attends := attending.running _ _ running
    exact attending.setCall (attends.next head ⟨rfl, rfl, rfl, rfl⟩ (List.Subset.refl _) (List.Subset.refl _)
      (.inl (attends.marked _ known)))
  | @mailerTakes c call email rest sent running phase head new =>
    have next : Attends w.markers.keys { call with
        remaining := rest
        phase := .mailed email (if sent then "sent" else "recorded")
        mailed := call.mailed ++ [email.advisor.faId] } :=
      (attending.running _ _ running).next head ⟨rfl, rfl, rfl, rfl⟩ (List.subset_append_left _ _)
        (List.Subset.refl _) (.inr (.inl (List.mem_append_right _ List.mem_cons_self)))
    have kept : Attending (w.setCall c _) := attending.setCall next
    exact ⟨kept.running, kept.returned⟩
  | mailerRaises running phase head new =>
    exact attending.setCall ((attending.running _ _ running).next head ⟨rfl, rfl, rfl, rfl⟩ (List.Subset.refl _)
      (List.subset_append_left _ _) (.inr (.inr (List.mem_append_right _ List.mem_cons_self))))
  | @commit c call email status running phase new =>
    have more : w.markers.keys ⊆ (w.markers.set (call.key email) ⟨status, email.clientsToCall, email.totalAtRisk⟩).keys :=
      fun key mem => (w.markers.mem_keys_set _ _ _).mpr (.inr mem)
    have attends := attending.running _ _ running
    have next : Attends w.markers.keys { call with phase := .next, sent := call.sent + 1 } :=
      ⟨attends.seen, attends.marked⟩
    have kept : Attending (w.setCall c _) := attending.setCall next
    exact ⟨fun x other found => (kept.running x other found).mono more,
      fun entry mem email' here => (kept.returned entry mem email' here).mono more⟩
  | @conflict c call email status running phase taken =>
    have attends := attending.running _ _ running
    apply attending.setCall
    refine ⟨attends.seen, fun faId mem => ?_⟩
    rcases List.mem_append.mp mem with old | new
    · exact attends.marked faId old
    · rw [List.mem_singleton.mp new]
      exact taken
  | commitFails running phase =>
    have attends := attending.running _ _ running
    exact attending.setCall ⟨attends.seen, attends.marked⟩
  | auditFailure running phase =>
    have attends := attending.running _ _ running
    exact attending.setCall ⟨attends.seen, attends.marked⟩
  | @finish c call running phase empty =>
    refine ⟨fun x other found => attending.erase found, fun entry mem email here => ?_⟩
    rcases List.mem_append.mp mem with old | new
    · exact attending.returned entry old email here
    · obtain rfl := List.mem_singleton.mp new
      rcases (attending.running _ _ running).seen email here with left | seen
      · rw [empty] at left
        cases left
      · exact seen
  | crash running => exact ⟨fun x other found => attending.erase found, attending.returned⟩

/-! ## Whole runs -/

/-- No call has been made yet. -/
def World.start (digestRuns : List DigestRunId) : World := { digestRuns := digestRuns }

lemma start_tallied (digestRuns : List DigestRunId) : Tallied (.start digestRuns) where
  marked key mem := by cases mem
  writing c key written := by cases written
  both c key mem := by cases mem
  two c c' key ne written := by cases written

lemma start_onePerAdvisor (digestRuns : List DigestRunId) : OnePerAdvisor (.start digestRuns) where
  once key := Nat.zero_le 1
  marked key := iff_of_false (by rintro ⟨⟩) (by rintro ⟨⟨⟩, _⟩)

lemma start_attending (digestRuns : List DigestRunId) : Attending (.start digestRuns) where
  running c call found := by cases found
  returned entry mem := by cases mem

/-- However calls interleave, die and are made again, and whatever the mailer refuses: every advisor gets one
    email, and a marker for it, in every state of a run exactly when every step of it is safe; and a call that
    returns has left nobody out but those whose own email was refused. -/
theorem mails_once_iff (digestRuns : List DigestRunId) (events : List Event) (w : World) :
    (Run (Guarded MailsSafely SendStep) (.start digestRuns) events w ↔
      Run (Keeping OnePerAdvisor SendStep) (.start digestRuns) events w) ∧
    (Run SendStep (.start digestRuns) events w →
      ∀ entry ∈ w.returned, ∀ email ∈ entry.1.emails, Seen w.markers.keys entry.1 email) := by
  constructor
  · exact @Run.guarded_iff_respecting _ _ SendStep (.start digestRuns) w events MailsSafely
      (fun w => Tallied w ∧ OnePerAdvisor w) (fun _ w => OnePerAdvisor w)
      ⟨start_tallied digestRuns, start_onePerAdvisor digestRuns⟩
      (fun t l u h st one => ⟨h.1.step st.effect, one⟩) (fun t l u h st => mailsSafely_iff h.1 h.2 st)
  · intro r
    have attending : Attending w := r.invariant Attending (start_attending digestRuns) fun t l u h st => h.step st
    exact attending.returned

def oneAdvisor : Roster := ⟨[⟨"FA1", "fa1@example.com"⟩], by decide⟩

def twoAdvisors : Roster := ⟨[⟨"FA1", "fa1@example.com"⟩, ⟨"FA2", "fa2@example.com"⟩], by decide⟩

/-- The mailer refuses the first advisor's email and takes the second's. -/
theorem second_advisor_mailed : ∃ w : World,
    Run SendStep (.start [7]) [.start 1 7 twoAdvisors none, .mailerRaises 1, .auditFailure 1, .mailerTakes 1 true,
      .commit 1, .finish 1] w ∧ w.accepted = [(7, "FA2")] ∧ w.returned.map (·.2.failed) = [1] ∧
    ∀ entry ∈ w.returned, ∀ email ∈ entry.1.emails, Seen w.markers.keys entry.1 email := by
  have started : Run SendStep (.start [7]) [.start 1 7 twoAdvisors none] _ := .single
    (.start (fun _ => (0, 0)) rfl (List.mem_singleton_self (7 : ℤ)))
  have refused := started.snoc (l := .mailerRaises 1) (.mailerRaises rfl rfl rfl (by decide))
  have audited := refused.snoc (l := .auditFailure 1) (.auditFailure rfl rfl)
  have mailed := audited.snoc (l := .mailerTakes 1 true) (.mailerTakes rfl rfl rfl (by decide))
  have marked := mailed.snoc (l := .commit 1) (.commit rfl rfl (by decide))
  have returned := marked.snoc (l := .finish 1) (.finish rfl rfl rfl)
  exact ⟨_, returned, rfl, rfl, (mails_once_iff [7] _ _).2 returned⟩

/-- Two calls that read the markers before either wrote one. -/
theorem advisor_mailed_twice : ∃ w : World,
    Run SendStep (.start [7]) [.start 1 7 oneAdvisor none, .start 2 7 oneAdvisor none, .mailerTakes 1 true,
      .mailerTakes 2 true, .commit 1, .conflict 2, .finish 1, .finish 2] w ∧
    w.accepted = [(7, "FA1"), (7, "FA1")] ∧ ¬ OnePerAdvisor w := by
  have first : Run SendStep (.start [7]) [.start 1 7 oneAdvisor none] _ := .single
    (.start (fun _ => (0, 0)) rfl (List.mem_singleton_self (7 : ℤ)))
  have second := first.snoc (l := .start 2 7 oneAdvisor none)
    (.start (fun _ => (0, 0)) rfl (List.mem_singleton_self (7 : ℤ)))
  have mailed := second.snoc (l := .mailerTakes 1 true) (.mailerTakes rfl rfl rfl (by decide))
  have again := mailed.snoc (l := .mailerTakes 2 true) (.mailerTakes rfl rfl rfl (by decide))
  have marked := again.snoc (l := .commit 1) (.commit rfl rfl (by decide))
  have noticed := marked.snoc (l := .conflict 2) (.conflict rfl rfl (by decide))
  have returned := noticed.snoc (l := .finish 1) (.finish rfl rfl rfl)
  have all := returned.snoc (l := .finish 2) (.finish rfl rfl rfl)
  refine ⟨_, all, rfl, fun one => ?_⟩
  exact absurd (one.once (7, "FA1")) (by decide)

end ClientEngagement.Delivery.DigestEmail
