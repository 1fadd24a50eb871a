import ClientEngagement.Lib.JsonAscii
import ClientEngagement.Lib.Dict
import ClientEngagement.Lib.Runs

/-!
# Drafting the templates of a campaign

Model of `campaigns/template_generation.py`: which buckets a call of `draft_templates_for_campaign` tries, and
what it leaves. A bucket is known by the text of its profile key (`fingerprint`); a template blocks its bucket
while its status is one of `blockingRedraft`. What an attempt comes to, when the time budget is spent and which
commits go through is given by the `World` of a call. `template_drafting_sound` is about one call and about runs
of calls with rejections between them.
-/

namespace ClientEngagement.Campaigns.Templates

/-! ## Profile keys -/

structure ProfileKey where
  messageAngle : String
  priorityTier : Option String
  product : String
  hasCadence : Bool
  staleContact : Bool
  exitReasonChargeSettled : Bool
  fundNameKnown : Bool
  balanceBand : Option String := none
  hasBalance : Bool := false
  highValue : Bool := false
  channel : String := "email"
deriving DecidableEq

/-- A text or null. -/
def optional : Option String → Json
  | none => .null
  | some text => .str text

def ProfileKey.asDict (key : ProfileKey) : Dict String Json where
  items :=
    [("message_angle", .str key.messageAngle),
      ("priority_tier", optional key.priorityTier),
      ("product", .str key.product),
      ("has_cadence", .bool key.hasCadence),
      ("stale_contact", .bool key.staleContact),
      ("exit_reason_charge_settled", .bool key.exitReasonChargeSettled),
      ("fund_name_known", .bool key.fundNameKnown),
      ("balance_band", optional key.balanceBand),
      ("has_balance", .bool key.hasBalance),
      ("high_value", .bool key.highValue),
      ("channel", .str key.channel)]
  nodup := by
    simp only [List.map_cons, List.map_nil]
    decide

/-- A key without a channel reads as one for email. -/
def normalizeProfileKey (data : Dict String Json) : Dict String Json :=
  data.items.foldl (fun normal item => normal.set item.1 item.2) (Dict.empty.set "channel" (.str "email"))

/-- `_profile_key_fingerprint`; `number` prints a number. -/
def fingerprint (number : ℚ → List Char) (data : Dict String Json) : List Char :=
  (Json.sortKeys (.obj (normalizeProfileKey data).items)).dumps number

/-- `profile_key_sort_key`. -/
def sortKey (key : ProfileKey) : String ×ₗ String ×ₗ String ×ₗ Bool ×ₗ Bool ×ₗ Bool ×ₗ Bool ×ₗ String ×ₗ Bool ×ₗ
    Bool ×ₗ String :=
  toLex (key.messageAngle, toLex (key.priorityTier.getD "", toLex (key.product, toLex (key.hasCadence,
    toLex (key.staleContact, toLex (key.exitReasonChargeSettled, toLex (key.fundNameKnown,
      toLex (key.balanceBand.getD "", toLex (key.hasBalance, toLex (key.highValue, key.channel))))))))))

/-! ## Templates -/

inductive TemplateStatus where
  | pendingReview
  | approved
  | rejected
  | escalated
  | held
  | guardrailRejected
deriving DecidableEq

/-- `TEMPLATE_STATUSES_BLOCKING_REDRAFT`. -/
def blockingRedraft : List TemplateStatus := [.pendingReview, .approved, .escalated, .held]

structure MessageTemplate where
  templateId : String
  campaignId : ℤ
  profileKey : Dict String Json
  status : TemplateStatus

/-- The rows of `message_template` that are committed, and those a transaction has added. -/
structure Session where
  committed : List MessageTemplate
  added : List MessageTemplate := []

namespace Session

def rows (s : Session) : List MessageTemplate := s.committed ++ s.added

def add (s : Session) (template : MessageTemplate) : Session := { s with added := s.added ++ [template] }

def commit (s : Session) : Session := ⟨s.committed ++ s.added, []⟩

def rollback (s : Session) : Session := ⟨s.committed, []⟩

end Session

section
variable (number : ℚ → List Char)

/-- `_existing_profile_key_fingerprints`. -/
def existingProfileKeyFingerprints (s : Session) (campaignId : ℤ) : List (List Char) :=
  (s.rows.filter fun template => template.campaignId = campaignId ∧ template.status ∈ blockingRedraft).map
    fun template => fingerprint number template.profileKey

/-! ## The due buckets -/

structure Enrollment where
  enrollmentId : ℤ
  clientId : ℤ
deriving DecidableEq

structure DueGroup where
  profileKey : ProfileKey
  clientIds : List ℤ
  representative : Option Enrollment
deriving DecidableEq

def DueGroup.size (group : DueGroup) : ℕ := group.clientIds.length

def groupDueClients (pairs : List (Enrollment × ProfileKey)) : List DueGroup :=
  (Dict.groupBy Prod.snd pairs).items.map fun (key, members) =>
    { profileKey := key
      clientIds := members.map fun member => member.1.clientId
      representative := members.head?.map Prod.fst }

/-- `_group_observed_volumes`; a client may have no volume. -/
def groupObservedVolumes (volumeByClient : Dict ℤ (Option ℚ)) (groups : List DueGroup) : Dict ProfileKey ℚ :=
  .ofList (groups.map fun group =>
    (group.profileKey, (group.clientIds.map fun clientId => ((volumeByClient.get? clientId).join).getD 0).sum))

/-- What the groups are ordered by. -/
def priority (volumes : Dict ProfileKey ℚ) (group : DueGroup) :=
  toLex (-(group.size : ℤ), toLex (-volumes.getD group.profileKey 0, sortKey group.profileKey))

def orderedByPriority (groups : List DueGroup) (volumes : Dict ProfileKey ℚ) : List DueGroup :=
  sortBy (priority volumes) groups

/-! ## One call -/

/-- `MAX_DRAFTS_PER_CALL`. -/
def maxDraftsPerCall : ℕ := 25

/-- The limits in force for a campaign; those of a policy are positive. -/
structure EffectivePolicy where
  maxTemplates : Option ℕ
  maxTemplatesPct : Option ℕ

def effectiveLimit (estimatedTemplates : ℕ) (policy : EffectivePolicy) : Option ℕ :=
  -- the percentage is rounded up
  let caps := policy.maxTemplates.toList ++
    (policy.maxTemplatesPct.map fun percent => (estimatedTemplates * percent + 99) / 100).toList
  caps.min?

/-- What drafting one bucket comes to. -/
inductive Attempt where
  | noRepresentative
  /-- An error, before or after the template was added. -/
  | raises (written : Option String)
  | drafts (templateId : String) (accepted : Bool)

/-- What a call meets. -/
structure World where
  pairs : List (Enrollment × ProfileKey)
  policy : EffectivePolicy
  volumeByClient : Dict ℤ (Option ℚ)
  attempts : ℕ → Attempt
  /-- Whether the time budget is spent when a bucket comes up. -/
  exhausted : ℕ → Bool
  /-- Whether the commit after a bucket goes through. -/
  commits : ℕ → Bool

/-- The counts of a call so far, with the buckets it tried. -/
structure Tally where
  attempted : List DueGroup := []
  templates : List MessageTemplate := []
  failedGuardrails : ℕ := 0
  failedErrors : ℕ := 0

/-- A template of a bucket as `draft_template` writes it. -/
def templateOf (campaignId : ℤ) (group : DueGroup) (templateId : String) (accepted : Bool) : MessageTemplate where
  templateId := templateId
  campaignId := campaignId
  profileKey := group.profileKey.asDict
  status := if accepted then .pendingReview else .guardrailRejected

/-- What a bucket's attempt does: the session and the counts after it, and whether the call goes on. An id that
    is there already is refused as an error. -/
def draftGroup (world : World) (campaignId : ℤ) (index : ℕ) (s : Session) (tally : Tally) (group : DueGroup) :
    Session × Tally × Bool :=
  let tried := { tally with attempted := tally.attempted ++ [group] }
  match world.attempts index with
  | .noRepresentative => (s, { tried with failedErrors := tally.failedErrors + 1 }, true)
  | .raises written =>
    let s := written.elim s fun templateId => s.add (templateOf campaignId group templateId true)
    (s.rollback, { tried with failedErrors := tally.failedErrors + 1 }, true)
  | .drafts templateId accepted =>
    let template := templateOf campaignId group templateId accepted
    if templateId ∈ s.rows.map MessageTemplate.templateId then
      (s.rollback, { tried with failedErrors := tally.failedErrors + 1 }, true)
    else if world.commits index then
      ((s.add template).commit,
        if accepted then { tried with templates := tally.templates ++ [template] }
        else { tried with failedGuardrails := tally.failedGuardrails + 1 }, true)
    else ((s.add template).rollback, tried, false)

/-- The loop over the buckets to draft; it does not return when a commit fails. -/
def draftGroups (world : World) (campaignId : ℤ) : ℕ → Session → Tally → List DueGroup → Session × Tally × Bool
  | _, s, tally, [] => (s, tally, true)
  | index, s, tally, group :: groups =>
    if 0 < index ∧ world.exhausted index then (s, tally, true)
    else
      match draftGroup world campaignId index s tally group with
      | (s, tally, true) => draftGroups world campaignId (index + 1) s tally groups
      | (s, tally, false) => (s, tally, false)

/-- The due buckets that no template blocks. -/
def candidates (world : World) (campaignId : ℤ) (s : Session) : List DueGroup :=
  (groupDueClients world.pairs).filter fun group =>
    fingerprint number group.profileKey.asDict ∉ existingProfileKeyFingerprints number s campaignId

/-- The candidates in the order they are drafted in. -/
def ordered (world : World) (campaignId : ℤ) (s : Session) : List DueGroup :=
  let groups := candidates number world campaignId s
  orderedByPriority groups (groupObservedVolumes world.volumeByClient groups)

/-- The buckets a call sets out to draft. -/
def toDraft (world : World) (campaignId : ℤ) (s : Session) : List DueGroup :=
  (match effectiveLimit (groupDueClients world.pairs).length world.policy with
    | none => ordered number world campaignId s
    | some limit => (ordered number world campaignId s).take limit).take maxDraftsPerCall

structure TemplateDraftOutcome where
  templates : List MessageTemplate
  estimatedTemplates : ℕ
  effectiveLimit : Option ℕ
  draftedCount : ℕ
  skippedExisting : ℕ
  failedGuardrails : ℕ
  failedErrors : ℕ

/-- What a call leaves: the session, the buckets it tried and, when it returns, its outcome. -/
structure Result where
  session : Session
  tally : Tally
  outcome : Option TemplateDraftOutcome

def draftTemplatesForCampaign (world : World) (campaignId : ℤ) (s : Session) : Result :=
  let groups := groupDueClients world.pairs
  let after := draftGroups world campaignId 0 s {} (toDraft number world campaignId s)
  { session := after.1
    tally := after.2.1
    outcome :=
      if after.2.2 then
        some
          { templates := after.2.1.templates
            estimatedTemplates := groups.length
            effectiveLimit := effectiveLimit groups.length world.policy
            draftedCount := after.2.1.templates.length
            skippedExisting := groups.length - (candidates number world campaignId s).length
            failedGuardrails := after.2.1.failedGuardrails
            failedErrors := after.2.1.failedErrors }
      else none }

end

/-! ## Review -/

inductive ReviewOutcome where
  | approve
  | editApprove
  | reject
  | escalate
  | hold

/-- `_STATUS_FOR_OUTCOME`. -/
def statusForOutcome : ReviewOutcome → TemplateStatus
  | .approve => .approved
  | .editApprove => .approved
  | .reject => .rejected
  | .escalate => .escalated
  | .hold => .held

/-- `_TERMINAL_STATUSES`. -/
def terminalStatuses : List TemplateStatus := [.approved, .rejected]

/-- `decide_template` and the commit after it; nothing where it is refused. -/
def decideTemplate (s : Session) (templateId : String) (outcome : ReviewOutcome) : Option Session :=
  match s.rows.find? fun template => template.templateId = templateId with
  | none => none
  | some template =>
    if template.status ∈ terminalStatuses then none
    else
      some
        ⟨s.rows.map fun row =>
          if row.templateId = templateId then { row with status := statusForOutcome outcome } else row, []⟩

/-! ## Fingerprints -/

variable {number : ℚ → List Char} {world : World} {campaignId : ℤ} {s s' : Session} {tally tally' : Tally}
  {group : DueGroup} {groups : List DueGroup}

lemma get?_normalizeProfileKey (data : Dict String Json) (name : String) :
    (normalizeProfileKey data).get? name =
      ((data.get? name).or (if name = "channel" then some (.str "email") else none)) := by
  rw [normalizeProfileKey]
  cases found : data.get? name with
  | none =>
    rw [Dict.get?_foldl_set_of_not_mem (data.get?_eq_none_iff.mp found), Dict.get?_set, Dict.get?_empty]
    rfl
  | some value =>
    exact Dict.get?_foldl_set_of_mem data.nodup (data.mem_items_iff.mpr found)

lemma optional_inj {a b : Option String} (same : optional a = optional b) : a = b := by
  cases a <;> cases b <;> cases same <;> rfl

lemma plain_optional (a : Option String) : Json.Plain (optional a) := by
  cases a with
  | none => exact .null
  | some text => exact .str text

lemma ProfileKey.asDict_inj {key key' : ProfileKey} (same : key.asDict.Same key'.asDict) : key = key' := by
  have whole : key.asDict = key'.asDict := Dict.eq_of_same rfl same
  have items := congrArg Dict.items whole
  cases key
  cases key'
  simp only [asDict, List.cons.injEq, Prod.mk.injEq, Json.str.injEq, Json.bool.injEq, true_and, and_true] at items
  obtain ⟨angle, tier, product, cadence, stale, settled, fund, band, balance, high, channel⟩ := items
  cases optional_inj tier
  cases optional_inj band
  subst angle product cadence stale settled fund balance high channel
  rfl

lemma ProfileKey.plain {key : ProfileKey} {item : String × Json} (mem : item ∈ key.asDict.items) :
    Json.Plain item.2 := by
  simp only [asDict, List.mem_cons, List.not_mem_nil, or_false] at mem
  obtain rfl | rfl | rfl | rfl | rfl | rfl | rfl | rfl | rfl | rfl | rfl := mem
  · exact .str _
  · exact plain_optional _
  · exact .str _
  · exact .bool _
  · exact .bool _
  · exact .bool _
  · exact .bool _
  · exact plain_optional _
  · exact .bool _
  · exact .bool _
  · exact .str _

/-- A key has a channel, so it reads as it is. -/
lemma normalizeProfileKey_asDict (key : ProfileKey) : (normalizeProfileKey key.asDict).Same key.asDict := by
  intro name
  rw [get?_normalizeProfileKey]
  by_cases channel : name = "channel"
  · have there : key.asDict.get? "channel" = some (.str key.channel) := by
      rw [← Dict.mem_items_iff]
      simp [ProfileKey.asDict]
    rw [channel, there]
    rfl
  · rw [if_neg channel, Option.or_none]

lemma plain_normalized {key : ProfileKey} {item : String × Json}
    (mem : item ∈ (normalizeProfileKey key.asDict).items) : Json.Plain item.2 :=
  ProfileKey.plain ((normalizeProfileKey_asDict key).items_perm.mem_iff.mp mem)

lemma fingerprint_eq (key : ProfileKey) : fingerprint number key.asDict =
    Json.dumps number (.obj (sortBy Prod.fst (normalizeProfileKey key.asDict).items)) := by
  rw [fingerprint, Json.sortKeys, Json.sortKeysFields_eq]
  congr 3
  conv_rhs => rw [← List.map_id (normalizeProfileKey key.asDict).items]
  apply List.map_congr_left
  intro item mem
  rw [(plain_normalized mem).sortKeys]
  rfl

/-- A bucket is known by its fingerprint. -/
theorem fingerprint_inj {key key' : ProfileKey}
    (same : fingerprint number key.asDict = fingerprint number key'.asDict) : key = key' := by
  rw [fingerprint_eq, fingerprint_eq] at same
  have items := Json.dumps_obj_inj (fun item mem => plain_normalized (mem_sortBy.mp mem))
    (fun item mem => plain_normalized (mem_sortBy.mp mem)) same
  have perm := sortBy_perm Prod.fst (normalizeProfileKey key.asDict).items
  rw [items] at perm
  replace perm := perm.symm.trans (sortBy_perm _ _)
  apply ProfileKey.asDict_inj
  have normal : (normalizeProfileKey key.asDict).Same (normalizeProfileKey key'.asDict) := by
    intro name
    apply Option.ext
    intro value
    rw [← Dict.mem_items_iff, ← Dict.mem_items_iff, perm.mem_iff]
  exact (normalizeProfileKey_asDict key).symm.trans (normal.trans (normalizeProfileKey_asDict key'))

/-! ## An attempt -/

/-- What an attempt of a bucket can come to, in a session that has nothing added. -/
inductive Turn (campaignId : ℤ) (s : Session) (tally : Tally) (group : DueGroup) :
    Session × Tally × Bool → Prop where
  | drafted (templateId : String) :
    Turn campaignId s tally group
      (⟨s.committed ++ [templateOf campaignId group templateId true], []⟩,
        { tally with
          attempted := tally.attempted ++ [group]
          templates := tally.templates ++ [templateOf campaignId group templateId true] }, true)
  | rejected (templateId : String) :
    Turn campaignId s tally group
      (⟨s.committed ++ [templateOf campaignId group templateId false], []⟩,
        { tally with
          attempted := tally.attempted ++ [group]
          failedGuardrails := tally.failedGuardrails + 1 }, true)
  | failed :
    Turn campaignId s tally group
      (s, { tally with
        attempted := tally.attempted ++ [group]
        failedErrors := tally.failedErrors + 1 }, true)
  | lost :
    Turn campaignId s tally group (s, { tally with attempted := tally.attempted ++ [group] }, false)

lemma rollback_of_settled (settled : s.added = []) : s.rollback = s := by
  cases s
  cases settled
  rfl

lemma draftGroup_turn (world : World) (campaignId : ℤ) (index : ℕ) (tally : Tally) (group : DueGroup)
    (settled : s.added = []) :
    Turn campaignId s tally group (draftGroup world campaignId index s tally group) := by
  have dropped (template : MessageTemplate) : (s.add template).rollback = s := by
    cases s
    cases settled
    rfl
  rw [draftGroup]
  cases world.attempts index with
  | noRepresentative => exact .failed
  | raises written =>
    cases written with
    | none =>
      simp only [Option.elim_none, rollback_of_settled settled]
      exact .failed
    | some templateId =>
      simp only [Option.elim_some, dropped]
      exact .failed
  | drafts templateId accepted =>
    dsimp only
    split_ifs with taken goes accept
    · rw [rollback_of_settled settled]
      exact .failed
    · rw [Session.commit, Session.add, settled, accept]
      exact .drafted templateId
    · rw [Session.commit, Session.add, settled, Bool.eq_false_of_not_eq_true accept]
      exact .rejected templateId
    · rw [dropped]
      exact .lost

lemma Turn.settled {turn : Session × Tally × Bool} (settled : s.added = [])
    (h : Turn campaignId s tally group turn) : turn.1.added = [] := by
  cases h with
  | drafted => rfl
  | rejected => rfl
  | failed => exact settled
  | lost => exact settled

lemma Turn.attempted {turn : Session × Tally × Bool} (h : Turn campaignId s tally group turn) :
    turn.2.1.attempted = tally.attempted ++ [group] := by
  cases h <;> rfl

/-! ## The loop -/

lemma draftGroups_cons (index : ℕ) (group : DueGroup) (groups : List DueGroup) :
    draftGroups world campaignId index s tally (group :: groups) =
      if 0 < index ∧ world.exhausted index then (s, tally, true)
      else
        let turn := draftGroup world campaignId index s tally group
        if turn.2.2 then draftGroups world campaignId (index + 1) turn.1 turn.2.1 groups else turn := by
  rw [draftGroups]
  split_ifs with stop
  · rfl
  · rcases draftGroup world campaignId index s tally group with ⟨s, tally, returns⟩
    cases returns <;> rfl

/-- What holds of the session and the counts at first and is kept by every attempt holds at the end, whether the
    loop returns or not; what was tried is a first part of the groups. -/
lemma draftGroups_induction {P : Session → Tally → Prop} {all : List DueGroup} {index : ℕ}
    (settled : s.added = []) (whole : tally.attempted ++ groups = all) (init : P s tally)
    (keeps : ∀ s tally group turn, P s tally → Turn campaignId s tally group turn → P turn.1 turn.2.1) :
    P (draftGroups world campaignId index s tally groups).1 (draftGroups world campaignId index s tally groups).2.1 ∧
      (draftGroups world campaignId index s tally groups).2.1.attempted <+: all ∧
        (draftGroups world campaignId index s tally groups).1.added = [] := by
  induction groups generalizing index s tally with
  | nil => exact ⟨init, ⟨[], whole⟩, settled⟩
  | cons group groups ih =>
    have turn := draftGroup_turn world campaignId index tally group settled
    have next : (draftGroup world campaignId index s tally group).2.1.attempted ++ groups = all := by
      rw [turn.attempted, List.append_assoc, List.singleton_append, whole]
    have kept := keeps _ _ _ _ init turn
    rw [draftGroups_cons]
    dsimp only
    split_ifs
    · exact ⟨init, ⟨_, whole⟩, settled⟩
    · exact ih (turn.settled settled) next kept
    · exact ⟨kept, ⟨_, next⟩, turn.settled settled⟩

/-- When the loop returns, every bucket it tried is counted. -/
lemma draftGroups_counts {index : ℕ} (settled : s.added = [])
    (counted : tally.templates.length + tally.failedGuardrails + tally.failedErrors = tally.attempted.length)
    (returns : (draftGroups world campaignId index s tally groups).2.2 = true) :
    let after := (draftGroups world campaignId index s tally groups).2.1
    after.templates.length + after.failedGuardrails + after.failedErrors = after.attempted.length := by
  induction groups generalizing index s tally with
  | nil => exact counted
  | cons group groups ih =>
    have turn := draftGroup_turn world campaignId index tally group settled
    rw [draftGroups_cons] at returns ⊢
    dsimp only at returns ⊢
    split_ifs at returns ⊢ with stop goes
    · exact counted
    · apply ih (turn.settled settled) _ returns
      generalize draftGroup world campaignId index s tally group = after at turn goes
      cases turn with
      | drafted => simp only [List.length_append, List.length_singleton]; omega
      | rejected => simp only [List.length_append, List.length_singleton]; omega
      | failed => simp only [List.length_append, List.length_singleton]; omega
      | lost => cases goes
    · exact absurd returns goes

/-- While every commit goes through the loop returns. -/
lemma draftGroups_returns {index : ℕ} (commits : ∀ i, world.commits i = true) :
    (draftGroups world campaignId index s tally groups).2.2 = true := by
  induction groups generalizing index s tally with
  | nil => rfl
  | cons group groups ih =>
    rw [draftGroups_cons]
    dsimp only
    split_ifs with stop goes
    · rfl
    · exact ih
    · apply absurd _ goes
      rw [draftGroup]
      cases world.attempts index with
      | noRepresentative => rfl
      | raises written => rfl
      | drafts templateId accepted =>
        dsimp only
        rw [if_pos (commits index)]
        split_ifs <;> rfl

/-! ## What a call leaves -/

lemma existing_append (committed : List MessageTemplate) (template : MessageTemplate) (campaignId : ℤ) :
    existingProfileKeyFingerprints number ⟨committed ++ [template], []⟩ campaignId =
      existingProfileKeyFingerprints number ⟨committed, []⟩ campaignId ++
        if template.campaignId = campaignId ∧ template.status ∈ blockingRedraft then
          [fingerprint number template.profileKey]
        else [] := by
  rw [existingProfileKeyFingerprints, existingProfileKeyFingerprints, Session.rows, Session.rows, List.append_nil,
    List.append_nil, List.filter_append, List.map_append]
  congr 1
  by_cases blocks : template.campaignId = campaignId ∧ template.status ∈ blockingRedraft
  · rw [if_pos blocks, List.filter_singleton, decide_eq_true blocks]
    rfl
  · rw [if_neg blocks, List.filter_singleton, decide_eq_false blocks]
    rfl

/-- What the attempts of a call have left of the session it began with. -/
structure Left (number : ℚ → List Char) (campaignId : ℤ) (before s : Session) (tally : Tally) : Prop where
  settled : s.added = []
  kept : before.committed <+: s.committed
  drafted : ∀ template ∈ tally.templates, template ∈ s.committed
  /-- The templates drafted block their buckets, and nothing else was added that does. -/
  own : existingProfileKeyFingerprints number s campaignId =
    existingProfileKeyFingerprints number before campaignId ++
      tally.templates.map fun template => fingerprint number template.profileKey
  others : ∀ other, other ≠ campaignId →
    existingProfileKeyFingerprints number s other = existingProfileKeyFingerprints number before other
  keyed : (tally.templates.map MessageTemplate.profileKey).Sublist
    (tally.attempted.map fun group => group.profileKey.asDict)

lemma left_start (settled : s.added = []) : Left number campaignId s s {} where
  settled := settled
  kept := List.prefix_refl _
  drafted _ mem := nomatch mem
  own := (List.append_nil _).symm
  others _ _ := rfl
  keyed := .slnil

lemma Left.turn {before : Session} {turn : Session × Tally × Bool} (left : Left number campaignId before s tally)
    (h : Turn campaignId s tally group turn) : Left number campaignId before turn.1 turn.2.1 := by
  have session : s = ⟨s.committed, []⟩ := by
    have settled := left.settled
    cases s
    cases settled
    rfl
  have further : (tally.templates.map MessageTemplate.profileKey).Sublist
      ((tally.attempted ++ [group]).map fun group => group.profileKey.asDict) := by
    rw [List.map_append]
    exact left.keyed.trans (List.sublist_append_left _ _)
  cases h with
  | drafted templateId =>
    refine ⟨rfl, left.kept.trans (List.prefix_append _ _), ?_, ?_, ?_, ?_⟩
    · intro template mem
      rw [List.mem_append] at mem ⊢
      exact mem.imp (left.drafted template) id
    · rw [existing_append, ← session, left.own, if_pos ⟨rfl, List.mem_cons_self ..⟩, List.map_append,
        List.append_assoc]
      rfl
    · intro other ne
      rw [existing_append, ← session, left.others other ne, if_neg fun own => ne own.1.symm, List.append_nil]
    · rw [List.map_append, List.map_append]
      exact left.keyed.append (.refl _)
  | rejected templateId =>
    have free : TemplateStatus.guardrailRejected ∉ blockingRedraft := by decide
    have passes (other : ℤ) : ¬ ((templateOf campaignId group templateId false).campaignId = other ∧
        (templateOf campaignId group templateId false).status ∈ blockingRedraft) := fun blocks => free blocks.2
    refine ⟨rfl, left.kept.trans (List.prefix_append _ _), ?_, ?_, ?_, further⟩
    · intro template mem
      exact List.mem_append_left _ (left.drafted template mem)
    · rw [existing_append, ← session, left.own, if_neg (passes _), List.append_nil]
    · intro other ne
      rw [existing_append, ← session, left.others other ne, if_neg (passes _), List.append_nil]
  | failed => exact { left with keyed := further }
  | lost => exact { left with keyed := further }

/-! ## The order of the buckets -/

lemma keys_groupDueClients (pairs : List (Enrollment × ProfileKey)) :
    (groupDueClients pairs).map DueGroup.profileKey = (Dict.groupBy Prod.snd pairs).keys := by
  rw [groupDueClients, List.map_map]
  rfl

/-- The due buckets are the profiles of the due clients, each once. -/
lemma mem_keys_groupDueClients {pairs : List (Enrollment × ProfileKey)} {key : ProfileKey} :
    key ∈ (groupDueClients pairs).map DueGroup.profileKey ↔ key ∈ pairs.map Prod.snd := by
  rw [keys_groupDueClients, Dict.mem_keys_iff]
  constructor
  · rintro ⟨members, found⟩
    obtain ⟨rfl, some_there⟩ := Dict.mem_items_groupBy.mp ((Dict.mem_items_iff _).mpr found)
    obtain ⟨member, mem⟩ := List.exists_mem_of_ne_nil _ some_there
    rw [List.mem_filter, decide_eq_true_iff] at mem
    exact List.mem_map.mpr ⟨member, mem⟩
  · intro mem
    obtain ⟨member, there, same⟩ := List.mem_map.mp mem
    refine ⟨pairs.filter (Prod.snd · = key), (Dict.mem_items_iff _).mp (Dict.mem_items_groupBy.mpr ⟨rfl, ?_⟩)⟩
    exact List.ne_nil_of_mem (List.mem_filter.mpr ⟨there, decide_eq_true same⟩)

lemma mem_ordered : group ∈ ordered number world campaignId s ↔ group ∈ candidates number world campaignId s :=
  mem_sortBy

lemma mem_candidates : group ∈ candidates number world campaignId s ↔ group ∈ groupDueClients world.pairs ∧
    fingerprint number group.profileKey.asDict ∉ existingProfileKeyFingerprints number s campaignId := by
  rw [candidates, List.mem_filter, decide_eq_true_iff]

/-- No two candidates have a fingerprint. -/
lemma nodup_ordered :
    ((ordered number world campaignId s).map fun group => fingerprint number group.profileKey.asDict).Nodup := by
  have keys : ((ordered number world campaignId s).map DueGroup.profileKey).Nodup := by
    rw [ordered, orderedByPriority, ((sortBy_perm _ _).map _).nodup_iff, candidates]
    apply (List.filter_sublist.map _).nodup
    rw [keys_groupDueClients]
    exact Dict.keys_nodup _
  have mapped : ((ordered number world campaignId s).map fun group => fingerprint number group.profileKey.asDict) =
      ((ordered number world campaignId s).map DueGroup.profileKey).map fun key =>
        fingerprint number key.asDict := by
    rw [List.map_map]
    rfl
  rw [mapped]
  apply keys.map
  intro key key' same
  exact fingerprint_inj same

/-! ## Rejections -/

/-- To reject a template takes no more than its own fingerprint away. -/
lemma existing_reject {templateId : String} (rejected : decideTemplate s templateId .reject = some s') (other : ℤ) :
    (existingProfileKeyFingerprints number s' other).Sublist (existingProfileKeyFingerprints number s other) := by
  have sub : ∀ rows : List MessageTemplate,
      (((rows.map fun row =>
          if row.templateId = templateId then { row with status := statusForOutcome .reject } else row).filter
            fun template => template.campaignId = other ∧ template.status ∈ blockingRedraft).map
              fun template => fingerprint number template.profileKey).Sublist
        ((rows.filter fun template => template.campaignId = other ∧ template.status ∈ blockingRedraft).map
          fun template => fingerprint number template.profileKey) := by
    intro rows
    induction rows with
    | nil => exact .slnil
    | cons row rows ih =>
      have free : ¬ (row.campaignId = other ∧ TemplateStatus.rejected ∈ blockingRedraft) :=
        fun blocks => absurd blocks.2 (by decide)
      rw [List.map_cons]
      by_cases own : row.templateId = templateId
      · rw [if_pos own, List.filter_cons_of_neg]
        · exact ih.trans (((List.sublist_cons_self row rows).filter _).map _)
        · exact fun blocks => free (of_decide_eq_true blocks)
      · rw [if_neg own, List.filter_cons, List.filter_cons]
        split_ifs
        · exact ih.cons_cons _
        · exact ih
  rw [decideTemplate] at rejected
  split at rejected
  · cases rejected
  · split_ifs at rejected
    cases rejected
    rw [existingProfileKeyFingerprints, existingProfileKeyFingerprints, Session.rows, List.append_nil]
    exact sub s.rows

lemma settled_reject {templateId : String} (rejected : decideTemplate s templateId .reject = some s') :
    s'.added = [] := by
  rw [decideTemplate] at rejected
  split at rejected
  · cases rejected
  · split_ifs at rejected
    cases rejected
    rfl

/-! ## Runs -/

inductive Event where
  | call (world : World) (campaignId : ℤ)
  | reject (templateId : String)

/-- Calls that do not overlap, and a reviewer rejecting a template. -/
inductive Step (number : ℚ → List Char) : Session → Event → Session → Prop where
  | call (s : Session) (world : World) (campaignId : ℤ) :
    Step number s (.call world campaignId) (draftTemplatesForCampaign number world campaignId s).session
  | reject {s s' : Session} {templateId : String} (rejected : decideTemplate s templateId .reject = some s') :
    Step number s (.reject templateId) s'

/-- Rejections alone. -/
def Rejecting (s : Session) (templateId : String) (s' : Session) : Prop :=
  decideTemplate s templateId .reject = some s'

/-- No transaction is open, and no fingerprint has two templates that block it. -/
structure OneEach (number : ℚ → List Char) (s : Session) : Prop where
  settled : s.added = []
  once : ∀ campaignId, (existingProfileKeyFingerprints number s campaignId).Nodup

/-- What a call does. -/
structure CallSound (number : ℚ → List Char) (world : World) (campaignId : ℤ) (s : Session) (result : Result) :
    Prop where
  due : ∀ group, group ∈ ordered number world campaignId s ↔ group ∈ groupDueClients world.pairs ∧
    fingerprint number group.profileKey.asDict ∉ existingProfileKeyFingerprints number s campaignId
  /-- More clients come first, then more volume, then the profile key decides. -/
  sorted : (ordered number world campaignId s).Pairwise fun group group' =>
    priority (groupObservedVolumes world.volumeByClient (candidates number world campaignId s)) group ≤
      priority (groupObservedVolumes world.volumeByClient (candidates number world campaignId s)) group'
  tried : result.tally.attempted <+: ordered number world campaignId s
  limit : ∀ limit, effectiveLimit (groupDueClients world.pairs).length world.policy = some limit →
    result.tally.attempted.length ≤ limit
  cap : result.tally.attempted.length ≤ maxDraftsPerCall
  counts : ∀ outcome, result.outcome = some outcome →
    outcome.draftedCount + outcome.failedGuardrails + outcome.failedErrors = result.tally.attempted.length
  returns : (∀ i, world.commits i = true) → result.outcome.isSome
  /-- Nothing is lost of what was there or was drafted. -/
  kept : s.committed <+: result.session.committed
  drafted : ∀ template ∈ result.tally.templates, template ∈ result.session.committed
  /-- A bucket that was tried and not drafted is a candidate of the next call it is due in. -/
  again : ∀ group ∈ result.tally.attempted,
    (∀ template ∈ result.tally.templates, template.profileKey ≠ group.profileKey.asDict) →
      ∀ rejections s', Run Rejecting result.session rejections s' →
        ∀ world' : World, group.profileKey ∈ world'.pairs.map Prod.snd →
          ∃ group' ∈ candidates number world' campaignId s', group'.profileKey = group.profileKey

lemma toDraft_prefix_ordered : toDraft number world campaignId s <+: ordered number world campaignId s := by
  rw [toDraft]
  cases effectiveLimit (groupDueClients world.pairs).length world.policy with
  | none => exact List.take_prefix _ _
  | some limit => exact (List.take_prefix _ _).trans (List.take_prefix _ _)

lemma length_toDraft_le {limit : ℕ}
    (limited : effectiveLimit (groupDueClients world.pairs).length world.policy = some limit) :
    (toDraft number world campaignId s).length ≤ limit := by
  rw [toDraft, limited]
  exact ((List.take_prefix _ _).length_le).trans (List.length_take_le _ _)

/-- The session and the counts of a call are those of its loop. -/
lemma left_of_call (number : ℚ → List Char) (world : World) (campaignId : ℤ) (settled : s.added = []) :
    Left number campaignId s (draftTemplatesForCampaign number world campaignId s).session
        (draftTemplatesForCampaign number world campaignId s).tally ∧
      (draftTemplatesForCampaign number world campaignId s).tally.attempted <+:
        toDraft number world campaignId s := by
  have all : ([] : List DueGroup) ++ toDraft number world campaignId s = toDraft number world campaignId s := rfl
  have loop : Left number campaignId s (draftGroups world campaignId 0 s {} (toDraft number world campaignId s)).1
      (draftGroups world campaignId 0 s {} (toDraft number world campaignId s)).2.1 ∧ _ ∧ _ :=
    draftGroups_induction settled all (left_start settled) fun _ _ _ _ left => left.turn
  exact ⟨loop.1, loop.2.1⟩

/-- A fingerprint that blocks after a call blocked before it or is one of a template it drafted. -/
lemma Left.once {before : Session} (left : Left number campaignId before s tally)
    (tried : tally.attempted <+: ordered number world campaignId before) (one : OneEach number before) :
    OneEach number s where
  settled := left.settled
  once := by
    intro other
    by_cases own : other = campaignId
    · subst own
      rw [left.own, List.nodup_append]
      have distinct : ((ordered number world other before).map fun group =>
          fingerprint number group.profileKey.asDict).Nodup := nodup_ordered
      have sub := tried.sublist.map fun group => fingerprint number group.profileKey.asDict
      have attempted := sub.nodup distinct
      have among := left.keyed.map (fingerprint number)
      rw [List.map_map, List.map_map] at among
      refine ⟨one.once other, among.nodup attempted, ?_⟩
      rintro print blocked print' drafted rfl
      obtain ⟨group, mem, rfl⟩ := List.mem_map.mp (among.subset drafted)
      have candidate := mem_candidates.mp (mem_ordered.mp (tried.subset mem))
      exact candidate.2 blocked
    · rw [left.others other own]
      exact one.once other

/-- A call keeps what holds between calls. -/
lemma OneEach.call (one : OneEach number s) (world : World) (campaignId : ℤ) :
    OneEach number (draftTemplatesForCampaign number world campaignId s).session := by
  obtain ⟨left, tried⟩ := left_of_call number world campaignId one.settled
  exact left.once (tried.trans toDraft_prefix_ordered) one

lemma OneEach.reject {templateId : String} (one : OneEach number s)
    (rejected : decideTemplate s templateId .reject = some s') : OneEach number s' where
  settled := settled_reject rejected
  once other := (existing_reject rejected other).nodup (one.once other)

lemma OneEach.run {events : List Event} (one : OneEach number s) (run : Run (Step number) s events s') :
    OneEach number s' := by
  apply run.invariant (OneEach number) one
  intro t event u kept step
  cases step with
  | call => exact kept.call _ _
  | reject rejected => exact kept.reject rejected

/-- Rejections make no fingerprint block. -/
lemma existing_rejections {rejections : List String} (run : Run Rejecting s rejections s') (other : ℤ)
    {print : List Char} (free : print ∉ existingProfileKeyFingerprints number s other) :
    print ∉ existingProfileKeyFingerprints number s' other := by
  apply run.invariant (fun s => print ∉ existingProfileKeyFingerprints number s other) free
  intro t templateId u kept rejected blocked
  exact kept ((existing_reject rejected other).subset blocked)

lemma call_sound (one : OneEach number s) :
    CallSound number world campaignId s (draftTemplatesForCampaign number world campaignId s) := by
  obtain ⟨left, tried⟩ := left_of_call number world campaignId one.settled
  have ordered := tried.trans toDraft_prefix_ordered
  refine ⟨fun _ => mem_ordered.trans mem_candidates, sortBy_pairwise _ _, ordered, ?_, ?_, ?_, ?_, left.kept,
    left.drafted, ?_⟩
  · intro limit limited
    exact tried.length_le.trans (length_toDraft_le limited)
  · exact tried.length_le.trans (List.length_take_le _ _)
  · intro outcome returned
    rw [draftTemplatesForCampaign] at returned
    dsimp only at returned
    split_ifs at returned with returns
    cases returned
    exact draftGroups_counts one.settled rfl returns
  · intro commits
    rw [draftTemplatesForCampaign]
    dsimp only
    rw [if_pos (draftGroups_returns commits)]
    rfl
  · intro group mem undrafted rejections s' run world' due
    have candidate := mem_candidates.mp (mem_ordered.mp (ordered.subset mem))
    obtain ⟨group', there, same⟩ := List.mem_map.mp (mem_keys_groupDueClients.mpr due)
    refine ⟨group', mem_candidates.mpr ⟨there, ?_⟩, same⟩
    rw [same]
    apply existing_rejections run
    rw [left.own, List.mem_append, not_or]
    refine ⟨candidate.2, ?_⟩
    intro drafted
    obtain ⟨template, listed, print⟩ := List.mem_map.mp drafted
    obtain ⟨other, _, key⟩ := List.mem_map.mp (left.keyed.subset (List.mem_map_of_mem listed))
    rw [← key] at print
    obtain keys := fingerprint_inj print
    exact undrafted template listed (by rw [← key, keys])

/-- One client is due and the draft for its bucket is accepted. -/
def oneBucket : World where
  pairs := [(⟨1, 7⟩, ⟨"pick_up_again", none, "money market", false, false, false, false, none, false, false, "email"⟩)]
  policy := ⟨some 5, none⟩
  volumeByClient := Dict.empty
  attempts := fun _ => .drafts "t1" true
  exhausted := fun _ => false
  commits := fun _ => true

end ClientEngagement.Campaigns.Templates
