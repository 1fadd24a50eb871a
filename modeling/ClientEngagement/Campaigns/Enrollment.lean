import ClientEngagement.Campaigns.Tables
import ClientEngagement.Lib.KeyOrder
import ClientEngagement.Lib.Runs

/-!
# One contact row per person

Model of `campaigns/enrollment.py`: which of the clients that share a name is contacted, as the preview
computes it (`primaryFlagsFromMaps`) and as the database does (`rankPrimaryFlags`, `_rank_primary_flags` with
its window function), and `enrollCohort` (`enroll_cohort`). `flags_agree_iff` says for which names the two
agree.
-/

namespace ClientEngagement.Campaigns
open Rules (Instant)

/-- The names of `pii_vault`. -/
abbrev VaultNames := Dict ClientId (Option String)

def VaultNames.nameOf (vault : VaultNames) (clientId : ClientId) : Option String := vault.getD clientId none

/-- `names.get(client_id) or None`. -/
def VaultNames.filled (vault : VaultNames) (clientId : ClientId) : Option String :=
  (vault.nameOf clientId).filter (· ≠ "")

/-- `_fetch_client_names`. -/
def fetchClientNames (vault : VaultNames) (clientIds : List ClientId) : Dict ClientId (Option String) :=
  .ofList (clientIds.map fun clientId => (clientId, vault.filled clientId))

/-- `_relationship_values`, read from `clients.total_purchase_amount`. -/
def relationshipValues (purchases : Dict ClientId ℚ) (clientIds : List ClientId) : Dict ClientId ℚ :=
  purchases.filterKeys (· ∈ clientIds)

/-- The larger relationship first, then the lower id. -/
def rankKey (values : Dict ClientId ℚ) (clientId : ClientId) : ℚ ×ₗ ClientId :=
  toLex (-values.getD clientId 0, clientId)

/-! ## The preview's flags -/

/-- Flags one client, given the flags so far and the names that are taken. -/
def flagNext (names : Dict ClientId (Option String)) (state : Dict ClientId Bool × List String)
    (clientId : ClientId) : Dict ClientId Bool × List String :=
  match (names.getD clientId none).filter (· ≠ "") with
  | none => (state.1.set clientId true, state.2)
  | some name =>
    if name ∈ state.2 then (state.1.set clientId false, state.2)
    else (state.1.set clientId true, name :: state.2)

def primaryFlagsFromMaps (clientIds : List ClientId) (names : Dict ClientId (Option String))
    (values : Dict ClientId ℚ) (alreadyClaimedNames : List String) : Dict ClientId Bool :=
  ((sortBy (rankKey values) clientIds).foldl (flagNext names) (.empty, alreadyClaimedNames)).1

/-! ## The database's flags -/

/-- `coalesce(pv.client_name, p.client_id::text)`. -/
def partitionKey (vault : VaultNames) (clientId : ClientId) : String :=
  (vault.nameOf clientId).getD (toString clientId)

/-- `row_number()` over the rows of the same key, best rank first. -/
def rowNumber (vault : VaultNames) (values : Dict ClientId ℚ) (pool : List ClientId) (clientId : ClientId) : ℕ :=
  (sortBy (rankKey values) (pool.filter fun other =>
    partitionKey vault other = partitionKey vault clientId)).idxOf clientId + 1

/-- `pv.client_name IS NULL OR NOT (pv.client_name = ANY(claimed))`. -/
def unclaimed (vault : VaultNames) (alreadyClaimedNames : List String) (clientId : ClientId) : Bool :=
  match vault.nameOf clientId with
  | none => true
  | some name => name ∉ alreadyClaimedNames

def rankPrimaryFlags (vault : VaultNames) (values : Dict ClientId ℚ) (pool : List ClientId)
    (alreadyClaimedNames : List String) : Dict ClientId Bool :=
  .ofList (pool.map fun clientId =>
    (clientId, rowNumber vault values pool clientId = 1 && unclaimed vault alreadyClaimedNames clientId))

/-! ## Enrolling -/

abbrev EnrollmentTable := Dict (CampaignId × ClientId) Enrollment

/-- What one call did, with the values it ranked by. -/
structure EnrollCall where
  campaignId : CampaignId
  clientIds : List ClientId
  values : Dict ClientId ℚ
  created : List Enrollment

/-- The enrollments, the sequence behind `enrollment_id`, and the calls so far. -/
structure EnrollWorld where
  enrollments : EnrollmentTable := .empty
  nextEnrollmentId : EnrollmentId := 1
  calls : List EnrollCall := []

/-- The names of the clients the campaign contacts already. -/
def claimedNames (vault : VaultNames) (table : EnrollmentTable) (campaignId : CampaignId) : List String :=
  let alreadyPrimaryIds := table.items.filterMap fun row =>
    if row.1.1 = campaignId ∧ row.2.isPrimaryContactRow = true then some row.1.2 else none
  (fetchClientNames vault alreadyPrimaryIds).items.filterMap Prod.snd

/-- `_resolve_primary_flags`. -/
def resolvePrimaryFlags (vault : VaultNames) (purchases : Dict ClientId ℚ) (table : EnrollmentTable)
    (campaignId : CampaignId) (newClientIds : List ClientId) : Dict ClientId Bool :=
  rankPrimaryFlags vault (relationshipValues purchases newClientIds) newClientIds
    (claimedNames vault table campaignId)

/-- The ids of the cohort, each once, that the campaign has not enrolled. -/
def newClientIds (table : EnrollmentTable) (campaignId : CampaignId) (clientIds : List ClientId) :
    List ClientId :=
  (Dict.ofList (clientIds.map fun clientId => (clientId, ()))).keys.filter fun clientId =>
    ¬ table.contains (campaignId, clientId)

/-- The rows of the new clients, with ids from the sequence. -/
def createdRows (flags : Dict ClientId Bool) (campaignId : CampaignId) (now : Instant) :
    EnrollmentId → List ClientId → List Enrollment
  | _, [] => []
  | next, clientId :: rest =>
    { enrollmentId := next
      campaignId := campaignId
      clientId := clientId
      isPrimaryContactRow := flags.getD clientId true
      enrolledAt := now } :: createdRows flags campaignId now (next + 1) rest

/-- Inserts the new rows; a client that is not on file breaks a foreign key. -/
def enrollCohort (vault : VaultNames) (purchases : Dict ClientId ℚ) (now : Instant) (w : EnrollWorld)
    (campaignId : CampaignId) (clientIds : List ClientId) : Option EnrollWorld :=
  let newIds := newClientIds w.enrollments campaignId clientIds
  let flags := resolvePrimaryFlags vault purchases w.enrollments campaignId newIds
  let created := createdRows flags campaignId now w.nextEnrollmentId newIds
  if ∃ clientId ∈ newIds, clientId ∉ purchases.keys then none
  else
    some
      { enrollments := created.foldl (fun rows row => rows.set (campaignId, row.clientId) row) w.enrollments
        nextEnrollmentId := w.nextEnrollmentId + created.length
        calls := w.calls ++ [⟨campaignId, clientIds, relationshipValues purchases newIds, created⟩] }

/-- One call: the relationship values, and the clock, may be others at each. -/
structure EnrollLabel where
  purchases : Dict ClientId ℚ
  now : Instant
  campaignId : CampaignId
  clientIds : List ClientId

def EnrollStep (vault : VaultNames) (w : EnrollWorld) (l : EnrollLabel) (w' : EnrollWorld) : Prop :=
  enrollCohort vault l.purchases l.now w l.campaignId l.clientIds = some w'

/-! ## Which client of a name comes first -/

section Flags
variable {vault : VaultNames} {values : Dict ClientId ℚ} {claimed : List String} {clientIds pool : List ClientId}
  {clientId other : ClientId} {name : String}

/-- The one of two clients that the ranking puts first. -/
def Ahead (values : Dict ClientId ℚ) (first second : ClientId) : Prop :=
  rankKey values first < rankKey values second

instance : Decidable (Ahead values clientId other) :=
  inferInstanceAs (Decidable (rankKey values clientId < rankKey values other))

lemma rankKey_inj {first second : ClientId} (same : rankKey values first = rankKey values second) :
    first = second :=
  congrArg (fun key => (ofLex key).2) same

lemma ahead_or_ahead {first second : ClientId} (ne : first ≠ second) :
    Ahead values first second ∨ Ahead values second first :=
  lt_or_gt_of_ne fun same => ne (rankKey_inj same)

lemma not_ahead_self : ¬ Ahead values clientId clientId := lt_irrefl _

lemma Ahead.asymm {first second : ClientId} (h : Ahead values first second) : ¬ Ahead values second first :=
  lt_asymm h

/-- Some client of a non-empty list is behind none of the others. -/
lemma exists_first (values : Dict ClientId ℚ) {l : List ClientId} (mem : clientId ∈ l) :
    ∃ first ∈ l, ∀ other ∈ l, ¬ Ahead values other first := by
  obtain ⟨first, least⟩ := minBy_isSome (f := rankKey values) (List.ne_nil_of_mem mem)
  refine ⟨first, minBy_mem least, ?_⟩
  intro other among ahead
  exact absurd (minBy_le least among) (not_le_of_gt ahead)

/-! ### The greedy pass -/

/-- The name the pass looks at. -/
def passName (names : Dict ClientId (Option String)) (clientId : ClientId) : Option String :=
  (names.getD clientId none).filter (· ≠ "")

variable {names : Dict ClientId (Option String)} {state : Dict ClientId Bool × List String}

lemma flagNext_nameless (nameless : passName names clientId = none) :
    flagNext names state clientId = (state.1.set clientId true, state.2) := by
  rw [passName] at nameless
  rw [flagNext, nameless]

lemma flagNext_named (named : passName names clientId = some name) : flagNext names state clientId =
    if name ∈ state.2 then (state.1.set clientId false, state.2)
    else (state.1.set clientId true, name :: state.2) := by
  rw [passName] at named
  rw [flagNext, named]

/-- After a pass the taken names are those before it and those of the clients it went over. -/
lemma mem_claimed_foldl (names : Dict ClientId (Option String)) (name : String) (l : List ClientId)
    (state : Dict ClientId Bool × List String) :
    name ∈ (l.foldl (flagNext names) state).2 ↔
      name ∈ state.2 ∨ ∃ id ∈ l, passName names id = some name := by
  induction l generalizing state with
  | nil => simp
  | cons id l ih =>
    rw [List.foldl_cons, ih, List.exists_mem_cons_iff, ← or_assoc]
    apply or_congr_left
    cases named : passName names id with
    | none =>
      rw [flagNext_nameless named]
      simp
    | some own =>
      rw [flagNext_named named]
      split_ifs with taken
      · constructor
        · exact Or.inl
        · intro either
          rcases either with before | same
          · exact before
          · cases same
            exact taken
      · simp only [List.mem_cons, Option.some.injEq]
        constructor
        · intro either
          rcases either with rfl | before
          · exact Or.inr rfl
          · exact Or.inl before
        · intro either
          rcases either with before | rfl
          · exact Or.inr before
          · exact Or.inl rfl

lemma get?_flagNext_ne (ne : other ≠ clientId) :
    (flagNext names state clientId).1.get? other = state.1.get? other := by
  cases named : passName names clientId with
  | none => rw [flagNext_nameless named, Dict.get?_set_ne _ _ ne]
  | some own =>
    rw [flagNext_named named]
    split_ifs
    · exact Dict.get?_set_ne _ _ ne
    · exact Dict.get?_set_ne _ _ ne

lemma get?_foldl_flagNext {l : List ClientId} (absent : clientId ∉ l) :
    (l.foldl (flagNext names) state).1.get? clientId = state.1.get? clientId := by
  induction l generalizing state with
  | nil => rfl
  | cons id l ih =>
    rw [List.mem_cons, not_or] at absent
    rw [List.foldl_cons, ih absent.2, get?_flagNext_ne absent.1]

/-- The flag of a client depends on the clients the pass went over before it. -/
lemma get?_pass (names : Dict ClientId (Option String)) (claimed : List String) (before : List ClientId)
    {after : List ClientId} (once : clientId ∉ after) :
    ((before ++ clientId :: after).foldl (flagNext names) (.empty, claimed)).1.get? clientId =
      some (match passName names clientId with
        | none => true
        | some name => decide (name ∉ claimed ∧ ∀ id ∈ before, passName names id ≠ some name)) := by
  rw [List.foldl_append, List.foldl_cons, get?_foldl_flagNext once]
  cases named : passName names clientId with
  | none => rw [flagNext_nameless named, Dict.get?_set_self]
  | some name =>
    rw [flagNext_named named]
    have taken := mem_claimed_foldl names name before (.empty, claimed)
    split_ifs with mem
    · rw [taken] at mem
      rw [Dict.get?_set_self, eq_comm, Option.some_inj, decide_eq_false_iff_not]
      rintro ⟨free, nobody⟩
      rcases mem with claimed | ⟨id, earlier, same⟩
      · exact free claimed
      · exact nobody id earlier same
    · rw [taken, not_or] at mem
      rw [Dict.get?_set_self, eq_comm, Option.some_inj, decide_eq_true_iff]
      exact ⟨mem.1, fun id earlier same => mem.2 ⟨id, earlier, same⟩⟩

/-- What stands before a client in the ranking is what is ahead of it. -/
lemma mem_before_iff {l before after : List ClientId} (split : sortBy (rankKey values) l = before ++ clientId :: after)
    (once : clientId ∉ before) : other ∈ before ↔ other ∈ l ∧ Ahead values other clientId := by
  have ordered := sortBy_pairwise (rankKey values) l
  rw [split, List.pairwise_append] at ordered
  have among : other ∈ l ↔ other ∈ before ++ clientId :: after := by
    rw [← split, mem_sortBy]
  constructor
  · intro mem
    refine ⟨among.mpr (List.mem_append_left _ mem), ?_⟩
    have le := ordered.2.2 other mem clientId List.mem_cons_self
    exact lt_of_le_of_ne le fun same => once (rankKey_inj same ▸ mem)
  · intro ⟨mem, ahead⟩
    rw [among, List.mem_append, List.mem_cons] at mem
    rcases mem with mem | rfl | behind
    · exact mem
    · exact absurd ahead not_ahead_self
    · exact absurd ((List.pairwise_cons.mp ordered.2.1).1 other behind) (not_le_of_gt ahead)

lemma passName_fetch (mem : clientId ∈ clientIds) :
    passName (fetchClientNames vault clientIds) clientId = vault.filled clientId := by
  rw [passName, fetchClientNames, Dict.getD, Dict.get?_ofList_map, if_pos mem, Option.getD_some, VaultNames.filled]
  cases vault.nameOf clientId with
  | none => rfl
  | some name => by_cases empty : name = "" <;> simp [Option.filter, empty]

/-- The preview flags a client exactly when it has no name, or a free one that nobody ahead has. -/
lemma get?_primaryFlags (distinct : clientIds.Nodup) (mem : clientId ∈ clientIds) :
    ∃ flag, (primaryFlagsFromMaps clientIds (fetchClientNames vault clientIds) values claimed).get? clientId =
        some flag ∧
      (flag = true ↔ ∀ name, vault.filled clientId = some name → name ∉ claimed ∧
        ∀ other ∈ clientIds, vault.filled other = some name → ¬ Ahead values other clientId) := by
  have ranked : clientId ∈ sortBy (rankKey values) clientIds := mem_sortBy.mpr mem
  obtain ⟨before, after, split⟩ := List.append_of_mem ranked
  have nodup := (sortBy_perm (rankKey values) clientIds).nodup_iff.mpr distinct
  rw [split, List.nodup_append, List.nodup_cons] at nodup
  have once : clientId ∉ before := fun earlier => nodup.2.2 _ earlier _ List.mem_cons_self rfl
  have flagged := get?_pass (fetchClientNames vault clientIds) claimed before nodup.2.1.1
  rw [← split] at flagged
  refine ⟨_, flagged, ?_⟩
  rw [passName_fetch mem]
  cases named : vault.filled clientId with
  | none => simp
  | some name =>
    simp only [decide_eq_true_iff]
    constructor
    · intro ⟨free, nobody⟩ name' same
      cases same
      refine ⟨free, ?_⟩
      intro other among own ahead
      apply nobody other ((mem_before_iff split once).mpr ⟨among, ahead⟩)
      rw [passName_fetch among, own]
    · intro first
      refine ⟨(first name rfl).1, ?_⟩
      intro other earlier own
      obtain ⟨among, ahead⟩ := (mem_before_iff split once).mp earlier
      rw [passName_fetch among] at own
      exact (first name rfl).2 other among own ahead

/-! ### The window function -/

lemma rowNumber_eq_one (mem : clientId ∈ pool) : rowNumber vault values pool clientId = 1 ↔
    ∀ other ∈ pool, partitionKey vault other = partitionKey vault clientId → ¬ Ahead values other clientId := by
  have own : clientId ∈ pool.filter fun other => partitionKey vault other = partitionKey vault clientId :=
    List.mem_filter.mpr ⟨mem, decide_eq_true rfl⟩
  have ranked := mem_sortBy (f := rankKey values).mpr own
  have least := sortBy_pairwise (rankKey values)
    (pool.filter fun other => partitionKey vault other = partitionKey vault clientId)
  rw [rowNumber, Nat.add_eq_right]
  constructor
  · intro first other among same ahead
    have listed := mem_sortBy (f := rankKey values).mpr
      (List.mem_filter.mpr ⟨among, decide_eq_true same⟩ :
        other ∈ pool.filter fun other => partitionKey vault other = partitionKey vault clientId)
    cases sorted : sortBy (rankKey values)
        (pool.filter fun other => partitionKey vault other = partitionKey vault clientId) with
    | nil =>
      rw [sorted] at ranked
      cases ranked
    | cons head rest =>
      rw [sorted] at first least listed
      rw [List.idxOf_cons] at first
      have head_eq : head = clientId := by
        by_contra ne
        rw [beq_false_of_ne ne, cond_false] at first
        exact Nat.succ_ne_zero _ first
      subst head_eq
      rcases List.mem_cons.mp listed with rfl | behind
      · exact not_ahead_self ahead
      · exact absurd ((List.pairwise_cons.mp least).1 other behind) (not_le_of_gt ahead)
  · intro nobody
    cases sorted : sortBy (rankKey values)
        (pool.filter fun other => partitionKey vault other = partitionKey vault clientId) with
    | nil =>
      rw [sorted] at ranked
      cases ranked
    | cons head rest =>
      have listed : head ∈ sortBy (rankKey values)
          (pool.filter fun other => partitionKey vault other = partitionKey vault clientId) := by
        rw [sorted]
        exact List.mem_cons_self
      obtain ⟨among, same⟩ := List.mem_filter.mp (mem_sortBy.mp listed)
      rw [sorted] at ranked least
      rcases List.mem_cons.mp ranked with rfl | behind
      · exact List.idxOf_cons_self
      · have le := (List.pairwise_cons.mp least).1 clientId behind
        have key := eq_of_le_of_not_lt le (nobody head among (of_decide_eq_true same))
        rw [rankKey_inj key]
        exact List.idxOf_cons_self

/-- The database flags a client exactly when it is the first of its key and its name is free. -/
lemma get?_rankFlags (mem : clientId ∈ pool) :
    ∃ flag, (rankPrimaryFlags vault values pool claimed).get? clientId = some flag ∧
      (flag = true ↔ (∀ other ∈ pool, partitionKey vault other = partitionKey vault clientId →
          ¬ Ahead values other clientId) ∧
        ∀ name, vault.nameOf clientId = some name → name ∉ claimed) := by
  have flagged := Dict.get?_ofList_map (fun clientId =>
    decide (rowNumber vault values pool clientId = 1) && unclaimed vault claimed clientId) pool clientId
  rw [if_pos mem] at flagged
  refine ⟨_, flagged, ?_⟩
  rw [Bool.and_eq_true, decide_eq_true_iff, rowNumber_eq_one mem, unclaimed]
  apply and_congr_right'
  cases vault.nameOf clientId with
  | none => simp
  | some name => simp

/-! ## Where the two agree -/

lemma toString_inj {first second : ClientId} (same : toString first = toString second) : first = second := by
  rw [Int.toString_eq_repr, Int.toString_eq_repr] at same
  exact Int.repr_injective same

lemma toString_ne_empty (clientId : ClientId) : toString clientId ≠ "" := by
  rw [Int.toString_eq_repr]
  cases clientId with
  | ofNat n =>
    intro empty
    have digits := congrArg String.toList empty
    rw [show (Int.ofNat n).repr = n.repr from rfl, Nat.toList_repr] at digits
    exact Nat.toDigits_ne_nil digits
  | negSucc n =>
    intro empty
    have length := congrArg String.length empty
    rw [show (Int.negSucc n).repr = "-" ++ (n + 1).repr from rfl, String.length_append] at length
    exact absurd length (by simp)

lemma filled_eq_some : vault.filled clientId = some name ↔ vault.nameOf clientId = some name ∧ name ≠ "" := by
  rw [VaultNames.filled]
  cases vault.nameOf clientId with
  | none => simp
  | some own =>
    by_cases empty : own = ""
    · subst empty
      simp only [Option.filter, ne_eq, not_true_eq_false, decide_false, Bool.false_eq_true, if_false]
      constructor
      · nofun
      · intro ⟨same, filled⟩
        cases same
        exact absurd rfl filled
    · simp only [Option.filter, ne_eq, empty, not_false_eq_true, decide_true, if_true]
      constructor
      · intro same
        cases same
        exact ⟨rfl, empty⟩
      · exact And.left

lemma partitionKey_named (named : vault.nameOf clientId = some name) : partitionKey vault clientId = name := by
  rw [partitionKey, named, Option.getD_some]

lemma partitionKey_nameless (nameless : vault.nameOf clientId = none) :
    partitionKey vault clientId = toString clientId := by
  rw [partitionKey, nameless, Option.getD_none]

/-- What the pool's names must be for the two ways to flag it alike: the empty name is no name, and no name is
    mistaken for the id of a client without one. -/
structure NamesApart (vault : VaultNames) (values : Dict ClientId ℚ) (claimed : List String)
    (pool : List ClientId) : Prop where
  empty_free : ∀ clientId ∈ pool, vault.nameOf clientId = some "" → "" ∉ claimed
  empty_once : ∀ clientId ∈ pool, ∀ other ∈ pool,
    vault.nameOf clientId = some "" → vault.nameOf other = some "" → clientId = other
  id_claimed : ∀ clientId ∈ pool, ∀ other ∈ pool, vault.nameOf clientId = none →
    vault.nameOf other = some (toString clientId) → toString clientId ∈ claimed ∧ Ahead values clientId other

/-- The preview of a client. -/
def PreviewFirst (vault : VaultNames) (values : Dict ClientId ℚ) (claimed : List String) (pool : List ClientId)
    (clientId : ClientId) : Prop :=
  ∀ name, vault.filled clientId = some name → name ∉ claimed ∧
    ∀ other ∈ pool, vault.filled other = some name → ¬ Ahead values other clientId

/-- The flag of a client in the database. -/
def WindowFirst (vault : VaultNames) (values : Dict ClientId ℚ) (claimed : List String) (pool : List ClientId)
    (clientId : ClientId) : Prop :=
  (∀ other ∈ pool, partitionKey vault other = partitionKey vault clientId → ¬ Ahead values other clientId) ∧
    ∀ name, vault.nameOf clientId = some name → name ∉ claimed

lemma same_iff_first (distinct : pool.Nodup) :
    (primaryFlagsFromMaps pool (fetchClientNames vault pool) values claimed).Same
        (rankPrimaryFlags vault values pool claimed) ↔
      ∀ clientId ∈ pool, (PreviewFirst vault values claimed pool clientId ↔
        WindowFirst vault values claimed pool clientId) := by
  constructor
  · intro same clientId mem
    obtain ⟨flag, preview, means⟩ := get?_primaryFlags
      distinct mem
    obtain ⟨flag', window, means'⟩ := get?_rankFlags mem
    have eq := same clientId
    rw [preview, window, Option.some_inj] at eq
    rw [PreviewFirst, WindowFirst, ← means, ← means', eq]
  · intro agree clientId
    by_cases mem : clientId ∈ pool
    · obtain ⟨flag, preview, means⟩ := get?_primaryFlags
        distinct mem
      obtain ⟨flag', window, means'⟩ := get?_rankFlags mem
      have iff := agree clientId mem
      rw [PreviewFirst, WindowFirst, ← means, ← means'] at iff
      rw [preview, window, Bool.eq_iff_iff.mpr iff]
    · have ranked : clientId ∉ sortBy (rankKey values) pool := fun h => mem (mem_sortBy.mp h)
      rw [primaryFlagsFromMaps, get?_foldl_flagNext ranked, rankPrimaryFlags, Dict.get?_ofList_map, if_neg mem]
      rfl

/-- Two clients of one key share a name, or the name of one is the id of the other. -/
lemma partitionKey_eq {first second : ClientId} (same : partitionKey vault second = partitionKey vault first)
    (named : vault.nameOf first = some name) :
    vault.nameOf second = some name ∨ (vault.nameOf second = none ∧ toString second = name) := by
  rw [partitionKey_named named] at same
  cases other : vault.nameOf second with
  | none =>
    rw [partitionKey_nameless other] at same
    exact Or.inr ⟨rfl, same⟩
  | some own =>
    rw [partitionKey_named other] at same
    rw [same]
    exact Or.inl rfl

lemma NamesApart.agree (apart : NamesApart vault values claimed pool) (mem : clientId ∈ pool) :
    PreviewFirst vault values claimed pool clientId ↔ WindowFirst vault values claimed pool clientId := by
  cases named : vault.nameOf clientId with
  | none =>
    have preview : PreviewFirst vault values claimed pool clientId := by
      intro name filled
      rw [filled_eq_some, named] at filled
      cases filled.1
    refine ⟨fun _ => ⟨?_, ?_⟩, fun _ => preview⟩
    · intro other among same ahead
      cases own : vault.nameOf other with
      | none =>
        rw [partitionKey_nameless own, partitionKey_nameless named] at same
        rw [toString_inj same] at ahead
        exact not_ahead_self ahead
      | some name =>
        rw [partitionKey_named own, partitionKey_nameless named] at same
        subst same
        exact (apart.id_claimed clientId mem other among named own).2.asymm ahead
    · intro name other
      rw [named] at other
      cases other
  | some name =>
    by_cases empty : name = ""
    · subst empty
      have preview : PreviewFirst vault values claimed pool clientId := by
        intro name filled
        rw [filled_eq_some, named] at filled
        cases filled.1
        exact absurd rfl filled.2
      refine ⟨fun _ => ⟨?_, ?_⟩, fun _ => preview⟩
      · intro other among same ahead
        rcases partitionKey_eq same named with own | ⟨_, text⟩
        · rw [apart.empty_once clientId mem other among named own] at ahead
          exact not_ahead_self ahead
        · exact toString_ne_empty other text
      · intro name own
        rw [named] at own
        cases own
        exact apart.empty_free clientId mem named
    · have filled : vault.filled clientId = some name := filled_eq_some.mpr ⟨named, empty⟩
      constructor
      · intro preview
        obtain ⟨free, nobody⟩ := preview name filled
        refine ⟨?_, ?_⟩
        · intro other among same ahead
          rcases partitionKey_eq same named with own | ⟨nameless, text⟩
          · exact nobody other among (filled_eq_some.mpr ⟨own, empty⟩) ahead
          · rw [← text] at named free
            exact free (apart.id_claimed other among clientId mem nameless named).1
        · intro own same
          rw [named] at same
          cases same
          exact free
      · intro ⟨first, free⟩ own same
        rw [filled_eq_some, named] at same
        cases same.1
        refine ⟨free name named, ?_⟩
        intro other among also
        apply first other among
        rw [partitionKey_named named, partitionKey_named (filled_eq_some.mp also).1]

lemma namesApart_of_agree (agree : ∀ clientId ∈ pool, (PreviewFirst vault values claimed pool clientId ↔
    WindowFirst vault values claimed pool clientId)) : NamesApart vault values claimed pool := by
  have empty_first {id : ClientId} (mem : id ∈ pool) (empty : vault.nameOf id = some "") :
      WindowFirst vault values claimed pool id := by
    apply (agree id mem).mp
    intro name filled
    rw [filled_eq_some, empty] at filled
    cases filled.1
    exact absurd rfl filled.2
  have id_first {id : ClientId} (mem : id ∈ pool) (nameless : vault.nameOf id = none) :
      WindowFirst vault values claimed pool id := by
    apply (agree id mem).mp
    intro name filled
    rw [filled_eq_some, nameless] at filled
    cases filled.1
  have behind {id other : ClientId} (mem : id ∈ pool) (among : other ∈ pool) (nameless : vault.nameOf id = none)
      (named : vault.nameOf other = some (toString id)) : Ahead values id other := by
    have ne : id ≠ other := by
      rintro rfl
      rw [nameless] at named
      cases named
    have key : partitionKey vault other = partitionKey vault id := by
      rw [partitionKey_named named, partitionKey_nameless nameless]
    rcases ahead_or_ahead ne with ahead | ahead
    · exact ahead
    · exact absurd ahead ((id_first mem nameless).1 other among key)
  refine ⟨?_, ?_, ?_⟩
  · intro id mem empty
    exact (empty_first mem empty).2 "" empty
  · intro id mem other among empty empty'
    have key : partitionKey vault other = partitionKey vault id := by
      rw [partitionKey_named empty, partitionKey_named empty']
    by_contra ne
    rcases ahead_or_ahead ne with ahead | ahead
    · exact (empty_first among empty').1 id mem key.symm ahead
    · exact (empty_first mem empty).1 other among key ahead
  · intro id mem other among nameless named
    refine ⟨?_, behind mem among nameless named⟩
    by_contra free
    have own : other ∈ pool.filter fun c => vault.nameOf c = some (toString id) :=
      List.mem_filter.mpr ⟨among, decide_eq_true named⟩
    obtain ⟨first, listed, nobody⟩ := exists_first values own
    obtain ⟨first_mem, first_named⟩ := List.mem_filter.mp listed
    have first_named := of_decide_eq_true first_named
    have preview : PreviewFirst vault values claimed pool first := by
      intro name filled
      rw [filled_eq_some, first_named] at filled
      cases filled.1
      refine ⟨free, ?_⟩
      intro c c_mem c_named
      exact nobody c (List.mem_filter.mpr ⟨c_mem, decide_eq_true (filled_eq_some.mp c_named).1⟩)
    have key : partitionKey vault id = partitionKey vault first := by
      rw [partitionKey_named first_named, partitionKey_nameless nameless]
    exact ((agree first first_mem).mp preview).1 id mem key (behind mem first_mem nameless first_named)

end Flags

end ClientEngagement.Campaigns
