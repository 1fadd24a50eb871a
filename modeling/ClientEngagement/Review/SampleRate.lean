import ClientEngagement.Lib.Runs
import ClientEngagement.Review.Cohorts

/-!
# What share of a cohort is read

Concurrent calls of `assign_cohort_slot` for one cohort that is sampling. Its `UPDATE ... RETURNING` locks
the row until its transaction ends, so one transaction at a time has claims that are not yet committed. The
samples stand `round(1 / rate)` slots apart, which is the rate only where `1 / rate` is a whole number:
`sample_share_iff` says how large a drift the cap still hides.
-/

namespace ClientEngagement.Review
open Rules (TierSpec validateTiers tierError tierChecks)
open Privacy (roundHalfEven)

/-- The environment that divides and rounds exactly. -/
def Env.exact (env : Env) : Env := { env with roundInverse := fun rate => roundHalfEven (1 / rate) }

structure Slot where
  number : ℤ
  isSample : Bool
deriving DecidableEq

/-- The transaction that holds the row lock: the row as it left it and the slots it claimed. -/
structure Claimant where
  transaction : ℕ
  cohort : ReviewCohort
  slots : List Slot

structure Claims where
  cohort : ReviewCohort
  slots : List Slot := []
  claimant : Option Claimant := none

/-- The slots claimed so far, those of the open transaction last. -/
def Claims.claimed (s : Claims) : List Slot := s.slots ++ (s.claimant.map Claimant.slots).getD []

inductive ClaimLabel where
  | claim (transaction : ℕ)
  | commit
  | rollback

/-- The slot that `assign_cohort_slot` claims of a row. -/
def nextSlot (env : Env) (cohort : ReviewCohort) : Slot where
  number := cohort.assignedCount + 1
  isSample := (assignCohortSlot env cohort).2

inductive ClaimStep (env : Env) (s : Claims) : ClaimLabel → Claims → Prop where
  /-- The lock is free: the update reads the committed row. -/
  | first {transaction} (free : s.claimant = none) :
      ClaimStep env s (.claim transaction)
        { s with
          claimant := some
            { transaction := transaction
              cohort := (assignCohortSlot env s.cohort).1
              slots := [nextSlot env s.cohort] } }
  /-- The transaction that holds the lock reads its own update; all others wait. -/
  | again {claimant} (holds : s.claimant = some claimant) :
      ClaimStep env s (.claim claimant.transaction)
        { s with
          claimant := some
            { claimant with
              cohort := (assignCohortSlot env claimant.cohort).1
              slots := claimant.slots ++ [nextSlot env claimant.cohort] } }
  | commit {claimant} (holds : s.claimant = some claimant) :
      ClaimStep env s .commit
        { cohort := claimant.cohort
          slots := s.slots ++ claimant.slots }
  | rollback {claimant} (holds : s.claimant = some claimant) :
      ClaimStep env s .rollback { s with claimant := none }

/-- A cohort nobody has claimed a slot of. -/
def unclaimed (campaignId : Campaigns.CampaignId) (priorityTier : String) (rate : ℚ) (cap : Option ℤ) :
    Claims where
  cohort :=
    { campaignId := campaignId
      priorityTier := priorityTier
      sampleRate := some rate
      sampleCap := cap }

/-! ## The slots -/

/-- How far apart the samples stand. -/
def spacing (rate : ℚ) : ℤ := max 1 (roundHalfEven (1 / rate))

/-- The first `n` slots of a cohort. -/
def firstSlots (env : Env) (rate : ℚ) (cap : Option ℤ) (n : ℕ) : List Slot :=
  (List.range n).map fun (i : ℕ) => ⟨i + 1, isSampleSlot env (i + 1) (some rate) cap⟩

def samples (slots : List Slot) : ℕ := slots.countP Slot.isSample

variable {env : Env} {rate : ℚ} {cap : Option ℤ} {campaignId : Campaigns.CampaignId} {priorityTier : String}
  {s t : Claims} {ls : List ClaimLabel} {l : ClaimLabel}

lemma firstSlots_succ (n : ℕ) :
    firstSlots env rate cap (n + 1) =
      firstSlots env rate cap n ++ [⟨n + 1, isSampleSlot env (n + 1) (some rate) cap⟩] := by
  rw [firstSlots, List.range_succ, List.map_append]
  rfl

lemma length_firstSlots (n : ℕ) : (firstSlots env rate cap n).length = n := by
  rw [firstSlots, List.length_map, List.length_range]

/-- A row that has counted the slots claimed of it. -/
structure Counted (env : Env) (rate : ℚ) (cap : Option ℤ) (cohort : ReviewCohort) (slots : List Slot) :
    Prop where
  sampling : cohort.status = .sampling
  sampleRate : cohort.sampleRate = some rate
  sampleCap : cohort.sampleCap = cap
  count : cohort.assignedCount = slots.length
  slots : slots = firstSlots env rate cap slots.length

lemma Counted.claim {cohort : ReviewCohort} {slots : List Slot} (counted : Counted env rate cap cohort slots) :
    Counted env rate cap (assignCohortSlot env cohort).1 (slots ++ [nextSlot env cohort]) where
  sampling := counted.sampling
  sampleRate := counted.sampleRate
  sampleCap := counted.sampleCap
  count := by
    rw [List.length_append, List.length_singleton, assignCohortSlot, counted.count]
    push_cast
    rfl
  slots := by
    have next : nextSlot env cohort =
        ⟨slots.length + 1, isSampleSlot env (slots.length + 1) (some rate) cap⟩ := by
      rw [nextSlot, assignCohortSlot, if_neg (not_not.mpr counted.sampling), counted.count, counted.sampleRate,
        counted.sampleCap]
    rw [List.length_append, List.length_singleton, firstSlots_succ, ← counted.slots, next]

/-- The committed row counts the committed slots, the row of the open transaction all of them. -/
structure Claims.Ordered (env : Env) (rate : ℚ) (cap : Option ℤ) (s : Claims) : Prop where
  committed : Counted env rate cap s.cohort s.slots
  pending : ∀ claimant, s.claimant = some claimant →
    Counted env rate cap claimant.cohort (s.slots ++ claimant.slots)

lemma Claims.Ordered.step (ordered : s.Ordered env rate cap) (st : ClaimStep env s l t) :
    t.Ordered env rate cap := by
  cases st with
  | first free =>
    refine ⟨ordered.committed, fun claimant holds => ?_⟩
    cases holds
    exact ordered.committed.claim
  | again holds =>
    refine ⟨ordered.committed, fun claimant holds' => ?_⟩
    cases holds'
    rw [← List.append_assoc]
    exact (ordered.pending _ holds).claim
  | commit holds => exact ⟨ordered.pending _ holds, nofun⟩
  | rollback holds => exact ⟨ordered.committed, nofun⟩

/-- Whatever the order of the claims, the slots are the first ones. -/
lemma claimed_eq (r : Run (ClaimStep env) (unclaimed campaignId priorityTier rate cap) ls s) :
    s.claimed = firstSlots env rate cap s.claimed.length := by
  have ordered : s.Ordered env rate cap := by
    apply r.invariant
    · exact ⟨⟨rfl, rfl, rfl, rfl, rfl⟩, nofun⟩
    · intro t l u ordered st
      exact ordered.step st
  cases holds : s.claimant with
  | none =>
    rw [show s.claimed = s.slots by simp [Claims.claimed, holds]]
    exact ordered.committed.slots
  | some claimant =>
    rw [show s.claimed = s.slots ++ claimant.slots by simp [Claims.claimed, holds]]
    exact (ordered.pending claimant holds).slots

/-- Any number of slots can be claimed. -/
lemma exists_claimed (n : ℕ) :
    ∃ ls s, Run (ClaimStep env) (unclaimed campaignId priorityTier rate cap) ls s ∧ s.claimed.length = n := by
  induction n with
  | zero => exact ⟨[], _, .nil, rfl⟩
  | succ n ih =>
    obtain ⟨ls, s, r, length⟩ := ih
    cases holds : s.claimant with
    | none =>
      have next : ClaimStep env s (.claim 0) _ := .first holds
      refine ⟨_, _, r.snoc next, ?_⟩
      rw [← length]
      simp [Claims.claimed, holds]
    | some claimant =>
      refine ⟨_, _, r.snoc (.again holds), ?_⟩
      rw [← length]
      simp [Claims.claimed, holds, Nat.add_assoc]

/-! ## The samples among them -/

/-- No more than the cap, if there is one. -/
def atMost (cap : Option ℤ) (n : ℤ) : ℤ := cap.elim n (min n)

lemma spacing_pos (rate : ℚ) : 1 ≤ spacing rate := le_max_left _ _

/-- With a positive rate, a slot is a sample when it is a whole number of spacings past the first. -/
lemma isSampleSlot_exact (positive : 0 < rate) (capped : ∀ c ∈ cap, 1 ≤ c) (n : ℕ) :
    isSampleSlot env.exact (n + 1) (some rate) cap =
      decide ((n : ℤ) % spacing rate = 0 ∧ ∀ c ∈ cap, 1 + (n : ℤ) / spacing rate ≤ c) := by
  have offset : (n : ℤ) + 1 - 1 = n := by omega
  rw [isSampleSlot, if_neg (by omega)]
  by_cases first : n = 0
  · subst first
    rw [if_pos (by rfl)]
    symm
    simpa using capped
  · rw [if_neg (by omega), if_neg (not_le.mpr positive), offset]
    change (if (n : ℤ) % spacing rate ≠ 0 then false else _) = _
    by_cases apart : (n : ℤ) % spacing rate = 0
    · rw [if_neg (not_not.mpr apart)]
      change cap.all (fun cap => decide (1 + (n : ℤ) / spacing rate ≤ cap)) = _
      cases cap with
      | none => simp [apart]
      | some c => simp [apart]
    · rw [if_pos apart]
      simp [apart]

/-- Stepping over a multiple of the divisor adds one to the quotient. -/
lemma add_one_ediv {every : ℤ} (positive : 1 ≤ every) (n : ℕ) :
    ((n : ℤ) + 1) / every = n / every + if ((n : ℤ) + 1) % every = 0 then 1 else 0 := by
  obtain ⟨k, rfl⟩ := Int.eq_ofNat_of_zero_le (by omega : 0 ≤ every)
  have step := @Nat.succ_div n k
  simp only [Nat.dvd_iff_mod_eq_zero] at step
  exact_mod_cast step

lemma atMost_le {n c : ℤ} (mem : c ∈ cap) : atMost cap n ≤ c := by
  cases mem
  exact min_le_right n c

lemma atMost_add_one (capped : ∀ c ∈ cap, 1 ≤ c) (n : ℤ) :
    atMost cap (n + 1) = atMost cap n + if ∀ c ∈ cap, n + 1 ≤ c then 1 else 0 := by
  cases cap with
  | none => simp [atMost]
  | some c =>
    simp only [atMost, Option.elim, Option.mem_some_iff, forall_eq']
    split_ifs <;> omega

/-- One sample at the start and one after each spacing, up to the cap. -/
lemma samples_firstSlots (positive : 0 < rate) (capped : ∀ c ∈ cap, 1 ≤ c) (n : ℕ) :
    (samples (firstSlots env.exact rate cap (n + 1)) : ℤ) = atMost cap (1 + n / spacing rate) := by
  induction n with
  | zero =>
    have one : atMost cap 1 = 1 := by
      cases cap with
      | none => rfl
      | some c => exact min_eq_left (capped c rfl)
    rw [firstSlots_succ]
    simpa [samples, firstSlots, isSampleSlot_first] using one.symm
  | succ n ih =>
    have last : samples [⟨(n + 1 : ℕ) + 1, isSampleSlot env.exact ((n + 1 : ℕ) + 1) (some rate) cap⟩] =
        if ((n : ℤ) + 1) % spacing rate = 0 ∧ ∀ c ∈ cap, 1 + ((n : ℤ) + 1) / spacing rate ≤ c then 1
        else 0 := by
      rw [samples, List.countP_singleton, isSampleSlot_exact positive capped]
      simp only [decide_eq_true_eq]
      push_cast
      rfl
    have both : samples (firstSlots env.exact rate cap (n + 1 + 1)) = _ :=
      (congrArg samples (firstSlots_succ (n + 1))).trans List.countP_append
    rw [both]
    change ((samples _ + samples _ : ℕ) : ℤ) = _
    rw [last]
    push_cast
    rw [ih, add_one_ediv (spacing_pos rate)]
    by_cases next : ((n : ℤ) + 1) % spacing rate = 0
    · simp only [next, if_true, true_and]
      rw [← add_assoc, atMost_add_one capped]
    · simp [next]

/-! ## The share -/

/-- The claimed slots are numbered from one, and the samples among them keep to the cap and, below it, to
    the rate. -/
structure FollowsRate (rate : ℚ) (cap : Option ℤ) (claimed : List Slot) : Prop where
  numbers : claimed.map Slot.number = (List.range claimed.length).map fun (i : ℕ) => (i : ℤ) + 1
  first : claimed ≠ [] → ⟨1, true⟩ ∈ claimed
  some_read : claimed ≠ [] → 1 ≤ samples claimed
  capped : ∀ c ∈ cap, (samples claimed : ℤ) ≤ c
  share : claimed ≠ [] → (∀ c ∈ cap, (samples claimed : ℤ) < c) →
    rate * claimed.length - 1 ≤ samples claimed ∧ (samples claimed : ℚ) ≤ rate * claimed.length + 1

/-- The spacing is the rate's own, or the cap is reached before the drift shows. -/
def KeepsShare (rate : ℚ) (cap : Option ℤ) : Prop :=
  rate = 0 ∨
    match cap with
    | none => rate * spacing rate = 1
    | some cap => (cap - 2) * (1 - rate * spacing rate) ≤ rate ∧ (cap - 1) * (rate * spacing rate - 1) ≤ 1

/-- The drift after `q` spacings: how much too many samples, and how many too few before the next one. -/
def Drifts (rate : ℚ) (q : ℚ) : Prop :=
  q * (1 - rate * spacing rate) ≤ rate ∧ (q + 1) * (rate * spacing rate - 1) ≤ 1

/-- No spacing drifts by half a slot or more. -/
lemma spacing_le (positive : 0 < rate) (most : rate ≤ 1) : rate * spacing rate - 1 ≤ rate := by
  have rounded : (roundHalfEven (1 / rate) : ℚ) ≤ 1 / rate + 1 := by
    have floor := Int.floor_le (1 / rate)
    simp only [roundHalfEven]
    split_ifs <;> push_cast <;> linarith
  have least : (1 : ℚ) ≤ 1 / rate := (one_le_div positive).mpr most
  have apart : (spacing rate : ℚ) ≤ 1 / rate + 1 := by
    rw [spacing]
    push_cast
    exact max_le (by linarith) rounded
  calc rate * spacing rate - 1 ≤ rate * (1 / rate + 1) - 1 := by gcongr
    _ = rate := by field_simp; ring

/-- The worst drift is that of the last spacing before the cap. -/
lemma keepsShare_iff (positive : 0 < rate) (most : rate ≤ 1) (capped : ∀ c ∈ cap, 1 ≤ c) :
    KeepsShare rate cap ↔ ∀ q : ℕ, (∀ c ∈ cap, 1 + (q : ℤ) < c) → Drifts rate q := by
  have nonzero : rate ≠ 0 := positive.ne'
  simp only [KeepsShare, Drifts, nonzero, false_or]
  generalize rate_def : rate * spacing rate = drift
  have drifts_least := spacing_le positive most
  rw [rate_def] at drifts_least
  cases cap with
  | none =>
    constructor
    · rintro rfl q -
      constructor <;> linarith
    · intro all
      rcases lt_trichotomy drift 1 with few | exactly | many
      · obtain ⟨q, large⟩ := exists_nat_gt (rate / (1 - drift))
        have drifted := (all q fun _ capped => absurd capped (Option.not_mem_none _)).1
        rw [div_lt_iff₀ (by linarith)] at large
        linarith
      · exact exactly
      · obtain ⟨q, large⟩ := exists_nat_gt (1 / (drift - 1))
        have drifted := (all q fun _ capped => absurd capped (Option.not_mem_none _)).2
        rw [div_lt_iff₀ (by linarith)] at large
        linarith
  | some c =>
    have least : (1 : ℤ) ≤ c := capped c rfl
    simp only [Option.mem_some_iff, forall_eq']
    constructor
    · intro h q below
      have inside : (q : ℚ) + 2 ≤ c := by exact_mod_cast (by omega : (q : ℤ) + 2 ≤ c)
      have start : (0 : ℚ) ≤ q := q.cast_nonneg
      rcases le_total drift 1 with few | many
      · constructor <;> nlinarith
      · constructor <;> nlinarith
    · intro all
      rcases eq_or_lt_of_le least with rfl | two
      · push_cast
        constructor <;> linarith
      · obtain ⟨q, q_def⟩ := Int.eq_ofNat_of_zero_le (by omega : 0 ≤ c - 2)
        have last := all q (by omega)
        have value : (c : ℚ) = q + 2 := by exact_mod_cast (by omega : c = q + 2)
        rw [value]
        constructor <;> linarith [last.1, last.2]

/-- With `q` spacings behind it, a number of samples below the cap is the rate's share exactly when it has not
    drifted. -/
lemma share_iff (positive : 0 < rate) (capped : ∀ c ∈ cap, 1 ≤ c) :
    (∀ n : ℕ, (∀ c ∈ cap, atMost cap (1 + n / spacing rate) < c) →
        rate * (n + 1) - 1 ≤ atMost cap (1 + n / spacing rate) ∧
          (atMost cap (1 + n / spacing rate) : ℚ) ≤ rate * (n + 1) + 1) ↔
      ∀ q : ℕ, (∀ c ∈ cap, 1 + (q : ℤ) < c) → Drifts rate q := by
  have below (k : ℤ) (small : ∀ c ∈ cap, k < c) : atMost cap k = k := by
    cases cap with
    | none => rfl
    | some c => exact min_eq_left (small c rfl).le
  have small_of_below (k : ℤ) (small : ∀ c ∈ cap, atMost cap k < c) : ∀ c ∈ cap, k < c := by
    rintro c rfl
    have least := small c rfl
    simp only [atMost, Option.elim] at least
    omega
  obtain ⟨every, every_def⟩ := Int.eq_ofNat_of_zero_le (by linarith [spacing_pos rate] : 0 ≤ spacing rate)
  have least : 1 ≤ every := by exact_mod_cast every_def ▸ spacing_pos rate
  simp only [Drifts, every_def]
  push_cast
  constructor
  · intro all q small
    have quotient (j : ℕ) (inside : j < every) : ((q * every + j : ℕ) : ℤ) / every = q := by
      rw [← Int.natCast_div, mul_comm, Nat.mul_add_div (by omega), Nat.div_eq_of_lt inside, add_zero]
    have kept := below _ small
    constructor
    · have start := all (q * every + 0)
      rw [quotient 0 (by omega), kept] at start
      have high := (start small).2
      push_cast at high
      linarith
    · have last := all (q * every + (every - 1))
      rw [quotient (every - 1) (by omega), kept] at last
      have low := (last small).1
      push_cast [least] at low
      linarith
  · intro all n small
    have few := small_of_below _ small
    rw [below _ few]
    have parts : (n : ℚ) = every * (n / every : ℕ) + (n % every : ℕ) := by
      exact_mod_cast (Nat.div_add_mod n every).symm
    have rest : ((n % every : ℕ) : ℚ) + 1 ≤ every := by exact_mod_cast Nat.mod_lt n least
    have start : (0 : ℚ) ≤ (n % every : ℕ) := Nat.cast_nonneg _
    obtain ⟨high, low⟩ := all (n / every) (by exact_mod_cast few)
    have quotient : (((n : ℤ) / every : ℤ) : ℚ) = (n / every : ℕ) := by norm_cast
    push_cast [quotient]
    generalize ((n / every : ℕ) : ℚ) = q at *
    rw [parts]
    constructor
    · have more : rate * (every * q + (n % every : ℕ) + 1) ≤ rate * (every * q + every) := by
        apply mul_le_mul_of_nonneg_left _ positive.le
        linarith
      linarith
    · have less : rate * (every * q + 1) ≤ rate * (every * q + (n % every : ℕ) + 1) := by
        apply mul_le_mul_of_nonneg_left _ positive.le
        linarith
      linarith

/-- Where only the first slot is a sample, the share of none is kept. -/
lemma samples_of_zero (n : ℕ) : samples (firstSlots env.exact 0 cap (n + 1)) = 1 := by
  induction n with
  | zero => simp [samples, firstSlots, isSampleSlot_first]
  | succ n ih =>
    have last : isSampleSlot env.exact ((n + 1 : ℕ) + 1) (some 0) cap = false := by
      rw [isSampleSlot, if_neg (by omega), if_neg (by omega), if_pos le_rfl]
    rw [firstSlots_succ, last]
    simpa [samples] using ih

/-- What `validate_tiers` lets through is a rate. -/
lemma cohortSampleRate_of_accepted {tiers : List TierSpec} {spec : TierSpec}
    (accepted : validateTiers tiers = .ok ()) (listed : spec ∈ tiers) (sampled : spec.cohortSampleRate = some rate) : 0 ≤ rate ∧ rate ≤ 1 := by
  have checked : ((fun spec : TierSpec => spec.cohortSampleRate.any fun rate => ¬ (0 ≤ rate ∧ rate ≤ 1)),
      "cohort_sample_rate out of range") ∈ tierChecks := by simp [tierChecks]
  have check := Rules.passes_of_accepted accepted listed checked
  simpa [sampled] using check

/-- The first slots of a cohort follow the rate, however many there are, exactly when it is kept. -/
lemma followsRate_firstSlots (low : 0 ≤ rate) (most : rate ≤ 1) (capped : ∀ c ∈ cap, 1 ≤ c) :
    (∀ n, FollowsRate rate cap (firstSlots env.exact rate cap n)) ↔ KeepsShare rate cap := by
  have numbers (n : ℕ) : (firstSlots env.exact rate cap n).map Slot.number =
      (List.range (firstSlots env.exact rate cap n).length).map fun (i : ℕ) => (i : ℤ) + 1 := by
    rw [length_firstSlots, firstSlots, List.map_map]
    rfl
  have first (n : ℕ) (some_claimed : firstSlots env.exact rate cap n ≠ []) :
      ⟨1, true⟩ ∈ firstSlots env.exact rate cap n := by
    cases n with
    | zero => exact absurd rfl some_claimed
    | succ n =>
      refine List.mem_map.mpr ⟨0, List.mem_range.mpr n.succ_pos, ?_⟩
      simp [isSampleSlot_first]
  have read (n : ℕ) (some_claimed : firstSlots env.exact rate cap n ≠ []) :
      1 ≤ samples (firstSlots env.exact rate cap n) :=
    List.countP_pos_iff.mpr ⟨_, first n some_claimed, rfl⟩
  rcases eq_or_lt_of_le low with rfl | positive
  · refine iff_of_true (fun n => ?_) (.inl rfl)
    cases n with
    | zero =>
      refine ⟨numbers 0, first 0, read 0, fun c mem => ?_, fun none_claimed => absurd rfl none_claimed⟩
      exact zero_le_one.trans (capped c mem)
    | succ n =>
      refine ⟨numbers (n + 1), first (n + 1), read (n + 1), fun c mem => ?_, fun _ _ => ?_⟩
      · rw [samples_of_zero]
        exact capped c mem
      · rw [samples_of_zero]
        norm_num
  · rw [keepsShare_iff positive most capped, ← share_iff positive capped]
    constructor
    · intro all n small
      have claimed : firstSlots env.exact rate cap (n + 1) ≠ [] := by simp [firstSlots]
      have share := (all (n + 1)).share claimed
      rw [samples_firstSlots positive capped, length_firstSlots] at share
      have both := share small
      rw [← Int.cast_natCast (samples _), samples_firstSlots positive capped] at both
      exact_mod_cast both
    · intro all n
      cases n with
      | zero =>
        refine ⟨numbers 0, first 0, read 0, fun c mem => ?_, fun none_claimed => absurd rfl none_claimed⟩
        exact zero_le_one.trans (capped c mem)
      | succ n =>
        refine ⟨numbers (n + 1), first (n + 1), read (n + 1), fun c mem => ?_, fun _ small => ?_⟩
        · rw [samples_firstSlots positive capped]
          exact atMost_le mem
        · rw [samples_firstSlots positive capped] at small
          rw [← Int.cast_natCast (samples _), samples_firstSlots positive capped, length_firstSlots]
          exact_mod_cast all n small

/-- The review sample follows its rate in every order of concurrent claims, however many there are, exactly
    where the rounded spacing drifts by less than a message before the cap is reached. -/
theorem sample_share_iff {tiers : List TierSpec} {spec : TierSpec} (accepted : validateTiers tiers = .ok ())
    (listed : spec ∈ tiers) (sampled : spec.cohortSampleRate = some rate) (capped : ∀ c ∈ cap, 1 ≤ c) :
    (∀ ls s, Run (ClaimStep env.exact) (unclaimed campaignId priorityTier rate cap) ls s →
      FollowsRate rate cap s.claimed) ↔ KeepsShare rate cap := by
  obtain ⟨low, most⟩ := cohortSampleRate_of_accepted accepted listed sampled
  have kept : (∀ n, FollowsRate rate cap (firstSlots env.exact rate cap n)) ↔ KeepsShare rate cap :=
    followsRate_firstSlots low most capped
  rw [← kept]
  constructor
  · intro all n
    obtain ⟨ls, s, r, length⟩ := exists_claimed n
    have follows := all ls s r
    rw [claimed_eq r, length] at follows
    exact follows
  · intro all ls s r
    rw [claimed_eq r]
    exact all s.claimed.length

/-! ## Two rates -/

def exactEnv : Env :=
  Env.exact
    { today := 0
      format := { amount := fun _ => "", general := fun _ => "", plain := fun _ => "", month := fun _ => "" }
      roundInverse := fun _ => 1 }

def hotLeadsAt (rate : ℚ) : TierSpec where
  tier := "hot_leads"
  displayName := "Hot leads"
  primaryChannel := "email"
  maxWords := 100
  signOff := "Regards"
  humanApproval := true
  reviewSampleRate := 1
  cohortSampleRate := some rate

/-- One message in twenty, up to twenty-five. -/
theorem sample_share_iff_twentieth :
    validateTiers [hotLeadsAt (1 / 20)] = .ok () ∧
      ∀ ls s, Run (ClaimStep exactEnv) (unclaimed 1 "hot_leads" (1 / 20) (some 25)) ls s →
        FollowsRate (1 / 20) (some 25) s.claimed := by
  have kept : KeepsShare (1 / 20) (some 25) := by
    have every : spacing (1 / 20) = 20 := by decide +kernel
    right
    simp only [every]
    norm_num
  have accepted : validateTiers [hotLeadsAt (1 / 20)] = .ok () := by decide +kernel
  exact ⟨accepted, (sample_share_iff accepted (.head _) rfl (by simp)).mpr kept⟩

/-- At seven in ten every message is a sample: `1 / 0.7` rounds to one. -/
theorem seven_in_ten_reads_all :
    validateTiers [hotLeadsAt (7 / 10)] = .ok () ∧
      ∃ ls s, Run (ClaimStep exactEnv) (unclaimed 1 "hot_leads" (7 / 10) none) ls s ∧
        s.claimed.length = 10 ∧ samples s.claimed = 10 ∧ ¬ FollowsRate (7 / 10) none s.claimed := by
  refine ⟨by decide +kernel, ?_⟩
  have ten : ∃ ls s, Run (ClaimStep exactEnv) (unclaimed 1 "hot_leads" (7 / 10) none) ls s ∧
      s.claimed.length = 10 := exists_claimed 10
  obtain ⟨ls, s, r, length⟩ := ten
  have all : samples s.claimed = 10 := by
    rw [claimed_eq r, length]
    decide +kernel
  refine ⟨ls, s, r, length, all, fun follows => ?_⟩
  have share := (follows.share (List.ne_nil_of_length_pos (by omega)) fun _ capped => absurd capped (Option.not_mem_none _)).2
  rw [all, length] at share
  norm_num at share

end ClientEngagement.Review
