import ClientEngagement.Transform.Features

/-!
# The withdrawal cluster

What `withdrawalCluster` (`_withdrawal_cluster`) makes of a client's lifetime deposits and the days of its
real sales, against the definition of the clusters: `Gradual` and `Frequent` say it over the sales in any
order, with the median as a relation (`IsMedian`). The two agree but where the median gap is zero
(`follows_iff`).
-/

namespace ClientEngagement.Transform

/-- The middle value of the values in order, or the mean of the two in the middle. -/
def IsMedian (values : List ℚ) (m : ℚ) : Prop :=
  ∃ ordered : List ℚ, ordered.Perm values ∧ ordered.Pairwise (· ≤ ·) ∧
    ((∃ k, ordered.length = 2 * k + 1 ∧ m = ordered.getD k 0) ∨
      ∃ k, ordered.length = 2 * k + 2 ∧ m = (ordered.getD k 0 + ordered.getD (k + 1) 0) / 2)

/-- The median gap between consecutive sales, repeats of a day kept. -/
def IsMedianGap (dates : List Day) (gap : ℚ) : Prop :=
  ∃ ordered : List Day, ordered.Perm dates ∧ ordered.Pairwise (· ≤ ·) ∧ IsMedian (gapsOf ordered) gap

/-- At least `GRADUAL_WITHDRAWAL_COUNT` sales that span at least `DECLINE_LOOKBACK_DAYS`. -/
def Gradual (dates : List Day) : Prop :=
  3 ≤ dates.length ∧ ∃ first ∈ dates, ∃ last ∈ dates, (180 : ℤ) ≤ last - first

/-- At least `FREQUENT_WITHDRAWAL_COUNT` sales, `FREQUENT_GAP_DAYS` apart at most. -/
def Frequent (dates : List Day) : Prop :=
  2 ≤ dates.length ∧ ∃ gap, IsMedianGap dates gap ∧ gap ≤ 30

/-- The cluster of a client above the low-depositor line. -/
def Clustered (dates : List Day) (tier : PriorityTier) : Prop :=
  (Gradual dates ∧ tier = .gradualWithdrawers) ∨
    (¬ Gradual dates ∧ Frequent dates ∧ tier = .frequentWithdrawers) ∨
    (¬ Gradual dates ∧ ¬ Frequent dates ∧ tier = .oneTimeWithdrawers)

/-- What a client deposited over all its relationships. -/
def lifetimeDeposits (result : FlattenResult) (clientId : ClientId) : ℚ :=
  ((rowsOfClient result clientId).map ClientRow.totalPurchaseAmount).sum

/-- The cluster follows its definition in whatever order the sales arrive, called on the days and over a
    flattened run. -/
structure FollowsDefinition (lifetime : ℚ) (dates : List Day) : Prop where
  cluster : 6000 < lifetime → ∀ arrived : List Day, arrived.Perm dates →
    Clustered dates (withdrawalCluster lifetime arrived)
  order : ∀ arrived : List Day, arrived.Perm dates →
    withdrawalCluster lifetime arrived = withdrawalCluster lifetime dates
  feature : ∀ derivation result features row,
    deriveFeatures derivation result (deriveRelationshipMeasures derivation result) = some features →
    row ∈ features → lifetimeDeposits result row.clientId = lifetime →
    (realSaleDates result row.clientId).Perm dates →
    row.priorityTier = withdrawalCluster lifetime dates

lemma isMedian_iff {values : List ℚ} {m : ℚ} : IsMedian values m ↔ values ≠ [] ∧ m = median values := by
  have length : (sortBy id values).length = values.length := length_sortBy id values
  constructor
  · rintro ⟨ordered, perm, sorted, middle⟩
    have eq : ordered = sortBy id values :=
      (perm.trans (sortBy_perm id values).symm).eq_of_pairwise' sorted (sortBy_pairwise id values)
    subst eq
    rcases middle with ⟨k, odd, rfl⟩ | ⟨k, even, rfl⟩
    · refine ⟨fun empty => ?_, ?_⟩
      · rw [empty] at odd
        cases odd
      · have half : (2 * k + 1) / 2 = k := by omega
        simp only [median]
        rw [odd, if_pos (by omega), half]
    · refine ⟨fun empty => ?_, ?_⟩
      · rw [empty] at even
        cases even
      · have low : (2 * k + 2) / 2 - 1 = k := by omega
        have high : (2 * k + 2) / 2 = k + 1 := by omega
        simp only [median]
        rw [even, if_neg (by omega), low, high]
  · rintro ⟨nonempty, rfl⟩
    refine ⟨sortBy id values, sortBy_perm id values, sortBy_pairwise id values, ?_⟩
    have positive : 0 < (sortBy id values).length := by
      rw [length]
      exact List.length_pos_of_ne_nil nonempty
    simp only [median]
    rcases Nat.even_or_odd' (sortBy id values).length with ⟨k, even | odd⟩
    · right
      refine ⟨k - 1, by omega, ?_⟩
      have low : 2 * k / 2 - 1 = k - 1 := by omega
      have high : 2 * k / 2 = k - 1 + 1 := by omega
      rw [even, if_neg (by omega), low, high]
    · left
      refine ⟨k, odd, ?_⟩
      have half : (2 * k + 1) / 2 = k := by omega
      rw [odd, if_pos (by omega), half]

lemma length_gapsOf (dates : List Day) : (gapsOf dates).length = dates.length - 1 := by
  simp only [gapsOf, List.length_zipWith, List.length_tail]
  omega

/-- `_typical_gap` is the median gap, where there are two sales. -/
lemma typicalGap_eq {dates : List Day} {gap : ℚ} :
    typicalGap dates = some gap ↔ IsMedianGap dates gap := by
  rw [typicalGap]
  constructor
  · intro typical
    split at typical
    · cases typical
    · rename_i two
      cases typical
      refine ⟨sortBy id dates, sortBy_perm id dates, sortBy_pairwise id dates, isMedian_iff.mpr ⟨?_, rfl⟩⟩
      intro empty
      have none := length_gapsOf (sortBy id dates)
      rw [empty, length_sortBy, List.length_nil] at none
      omega
  · rintro ⟨ordered, perm, sorted, middle⟩
    have eq : ordered = sortBy id dates :=
      (perm.trans (sortBy_perm id dates).symm).eq_of_pairwise' sorted (sortBy_pairwise id dates)
    subst eq
    obtain ⟨some, rfl⟩ := isMedian_iff.mp middle
    have count := length_gapsOf (sortBy id dates)
    rw [length_sortBy] at count
    have positive := List.length_pos_of_ne_nil some
    rw [if_neg (by omega)]

/-- The span of the code is reached by two of the sales. -/
lemma span_iff {dates : List Day} (nonempty : dates ≠ []) :
    (180 : ℤ) ≤ (dates.max?.getD 0 : ℤ) - dates.min?.getD 0 ↔
      ∃ first ∈ dates, ∃ last ∈ dates, (180 : ℤ) ≤ last - first := by
  obtain ⟨low, isLow⟩ := Option.isSome_iff_exists.mp (List.isSome_min?_of_ne_nil nonempty)
  obtain ⟨high, isHigh⟩ := Option.isSome_iff_exists.mp (List.isSome_max?_of_ne_nil nonempty)
  rw [isLow, isHigh, Option.getD_some, Option.getD_some]
  obtain ⟨lowMem, least⟩ := List.min?_eq_some_iff.mp isLow
  obtain ⟨highMem, greatest⟩ := List.max?_eq_some_iff.mp isHigh
  constructor
  · intro span
    exact ⟨low, lowMem, high, highMem, span⟩
  · rintro ⟨first, firstMem, last, lastMem, span⟩
    exact span.trans (sub_le_sub (greatest last lastMem) (least first firstMem))

lemma gradual_iff {dates : List Day} :
    (3 ≤ dates.length ∧ (180 : ℤ) ≤ (dates.max?.getD 0 : ℤ) - dates.min?.getD 0) ↔ Gradual dates := by
  rw [Gradual]
  refine and_congr_right fun three => span_iff ?_
  intro empty
  rw [empty] at three
  cases three

/-- The sales the code calls frequent: a median gap of zero is not seen. -/
lemma seen_iff {dates : List Day} :
    (2 ≤ dates.length ∧ (typicalGap dates).any (fun gap => gap ≠ 0 ∧ gap ≤ 30)) ↔
      2 ≤ dates.length ∧ ∃ gap, IsMedianGap dates gap ∧ gap ≠ 0 ∧ gap ≤ 30 := by
  refine and_congr_right fun _ => ?_
  rw [Option.any_eq_true]
  simp only [typicalGap_eq, decide_eq_true_eq]

lemma withdrawalCluster_above {lifetime : ℚ} (above : 6000 < lifetime) (dates : List Day) :
    (Gradual dates ∧ withdrawalCluster lifetime dates = .gradualWithdrawers) ∨
      (¬ Gradual dates ∧ (2 ≤ dates.length ∧ ∃ gap, IsMedianGap dates gap ∧ gap ≠ 0 ∧ gap ≤ 30) ∧
        withdrawalCluster lifetime dates = .frequentWithdrawers) ∨
      (¬ Gradual dates ∧ ¬ (2 ≤ dates.length ∧ ∃ gap, IsMedianGap dates gap ∧ gap ≠ 0 ∧ gap ≤ 30) ∧
        withdrawalCluster lifetime dates = .oneTimeWithdrawers) := by
  have funded : ¬ lifetime ≤ 0 := by linarith
  have beyond : ¬ lifetime ≤ 6000 := by linarith
  rw [withdrawalCluster, if_neg funded, if_neg beyond]
  by_cases gradual : Gradual dates
  · rw [if_pos (gradual_iff.mpr gradual)]
    exact .inl ⟨gradual, rfl⟩
  · rw [if_neg (fun found => gradual (gradual_iff.mp found))]
    by_cases seen : 2 ≤ dates.length ∧ ∃ gap, IsMedianGap dates gap ∧ gap ≠ 0 ∧ gap ≤ 30
    · rw [if_pos (seen_iff.mpr seen)]
      exact .inr (.inl ⟨gradual, seen, rfl⟩)
    · rw [if_neg (fun found => seen (seen_iff.mp found))]
      exact .inr (.inr ⟨gradual, seen, rfl⟩)

lemma IsMedianGap.unique {dates : List Day} {gap gap' : ℚ} (median : IsMedianGap dates gap)
    (median' : IsMedianGap dates gap') : gap = gap' := by
  rw [← typicalGap_eq] at median median'
  exact Option.some.inj (median.symm.trans median')

/-- The tier of a feature row is the cluster of the client's deposits and real sales. -/
lemma priorityTier_eq {derivation : Derivation} {result : FlattenResult} {features : List FeatureRow}
    {row : FeatureRow}
    (derived : deriveFeatures derivation result (deriveRelationshipMeasures derivation result) =
      some features) (mem : row ∈ features) :
    row.priorityTier = withdrawalCluster (lifetimeDeposits result row.clientId)
      (realSaleDates result row.clientId) := by
  rw [deriveFeatures_eq] at derived
  cases derived
  obtain ⟨clientId, _, made⟩ := List.mem_filterMap.mp mem
  obtain ⟨primary, _, rfl⟩ := Option.map_eq_some_iff.mp made
  have total : ((largestFirst (rowsOfClient result clientId)).map ClientRow.totalPurchaseAmount).sum =
      lifetimeDeposits result clientId := ((sortBy_perm _ _).map _).sum_eq
  show withdrawalCluster ((largestFirst (rowsOfClient result clientId)).map
    ClientRow.totalPurchaseAmount).sum (realSaleDates result clientId) = _
  rw [total]
  rfl

/-- Whatever a client deposited and however its sales arrive, the cluster follows its definition, unless
    the client is above the low-depositor line, not gradual, and half its gaps are zero. -/
theorem follows_iff (lifetime : ℚ) (dates : List Day) :
    FollowsDefinition lifetime dates ↔
      ¬ (6000 < lifetime ∧ ¬ Gradual dates ∧ IsMedianGap dates 0) := by
  constructor
  · rintro follows ⟨above, notGradual, zero⟩
    have two : 2 ≤ dates.length := by
      by_contra fewer
      rw [← typicalGap_eq, typicalGap, if_pos (by omega)] at zero
      cases zero
    have frequent : Frequent dates := ⟨two, 0, zero, by norm_num⟩
    have unseen : ¬ (2 ≤ dates.length ∧ ∃ gap, IsMedianGap dates gap ∧ gap ≠ 0 ∧ gap ≤ 30) := by
      rintro ⟨-, gap, median, nonzero, -⟩
      exact nonzero (median.unique zero)
    have said := follows.cluster above dates (.refl _)
    rcases withdrawalCluster_above above dates with ⟨gradual, -⟩ | ⟨-, seen, -⟩ | ⟨-, -, oneTime⟩
    · exact notGradual gradual
    · exact unseen seen
    · rcases said with ⟨gradual, -⟩ | ⟨-, -, called⟩ | ⟨-, notFrequent, -⟩
      · exact notGradual gradual
      · rw [oneTime] at called
        cases called
      · exact notFrequent frequent
  · intro visible
    refine ⟨fun above arrived perm => ?_, fun arrived perm => withdrawalCluster_perm perm, ?_⟩
    · rw [withdrawalCluster_perm perm]
      rcases withdrawalCluster_above above dates with
        ⟨gradual, called⟩ | ⟨notGradual, seen, called⟩ | ⟨notGradual, unseen, called⟩
      · exact .inl ⟨gradual, called⟩
      · obtain ⟨two, gap, median, -, close⟩ := seen
        exact .inr (.inl ⟨notGradual, ⟨two, gap, median, close⟩, called⟩)
      · refine .inr (.inr ⟨notGradual, ?_, called⟩)
        rintro ⟨two, gap, median, close⟩
        by_cases zero : gap = 0
        · subst zero
          exact visible ⟨above, notGradual, median⟩
        · exact unseen ⟨two, gap, median, zero, close⟩
    · rintro derivation result features row derived mem rfl perm
      rw [priorityTier_eq derived mem, withdrawalCluster_perm perm]

/-- Two sales on one day are a median gap of zero, and the client comes out as withdrawing once. -/
theorem same_day_sales_missed : ¬ ∀ lifetime dates, FollowsDefinition lifetime dates := by
  intro all
  have said := (all 50000 [19723, 19723]).cluster (by norm_num) [19723, 19723] (.refl _)
  have called : withdrawalCluster 50000 [19723, 19723] = .oneTimeWithdrawers := by decide +kernel
  rw [called] at said
  rcases said with ⟨-, other⟩ | ⟨-, -, other⟩ | ⟨-, notFrequent, -⟩
  · cases other
  · cases other
  · refine notFrequent ⟨le_rfl, 0, ?_, by norm_num⟩
    refine ⟨[19723, 19723], .refl _, by decide, [0], ?_, List.pairwise_singleton _ _, .inl ⟨0, rfl, rfl⟩⟩
    exact .of_eq (by decide +kernel)

end ClientEngagement.Transform
