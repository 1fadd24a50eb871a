import ClientEngagement.Lib.FirstOf
import ClientEngagement.Lib.Grouping
import ClientEngagement.Privacy.FactBlock

/-!
# Searching for patterns

Model of the search of `agents/pattern_search.py`: every combination of feature values of the measured messages
is tallied, compared with the messages it does not describe and with the clients left alone in its groups, and
what meets the thresholds is ranked by its z score, each set of messages once for an outcome and a direction.
A division by zero and the square root of a negative number are errors (`none`). `find_patterns_sound` says what
the search returns, in terms of the messages a combination describes, and that their order does not matter.
-/

namespace ClientEngagement.Agents.Patterns
open Privacy (roundTo)

/-! ## What is searched -/

abbrev Features := List (String × String)

/-- A measured message. Its features are in one order of names, so no name is there twice. -/
structure Observation where
  features : Features
  groupName : String
  replied : Bool
  deposited : Bool
  distinct : (features.map Prod.fst).Nodup := by decide

structure NotMessaged where
  groupName : String
  deposited : Bool

structure Counts where
  size : ℤ
  hits : ℤ
deriving DecidableEq

structure PatternRules where
  minGroupSize : ℕ
  minGapPoints : ℚ
  minZ : ℝ
  maxFeatures : ℕ
  maxPatterns : ℕ

inductive Outcome where
  | deposited
  | replied
deriving DecidableEq

/-- `PATTERN_OUTCOMES`. -/
def patternOutcomes : List Outcome := [.deposited, .replied]

def Observation.hit (observation : Observation) : Outcome → Bool
  | .deposited => observation.deposited
  | .replied => observation.replied

inductive Comparison where
  | otherMessages
  | notMessaged
deriving DecidableEq

inductive Direction where
  | better
  | worse
deriving DecidableEq

structure FoundPattern where
  features : Features
  outcome : Outcome
  comparedWith : Comparison
  direction : Direction
  outcomePercent : ℚ
  comparisonPercent : ℚ
  gapPoints : ℚ
  sentCount : ℤ
  comparisonCount : ℤ
  zScore : ℝ

structure Tally where
  members : List ℕ := []
  replied : ℕ := 0
  deposited : ℕ := 0
  groups : Dict String ℕ := .empty

namespace Tally

def add (tally : Tally) (index : ℕ) (observation : Observation) : Tally where
  members := tally.members ++ [index]
  replied := tally.replied + observation.replied.toNat
  deposited := tally.deposited + observation.deposited.toNat
  groups := tally.groups.modify observation.groupName 0 (· + 1)

def hits (tally : Tally) : Outcome → ℕ
  | .deposited => tally.deposited
  | .replied => tally.replied

end Tally

/-! ## Tallies -/

/-- `MIN_FEATURES`. -/
def minFeatures : ℕ := 2

/-- The combinations of the features of one message, of every size. -/
def combinationsOf (maxFeatures : ℕ) (observation : Observation) : List Features :=
  (List.range' minFeatures (maxFeatures + 1 - minFeatures)).flatMap fun size =>
    combinations size observation.features

def tallyCombinations (observations : List Observation) (maxFeatures : ℕ) : Dict Features Tally :=
  let added := observations.zipIdx.flatMap fun (observation, index) =>
    (combinationsOf maxFeatures observation).map fun features => (features, index, observation)
  gather Prod.fst {} (fun (_, index, observation) tally => tally.add index observation) added

def untouchedByGroup (notMessaged : List NotMessaged) : Dict String Counts :=
  let sizes : Dict String ℕ := gather NotMessaged.groupName 0 (fun _ n => n + 1) notMessaged
  let hits : Dict String ℕ := gather NotMessaged.groupName 0 (fun client n => n + client.deposited.toNat) notMessaged
  sizes.mapEntries fun group (size : ℕ) => ⟨size, (hits.getD group 0 : ℕ)⟩

/-- `_pooled`. -/
def pooled (untouched : Dict String Counts) (groups : List String) : Counts :=
  let chosen := groups.filterMap untouched.get?
  ⟨(chosen.map Counts.size).sum, (chosen.map Counts.hits).sum⟩

/-! ## Comparing -/

noncomputable def twoProportionZ (first second : Counts) : Option ℝ :=
  if first.size + second.size = 0 then none
  else
    let pooled : ℚ := (first.hits + second.hits) / (first.size + second.size)
    if first.size = 0 ∨ second.size = 0 then none
    else
      let spread := pooled * (1 - pooled) * (1 / first.size + 1 / second.size)
      if spread = 0 then some 0
      -- the square root of a negative number raises
      else if spread < 0 then none
      else some ((first.hits / first.size - second.hits / second.size : ℚ) / √(spread : ℝ))

def sign : Direction → ℤ
  | .better => 1
  | .worse => -1

/-- `_compare`; `some none` where there is no pattern. -/
noncomputable def compare (features : Features) (outcome : Outcome) (comparedWith : Comparison)
    (direction : Direction) (group reference : Counts) (rules : PatternRules) : Option (Option FoundPattern) :=
  if reference.size < rules.minGroupSize then some none
  else if group.size = 0 ∨ reference.size = 0 then none
  else
    let gapPoints : ℚ := (group.hits / group.size - reference.hits / reference.size) * 100
    match twoProportionZ group reference with
    | none => none
    | some zScore =>
      if sign direction * gapPoints < rules.minGapPoints ∨ sign direction * zScore < rules.minZ then some none
      else
        some <| some
          { features := features
            outcome := outcome
            comparedWith := comparedWith
            direction := direction
            outcomePercent := roundTo (100 * group.hits / group.size) 1
            comparisonPercent := roundTo (100 * reference.hits / reference.size) 1
            gapPoints := roundTo gapPoints 1
            sentCount := group.size
            comparisonCount := reference.size
            zScore := zScore }

/-- `_judge`. -/
noncomputable def judge (features : Features) (tally : Tally) (everyone : Outcome → Counts)
    (untouched : Dict String Counts) (rules : PatternRules) : Option (List FoundPattern) :=
  let size : ℤ := tally.members.length
  let better := patternOutcomes.mapM fun outcome =>
    let group : Counts := ⟨size, tally.hits outcome⟩
    let others : Counts := ⟨(everyone outcome).size - size, (everyone outcome).hits - group.hits⟩
    compare features outcome .otherMessages .better group others rules
  better.bind fun better =>
    let nothingSent := pooled untouched tally.groups.keys
    (compare features .deposited .notMessaged .worse ⟨size, tally.deposited⟩ nothingSent rules).map fun worse =>
      (better ++ [worse]).filterMap id

abbrev Identity := List ℕ × Outcome × Direction

/-- The inner loop: the verdicts on one combination that describe nothing that is described. -/
def keepNew (members : List ℕ) : List Identity → List FoundPattern → List FoundPattern →
    List Identity × List FoundPattern
  | described, found, [] => (described, found)
  | described, found, pattern :: patterns =>
    let identity := (members, pattern.outcome, pattern.direction)
    if identity ∈ described then keepNew members described found patterns
    else keepNew members (identity :: described) (found ++ [pattern]) patterns

/-- The outer loop over the combinations in order. -/
noncomputable def searchTallies (everyone : Outcome → Counts) (untouched : Dict String Counts)
    (rules : PatternRules) : List Identity → List FoundPattern → List (Features × Tally) → Option (List FoundPattern)
  | _, found, [] => some found
  | described, found, (features, tally) :: rest =>
    if tally.members.length < rules.minGroupSize then searchTallies everyone untouched rules described found rest
    else
      match judge features tally everyone untouched rules with
      | none => none
      | some patterns =>
        let (described, found) := keepNew tally.members described found patterns
        searchTallies everyone untouched rules described found rest

/-- What the combinations are ordered by: the number of features, then the features. -/
def rank (features : Features) : ℕ ×ₗ List (String ×ₗ String) := toLex (features.length, features.map toLex)

noncomputable def findPatterns (observations : List Observation) (notMessaged : List NotMessaged)
    (rules : PatternRules) : Option (List FoundPattern) :=
  let tallies := tallyCombinations observations rules.maxFeatures
  let everyone := fun outcome => ⟨observations.length, (observations.filter fun item => item.hit outcome).length⟩
  let untouched := untouchedByGroup notMessaged
  let ordered := sortBy (fun item : Features × Tally => rank item.1) tallies.items
  (searchTallies everyone untouched rules [] [] ordered).map fun found =>
    (sortBy (fun pattern => -|pattern.zScore|) found).take rules.maxPatterns

/-! ## What a combination describes -/

/-- The messages that have all the features. -/
def described (observations : List Observation) (features : Features) : List Observation :=
  observations.filter fun observation => features.Sublist observation.features

/-- How many messages there are and how many of them had the outcome. -/
def countsOf (outcome : Outcome) (observations : List Observation) : Counts :=
  ⟨observations.length, observations.countP (·.hit outcome)⟩

/-- The clients left alone in the groups of the messages. -/
def leftAlone (observations : List Observation) (notMessaged : List NotMessaged) : Counts :=
  let clients := notMessaged.filter fun client => client.groupName ∈ observations.map Observation.groupName
  ⟨clients.length, clients.countP NotMessaged.deposited⟩

/-- What the group of a combination is compared with. -/
def referenceOf (observations : List Observation) (notMessaged : List NotMessaged) (features : Features)
    (outcome : Outcome) : Comparison → Counts
  | .otherMessages =>
    countsOf outcome (observations.filter fun observation => ¬ features.Sublist observation.features)
  | .notMessaged => leftAlone (described observations features) notMessaged

def rateOf (counts : Counts) : ℚ := counts.hits / counts.size

def gapOf (group reference : Counts) : ℚ := (rateOf group - rateOf reference) * 100

def spreadOf (first second : Counts) : ℚ :=
  let pooled : ℚ := (first.hits + second.hits) / (first.size + second.size)
  pooled * (1 - pooled) * (1 / first.size + 1 / second.size)

/-- The z score of two groups; it is zero where the spread is. -/
noncomputable def zOf (first second : Counts) : ℝ := (rateOf first - rateOf second : ℚ) / √(spreadOf first second : ℝ)

structure Counts.Valid (counts : Counts) : Prop where
  hits_nonneg : 0 ≤ counts.hits
  hits_le : counts.hits ≤ counts.size

variable {observations observations' : List Observation} {notMessaged notMessaged' : List NotMessaged}
  {rules : PatternRules} {features features' : Features} {outcome : Outcome} {comparedWith : Comparison}
  {direction : Direction} {first second group reference : Counts}

lemma valid_countsOf (outcome : Outcome) (observations : List Observation) :
    (countsOf outcome observations).Valid where
  hits_nonneg := Int.natCast_nonneg _
  hits_le := Int.ofNat_le.mpr List.countP_le_length

lemma valid_leftAlone (observations : List Observation) (notMessaged : List NotMessaged) :
    (leftAlone observations notMessaged).Valid where
  hits_nonneg := Int.natCast_nonneg _
  hits_le := Int.ofNat_le.mpr List.countP_le_length

lemma valid_referenceOf (outcome : Outcome) (comparedWith : Comparison) :
    (referenceOf observations notMessaged features outcome comparedWith).Valid := by
  cases comparedWith with
  | otherMessages => exact valid_countsOf _ _
  | notMessaged => exact valid_leftAlone _ _

/-- The pooled rate lies between zero and one. -/
lemma spreadOf_nonneg (valid : first.Valid) (valid' : second.Valid) (pos : 0 < first.size) (pos' : 0 < second.size) :
    0 ≤ spreadOf first second := by
  have size : (0 : ℚ) < first.size := by exact_mod_cast pos
  have size' : (0 : ℚ) < second.size := by exact_mod_cast pos'
  have hits : (0 : ℚ) ≤ first.hits := by exact_mod_cast valid.hits_nonneg
  have hits' : (0 : ℚ) ≤ second.hits := by exact_mod_cast valid'.hits_nonneg
  have le : (first.hits : ℚ) ≤ first.size := by exact_mod_cast valid.hits_le
  have le' : (second.hits : ℚ) ≤ second.size := by exact_mod_cast valid'.hits_le
  have low : 0 ≤ ((first.hits + second.hits) / (first.size + second.size) : ℚ) := by positivity
  have high : ((first.hits + second.hits) / (first.size + second.size) : ℚ) ≤ 1 := by
    rw [div_le_one (by linarith)]
    linarith
  have rest : 0 ≤ 1 - ((first.hits + second.hits) / (first.size + second.size) : ℚ) := by linarith
  have sizes : (0 : ℚ) ≤ 1 / first.size + 1 / second.size := by positivity
  exact mul_nonneg (mul_nonneg low rest) sizes

/-- Two groups that are not empty are compared without an error. -/
lemma twoProportionZ_eq (valid : first.Valid) (valid' : second.Valid) (pos : 0 < first.size)
    (pos' : 0 < second.size) : twoProportionZ first second = some (zOf first second) := by
  have spread := spreadOf_nonneg valid valid' pos pos'
  rw [twoProportionZ, if_neg (by omega)]
  dsimp only
  rw [if_neg (by omega)]
  by_cases flat : spreadOf first second = 0
  · rw [zOf, flat]
    rw [spreadOf] at flat
    rw [if_pos flat, Rat.cast_zero, Real.sqrt_zero, div_zero]
  · have nonneg := not_lt.mpr spread
    rw [zOf, spreadOf]
    rw [spreadOf] at flat nonneg
    rw [if_neg flat, if_neg nonneg, rateOf, rateOf]

/-- A comparison that meets the thresholds. -/
def Meets (rules : PatternRules) (direction : Direction) (group reference : Counts) : Prop :=
  (rules.minGroupSize : ℤ) ≤ reference.size ∧ rules.minGapPoints ≤ sign direction * gapOf group reference ∧
    rules.minZ ≤ sign direction * zOf group reference

/-- The pattern of a comparison. -/
noncomputable def patternOf (features : Features) (outcome : Outcome) (comparedWith : Comparison)
    (direction : Direction) (group reference : Counts) : FoundPattern where
  features := features
  outcome := outcome
  comparedWith := comparedWith
  direction := direction
  outcomePercent := roundTo (100 * group.hits / group.size) 1
  comparisonPercent := roundTo (100 * reference.hits / reference.size) 1
  gapPoints := roundTo (gapOf group reference) 1
  sentCount := group.size
  comparisonCount := reference.size
  zScore := zOf group reference

open Classical in
/-- `compare` finds the pattern exactly where the thresholds are met. -/
lemma compare_eq (least : 1 ≤ rules.minGroupSize) (valid : group.Valid) (valid' : reference.Valid)
    (pos : 0 < group.size) :
    compare features outcome comparedWith direction group reference rules =
      some (if Meets rules direction group reference then
        some (patternOf features outcome comparedWith direction group reference) else none) := by
  rw [compare]
  by_cases small : reference.size < rules.minGroupSize
  · rw [if_pos small, if_neg]
    exact fun meets => absurd meets.1 (not_le.mpr small)
  · have filled : ¬ (group.size = 0 ∨ reference.size = 0) := by omega
    rw [if_neg small, if_neg filled]
    dsimp only
    rw [twoProportionZ_eq valid valid' pos (by omega)]
    dsimp only
    by_cases meets : Meets rules direction group reference
    · rw [if_pos meets, if_neg]
      · rfl
      · rw [not_or, not_lt, not_lt]
        exact meets.2
    · rw [if_neg meets, if_pos]
      by_contra low
      rw [not_or, not_lt, not_lt] at low
      exact meets ⟨not_lt.mp small, low⟩

/-! ## The tallies -/

lemma mem_combinationsOf {maxFeatures : ℕ} {observation : Observation} :
    features ∈ combinationsOf maxFeatures observation ↔
      (minFeatures ≤ features.length ∧ features.length ≤ maxFeatures) ∧ features.Sublist observation.features := by
  rw [combinationsOf, List.mem_flatMap]
  constructor
  · rintro ⟨size, mem, of_size⟩
    obtain ⟨sub, rfl⟩ := mem_combinations.mp of_size
    rw [List.mem_range'_1] at mem
    exact ⟨⟨mem.1, by omega⟩, sub⟩
  · rintro ⟨between, sub⟩
    refine ⟨features.length, ?_, mem_combinations.mpr ⟨sub, rfl⟩⟩
    rw [List.mem_range'_1]
    omega

/-- No combination of a message is listed twice. -/
lemma nodup_combinationsOf (maxFeatures : ℕ) (observation : Observation) :
    (combinationsOf maxFeatures observation).Nodup := by
  rw [combinationsOf, List.nodup_flatMap]
  constructor
  · intro size _
    exact nodup_combinations (observation.distinct.of_map _) size
  · have sizes : (List.range' minFeatures (maxFeatures + 1 - minFeatures)).Nodup := List.nodup_range'
    refine sizes.imp ?_
    intro size size' ne features mem mem'
    exact ne ((mem_combinations.mp mem).2.symm.trans (mem_combinations.mp mem').2)

lemma filter_eq_of_nodup {α : Type} [DecidableEq α] {l : List α} (nodup : l.Nodup) (a : α) :
    l.filter (· = a) = if a ∈ l then [a] else [] := by
  induction l with
  | nil => rfl
  | cons b l ih =>
    obtain ⟨fresh, nodup⟩ := List.nodup_cons.mp nodup
    rw [List.filter_cons, ih nodup]
    by_cases same : b = a
    · subst same
      rw [if_pos (decide_eq_true rfl), if_neg fresh, if_pos (List.mem_cons_self ..)]
    · rw [if_neg (by simpa using same)]
      simp only [List.mem_cons, Ne.symm same, false_or]

/-- What is tallied under a combination are the messages it describes, in order. -/
lemma filter_added {maxFeatures : ℕ} (between : minFeatures ≤ features.length ∧ features.length ≤ maxFeatures)
    (entries : List (Observation × ℕ)) :
    (entries.flatMap fun (observation, index) =>
      (combinationsOf maxFeatures observation).map fun features => (features, index, observation)).filter
        (fun added => added.1 = features) =
      (entries.filter fun entry => features.Sublist entry.1.features).map fun entry =>
        (features, entry.2, entry.1) := by
  induction entries with
  | nil => rfl
  | cons entry entries ih =>
    obtain ⟨observation, index⟩ := entry
    rw [List.flatMap_cons, List.filter_append, ih, List.filter_map]
    have own : (combinationsOf maxFeatures observation).filter (· = features) =
        if features.Sublist observation.features then [features] else [] := by
      rw [filter_eq_of_nodup (nodup_combinationsOf maxFeatures observation)]
      simp only [mem_combinationsOf, between, and_self, true_and]
    have same : (combinationsOf maxFeatures observation).filter
        ((fun added : Features × ℕ × Observation => decide (added.1 = features)) ∘
          fun features => (features, index, observation)) =
        (combinationsOf maxFeatures observation).filter (· = features) := rfl
    rw [same, own, List.filter_cons]
    by_cases describes : features.Sublist observation.features
    · rw [if_pos describes, if_pos (decide_eq_true describes)]
      rfl
    · rw [if_neg describes, if_neg (by simpa using describes)]
      rfl

/-- The tally of some messages. -/
def tallyOf (entries : List (Observation × ℕ)) : Tally :=
  entries.foldl (fun tally entry => tally.add entry.2 entry.1) {}

lemma foldl_add (entries : List (Observation × ℕ)) (tally : Tally) :
    let after := entries.foldl (fun tally entry => tally.add entry.2 entry.1) tally
    after.members = tally.members ++ entries.map Prod.snd ∧
      (∀ outcome, after.hits outcome = tally.hits outcome + (entries.map Prod.fst).countP (·.hit outcome)) ∧
        ∀ group, group ∈ after.groups.keys ↔
          group ∈ tally.groups.keys ∨ group ∈ (entries.map Prod.fst).map Observation.groupName := by
  induction entries generalizing tally with
  | nil => simp
  | cons entry entries ih =>
    obtain ⟨members, hits, groups⟩ := ih (tally.add entry.2 entry.1)
    rw [List.foldl_cons]
    refine ⟨?_, ?_, ?_⟩
    · rw [members, Tally.add, List.map_cons, List.append_assoc, List.singleton_append]
    · intro outcome
      have one : (tally.add entry.2 entry.1).hits outcome =
          tally.hits outcome + if entry.1.hit outcome = true then 1 else 0 := by
        cases outcome with
        | deposited => exact congrArg (tally.deposited + ·) (Bool.cond_eq_ite entry.1.deposited 1 0)
        | replied => exact congrArg (tally.replied + ·) (Bool.cond_eq_ite entry.1.replied 1 0)
      rw [hits, one, List.map_cons, List.countP_cons]
      omega
    · intro group
      rw [groups, Tally.add, Dict.modify, Dict.mem_keys_set, List.map_cons, List.map_cons, List.mem_cons]
      tauto

/-- The positions of the messages a combination describes. -/
def membersOf (observations : List Observation) (features : Features) : List ℕ :=
  (observations.zipIdx.filter fun entry => features.Sublist entry.1.features).map Prod.snd

lemma map_fst_described (observations : List Observation) (features : Features) :
    (observations.zipIdx.filter fun entry => features.Sublist entry.1.features).map Prod.fst =
      described observations features := by
  rw [described]
  conv_rhs => rw [← List.zipIdx_map_fst 0 observations, List.filter_map]
  rfl

lemma length_membersOf (observations : List Observation) (features : Features) :
    (membersOf observations features).length = (described observations features).length := by
  rw [membersOf, List.length_map, ← map_fst_described, List.length_map]

/-- Combinations have the same members when they describe the same messages. -/
lemma membersOf_eq_iff : membersOf observations features = membersOf observations features' ↔
    ∀ observation ∈ observations,
      features.Sublist observation.features ↔ features'.Sublist observation.features := by
  have inj : (observations.zipIdx.map Prod.snd).Nodup := by
    rw [List.zipIdx_map_snd]
    exact List.nodup_range'
  constructor
  · have half {f f' : Features} (same : membersOf observations f = membersOf observations f')
        {observation : Observation} (mem : observation ∈ observations) (has : f.Sublist observation.features) :
        f'.Sublist observation.features := by
      rw [← List.zipIdx_map_fst 0 observations] at mem
      obtain ⟨entry, there, rfl⟩ := List.mem_map.mp mem
      have listed : entry.2 ∈ membersOf observations f :=
        List.mem_map_of_mem (List.mem_filter.mpr ⟨there, decide_eq_true has⟩)
      rw [same] at listed
      obtain ⟨entry', mem', index⟩ := List.mem_map.mp listed
      obtain ⟨there', has'⟩ := List.mem_filter.mp mem'
      obtain rfl := List.inj_on_of_nodup_map inj there' there index
      exact of_decide_eq_true has'
    intro same observation mem
    exact ⟨half same mem, half same.symm mem⟩
  · intro same
    rw [membersOf, membersOf]
    congr 1
    apply List.filter_congr
    intro entry mem
    have there : entry.1 ∈ observations := by
      rw [← List.zipIdx_map_fst 0 observations]
      exact List.mem_map_of_mem mem
    rw [Bool.eq_iff_iff, decide_eq_true_iff, decide_eq_true_iff]
    exact same entry.1 there

/-- Whether a combination is looked at: it has a size in the range and describes a message. -/
def Candidate (observations : List Observation) (maxFeatures : ℕ) (features : Features) : Prop :=
  (minFeatures ≤ features.length ∧ features.length ≤ maxFeatures) ∧ described observations features ≠ []

lemma mem_added_iff {maxFeatures : ℕ} {entries : List (Observation × ℕ)} :
    (∃ added ∈ entries.flatMap fun (observation, index) =>
      (combinationsOf maxFeatures observation).map fun features => (features, index, observation),
        added.1 = features) ↔
      (minFeatures ≤ features.length ∧ features.length ≤ maxFeatures) ∧
        ∃ entry ∈ entries, features.Sublist entry.1.features := by
  constructor
  · rintro ⟨added, mem, rfl⟩
    obtain ⟨entry, there, listed⟩ := List.mem_flatMap.mp mem
    obtain ⟨combination, of_entry, rfl⟩ := List.mem_map.mp listed
    obtain ⟨between, sub⟩ := mem_combinationsOf.mp of_entry
    exact ⟨between, entry, there, sub⟩
  · rintro ⟨between, entry, there, sub⟩
    refine ⟨(features, entry.2, entry.1), List.mem_flatMap.mpr ⟨entry, there, ?_⟩, rfl⟩
    exact List.mem_map.mpr ⟨features, mem_combinationsOf.mpr ⟨between, sub⟩, rfl⟩

/-- The tallies: one for each candidate, of the messages it describes. -/
lemma get?_tallyCombinations {maxFeatures : ℕ} {tally : Tally} :
    (tallyCombinations observations maxFeatures).get? features = some tally ↔
      Candidate observations maxFeatures features ∧
        tally = tallyOf (observations.zipIdx.filter fun entry => features.Sublist entry.1.features) := by
  rw [tallyCombinations, get?_gather, mem_added_iff]
  have described_iff : (∃ entry ∈ observations.zipIdx, features.Sublist entry.1.features) ↔
      described observations features ≠ [] := by
    rw [← map_fst_described, Ne, List.map_eq_nil_iff, List.filter_eq_nil_iff]
    simp only [decide_eq_true_iff, not_forall, not_not, exists_prop]
  rw [described_iff, Candidate]
  apply and_congr_right
  rintro ⟨between, _⟩
  rw [filter_added between, List.foldl_map]
  exact eq_comm

/-! ## The clients left alone -/

lemma foldl_count (f : NotMessaged → ℕ) (clients : List NotMessaged) (n : ℕ) :
    clients.foldl (fun n client => n + f client) n = n + (clients.map f).sum := by
  induction clients generalizing n with
  | nil => rfl
  | cons client clients ih => rw [List.foldl_cons, ih, List.map_cons, List.sum_cons, Nat.add_assoc]

lemma sum_toNat (clients : List NotMessaged) :
    (clients.map fun client => client.deposited.toNat).sum = clients.countP NotMessaged.deposited := by
  induction clients with
  | nil => rfl
  | cons client clients ih =>
    rw [List.map_cons, List.sum_cons, ih, List.countP_cons, Nat.add_comm]
    exact congrArg _ (Bool.cond_eq_ite client.deposited 1 0)

lemma get?_untouchedByGroup (notMessaged : List NotMessaged) (group : String) :
    (untouchedByGroup notMessaged).get? group =
      if notMessaged.filter (·.groupName = group) = [] then none
      else some ⟨(notMessaged.filter (·.groupName = group)).length,
        (notMessaged.filter (·.groupName = group)).countP NotMessaged.deposited⟩ := by
  have hits : (gather NotMessaged.groupName 0 (fun client n => n + client.deposited.toNat) notMessaged).getD group 0 =
      (notMessaged.filter (·.groupName = group)).countP NotMessaged.deposited := by
    rw [gather, getD_foldl_modify, foldl_count, sum_toNat]
    exact Nat.zero_add _
  rw [untouchedByGroup, Dict.get?_mapEntries]
  have sizes : ∀ size, (gather NotMessaged.groupName 0 (fun _ n => n + 1) notMessaged).get? group = some size ↔
      notMessaged.filter (·.groupName = group) ≠ [] ∧ size = (notMessaged.filter (·.groupName = group)).length := by
    intro size
    have some_there : (∃ client ∈ notMessaged, client.groupName = group) ↔
        notMessaged.filter (·.groupName = group) ≠ [] := by
      rw [Ne, List.filter_eq_nil_iff]
      simp only [decide_eq_true_iff, not_forall, not_not, exists_prop]
    rw [get?_gather, some_there, foldl_count (fun _ => 1), List.map_const', List.sum_replicate, Nat.zero_add,
      smul_eq_mul, Nat.mul_one, eq_comm (a := size)]
  split_ifs with empty
  · rw [Option.map_eq_none_iff, Option.eq_none_iff_forall_ne_some]
    intro size found
    exact ((sizes size).mp found).1 empty
  · rw [(sizes _).mpr ⟨empty, rfl⟩, Option.map_some, hits]

/-- What some groups have together. -/
lemma pooled_untouched {groups : List String} (nodup : groups.Nodup) :
    pooled (untouchedByGroup notMessaged) groups =
      ⟨(notMessaged.filter fun client => client.groupName ∈ groups).length,
        (notMessaged.filter fun client => client.groupName ∈ groups).countP NotMessaged.deposited⟩ := by
  have total (p : NotMessaged → Bool) :
      (groups.map fun group => (notMessaged.filter (·.groupName = group)).countP p).sum =
        (notMessaged.filter fun client => client.groupName ∈ groups).countP p := by
    have listed : ∀ client ∈ (notMessaged.filter fun client => client.groupName ∈ groups).filter p,
        client.groupName ∈ groups := by
      intro client mem
      exact of_decide_eq_true (List.mem_filter.mp (List.mem_filter.mp mem).1).2
    rw [List.countP_eq_length_filter, ← sum_length_groups nodup listed]
    congr 1
    apply List.map_congr_left
    intro group mem
    rw [List.countP_eq_length_filter, List.filter_filter, List.filter_filter, List.filter_filter]
    congr 1
    apply List.filter_congr
    intro client _
    by_cases own : client.groupName = group
    · simp [own, mem]
    · simp [own]
  have each (f : Counts → ℤ) (g : List NotMessaged → ℕ) (empty : g [] = 0)
      (value : ∀ clients : List NotMessaged, f ⟨clients.length, clients.countP NotMessaged.deposited⟩ = g clients)
      (groups : List String) : ((groups.filterMap (untouchedByGroup notMessaged).get?).map f).sum =
        ((groups.map fun group => g (notMessaged.filter (·.groupName = group))).sum : ℕ) := by
    induction groups with
    | nil => rfl
    | cons group groups ih =>
      rw [List.filterMap_cons, get?_untouchedByGroup, List.map_cons, List.sum_cons, Nat.cast_add, ← ih]
      by_cases none_there : notMessaged.filter (·.groupName = group) = []
      · rw [if_pos none_there, none_there, empty, Nat.cast_zero, zero_add]
      · rw [if_neg none_there]
        dsimp only
        rw [List.map_cons, List.sum_cons, value]
  rw [pooled]
  congr 1
  · rw [each Counts.size List.length rfl fun _ => rfl]
    have sizes := total fun _ => true
    simp only [List.countP_true] at sizes
    rw [sizes]
  · rw [each Counts.hits (List.countP NotMessaged.deposited) rfl fun _ => rfl, total]

/-! ## Verdicts -/

section
variable (observations : List Observation) (notMessaged : List NotMessaged) (rules : PatternRules)

open Classical in
/-- The pattern of a combination, an outcome and a comparison, if the thresholds are met. -/
noncomputable def verdictOf (features : Features) (outcome : Outcome) (comparedWith : Comparison)
    (direction : Direction) : Option FoundPattern :=
  let group := countsOf outcome (described observations features)
  let reference := referenceOf observations notMessaged features outcome comparedWith
  if Meets rules direction group reference then
    some (patternOf features outcome comparedWith direction group reference)
  else none

/-- The comparisons that are made. -/
inductive Made : Outcome → Comparison → Direction → Prop where
  | better (outcome : Outcome) : Made outcome .otherMessages .better
  | worse : Made .deposited .notMessaged .worse

noncomputable def verdicts (features : Features) : List FoundPattern :=
  [verdictOf observations notMessaged rules features .deposited .otherMessages .better,
    verdictOf observations notMessaged rules features .replied .otherMessages .better,
    verdictOf observations notMessaged rules features .deposited .notMessaged .worse].filterMap id

/-- The verdicts on a combination that describes enough messages. -/
noncomputable def judged (features : Features) : List FoundPattern :=
  if (described observations features).length < rules.minGroupSize then []
  else verdicts observations notMessaged rules features

/-- A pattern the search may return. -/
structure Qualifies (pattern : FoundPattern) : Prop where
  candidate : Candidate observations rules.maxFeatures pattern.features
  made : Made pattern.outcome pattern.comparedWith pattern.direction
  enough : rules.minGroupSize ≤ (described observations pattern.features).length
  meets : Meets rules pattern.direction (countsOf pattern.outcome (described observations pattern.features))
    (referenceOf observations notMessaged pattern.features pattern.outcome pattern.comparedWith)
  value : pattern = patternOf pattern.features pattern.outcome pattern.comparedWith pattern.direction
    (countsOf pattern.outcome (described observations pattern.features))
    (referenceOf observations notMessaged pattern.features pattern.outcome pattern.comparedWith)

end

lemma verdictOf_eq_some {pattern : FoundPattern} :
    verdictOf observations notMessaged rules features outcome comparedWith direction = some pattern ↔
      Meets rules direction (countsOf outcome (described observations features))
          (referenceOf observations notMessaged features outcome comparedWith) ∧
        pattern = patternOf features outcome comparedWith direction
          (countsOf outcome (described observations features))
          (referenceOf observations notMessaged features outcome comparedWith) := by
  rw [verdictOf]
  split_ifs with meets
  · rw [Option.some_inj, eq_comm]
    exact ⟨fun same => ⟨meets, same⟩, fun both => both.2⟩
  · exact ⟨nofun, fun both => absurd both.1 meets⟩

lemma mem_verdicts {pattern : FoundPattern} : pattern ∈ verdicts observations notMessaged rules features ↔
    ∃ outcome comparedWith direction, Made outcome comparedWith direction ∧
      verdictOf observations notMessaged rules features outcome comparedWith direction = some pattern := by
  simp only [verdicts, List.mem_filterMap, List.mem_cons, List.not_mem_nil, or_false, id_eq, exists_eq_right]
  constructor
  · rintro (same | same | same)
    · exact ⟨_, _, _, .better .deposited, same.symm⟩
    · exact ⟨_, _, _, .better .replied, same.symm⟩
    · exact ⟨_, _, _, .worse, same.symm⟩
  · rintro ⟨outcome, _, _, made, same⟩
    cases made with
    | better =>
      cases outcome with
      | deposited => exact .inl same.symm
      | replied => exact .inr (.inl same.symm)
    | worse => exact .inr (.inr same.symm)

lemma mem_judged {pattern : FoundPattern} (candidate : Candidate observations rules.maxFeatures features) :
    pattern ∈ judged observations notMessaged rules features ↔
      pattern.features = features ∧ Qualifies observations notMessaged rules pattern := by
  rw [judged]
  constructor
  · intro mem
    split_ifs at mem with small
    · cases mem
    · obtain ⟨outcome, comparedWith, direction, made, verdict⟩ := mem_verdicts.mp mem
      obtain ⟨meets, rfl⟩ := verdictOf_eq_some.mp verdict
      exact ⟨rfl, candidate, made, not_lt.mp small, meets, rfl⟩
  · rintro ⟨rfl, qualifies⟩
    rw [if_neg (not_lt.mpr qualifies.enough)]
    exact mem_verdicts.mpr
      ⟨_, _, _, qualifies.made, verdictOf_eq_some.mpr ⟨qualifies.meets, qualifies.value⟩⟩

/-- The tally of a candidate is judged without an error, by what the combination describes. -/
lemma judge_eq (least : 1 ≤ rules.minGroupSize)
    (enough : rules.minGroupSize ≤ (described observations features).length) :
    judge features (tallyOf (observations.zipIdx.filter fun entry => features.Sublist entry.1.features))
        (fun outcome => ⟨observations.length, (observations.filter fun item => item.hit outcome).length⟩)
        (untouchedByGroup notMessaged) rules =
      some (verdicts observations notMessaged rules features) := by
  obtain ⟨members, hits, groups⟩ := foldl_add
    (observations.zipIdx.filter fun entry => features.Sublist entry.1.features) {}
  rw [← tallyOf] at members hits groups
  rw [map_fst_described] at hits groups
  generalize tallyOf (observations.zipIdx.filter fun entry => features.Sublist entry.1.features) = tally at *
  have size : tally.members.length = (described observations features).length := by
    rw [members, List.nil_append, ← length_membersOf, membersOf]
  have group (outcome : Outcome) : (⟨tally.members.length, tally.hits outcome⟩ : Counts) =
      countsOf outcome (described observations features) := by
    rw [size, hits]
    cases outcome <;> simp [countsOf, Tally.hits]
  have others (outcome : Outcome) :
      (⟨observations.length - (described observations features).length,
        (observations.filter fun item => item.hit outcome).length -
          (described observations features).countP (·.hit outcome)⟩ : Counts) =
        referenceOf observations notMessaged features outcome .otherMessages := by
    have total := List.length_eq_length_filter_add (l := observations) fun observation =>
      features.Sublist observation.features
    have total_hits := List.countP_eq_countP_filter_add observations (·.hit outcome) fun observation =>
      features.Sublist observation.features
    rw [← described] at total total_hits
    rw [← List.countP_eq_length_filter, referenceOf, countsOf, total, total_hits]
    simp only [decide_not]
    congr 1 <;> omega
  have pooled : pooled (untouchedByGroup notMessaged) tally.groups.keys =
      referenceOf observations notMessaged features .deposited .notMessaged := by
    rw [pooled_untouched (Dict.keys_nodup _), referenceOf, leftAlone]
    have same : (notMessaged.filter fun client => client.groupName ∈ tally.groups.keys) =
        notMessaged.filter fun client =>
          client.groupName ∈ (described observations features).map Observation.groupName := by
      apply List.filter_congr
      intro client _
      rw [Bool.eq_iff_iff, decide_eq_true_iff, decide_eq_true_iff, groups]
      simp [Dict.keys_empty]
    rw [same]
  have filled (outcome : Outcome) : 0 < (countsOf outcome (described observations features)).size := by
    rw [countsOf]
    dsimp only
    omega
  have better (outcome : Outcome) : compare features outcome .otherMessages .better
      ⟨tally.members.length, tally.hits outcome⟩
      ⟨observations.length - tally.members.length,
        (observations.filter fun item => item.hit outcome).length - tally.hits outcome⟩ rules =
        some (verdictOf observations notMessaged rules features outcome .otherMessages .better) := by
    have none_before : ({} : Tally).hits outcome = 0 := by cases outcome <;> rfl
    rw [group, size, hits, none_before, Nat.zero_add, others,
      compare_eq least (valid_countsOf ..) (valid_referenceOf ..) (filled outcome)]
    rfl
  have worse : compare features .deposited .notMessaged .worse ⟨tally.members.length, tally.deposited⟩
      (ClientEngagement.Agents.Patterns.pooled (untouchedByGroup notMessaged) tally.groups.keys) rules =
        some (verdictOf observations notMessaged rules features .deposited .notMessaged .worse) := by
    have own : (⟨tally.members.length, tally.deposited⟩ : Counts) = _ := group .deposited
    rw [own, pooled, compare_eq least (valid_countsOf ..) (valid_referenceOf ..) (filled .deposited)]
    rfl
  simp only [judge, patternOutcomes, List.mapM_cons, List.mapM_nil, better, worse, Option.bind_eq_bind,
    Option.bind_some, Option.pure_def, Option.map_some]
  rfl

/-! ## The search -/

/-- What a pattern is known by. -/
def identityOf (observations : List Observation) (pattern : FoundPattern) : Identity :=
  (membersOf observations pattern.features, pattern.outcome, pattern.direction)

lemma keepNew_eq (seen : List Identity) (found patterns : List FoundPattern)
    (own : ∀ pattern ∈ patterns, pattern.features = features) :
    keepNew (membersOf observations features) seen found patterns =
      ((distinctBy (identityOf observations) seen patterns).reverse.map (identityOf observations) ++ seen,
        found ++ distinctBy (identityOf observations) seen patterns) := by
  induction patterns generalizing seen found with
  | nil => rw [keepNew, distinctBy, List.append_nil]; rfl
  | cons pattern patterns ih =>
    have identity : identityOf observations pattern =
        (membersOf observations features, pattern.outcome, pattern.direction) := by
      rw [identityOf, own pattern (List.mem_cons_self ..)]
    have rest := fun pattern mem => own pattern (List.mem_cons_of_mem _ mem)
    rw [keepNew, distinctBy, identity]
    split_ifs
    · exact ih seen found rest
    · rw [ih _ _ rest, List.reverse_cons, List.map_append, List.append_assoc, List.append_assoc, List.map_singleton,
        identity]
      rfl

/-- The combinations in the order they are judged in. -/
def orderedTallies (observations : List Observation) (maxFeatures : ℕ) : List (Features × Tally) :=
  sortBy (fun item => rank item.1) (tallyCombinations observations maxFeatures).items

lemma mem_orderedTallies {maxFeatures : ℕ} {tally : Tally} :
    (features, tally) ∈ orderedTallies observations maxFeatures ↔
      Candidate observations maxFeatures features ∧
        tally = tallyOf (observations.zipIdx.filter fun entry => features.Sublist entry.1.features) := by
  rw [orderedTallies, mem_sortBy, Dict.mem_items_iff, get?_tallyCombinations]

/-- The search keeps the first verdict of each identity. -/
lemma searchTallies_eq (observations : List Observation) (notMessaged : List NotMessaged)
    (least : 1 ≤ rules.minGroupSize) (items : List (Features × Tally))
    (tallied : ∀ item ∈ items,
      item.2 = tallyOf (observations.zipIdx.filter fun entry => item.1.Sublist entry.1.features))
    (candidates : ∀ item ∈ items, Candidate observations rules.maxFeatures item.1)
    (seen : List Identity) (found : List FoundPattern) :
    searchTallies (fun outcome => ⟨observations.length, (observations.filter fun item => item.hit outcome).length⟩)
        (untouchedByGroup notMessaged) rules seen found items =
      some (found ++ distinctBy (identityOf observations) seen
        (items.flatMap fun item => judged observations notMessaged rules item.1)) := by
  induction items generalizing seen found with
  | nil => rw [searchTallies, List.flatMap_nil, distinctBy, List.append_nil]
  | cons item items ih =>
    obtain ⟨features, tally⟩ := item
    have tally_eq := tallied _ (List.mem_cons_self ..)
    have candidate := candidates _ (List.mem_cons_self ..)
    have ih := ih (fun item mem => tallied item (List.mem_cons_of_mem _ mem))
      fun item mem => candidates item (List.mem_cons_of_mem _ mem)
    dsimp only at tally_eq candidate
    have members : tally.members = membersOf observations features := by
      rw [tally_eq, tallyOf, (foldl_add _ {}).1, membersOf]
      rfl
    rw [searchTallies, List.flatMap_cons, members, length_membersOf]
    by_cases small : (described observations features).length < rules.minGroupSize
    · have none_judged : judged observations notMessaged rules features = [] := if_pos small
      rw [if_pos small, ih, none_judged]
      rfl
    · have all_judged : judged observations notMessaged rules features =
          verdicts observations notMessaged rules features := if_neg small
      have own : ∀ pattern ∈ judged observations notMessaged rules features, pattern.features = features :=
        fun pattern mem => ((mem_judged candidate).mp mem).1
      rw [if_neg small, tally_eq, judge_eq least (not_lt.mp small)]
      dsimp only
      rw [← all_judged, keepNew_eq seen found _ own]
      dsimp only
      rw [ih, distinctBy_append, List.append_assoc]

/-! ## The order of the combinations -/

lemma rank_injective : Function.Injective rank := by
  intro features features' same
  have lists : features.map toLex = features'.map toLex := congrArg (fun key => (ofLex key).2) same
  exact List.map_injective_iff.mpr toLex.injective lists

/-- The combinations that are judged, in order. -/
def orderedFeatures (observations : List Observation) (maxFeatures : ℕ) : List Features :=
  (orderedTallies observations maxFeatures).map Prod.fst

lemma mem_orderedFeatures {maxFeatures : ℕ} :
    features ∈ orderedFeatures observations maxFeatures ↔ Candidate observations maxFeatures features := by
  rw [orderedFeatures, List.mem_map]
  constructor
  · rintro ⟨⟨features, tally⟩, mem, rfl⟩
    exact (mem_orderedTallies.mp mem).1
  · intro candidate
    exact ⟨(features, _), mem_orderedTallies.mpr ⟨candidate, rfl⟩, rfl⟩

lemma sorted_orderedFeatures (observations : List Observation) (maxFeatures : ℕ) :
    (orderedFeatures observations maxFeatures).Pairwise fun a b => rank a ≤ rank b :=
  List.pairwise_map.mpr (sortBy_pairwise _ _)

lemma nodup_orderedFeatures (observations : List Observation) (maxFeatures : ℕ) :
    (orderedFeatures observations maxFeatures).Nodup := by
  rw [orderedFeatures, orderedTallies, ((sortBy_perm _ _).map _).nodup_iff]
  exact Dict.keys_nodup _

/-- The same candidates are judged in the same order. -/
lemma orderedFeatures_congr {maxFeatures : ℕ}
    (same : ∀ features, Candidate observations maxFeatures features ↔ Candidate observations' maxFeatures features) :
    orderedFeatures observations maxFeatures = orderedFeatures observations' maxFeatures := by
  have perm : (orderedFeatures observations maxFeatures).Perm (orderedFeatures observations' maxFeatures) := by
    rw [List.perm_ext_iff_of_nodup (nodup_orderedFeatures _ _) (nodup_orderedFeatures _ _)]
    intro features
    rw [mem_orderedFeatures, mem_orderedFeatures, same]
  apply perm.eq_of_pairwise _ (sorted_orderedFeatures _ _) (sorted_orderedFeatures _ _)
  intro a b _ _ le le'
  exact rank_injective (le_antisymm le le')

/-- The verdicts in the order they are found in. -/
noncomputable def found (observations : List Observation) (notMessaged : List NotMessaged) (rules : PatternRules) :
    List FoundPattern :=
  (orderedFeatures observations rules.maxFeatures).flatMap (judged observations notMessaged rules)

lemma mem_found {pattern : FoundPattern} :
    pattern ∈ found observations notMessaged rules ↔ Qualifies observations notMessaged rules pattern := by
  rw [found, List.mem_flatMap]
  constructor
  · rintro ⟨features, mem, judged⟩
    exact ((mem_judged (mem_orderedFeatures.mp mem)).mp judged).2
  · intro qualifies
    exact ⟨pattern.features, mem_orderedFeatures.mpr qualifies.candidate,
      (mem_judged qualifies.candidate).mpr ⟨rfl, qualifies⟩⟩

/-- Verdicts on fewer features come first. -/
lemma sorted_found (observations : List Observation) (notMessaged : List NotMessaged) (rules : PatternRules) :
    (found observations notMessaged rules).Pairwise fun a b => a.features.length ≤ b.features.length := by
  have own {features : Features} (mem : features ∈ orderedFeatures observations rules.maxFeatures)
      {pattern : FoundPattern} (judged : pattern ∈ judged observations notMessaged rules features) :
      pattern.features = features :=
    ((mem_judged (mem_orderedFeatures.mp mem)).mp judged).1
  rw [found, List.pairwise_flatMap]
  constructor
  · intro features mem
    apply List.Pairwise.imp_of_mem (R := fun _ _ => True)
    · intro a b judged judged' _
      rw [own mem judged, own mem judged']
    · exact List.pairwise_of_forall fun _ _ => trivial
  · apply (sorted_orderedFeatures observations rules.maxFeatures).imp_of_mem
    intro features features' mem mem' le a judged b judged'
    rw [own mem judged, own mem' judged']
    exact (Prod.Lex.monotone_fst _ _ le)

/-- What the search keeps, before the cap. -/
noncomputable def kept (observations : List Observation) (notMessaged : List NotMessaged) (rules : PatternRules) :
    List FoundPattern :=
  sortBy (fun pattern => -|pattern.zScore|)
    (distinctBy (identityOf observations) [] (found observations notMessaged rules))

lemma findPatterns_eq (least : 1 ≤ rules.minGroupSize) :
    findPatterns observations notMessaged rules =
      some ((kept observations notMessaged rules).take rules.maxPatterns) := by
  have searched := searchTallies_eq observations notMessaged least
    (orderedTallies observations rules.maxFeatures) (fun _ mem => (mem_orderedTallies.mp mem).2)
    (fun _ mem => (mem_orderedTallies.mp mem).1) [] []
  rw [findPatterns, ← orderedTallies, searched, kept, found, orderedFeatures, List.flatMap_map]
  rfl

/-! ## Soundness -/

/-- Two combinations describe the same messages. -/
def SameMembers (observations : List Observation) (features features' : Features) : Prop :=
  ∀ observation ∈ observations, features.Sublist observation.features ↔ features'.Sublist observation.features

/-- Two patterns say the same of the same messages. -/
def SameFinding (observations : List Observation) (p q : FoundPattern) : Prop :=
  SameMembers observations p.features q.features ∧ p.outcome = q.outcome ∧ p.direction = q.direction

lemma identityOf_eq_iff {p q : FoundPattern} :
    identityOf observations p = identityOf observations q ↔ SameFinding observations p q := by
  rw [identityOf, identityOf, Prod.mk.injEq, Prod.mk.injEq, membersOf_eq_iff]
  rfl

/-- The list a search takes its patterns from: what qualifies, each finding once and by its shortest description,
    the strongest first. -/
structure Findings (observations : List Observation) (notMessaged : List NotMessaged) (rules : PatternRules)
    (patterns : List FoundPattern) : Prop where
  qualifies : ∀ p ∈ patterns, Qualifies observations notMessaged rules p
  distinct : patterns.Pairwise fun p q => ¬ SameFinding observations p q
  complete : ∀ q, Qualifies observations notMessaged rules q → ∃ p ∈ patterns, SameFinding observations p q
  shortest : ∀ p ∈ patterns, ∀ features, Candidate observations rules.maxFeatures features →
    SameMembers observations p.features features → p.features.length ≤ features.length
  ranked : patterns.Pairwise fun p q => |q.zScore| ≤ |p.zScore|

lemma SameMembers.described_eq (same : SameMembers observations features features') :
    described observations features = described observations features' := by
  apply List.filter_congr
  intro observation mem
  rw [Bool.eq_iff_iff, decide_eq_true_iff, decide_eq_true_iff]
  exact same observation mem

lemma SameMembers.referenceOf_eq (same : SameMembers observations features features') :
    referenceOf observations notMessaged features outcome comparedWith =
      referenceOf observations notMessaged features' outcome comparedWith := by
  cases comparedWith with
  | otherMessages =>
    apply congrArg (countsOf outcome)
    apply List.filter_congr
    intro observation mem
    rw [Bool.eq_iff_iff, decide_eq_true_iff, decide_eq_true_iff]
    exact not_congr (same observation mem)
  | notMessaged => exact congrArg (leftAlone · notMessaged) same.described_eq

/-- Another description of the same messages qualifies as well. -/
lemma Qualifies.redescribe {p : FoundPattern} (qualifies : Qualifies observations notMessaged rules p)
    (candidate : Candidate observations rules.maxFeatures features)
    (same : SameMembers observations p.features features) :
    Qualifies observations notMessaged rules { p with features := features } where
  candidate := candidate
  made := qualifies.made
  enough := same.described_eq ▸ qualifies.enough
  meets := by
    have meets := qualifies.meets
    rw [same.described_eq, same.referenceOf_eq] at meets
    exact meets
  value := by
    have value := qualifies.value
    rw [same.described_eq, same.referenceOf_eq] at value
    exact congrArg (fun q : FoundPattern => { q with features := features }) value

lemma findings_kept (observations : List Observation) (notMessaged : List NotMessaged) (rules : PatternRules) :
    Findings observations notMessaged rules (kept observations notMessaged rules) := by
  have mem_kept {p : FoundPattern} : p ∈ kept observations notMessaged rules ↔
      p ∈ distinctBy (identityOf observations) [] (found observations notMessaged rules) := mem_sortBy
  have qualifies : ∀ p ∈ kept observations notMessaged rules, Qualifies observations notMessaged rules p := by
    intro p mem
    exact mem_found.mp ((distinctBy_sublist _ _ _).subset (mem_kept.mp mem))
  have distinct : (kept observations notMessaged rules).Pairwise fun p q =>
      identityOf observations p ≠ identityOf observations q := by
    apply (sortBy_perm _ _).symm.pairwise (distinctBy_distinct _ _ _).2
    exact fun ne => ne.symm
  have first {q : FoundPattern} (found : Qualifies observations notMessaged rules q) :
      ∃ p ∈ kept observations notMessaged rules, identityOf observations p = identityOf observations q ∧
        p.features.length ≤ q.features.length := by
    have keeps : ∃ p ∈ distinctBy (identityOf observations) []
        (ClientEngagement.Agents.Patterns.found observations notMessaged rules),
        identityOf observations p = identityOf observations q ∧
          (p = q ∨ p.features.length ≤ q.features.length) :=
      exists_kept (sorted_found observations notMessaged rules) (mem_found.mpr found) List.not_mem_nil
    obtain ⟨p, mem, same, before⟩ := keeps
    refine ⟨p, mem_kept.mpr mem, same, ?_⟩
    obtain rfl | le := before
    · exact le_rfl
    · exact le
  refine ⟨qualifies, distinct.imp fun ne same => ne (identityOf_eq_iff.mpr same), ?_, ?_, ?_⟩
  · intro q found
    obtain ⟨p, mem, same, _⟩ := first found
    exact ⟨p, mem, identityOf_eq_iff.mp same⟩
  · intro p mem features candidate same
    obtain ⟨q, mem', identity, le⟩ := first ((qualifies p mem).redescribe candidate same)
    have finding : SameFinding observations p { p with features := features } := ⟨same, rfl, rfl⟩
    have one := List.inj_on_of_nodup_map (List.pairwise_map.mpr distinct) mem mem'
      ((identityOf_eq_iff.mpr finding).trans identity.symm)
    rw [one]
    exact le
  · apply (sortBy_pairwise (fun p : FoundPattern => -|p.zScore|) _).imp
    intro p q le
    exact neg_le_neg_iff.mp le

/-! ## Order of the messages -/

lemma described_perm (perm : observations'.Perm observations) (features : Features) :
    (described observations' features).Perm (described observations features) := perm.filter _

lemma countsOf_perm (perm : observations'.Perm observations) :
    countsOf outcome observations' = countsOf outcome observations := by
  rw [countsOf, countsOf, perm.length_eq, perm.countP_eq]

lemma leftAlone_perm (perm : observations'.Perm observations) (perm' : notMessaged'.Perm notMessaged) :
    leftAlone observations' notMessaged' = leftAlone observations notMessaged := by
  have same : (notMessaged'.filter fun client => client.groupName ∈ observations'.map Observation.groupName) =
      notMessaged'.filter fun client => client.groupName ∈ observations.map Observation.groupName := by
    apply List.filter_congr
    intro client _
    rw [Bool.eq_iff_iff, decide_eq_true_iff, decide_eq_true_iff, (perm.map _).mem_iff]
  have clients := perm'.filter fun client => client.groupName ∈ observations.map Observation.groupName
  rw [leftAlone, leftAlone, same, clients.length_eq, clients.countP_eq]

lemma referenceOf_perm (perm : observations'.Perm observations) (perm' : notMessaged'.Perm notMessaged) :
    referenceOf observations' notMessaged' features outcome comparedWith =
      referenceOf observations notMessaged features outcome comparedWith := by
  cases comparedWith with
  | otherMessages => exact countsOf_perm (perm.filter _)
  | notMessaged => exact leftAlone_perm (described_perm perm features) perm'

lemma judged_perm (perm : observations'.Perm observations) (perm' : notMessaged'.Perm notMessaged) :
    judged observations' notMessaged' rules = judged observations notMessaged rules := by
  have verdict : verdictOf observations' notMessaged' rules = verdictOf observations notMessaged rules := by
    funext features outcome comparedWith direction
    rw [verdictOf, verdictOf, countsOf_perm (described_perm perm features), referenceOf_perm perm perm']
  funext features
  rw [judged, judged, (described_perm perm features).length_eq, verdicts, verdicts, verdict]

lemma candidate_perm {maxFeatures : ℕ} (perm : observations'.Perm observations) :
    Candidate observations' maxFeatures features ↔ Candidate observations maxFeatures features := by
  rw [Candidate, Candidate, Ne, Ne, ← List.length_eq_zero_iff, (described_perm perm features).length_eq,
    List.length_eq_zero_iff]

lemma kept_perm (perm : observations'.Perm observations) (perm' : notMessaged'.Perm notMessaged) :
    kept observations' notMessaged' rules = kept observations notMessaged rules := by
  have same : found observations' notMessaged' rules = found observations notMessaged rules := by
    rw [found, found, judged_perm perm perm', orderedFeatures_congr fun _ => candidate_perm perm]
  have identities : distinctBy (identityOf observations') [] (found observations notMessaged rules) =
      distinctBy (identityOf observations) [] (found observations notMessaged rules) := by
    apply distinctBy_congr []
    intro a _ b _
    rw [identityOf_eq_iff, identityOf_eq_iff, SameFinding, SameFinding]
    apply and_congr_left'
    exact forall_congr' fun _ => imp_congr_left perm.mem_iff
  rw [kept, kept, same, identities]

/-- With groups of at least one, the search never fails. It returns the first of its findings; none that is left
    out is stronger than one that is returned, and the order of the messages and of the clients does not matter. -/
theorem find_patterns_sound (observations : List Observation) (notMessaged : List NotMessaged)
    (rules : PatternRules) (least : 1 ≤ rules.minGroupSize) :
    (∃ patterns, Findings observations notMessaged rules patterns ∧
        findPatterns observations notMessaged rules = some (patterns.take rules.maxPatterns) ∧
          (patterns.take rules.maxPatterns).length ≤ rules.maxPatterns ∧
            ∀ p ∈ patterns.take rules.maxPatterns, ∀ q ∈ patterns.drop rules.maxPatterns,
              |q.zScore| ≤ |p.zScore|) ∧
      ∀ observations' notMessaged', observations'.Perm observations → notMessaged'.Perm notMessaged →
        findPatterns observations' notMessaged' rules = findPatterns observations notMessaged rules := by
  have findings := findings_kept observations notMessaged rules
  refine ⟨⟨_, findings, findPatterns_eq least, List.length_take_le _ _, ?_⟩, ?_⟩
  · intro p mem q mem'
    have ranked := findings.ranked
    rw [← List.take_append_drop rules.maxPatterns (kept observations notMessaged rules),
      List.pairwise_append] at ranked
    exact ranked.2.2 p mem q mem'
  · intro observations' notMessaged' perm perm'
    rw [findPatterns_eq least, findPatterns_eq least, kept_perm perm perm']

/-- A message by its one angle and tier. -/
def messageOf (angle tier : String) (replied : Bool) : Observation where
  features := [("angle", angle), ("priority_tier", tier)]
  groupName := tier
  replied := replied
  deposited := false
  distinct := by simp

/-- One message that was answered and one that was not. -/
theorem find_patterns_sound_two :
    findPatterns [messageOf "grow_back" "gold" true, messageOf "second_try" "gold" false] [] ⟨1, 5, 3, 3, 10⟩ =
      findPatterns [messageOf "second_try" "gold" false, messageOf "grow_back" "gold" true] [] ⟨1, 5, 3, 3, 10⟩ :=
  (find_patterns_sound [messageOf "second_try" "gold" false, messageOf "grow_back" "gold" true] [] ⟨1, 5, 3, 3, 10⟩
    le_rfl).2 _ _ (.swap ..) .nil

end ClientEngagement.Agents.Patterns
