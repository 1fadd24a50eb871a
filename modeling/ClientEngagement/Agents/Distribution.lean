import ClientEngagement.Agents.QueryTools
import ClientEngagement.Lib.Tallies

/-!
# What a distribution shows

`distribution` counts the clients of each value and adds the counts up by band, so a client with several
values in one band is counted several times, and the line for what is too small to show can be small
itself. `distribution_honest_iff` says when the answer is honest: every bucket is its clients, each once,
and no number is below the smallest group.
-/

namespace ClientEngagement.Agents.Query

variable {ν : Type}

/-- The clients and the values they have among some rows. -/
def clientValues (spec : FieldSpec) (rows : List JoinedRow) : Finset (ℤ × SqlValue) :=
  tagged (fun row => row.key.1) (fun row => row.column spec.name) rows

/-- The distinct clients with a row in a bucket. -/
def clientsIn (repr : ℚ → String) (spec : FieldSpec) (rows : List JoinedRow) (bucket : String) :
    Finset ℤ :=
  ((rows.filter fun row => bucketLabel repr spec (row.column spec.name) = bucket).map
    fun row => row.key.1).toFinset

/-- How many pairs of a client and a value a bucket holds. -/
def pairsIn (repr : ℚ → String) (spec : FieldSpec) (rows : List JoinedRow) (bucket : String) : ℕ :=
  tallyOf (bucketLabel repr spec) (clientValues spec rows) bucket

/-- The pairs in the buckets that have too few of them. -/
def pairsWithheld (repr : ℚ → String) (minGroupSize : ℕ) (spec : FieldSpec) (rows : List JoinedRow) : ℕ :=
  ((clientValues spec rows).filter fun pair =>
    isTooSmall minGroupSize (pairsIn repr spec rows (bucketLabel repr spec pair.2)) = true).card

/-- Every number shown is the clients of its bucket, or the line for what is withheld, and none is between
    zero and the smallest group. -/
structure HonestBuckets (repr : ℚ → String) (minGroupSize : ℕ) (spec : FieldSpec) (rows : List JoinedRow)
    (shown : Dict String ℕ) : Prop where
  counts : ∀ bucket n, shown.get? bucket = some n → n = (clientsIn repr spec rows bucket).card ∨
    bucket = withheldLabel ∧ pairsWithheld repr minGroupSize spec rows ≠ 0
  hides : ∀ bucket n, shown.get? bucket = some n → n = 0 ∨ minGroupSize ≤ n

/-- No client has two values in a bucket that is large enough to be shown, and what is withheld is nothing
    or as many as the smallest group. -/
structure ShowsSingly (repr : ℚ → String) (minGroupSize : ℕ) (spec : FieldSpec)
    (rows : List JoinedRow) : Prop where
  single : ∀ bucket, minGroupSize ≤ pairsIn repr spec rows bucket →
    ¬ (bucket = withheldLabel ∧ pairsWithheld repr minGroupSize spec rows ≠ 0) →
    SinglyTagged (bucketLabel repr spec) (clientValues spec rows) bucket
  withheld : pairsWithheld repr minGroupSize spec rows = 0 ∨
    minGroupSize ≤ pairsWithheld repr minGroupSize spec rows

/-! ## The buckets -/

variable {repr : ℚ → String} {spec : FieldSpec} {rows : List JoinedRow} {minGroupSize : ℕ}

lemma clientsIn_eq (bucket : String) : clientsIn repr spec rows bucket =
    membersOf (bucketLabel repr spec) (clientValues spec rows) bucket := by
  ext client
  rw [clientsIn, List.mem_toFinset, List.mem_map, membersOf, Finset.mem_image]
  constructor
  · rintro ⟨row, kept, rfl⟩
    obtain ⟨mem, named⟩ := List.mem_filter.mp kept
    exact ⟨_, mem_under.mpr ⟨mem_tagged.mpr ⟨row, mem, rfl⟩, of_decide_eq_true named⟩, rfl⟩
  · rintro ⟨pair, mem, rfl⟩
    obtain ⟨paired, named⟩ := mem_under.mp mem
    obtain ⟨row, listed, rfl⟩ := mem_tagged.mp paired
    exact ⟨row, List.mem_filter.mpr ⟨listed, decide_eq_true named⟩, rfl⟩

/-- A bucket counts the pairs of a client and a value, wherever a row falls into it. -/
lemma get?_foldBuckets (bucket : String) : (foldBuckets repr spec (groupCounts spec rows)).get? bucket =
    if pairsIn repr spec rows bucket = 0 then none else some (pairsIn repr spec rows bucket) := by
  have folded : ((groupCounts spec rows).filter fun group => bucketLabel repr spec group.1 = bucket) =
      ((rows.map fun row => row.column spec.name).dedup.filter fun value =>
        bucketLabel repr spec value = bucket).map fun value =>
          (value, (clientsOf (rows.filter fun row => row.column spec.name = value)).length) := by
    rw [groupCounts, List.filter_map]
    rfl
  have total : (((groupCounts spec rows).filter fun group =>
      bucketLabel repr spec group.1 = bucket).map Prod.snd).sum = pairsIn repr spec rows bucket := by
    rw [folded, List.map_map]
    exact sum_tags bucket
  rw [foldBuckets, get?_foldl_modify_add, total]
  by_cases none : pairsIn repr spec rows bucket = 0
  · rw [if_pos none, if_pos, Dict.get?_empty]
    rw [folded, List.map_eq_nil_iff, List.filter_eq_nil_iff]
    intro value mem named
    obtain ⟨row, listed, rfl⟩ := List.mem_map.mp (List.mem_dedup.mp mem)
    have paired : (row.key.1, row.column spec.name) ∈
        under (bucketLabel repr spec) (clientValues spec rows) bucket :=
      mem_under.mpr ⟨mem_tagged.mpr ⟨row, listed, rfl⟩, of_decide_eq_true named⟩
    exact Finset.card_ne_zero_of_mem paired none
  · rw [if_neg none, if_neg]
    · rw [Dict.getD, Dict.get?_empty, Option.getD_none, Nat.zero_add]
    · intro empty
      rw [empty] at total
      exact none total.symm

/-- The line for the small buckets adds up the pairs they hold. -/
lemma withheld_eq : (((foldBuckets repr spec (groupCounts spec rows)).items.filter fun bucket =>
      isTooSmall minGroupSize bucket.2).map Prod.snd).sum =
    pairsWithheld repr minGroupSize spec rows := by
  generalize made : foldBuckets repr spec (groupCounts spec rows) = buckets
  have tally {bucket : String × ℕ} (mem : bucket ∈ buckets.items) :
      bucket.2 = pairsIn repr spec rows bucket.1 := by
    have found := (Dict.mem_items_iff _).mp mem
    rw [← made, get?_foldBuckets] at found
    split at found
    · cases found
    · exact (Option.some.inj found).symm
  have named : ∀ pair ∈ clientValues spec rows, bucketLabel repr spec pair.2 ∈ buckets.keys := by
    intro pair mem
    have some : pairsIn repr spec rows (bucketLabel repr spec pair.2) ≠ 0 :=
      Finset.card_ne_zero_of_mem (mem_under.mpr ⟨mem, rfl⟩)
    rw [Dict.mem_keys_iff, ← made]
    exact ⟨_, by rw [get?_foldBuckets, if_neg some]⟩
  rw [pairsWithheld, ← sum_tallies (Dict.keys_nodup buckets)
    (fun bucket => isTooSmall minGroupSize (pairsIn repr spec rows bucket)) named, Dict.keys,
    List.filter_map, List.map_map]
  have kept : (buckets.items.filter fun bucket => isTooSmall minGroupSize bucket.2) =
      buckets.items.filter ((fun bucket => isTooSmall minGroupSize (pairsIn repr spec rows bucket)) ∘
        Prod.fst) :=
    List.filter_congr fun bucket mem => by rw [tally mem]; rfl
  rw [kept]
  exact congrArg List.sum (List.map_congr_left fun bucket mem => tally (List.mem_filter.mp mem).1)

lemma isTooSmall_eq_false {count : ℕ} (some : count ≠ 0) :
    isTooSmall minGroupSize count = false ↔ minGroupSize ≤ count := by
  rw [isTooSmall, decide_eq_true (Nat.pos_of_ne_zero some), Bool.true_and, decide_eq_false_iff_not, not_lt]

/-- What is shown under a label: the line for what is withheld, or a bucket that is large enough. -/
lemma get?_shownBuckets (bucket : String) (n : ℕ) :
    (shownBuckets minGroupSize (foldBuckets repr spec (groupCounts spec rows))).get? bucket = some n ↔
      if bucket = withheldLabel ∧ pairsWithheld repr minGroupSize spec rows ≠ 0 then
        n = pairsWithheld repr minGroupSize spec rows
      else n = pairsIn repr spec rows bucket ∧ n ≠ 0 ∧ minGroupSize ≤ n := by
  have large : (Dict.ofList ((foldBuckets repr spec (groupCounts spec rows)).items.filter fun bucket =>
      !isTooSmall minGroupSize bucket.2)).get? bucket = some n ↔
      n = pairsIn repr spec rows bucket ∧ n ≠ 0 ∧ minGroupSize ≤ n := by
    have nodup : (((foldBuckets repr spec (groupCounts spec rows)).items.filter fun bucket =>
        !isTooSmall minGroupSize bucket.2).map Prod.fst).Nodup :=
      (Dict.keys_nodup _).sublist (List.filter_sublist.map _)
    rw [Dict.get?_ofList nodup, List.mem_filter, Dict.mem_items_iff, get?_foldBuckets]
    by_cases none : pairsIn repr spec rows bucket = 0
    · rw [if_pos none, none]
      constructor
      · rintro ⟨found, -⟩
        cases found
      · rintro ⟨rfl, zero, -⟩
        exact absurd rfl zero
    · rw [if_neg none]
      constructor
      · rintro ⟨found, kept⟩
        cases found
        rw [Bool.not_eq_true', isTooSmall_eq_false none] at kept
        exact ⟨rfl, none, kept⟩
      · rintro ⟨rfl, -, le⟩
        exact ⟨rfl, by rw [Bool.not_eq_true', isTooSmall_eq_false none]; exact le⟩
  rw [shownBuckets, withheld_eq]
  by_cases withheld : pairsWithheld repr minGroupSize spec rows = 0
  · rw [if_neg (not_not.mpr withheld), if_neg fun line => line.2 withheld]
    exact large
  · rw [if_pos withheld, Dict.get?_set]
    by_cases line : bucket = withheldLabel
    · rw [if_pos line, if_pos ⟨line, withheld⟩, Option.some.injEq, eq_comm]
    · rw [if_neg line, if_neg fun named => line named.1]
      exact large

/-- The buckets shown are honest exactly when no client is in a shown bucket with two values and what is
    withheld adds up to enough. -/
lemma honestBuckets_iff : HonestBuckets repr minGroupSize spec rows
      (shownBuckets minGroupSize (foldBuckets repr spec (groupCounts spec rows))) ↔
    ShowsSingly repr minGroupSize spec rows := by
  have singly {bucket : String} :
      pairsIn repr spec rows bucket = (clientsIn repr spec rows bucket).card ↔
        SinglyTagged (bucketLabel repr spec) (clientValues spec rows) bucket := by
    rw [clientsIn_eq, ← card_membersOf_eq_iff, eq_comm]
    rfl
  constructor
  · intro honest
    constructor
    · intro bucket large notLine
      by_cases none : pairsIn repr spec rows bucket = 0
      · intro member tag tag' mem _ named _
        exact absurd none (Finset.card_ne_zero_of_mem (mem_under.mpr ⟨mem, named⟩))
      · have shown : (shownBuckets minGroupSize (foldBuckets repr spec (groupCounts spec rows))).get?
            bucket = some (pairsIn repr spec rows bucket) := by
          rw [get?_shownBuckets, if_neg notLine]
          exact ⟨rfl, none, large⟩
        rcases honest.counts bucket _ shown with count | line
        · exact singly.mp count
        · exact absurd line notLine
    · by_cases nothing : pairsWithheld repr minGroupSize spec rows = 0
      · exact .inl nothing
      · have shown : (shownBuckets minGroupSize (foldBuckets repr spec (groupCounts spec rows))).get?
            withheldLabel = some (pairsWithheld repr minGroupSize spec rows) := by
          rw [get?_shownBuckets, if_pos ⟨rfl, nothing⟩]
        exact honest.hides _ _ shown
  · rintro ⟨single, withheld⟩
    constructor
    · intro bucket n shown
      have shown := (get?_shownBuckets bucket n).mp shown
      split at shown
      · rename_i line
        exact .inr line
      · rename_i notLine
        obtain ⟨rfl, -, large⟩ := shown
        exact .inl (singly.mpr (single bucket large notLine))
    · intro bucket n shown
      have shown := (get?_shownBuckets bucket n).mp shown
      split at shown
      · rw [shown]
        exact withheld
      · exact .inr shown.2.2

variable {env : QueryEnv ν} {book : Book} {field : String} {conditions recorded : List (JsonValue ν)}
  {clauses : List (Clause ν)}

/-- A distribution over any book, listed field and accepted filter is answered, and honest exactly when no
    client has, among the matched rows, two values in a bucket that is shown, and the pairs withheld are
    none or as many as the smallest group. -/
theorem distribution_honest_iff (listed : fieldSpec field = .ok spec)
    (accepted : compileConditions env.limits conditions = .ok (clauses, recorded))
    (matched : selectRows env book clauses = some rows) :
    ∃ shown, distribution env repr book false field conditions =
        .answered (tableFor clauses) recorded shown ∧
      (HonestBuckets repr env.minGroupSize spec rows shown ↔
        ShowsSingly repr env.minGroupSize spec rows) := by
  refine ⟨_, ?_, honestBuckets_iff⟩
  rw [distribution]
  simp only [listed, accepted, matched]
  rfl

/-! ## One client with five funds -/

def anyEnv : QueryEnv ℕ where
  bind _ _ _ := none

def balanceSpec : FieldSpec := ⟨"balance", .activeClientFund, .number, [10000, 100000, 1000000]⟩

/-- Five funds, of one client or of five, each with its own balance under 10 000. -/
def fiveFunds (clientOf : ℤ → ℤ) : Book where
  riskFeatures := .ofList ([1, 2, 3, 4, 5].map fun fund : ℤ => ((clientOf fund, fund), {}))
  clientFunds := .ofList ([1, 2, 3, 4, 5].map fun fund : ℤ =>
    ((clientOf fund, fund), { balance := some (1000 * fund) }))

/-- Each of five clients is counted. -/
theorem distribution_honest_iff_sample : ∃ shown,
    distribution anyEnv (fun _ => "") (fiveFunds id) false "balance" [] =
      .answered (tableFor ([] : List (Clause ℕ))) [] shown ∧
    (HonestBuckets (fun _ => "") 5 balanceSpec (fiveFunds id).joined shown ↔
      ShowsSingly (fun _ => "") 5 balanceSpec (fiveFunds id).joined) := by
  refine @distribution_honest_iff ℕ _ _ _ anyEnv _ _ [] [] [] (by decide +kernel) rfl ?_
  exact congrArg some (List.filter_eq_self.mpr fun _ _ => rfl)

/-- One client's five balances are shown as a group of five. -/
theorem one_client_shown : ¬ ∀ (repr : ℚ → String) (book : Book) (field : String) (spec : FieldSpec)
    (conditions recorded : List (JsonValue ℕ)) (clauses : List (Clause ℕ)) (rows : List JoinedRow)
    (table : Table) (shown : Dict String ℕ),
    fieldSpec field = .ok spec → compileConditions anyEnv.limits conditions = .ok (clauses, recorded) →
    selectRows anyEnv book clauses = some rows →
    distribution anyEnv repr book false field conditions = .answered table recorded shown →
    HonestBuckets repr anyEnv.minGroupSize spec rows shown := by
  intro all
  have selected : selectRows anyEnv (fiveFunds fun _ => 1) [] = some (fiveFunds fun _ => 1).joined :=
    congrArg some (List.filter_eq_self.mpr fun _ _ => rfl)
  have listed : fieldSpec "balance" = .ok balanceSpec := by decide +kernel
  have answered : distribution anyEnv (fun _ => "") (fiveFunds fun _ => 1) false "balance" [] =
      .answered .clientRiskFeatures [] (shownBuckets 5 (foldBuckets (fun _ => "") balanceSpec
        (groupCounts balanceSpec (fiveFunds fun _ => 1).joined))) := by
    rw [distribution, listed]
    have none : compileConditions anyEnv.limits ([] : List (JsonValue ℕ)) = .ok ([], []) := rfl
    simp only [none, selected]
    rfl
  have honest := all _ _ "balance" balanceSpec [] [] [] _ _ _ listed rfl selected answered
  have shown : (shownBuckets 5 (foldBuckets (fun _ => "") balanceSpec
      (groupCounts balanceSpec (fiveFunds fun _ => 1).joined))).get? "under 10000" = some 5 := by
    decide +kernel
  have one : (clientsIn (fun _ => "") balanceSpec (fiveFunds fun _ => 1).joined "under 10000").card = 1 := by
    decide +kernel
  rcases honest.counts _ _ shown with count | ⟨line, -⟩
  · rw [one] at count
    cases count
  · exact absurd line (by decide)

end ClientEngagement.Agents.Query
