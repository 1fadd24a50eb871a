import ClientEngagement.Lib.Grouping
import ClientEngagement.Lib.KeyOrder
import ClientEngagement.Risk.FaAllocation
import ClientEngagement.Risk.History
import ClientEngagement.Risk.Scoring

/-!
# The digest

Model of `build_digest` (`digest/build.py`). Each snapshot on a digest route is a line of its fund's group and, when
it has an owner, of the group of the advisor who calls tonight (`mem_groupKeys_iff`). A group is sorted by what is
still to be worked and by the money at risk, and cut into batches (`ranked`). The sort has no further key: the digest
is the same for every order of the snapshots exactly when no two of one group tie (`same_for_every_order_iff`).
-/

namespace ClientEngagement.Digest
open Risk (ClientId FaId FundKey RiskBand bandRank deltaFor)

/-- `DIGEST_ROUTES`. -/
def digestRoutes : List String := ["fa_call_priority", "fa_watchlist"]

def groupKeyFor : Option FaId → ℤ → String
  | some faId, _ => "fa:" ++ faId
  | none, unitFundId => "fund:" ++ toString unitFundId

def fundGroupKeyFor (unitFundId : ℤ) : String := "fund:" ++ toString unitFundId

def isFaGroup (groupKey : String) : Bool := "fa:".toList.isPrefixOf groupKey.toList

/-! ## What is read -/

/-- A row of `risk_snapshot`. -/
structure RiskSnapshot where
  key : FundKey
  riskScore : ℤ
  riskBand : RiskBand
  riskReasons : String := ""
  fired : Risk.Signal → Bool := fun _ => false
  fundAtRisk : ℚ
  route : Option String
  queueRank : Option ℤ := none

structure ActiveClientInteraction where
  id : ℤ
  key : FundKey
  type : String
  riskBandAtInteraction : Option RiskBand

/-- What the tables and tonight's loans say. -/
structure DigestFacts where
  riskRunId : String
  history : List Risk.RiskSnapshot := []
  assignments : Dict FundKey (Option FaId) := .empty
  covering : Dict ClientId FaId := .empty
  complaints : List (ClientId × String) := []
  interactions : List ActiveClientInteraction := []
  /-- A stand-in is an advisor of the roster. -/
  named : ∀ clientId standIn, covering.get? clientId = some standIn → standIn ≠ ""

/-- The snapshots of a run, one for a client fund. -/
structure RiskRun where
  rows : List RiskSnapshot
  nodup : (rows.map RiskSnapshot.key).Nodup

/-! ## The groups -/

/-- `HANDLED_INTERACTION_TYPES`. -/
def handledInteractionTypes : List String := ["call_logged", "snoozed", "dismissed", "email_sent"]

/-- `latest_interactions_for`, of one client fund. -/
def latestInteractionFor (interactions : List ActiveClientInteraction) (key : FundKey) :
    Option ActiveClientInteraction :=
  minBy (fun interaction => -interaction.id)
    (interactions.filter fun interaction => interaction.key = key ∧ interaction.type ∈ handledInteractionTypes)

def isDeprioritized (facts : DigestFacts) (row : RiskSnapshot) : Bool :=
  match latestInteractionFor facts.interactions row.key with
  | none => false
  | some interaction =>
    match interaction.riskBandAtInteraction with
    | none => true
    | some band => bandRank row.riskBand ≤ bandRank band

def ownerOf (facts : DigestFacts) (key : FundKey) : Option FaId := (facts.assignments.get? key).join

def standInFor (facts : DigestFacts) (key : FundKey) : Option FaId :=
  if (ownerOf facts key).isSome then facts.covering.get? key.1 else none

/-- The advisor whose group a client fund is in. -/
def groupFaId (facts : DigestFacts) (key : FundKey) : Option FaId :=
  (standInFor facts key).or (ownerOf facts key)

/-- Whom the advisor is standing in for. -/
def coveringFor (facts : DigestFacts) (key : FundKey) : Option FaId :=
  if standInFor facts key ≠ none ∧ standInFor facts key ≠ ownerOf facts key then ownerOf facts key else none

/-- The groups a row is put into. -/
def groupKeys (facts : DigestFacts) (row : RiskSnapshot) : List String :=
  ((groupFaId facts row.key).map fun faId => groupKeyFor (some faId) row.key.2).toList ++ [fundGroupKeyFor row.key.2]

def byGroup (facts : DigestFacts) (snapshots : List RiskSnapshot) : Dict String (List RiskSnapshot) :=
  snapshots.foldl (fun groups row =>
    (groupKeys facts row).foldl (fun groups key => groups.modify key [] (· ++ [row])) groups) .empty

/-! ## The lines -/

structure DigestLineData where
  groupKey : String
  rank : ℕ
  batch : ℕ
  key : FundKey
  riskScore : ℤ
  riskBand : RiskBand
  riskReasons : String
  riskReasonTags : List String
  fundAtRisk : ℚ
  scoreDelta : Option ℤ
  route : Option String
  inCallQueue : Bool
  complaintCaveat : Bool
  deprioritized : Bool
  coveringForFaId : Option FaId
deriving DecidableEq

structure DigestGroupData where
  groupKey : String
  totalEligible : ℕ
  totalFundAtRisk : ℚ
  lines : List DigestLineData
deriving DecidableEq

structure DigestBuildResult where
  riskRunId : String
  groups : Dict String DigestGroupData

def DigestBuildResult.lines (result : DigestBuildResult) : List DigestLineData :=
  result.groups.items.flatMap fun group => group.2.lines

/-- `fired_signal_tags`: the names of the signals without their prefix. -/
def firedSignalTags (row : RiskSnapshot) : List String :=
  (Risk.Signal.order.filter row.fired).map fun signal => String.ofList (signal.name.toList.drop "sig_".length)

def digestLine (facts : DigestFacts) (batchSize : ℕ) (groupKey : String) (row : RiskSnapshot) (rank : ℕ) :
    DigestLineData where
  groupKey := groupKey
  rank := rank
  batch := (rank - 1) / batchSize
  key := row.key
  riskScore := row.riskScore
  riskBand := row.riskBand
  riskReasons := row.riskReasons
  riskReasonTags := firedSignalTags row
  fundAtRisk := row.fundAtRisk
  scoreDelta := deltaFor facts.history row.key facts.riskRunId
  route := row.route
  inCallQueue := row.queueRank.isSome
  complaintCaveat := facts.complaints.contains (row.key.1, "open")
  deprioritized := isDeprioritized facts row
  coveringForFaId := if isFaGroup groupKey then coveringFor facts row.key else none

/-- The key of the sort. -/
def workOrder (facts : DigestFacts) (row : RiskSnapshot) : Bool ×ₗ ℚ :=
  toLex (isDeprioritized facts row, -row.fundAtRisk)

def digestGroup (facts : DigestFacts) (batchSize : ℕ) (groupKey : String) (rows : List RiskSnapshot) :
    DigestGroupData :=
  let rows := sortBy (workOrder facts) rows
  { groupKey
    totalEligible := rows.length
    totalFundAtRisk := (rows.map RiskSnapshot.fundAtRisk).sum
    lines := (rows.zipIdx 1).map fun (row, rank) => digestLine facts batchSize groupKey row rank }

/-- The rows that ask for a digest line. -/
def onDigestRoute (row : RiskSnapshot) : Bool := row.route.any (· ∈ digestRoutes)

def batchSizeOf (capPerGroup : ℤ) : ℕ := (max capPerGroup 1).toNat

def buildDigest (facts : DigestFacts) (capPerGroup : ℤ) (rows : List RiskSnapshot) : DigestBuildResult where
  riskRunId := facts.riskRunId
  groups := (byGroup facts (rows.filter onDigestRoute)).mapEntries fun groupKey rows =>
    digestGroup facts (batchSizeOf capPerGroup) groupKey rows

/-! ## Group keys -/

variable {facts : DigestFacts} {row : RiskSnapshot} {rows : List RiskSnapshot} {groupKey : String} {faId other : FaId}
  {unit unit' : ℤ} {group : DigestGroupData} {capPerGroup : ℤ}

lemma fa_inj : groupKeyFor (some faId) unit = groupKeyFor (some other) unit' ↔ faId = other :=
  String.append_right_inj _

lemma fundGroupKeyFor_inj : fundGroupKeyFor unit = fundGroupKeyFor unit' ↔ unit = unit' := by
  rw [fundGroupKeyFor, fundGroupKeyFor, String.append_right_inj]
  exact ⟨fun same => Int.repr_injective same, congrArg _⟩

lemma isFaGroup_fa : isFaGroup (groupKeyFor (some faId) unit) = true := by
  rw [isFaGroup, groupKeyFor, String.toList_append]
  exact List.isPrefixOf_iff_prefix.mpr (List.prefix_append _ _)

lemma isFaGroup_fund : isFaGroup (fundGroupKeyFor unit) = false := by
  rw [isFaGroup, fundGroupKeyFor, String.toList_append]
  rfl

lemma fa_ne_fund : groupKeyFor (some faId) unit ≠ fundGroupKeyFor unit' := by
  intro same
  have fa : isFaGroup (groupKeyFor (some faId) unit) = true := isFaGroup_fa
  rw [same, isFaGroup_fund] at fa
  cases fa

/-- A row is put into its fund's group and its advisor's. -/
lemma mem_groupKeys_iff : groupKey ∈ groupKeys facts row ↔
    (∃ faId, groupFaId facts row.key = some faId ∧ groupKey = groupKeyFor (some faId) row.key.2) ∨
      groupKey = fundGroupKeyFor row.key.2 := by
  rw [groupKeys, List.mem_append, List.mem_singleton, Option.mem_toList, Option.map_eq_some_iff]
  simp only [eq_comm]

lemma nodup_groupKeys : (groupKeys facts row).Nodup := by
  rw [groupKeys]
  cases groupFaId facts row.key with
  | none => exact List.nodup_singleton _
  | some faId => exact List.nodup_cons.mpr ⟨fun mem => fa_ne_fund (List.mem_singleton.mp mem), List.nodup_singleton _⟩

/-- The rows with the groups they are put into. -/
def placements (facts : DigestFacts) (rows : List RiskSnapshot) : List (RiskSnapshot × String) :=
  rows.flatMap fun row => (groupKeys facts row).map fun key => (row, key)

lemma byGroup_eq : byGroup facts rows =
    gather Prod.snd [] (fun placed mine => mine ++ [placed.1]) (placements facts rows) := by
  rw [byGroup, gather, placements, List.foldl_flatMap]
  simp only [List.foldl_map]

lemma filter_placements : ((placements facts rows).filter fun placed => placed.2 = groupKey).map Prod.fst =
    rows.filter fun row => groupKey ∈ groupKeys facts row := by
  induction rows with
  | nil => rfl
  | cons row rows ih =>
    have own : (((groupKeys facts row).map fun key => (row, key)).filter fun placed => placed.2 = groupKey).map
        Prod.fst = if groupKey ∈ groupKeys facts row then [row] else [] := by
      rw [List.filter_map, List.map_map]
      show ((groupKeys facts row).filter fun key => key = groupKey).map (fun _ => row) = _
      rw [List.filter_eq]
      by_cases put : groupKey ∈ groupKeys facts row
      · rw [if_pos put, List.count_eq_one_of_mem nodup_groupKeys put]
        rfl
      · rw [if_neg put, List.count_eq_zero_of_not_mem put]
        rfl
    rw [placements, List.flatMap_cons, List.filter_append, List.map_append, own, ← placements, ih, List.filter_cons]
    by_cases put : groupKey ∈ groupKeys facts row
    · rw [if_pos put, if_pos (decide_eq_true put)]
      rfl
    · rw [if_neg put, if_neg (by simpa using put)]
      rfl

/-- A group has the rows put into it, in the order they came in. -/
lemma get?_byGroup {mine : List RiskSnapshot} : (byGroup facts rows).get? groupKey = some mine ↔
    mine = (rows.filter fun row => groupKey ∈ groupKeys facts row) ∧ mine ≠ [] := by
  have collected : ∀ (l : List (RiskSnapshot × String)) (before : List RiskSnapshot),
      l.foldl (fun mine placed => mine ++ [placed.1]) before = before ++ l.map Prod.fst := by
    intro l
    induction l with
    | nil => exact fun before => (List.append_nil before).symm
    | cons placed l ih =>
      intro before
      rw [List.foldl_cons, ih, List.append_assoc, List.map_cons]
      rfl
  have some_placed : (∃ placed ∈ placements facts rows, placed.2 = groupKey) ↔
      (rows.filter fun row => groupKey ∈ groupKeys facts row) ≠ [] := by
    rw [← filter_placements, ne_eq, List.map_eq_nil_iff, List.filter_eq_nil_iff]
    simp only [decide_eq_true_eq, not_forall, not_not, exists_prop]
  rw [byGroup_eq, get?_gather, collected, List.nil_append, filter_placements, some_placed, and_comm]
  exact ⟨fun ⟨same, some_row⟩ => ⟨same.symm, same ▸ some_row⟩, fun ⟨same, some_row⟩ => ⟨same.symm, same ▸ some_row⟩⟩

/-- The rows of a group. -/
def rowsOf (facts : DigestFacts) (rows : List RiskSnapshot) (groupKey : String) : List RiskSnapshot :=
  (rows.filter onDigestRoute).filter fun row => groupKey ∈ groupKeys facts row

lemma get?_groups : (buildDigest facts capPerGroup rows).groups.get? groupKey = some group ↔
    group = digestGroup facts (batchSizeOf capPerGroup) groupKey (rowsOf facts rows groupKey) ∧
      rowsOf facts rows groupKey ≠ [] := by
  rw [buildDigest, Dict.get?_mapEntries, Option.map_eq_some_iff]
  constructor
  · rintro ⟨mine, found, rfl⟩
    obtain ⟨rfl, some_row⟩ := get?_byGroup.mp found
    exact ⟨rfl, some_row⟩
  · rintro ⟨rfl, some_row⟩
    exact ⟨_, get?_byGroup.mpr ⟨rfl, some_row⟩, rfl⟩

lemma mem_rowsOf : row ∈ rowsOf facts rows groupKey ↔
    (row ∈ rows ∧ onDigestRoute row = true) ∧ groupKey ∈ groupKeys facts row := by
  rw [rowsOf, List.mem_filter, List.mem_filter, decide_eq_true_eq]

/-! ## The lines of a group -/

section Lines

variable {batchSize : ℕ}

lemma rank_lines : (digestGroup facts batchSize groupKey rows).lines.map DigestLineData.rank =
    List.range' 1 rows.length := by
  rw [digestGroup, List.map_map, ← length_sortBy (workOrder facts) rows, ← List.zipIdx_map_snd]
  rfl

lemma length_lines : (digestGroup facts batchSize groupKey rows).lines.length = rows.length := by
  rw [digestGroup, List.length_map, List.length_zipIdx, length_sortBy]

lemma key_lines : (digestGroup facts batchSize groupKey rows).lines.map DigestLineData.key =
    (sortBy (workOrder facts) rows).map RiskSnapshot.key := by
  have same : (sortBy (workOrder facts) rows).map RiskSnapshot.key =
      (((sortBy (workOrder facts) rows).zipIdx 1).map Prod.fst).map RiskSnapshot.key := by
    rw [List.zipIdx_map_fst]
  rw [same, digestGroup, List.map_map, List.map_map]
  rfl

/-- The lines are in the order of the work. -/
lemma sorted_lines : (digestGroup facts batchSize groupKey rows).lines.Pairwise fun line later =>
    toLex (line.deprioritized, -line.fundAtRisk) ≤ toLex (later.deprioritized, -later.fundAtRisk) := by
  have sorted := sortBy_pairwise (workOrder facts) rows
  rw [← List.zipIdx_map_fst 1 (sortBy (workOrder facts) rows), List.pairwise_map] at sorted
  exact List.pairwise_map.mpr sorted

/-- A line is made of a row. -/
lemma mem_lines {line : DigestLineData} (mem : line ∈ (digestGroup facts batchSize groupKey rows).lines) :
    ∃ row ∈ rows, ∃ rank, 1 ≤ rank ∧ line = digestLine facts batchSize groupKey row rank := by
  obtain ⟨⟨row, rank⟩, listed, rfl⟩ := List.mem_map.mp mem
  obtain ⟨least, -, -⟩ := List.mem_zipIdx listed
  exact ⟨row, mem_sortBy.mp (List.fst_mem_of_mem_zipIdx listed), rank, least, rfl⟩

/-- Every row has a line. -/
lemma line_of_row (mem : row ∈ rows) :
    ∃ rank, digestLine facts batchSize groupKey row rank ∈ (digestGroup facts batchSize groupKey rows).lines := by
  have listed : row ∈ ((sortBy (workOrder facts) rows).zipIdx 1).map Prod.fst := by
    rw [List.zipIdx_map_fst]
    exact mem_sortBy.mpr mem
  obtain ⟨⟨row, rank⟩, there, rfl⟩ := List.mem_map.mp listed
  exact ⟨rank, List.mem_map.mpr ⟨(row, rank), there, rfl⟩⟩

end Lines

/-- What is true of a group's lines. -/
structure Ranked (capPerGroup : ℤ) (group : DigestGroupData) : Prop where
  ranks : group.lines.map DigestLineData.rank = List.range' 1 group.lines.length
  toWorkFirst : group.lines.Pairwise fun line later => line.deprioritized = true → later.deprioritized = true
  mostAtRiskFirst : group.lines.Pairwise fun line later =>
    line.deprioritized = later.deprioritized → later.fundAtRisk ≤ line.fundAtRisk
  batches : ∀ line ∈ group.lines,
    line.batch * batchSizeOf capPerGroup < line.rank ∧ line.rank ≤ (line.batch + 1) * batchSizeOf capPerGroup

/-- Two rows of a digest never tie within a group. -/
def Untied (facts : DigestFacts) (rows : List RiskSnapshot) : Prop :=
  ∀ groupKey, ∀ a ∈ rowsOf facts rows groupKey, ∀ b ∈ rowsOf facts rows groupKey,
    workOrder facts a = workOrder facts b → a = b

lemma batchSizeOf_pos : 0 < batchSizeOf capPerGroup := by
  rw [batchSizeOf]
  omega

theorem ranked (found : (buildDigest facts capPerGroup rows).groups.get? groupKey = some group) :
    Ranked capPerGroup group := by
  obtain ⟨rfl, -⟩ := get?_groups.mp found
  refine ⟨?_, ?_, ?_, ?_⟩
  · rw [rank_lines, length_lines]
  · refine sorted_lines.imp fun {line later} le worked => ?_
    rcases Prod.Lex.toLex_le_toLex.mp le with less | ⟨same, -⟩
    · have more : line.deprioritized < later.deprioritized := less
      rw [worked] at more
      exact absurd more (not_lt.mpr (Bool.le_true _))
    · exact same.symm.trans worked
  · refine sorted_lines.imp fun {line later} le same => ?_
    rcases Prod.Lex.toLex_le_toLex.mp le with less | ⟨-, risk⟩
    · exact absurd same (ne_of_lt less)
    · exact neg_le_neg_iff.mp risk
  · intro line mem
    obtain ⟨row, -, rank, least, rfl⟩ := mem_lines mem
    have size : 0 < batchSizeOf capPerGroup := batchSizeOf_pos
    show (rank - 1) / batchSizeOf capPerGroup * batchSizeOf capPerGroup < rank ∧
      rank ≤ ((rank - 1) / batchSizeOf capPerGroup + 1) * batchSizeOf capPerGroup
    have quotient := Nat.div_add_mod (rank - 1) (batchSizeOf capPerGroup)
    have remainder := Nat.mod_lt (rank - 1) size
    rw [Nat.mul_comm] at quotient
    rw [Nat.add_mul, Nat.one_mul]
    omega

/-! ## Every order of the snapshots -/

lemma perm_rowsOf {rows' : List RiskSnapshot} (order : rows'.Perm rows) :
    (rowsOf facts rows' groupKey).Perm (rowsOf facts rows groupKey) := (order.filter _).filter _

/-- A list without repetition that reads the same from both ends has one element. -/
lemma eq_of_reverse_eq {α : Type*} {l : List α} (nodup : l.Nodup) (same : l.reverse = l) {a b : α} (mem : a ∈ l)
    (mem' : b ∈ l) : a = b := by
  cases l with
  | nil => cases mem
  | cons first rest =>
    rw [List.reverse_cons] at same
    have last : (rest.reverse ++ [first]).getLast? = (first :: rest).getLast? := congrArg List.getLast? same
    rw [List.getLast?_append, List.getLast?_singleton, Option.some_or, List.getLast?_cons] at last
    obtain ⟨apart, -⟩ := List.nodup_cons.mp nodup
    cases final : rest.getLast? with
    | none =>
      rw [List.getLast?_eq_none_iff.mp final] at mem mem'
      rw [List.mem_singleton.mp mem, List.mem_singleton.mp mem']
    | some final_row =>
      rw [final, Option.getD_some, Option.some.injEq] at last
      rw [last] at apart
      exact absurd (List.mem_of_getLast? final) apart

/-- Lists of the same rows are the same when their keys are. -/
lemma eq_of_map_key {l l' : List RiskSnapshot} (nodup : (rows.map RiskSnapshot.key).Nodup) (sub : l ⊆ rows)
    (sub' : l' ⊆ rows) (same : l.map RiskSnapshot.key = l'.map RiskSnapshot.key) : l = l' := by
  induction l generalizing l' with
  | nil => exact (List.map_eq_nil_iff.mp same.symm).symm
  | cons row l ih =>
    cases l' with
    | nil => cases same
    | cons row' l' =>
      rw [List.map_cons, List.map_cons] at same
      obtain ⟨own, rest⟩ := List.cons.inj same
      rw [List.cons_subset] at sub sub'
      rw [List.inj_on_of_nodup_map nodup sub.1 sub'.1 own, ih sub.2 sub'.2 rest]

/-- The digest is the same for every order the snapshots are returned in exactly when no two rows of a group tie. -/
theorem same_for_every_order_iff (facts : DigestFacts) (capPerGroup : ℤ) (run : RiskRun) :
    (∀ rows, rows.Perm run.rows → (buildDigest facts capPerGroup rows).groups.Same
      (buildDigest facts capPerGroup run.rows).groups) ↔ Untied facts run.rows := by
  constructor
  · intro same groupKey a mem b mem' tie
    -- the snapshots in reverse turn every tie around
    have reversed : rowsOf facts run.rows.reverse groupKey = (rowsOf facts run.rows groupKey).reverse := by
      rw [rowsOf, rowsOf, List.filter_reverse, List.filter_reverse]
    have somebody : rowsOf facts run.rows groupKey ≠ [] := List.ne_nil_of_mem mem
    have somebody' : rowsOf facts run.rows.reverse groupKey ≠ [] := by
      rw [reversed]
      exact List.reverse_ne_nil_iff.mpr somebody
    have groups : digestGroup facts (batchSizeOf capPerGroup) groupKey (rowsOf facts run.rows.reverse groupKey) =
        digestGroup facts (batchSizeOf capPerGroup) groupKey (rowsOf facts run.rows groupKey) := by
      have found := same run.rows.reverse (List.reverse_perm _) groupKey
      rw [get?_groups.mpr ⟨rfl, somebody⟩, get?_groups.mpr ⟨rfl, somebody'⟩] at found
      exact Option.some.inj found
    have keys := congrArg (fun group => group.lines.map DigestLineData.key) groups
    simp only [key_lines, reversed] at keys
    have among : ∀ row ∈ rowsOf facts run.rows groupKey, row ∈ run.rows := fun row mem => (mem_rowsOf.mp mem).1.1
    have sorted : sortBy (workOrder facts) (rowsOf facts run.rows groupKey).reverse =
        sortBy (workOrder facts) (rowsOf facts run.rows groupKey) := by
      refine eq_of_map_key run.nodup (fun row mem => ?_) (fun row mem => among row (mem_sortBy.mp mem)) keys
      exact among row (List.mem_reverse.mp (mem_sortBy.mp mem))
    have ties := congrArg (List.filter fun row => decide (workOrder facts row = workOrder facts b)) sorted
    rw [filter_sortBy, filter_sortBy, List.filter_reverse] at ties
    have nodup : (rowsOf facts run.rows groupKey).Nodup :=
      ((List.Nodup.of_map _ run.nodup).filter _).filter _
    exact eq_of_reverse_eq (nodup.filter _) ties (List.mem_filter.mpr ⟨mem, decide_eq_true tie⟩)
      (List.mem_filter.mpr ⟨mem', decide_eq_true rfl⟩)
  · intro untied rows order groupKey
    have equal : digestGroup facts (batchSizeOf capPerGroup) groupKey (rowsOf facts rows groupKey) =
        digestGroup facts (batchSizeOf capPerGroup) groupKey (rowsOf facts run.rows groupKey) := by
      have sorted : sortBy (workOrder facts) (rowsOf facts run.rows groupKey) =
          sortBy (workOrder facts) (rowsOf facts rows groupKey) :=
        sortBy_eq_of_perm (perm_rowsOf order).symm fun a mem b mem' => untied groupKey a mem b mem'
      rw [digestGroup, digestGroup, sorted]
    have nobody : rowsOf facts rows groupKey ≠ [] ↔ rowsOf facts run.rows groupKey ≠ [] := by
      rw [ne_eq, ne_eq, ← List.length_eq_zero_iff, (perm_rowsOf order).length_eq, List.length_eq_zero_iff]
    refine Option.ext fun group => ?_
    rw [get?_groups, get?_groups, equal, nobody]

end ClientEngagement.Digest
