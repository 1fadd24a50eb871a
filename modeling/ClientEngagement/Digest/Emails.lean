import ClientEngagement.Delivery.DigestEmail
import ClientEngagement.Digest.Build

/-!
# The counts of the morning email

Model of `build_advisor_emails` (`workers/digest_email.py`), which groups the snapshots of a run once more, by the
loans passed in or by those read back off the stored lines. Both ways an advisor's email counts the clients and the
money of the advisor's group (`counted`). With what `Digest.Build` shows, the digest places every client once and the
email agrees with it exactly when no two snapshots of a group tie (`digest_iff`).
-/

namespace ClientEngagement.Digest
open Delivery.DigestEmail (FaRecord)
open Risk (ClientId FaId FundKey previousScores)

/-! ## The emails -/

def callRoute : String := "fa_call_priority"

/-- `str.partition`, without the separator. -/
def partition (separator : Char) (text : String) : String × String :=
  (String.ofList (text.toList.takeWhile (· ≠ separator)),
    String.ofList ((text.toList.dropWhile (· ≠ separator)).drop 1))

/-- `_covering_from_digest`. -/
def coveringFromDigest (lines : List DigestLineData) : Dict ClientId FaId :=
  (lines.filter fun line => line.coveringForFaId.isSome).foldl (fun covering line =>
    let (head, value) := partition ':' line.groupKey
    if head = "fa" ∧ value ≠ "" then covering.set line.key.1 value else covering) .empty

/-- `_advisor_of`. -/
def advisorOf (facts : DigestFacts) (covering : Dict ClientId FaId) (row : RiskSnapshot) : Option FaId :=
  (ownerOf facts row.key).map fun owner => covering.getD row.key.1 owner

/-- The rows of each advisor, those to call or the others. -/
def bucket (facts : DigestFacts) (covering : Dict ClientId FaId) (toCall : Bool) (snapshots : List RiskSnapshot) :
    Dict FaId (List RiskSnapshot) :=
  snapshots.foldl (fun bucket row =>
    match advisorOf facts covering row with
    | none => bucket
    | some faId => if decide (row.route = some callRoute) = toCall then bucket.modify faId [] (· ++ [row]) else bucket)
    .empty

structure SignalCount where
  tag : String
  clients : ℕ

/-- `rank_signals`. -/
def rankSignals (tagLists : List (List String)) : List SignalCount :=
  let counted := tagLists.flatMap List.dedup
  sortBy (fun count => toLex (-(count.clients : ℤ), count.tag))
    (counted.dedup.map fun tag => ⟨tag, counted.count tag⟩)

structure DigestEmailSummary where
  clientsToCall : ℕ
  totalAtRisk : ℚ
  newOrEscalated : ℕ
  watchlistClients : ℕ
  watchlistAtRisk : ℚ
  signals : List SignalCount := []

def emptySummary : DigestEmailSummary where
  clientsToCall := 0
  totalAtRisk := 0
  newOrEscalated := 0
  watchlistClients := 0
  watchlistAtRisk := 0

/-- How many separate clients rows are about. -/
def clientCount (keys : List FundKey) : ℕ := (keys.map Prod.fst).dedup.length

def summaryOf (prior : Dict FundKey ℤ) (callRows watchRows : List RiskSnapshot) : DigestEmailSummary where
  clientsToCall := clientCount (callRows.map RiskSnapshot.key)
  totalAtRisk := (callRows.map RiskSnapshot.fundAtRisk).sum
  newOrEscalated := (callRows.filter fun row => prior.getD row.key (-1) < row.riskScore).length
  watchlistClients := clientCount (watchRows.map RiskSnapshot.key)
  watchlistAtRisk := (watchRows.map RiskSnapshot.fundAtRisk).sum
  signals := rankSignals (callRows.map firedSignalTags)

/-- `_summaries`. -/
def summaries (facts : DigestFacts) (rows : List RiskSnapshot) (covering : Dict ClientId FaId) :
    Dict FaId DigestEmailSummary :=
  let snapshots := rows.filter onDigestRoute
  if snapshots = [] then .empty
  else
    let prior := previousScores facts.history facts.riskRunId (snapshots.map RiskSnapshot.key)
    let calls := bucket facts covering true snapshots
    let watch := bucket facts covering false snapshots
    .ofList ((sortBy id (calls.keys ++ watch.keys).dedup).map fun faId =>
      (faId, summaryOf prior (calls.getD faId []) (watch.getD faId [])))

structure AdvisorEmail where
  faId : FaId
  advisor : FaRecord
  summary : DigestEmailSummary

/-- `build_advisor_emails`, of a digest run that is on file, with its stored lines. -/
def buildAdvisorEmails (facts : DigestFacts) (rows : List RiskSnapshot) (stored : List DigestLineData)
    (roster : List FaRecord) (covering : Option (Dict ClientId FaId)) (onlyFaId : Option FaId) : List AdvisorEmail :=
  let covering := covering.getD (coveringFromDigest stored)
  (roster.filter fun record => onlyFaId.all (record.faId = ·)).map fun record =>
    ⟨record.faId, record, (summaries facts rows covering).getD record.faId emptySummary⟩

/-! ## What is promised -/

/-- The lines of a group. -/
def linesOf (result : DigestBuildResult) (groupKey : String) : List DigestLineData :=
  ((result.groups.get? groupKey).map DigestGroupData.lines).getD []

/-- The client funds of a group, in the order of its lines. -/
def keysOf (result : DigestBuildResult) (groupKey : String) : List FundKey :=
  (linesOf result groupKey).map DigestLineData.key

/-- The lines of an advisor's group, those to call or the others. -/
def groupLines (result : DigestBuildResult) (faId : FaId) (toCall : Bool) : List DigestLineData :=
  (linesOf result (groupKeyFor (some faId) 0)).filter fun line => decide (line.route = some callRoute) = toCall

/-- An email counts the clients and the money of its advisor's group, by route. -/
structure Counted (result : DigestBuildResult) (email : AdvisorEmail) : Prop where
  clientsToCall : email.summary.clientsToCall =
    clientCount ((groupLines result email.faId true).map DigestLineData.key)
  totalAtRisk : email.summary.totalAtRisk =
    ((groupLines result email.faId true).map DigestLineData.fundAtRisk).sum
  watchlistClients : email.summary.watchlistClients =
    clientCount ((groupLines result email.faId false).map DigestLineData.key)
  watchlistAtRisk : email.summary.watchlistAtRisk =
    ((groupLines result email.faId false).map DigestLineData.fundAtRisk).sum

variable {facts : DigestFacts} {row : RiskSnapshot} {rows : List RiskSnapshot} {groupKey : String} {faId : FaId}
  {capPerGroup : ℤ} {covering : Dict ClientId FaId} {stored : List DigestLineData} {clientId : ClientId}

/-! ## The loans read back -/

lemma partition_fa {unit : ℤ} : partition ':' (groupKeyFor (some faId) unit) = ("fa", faId) := by
  rw [partition, groupKeyFor, String.toList_append]
  show (String.ofList ['f', 'a'], String.ofList faId.toList) = _
  rw [String.ofList_toList]

/-- The choice of the digest is the choice of the email. -/
lemma groupFaId_eq : groupFaId facts row.key = advisorOf facts facts.covering row := by
  rw [groupFaId, standInFor, advisorOf]
  cases ownerOf facts row.key with
  | none => rfl
  | some owner =>
    rw [Option.isSome_some, if_pos rfl, Option.map_some, Dict.getD]
    cases facts.covering.get? row.key.1 <;> rfl

/-- What a stored line says of a loan. -/
def loanOf (line : DigestLineData) : Option (ClientId × FaId) :=
  if line.coveringForFaId.isSome ∧ (partition ':' line.groupKey).1 = "fa" ∧ (partition ':' line.groupKey).2 ≠ "" then
    some (line.key.1, (partition ':' line.groupKey).2)
  else none

lemma coveringFromDigest_eq (lines : List DigestLineData) :
    coveringFromDigest lines = .ofList (lines.filterMap loanOf) := by
  rw [coveringFromDigest, Dict.ofList, List.foldl_filterMap, List.foldl_filter]
  refine List.foldl_ext _ _ _ fun covering line _ => ?_
  rw [loanOf]
  by_cases lent : line.coveringForFaId.isSome
  · by_cases named : (partition ':' line.groupKey).1 = "fa" ∧ (partition ':' line.groupKey).2 ≠ ""
    · simp [lent, named]
    · simp [lent, named]
  · simp [lent]

lemma coveringFor_some {key : FundKey} {owner : FaId} (lent : coveringFor facts key = some owner) :
    ∃ standIn, facts.covering.get? key.1 = some standIn ∧ groupFaId facts key = some standIn ∧
      ownerOf facts key = some owner := by
  rw [coveringFor] at lent
  obtain ⟨⟨some_one, -⟩, owned⟩ := Option.ite_none_right_eq_some.mp lent
  obtain ⟨standIn, called⟩ := Option.ne_none_iff_exists'.mp some_one
  have found : facts.covering.get? key.1 = some standIn := by
    rw [standInFor, owned, Option.isSome_some, if_pos rfl] at called
    exact called
  refine ⟨standIn, found, ?_, owned⟩
  rw [groupFaId, called]
  rfl

/-- A line that records a loan names the stand-in. -/
lemma loan_of_line {rows : List RiskSnapshot} {loan : ClientId × FaId} {line : DigestLineData} {batchSize : ℕ}
    (mem : line ∈ (digestGroup facts batchSize groupKey (rowsOf facts rows groupKey)).lines)
    (found : loanOf line = some loan) : facts.covering.get? loan.1 = some loan.2 := by
  obtain ⟨row, here, rank, -, rfl⟩ := mem_lines mem
  obtain ⟨⟨lent, named⟩, same⟩ := Option.ite_none_right_eq_some.mp found
  cases same
  have recorded : (if isFaGroup groupKey then coveringFor facts row.key else none).isSome = true := lent
  obtain ⟨owner, kept⟩ := Option.isSome_iff_exists.mp recorded
  obtain ⟨fa, kept⟩ := Option.ite_none_right_eq_some.mp kept
  obtain ⟨standIn, covers, called, -⟩ := coveringFor_some kept
  rcases mem_groupKeys_iff.mp (mem_rowsOf.mp here).2 with ⟨faId, own, rfl⟩ | rfl
  · rw [called] at own
    cases own
    show facts.covering.get? row.key.1 = some (partition ':' (groupKeyFor (some standIn) row.key.2)).2
    rw [partition_fa]
    exact covers
  · rw [isFaGroup_fund] at fa
    cases fa

section Stored

variable (kept : stored.Perm (buildDigest facts capPerGroup rows).lines)

lemma mem_result_lines {line : DigestLineData} : line ∈ (buildDigest facts capPerGroup rows).lines ↔
    ∃ groupKey, line ∈ (digestGroup facts (batchSizeOf capPerGroup) groupKey (rowsOf facts rows groupKey)).lines := by
  rw [DigestBuildResult.lines, List.mem_flatMap]
  constructor
  · rintro ⟨⟨groupKey, group⟩, listed, mem⟩
    obtain ⟨rfl, -⟩ := get?_groups.mp ((Dict.mem_items_iff _).mp listed)
    exact ⟨groupKey, mem⟩
  · rintro ⟨groupKey, mem⟩
    refine ⟨(groupKey, _), (Dict.mem_items_iff _).mpr (get?_groups.mpr ⟨rfl, fun nobody => ?_⟩), mem⟩
    obtain ⟨row, here, -⟩ := mem_lines mem
    rw [nobody] at here
    cases here

include kept

/-- What is read back is a loan. -/
lemma get?_coveringFromDigest_sound {standIn : FaId}
    (found : (coveringFromDigest stored).get? clientId = some standIn) :
    facts.covering.get? clientId = some standIn := by
  rw [coveringFromDigest_eq] at found
  obtain ⟨line, listed, loan⟩ := List.mem_filterMap.mp (Dict.mem_of_get?_ofList found)
  obtain ⟨groupKey, mem⟩ := mem_result_lines.mp (kept.mem_iff.mp listed)
  exact loan_of_line mem loan

/-- Every loan that changes whose client one is can be read back. -/
lemma get?_coveringFromDigest {owner standIn : FaId} (mem : row ∈ rows) (routed : onDigestRoute row = true)
    (owned : ownerOf facts row.key = some owner) (covers : facts.covering.get? row.key.1 = some standIn)
    (lent : standIn ≠ owner) : (coveringFromDigest stored).get? row.key.1 = some standIn := by
  have called : standInFor facts row.key = some standIn := by
    rw [standInFor, owned, Option.isSome_some, if_pos rfl, covers]
  have group : groupFaId facts row.key = some standIn := by
    rw [groupFaId, called]
    rfl
  have here : row ∈ rowsOf facts rows (groupKeyFor (some standIn) row.key.2) :=
    mem_rowsOf.mpr ⟨⟨mem, routed⟩, mem_groupKeys_iff.mpr (.inl ⟨standIn, group, rfl⟩)⟩
  have recorded : coveringFor facts row.key = some owner := by
    rw [coveringFor, called, owned]
    exact if_pos (And.intro (Option.some_ne_none _) fun same => lent (Option.some.inj same))
  obtain ⟨rank, line⟩ := line_of_row here
  have listed := kept.mem_iff.mpr (mem_result_lines.mpr ⟨_, line⟩)
  have loan : loanOf (digestLine facts (batchSizeOf capPerGroup) (groupKeyFor (some standIn) row.key.2) row rank) =
      some (row.key.1, standIn) := by
    rw [loanOf, digestLine]
    simp only [partition_fa, isFaGroup_fa, if_true, recorded, Option.isSome_some, true_and, ne_eq,
      facts.named _ _ covers, not_false_eq_true]
  rw [coveringFromDigest_eq, Dict.ofList]
  refine Dict.get?_foldl_set_of_agree (List.mem_filterMap.mpr ⟨_, listed, loan⟩) fun entry among same => ?_
  obtain ⟨line, listed, loan⟩ := List.mem_filterMap.mp among
  obtain ⟨groupKey, mem⟩ := mem_result_lines.mp (kept.mem_iff.mp listed)
  have found := loan_of_line mem loan
  rw [same, covers] at found
  exact (Option.some.inj found).symm

/-- The loans read back choose the same advisors as those passed in. -/
lemma advisorOf_coveringFromDigest (mem : row ∈ rows) (routed : onDigestRoute row = true) :
    advisorOf facts (coveringFromDigest stored) row = advisorOf facts facts.covering row := by
  rw [advisorOf, advisorOf]
  cases owned : ownerOf facts row.key with
  | none => rfl
  | some owner =>
    rw [Option.map_some, Option.map_some, Dict.getD, Dict.getD]
    cases covers : facts.covering.get? row.key.1 with
    | none =>
      cases found : (coveringFromDigest stored).get? row.key.1 with
      | none => rfl
      | some standIn =>
        rw [get?_coveringFromDigest_sound kept found] at covers
        cases covers
    | some standIn =>
      by_cases lent : standIn = owner
      · cases found : (coveringFromDigest stored).get? row.key.1 with
        | none =>
          rw [lent]
          rfl
        | some other =>
          rw [get?_coveringFromDigest_sound kept found] at covers
          rw [Option.some.inj covers]
      · rw [get?_coveringFromDigest kept mem routed owned covers lent]

end Stored

/-! ## The counts -/

lemma getD_bucket {toCall : Bool} {snapshots : List RiskSnapshot} :
    (bucket facts covering toCall snapshots).getD faId [] = snapshots.filter fun row =>
      advisorOf facts covering row = some faId ∧ decide (row.route = some callRoute) = toCall := by
  have collected : ∀ (l : List RiskSnapshot) (d : Dict FaId (List RiskSnapshot)),
      (l.foldl (fun bucket row =>
        match advisorOf facts covering row with
        | none => bucket
        | some faId =>
          if decide (row.route = some callRoute) = toCall then bucket.modify faId [] (· ++ [row]) else bucket)
        d).getD faId [] = d.getD faId [] ++ l.filter fun row =>
          advisorOf facts covering row = some faId ∧ decide (row.route = some callRoute) = toCall := by
    intro l
    induction l with
    | nil => exact fun d => (List.append_nil _).symm
    | cons row l ih =>
      intro d
      rw [List.foldl_cons, ih, List.filter_cons]
      cases called : advisorOf facts covering row with
      | none => simp
      | some other =>
        by_cases bound : decide (row.route = some callRoute) = toCall
        · by_cases own : other = faId
          · subst own
            simp [bound, Dict.modify, Dict.getD]
          · simp [bound, own, Dict.modify, Dict.getD, Ne.symm own]
        · simp [bound]
  exact collected snapshots .empty

/-- An advisor's summary is made of its rows, also where it has none. -/
lemma getD_summaries : (summaries facts rows covering).getD faId emptySummary =
    summaryOf (previousScores facts.history facts.riskRunId ((rows.filter onDigestRoute).map RiskSnapshot.key))
      ((bucket facts covering true (rows.filter onDigestRoute)).getD faId [])
      ((bucket facts covering false (rows.filter onDigestRoute)).getD faId []) := by
  rw [summaries]
  by_cases nobody : rows.filter onDigestRoute = []
  · rw [if_pos nobody, nobody]
    rfl
  · rw [if_neg nobody]
    dsimp only
    generalize bucket facts covering true (rows.filter onDigestRoute) = calls
    generalize bucket facts covering false (rows.filter onDigestRoute) = watch
    generalize previousScores facts.history facts.riskRunId _ = prior
    rw [Dict.getD, Dict.get?_ofList_map]
    by_cases listed : faId ∈ sortBy id (calls.keys ++ watch.keys).dedup
    · rw [if_pos listed]
      rfl
    · have absent : faId ∉ calls.keys ∧ faId ∉ watch.keys := by
        rw [mem_sortBy, List.mem_dedup, List.mem_append] at listed
        exact not_or.mp listed
      rw [if_neg listed, Dict.getD, Dict.getD, (Dict.get?_eq_none_iff _).mpr absent.1,
        (Dict.get?_eq_none_iff _).mpr absent.2]
      rfl

/-- What is read off a group's lines is read off its rows. -/
lemma map_filter_lines {α : Type*} {batchSize : ℕ} {p : DigestLineData → Bool} {q : RiskSnapshot → Bool}
    {f : DigestLineData → α} {g : RiskSnapshot → α}
    (chosen : ∀ row rank, p (digestLine facts batchSize groupKey row rank) = q row)
    (read : ∀ row rank, f (digestLine facts batchSize groupKey row rank) = g row) :
    ((digestGroup facts batchSize groupKey rows).lines.filter p).map f =
      ((sortBy (workOrder facts) rows).filter q).map g := by
  have numbered : ∀ (l : List RiskSnapshot) (start : ℕ), (((l.zipIdx start).map fun numbered =>
      digestLine facts batchSize groupKey numbered.1 numbered.2).filter p).map f = (l.filter q).map g := by
    intro l
    induction l with
    | nil => exact fun _ => rfl
    | cons row l ih =>
      intro start
      rw [List.zipIdx_cons, List.map_cons, List.filter_cons, List.filter_cons, chosen]
      by_cases kept : q row = true
      · rw [if_pos kept, if_pos kept, List.map_cons, List.map_cons, read, ih]
      · rw [if_neg kept, if_neg kept, ih]
  exact numbered _ 1

lemma mem_fa_iff : groupKeyFor (some faId) 0 ∈ groupKeys facts row ↔ groupFaId facts row.key = some faId := by
  rw [mem_groupKeys_iff]
  constructor
  · rintro (⟨other, called, same⟩ | fund)
    · rw [fa_inj.mp same, called]
    · exact absurd fund fa_ne_fund
  · exact fun called => .inl ⟨faId, called, fa_inj.mpr rfl⟩

lemma mem_fund_iff {unit : ℤ} : fundGroupKeyFor unit ∈ groupKeys facts row ↔ unit = row.key.2 := by
  rw [mem_groupKeys_iff]
  constructor
  · rintro (⟨faId, -, fa⟩ | same)
    · exact absurd fa.symm fa_ne_fund
    · exact fundGroupKeyFor_inj.mp same
  · exact fun same => .inr (fundGroupKeyFor_inj.mpr same)

/-- The lines of a group, none where there is no such group. -/
lemma linesOf_eq : linesOf (buildDigest facts capPerGroup rows) groupKey =
    (digestGroup facts (batchSizeOf capPerGroup) groupKey (rowsOf facts rows groupKey)).lines := by
  rw [linesOf]
  by_cases nobody : rowsOf facts rows groupKey = []
  · cases found : (buildDigest facts capPerGroup rows).groups.get? groupKey with
    | none =>
      rw [nobody]
      rfl
    | some group => exact absurd nobody (get?_groups.mp found).2
  · rw [get?_groups.mpr ⟨rfl, nobody⟩]
    rfl

lemma keysOf_eq : keysOf (buildDigest facts capPerGroup rows) groupKey =
    (sortBy (workOrder facts) (rowsOf facts rows groupKey)).map RiskSnapshot.key := by
  rw [keysOf, linesOf_eq, key_lines]

/-- The rows of an advisor's email are the rows of the advisor's group. -/
lemma bucket_perm {rows' : List RiskSnapshot} (faId : FaId) (toCall : Bool) (order : rows'.Perm rows)
    (agree : ∀ row ∈ rows, onDigestRoute row = true → advisorOf facts covering row = groupFaId facts row.key) :
    ((bucket facts covering toCall (rows'.filter onDigestRoute)).getD faId []).Perm
      ((sortBy (workOrder facts) (rowsOf facts rows (groupKeyFor (some faId) 0))).filter fun row =>
        decide (row.route = some callRoute) = toCall) := by
  rw [getD_bucket]
  have chosen : (rows.filter onDigestRoute).filter (fun row =>
      advisorOf facts covering row = some faId ∧ decide (row.route = some callRoute) = toCall) =
      (rowsOf facts rows (groupKeyFor (some faId) 0)).filter fun row =>
        decide (row.route = some callRoute) = toCall := by
    refine (List.filter_congr fun row mem => ?_).trans List.filter_filter.symm
    obtain ⟨among, routed⟩ := List.mem_filter.mp mem
    simp only [agree row among routed, mem_fa_iff, Bool.decide_and, Bool.and_comm]
  refine ((order.filter _).filter _).trans ?_
  rw [chosen]
  exact ((sortBy_perm _ _).filter _).symm

lemma clientCount_perm {keys keys' : List FundKey} (order : keys.Perm keys') : clientCount keys = clientCount keys' :=
  (order.map _).dedup.length_eq

/-- An email counts the clients and the money of its advisor's group. -/
lemma counted {rows' : List RiskSnapshot} {roster : List FaRecord} {passed : Option (Dict ClientId FaId)}
    {onlyFaId : Option FaId} {email : AdvisorEmail} (order : rows'.Perm rows)
    (agree : ∀ row ∈ rows, onDigestRoute row = true →
      advisorOf facts (passed.getD (coveringFromDigest stored)) row = groupFaId facts row.key)
    (mem : email ∈ buildAdvisorEmails facts rows' stored roster passed onlyFaId) :
    Counted (buildDigest facts capPerGroup rows) email := by
  obtain ⟨record, -, rfl⟩ := List.mem_map.mp mem
  have calls := bucket_perm record.faId true order agree
  have watch := bucket_perm record.faId false order agree
  have keys : ∀ toCall, (groupLines (buildDigest facts capPerGroup rows) record.faId toCall).map DigestLineData.key =
      ((sortBy (workOrder facts) (rowsOf facts rows (groupKeyFor (some record.faId) 0))).filter fun row =>
        decide (row.route = some callRoute) = toCall).map RiskSnapshot.key := by
    intro toCall
    rw [groupLines, linesOf_eq]
    exact map_filter_lines (fun _ _ => rfl) fun _ _ => rfl
  have money : ∀ toCall,
      (groupLines (buildDigest facts capPerGroup rows) record.faId toCall).map DigestLineData.fundAtRisk =
      ((sortBy (workOrder facts) (rowsOf facts rows (groupKeyFor (some record.faId) 0))).filter fun row =>
        decide (row.route = some callRoute) = toCall).map RiskSnapshot.fundAtRisk := by
    intro toCall
    rw [groupLines, linesOf_eq]
    exact map_filter_lines (fun _ _ => rfl) fun _ _ => rfl
  constructor
  · rw [keys, getD_summaries]
    exact clientCount_perm (calls.map _)
  · rw [money, getD_summaries]
    exact (calls.map _).sum_eq
  · rw [keys, getD_summaries]
    exact clientCount_perm (watch.map _)
  · rw [money, getD_summaries]
    exact (watch.map _).sum_eq

/-! ## The digest and the email -/

/-- What is promised of the digest of a run and of the emails made from it. -/
structure DigestHolds (facts : DigestFacts) (capPerGroup : ℤ) (run : RiskRun) : Prop where
  /-- Every group is a fund's or an advisor's. -/
  kinds : ∀ groupKey ∈ (buildDigest facts capPerGroup run.rows).groups.keys,
    (∃ unit, groupKey = fundGroupKeyFor unit) ∨ ∃ faId, groupKey = groupKeyFor (some faId) 0
  /-- No group lists a client fund twice, or one that is on no digest route. -/
  once : ∀ groupKey, (keysOf (buildDigest facts capPerGroup run.rows) groupKey).Nodup ∧
    ∀ key ∈ keysOf (buildDigest facts capPerGroup run.rows) groupKey,
      ∃ row ∈ run.rows, onDigestRoute row = true ∧ row.key = key
  ownFund : ∀ row ∈ run.rows, onDigestRoute row = true → ∀ unit,
    row.key ∈ keysOf (buildDigest facts capPerGroup run.rows) (fundGroupKeyFor unit) ↔ unit = row.key.2
  ownAdvisor : ∀ row ∈ run.rows, onDigestRoute row = true → ∀ faId,
    row.key ∈ keysOf (buildDigest facts capPerGroup run.rows) (groupKeyFor (some faId) 0) ↔
      ∃ owner, ownerOf facts row.key = some owner ∧ faId = facts.covering.getD row.key.1 owner
  ranked : ∀ groupKey group, (buildDigest facts capPerGroup run.rows).groups.get? groupKey = some group →
    Ranked capPerGroup group
  sameForEveryOrder : ∀ rows, rows.Perm run.rows → (buildDigest facts capPerGroup rows).groups.Same
    (buildDigest facts capPerGroup run.rows).groups
  emails : ∀ rows, rows.Perm run.rows → ∀ stored, stored.Perm (buildDigest facts capPerGroup run.rows).lines →
    ∀ covering, (covering = some facts.covering ∨ covering = none) → ∀ roster onlyFaId,
      ∀ email ∈ buildAdvisorEmails facts rows stored roster covering onlyFaId,
        Counted (buildDigest facts capPerGroup run.rows) email

/-- A client fund is in a group exactly when its row is put into it. -/
lemma mem_keysOf_iff {run : RiskRun} (mem : row ∈ run.rows) (routed : onDigestRoute row = true) :
    row.key ∈ keysOf (buildDigest facts capPerGroup run.rows) groupKey ↔ groupKey ∈ groupKeys facts row := by
  rw [keysOf_eq, List.mem_map]
  constructor
  · rintro ⟨other, listed, same⟩
    obtain ⟨⟨among, -⟩, put⟩ := mem_rowsOf.mp (mem_sortBy.mp listed)
    rwa [List.inj_on_of_nodup_map run.nodup among mem same] at put
  · exact fun put => ⟨row, mem_sortBy.mpr (mem_rowsOf.mpr ⟨⟨mem, routed⟩, put⟩), rfl⟩

/-- The digest places every client once and the email agrees with it exactly when no two snapshots of a group tie. -/
theorem digest_iff (facts : DigestFacts) (capPerGroup : ℤ) (run : RiskRun) :
    DigestHolds facts capPerGroup run ↔ Untied facts run.rows := by
  constructor
  · exact fun holds => (same_for_every_order_iff facts capPerGroup run).mp holds.sameForEveryOrder
  intro untied
  constructor
  case kinds =>
    intro groupKey listed
    obtain ⟨group, found⟩ := (Dict.mem_keys_iff _).mp listed
    obtain ⟨row, here⟩ := List.exists_mem_of_ne_nil _ (get?_groups.mp found).2
    rcases mem_groupKeys_iff.mp (mem_rowsOf.mp here).2 with ⟨faId, -, same⟩ | same
    · exact .inr ⟨faId, same⟩
    · exact .inl ⟨_, same⟩
  case once =>
    intro groupKey
    rw [keysOf_eq]
    have nodup : ((rowsOf facts run.rows groupKey).map RiskSnapshot.key).Nodup :=
      run.nodup.sublist ((List.filter_sublist.trans List.filter_sublist).map _)
    refine ⟨((sortBy_perm _ _).map _).nodup_iff.mpr nodup, fun key mem => ?_⟩
    obtain ⟨row, listed, same⟩ := List.mem_map.mp mem
    obtain ⟨⟨among, routed⟩, -⟩ := mem_rowsOf.mp (mem_sortBy.mp listed)
    exact ⟨row, among, routed, same⟩
  case ownFund =>
    intro row mem routed unit
    rw [mem_keysOf_iff mem routed, mem_fund_iff]
  case ownAdvisor =>
    intro row mem routed faId
    rw [mem_keysOf_iff mem routed, mem_fa_iff, groupFaId_eq, advisorOf, Option.map_eq_some_iff]
    simp only [eq_comm]
  case ranked => exact fun groupKey group found => ranked found
  case sameForEveryOrder => exact (same_for_every_order_iff facts capPerGroup run).mpr untied
  case emails =>
    intro rows order stored kept covering passed roster onlyFaId email mem
    refine counted order (fun row among routed => ?_) mem
    rcases passed with rfl | rfl
    · exact groupFaId_eq.symm
    · rw [groupFaId_eq]
      exact advisorOf_coveringFromDigest kept among routed

/-- Two clients of one fund with the same money at risk, and a group of one call a batch. -/
def tiedRun : RiskRun where
  rows := [
    { key := (1, 7), riskScore := 60, riskBand := .high, riskReasons := "", fundAtRisk := 500,
      route := some "fa_call_priority" },
    { key := (2, 7), riskScore := 60, riskBand := .high, riskReasons := "", fundAtRisk := 500,
      route := some "fa_call_priority" }]
  nodup := by decide

def nothingElse : DigestFacts where
  riskRunId := "run"
  named := fun _ _ found => by cases found

/-- The call of the first batch is to the client the database returned first. -/
theorem digest_tied : ¬ DigestHolds nothingElse 1 tiedRun ∧
    keysOf (buildDigest nothingElse 1 tiedRun.rows) "fund:7" = [(1, 7), (2, 7)] ∧
    keysOf (buildDigest nothingElse 1 tiedRun.rows.reverse) "fund:7" = [(2, 7), (1, 7)] := by
  have first : keysOf (buildDigest nothingElse 1 tiedRun.rows) "fund:7" = [(1, 7), (2, 7)] := by decide +kernel
  have other : keysOf (buildDigest nothingElse 1 tiedRun.rows.reverse) "fund:7" = [(2, 7), (1, 7)] := by
    decide +kernel
  refine ⟨fun holds => ?_, first, other⟩
  have same := holds.sameForEveryOrder tiedRun.rows.reverse (List.reverse_perm _) "fund:7"
  rw [keysOf, linesOf, same, ← linesOf, ← keysOf, first] at other
  cases other

end ClientEngagement.Digest
