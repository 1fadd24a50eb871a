import ClientEngagement.Lib.DistinctOn
import ClientEngagement.Lib.Runs

/-!
# Score history

Model of `risk/history.py`: the append-only table of snapshots and three readings of what a client fund
was before a run. `deltaFor` (`delta_for`) looks before the fund's own snapshot, `routesBeforeRun`
(`routes_before_run`) before the run's first one, `previousScores` (`previous_scores`) at all other runs.
On a history written run by run they agree for a client fund exactly when no later run has it
(`readings_agree`).
-/

namespace ClientEngagement.Risk

/-- A client and one of its funds. -/
abbrev FundKey := ℤ × ℤ

/-- One row of `risk_snapshot`. -/
structure RiskSnapshot where
  snapshotId : ℤ
  runId : String
  key : FundKey
  riskScore : ℤ
  riskBand : String := "None"
  route : Option String := none
  queueRank : Option ℤ := none
deriving DecidableEq

/-! ## Writing -/

/-- Appends a snapshot, unless the run has one of the client fund (`write_snapshot`). -/
def writeSnapshot (table : List RiskSnapshot) (row : RiskSnapshot) : Option (List RiskSnapshot) :=
  if table.any fun old => old.runId = row.runId ∧ old.key = row.key then none
  else some (table ++ [row])

/-- The snapshots of a run, in order. -/
def writeRun (table rows : List RiskSnapshot) : Option (List RiskSnapshot) :=
  rows.foldlM writeSnapshot table

/-- A new run writes its snapshots; ids grow as rows are written. -/
inductive HistoryStep (table : List RiskSnapshot) : String → List RiskSnapshot → Prop where
  | run {runId rows table'} (fresh : ∀ row ∈ table, row.runId ≠ runId)
      (mine : ∀ row ∈ rows, row.runId = runId) (written : writeRun table rows = some table')
      (ids : table'.Pairwise fun a b => a.snapshotId < b.snapshotId) :
      HistoryStep table runId table'

/-! ## Reading -/

/-- The most recently written snapshot of a client fund. -/
def latestSnapshotFor (table : List RiskSnapshot) (key : FundKey) (beforeSnapshotId : Option ℤ) :
    Option RiskSnapshot :=
  minBy (fun row => -row.snapshotId) (table.filter fun row =>
    row.key = key ∧ beforeSnapshotId.all (row.snapshotId < ·))

def deltaFor (table : List RiskSnapshot) (key : FundKey) (runId : String) : Option ℤ :=
  match table.find? fun row => row.runId = runId ∧ row.key = key with
  | none => none
  | some current =>
    (latestSnapshotFor table key (some current.snapshotId)).map fun previous =>
      current.riskScore - previous.riskScore

/-- `SELECT DISTINCT ON` the client fund, the latest snapshot first. -/
def distinctOn (rows : List RiskSnapshot) : List RiskSnapshot :=
  (sortBy toLex (rows.map RiskSnapshot.key).dedup).filterMap fun key => latestSnapshotFor rows key none

/-- The rows behind `previousScores`. -/
def previousRows (table : List RiskSnapshot) (runId : String) (keys : List FundKey) :
    List RiskSnapshot :=
  if keys = [] then [] else distinctOn (table.filter fun row => row.runId ≠ runId ∧ row.key ∈ keys)

def previousScores (table : List RiskSnapshot) (runId : String) (keys : List FundKey) :
    Dict FundKey ℤ :=
  .ofList ((previousRows table runId keys).map fun row => (row.key, row.riskScore))

/-- The rows behind `routesBeforeRun`. -/
def rowsBeforeRun (table : List RiskSnapshot) (runId : String) : List RiskSnapshot :=
  match minBy RiskSnapshot.snapshotId (table.filter fun row => row.runId = runId) with
  | none => []
  | some first => distinctOn (table.filter fun row => row.snapshotId < first.snapshotId)

def routesBeforeRun (table : List RiskSnapshot) (runId : String) : Dict FundKey (Option String) :=
  .ofList ((rowsBeforeRun table runId).map fun row => (row.key, row.route))

/-- The three readings of what a snapshot's client fund was before its run. -/
structure ReadingsAgree (table : List RiskSnapshot) (current : RiskSnapshot) (keys : List FundKey) :
    Prop where
  contains : (previousScores table current.runId keys).contains current.key = true ↔
    deltaFor table current.key current.runId ≠ none
  delta : ∀ score, (previousScores table current.runId keys).get? current.key = some score →
    deltaFor table current.key current.runId = some (current.riskScore - score)
  routes : (routesBeforeRun table current.runId).contains current.key = true ↔
    (previousScores table current.runId keys).contains current.key = true
  /-- They are read off one snapshot, written earlier. -/
  same : ∃ source : Option RiskSnapshot,
    (∀ row ∈ source, row ∈ table ∧ row.snapshotId < current.snapshotId) ∧
    latestSnapshotFor table current.key (some current.snapshotId) = source ∧
    (previousRows table current.runId keys).find? (·.key = current.key) = source ∧
    (rowsBeforeRun table current.runId).find? (·.key = current.key) = source

/-- No run after a snapshot's own has the client fund. -/
def NewestFor (table : List RiskSnapshot) (current : RiskSnapshot) : Prop :=
  ∀ row ∈ table, row.key = current.key → row.snapshotId ≤ current.snapshotId

/-! ## One row a client fund -/

variable {table table' rows : List RiskSnapshot} {key : FundKey} {row current : RiskSnapshot}
  {runId : String} {keys : List FundKey}

lemma latestSnapshotFor_none : latestSnapshotFor table key none =
    newestOf RiskSnapshot.key RiskSnapshot.snapshotId table key := by
  simp only [latestSnapshotFor, newestOf, Option.all_none, and_true]

lemma latestSnapshotFor_some (h : latestSnapshotFor table key none = some row) :
    row ∈ table ∧ row.key = key ∧ ∀ other ∈ table, other.key = key →
      other.snapshotId ≤ row.snapshotId := newestOf_some (latestSnapshotFor_none ▸ h)

/-- The latest snapshot before some point is the latest of those before it. -/
lemma latestSnapshotFor_filter (p : RiskSnapshot → Bool) (before : Option ℤ)
    (same : ∀ row ∈ table, row.key = key →
      (p row = true ↔ before.all (row.snapshotId < ·) = true)) :
    latestSnapshotFor (table.filter p) key none = latestSnapshotFor table key before := by
  rw [latestSnapshotFor, latestSnapshotFor, List.filter_filter]
  congr 1
  refine List.filter_congr fun row mem => ?_
  by_cases isKey : row.key = key
  · rw [Bool.eq_iff_iff]
    simp [isKey, same row mem isKey]
  · simp [isKey]

lemma distinctOn_eq : distinctOn rows =
    ClientEngagement.distinctOn RiskSnapshot.key RiskSnapshot.snapshotId toLex rows :=
  List.filterMap_congr fun _ _ => latestSnapshotFor_none

/-- The row picked for a client fund is its latest. -/
lemma find?_distinctOn : (distinctOn rows).find? (·.key = key) = latestSnapshotFor rows key none := by
  rw [distinctOn_eq, latestSnapshotFor_none]
  exact ClientEngagement.find?_distinctOn

/-- One row a client fund. -/
lemma nodup_distinctOn : ((distinctOn rows).map RiskSnapshot.key).Nodup := by
  rw [distinctOn_eq]
  exact ClientEngagement.nodup_distinctOn

/-! ## Histories written run by run -/

/-- Ids grow along the table, no run has a client fund twice, and no run is interrupted by another. -/
structure RunByRun (table : List RiskSnapshot) : Prop where
  ids : table.Pairwise fun a b => a.snapshotId < b.snapshotId
  once : ∀ a ∈ table, ∀ b ∈ table, a.runId = b.runId → a.key = b.key → a = b
  blocks : ∀ a ∈ table, ∀ b ∈ table, ∀ c ∈ table, a.snapshotId ≤ b.snapshotId →
    b.snapshotId ≤ c.snapshotId → a.runId = c.runId → b.runId = a.runId

lemma runByRun_nil : RunByRun [] := ⟨.nil, nofun, nofun⟩

lemma writeSnapshot_some (h : writeSnapshot table row = some table') :
    table' = table ++ [row] ∧ ∀ old ∈ table, old.runId = row.runId → old.key ≠ row.key := by
  rw [writeSnapshot] at h
  split at h
  · cases h
  · rename_i new
    cases h
    refine ⟨rfl, fun old mem sameRun sameKey => new ?_⟩
    exact List.any_eq_true.mpr ⟨old, mem, by simp [sameRun, sameKey]⟩

/-- The rows of a run come after the table, and the unique constraint holds as it did before. -/
lemma writeRun_some (once : ∀ a ∈ table, ∀ b ∈ table, a.runId = b.runId → a.key = b.key → a = b)
    (h : writeRun table rows = some table') :
    table' = table ++ rows ∧
      ∀ a ∈ table', ∀ b ∈ table', a.runId = b.runId → a.key = b.key → a = b := by
  induction rows generalizing table with
  | nil =>
    cases h
    exact ⟨(List.append_nil _).symm, once⟩
  | cons row rows ih =>
    rw [writeRun, List.foldlM_cons] at h
    obtain ⟨between, first, rest⟩ := Option.bind_eq_some_iff.mp h
    obtain ⟨appended, new⟩ := writeSnapshot_some first
    have once' : ∀ a ∈ between, ∀ b ∈ between, a.runId = b.runId → a.key = b.key → a = b := by
      rw [appended]
      intro a memA b memB sameRun sameKey
      rcases List.mem_append.mp memA with oldA | newA
      · rcases List.mem_append.mp memB with oldB | newB
        · exact once a oldA b oldB sameRun sameKey
        · rw [List.mem_singleton.mp newB] at sameRun sameKey
          exact absurd sameKey (new a oldA sameRun)
      · rcases List.mem_append.mp memB with oldB | newB
        · rw [List.mem_singleton.mp newA] at sameRun sameKey
          exact absurd sameKey.symm (new b oldB sameRun.symm)
        · rw [List.mem_singleton.mp newA, List.mem_singleton.mp newB]
    obtain ⟨same, once''⟩ := ih once' rest
    rw [same, appended, List.append_assoc] at once'' ⊢
    exact ⟨rfl, once''⟩

lemma RunByRun.step (inv : RunByRun table) (st : HistoryStep table runId table') :
    RunByRun table' := by
  cases st with
  | run fresh mine written ids =>
    rename_i rows
    obtain ⟨same, once⟩ := writeRun_some inv.once written
    refine ⟨ids, once, ?_⟩
    subst same
    have later : ∀ old ∈ table, ∀ new ∈ rows, old.snapshotId < new.snapshotId :=
      (List.pairwise_append.mp ids).2.2
    intro a memA b memB c memC ab bc sameRun
    rcases List.mem_append.mp memA with oldA | newA
    · rcases List.mem_append.mp memC with oldC | newC
      · rcases List.mem_append.mp memB with oldB | newB
        · exact inv.blocks a oldA b oldB c oldC ab bc sameRun
        · exact absurd bc (not_le_of_gt (later c oldC b newB))
      · exact absurd (sameRun.trans (mine c newC)) (fresh a oldA)
    · rcases List.mem_append.mp memB with oldB | newB
      · exact absurd ab (not_le_of_gt (later b oldB a newA))
      · rw [mine b newB, mine a newA]

lemma RunByRun.of_run {runs : List String} (r : Run HistoryStep [] runs table) : RunByRun table :=
  r.invariant RunByRun runByRun_nil fun _ _ _ inv st => inv.step st

lemma RunByRun.eq_of_id (inv : RunByRun table) (mem : row ∈ table) (mem' : current ∈ table)
    (same : row.snapshotId = current.snapshotId) : row = current := by
  have nodup : (table.map RiskSnapshot.snapshotId).Nodup :=
    List.pairwise_map.mpr (inv.ids.imp ne_of_lt)
  exact List.inj_on_of_nodup_map nodup mem mem' same

/-! ## The three readings -/

variable (inv : RunByRun table) (mem : current ∈ table)
include inv mem

lemma RunByRun.find?_current :
    (table.find? fun row => row.runId = current.runId ∧ row.key = current.key) = some current := by
  cases found : table.find? fun row => row.runId = current.runId ∧ row.key = current.key with
  | none =>
    have absent := List.find?_eq_none.mp found current mem
    simp at absent
  | some row =>
    have is := List.find?_some found
    simp only [decide_eq_true_eq] at is
    rw [inv.once row (List.mem_of_find?_eq_some found) current mem is.1 is.2]

lemma RunByRun.deltaFor_eq : deltaFor table current.key current.runId =
    (latestSnapshotFor table current.key (some current.snapshotId)).map fun previous =>
      current.riskScore - previous.riskScore := by
  rw [deltaFor, inv.find?_current mem]

/-- Among the rows of its client fund, those before the snapshot are those before its run. -/
lemma RunByRun.find?_rowsBeforeRun :
    (rowsBeforeRun table current.runId).find? (·.key = current.key) =
      latestSnapshotFor table current.key (some current.snapshotId) := by
  rw [rowsBeforeRun]
  cases first : minBy RiskSnapshot.snapshotId (table.filter fun row => row.runId = current.runId) with
  | none =>
    rw [minBy_eq_none, List.filter_eq_nil_iff] at first
    exact absurd (decide_eq_true rfl) (first current mem)
  | some first' =>
    have isFirst := minBy_mem first
    simp only [List.mem_filter, decide_eq_true_eq] at isFirst
    have le : first'.snapshotId ≤ current.snapshotId :=
      minBy_le first (List.mem_filter.mpr ⟨mem, decide_eq_true rfl⟩)
    dsimp only
    rw [find?_distinctOn]
    apply latestSnapshotFor_filter
    intro row listed isKey
    simp only [Option.all_some, decide_eq_true_eq]
    constructor
    · intro before
      exact before.trans_le le
    · intro before
      by_contra after
      have mine := inv.blocks first' isFirst.1 row listed current mem (not_lt.mp after) before.le
        isFirst.2
      rw [inv.once row listed current mem (mine.trans isFirst.2) isKey] at before
      exact absurd before (lt_irrefl _)

omit inv mem in
lemma find?_previousRows (named : current.key ∈ keys) :
    (previousRows table current.runId keys).find? (·.key = current.key) =
      latestSnapshotFor (table.filter fun row => row.runId ≠ current.runId ∧ row.key ∈ keys)
        current.key none := by
  rw [previousRows, if_neg (List.ne_nil_of_mem named), find?_distinctOn]

/-- When no later run has the client fund, the other runs' rows are the earlier ones. -/
lemma RunByRun.previous_of_newest (named : current.key ∈ keys) (newest : NewestFor table current) :
    (previousRows table current.runId keys).find? (·.key = current.key) =
      latestSnapshotFor table current.key (some current.snapshotId) := by
  rw [find?_previousRows named]
  apply latestSnapshotFor_filter
  intro row listed isKey
  simp only [Option.all_some, decide_eq_true_eq]
  constructor
  · intro other
    refine lt_of_le_of_ne (newest row listed isKey) fun sameId => ?_
    exact other.1 (by rw [inv.eq_of_id listed mem sameId])
  · intro before
    refine ⟨fun mine => ?_, isKey ▸ named⟩
    rw [inv.once row listed current mem mine isKey] at before
    exact absurd before (lt_irrefl _)

/-- A later run's row would be read as the one before. -/
lemma RunByRun.newest_of_previous (named : current.key ∈ keys)
    (earlier : ∀ row ∈ (previousRows table current.runId keys).find? (·.key = current.key),
      row.snapshotId < current.snapshotId) : NewestFor table current := by
  rw [find?_previousRows named] at earlier
  intro row listed isKey
  by_contra later
  have other : row.runId ≠ current.runId := by
    intro mine
    rw [inv.once row listed current mem mine isKey] at later
    exact later le_rfl
  have read : row ∈ table.filter fun row => row.runId ≠ current.runId ∧ row.key ∈ keys := by
    simp [listed, other, isKey, named]
  cases found : latestSnapshotFor
      (table.filter fun row => row.runId ≠ current.runId ∧ row.key ∈ keys) current.key none with
  | none =>
    rw [latestSnapshotFor, minBy_eq_none, List.filter_eq_nil_iff] at found
    exact found row read (by simp [isKey])
  | some latest =>
    have le := (latestSnapshotFor_some found).2.2 row read isKey
    exact later (le.trans (earlier latest found).le)

omit inv mem

lemma get?_previousScores :
    (previousScores table runId keys).get? key =
      ((previousRows table runId keys).find? (·.key = key)).map RiskSnapshot.riskScore := by
  rw [previousScores, get?_ofList_of_key]
  rw [previousRows]
  split
  · exact List.nodup_nil
  · exact nodup_distinctOn

lemma get?_routesBeforeRun :
    (routesBeforeRun table runId).get? key =
      ((rowsBeforeRun table runId).find? (·.key = key)).map RiskSnapshot.route := by
  rw [routesBeforeRun, get?_ofList_of_key]
  rw [rowsBeforeRun]
  split
  · exact List.nodup_nil
  · exact nodup_distinctOn

/-- On every history, the readings of a run's snapshot agree if and only if no later run has its client
    fund. -/
theorem readings_agree {runs : List String} (r : Run HistoryStep [] runs table)
    (mem : current ∈ table) (named : current.key ∈ keys) :
    ReadingsAgree table current keys ↔ NewestFor table current := by
  have inv := RunByRun.of_run r
  constructor
  · intro agree
    obtain ⟨source, earlier, _, previous, _⟩ := agree.same
    apply inv.newest_of_previous mem named
    rw [previous]
    exact fun row is => (earlier row is).2
  · intro newest
    have previous := inv.previous_of_newest mem named newest
    have routes := inv.find?_rowsBeforeRun mem
    have delta := inv.deltaFor_eq mem
    refine ⟨?_, ?_, ?_, _, ?_, rfl, previous, routes⟩
    · rw [Dict.contains, get?_previousScores, previous, delta]
      cases latestSnapshotFor table current.key (some current.snapshotId) with
      | none => simp
      | some row => simp
    · intro score
      rw [get?_previousScores, previous, delta]
      cases latestSnapshotFor table current.key (some current.snapshotId) with
      | none =>
        intro same
        cases same
      | some row =>
        intro same
        cases same
        rfl
    · rw [Dict.contains, Dict.contains, get?_previousScores, get?_routesBeforeRun, previous, routes,
        Option.isSome_map, Option.isSome_map]
    · intro row is
      have read := minBy_mem is
      simp only [List.mem_filter, Option.all_some, decide_eq_true_eq] at read
      exact ⟨read.1, read.2.2⟩

/-! ## A run that is not the latest -/

def firstNight : RiskSnapshot := ⟨1, "first", (1, 10), 40, "Watch", some "fa_watchlist", none⟩
def secondNight : RiskSnapshot := ⟨2, "second", (1, 10), 60, "High", some "fa_call_priority", some 1⟩

lemma two_nights : Run HistoryStep [] ["first", "second"] [firstNight, secondNight] := by
  have mine : ∀ row ∈ [firstNight], row.runId = "first" := by simp [firstNight]
  have mine' : ∀ row ∈ [secondNight], row.runId = "second" := by simp [secondNight]
  have first : HistoryStep [] "first" [firstNight] :=
    .run nofun mine rfl (List.pairwise_singleton _ _)
  have second : HistoryStep [firstNight] "second" [firstNight, secondNight] :=
    .run (by simp [firstNight]) mine' rfl (by simp [firstNight, secondNight])
  exact .snoc (.snoc .nil first) second

theorem readings_agree_sample : ReadingsAgree [firstNight, secondNight] secondNight [(1, 10)] := by
  have newest : NewestFor [firstNight, secondNight] secondNight := by
    simp [NewestFor, firstNight, secondNight]
  exact (readings_agree two_nights (.tail _ (.head _)) (.head _)).mpr newest

/-- The night after counts as the night before. -/
theorem later_run_is_read : ∃ runs table current keys, Run HistoryStep [] runs table ∧
    current ∈ table ∧ current.key ∈ keys ∧ deltaFor table current.key current.runId = none ∧
    (previousScores table current.runId keys).get? current.key = some 60 := by
  exact ⟨_, _, firstNight, [(1, 10)], two_nights, .head _, .head _, rfl, rfl⟩

end ClientEngagement.Risk
