import ClientEngagement.Agents.ScenarioStudio

/-!
# The batch simulation

Model of `run_batch_simulation` (`services/agent_studio.py`), which forecasts from the situation states what
`propose_watchlist` (`agents/propose.py`) would write. Its counts by situation are always those of the watch list.
What it queues without a person is what the proposals act alone on exactly when the gates hold back as many client
funds as they let through where a ceiling had stopped the forecast (`forecast_iff`): the simulation asks no gate.
-/

namespace ClientEngagement.Agents.Studio
open Situations (FundKey SituationCode SituationDb ClientSituationState)
open ClientEngagement.Agents.Watchlist (Tables WatchlistThresholds situationStatement
  buildGroup mem_buildGroup)
open ClientEngagement.Agents.Scenario (buildWatchlist groupMember situationOf consolidationWinner)
open ClientEngagement.Watchlist (GroupName GateFacts Book NightProposal groupNames situationPriority
  situationWinners firstHolding get?_situationWinners get?_consolidate consolidate includedMembers groupSkipReasons
  get?_groupSkipReasons defaultActionCodeForGroup skipReason proposeWatchlist proposeGroup proposeAll ActionRow
  WatchGroup loadActionOrRaise ruleReason clientCount clientRows mem_buildWatchlist)

/-! ## What a night reads -/

/-- The catalogue and the gates of a day, the ceilings of the catalogue's actions and the settings. -/
structure StudioState where
  facts : GateFacts
  moneyCeilingKes : String → Option ℚ := fun _ => none
  permissions : PermissionTable := .empty
  agentForceApproveEach : Bool := false
  thresholds : Option WatchlistThresholds
  keyed : ∀ code action, facts.actions.get? code = some action → action.actionCode = code

/-- The groups `build_watchlist` reads from situations. -/
def situationBook (tables : Tables) (db : SituationDb) : Book :=
  fun name => (situationStatement tables db (situationOf name)).map groupMember

/-- They are what the watch list holds, whatever the thresholds. -/
theorem buildWatchlist_situations (tables : Tables) (db : SituationDb) (thresholds : WatchlistThresholds) (asOf : ℤ) :
    buildWatchlist .situations tables db thresholds asOf =
      some (ClientEngagement.Watchlist.buildWatchlist (situationBook tables db)) := rfl

def moneyOf (members : List GroupMember) : ℚ := (members.map GroupMember.balance).sum

/-! ## The simulation -/

/-- `SITUATION_CODE_TO_GROUP`. -/
def situationCodeToGroup : SituationCode → Option GroupName
  | .newClientSingleDeposit => some .signedUpRecently
  | .feePressureGoneQuiet => some .feePressureGoneQuiet
  | .feePressureActiveContributor => some .feePressureActiveContributor
  | .smallBalanceInactive => some .verySmallAndQuiet
  | .contributionDecline => some .gettingSmaller
  | .singleFundHealthy => some .healthyOneFund
  | .followUpOverdue => some .waitingOnACall
  | .riskActionGap => some .moreUrgentButNotCalled
  | .systemFeePressure => none

structure SituationRow where
  key : FundKey
  situationCode : SituationCode
  balance : Option ℚ

/-- The active situations of the book, in one order the database may return them in. -/
def situationRows (tables : Tables) (db : SituationDb) : List SituationRow :=
  db.states.items.filterMap fun state =>
    if state.2.isActive then
      (tables.book.get? state.1.1).map fun fund => ⟨state.1.1, state.1.2, fund.balance⟩
    else none

structure Entry where
  groups : List GroupName := []
  balance : ℚ

def addRow (row : SituationRow) (entry : Entry) : Entry :=
  { entry with groups := entry.groups ++ (situationCodeToGroup row.situationCode).toList }

def byKey (rows : List SituationRow) : Dict FundKey Entry :=
  rows.foldl (fun entries row => entries.modify row.key { balance := row.balance.getD 0 } (addRow row)) .empty

/-- The balances of the client funds a situation wins. -/
def winners (entries : Dict FundKey Entry) (name : GroupName) : List ℚ :=
  (entries.items.filter fun entry => consolidationWinner entry.2.groups = some name).map fun entry => entry.2.balance

structure SituationCount where
  situation : GroupName
  clientFunds : ℕ
  moneyTotalKes : ℚ

structure BatchSimulationResult where
  scanned : ℕ
  matched : ℕ
  multiMatchConsolidated : ℕ
  moneyTotalKes : ℚ
  bySituation : List SituationCount
  autoQueued : ℕ
  needsApproval : ℕ
  trimmedByDailyCap : ℕ := 0

/-- Whether a group's mapped action acts alone on an amount of money. -/
def queuesAlone (state : StudioState) (name : GroupName) (money : ℚ) : Bool :=
  let actionCode := defaultActionCodeForGroup state.facts name
  let ceiling := (state.facts.actions.get? actionCode).bind fun _ => state.moneyCeilingKes actionCode
  effectivePermission state.agentForceApproveEach state.permissions actionCode none none (some money) ceiling =
    .actAlone

/-- One turn of the loop that counts what is queued and what needs approval. -/
def countSituation (state : StudioState) (winners : GroupName → List ℚ) (counts : ℕ × ℕ) (name : GroupName) :
    ℕ × ℕ :=
  if winners name = [] then counts
  else if queuesAlone state name (winners name).sum then (counts.1 + (winners name).length, counts.2)
  else (counts.1, counts.2 + (winners name).length)

def runBatchSimulation (state : StudioState) (tables : Tables) (rows : List SituationRow) : BatchSimulationResult :=
  let entries := byKey rows
  let bySituation := situationPriority.map fun situation =>
    ⟨situation, (winners entries situation).length, (winners entries situation).sum⟩
  let counts := situationPriority.foldl (countSituation state (winners entries)) (0, 0)
  { scanned := tables.book.items.length
    matched := (entries.items.filter fun entry => entry.2.groups ≠ []).length
    multiMatchConsolidated := (entries.items.filter fun entry => 1 < entry.2.groups.length).length
    moneyTotalKes := (bySituation.map SituationCount.moneyTotalKes).sum
    bySituation
    autoQueued := counts.1
    needsApproval := counts.2 }

/-! ## The proposals -/

/-- The members of its group a proposal includes. -/
def includedOf (book : Book) (p : NightProposal) : List GroupMember :=
  (book p.groupName).filter fun member => p.clients.any fun row => row.key = member.key ∧ row.included

/-- `permission_applied`. -/
def permissionApplied (state : StudioState) (book : Book) (p : NightProposal) : PermissionLevel :=
  effectivePermission state.agentForceApproveEach state.permissions p.action.actionCode none none
    (some (moneyOf (includedOf book p))) (state.moneyCeilingKes p.action.actionCode)

/-- What `propose_watchlist` writes: nothing where it raises. -/
def written (state : StudioState) (book : Book) : List NightProposal :=
  match state.thresholds, proposeWatchlist state.facts book with
  | some _, .ok proposals => proposals
  | _, _ => []

/-- The client funds included in the proposals that act alone. -/
def fundsActedAlone (state : StudioState) (book : Book) : ℕ :=
  ((written state book).map fun p =>
    if permissionApplied state book p = .actAlone then (p.clients.filter fun row => row.included).length else 0).sum

/-- The members of a group that no more urgent group wins. -/
def won (book : Book) (name : GroupName) : List GroupMember :=
  (book name).filter fun member =>
    (situationWinners (ClientEngagement.Watchlist.buildWatchlist book)).get? member.key = some name

/-- What a forecast promises. -/
structure Forecasts (state : StudioState) (tables : Tables) (book : Book) (result : BatchSimulationResult) :
    Prop where
  bySituation : result.bySituation = situationPriority.map fun name =>
    ⟨name, (won book name).length, moneyOf (won book name)⟩
  matched : result.matched =
    (tables.book.keys.filter fun key => groupNames.any fun name => (book name).any (·.key = key)).length
  split : result.matched = result.autoQueued + result.needsApproval
  autoQueued : result.autoQueued = fundsActedAlone state book

/-! ## The entries of the simulation -/

variable {state : StudioState} {tables : Tables} {db : SituationDb} {rows : List SituationRow} {key : FundKey}
  {name : GroupName} {entry : Entry}

lemma situationCodeToGroup_eq_some {code : SituationCode} :
    situationCodeToGroup code = some name ↔ code = situationOf name := by
  cases code <;> cases name <;> decide

lemma mem_situationRows {row : SituationRow} : row ∈ situationRows tables db ↔
    (∃ fund, tables.book.get? row.key = some fund ∧ row.balance = fund.balance) ∧
      (db.states.get? (row.key, row.situationCode)).any ClientSituationState.isActive = true := by
  rw [situationRows, List.mem_filterMap]
  constructor
  · rintro ⟨⟨⟨key, code⟩, found⟩, listed, made⟩
    obtain ⟨active, made⟩ := Option.ite_none_right_eq_some.mp made
    obtain ⟨fund, inBook, rfl⟩ := Option.map_eq_some_iff.mp made
    refine ⟨⟨fund, inBook, rfl⟩, ?_⟩
    rw [(Dict.mem_items_iff _).mp listed]
    exact active
  · obtain ⟨key, code, balance⟩ := row
    rintro ⟨⟨fund, inBook, rfl⟩, held⟩
    obtain ⟨found, stored, active⟩ := (Option.any_eq_true _ _).mp held
    refine ⟨((key, code), found), (Dict.mem_items_iff _).mpr stored, (if_pos active).trans ?_⟩
    rw [inBook]
    rfl

lemma mem_keys_byKey : key ∈ (byKey rows).keys ↔ ∃ row ∈ rows, row.key = key := by
  induction rows using List.reverseRecOn with
  | nil => simp [byKey]
  | append_singleton rows row ih =>
    rw [byKey, List.foldl_append, List.foldl_cons, List.foldl_nil, ← byKey, Dict.modify, Dict.mem_keys_set, ih]
    simp only [List.mem_append, List.mem_singleton, or_and_right, exists_or, exists_eq_left]
    rw [or_comm, eq_comm]

/-- An entry is made by the rows of its key. -/
lemma entry_byKey (found : (byKey rows).get? key = some entry) :
    (∃ row ∈ rows, row.key = key ∧ entry.balance = row.balance.getD 0) ∧
      ∀ name, name ∈ entry.groups ↔
        ∃ row ∈ rows, row.key = key ∧ situationCodeToGroup row.situationCode = some name := by
  induction rows using List.reverseRecOn generalizing entry with
  | nil => cases found
  | append_singleton rows row ih =>
    rw [byKey, List.foldl_append, List.foldl_cons, List.foldl_nil, ← byKey, Dict.get?_modify] at found
    have later : ∀ name, (∃ other ∈ rows ++ [row], other.key = key ∧
        situationCodeToGroup other.situationCode = some name) ↔
          (∃ other ∈ rows, other.key = key ∧ situationCodeToGroup other.situationCode = some name) ∨
            row.key = key ∧ situationCodeToGroup row.situationCode = some name := by
      intro name
      simp only [List.mem_append, List.mem_singleton, or_and_right, exists_or, exists_eq_left]
    by_cases own : key = row.key
    · rw [if_pos own] at found
      cases found
      subst own
      cases before : (byKey rows).get? row.key with
      | none =>
        have none_earlier : ∀ other ∈ rows, other.key ≠ row.key := by
          intro other mem same
          have listed := mem_keys_byKey.mpr ⟨other, mem, same⟩
          exact (Dict.get?_eq_none_iff _).mp before listed
        rw [Dict.getD, before]
        refine ⟨⟨row, List.mem_append_right _ (.head _), rfl, rfl⟩, fun name => ?_⟩
        rw [later]
        simp only [addRow, Option.getD_none, List.nil_append, Option.mem_toList, true_and]
        refine (or_iff_right ?_).symm
        rintro ⟨other, mem, same, _⟩
        exact none_earlier other mem same
      | some held =>
        obtain ⟨⟨other, mem, same, balance⟩, groups⟩ := ih before
        rw [Dict.getD, before]
        refine ⟨⟨other, List.mem_append_left _ mem, same, balance⟩, fun name => ?_⟩
        rw [later, ← groups]
        simp only [addRow, Option.getD_some, List.mem_append, Option.mem_toList, true_and]
    · rw [if_neg own] at found
      obtain ⟨⟨other, mem, same, balance⟩, groups⟩ := ih found
      refine ⟨⟨other, List.mem_append_left _ mem, same, balance⟩, fun name => ?_⟩
      rw [later, ← groups]
      exact (or_iff_left fun both => own both.1.symm).symm

/-- The groups that hold a client fund. -/
lemma holds_situationBook : (situationBook tables db name).any (·.key = key) = true ↔
    (∃ fund, tables.book.get? key = some fund) ∧
      (db.states.get? (key, situationOf name)).any ClientSituationState.isActive = true := by
  rw [List.any_eq_true]
  constructor
  · rintro ⟨_, mem, same⟩
    obtain ⟨member, there, rfl⟩ := List.mem_map.mp mem
    obtain ⟨row, selected, rfl⟩ := mem_buildGroup.mp there
    obtain ⟨inBook, active⟩ := List.mem_filter.mp selected
    obtain rfl : row.1 = key := of_decide_eq_true same
    exact ⟨⟨row.2, (Dict.mem_items_iff _).mp inBook⟩, active⟩
  · rintro ⟨⟨fund, inBook⟩, active⟩
    refine ⟨groupMember ⟨key, fund.balance.getD 0⟩, List.mem_map_of_mem (mem_buildGroup.mpr ⟨(key, fund), ?_, rfl⟩),
      decide_eq_true rfl⟩
    exact List.mem_filter.mpr ⟨(Dict.mem_items_iff _).mpr inBook, active⟩

/-- The balance of a client fund, as both sides read it. -/
def balanceOf (tables : Tables) (key : FundKey) : ℚ := ((tables.book.get? key).bind fun fund => fund.balance).getD 0

lemma balance_of_member {member : GroupMember} (mem : member ∈ situationBook tables db name) :
    member.balance = balanceOf tables member.key := by
  obtain ⟨_, there, rfl⟩ := List.mem_map.mp mem
  obtain ⟨row, selected, rfl⟩ := mem_buildGroup.mp there
  have inBook : tables.book.get? row.1 = some row.2 :=
    (Dict.mem_items_iff _).mp (List.mem_filter.mp selected).1
  show row.2.balance.getD 0 = balanceOf tables row.1
  rw [balanceOf, inBook]
  rfl

lemma nodup_situationBook : ((situationBook tables db name).map GroupMember.key).Nodup := by
  rw [situationBook, situationStatement, buildGroup, List.map_map, List.map_map]
  exact (List.filter_sublist.map Prod.fst).nodup tables.book.nodup

lemma nodup_entries {p : FundKey × Entry → Bool} : (((byKey rows).items.filter p).map Prod.fst).Nodup :=
  (List.filter_sublist.map Prod.fst).nodup (byKey rows).nodup

lemma holds_of_first {book : Book} (wins : firstHolding book key = some name) :
    (book name).any (·.key = key) = true := by
  have held := List.find?_some wins
  exact held

lemma mem_won_keys {book : Book} : key ∈ (won book name).map GroupMember.key ↔ firstHolding book key = some name := by
  rw [List.mem_map]
  constructor
  · rintro ⟨member, mem, rfl⟩
    have wins := of_decide_eq_true (List.mem_filter.mp mem).2
    rwa [get?_situationWinners] at wins
  · intro wins
    obtain ⟨member, mem, same⟩ := List.any_eq_true.mp (holds_of_first wins)
    obtain rfl : member.key = key := of_decide_eq_true same
    refine ⟨member, List.mem_filter.mpr ⟨mem, decide_eq_true ?_⟩, rfl⟩
    rw [get?_situationWinners]
    exact wins

section Rows

variable (listed : rows.Perm (situationRows tables db))
include listed

/-- An entry has the groups of its client fund. -/
lemma entry_of_book (found : (byKey rows).get? key = some entry) :
    entry.balance = ((tables.book.get? key).bind fun fund => fund.balance).getD 0 ∧
      ∀ name, name ∈ entry.groups ↔ (situationBook tables db name).any (·.key = key) = true := by
  obtain ⟨⟨row, mem, rfl, balance⟩, groups⟩ := entry_byKey found
  obtain ⟨⟨fund, inBook, same⟩, -⟩ := mem_situationRows.mp (listed.mem_iff.mp mem)
  constructor
  · rw [balance, inBook, same]
    rfl
  · intro name
    rw [groups, holds_situationBook]
    constructor
    · rintro ⟨other, there, same_key, code⟩
      obtain ⟨-, active⟩ := mem_situationRows.mp (listed.mem_iff.mp there)
      rw [same_key, situationCodeToGroup_eq_some.mp code] at active
      exact ⟨⟨fund, inBook⟩, active⟩
    · rintro ⟨-, active⟩
      have there : (⟨row.key, situationOf name, row.balance⟩ : SituationRow) ∈ rows :=
        listed.mem_iff.mpr (mem_situationRows.mpr ⟨⟨fund, inBook, same⟩, active⟩)
      exact ⟨_, there, rfl, situationCodeToGroup_eq_some.mpr rfl⟩

lemma mem_keys_of_holds (held : (situationBook tables db name).any (·.key = key) = true) :
    key ∈ (byKey rows).keys := by
  obtain ⟨⟨fund, inBook⟩, active⟩ := holds_situationBook.mp held
  have there : (⟨key, situationOf name, fund.balance⟩ : SituationRow) ∈ rows :=
    listed.mem_iff.mpr (mem_situationRows.mpr ⟨⟨fund, inBook, rfl⟩, active⟩)
  exact mem_keys_byKey.mpr ⟨_, there, rfl⟩

/-- The entry's winner is the first group that holds its client fund. -/
lemma winner_of_entry (found : (byKey rows).get? key = some entry) :
    consolidationWinner entry.groups = firstHolding (situationBook tables db) key := by
  rw [consolidationWinner, firstHolding]
  refine List.find?_congr fun name _ => ?_
  rw [Bool.eq_iff_iff, decide_eq_true_eq]
  exact (entry_of_book listed found).2 name

/-- The simulation gives a group the client funds it wins. -/
lemma keys_won : (((byKey rows).items.filter fun entry => consolidationWinner entry.2.groups = some name).map
    Prod.fst).Perm ((won (situationBook tables db) name).map GroupMember.key) := by
  have won_once : ((won (situationBook tables db) name).map GroupMember.key).Nodup :=
    (List.filter_sublist.map GroupMember.key).nodup nodup_situationBook
  rw [List.perm_ext_iff_of_nodup nodup_entries won_once]
  intro key
  rw [mem_won_keys, List.mem_map]
  constructor
  · rintro ⟨⟨key, entry⟩, mem, rfl⟩
    obtain ⟨there, wins⟩ := List.mem_filter.mp mem
    rw [← winner_of_entry listed ((Dict.mem_items_iff _).mp there)]
    exact of_decide_eq_true wins
  · intro wins
    obtain ⟨entry, found⟩ := (Dict.mem_keys_iff _).mp (mem_keys_of_holds listed (holds_of_first wins))
    refine ⟨(key, entry), List.mem_filter.mpr ⟨(Dict.mem_items_iff _).mpr found, decide_eq_true ?_⟩, rfl⟩
    rw [winner_of_entry listed found]
    exact wins

/-- With the same balances. -/
lemma winners_won : (winners (byKey rows) name).Perm
    ((won (situationBook tables db) name).map GroupMember.balance) := by
  have entries : winners (byKey rows) name = (((byKey rows).items.filter fun entry =>
      consolidationWinner entry.2.groups = some name).map Prod.fst).map (balanceOf tables) := by
    rw [winners, List.map_map]
    refine List.map_congr_left fun entry mem => ?_
    exact (entry_of_book listed ((Dict.mem_items_iff _).mp (List.mem_filter.mp mem).1)).1
  have members : (won (situationBook tables db) name).map GroupMember.balance =
      ((won (situationBook tables db) name).map GroupMember.key).map (balanceOf tables) := by
    rw [List.map_map]
    exact List.map_congr_left fun member mem => balance_of_member (List.mem_filter.mp mem).1
  rw [entries, members]
  exact (keys_won listed).map _

lemma matched_entries : (((byKey rows).items.filter fun entry => entry.2.groups ≠ []).map Prod.fst).Perm
    (tables.book.keys.filter fun key => groupNames.any fun name =>
      (situationBook tables db name).any (·.key = key)) := by
  rw [List.perm_ext_iff_of_nodup nodup_entries (List.filter_sublist.nodup tables.book.keys_nodup)]
  intro key
  rw [List.mem_map, List.mem_filter]
  constructor
  · rintro ⟨⟨key, entry⟩, mem, rfl⟩
    obtain ⟨there, some_group⟩ := List.mem_filter.mp mem
    obtain ⟨-, groups⟩ := entry_of_book listed ((Dict.mem_items_iff _).mp there)
    obtain ⟨name, among⟩ := List.exists_mem_of_ne_nil _ (of_decide_eq_true some_group)
    have held := (groups name).mp among
    obtain ⟨fund, inBook⟩ := (holds_situationBook.mp held).1
    refine ⟨(Dict.mem_keys_iff _).mpr ⟨fund, inBook⟩, List.any_eq_true.mpr ⟨name, ?_, held⟩⟩
    cases name <;> decide
  · rintro ⟨-, some_group⟩
    obtain ⟨name, -, held⟩ := List.any_eq_true.mp some_group
    obtain ⟨entry, found⟩ := (Dict.mem_keys_iff _).mp (mem_keys_of_holds listed held)
    refine ⟨(key, entry), List.mem_filter.mpr ⟨(Dict.mem_items_iff _).mpr found, decide_eq_true ?_⟩, rfl⟩
    exact List.ne_nil_of_mem (((entry_of_book listed found).2 name).mpr held)

end Rows

/-! ## The counts of the simulation -/

/-- The loop adds each situation's client funds to one of the two counts. -/
lemma foldl_countSituation (balances : GroupName → List ℚ) (names : List GroupName) (counts : ℕ × ℕ) :
    names.foldl (countSituation state balances) counts =
      (counts.1 + (names.map fun name =>
          if queuesAlone state name (balances name).sum then (balances name).length else 0).sum,
        counts.2 + (names.map fun name =>
          if queuesAlone state name (balances name).sum then 0 else (balances name).length).sum) := by
  induction names generalizing counts with
  | nil => rfl
  | cons name names ih =>
    rw [List.foldl_cons, ih, countSituation, List.map_cons, List.map_cons, List.sum_cons, List.sum_cons]
    by_cases nobody : balances name = []
    · rw [if_pos nobody, nobody, List.length_nil, ite_self, Nat.zero_add, Nat.zero_add]
    · rw [if_neg nobody]
      split
      · simp [Nat.add_assoc]
      · simp [Nat.add_assoc]

/-- Each matched client fund is won by one situation. -/
lemma sum_winners : (situationPriority.map fun name => (winners (byKey rows) name).length).sum =
    ((byKey rows).items.filter fun entry => entry.2.groups ≠ []).length := by
  have once : (situationPriority.map some).Nodup := by decide
  have all : ∀ entry ∈ (byKey rows).items.filter fun entry => entry.2.groups ≠ [],
      consolidationWinner entry.2.groups ∈ situationPriority.map some := by
    intro entry mem
    obtain ⟨name, among⟩ := List.exists_mem_of_ne_nil _ (of_decide_eq_true (List.mem_filter.mp mem).2)
    have listed : name ∈ situationPriority := by cases name <;> decide
    cases wins : consolidationWinner entry.2.groups with
    | none =>
      have lost := List.find?_eq_none.mp wins name listed
      exact absurd (decide_eq_true among) lost
    | some first => exact List.mem_map_of_mem (List.mem_of_find?_eq_some wins)
  rw [← sum_length_groups once all, List.map_map]
  refine congrArg List.sum (List.map_congr_left fun name _ => ?_)
  rw [winners, List.length_map, Function.comp, List.filter_filter]
  refine congrArg List.length (List.filter_congr fun entry _ => ?_)
  rw [Bool.eq_iff_iff, Bool.and_eq_true, decide_eq_true_eq, decide_eq_true_eq]
  refine (and_iff_left_of_imp fun wins nobody => ?_).symm
  rw [nobody] at wins
  cases wins

/-! ## The proposals of a night -/

def mappedAction (state : StudioState) (name : GroupName) : Option ActionRow :=
  state.facts.actions.get? (defaultActionCodeForGroup state.facts name)

/-- The members a group wins that its gates let through. -/
def letThrough (state : StudioState) (book : Book) (name : GroupName) : List GroupMember :=
  (won book name).filter fun member =>
    (mappedAction state name).any fun action => skipReason state.facts action member = none

section Loop

variable {ε : Type} {propose : WatchGroup → Except ε (Option NightProposal)} {groups : List WatchGroup}
  {proposals : List NightProposal}

lemma exists_proposeAll_iff : (∃ proposals, proposeAll propose groups = .ok proposals) ↔
    ∀ group ∈ groups, ∃ made, propose group = .ok made := by
  induction groups with
  | nil => exact ⟨fun _ _ mem => absurd mem List.not_mem_nil, fun _ => ⟨[], rfl⟩⟩
  | cons group rest ih =>
    rw [List.forall_mem_cons, ← ih]
    constructor
    · rintro ⟨proposals, ran⟩
      obtain ⟨made, asked, ran⟩ := bind_eq_ok.mp ran
      obtain ⟨later, after, -⟩ := map_eq_ok.mp ran
      exact ⟨⟨made, asked⟩, later, after⟩
    · rintro ⟨⟨made, asked⟩, later, after⟩
      exact ⟨made.toList ++ later, bind_eq_ok.mpr ⟨made, asked, map_eq_ok.mpr ⟨later, after, rfl⟩⟩⟩

/-- What the proposals of a run add up to is what its groups do. -/
lemma sum_proposeAll {amount : NightProposal → ℕ} {share : WatchGroup → ℕ}
    (ran : proposeAll propose groups = .ok proposals)
    (own : ∀ group ∈ groups, ∀ made, propose group = .ok made → (made.map amount).getD 0 = share group) :
    (proposals.map amount).sum = (groups.map share).sum := by
  induction groups generalizing proposals with
  | nil =>
    cases ran
    rfl
  | cons group rest ih =>
    obtain ⟨made, asked, ran⟩ := bind_eq_ok.mp ran
    obtain ⟨later, after, rfl⟩ := map_eq_ok.mp ran
    have first := own group (.head _) made asked
    have others := ih after fun group mem => own group (.tail _ mem)
    rw [List.map_append, List.sum_append, others, List.map_cons, List.sum_cons, ← first]
    cases made with
    | none => rfl
    | some p => rfl

end Loop

section Group

variable {book : Book} {group : WatchGroup} {member : GroupMember}

/-- A group keeps the reasons of the client funds it wins. -/
lemma get?_consolidate_own {winners : Dict FundKey GroupName} {reasons : Dict FundKey (Option String)}
    (wins : winners.get? key = some group.name) : (consolidate winners group reasons).get? key = reasons.get? key := by
  rw [consolidate]
  generalize group.members = members
  induction members generalizing reasons with
  | nil => rfl
  | cons member members ih =>
    rw [List.foldl_cons, ih]
    split
    case isTrue lost =>
      refine Dict.get?_set_ne _ _ fun same => lost ?_
      rw [← same, wins]
    case isFalse => rfl

/-- A member is included when its group wins it and the gates let it through. -/
lemma passed_iff {winners : Dict FundKey GroupName} {facts : GateFacts} {action : ActionRow}
    (mem : member ∈ group.members) :
    ((consolidate winners group (groupSkipReasons facts group.members action)).get? member.key).join = none ↔
      winners.get? member.key = some group.name ∧ skipReason facts action member = none := by
  by_cases wins : winners.get? member.key = some group.name
  · rw [get?_consolidate_own wins, get?_groupSkipReasons mem, and_iff_right wins]
    exact Iff.rfl
  · rw [get?_consolidate (List.mem_map_of_mem mem) wins]
    exact iff_of_false nofun fun both => wins both.1

lemma includedMembers_eq {action : ActionRow} (mapped : mappedAction state name = some action) :
    includedMembers (book name) (consolidate (situationWinners (ClientEngagement.Watchlist.buildWatchlist book))
      ⟨name, book name⟩ (groupSkipReasons state.facts (book name) action)) = letThrough state book name := by
  rw [includedMembers, letThrough, won, List.filter_filter, mapped]
  refine List.filter_congr fun member mem => ?_
  have passed : ((consolidate (situationWinners (ClientEngagement.Watchlist.buildWatchlist book)) ⟨name, book name⟩
      (groupSkipReasons state.facts (book name) action)).get? member.key).join = none ↔
        (situationWinners (ClientEngagement.Watchlist.buildWatchlist book)).get? member.key = some name ∧
          skipReason state.facts action member = none := passed_iff mem
  rw [Option.any_some, Bool.eq_iff_iff, decide_eq_true_eq, Bool.and_eq_true, decide_eq_true_eq, decide_eq_true_eq]
  exact passed.trans and_comm

/-- The proposal of a group that goes on with an action. -/
def groupProposal (state : StudioState) (book : Book) (name : GroupName) (mapped chosen : ActionRow) :
    NightProposal where
  groupName := name
  action := chosen
  reason := ruleReason chosen name (clientCount (letThrough state book name)) (clientCount (book name))
  clients := clientRows (book name) (consolidate
    (situationWinners (ClientEngagement.Watchlist.buildWatchlist book)) ⟨name, book name⟩
      (groupSkipReasons state.facts (book name) mapped))

lemma proposeGroup_eq {action : ActionRow} (somebody : book name ≠ []) (mapped : mappedAction state name = some action) :
    proposeGroup state.facts (situationWinners (ClientEngagement.Watchlist.buildWatchlist book)) ⟨name, book name⟩ =
      (if letThrough state book name = [] then loadActionOrRaise state.facts doNothingAction else .ok action).map
        fun chosen => some (groupProposal state book name action chosen) := by
  have loaded : loadActionOrRaise state.facts (defaultActionCodeForGroup state.facts name) = .ok action := by
    rw [loadActionOrRaise, show state.facts.actions.get? (defaultActionCodeForGroup state.facts name) =
      some action from mapped]
  rw [proposeGroup, if_neg somebody, loaded]
  simp only [groupProposal]
  rw [← includedMembers_eq mapped]
  rfl

lemma proposeGroup_missing (somebody : book name ≠ []) (missing : mappedAction state name = none) :
    proposeGroup state.facts (situationWinners (ClientEngagement.Watchlist.buildWatchlist book)) ⟨name, book name⟩ =
      .error ⟨defaultActionCodeForGroup state.facts name⟩ := by
  have loaded : loadActionOrRaise state.facts (defaultActionCodeForGroup state.facts name) =
      .error ⟨defaultActionCodeForGroup state.facts name⟩ := by
    rw [loadActionOrRaise, show state.facts.actions.get? (defaultActionCodeForGroup state.facts name) = none from
      missing]
  rw [proposeGroup, if_neg somebody, loaded]
  rfl

/-- A group is proposed for unless its action, or the one for a group with nobody left, is not in the catalogue. -/
lemma proposeGroup_ok_iff :
    (∃ made, proposeGroup state.facts (situationWinners (ClientEngagement.Watchlist.buildWatchlist book))
      ⟨name, book name⟩ = .ok made) ↔
    (book name ≠ [] → (mappedAction state name).isSome = true ∧
      (letThrough state book name = [] → (state.facts.actions.get? doNothingAction).isSome = true)) := by
  by_cases nobody : book name = []
  · refine iff_of_true ⟨none, ?_⟩ fun somebody => absurd nobody somebody
    rw [proposeGroup, if_pos nobody]
  · rw [forall_prop_of_true nobody]
    cases mapped : mappedAction state name with
    | none =>
      rw [proposeGroup_missing nobody mapped]
      refine iff_of_false ?_ fun both => Bool.false_ne_true both.1
      rintro ⟨made, raised⟩
      cases raised
    | some action =>
      rw [proposeGroup_eq nobody mapped, Option.isSome_some, and_iff_right rfl]
      by_cases none_left : letThrough state book name = []
      · rw [if_pos none_left, forall_prop_of_true none_left, loadActionOrRaise]
        cases state.facts.actions.get? doNothingAction with
        | none =>
          refine iff_of_false ?_ Bool.false_ne_true
          rintro ⟨made, raised⟩
          cases raised
        | some other => exact iff_of_true ⟨_, rfl⟩ rfl
      · rw [if_neg none_left]
        exact iff_of_true ⟨_, rfl⟩ fun nobody_left => absurd nobody_left none_left

lemma includedOf_groupProposal {mapped chosen : ActionRow} (found : mappedAction state name = some mapped) :
    includedOf book (groupProposal state book name mapped chosen) = letThrough state book name := by
  rw [← includedMembers_eq found, includedOf, includedMembers, groupProposal]
  refine List.filter_congr fun member mem => ?_
  rw [Bool.eq_iff_iff, List.any_eq_true, decide_eq_true_eq]
  constructor
  · rintro ⟨row, listed, same⟩
    obtain ⟨other, -, rfl⟩ := List.mem_map.mp listed
    obtain ⟨same_key, inside⟩ := of_decide_eq_true same
    rw [← same_key]
    exact Option.isNone_iff_eq_none.mp inside
  · intro passed
    refine ⟨_, List.mem_map_of_mem mem, decide_eq_true ⟨rfl, ?_⟩⟩
    exact Option.isNone_iff_eq_none.mpr passed

lemma count_groupProposal {mapped chosen : ActionRow} (found : mappedAction state name = some mapped) :
    ((groupProposal state book name mapped chosen).clients.filter fun row => row.included).length =
      (letThrough state book name).length := by
  rw [← includedMembers_eq found, includedMembers, groupProposal, clientRows, List.filter_map, List.length_map]
  refine congrArg List.length (List.filter_congr fun member _ => ?_)
  rw [Bool.eq_iff_iff, decide_eq_true_eq]
  exact Option.isNone_iff_eq_none

/-- What a group adds to the client funds acted on alone. -/
lemma share_of_group {made : Option NightProposal}
    (asked : proposeGroup state.facts (situationWinners (ClientEngagement.Watchlist.buildWatchlist book))
      ⟨name, book name⟩ = .ok made) :
    (made.map fun p => if permissionApplied state book p = .actAlone then
      (p.clients.filter fun row => row.included).length else 0).getD 0 =
      if queuesAlone state name (moneyOf (letThrough state book name)) then (letThrough state book name).length
      else 0 := by
  by_cases nobody : book name = []
  · rw [proposeGroup, if_pos nobody] at asked
    cases asked
    have none_left : letThrough state book name = [] := by
      rw [letThrough, won, nobody]
      rfl
    rw [none_left, List.length_nil, ite_self]
    rfl
  · cases mapped : mappedAction state name with
    | none =>
      rw [proposeGroup_missing nobody mapped] at asked
      cases asked
    | some action =>
      rw [proposeGroup_eq nobody mapped] at asked
      obtain ⟨chosen, goes, rfl⟩ := map_eq_ok.mp asked
      rw [Option.map_some, Option.getD_some, count_groupProposal mapped]
      by_cases none_left : letThrough state book name = []
      · rw [none_left, List.length_nil, ite_self, ite_self]
      · rw [if_neg none_left] at goes
        cases goes
        rw [permissionApplied, includedOf_groupProposal mapped, queuesAlone]
        have own : action.actionCode = defaultActionCodeForGroup state.facts name := state.keyed _ _ mapped
        have ceiling : ((state.facts.actions.get? (defaultActionCodeForGroup state.facts name)).bind fun _ =>
            state.moneyCeilingKes (defaultActionCodeForGroup state.facts name)) =
              state.moneyCeilingKes (defaultActionCodeForGroup state.facts name) := by
          rw [show state.facts.actions.get? (defaultActionCodeForGroup state.facts name) = some action from mapped]
          rfl
        simp only [groupProposal, own, ceiling, decide_eq_true_eq]

end Group

/-! ## The forecast -/

/-- The members a group wins that its gates hold back. -/
def heldBack (state : StudioState) (book : Book) (name : GroupName) : List GroupMember :=
  (won book name).filter fun member =>
    !(mappedAction state name).any fun action => skipReason state.facts action member = none

/-- `propose_watchlist` does not raise. -/
structure Completes (state : StudioState) (book : Book) : Prop where
  inForce : state.thresholds.isSome = true
  mapped : ∀ name, book name ≠ [] → (mappedAction state name).isSome = true
  fallback : ∀ name, book name ≠ [] → letThrough state book name = [] →
    (state.facts.actions.get? doNothingAction).isSome = true

/-- Client funds queued in the simulation that no proposal acts on alone: those held back from a group that is
    within its ceiling, and the others of the group where the ceiling stops what is left. -/
def queuedInVain (state : StudioState) (book : Book) (name : GroupName) : ℕ :=
  if queuesAlone state name (moneyOf (won book name)) then
    (heldBack state book name).length +
      if queuesAlone state name (moneyOf (letThrough state book name)) then 0 else (letThrough state book name).length
  else 0

/-- Client funds let through in a group that is above its ceiling only with those held back. -/
def queuedUnforeseen (state : StudioState) (book : Book) (name : GroupName) : ℕ :=
  if ¬queuesAlone state name (moneyOf (won book name)) ∧
      queuesAlone state name (moneyOf (letThrough state book name)) then (letThrough state book name).length
  else 0

variable {book : Book}

lemma exists_proposeWatchlist_iff : (∃ proposals, proposeWatchlist state.facts book = .ok proposals) ↔
    ∀ name, book name ≠ [] → (mappedAction state name).isSome = true ∧
      (letThrough state book name = [] → (state.facts.actions.get? doNothingAction).isSome = true) := by
  rw [proposeWatchlist, exists_proposeAll_iff]
  constructor
  · intro all name
    exact proposeGroup_ok_iff.mp (all ⟨name, book name⟩ (mem_buildWatchlist.mpr rfl))
  · intro all group listed
    rw [mem_buildWatchlist.mp listed]
    exact proposeGroup_ok_iff.mpr (all group.name)

/-- What is acted on alone, group by group. -/
lemma fundsActedAlone_of_completes (completes : Completes state book) :
    fundsActedAlone state book = (groupNames.map fun name =>
      if queuesAlone state name (moneyOf (letThrough state book name)) then (letThrough state book name).length
      else 0).sum := by
  obtain ⟨proposals, ran⟩ := exists_proposeWatchlist_iff.mpr fun name somebody =>
    ⟨completes.mapped name somebody, completes.fallback name somebody⟩
  obtain ⟨thresholds, inForce⟩ := Option.isSome_iff_exists.mp completes.inForce
  have shares : (proposals.map fun p => if permissionApplied state book p = .actAlone then
      (p.clients.filter fun row => row.included).length else 0).sum =
        ((ClientEngagement.Watchlist.buildWatchlist book).map fun group =>
          if queuesAlone state group.name (moneyOf (letThrough state book group.name)) then
            (letThrough state book group.name).length else 0).sum := by
    refine sum_proposeAll ran fun group listed made asked => ?_
    rw [mem_buildWatchlist.mp listed] at asked
    exact share_of_group asked
  rw [fundsActedAlone, written, inForce, ran, shares, ClientEngagement.Watchlist.buildWatchlist, List.map_map]
  rfl

lemma fundsActedAlone_of_raises (raises : ¬Completes state book) : fundsActedAlone state book = 0 := by
  have nothing : written state book = [] := by
    rw [written]
    split
    case h_1 inForce ran =>
      have all := exists_proposeWatchlist_iff.mp ⟨_, ran⟩
      refine absurd ⟨?_, fun name somebody => (all name somebody).1, fun name somebody => (all name somebody).2⟩ raises
      rw [inForce]
      rfl
    case h_2 => rfl
  rw [fundsActedAlone, nothing]
  rfl

lemma autoQueued_eq (listed : rows.Perm (situationRows tables db)) :
    (runBatchSimulation state tables rows).autoQueued = (groupNames.map fun name =>
      if queuesAlone state name (moneyOf (won (situationBook tables db) name)) then
        (won (situationBook tables db) name).length else 0).sum := by
  have order : situationPriority.Perm groupNames := by decide
  rw [runBatchSimulation]
  dsimp only
  rw [foldl_countSituation, Nat.zero_add, (order.map _).sum_eq]
  refine congrArg List.sum (List.map_congr_left fun name _ => ?_)
  have same : (winners (byKey rows) name).Perm ((won (situationBook tables db) name).map GroupMember.balance) :=
    winners_won listed
  rw [same.sum_eq, same.length_eq, List.length_map, moneyOf]

lemma matched_eq : (runBatchSimulation state tables rows).matched =
    (runBatchSimulation state tables rows).autoQueued + (runBatchSimulation state tables rows).needsApproval := by
  rw [runBatchSimulation]
  dsimp only
  rw [foldl_countSituation, Nat.zero_add, Nat.zero_add, ← List.sum_map_add, ← sum_winners]
  refine congrArg List.sum (List.map_congr_left fun name _ => ?_)
  split <;> simp

/-- What a group is forecast to have queued, and what its proposal acts on alone. -/
lemma queued_balance (name : GroupName) :
    (if queuesAlone state name (moneyOf (won book name)) then (won book name).length else 0) +
      queuedUnforeseen state book name =
    (if queuesAlone state name (moneyOf (letThrough state book name)) then (letThrough state book name).length
      else 0) + queuedInVain state book name := by
  have parts : (won book name).length = (letThrough state book name).length + (heldBack state book name).length :=
    List.length_eq_length_filter_add _
  rw [queuedUnforeseen, queuedInVain, parts]
  cases queuesAlone state name (moneyOf (won book name)) with
  | true =>
    cases queuesAlone state name (moneyOf (letThrough state book name)) with
    | true => simp
    | false => simp [Nat.add_comm]
  | false =>
    cases queuesAlone state name (moneyOf (letThrough state book name)) with
    | true => simp
    | false => simp

/-- The batch simulation forecasts the proposals exactly when the client funds it queues in vain are as many as those
    it does not foresee; where `propose_watchlist` raises, when it queues none. -/
theorem forecast_iff (state : StudioState) (tables : Tables) (db : SituationDb) (rows : List SituationRow)
    (listed : rows.Perm (situationRows tables db)) :
    Forecasts state tables (situationBook tables db) (runBatchSimulation state tables rows) ↔
      (Completes state (situationBook tables db) →
        (groupNames.map (queuedInVain state (situationBook tables db))).sum =
          (groupNames.map (queuedUnforeseen state (situationBook tables db))).sum) ∧
      (¬Completes state (situationBook tables db) → ∀ name, won (situationBook tables db) name ≠ [] →
        ¬queuesAlone state name (moneyOf (won (situationBook tables db) name))) := by
  have queued : (runBatchSimulation state tables rows).autoQueued = (groupNames.map fun name =>
      if queuesAlone state name (moneyOf (won (situationBook tables db) name)) then
        (won (situationBook tables db) name).length else 0).sum := autoQueued_eq listed
  have balance : ((groupNames.map fun name => if queuesAlone state name (moneyOf (won (situationBook tables db) name))
        then (won (situationBook tables db) name).length else 0).sum +
          (groupNames.map (queuedUnforeseen state (situationBook tables db))).sum) =
      (groupNames.map fun name =>
        if queuesAlone state name (moneyOf (letThrough state (situationBook tables db) name)) then
          (letThrough state (situationBook tables db) name).length else 0).sum +
        (groupNames.map (queuedInVain state (situationBook tables db))).sum := by
    rw [← List.sum_map_add, ← List.sum_map_add]
    exact congrArg List.sum (List.map_congr_left fun name _ => queued_balance name)
  constructor
  · intro forecasts
    have same := forecasts.autoQueued
    rw [queued] at same
    constructor
    · intro completes
      rw [fundsActedAlone_of_completes completes] at same
      omega
    · intro raises name somebody alone
      rw [fundsActedAlone_of_raises raises, List.sum_eq_zero_iff] at same
      have among : name ∈ groupNames := by cases name <;> decide
      have none_queued := same _ (List.mem_map_of_mem among)
      rw [if_pos alone] at none_queued
      exact somebody (List.length_eq_zero_iff.mp none_queued)
  · rintro ⟨completing, raising⟩
    refine ⟨?_, ?_, matched_eq, ?_⟩
    · rw [runBatchSimulation]
      refine List.map_congr_left fun name _ => ?_
      have same : (winners (byKey rows) name).Perm
          ((won (situationBook tables db) name).map GroupMember.balance) := winners_won listed
      rw [same.sum_eq, same.length_eq, List.length_map, moneyOf]
    · have same := (matched_entries listed).length_eq
      rw [List.length_map] at same
      exact same
    · rw [queued]
      by_cases completes : Completes state (situationBook tables db)
      · have even := completing completes
        rw [fundsActedAlone_of_completes completes]
        omega
      · rw [fundsActedAlone_of_raises completes, List.sum_eq_zero_iff]
        intro count mem
        obtain ⟨name, -, rfl⟩ := List.mem_map.mp mem
        split
        case isTrue alone =>
          by_contra some_won
          exact raising completes name (fun nobody => some_won (List.length_eq_zero_iff.mpr nobody)) alone
        case isFalse => rfl

/-- Two client funds whose contributions shrank. -/
def twoSmaller : Tables where
  book := .ofList [((1, 1), { balance := some 500, nDeposits := 5 }), ((2, 1), { balance := some 100, nDeposits := 3 })]

def bothSmaller : SituationDb where
  states := .ofList [(((1, 1), .contributionDecline), ⟨true, [], 1, "night"⟩),
    (((2, 1), .contributionDecline), ⟨true, [], 1, "night"⟩)]

def catalogue : List (String × ActionRow) :=
  [("ask_what_changed", ⟨"ask_what_changed", "Ask", "Clients", some "ask", false⟩),
    (doNothingAction, ⟨doNothingAction, "Nothing", "Nobody", none, false⟩)]

lemma catalogue_keyed (code : String) (action : ActionRow) (found : (Dict.ofList catalogue).get? code = some action) :
    action.actionCode = code := by
  have listed := Dict.mem_of_get?_ofList found
  rw [catalogue, List.mem_cons, List.mem_singleton] at listed
  rcases listed with same | same
  · cases same
    rfl
  · cases same
    rfl

lemma uncapped_clients (cap : ℤ) (capped : cap ∈ (none : Option ℤ)) : 0 < cap := absurd capped (Option.not_mem_none _)

lemma uncapped_money (cap : ℚ) (capped : cap ∈ (none : Option ℚ)) : 0 < cap := absurd capped (Option.not_mem_none _)

/-- The action may act alone, and some clients are on the do not contact list. -/
def askAlone (suppressed : Risk.ClientId → Bool) : StudioState where
  facts := { actions := .ofList catalogue, suppressed := suppressed }
  permissions := .ofList [({ actionCode := "ask_what_changed" },
    { permission := .actAlone, clientsPositive := uncapped_clients, moneyPositive := uncapped_money })]
  thresholds := some ClientEngagement.Agents.Watchlist.someWatchlist
  keyed := catalogue_keyed

theorem forecast_nobody_suppressed : Forecasts (askAlone fun _ => false) twoSmaller
    (situationBook twoSmaller bothSmaller)
    (runBatchSimulation (askAlone fun _ => false) twoSmaller (situationRows twoSmaller bothSmaller)) := by
  refine (forecast_iff _ _ bothSmaller _ (List.Perm.refl _)).mpr ⟨fun _ => by decide +kernel, fun raises => ?_⟩
  refine absurd ⟨rfl, fun name => ?_, fun _ _ _ => by decide +kernel⟩ raises
  cases name <;> decide +kernel

/-- With one of the two on the list, both are queued and one is acted on. -/
theorem forecast_one_suppressed :
    (runBatchSimulation (askAlone fun client => client = 2) twoSmaller
      (situationRows twoSmaller bothSmaller)).autoQueued = 2 ∧
    fundsActedAlone (askAlone fun client => client = 2) (situationBook twoSmaller bothSmaller) = 1 ∧
    ¬Forecasts (askAlone fun client => client = 2) twoSmaller (situationBook twoSmaller bothSmaller)
      (runBatchSimulation (askAlone fun client => client = 2) twoSmaller (situationRows twoSmaller bothSmaller)) := by
  have queued : (runBatchSimulation (askAlone fun client => client = 2) twoSmaller
      (situationRows twoSmaller bothSmaller)).autoQueued = 2 := by decide +kernel
  have acted : fundsActedAlone (askAlone fun client => client = 2) (situationBook twoSmaller bothSmaller) = 1 := by
    decide +kernel
  refine ⟨queued, acted, fun forecasts => ?_⟩
  have same := forecasts.autoQueued
  rw [queued, acted] at same
  cases same

end ClientEngagement.Agents.Studio
