import ClientEngagement.Lib.Runs
import ClientEngagement.Transform.Features

/-!
# One contact row for a client

What `persist_result` (`transform/load.py`) and `materialize_inactive_from_active`
(`routing/materialize.py`) write to `clients` and `client_fund`, for any sequence of calls. Both flag the
largest of the relationships they write as the one to contact. `persist_result` then clears the flags its
run left behind on other funds, told apart by the transaction clock; the other writer clears none.
`one_contact_row` says that every client keeps exactly one flagged row, the fund `clients` names, as long as
no materialization meets a flagged row of a fund it does not write, and `materialize_contact_iff` that this
is exact.
-/

namespace ClientEngagement.Transform

structure ClientsRow where
  unitFundId : FundId
  nFunds : ℕ

structure ClientFundRow where
  isPrimaryContactRow : Bool
  updatedAt : ℤ

structure ContactTables where
  clients : Dict ClientId ClientsRow := .empty
  clientFund : Dict Pair ClientFundRow := .empty

/-! ## What both write -/

/-- The client's relationships, the largest flagged. -/
def contactRows (rows : List ClientRow) : List (ClientRow × Bool) :=
  match largestFirst rows with
  | [] => []
  | primary :: others => (primary, true) :: others.map fun row => (row, false)

def clientsRows (byClient : Dict ClientId (List ClientRow)) : List (ClientId × ClientsRow) :=
  byClient.items.filterMap fun (clientId, rows) =>
    (largestFirst rows).head?.map fun primary => (clientId, ⟨primary.unitFundId, rows.length⟩)

def clientFundRows (byClient : Dict ClientId (List ClientRow)) (now : ℤ) : List (Pair × ClientFundRow) :=
  byClient.items.flatMap fun (_, rows) =>
    (contactRows rows).map fun (row, isPrimary) => (row.pair, ⟨isPrimary, now⟩)

/-- Upserts the clients and then, in a transaction that began at `now`, their relationships. -/
def upsertRelationships (tables : ContactTables) (byClient : Dict ClientId (List ClientRow)) (now : ℤ) :
    ContactTables where
  clients := (clientsRows byClient).foldl (fun clients row => clients.set row.1 row.2) tables.clients
  clientFund := (clientFundRows byClient now).foldl (fun rows row => rows.set row.1 row.2)
    tables.clientFund

/-! ## `persist_result` -/

/-- `_clear_stale_primary_rows`, in a transaction that began at `now`. -/
def clearStalePrimaryRows (tables : ContactTables) (clientIds : List ClientId) (before now : ℤ) :
    ContactTables :=
  { tables with
    clientFund := tables.clientFund.mapEntries fun pair row =>
      if pair.1 ∈ clientIds ∧ row.isPrimaryContactRow = true ∧ row.updatedAt < before then ⟨false, now⟩
      else row }

/-- The relationships are upserted in the transaction whose clock is read as the cut-off. -/
def persistResult (tables : ContactTables) (result : FlattenResult) (primaryCutoff now : ℤ) :
    ContactTables :=
  let byClient := relationshipsByClient result
  clearStalePrimaryRows (upsertRelationships tables byClient primaryCutoff) byClient.keys primaryCutoff now

/-! ## `materialize_inactive_from_active` -/

structure ActiveClientFund where
  balance : Option ℚ := none
  nDeposits : ℕ := 0
  nWithdrawals : ℕ := 0
  lastDepositDate : Option Day := none
  lastWithdrawalSlotDate : Option Day := none
  depositCountCapped : Bool := false
  withdrawalHistoryHidden : Bool := false

structure ActiveTransaction where
  clientId : ClientId
  unitFundId : FundId
  txnType : TxnType
  amount : ℚ

/-- The active book and its transactions. -/
structure ActiveBook where
  funds : Dict Pair ActiveClientFund := .empty
  transactions : List ActiveTransaction := []

/-- The clients whose balances add up to less than the threshold (`_reclassified_ids`). -/
def isReclassified (book : ActiveBook) (threshold : ℚ) (clientId : ClientId) : Bool :=
  let balances := (book.funds.items.filter fun row => row.1.1 = clientId).filterMap (·.2.balance)
  !(book.funds.items.filter fun row => row.1.1 = clientId).isEmpty && decide (balances.sum < threshold)

/-- What the transactions of a type add up to for a pair. -/
def totalOf (book : ActiveBook) (txnType : TxnType) (pair : Pair) : ℚ :=
  ((book.transactions.filter fun txn =>
    txn.txnType = txnType ∧ (txn.clientId, txn.unitFundId) = pair).map ActiveTransaction.amount).sum

/-- `_client_row`. -/
def clientRowOf (book : ActiveBook) (reference : Day) (pair : Pair) (fund : ActiveClientFund) :
    ClientRow :=
  let lastActivity := maxDate [fund.lastDepositDate, fund.lastWithdrawalSlotDate]
  { clientId := pair.1
    unitFundId := pair.2
    balance := fund.balance
    nPurchasesReturned := fund.nDeposits
    nSalesReturned := fund.nWithdrawals
    lastPurchaseDate := fund.lastDepositDate
    lastSaleDate := fund.lastWithdrawalSlotDate
    totalPurchaseAmount := totalOf book .purchase pair
    totalSaleAmount := totalOf book .sale pair
    lastActivityDate := lastActivity
    daysSinceLastActivity := lastActivity.map (reference - ·)
    purchasesCensored := fund.depositCountCapped
    historyCensored := fund.depositCountCapped || fund.withdrawalHistoryHidden
    hasExtendedHistory := false }

/-- The rows of the reclassified clients (`_build_result`). -/
def buildResult (book : ActiveBook) (reference : Day) (threshold : ℚ) : FlattenResult where
  clients := (book.funds.items.filter fun row => isReclassified book threshold row.1.1).map fun row =>
    clientRowOf book reference row.1 row.2

def materializeInactiveFromActive (tables : ContactTables) (book : ActiveBook) (reference : Day)
    (threshold : ℚ) (now : ℤ) : ContactTables :=
  upsertRelationships tables (relationshipsByClient (buildResult book reference threshold)) now

/-! ## Sequences of calls -/

structure ContactState where
  tables : ContactTables := {}
  /-- When the last transaction began. -/
  clock : ℤ := 0

inductive ContactLabel where
  | persist (result : FlattenResult)
  | materialize (book : ActiveBook) (reference : Day) (threshold : ℚ)

/-- The clock of each transaction is later than that of the one before it. -/
inductive ContactStep (st : ContactState) : ContactLabel → ContactState → Prop where
  | persist {result primaryCutoff now} (began : st.clock < primaryCutoff) (later : primaryCutoff < now) :
      ContactStep st (.persist result) ⟨persistResult st.tables result primaryCutoff now, now⟩
  | materialize {book reference threshold now} (began : st.clock < now) :
      ContactStep st (.materialize book reference threshold)
        ⟨materializeInactiveFromActive st.tables book reference threshold now, now⟩

def isPrimary (tables : ContactTables) (pair : Pair) : Bool :=
  (tables.clientFund.get? pair).any ClientFundRow.isPrimaryContactRow

/-- Every flagged row of a client that is materialized is one of the rows written. -/
def ContactGuard (st : ContactState) : ContactLabel → Prop
  | .persist _ => True
  | .materialize book reference threshold =>
    ∀ pair, isPrimary st.tables pair = true →
      pair.1 ∈ (relationshipsByClient (buildResult book reference threshold)).keys →
        (lastRow (buildResult book reference threshold).clients pair).isSome

/-- Exactly one row of the client is flagged, that of the fund `clients` names. -/
def HasContactRow (tables : ContactTables) (clientId : ClientId) : Prop :=
  ∃ client, tables.clients.get? clientId = some client ∧
    ∀ fund, isPrimary tables (clientId, fund) = true ↔ fund = client.unitFundId

/-- So it is for every client with a relationship. -/
def OneContactRow (tables : ContactTables) : Prop :=
  ∀ clientId fund, (tables.clientFund.get? (clientId, fund)).isSome → HasContactRow tables clientId

variable {tables : ContactTables} {result : FlattenResult} {clientId : ClientId} {fund : FundId}
variable {pair : Pair} {now primaryCutoff : ℤ} {st st' : ContactState}

/-! ## What an upsert leaves -/

/-- The relationship a client is contacted on. -/
def primaryOf (result : FlattenResult) (clientId : ClientId) : Option ClientRow :=
  (largestFirst (rowsOfClient result clientId)).head?

lemma mem_rowsOfClient {row : ClientRow} : row ∈ rowsOfClient result clientId ↔
    lastRow result.clients row.pair = some row ∧ row.clientId = clientId := by
  rw [rowsOfClient, List.mem_filter, mem_uniqueRows]
  exact and_congr_right fun _ => decide_eq_true_iff

lemma primaryOf_isSome : (primaryOf result clientId).isSome ↔
    clientId ∈ (relationshipsByClient result).keys := by
  have length : (largestFirst (rowsOfClient result clientId)).length =
      (rowsOfClient result clientId).length := (sortBy_perm _ _).length_eq
  rw [mem_clients, primaryOf, List.isSome_head?, ← List.length_pos_iff, ← List.length_pos_iff, length]

/-- The pairs of a client's relationships are distinct. -/
lemma pairs_nodup : ((rowsOfClient result clientId).map ClientRow.pair).Nodup := by
  refine List.Nodup.sublist (List.filter_sublist.map _) ?_
  have keys : ((uniqueRows result).items.map Prod.snd).map ClientRow.pair = (uniqueRows result).keys := by
    rw [List.map_map, Dict.keys]
    refine List.map_congr_left fun entry mem => ?_
    have found := (Dict.mem_items_iff _).mp mem
    rw [get?_uniqueRows] at found
    exact (lastRow_pair found).2
  rw [keys]
  exact Dict.keys_nodup _

lemma contactRows_rows {rows : List ClientRow} : (contactRows rows).map Prod.fst = largestFirst rows := by
  rw [contactRows]
  cases largestFirst rows with
  | nil => rfl
  | cons primary others =>
    rw [List.map_cons, List.map_map]
    exact congrArg (primary :: ·) (List.map_id _)

lemma clientFundRows_keys : ((clientFundRows (relationshipsByClient result) now).map Prod.fst).Nodup := by
  rw [clientFundRows, List.map_flatMap, List.nodup_flatMap]
  have pairs : ∀ rows : List ClientRow,
      ((contactRows rows).map fun row => ((row.1.pair, ⟨row.2, now⟩) : Pair × ClientFundRow)).map Prod.fst =
        (largestFirst rows).map ClientRow.pair := by
    intro rows
    rw [List.map_map, ← contactRows_rows, List.map_map]
    rfl
  constructor
  · rintro ⟨clientId, rows⟩ mem
    obtain ⟨rfl, -⟩ := Dict.mem_items_groupBy.mp mem
    rw [pairs, largestFirst]
    exact ((sortBy_perm _ _).map _).nodup_iff.mpr (pairs_nodup)
  · have distinct := List.pairwise_map.mp (Dict.keys_nodup (relationshipsByClient result))
    refine distinct.imp_of_mem fun {group other} mem mem' ne => ?_
    obtain ⟨clientId, rows⟩ := group
    obtain ⟨clientId', rows'⟩ := other
    obtain ⟨rfl, -⟩ := Dict.mem_items_groupBy.mp mem
    obtain ⟨rfl, -⟩ := Dict.mem_items_groupBy.mp mem'
    rw [Function.onFun, pairs, pairs]
    intro pair mine his
    obtain ⟨row, written, rfl⟩ := List.mem_map.mp mine
    obtain ⟨row', written', same⟩ := List.mem_map.mp his
    have client : row.clientId = clientId := (mem_rowsOfClient.mp (mem_largestFirst.mp written)).2
    have client' : row'.clientId = clientId' := (mem_rowsOfClient.mp (mem_largestFirst.mp written')).2
    exact ne (client.symm.trans ((congrArg Prod.fst same).symm.trans client'))

/-- A relationship that is written is flagged when it is the one to contact on. -/
lemma mem_clientFundRows {row : ClientRow} (last : lastRow result.clients row.pair = some row) :
    (row.pair, (⟨decide (primaryOf result row.clientId = some row), now⟩ : ClientFundRow)) ∈
      clientFundRows (relationshipsByClient result) now := by
  have mem : row ∈ largestFirst (rowsOfClient result row.clientId) :=
    mem_largestFirst.mpr (mem_rowsOfClient.mpr ⟨last, rfl⟩)
  have nonempty : rowsOfClient result row.clientId ≠ [] :=
    List.ne_nil_of_mem (mem_largestFirst.mp mem)
  refine List.mem_flatMap.mpr ⟨(row.clientId, _), Dict.mem_items_groupBy.mpr ⟨rfl, nonempty⟩, ?_⟩
  refine List.mem_map.mpr ⟨(row, decide (primaryOf result row.clientId = some row)), ?_, rfl⟩
  show _ ∈ contactRows (rowsOfClient result row.clientId)
  rw [contactRows, primaryOf]
  have distinct : (largestFirst (rowsOfClient result row.clientId)).Nodup :=
    (sortBy_perm _ _).nodup_iff.mpr (List.Nodup.of_map _ pairs_nodup)
  cases sorted : largestFirst (rowsOfClient result row.clientId) with
  | nil =>
    rw [sorted] at mem
    cases mem
  | cons primary others =>
    rw [sorted] at mem distinct
    dsimp only
    rw [List.head?_cons]
    rcases List.mem_cons.mp mem with rfl | other
    · rw [decide_eq_true rfl]
      exact List.mem_cons_self
    · have ne : primary ≠ row := fun same => (List.nodup_cons.mp distinct).1 (same ▸ other)
      rw [decide_eq_false fun same => ne (Option.some.inj same)]
      exact List.mem_cons_of_mem _ (List.mem_map.mpr ⟨row, other, rfl⟩)

lemma keys_clientFundRows : pair ∈ (clientFundRows (relationshipsByClient result) now).map Prod.fst ↔
    (lastRow result.clients pair).isSome := by
  rw [List.mem_map]
  constructor
  · rintro ⟨written, mem, rfl⟩
    obtain ⟨⟨clientId, rows⟩, group, mem⟩ := List.mem_flatMap.mp mem
    obtain ⟨rfl, -⟩ := Dict.mem_items_groupBy.mp group
    obtain ⟨⟨row, flag⟩, written, rfl⟩ := List.mem_map.mp mem
    have known : row ∈ (contactRows (rowsOfClient result clientId)).map Prod.fst :=
      List.mem_map_of_mem written
    rw [contactRows_rows, mem_largestFirst, mem_rowsOfClient] at known
    exact Option.isSome_iff_exists.mpr ⟨row, known.1⟩
  · intro found
    obtain ⟨row, last⟩ := Option.isSome_iff_exists.mp found
    obtain rfl := (lastRow_pair last).2
    exact ⟨_, mem_clientFundRows last, rfl⟩

/-- What an upsert leaves of a relationship. -/
lemma upsert_clientFund :
    (upsertRelationships tables (relationshipsByClient result) now).clientFund.get? pair =
      match lastRow result.clients pair with
      | none => tables.clientFund.get? pair
      | some row => some ⟨decide (primaryOf result pair.1 = some row), now⟩ := by
  rw [upsertRelationships]
  cases last : lastRow result.clients pair with
  | none =>
    refine Dict.get?_foldl_set_of_not_mem fun mem => ?_
    rw [keys_clientFundRows, last] at mem
    cases mem
  | some row =>
    obtain rfl := (lastRow_pair last).2
    exact Dict.get?_foldl_set_of_mem clientFundRows_keys (mem_clientFundRows last)

/-- What an upsert leaves of a client. -/
lemma upsert_clients (now : ℤ) :
    (upsertRelationships tables (relationshipsByClient result) now).clients.get? clientId =
      match primaryOf result clientId with
      | none => tables.clients.get? clientId
      | some primary => some ⟨primary.unitFundId, (rowsOfClient result clientId).length⟩ := by
  have keys : ((clientsRows (relationshipsByClient result)).map Prod.fst).Nodup := by
    have sub : ((clientsRows (relationshipsByClient result)).map Prod.fst).Sublist
        (relationshipsByClient result).keys := by
      rw [clientsRows, Dict.keys]
      generalize (relationshipsByClient result).items = groups
      induction groups with
      | nil => exact .slnil
      | cons group groups ih =>
        obtain ⟨clientId, rows⟩ := group
        rw [List.filterMap_cons, List.map_cons]
        dsimp only
        cases (largestFirst rows).head? with
        | none => exact .cons _ ih
        | some primary => exact .cons_cons _ ih
    exact (Dict.keys_nodup _).sublist sub
  rw [upsertRelationships]
  cases primary : primaryOf result clientId with
  | none =>
    refine Dict.get?_foldl_set_of_not_mem fun mem => ?_
    obtain ⟨written, row, rfl⟩ := List.mem_map.mp mem
    obtain ⟨⟨clientId, rows⟩, group, made⟩ := List.mem_filterMap.mp row
    obtain ⟨rfl, -⟩ := Dict.mem_items_groupBy.mp group
    obtain ⟨row, head, rfl⟩ := Option.map_eq_some_iff.mp made
    cases primary.symm.trans head
  | some row =>
    refine Dict.get?_foldl_set_of_mem keys ?_
    have known : clientId ∈ (relationshipsByClient result).keys := by
      rw [← primaryOf_isSome, primary]
      rfl
    refine List.mem_filterMap.mpr ⟨(clientId, rowsOfClient result clientId),
      Dict.mem_items_groupBy.mpr ⟨rfl, mem_clients.mp known⟩, ?_⟩
    show (primaryOf result clientId).map _ = _
    rw [primary]
    rfl

/-! ## What a call leaves -/

lemma primaryOf_last {primary : ClientRow} (h : primaryOf result clientId = some primary) :
    lastRow result.clients primary.pair = some primary ∧ primary.clientId = clientId :=
  mem_rowsOfClient.mp (mem_largestFirst.mp (List.mem_of_head? h))

/-- A client whose flags are those of the rows just written has its contact row. -/
lemma hasContactRow_of_written {primary : ClientRow} {client : ClientsRow}
    (contact : primaryOf result clientId = some primary)
    (named : tables.clients.get? clientId = some client) (same : client.unitFundId = primary.unitFundId)
    (flags : ∀ fund, isPrimary tables (clientId, fund) = true ↔
      lastRow result.clients (clientId, fund) = some primary) : HasContactRow tables clientId := by
  obtain ⟨last, rfl⟩ := primaryOf_last contact
  refine ⟨client, named, fun fund => ?_⟩
  rw [flags, same]
  constructor
  · intro found
    exact (congrArg Prod.snd (lastRow_pair found).2).symm
  · rintro rfl
    exact last

lemma isPrimary_upsert : isPrimary (upsertRelationships tables (relationshipsByClient result) now) pair =
    match lastRow result.clients pair with
    | none => isPrimary tables pair
    | some row => decide (primaryOf result pair.1 = some row) := by
  rw [isPrimary, upsert_clientFund]
  cases lastRow result.clients pair with
  | none => rfl
  | some row => rfl

lemma persist_clientFund : (persistResult tables result primaryCutoff now).clientFund.get? pair =
    match lastRow result.clients pair with
    | none => (tables.clientFund.get? pair).map fun row =>
        if pair.1 ∈ (relationshipsByClient result).keys ∧ row.isPrimaryContactRow = true ∧
          row.updatedAt < primaryCutoff then ⟨false, now⟩ else row
    | some row => some ⟨decide (primaryOf result pair.1 = some row), primaryCutoff⟩ := by
  rw [persistResult, clearStalePrimaryRows]
  dsimp only
  rw [Dict.get?_mapEntries, upsert_clientFund]
  cases lastRow result.clients pair with
  | none => rfl
  | some row =>
    rw [Option.map_some]
    -- what was just written carries the cut-off itself
    rw [if_neg fun stale => lt_irrefl _ stale.2.2]

lemma persist_clients (tables : ContactTables) (result : FlattenResult) (clientId : ClientId)
    (primaryCutoff now : ℤ) : (persistResult tables result primaryCutoff now).clients.get? clientId =
    match primaryOf result clientId with
    | none => tables.clients.get? clientId
    | some primary => some ⟨primary.unitFundId, (rowsOfClient result clientId).length⟩ :=
  upsert_clients primaryCutoff

/-- Every row was written in a transaction that has begun. -/
def Clocked (st : ContactState) : Prop :=
  ∀ pair row, st.tables.clientFund.get? pair = some row → row.updatedAt ≤ st.clock

lemma persist_flags (clocked : Clocked st) (began : st.clock < primaryCutoff)
    {primary : ClientRow} (contact : primaryOf result clientId = some primary) (fund : FundId) :
    isPrimary (persistResult st.tables result primaryCutoff now) (clientId, fund) = true ↔
      lastRow result.clients (clientId, fund) = some primary := by
  rw [isPrimary, persist_clientFund]
  cases lastRow result.clients (clientId, fund) with
  | none =>
    have known : clientId ∈ (relationshipsByClient result).keys := by
      rw [← primaryOf_isSome, contact]
      rfl
    refine ⟨fun flagged => ?_, nofun⟩
    cases found : st.tables.clientFund.get? (clientId, fund) with
    | none =>
      rw [found] at flagged
      cases flagged
    | some row =>
      have old : row.updatedAt < primaryCutoff := (clocked _ _ found).trans_lt began
      rw [found, Option.map_some, Option.any_some] at flagged
      split at flagged
      · cases flagged
      case isFalse kept => exact absurd ⟨known, flagged, old⟩ kept
  | some row =>
    show decide (primaryOf result clientId = some row) = true ↔ _
    rw [decide_eq_true_iff, contact]
    exact ⟨fun same => same.symm, fun same => same.symm⟩

/-- A relationship of a client no row is written for is as before. -/
lemma lastRow_none_of_unknown (unknown : primaryOf result clientId = none) (fund : FundId) :
    lastRow result.clients (clientId, fund) = none := by
  cases last : lastRow result.clients (clientId, fund) with
  | none => rfl
  | some row =>
    obtain ⟨-, pair⟩ := lastRow_pair last
    have mem : row ∈ rowsOfClient result clientId :=
      mem_rowsOfClient.mpr ⟨pair ▸ last, congrArg Prod.fst pair⟩
    have known : clientId ∈ (relationshipsByClient result).keys :=
      mem_clients.mpr (List.ne_nil_of_mem mem)
    rw [← primaryOf_isSome, unknown] at known
    cases known

lemma one_persist (one : OneContactRow st.tables) (clocked : Clocked st)
    (began : st.clock < primaryCutoff) :
    OneContactRow (persistResult st.tables result primaryCutoff now) := by
  intro clientId fund present
  have clients := persist_clients st.tables result clientId primaryCutoff now
  cases contact : primaryOf result clientId with
  | some primary =>
    rw [contact] at clients
    exact hasContactRow_of_written contact clients rfl (persist_flags clocked began contact)
  | none =>
    rw [contact] at clients
    have unknown : clientId ∉ (relationshipsByClient result).keys := by
      rw [← primaryOf_isSome, contact]
      nofun
    have same : ∀ fund, (persistResult st.tables result primaryCutoff now).clientFund.get?
        (clientId, fund) = st.tables.clientFund.get? (clientId, fund) := by
      intro fund
      rw [persist_clientFund, lastRow_none_of_unknown contact]
      cases st.tables.clientFund.get? (clientId, fund) with
      | none => rfl
      | some row => exact congrArg some (if_neg fun stale => unknown stale.1)
    rw [same] at present
    obtain ⟨client, named, flags⟩ := one clientId fund present
    refine ⟨client, clients.trans named, fun fund => ?_⟩
    rw [isPrimary, same]
    exact flags fund

lemma isPrimary_isSome (flagged : isPrimary tables pair = true) : (tables.clientFund.get? pair).isSome := by
  rw [isPrimary] at flagged
  cases found : tables.clientFund.get? pair with
  | none =>
    rw [found] at flagged
    cases flagged
  | some row => rfl

/-- A materialization keeps one contact row for every client exactly when no flagged row of a client it
    writes is left as it was. -/
theorem materialize_contact_iff {book : ActiveBook} {reference : Day} {threshold : ℚ}
    (one : OneContactRow st.tables) :
    OneContactRow (materializeInactiveFromActive st.tables book reference threshold now) ↔
      ContactGuard st (.materialize book reference threshold) := by
  generalize made : buildResult book reference threshold = result
  rw [materializeInactiveFromActive, ContactGuard, made]
  constructor
  · intro one' pair flagged known
    obtain ⟨primary, contact⟩ := Option.isSome_iff_exists.mp (primaryOf_isSome.mpr known)
    obtain ⟨last, mine⟩ := primaryOf_last contact
    by_contra left
    rw [Option.not_isSome_iff_eq_none] at left
    have flagged' : isPrimary (upsertRelationships st.tables (relationshipsByClient result) now)
        pair = true := by
      rw [isPrimary_upsert, left]
      exact flagged
    obtain ⟨client, named, flags⟩ := one' pair.1 pair.2 (isPrimary_isSome flagged')
    have other : isPrimary (upsertRelationships st.tables (relationshipsByClient result) now)
        (pair.1, primary.unitFundId) = true := by
      have key : (pair.1, primary.unitFundId) = primary.pair := by rw [ClientRow.pair, mine]
      rw [isPrimary_upsert, key, last]
      show decide (primaryOf result primary.clientId = some primary) = true
      rw [mine, contact]
      exact decide_eq_true rfl
    have same : primary.pair = pair := by
      rw [ClientRow.pair, mine, (flags _).mp other, ← (flags pair.2).mp flagged']
    rw [same, left] at last
    cases last
  · intro guard clientId fund present
    have clients : (upsertRelationships st.tables (relationshipsByClient result) now).clients.get?
        clientId = _ := upsert_clients now
    cases contact : primaryOf result clientId with
    | some primary =>
      rw [contact] at clients
      refine hasContactRow_of_written contact clients rfl fun fund => ?_
      have known : clientId ∈ (relationshipsByClient result).keys := by
        rw [← primaryOf_isSome, contact]
        rfl
      rw [isPrimary_upsert]
      cases last : lastRow result.clients (clientId, fund) with
      | none =>
        refine ⟨fun flagged => ?_, fun same => by cases same⟩
        have written := guard (clientId, fund) flagged known
        rw [last] at written
        cases written
      | some row =>
        show decide (primaryOf result clientId = some row) = true ↔ _
        rw [decide_eq_true_iff, contact]
        exact ⟨fun same => same.symm, fun same => same.symm⟩
    | none =>
      rw [contact] at clients
      have same : ∀ fund, (upsertRelationships st.tables (relationshipsByClient result)
          now).clientFund.get? (clientId, fund) = st.tables.clientFund.get? (clientId, fund) := by
        intro fund
        rw [upsert_clientFund, lastRow_none_of_unknown contact]
      rw [same] at present
      obtain ⟨client, named, flags⟩ := one clientId fund present
      refine ⟨client, clients.trans named, fun fund => ?_⟩
      rw [isPrimary, same]
      exact flags fund

/-! ## Every sequence of calls -/

lemma ContactStep.clocked (clocked : Clocked st) {label : ContactLabel}
    (step : ContactStep st label st') : Clocked st' := by
  cases step with
  | @persist result primaryCutoff now began later =>
    intro pair row found
    rw [persist_clientFund] at found
    split at found
    · obtain ⟨old, before, rfl⟩ := Option.map_eq_some_iff.mp found
      split
      · exact le_refl now
      · exact (clocked pair old before).trans (began.trans later).le
    · cases found
      exact later.le
  | @materialize book reference threshold now began =>
    intro pair row found
    rw [materializeInactiveFromActive, upsert_clientFund] at found
    split at found
    · exact (clocked pair row found).trans began.le
    · cases found
      exact le_refl now

/-- After every call, every client with a relationship has exactly one contact row, that of the fund
    `clients` names. -/
theorem one_contact_row {labels : List ContactLabel}
    (r : Run (Guarded ContactGuard ContactStep) {} labels st) : OneContactRow st.tables := by
  have both : Clocked st ∧ OneContactRow st.tables := by
    refine r.invariant (fun st => Clocked st ∧ OneContactRow st.tables) ?_ fun t l u h step => ?_
    · constructor
      · intro _ _ found
        cases found
      · intro _ _ present
        cases present
    · refine ⟨step.2.clocked h.1, ?_⟩
      obtain ⟨guard, step⟩ := step
      cases step with
      | persist began => exact one_persist h.2 h.1 began
      | materialize => exact (materialize_contact_iff h.2).mpr guard
  exact both.2

/-! ## A client of two funds -/

def rowIn (fund : FundId) (total : ℚ) : ClientRow :=
  { clientId := 5, unitFundId := fund, totalPurchaseAmount := total }

/-- A book in which the client holds one fund, with nothing in it. -/
def dwindled (fund : FundId) : ActiveBook := { funds := .ofList [((5, fund), {})] }

def firstTables : ContactTables := persistResult {} { clients := [rowIn 7 100] } 1 2

def movedTables : ContactTables := persistResult firstTables { clients := [rowIn 8 300] } 3 4

lemma firstStep : ContactStep {} (.persist { clients := [rowIn 7 100] }) ⟨firstTables, 2⟩ :=
  .persist Int.zero_lt_one one_lt_two

/-- The client moves to its larger fund, and is then materialized from that one. -/
theorem one_contact_row_sample : ∃ st,
    Run (Guarded ContactGuard ContactStep) {}
      [.persist { clients := [rowIn 7 100] }, .persist { clients := [rowIn 8 300] },
        .materialize (dwindled 8) 0 600] st ∧ OneContactRow st.tables := by
  have moved : ContactStep ⟨firstTables, 2⟩ (.persist { clients := [rowIn 8 300] }) ⟨movedTables, 4⟩ :=
    .persist (show (2 : ℤ) < 3 by decide) (by decide)
  have materialized : ContactStep ⟨movedTables, 4⟩ (.materialize (dwindled 8) 0 600)
      ⟨materializeInactiveFromActive movedTables (dwindled 8) 0 600 5, 5⟩ :=
    .materialize (show (4 : ℤ) < 5 by decide)
  have written : ∀ pair ∈ movedTables.clientFund.keys, isPrimary movedTables pair = true →
      (lastRow (buildResult (dwindled 8) 0 600).clients pair).isSome := by decide +kernel
  have guard : ContactGuard ⟨movedTables, 4⟩ (.materialize (dwindled 8) 0 600) := by
    intro pair flagged _
    obtain ⟨row, found⟩ := Option.isSome_iff_exists.mp (isPrimary_isSome flagged)
    exact written pair ((Dict.mem_keys_iff _).mpr ⟨row, found⟩) flagged
  have r : Run (Guarded ContactGuard ContactStep) {} [.persist { clients := [rowIn 7 100] },
      .persist { clients := [rowIn 8 300] }, .materialize (dwindled 8) 0 600] _ :=
    .snoc (.snoc (.snoc .nil ⟨trivial, firstStep⟩) ⟨trivial, moved⟩) ⟨guard, materialized⟩
  exact ⟨_, r, one_contact_row r⟩

/-- The client comes into the inactive tables from one fund and is materialized from another: both rows
    are flagged. -/
theorem two_contact_rows : ∃ labels st, Run ContactStep {} labels st ∧ ¬ OneContactRow st.tables := by
  have materialized : ContactStep ⟨firstTables, 2⟩ (.materialize (dwindled 9) 0 600)
      ⟨materializeInactiveFromActive firstTables (dwindled 9) 0 600 3, 3⟩ :=
    .materialize (show (2 : ℤ) < 3 by decide)
  refine ⟨_, _, .snoc (.single firstStep) materialized, fun one => ?_⟩
  have first : isPrimary (materializeInactiveFromActive firstTables (dwindled 9) 0 600 3) (5, 7) = true := by
    decide +kernel
  have second : isPrimary (materializeInactiveFromActive firstTables (dwindled 9) 0 600 3) (5, 9) =
      true := by decide +kernel
  obtain ⟨client, -, flags⟩ := one 5 7 (isPrimary_isSome first)
  have same : (7 : ℤ) = 9 := ((flags 7).mp first).trans ((flags 9).mp second).symm
  cases same

end ClientEngagement.Transform
