import ClientEngagement.Transform.ContactRow
import ClientEngagement.Transform.Tables

/-!
# Loading a run

Model of `transform_run` and `persist_result` (`transform/load.py`) on whole tables. The saved pages of a run
are flattened (`flattenStaging`) into the rows of every table (`batchesOf`), which are upserted one table after
the other, each commit taking along the rejects that are pending (`persistResult`). The flags of relationships
a run no longer has are cleared by comparing `updated_at` with the clock of the transaction that wrote the
others. `load_again_iff` says when to load a run twice is to load it once.
-/

namespace ClientEngagement.Transform.Load

/-! ## The saved pages of a run -/

structure StagedTxn extends RawTxn where
  columns : PaymentColumns := {}

/-- A client of a page, with the columns of its record when `ClientRecord` accepts it. -/
structure StagedClient where
  record : Option (ClientRecord × RowColumns)
  last5Purchases : List StagedTxn := []
  last2Sales : List StagedTxn := []
  purchasesLast12Months : List StagedTxn := []
  salesLast12Months : List StagedTxn := []
  activityWindowFrom : Json := .null
  activityWindowTo : Json := .null

structure StagedFund where
  record : Option FundRecord
  clients : List StagedClient := []

/-- The pages of a run by number. -/
abbrev Staging := Dict ℕ (List StagedFund)

def StagedClient.raw (client : StagedClient) : ClientRaw where
  record := client.record.map Prod.fst
  last5Purchases := client.last5Purchases.map StagedTxn.toRawTxn
  last2Sales := client.last2Sales.map StagedTxn.toRawTxn
  purchasesLast12Months := client.purchasesLast12Months.map StagedTxn.toRawTxn
  salesLast12Months := client.salesLast12Months.map StagedTxn.toRawTxn
  activityWindowTo := client.activityWindowTo

def StagedFund.raw (fund : StagedFund) : FundRaw where
  record := fund.record
  clients := fund.clients.map StagedClient.raw

/-- A run with every column of its rows: those of the last row of a pair, and of the last of an id. -/
structure FlattenedRun where
  result : FlattenResult
  columns : Dict Pair RowColumns
  payments : Dict ℤ PaymentColumns

/-- The columns of the first transaction of each id, as `dedupe_transactions` keeps them. -/
def firstPayments (txns : List StagedTxn) : List (ℤ × PaymentColumns) :=
  (txns.foldl (fun (seen : Dict ℤ PaymentColumns) txn =>
    match txn.id with
    | none => seen
    | some key => if seen.contains key then seen else seen.set key txn.columns) .empty).items

/-- The columns of a fund's valid clients. -/
def StagedFund.rowColumns (parsing : Parsing) (fund : StagedFund) : List (Pair × RowColumns) :=
  match fund.record with
  | none => []
  | some record => fund.clients.filterMap fun client => client.record.map fun (known, columns) =>
      ((known.clientId, record.unitFundId),
        { columns with
          activityWindowFrom := parsing.date client.activityWindowFrom
          activityWindowTo := parsing.date client.activityWindowTo })

/-- The columns of the transactions of a fund's valid clients. -/
def StagedFund.payments (fund : StagedFund) : List (ℤ × PaymentColumns) :=
  match fund.record with
  | none => []
  | some _ => (fund.clients.filter fun client => client.record.isSome).flatMap fun client =>
      firstPayments (client.last5Purchases ++ client.purchasesLast12Months) ++
        firstPayments (client.last2Sales ++ client.salesLast12Months)

/-- `flatten_run`, the pages in the text order of their numbers. -/
def flattenStaging (parsing : Parsing) (reference : Day) (staging : Staging) : FlattenedRun :=
  let funds := (sortBy (fun page => toString page.1) staging.items).flatMap Prod.snd
  { result := flattenRun parsing reference (staging.mapValues fun page => page.map StagedFund.raw)
    columns := .ofList (funds.flatMap (StagedFund.rowColumns parsing))
    payments := .ofList (funds.flatMap StagedFund.payments) }

/-! ## The rows of every table -/

/-- A row of `ingestion_rejects`. -/
structure Reject where
  runId : String
  rawFragment : ClientId × String
  reason : String
deriving DecidableEq

/-- What `persist_result` is given: the run, how it derives, and `str.isdigit`. -/
structure Loading where
  derivation : Derivation
  isdigit : Char → Bool
  source : Option String := none
  runId : String

/-- One agreed format: `+254` followed by nine digits. -/
def normalizePhone (isdigit : Char → Bool) (raw : Option String) : Option String :=
  match raw with
  | none | some "" => none
  | some raw =>
    let digits := raw.toList.filter isdigit
    let digits := match digits with
      | '0' :: rest => "254".toList ++ rest
      | digits => if digits.length = 9 then "254".toList ++ digits else digits
    if digits.length = 12 ∧ "254".toList <+: digits then some (.ofList ('+' :: digits)) else none

structure Batches where
  funds : List RowDict
  clients : List RowDict
  clientFunds : List RowDict
  transactions : List RowDict
  vault : List RowDict
  features : List RowDict
  rejects : List Reject
  clientIds : List ClientId

namespace FlattenedRun

variable (run : FlattenedRun)

def columnsOf (row : ClientRow) : RowColumns := run.columns.getD row.pair {}

/-- The clients, each with its largest relationship and how many it has. -/
def primaries : List (ClientRow × ℕ) :=
  (relationshipsByClient run.result).items.filterMap fun (_, rows) =>
    (largestFirst rows).head?.map fun primary => (primary, (largestFirst rows).length)

/-- A phone there is that cannot be used. -/
def rejects (loading : Loading) : List Reject :=
  run.primaries.filterMap fun (primary, _) =>
    match (run.columnsOf primary).clientPhone with
    | none | some "" => none
    | some phone =>
      if normalizePhone loading.isdigit (some phone) = none then
        some ⟨loading.runId, (primary.clientId, phone), "invalid_phone_number"⟩
      else none

/-- The rows of `client_fund`; a pair without measures raises. -/
def clientFunds (measures : Dict Pair RelationshipMeasures) : Option (List RowDict) :=
  ((relationshipsByClient run.result).items.flatMap fun (_, rows) => contactRows rows).mapM
    fun (row, isPrimary) => (measures.get? row.pair).map fun m =>
      clientFundDict row (run.columnsOf row) m isPrimary

def funds : Dict FundId FundRow := .ofList (run.result.funds.map fun f => (f.unitFundId, f))

def txns : Dict ℤ TxnRow :=
  .ofList (run.result.transactions.filterMap fun t => t.txnId.map fun txnId => (txnId, t))

/-- What is gathered before anything is written. -/
def batches (loading : Loading) : Option Batches := do
  let measures := deriveRelationshipMeasures loading.derivation run.result
  let clientFunds ← run.clientFunds measures
  let features ← deriveFeatures loading.derivation run.result measures
  some
    { funds := run.funds.items.map fun (_, f) => fundDict f
      clients := run.primaries.map fun (primary, nFunds) => clientDict primary (run.columnsOf primary) nFunds
      clientFunds := clientFunds
      transactions := run.txns.items.map fun (txnId, t) => txnDict txnId t (run.payments.getD txnId {})
      vault := run.primaries.map fun (primary, _) => vaultDict primary (run.columnsOf primary) loading.source
        (normalizePhone loading.isdigit (run.columnsOf primary).clientPhone)
      features := (Dict.ofList (features.map fun f => (f.clientId, f))).items.map fun (_, f) => featureDict f
      rejects := run.rejects loading
      clientIds := (relationshipsByClient run.result).keys }

end FlattenedRun

/-! ## Writing them -/

inductive TableName where
  | funds | clients | clientFund | transactions | piiVault | clientFeatures
deriving DecidableEq

structure Tables where
  rows : TableName → Table
  rejects : List Reject

/-- The tables as committed, and the rejects added since. -/
structure Session where
  tables : Tables
  pending : List Reject

/-- An error, and what was committed before it; what is pending is lost. -/
structure Failure where
  error : DbError
  tables : Tables

/-- When the transactions of the writes began. -/
structure Times where
  funds : ℤ
  clients : ℤ
  clientFund : ℤ
  cleared : ℤ
  transactions : ℤ
  vault : ℤ
  features : ℤ

def Session.commit (session : Session) : Session where
  tables := { session.tables with rejects := session.tables.rejects ++ session.pending }
  pending := []

/-- An upsert and its commit; for no rows, neither. -/
def Session.store (session : Session) (name : TableName)
    (write : Table → List RowDict → Except DbError Table) (rows : List RowDict) : Except Failure Session :=
  if rows = [] then .ok session
  else
    match write (session.tables.rows name) rows with
    | .error error => .error ⟨error, session.tables⟩
    | .ok table =>
      .ok { session with
        tables := { session.tables with rows := Function.update session.tables.rows name table } }.commit

/-- Whether a row is a flagged one of the clients that was written before. -/
def isStale (clientIds : List ClientId) (before : ℤ) (row : StoredRow) : Bool :=
  (match row "client_id" with
    | some (.int clientId) => clientIds.contains clientId
    | _ => false) &&
  row "is_primary_contact_row" == some (.bool true) &&
  (match row "updated_at" with
    | some (.timestamp written) => decide (written < before)
    | _ => false)

/-- `_clear_stale_primary_rows`. -/
def clearStale (clientIds : List ClientId) (before now : ℤ) (table : Table) : Table :=
  table.mapEntries fun _ row =>
    if isStale clientIds before row then
      Function.update (Function.update row "is_primary_contact_row" (some (.bool false)))
        "updated_at" (some (.timestamp now))
    else row

def Session.clearStalePrimaryRows (session : Session) (clientIds : List ClientId) (before now : ℤ) : Session :=
  if clientIds = [] then session
  else
    { session with
      tables := { session.tables with
        rows := Function.update session.tables.rows .clientFund
          (clearStale clientIds before now (session.tables.rows .clientFund)) } }.commit

/-- The relationships are upserted in the transaction whose clock is read as the cut-off. -/
def persistResult (batches : Batches) (times : Times) (tables : Tables) : Except Failure Session := do
  let session : Session := ⟨tables, batches.rejects⟩
  let session ← session.store .funds (upsert fundsTarget times.funds copyMinRows) batches.funds
  let session ← session.store .clients (upsert clientsTarget times.clients copyMinRows) batches.clients
  let session ← session.store .clientFund (upsert clientFundTarget times.clientFund copyMinRows)
    batches.clientFunds
  let session := session.clearStalePrimaryRows batches.clientIds times.clientFund times.cleared
  let session ← session.store .transactions (upsert transactionsTarget times.transactions copyMinRows)
    batches.transactions
  let session ← session.store .piiVault (upsertVault times.vault copyMinRows) batches.vault
  let session ← session.store .clientFeatures (upsert featuresTarget times.features copyMinRows)
    batches.features
  return session.commit

/-- What a call leaves: nothing is written when the rows cannot be gathered. -/
def persisted (run : FlattenedRun) (loading : Loading) (times : Times) (tables : Tables) : Tables :=
  match run.batches loading with
  | none => tables
  | some batches =>
    match persistResult batches times tables with
    | .ok session => session.tables
    | .error failure => failure.tables

/-- Equal but for `updated_at`. -/
def SameRow (r r' : StoredRow) : Prop := ∀ name, name ≠ "updated_at" → r name = r' name

/-- Equal tables up to `updated_at` and to the ids of the rejects. -/
structure Tables.Same (a b : Tables) : Prop where
  rows : ∀ name, (a.rows name).Related SameRow (b.rows name)
  rejects : a.rejects.Perm b.rejects

/-- A fund of the run has no name. -/
def FlattenedRun.Nameless (run : FlattenedRun) : Prop :=
  ∃ fund ∈ run.funds.items, fund.2.unitFundName = none

variable {run : FlattenedRun} {loading : Loading} {result : FlattenResult}

/-! ## The rows are gathered -/

lemma primaries_ids : run.primaries.map (fun primary => primary.1.clientId) =
    (relationshipsByClient run.result).keys := by
  rw [FlattenedRun.primaries, List.map_filterMap, Dict.keys]
  have each : ∀ group ∈ (relationshipsByClient run.result).items,
      ((largestFirst group.2).head?.map fun primary => (primary, (largestFirst group.2).length)).map
        (fun primary => primary.1.clientId) = some group.1 := by
    intro group mem
    obtain ⟨clientId, rows⟩ := group
    have known : clientId ∈ (relationshipsByClient run.result).keys := List.mem_map_of_mem mem
    obtain ⟨rfl, -⟩ := Dict.mem_items_groupBy.mp mem
    obtain ⟨primary, contact⟩ := Option.isSome_iff_exists.mp (primaryOf_isSome.mpr known)
    have own := (primaryOf_last contact).2
    show ((primaryOf run.result clientId).map _).map _ = _
    rw [contact, ← own]
    rfl
  rw [List.filterMap_congr each]
  exact congrFun List.filterMap_eq_map' _

lemma primaries_keyed : (run.primaries.map fun primary => [Value.int primary.1.clientId]).Nodup := by
  have ids := Dict.keys_nodup (relationshipsByClient run.result)
  rw [← primaries_ids] at ids
  have keys := ids.map (f := fun clientId => [Value.int clientId])
    fun a b same => Value.int.inj (List.cons.inj same).1
  rw [List.map_map] at keys
  exact keys

/-- The relationships of the clients, each with its flag. -/
def relationships (result : FlattenResult) : List (ClientRow × Bool) :=
  (relationshipsByClient result).items.flatMap fun (_, rows) => contactRows rows

lemma relationships_last {row : ClientRow × Bool} (mem : row ∈ relationships result) :
    lastRow result.clients row.1.pair = some row.1 := by
  obtain ⟨⟨clientId, rows⟩, group, mem⟩ := List.mem_flatMap.mp mem
  obtain ⟨rfl, -⟩ := Dict.mem_items_groupBy.mp group
  have listed : row.1 ∈ (contactRows (rowsOfClient result clientId)).map Prod.fst :=
    List.mem_map_of_mem mem
  rw [contactRows_rows, mem_largestFirst, mem_rowsOfClient] at listed
  exact listed.1

lemma relationships_keyed : ((relationships result).map fun row =>
    [Value.int row.1.clientId, Value.int row.1.unitFundId]).Nodup := by
  have pairs : ((relationships result).map fun row => row.1.pair).Nodup := by
    have keys := @clientFundRows_keys result 0
    rw [clientFundRows, List.map_flatMap] at keys
    rw [relationships, List.map_flatMap]
    simp only [List.map_map] at keys
    exact keys
  have keys := pairs.map (f := fun pair => [Value.int pair.1, Value.int pair.2]) fun a b same => by
    obtain ⟨client, rest⟩ := List.cons.inj same
    exact Prod.ext (Value.int.inj client) (Value.int.inj (List.cons.inj rest).1)
  rw [List.map_map] at keys
  exact keys

/-- The row of `client_fund` of a relationship. -/
def FlattenedRun.clientFundRow (run : FlattenedRun) (loading : Loading) (row : ClientRow × Bool) : RowDict :=
  clientFundDict row.1 (run.columnsOf row.1) (measureOf loading.derivation run.result row.1.pair) row.2

/-- Every relationship has its measures. -/
lemma clientFunds_eq : run.clientFunds (deriveRelationshipMeasures loading.derivation run.result) =
    some ((relationships run.result).map (run.clientFundRow loading)) := by
  rw [FlattenedRun.clientFunds]
  have made := mapM_eq_filterMap (l := relationships run.result)
    (f := fun row => ((deriveRelationshipMeasures loading.derivation run.result).get? row.1.pair).map fun m =>
      clientFundDict row.1 (run.columnsOf row.1) m row.2)
    (g := fun row => some (run.clientFundRow loading row)) (fun row mem => by
      rw [get?_measures, relationships_last mem]
      rfl) fun _ _ => rfl
  rw [congrFun List.filterMap_eq_map' _] at made
  exact made

/-- The features of the clients. -/
def FlattenedRun.featureRows (run : FlattenedRun) (loading : Loading) : Dict ClientId FeatureRow :=
  .ofList (((relationshipsByClient run.result).keys.filterMap
    (featureOf loading.derivation run.result)).map fun f => (f.clientId, f))

/-- What every run is gathered to. -/
def FlattenedRun.gathered (run : FlattenedRun) (loading : Loading) : Batches where
  funds := run.funds.items.map fun (_, f) => fundDict f
  clients := run.primaries.map fun (primary, nFunds) => clientDict primary (run.columnsOf primary) nFunds
  clientFunds := (relationships run.result).map (run.clientFundRow loading)
  transactions := run.txns.items.map fun (txnId, t) => txnDict txnId t (run.payments.getD txnId {})
  vault := run.primaries.map fun (primary, _) => vaultDict primary (run.columnsOf primary) loading.source
    (normalizePhone loading.isdigit (run.columnsOf primary).clientPhone)
  features := (run.featureRows loading).items.map fun (_, f) => featureDict f
  rejects := run.rejects loading
  clientIds := (relationshipsByClient run.result).keys

lemma batches_eq : run.batches loading = some (run.gathered loading) := by
  simp only [FlattenedRun.batches, clientFunds_eq, deriveFeatures_eq, Option.bind_eq_bind, Option.bind_some]
  rfl

/-- What is kept under the key of what is listed has that key. -/
lemma key_of_ofList {α κ : Type*} [DecidableEq κ] {key : α → κ} {items : List α} {entry : κ × α}
    (mem : entry ∈ (Dict.ofList (items.map fun x => (key x, x))).items) : key entry.2 = entry.1 := by
  obtain ⟨k, y⟩ := entry
  obtain ⟨x, -, same⟩ := List.mem_map.mp (Dict.mem_of_get?_ofList ((Dict.mem_items_iff _).mp mem))
  cases same
  rfl

lemma keyed_of_items {α : Type*} {d : Dict ℤ α} {key : α → ℤ}
    (own : ∀ entry ∈ d.items, key entry.2 = entry.1) :
    (d.items.map fun entry => [Value.int (key entry.2)]).Nodup := by
  have keys := (Dict.keys_nodup d).map (f := fun k => [Value.int k])
    fun a b same => Value.int.inj (List.cons.inj same).1
  rw [Dict.keys, List.map_map] at keys
  rw [List.map_congr_left fun entry mem => by rw [own entry mem]]
  exact keys

lemma batch_funds : OneBatch fundsTarget.statement (run.gathered loading).funds :=
  .of_map (fun entry => [.int entry.2.unitFundId]) (fun _ _ => keys_fundDict _ _) (fun _ => key_fundDict _)
    (keyed_of_items fun _ mem => key_of_ofList mem)

lemma batch_clients : OneBatch clientsTarget.statement (run.gathered loading).clients :=
  .of_map (fun primary => [.int primary.1.clientId]) (fun _ _ => keys_clientDict ..)
    (fun _ => key_clientDict ..) primaries_keyed

lemma batch_clientFunds : OneBatch clientFundTarget.statement (run.gathered loading).clientFunds :=
  .of_map (fun row => [.int row.1.clientId, .int row.1.unitFundId]) (fun _ _ => keys_clientFundDict ..)
    (fun _ => key_clientFundDict ..) relationships_keyed

lemma batch_transactions : OneBatch transactionsTarget.statement (run.gathered loading).transactions := by
  have keys := (Dict.keys_nodup run.txns).map (f := fun txnId => [Value.int txnId])
    fun a b same => Value.int.inj (List.cons.inj same).1
  rw [Dict.keys, List.map_map] at keys
  exact .of_map (fun entry => [.int entry.1]) (fun _ _ => keys_txnDict ..) (fun _ => key_txnDict ..) keys

lemma batch_vault : OneBatch vaultStatement (run.gathered loading).vault :=
  .of_map (fun primary => [.int primary.1.clientId]) (fun _ _ => keys_vaultDict ..)
    (fun _ => key_vaultDict ..) primaries_keyed

lemma batch_features : OneBatch featuresTarget.statement (run.gathered loading).features :=
  .of_map (fun entry => [.int entry.2.clientId]) (fun _ _ => keys_featureDict ..)
    (fun _ => key_featureDict ..) (keyed_of_items fun _ mem => key_of_ofList mem)

/-- Rows that are made so that they are accepted. -/
lemma accepted_map {α : Type*} {stmt : OnConflict} {f : α → RowDict} {items : List α}
    (complete : ∀ x, stmt.model.violates (stmt.model.proposed 0 (f x)) = false) :
    stmt.refuses (items.map f) = false := by
  rw [OnConflict.refuses, List.any_map, List.any_eq_false]
  intro x _
  rw [Function.comp_apply, complete]
  exact Bool.false_ne_true

/-- The funds are refused when one of them has no name. -/
lemma refuses_funds :
    fundsTarget.statement.refuses (run.gathered loading).funds = true ↔ run.Nameless := by
  show (run.funds.items.map fun entry => fundDict entry.2).any _ = true ↔ _
  rw [List.any_map, List.any_eq_true]
  refine exists_congr fun entry => and_congr_right fun _ => ?_
  show funds.violates (funds.proposed 0 (fundDict entry.2)) = true ↔ _
  rw [violates_fundDict, Option.isNone_iff_eq_none]

/-! ## The tables after a call -/

variable {stmt : OnConflict} {rows : List RowDict} {session : Session} {name : TableName} {now now' : ℤ}
  {minRows : ℕ} {table : Table}

/-- The rejects that are stored once the session commits. -/
def Session.rejects (session : Session) : List Reject := session.tables.rejects ++ session.pending

lemma rejects_commit (session : Session) : session.commit.rejects = session.rejects := List.append_nil _

/-- A call that does not fail and leaves the tables given. -/
def Leaves (after : Tables) (outcome : Except Failure Session) : Prop :=
  ∃ session, outcome = .ok session ∧ session.tables = after

/-- After an accepted batch its table has it, and every other table is as it was. -/
lemma store_accepted {rest : Session → Except Failure Session} {after : Tables}
    (batch : OneBatch stmt rows) (accepted : stmt.refuses rows = false)
    (next : ∀ session' : Session, session'.tables.rows = Function.update session.tables.rows name
        ((session.tables.rows name).upsert (stmt.writes now) (stmt.keyed rows)) →
      session'.rejects = session.rejects → Leaves after (rest session')) :
    Leaves after (session.store name (stmt.run now minRows) rows >>= rest) := by
  rw [Session.store]
  split
  · rename_i empty
    subst empty
    exact next session (Function.update_eq_self name session.tables.rows).symm rfl
  · rename_i nonempty
    rw [run_ok batch nonempty accepted]
    exact next _ rfl (rejects_commit _)

lemma store_refused (batch : OneBatch stmt rows) (refused : stmt.refuses rows = true) :
    ∃ error, session.store name (stmt.run now minRows) rows = .error ⟨error, session.tables⟩ := by
  have nonempty : rows ≠ [] := by
    rintro rfl
    cases refused
  obtain ⟨error, ran⟩ : ∃ error, stmt.run now minRows (session.tables.rows name) rows = .error error :=
    run_error batch nonempty refused minRows
  rw [Session.store, if_neg nonempty, ran]
  exact ⟨error, rfl⟩

/-- What a whole load leaves of a table. -/
def loadedRows (batches : Batches) (times : Times) (tables : Tables) : TableName → Table
  | .funds => (tables.rows .funds).upsert (fundsTarget.statement.writes times.funds)
      (fundsTarget.statement.keyed batches.funds)
  | .clients => (tables.rows .clients).upsert (clientsTarget.statement.writes times.clients)
      (clientsTarget.statement.keyed batches.clients)
  | .clientFund => clearStale batches.clientIds times.clientFund times.cleared
      ((tables.rows .clientFund).upsert (clientFundTarget.statement.writes times.clientFund)
        (clientFundTarget.statement.keyed batches.clientFunds))
  | .transactions => (tables.rows .transactions).upsert
      (transactionsTarget.statement.writes times.transactions)
      (transactionsTarget.statement.keyed batches.transactions)
  | .piiVault => (tables.rows .piiVault).upsert (vaultStatement.writes times.vault)
      (vaultStatement.keyed batches.vault)
  | .clientFeatures => (tables.rows .clientFeatures).upsert
      (featuresTarget.statement.writes times.features) (featuresTarget.statement.keyed batches.features)

lemma isStale_none {before : ℤ} {row : StoredRow} : isStale [] before row = false := by
  rw [isStale]
  split
  · rfl
  · rfl

lemma clearStale_none {before : ℤ} : clearStale [] before now table = table := by
  refine Dict.ext_items ?_
  rw [clearStale, Dict.mapEntries]
  refine (List.map_congr_left fun entry _ => ?_).trans (List.map_id _)
  rw [isStale_none]
  rfl

lemma clear_rows (session : Session) (clientIds : List ClientId) (before now : ℤ) :
    (session.clearStalePrimaryRows clientIds before now).tables.rows =
      Function.update session.tables.rows .clientFund
        (clearStale clientIds before now (session.tables.rows .clientFund)) := by
  rw [Session.clearStalePrimaryRows]
  split
  · rename_i empty
    subst empty
    rw [clearStale_none, Function.update_eq_self]
  · rfl

lemma clear_rejects (session : Session) (clientIds : List ClientId) (before now : ℤ) :
    (session.clearStalePrimaryRows clientIds before now).rejects = session.rejects := by
  rw [Session.clearStalePrimaryRows]
  split
  · rfl
  · exact rejects_commit _

/-- The tables after a load of which nothing is refused. -/
def loaded (batches : Batches) (times : Times) (tables : Tables) : Tables where
  rows := loadedRows batches times tables
  rejects := tables.rejects ++ batches.rejects

/-- With a name for every fund the whole run is stored. -/
lemma persistResult_named (loading : Loading) (named : ¬ run.Nameless) (times : Times) (tables : Tables) :
    Leaves (loaded (run.gathered loading) times tables)
      (persistResult (run.gathered loading) times tables) := by
  have accepted : fundsTarget.statement.refuses (run.gathered loading).funds = false :=
    Bool.eq_false_iff.mpr (mt refuses_funds.mp named)
  refine store_accepted batch_funds accepted fun s₁ rows₁ rejects₁ => ?_
  refine store_accepted batch_clients (accepted_map fun _ => violates_clientDict ..)
    fun s₂ rows₂ rejects₂ => ?_
  refine store_accepted batch_clientFunds (accepted_map fun _ => violates_clientFundDict ..)
    fun s₃ rows₃ rejects₃ => ?_
  have rows₄ := clear_rows s₃ (run.gathered loading).clientIds times.clientFund times.cleared
  have rejects₄ := clear_rejects s₃ (run.gathered loading).clientIds times.clientFund times.cleared
  generalize s₃.clearStalePrimaryRows (run.gathered loading).clientIds times.clientFund times.cleared = s₄
    at rows₄ rejects₄ ⊢
  refine store_accepted batch_transactions (accepted_map fun _ => violates_txnDict ..)
    fun s₅ rows₅ rejects₅ => ?_
  refine store_accepted batch_vault (accepted_map fun _ => violates_vaultDict ..)
    fun s₆ rows₆ rejects₆ => ?_
  refine store_accepted batch_features (accepted_map fun _ => violates_featureDict ..)
    fun s₇ rows₇ rejects₇ => ?_
  have rows : s₇.commit.tables.rows = loadedRows (run.gathered loading) times tables := by
    show s₇.tables.rows = _
    funext name
    rw [rows₇, rows₆, rows₅, rows₄, rows₃, rows₂, rows₁]
    cases name
    all_goals rfl
  have rejects : s₇.commit.tables.rejects = tables.rejects ++ run.rejects loading := by
    show s₇.rejects = _
    rw [rejects₇, rejects₆, rejects₅, rejects₄, rejects₃, rejects₂, rejects₁]
    rfl
  refine ⟨s₇.commit, rfl, ?_⟩
  rw [loaded, ← rows]
  exact congrArg _ rejects

/-- With a fund without a name nothing is stored, not even a reject. -/
lemma persistResult_nameless (loading : Loading) (nameless : run.Nameless) (times : Times) (tables : Tables) :
    ∃ error, persistResult (run.gathered loading) times tables = .error ⟨error, tables⟩ := by
  obtain ⟨error, stored⟩ : ∃ error, Session.store ⟨tables, (run.gathered loading).rejects⟩ .funds
      (fundsTarget.statement.run times.funds copyMinRows) (run.gathered loading).funds = .error ⟨error, tables⟩ :=
    store_refused batch_funds (refuses_funds.mpr nameless)
  refine ⟨error, ?_⟩
  show (Session.store _ .funds (fundsTarget.statement.run times.funds copyMinRows) _).bind _ = _
  rw [stored]
  rfl

lemma persisted_named (named : ¬ run.Nameless) (times : Times) (tables : Tables) :
    persisted run loading times tables = loaded (run.gathered loading) times tables := by
  obtain ⟨session, done, left⟩ := persistResult_named loading named times tables
  rw [persisted, batches_eq]
  dsimp only
  rw [done]
  exact left

lemma persisted_nameless (nameless : run.Nameless) (times : Times) (tables : Tables) :
    persisted run loading times tables = tables := by
  obtain ⟨error, failed⟩ := persistResult_nameless loading nameless times tables
  rw [persisted, batches_eq]
  dsimp only
  rw [failed]

/-! ## When the relationships were written -/

/-- Every relationship was written in a transaction that has begun. -/
def Stamped (clock : ℤ) (table : Table) : Prop :=
  ∀ key row, table.get? key = some row → ∃ written ≤ clock, row "updated_at" = some (.timestamp written)

/-- What is written of a relationship carries the clock of the transaction. -/
lemma stamped_written {row : RowDict} (mem : row ∈ (run.gathered loading).clientFunds)
    (old : Option StoredRow) :
    (clientFundTarget.statement.writes now).apply old row "updated_at" = some (.timestamp now) := by
  obtain ⟨relationship, -, rfl⟩ := List.mem_map.mp mem
  cases old with
  | none =>
    rw [apply_none]
    exact proposed_updatedAt ..
  | some stored =>
    rw [apply_some, OnConflict.update, set_updatedAt]
    rfl

/-- What was written at the cut-off is not stale. -/
lemma not_isStale {clientIds : List ClientId} {before : ℤ} {row : StoredRow}
    (written : row "updated_at" = some (.timestamp before)) : isStale clientIds before row = false := by
  rw [isStale, written]
  simp

/-- A flag that is cleared is not stale any more. -/
lemma isStale_cleared {clientIds : List ClientId} {before : ℤ} {row : StoredRow} (written : Option Value) :
    isStale clientIds before (Function.update (Function.update row "is_primary_contact_row"
      (some (.bool false))) "updated_at" written) = false := by
  rw [isStale]
  simp

/-- What is stale at a later cut-off is stale at any after it was written. -/
lemma isStale_of_later {clientIds : List ClientId} {before later written : ℤ} {row : StoredRow}
    (stamped : row "updated_at" = some (.timestamp written)) (earlier : written < before)
    (stale : isStale clientIds later row = true) : isStale clientIds before row = true := by
  rw [isStale, stamped, Bool.and_eq_true] at stale
  rw [isStale, stamped, Bool.and_eq_true]
  exact ⟨stale.1, decide_eq_true earlier⟩

/-- The relationships loaded, listed by their keys. -/
abbrev keyedFunds (batches : Batches) : List (List (Option Value) × RowDict) :=
  clientFundTarget.statement.keyed batches.clientFunds

lemma mem_keyed {row : RowDict} {key : List (Option Value)} (mem : (key, row) ∈ stmt.keyed rows) :
    row ∈ rows := by
  obtain ⟨row', listed, same⟩ := List.mem_map.mp mem
  cases same
  exact listed

variable {times times' : Times} {tables : Tables} {clock : ℤ} {key : List (Option Value)}

/-- A relationship of the run is as written. -/
lemma loaded_listed {row : RowDict} (listed : (key, row) ∈ keyedFunds (run.gathered loading)) :
    (loadedRows (run.gathered loading) times tables .clientFund).get? key =
      some ((clientFundTarget.statement.writes times.clientFund).apply
        ((tables.rows .clientFund).get? key) row) := by
  rw [loadedRows, clearStale, Dict.get?_mapEntries, Dict.get?_upsert_of_mem (keyed_nodup batch_clientFunds)
    listed, Option.map_some, if_neg]
  rw [not_isStale (stamped_written (mem_keyed listed) _)]
  nofun

/-- Any other relationship loses at most its flag. -/
lemma loaded_unlisted (absent : key ∉ (keyedFunds (run.gathered loading)).map Prod.fst) :
    (loadedRows (run.gathered loading) times tables .clientFund).get? key =
      (clearStale (run.gathered loading).clientIds times.clientFund times.cleared
        (tables.rows .clientFund)).get? key := by
  rw [loadedRows, clearStale, clearStale, Dict.get?_mapEntries, Dict.get?_mapEntries,
    Dict.get?_upsert_of_not_mem absent]

/-- To clear again clears nothing. -/
lemma clear_again {clientIds : List ClientId} {before cleared : ℤ} (stamped : Stamped clock table)
    (began : clock < before) (before' cleared' : ℤ) :
    (clearStale clientIds before' cleared' (clearStale clientIds before cleared table)).get? key =
      (clearStale clientIds before cleared table).get? key := by
  rw [clearStale, clearStale, Dict.get?_mapEntries, Dict.get?_mapEntries]
  cases found : table.get? key with
  | none => rfl
  | some row =>
    obtain ⟨written, begun, stamp⟩ := stamped key row found
    rw [Option.map_some, Option.map_some]
    cases stale : isStale clientIds before row with
    | true =>
      rw [if_pos rfl, isStale_cleared]
      rfl
    | false =>
      rw [if_neg Bool.false_ne_true, if_neg]
      intro later
      rw [isStale_of_later stamp (begun.trans_lt began) later] at stale
      cases stale

/-- What is cleared is stamped by the clearing. -/
lemma stamped_cleared {clientIds : List ClientId} {before cleared clock' : ℤ} (stamped : Stamped clock table)
    (begun : clock ≤ clock') (done : cleared ≤ clock') :
    Stamped clock' (clearStale clientIds before cleared table) := by
  intro key row found
  rw [clearStale, Dict.get?_mapEntries] at found
  obtain ⟨old, known, same⟩ := Option.map_eq_some_iff.mp found
  subst same
  split
  · exact ⟨cleared, done, Function.update_self ..⟩
  · obtain ⟨written, le, stamp⟩ := stamped key old known
    exact ⟨written, le.trans begun, stamp⟩

lemma stamped_loaded (stamped : Stamped clock (tables.rows .clientFund)) (began : clock ≤ times.features)
    (written : times.clientFund ≤ times.features) (cleared : times.cleared ≤ times.features) :
    Stamped times.features (loadedRows (run.gathered loading) times tables .clientFund) := by
  have upserted : Stamped times.features ((tables.rows .clientFund).upsert
      (clientFundTarget.statement.writes times.clientFund) (keyedFunds (run.gathered loading))) := by
    intro key row found
    by_cases listed : key ∈ (keyedFunds (run.gathered loading)).map Prod.fst
    · obtain ⟨⟨key, row'⟩, mem, rfl⟩ := List.mem_map.mp listed
      rw [Dict.get?_upsert_of_mem (keyed_nodup batch_clientFunds) mem] at found
      cases found
      exact ⟨times.clientFund, written, stamped_written (mem_keyed mem) _⟩
    · rw [Dict.get?_upsert_of_not_mem listed] at found
      obtain ⟨at_, le, stamp⟩ := stamped key row found
      exact ⟨at_, le.trans began, stamp⟩
  exact stamped_cleared upserted le_rfl cleared

/-! ## A run, loaded and loaded again -/

/-- The tables and the clock, by which every relationship was written. -/
structure LoadState where
  tables : Tables
  clock : ℤ
  stamped : Stamped clock (tables.rows .clientFund)

/-- The transactions of a call begin one after the other. -/
structure Times.After (times : Times) (clock : ℤ) : Prop where
  began : clock < times.funds
  ordered : times.funds ≤ times.clients ∧ times.clients ≤ times.clientFund ∧
    times.clientFund ≤ times.cleared ∧ times.cleared ≤ times.transactions ∧
    times.transactions ≤ times.vault ∧ times.vault ≤ times.features

lemma stamped_persisted (stamped : Stamped clock (tables.rows .clientFund)) (after : times.After clock) :
    Stamped times.features ((persisted run loading times tables).rows .clientFund) := by
  have began := after.began
  have ordered := after.ordered
  by_cases nameless : run.Nameless
  · rw [persisted_nameless nameless]
    intro key row found
    obtain ⟨written, le, stamp⟩ := stamped key row found
    exact ⟨written, by omega, stamp⟩
  · rw [persisted_named nameless]
    exact stamped_loaded stamped (by omega) (by omega) (by omega)

/-- `transform_run`, of the saved pages of a run that has a reference timestamp. -/
def transformRun (parsing : Parsing) (reference : Day) (staging : Staging) (loading : Loading)
    (st : LoadState) (times : Times) (after : times.After st.clock) : LoadState where
  tables := persisted (flattenStaging parsing reference staging) loading times st.tables
  clock := times.features
  stamped := stamped_persisted st.stamped after

/-- To write a batch again changes no row. -/
lemma table_again (batch : OneBatch stmt rows) (stamps : ∀ name, stmt.stamps name → name = "updated_at") :
    ((table.upsert (stmt.writes now) (stmt.keyed rows)).upsert (stmt.writes now') (stmt.keyed rows)).Related
      SameRow (table.upsert (stmt.writes now) (stmt.keyed rows)) :=
  (batch_again batch table now now').mono fun _ _ same name other => same name (mt (stamps name) other)

/-- To load the relationships again changes none. -/
lemma clientFund_again (stamped : Stamped clock (tables.rows .clientFund)) (after : times.After clock) :
    (loadedRows (run.gathered loading) times' (loaded (run.gathered loading) times tables) .clientFund).Related
      SameRow (loadedRows (run.gathered loading) times tables .clientFund) := by
  have began : clock < times.clientFund := by
    have := after.began
    have := after.ordered
    omega
  intro key
  by_cases listed : key ∈ (keyedFunds (run.gathered loading)).map Prod.fst
  · obtain ⟨⟨key, row⟩, mem, rfl⟩ := List.mem_map.mp listed
    rw [loaded_listed mem]
    show Option.Rel SameRow (some ((clientFundTarget.statement.writes times'.clientFund).apply
      ((loadedRows (run.gathered loading) times tables .clientFund).get? key) row)) _
    rw [loaded_listed mem]
    exact .some fun name other => merge_again row _ (mt (stamps_clientFund name) other)
  · rw [loaded_unlisted listed, loaded_unlisted listed]
    have kept : (clearStale (run.gathered loading).clientIds times'.clientFund times'.cleared
        (loadedRows (run.gathered loading) times tables .clientFund)).get? key =
        (clearStale (run.gathered loading).clientIds times.clientFund times.cleared
          (tables.rows .clientFund)).get? key := by
      rw [← clear_again stamped began times'.clientFund times'.cleared, clearStale, clearStale,
        Dict.get?_mapEntries, Dict.get?_mapEntries, loaded_unlisted listed]
    show Option.Rel SameRow ((clearStale _ _ _ (loadedRows (run.gathered loading) times tables
      .clientFund)).get? key) _
    rw [kept]
    exact Dict.Related.refl (fun _ _ _ => rfl) _ key

/-- To load a run again changes no row of any table. -/
lemma rows_again (stamped : Stamped clock (tables.rows .clientFund)) (after : times.After clock)
    (name : TableName) :
    (loadedRows (run.gathered loading) times' (loaded (run.gathered loading) times tables) name).Related
      SameRow (loadedRows (run.gathered loading) times tables name) := by
  cases name with
  | funds => exact table_again batch_funds stamps_funds
  | clients => exact table_again batch_clients fun name stamped => absurd stamped (stamps_clients name)
  | clientFund => exact clientFund_again stamped after
  | transactions =>
    exact table_again batch_transactions fun name stamped => absurd stamped (stamps_transactions name)
  | piiVault => exact table_again batch_vault stamps_vault
  | clientFeatures => exact table_again batch_features stamps_features

/-- A page with one client, reached at the number given. -/
def sampleStaging (phone : String) : Staging :=
  .ofList [(1, [{
    record := some { unitFundId := 10, unitFundName := some "Money Market" }
    clients := [{ record := some ({ clientId := 1001 }, { clientPhone := some phone }) }] }])]

def sampleParsing : Parsing where
  date _ := none
  amount _ := 0

def sampleLoading : Loading where
  derivation := { log10 := fun _ => 0, tables := .ascii }
  isdigit := Char.isDigit
  runId := "run"

def sampleStart : LoadState where
  tables := { rows := fun _ => .empty, rejects := [] }
  clock := 0
  stamped := nofun

/-- A call whose transactions begin at the times from the one given on. -/
def timesFrom (began : ℤ) : Times where
  funds := began
  clients := began + 1
  clientFund := began + 2
  cleared := began + 3
  transactions := began + 4
  vault := began + 5
  features := began + 6

lemma timesFrom_after {clock began : ℤ} (later : clock < began) : (timesFrom began).After clock where
  began := later
  ordered := by
    simp only [timesFrom]
    omega

lemma sample_named (phone : String) : ¬ (flattenStaging sampleParsing 0 (sampleStaging phone)).Nameless := by
  have funds : (flattenStaging sampleParsing 0 (sampleStaging phone)).funds.items =
      [(10, ⟨10, some "Money Market", none⟩)] := rfl
  rintro ⟨fund, mem, none⟩
  rw [funds, List.mem_singleton] at mem
  subst mem
  cases none

/-- A phone of five digits is rejected again when the run is loaded again. -/
theorem invalid_phone_rejected_again :
    ¬ (transformRun sampleParsing 0 (sampleStaging "12345") sampleLoading
        (transformRun sampleParsing 0 (sampleStaging "12345") sampleLoading sampleStart (timesFrom 1)
          (timesFrom_after (by decide))) (timesFrom 8) (timesFrom_after (by decide))).tables.Same
      (transformRun sampleParsing 0 (sampleStaging "12345") sampleLoading sampleStart (timesFrom 1)
        (timesFrom_after (by decide))).tables := by
  intro same
  have rejects := same.rejects.length_eq
  simp only [transformRun, persisted_named (sample_named _), loaded] at rejects
  revert rejects
  decide +kernel

/-- A run loaded twice in a row is as loaded once if and only if no phone of it is rejected, or a fund without
    a name keeps all of it from being stored. -/
theorem load_again_iff (parsing : Parsing) (reference : Day) (staging : Staging) (loading : Loading)
    (st : LoadState) (times times' : Times) (after : times.After st.clock)
    (later : times'.After times.features) :
    (transformRun parsing reference staging loading
        (transformRun parsing reference staging loading st times after) times' later).tables.Same
      (transformRun parsing reference staging loading st times after).tables ↔
      (flattenStaging parsing reference staging).rejects loading = [] ∨
        (flattenStaging parsing reference staging).Nameless := by
  show (persisted _ loading times' (persisted _ loading times st.tables)).Same
    (persisted _ loading times st.tables) ↔ _
  generalize flattenStaging parsing reference staging = run
  by_cases nameless : run.Nameless
  · rw [persisted_nameless nameless, persisted_nameless nameless]
    refine iff_of_true ⟨fun name => ?_, .refl _⟩ (.inr nameless)
    exact Dict.Related.refl (fun _ _ _ => rfl) _
  · rw [persisted_named nameless, persisted_named nameless]
    constructor
    · intro same
      have length := same.rejects.length_eq
      refine .inl (List.length_eq_zero_iff.mp ?_)
      show (run.gathered loading).rejects.length = 0
      simp only [loaded, List.length_append] at length
      omega
    · intro fine
      have none_rejected : (run.gathered loading).rejects = [] := fine.resolve_right nameless
      refine ⟨rows_again st.stamped after, .of_eq ?_⟩
      show _ ++ (run.gathered loading).rejects = _
      rw [none_rejected, List.append_nil]

theorem load_again_iff_sample :
    (transformRun sampleParsing 0 (sampleStaging "0712345678") sampleLoading
        (transformRun sampleParsing 0 (sampleStaging "0712345678") sampleLoading sampleStart (timesFrom 1)
          (timesFrom_after (by decide))) (timesFrom 8) (timesFrom_after (by decide))).tables.Same
      (transformRun sampleParsing 0 (sampleStaging "0712345678") sampleLoading sampleStart (timesFrom 1)
        (timesFrom_after (by decide))).tables :=
  (load_again_iff ..).mpr (.inl (by decide +kernel))

end ClientEngagement.Transform.Load
