import ClientEngagement.Lib.Dict
import ClientEngagement.Lib.Json
import ClientEngagement.Lib.KeyOrder

/-!
# Flattening a run

Model of `transform/flatten.py`: a client of a fund becomes one row and its transactions
(`flattenClient`), a page the rows of its clients (`flattenPayload`), and a run those of its pages, in the
text order of their numbers (`flattenRun`). What a record's contract reads of it is given with the record,
and `Parsing` is how a date or an amount is read. Dates are counted in days, amounts are exact numbers.
-/

namespace ClientEngagement.Transform

abbrev ClientId := ℤ
abbrev FundId := ℤ

/-- Days since 1970-01-01. -/
abbrev Day := ℤ

inductive TxnType where
  | purchase
  | sale
deriving DecidableEq

/-- `parse_date` and `parse_amount`. -/
structure Parsing where
  date : Json → Option Day
  amount : Json → ℚ

/-- A transaction as a page has it; the fund may be left out, or null. -/
structure RawTxn where
  id : Option ℤ := none
  unitFundId : Option (Option FundId) := none
  date : Json := .null
  number : Json := .null
  saleType : Option String := none

structure ClientRecord where
  clientId : ClientId
  balance : Option ℚ := none

/-- A client of a fund, with its record when `ClientRecord` accepts it. -/
structure ClientRaw where
  record : Option ClientRecord
  last5Purchases : List RawTxn := []
  last2Sales : List RawTxn := []
  purchasesLast12Months : List RawTxn := []
  salesLast12Months : List RawTxn := []
  activityWindowTo : Json := .null

structure FundRecord where
  unitFundId : FundId
  unitFundName : Option String := none
  inactiveClientCount : Option ℕ := none

/-- A fund of a page, with its record when `FundRecord` accepts it. -/
structure FundRaw where
  record : Option FundRecord
  clients : List ClientRaw := []

structure FundRow where
  unitFundId : FundId
  unitFundName : Option String
  inactiveClientCount : Option ℕ
deriving DecidableEq

structure ClientRow where
  clientId : ClientId
  unitFundId : FundId
  balance : Option ℚ := none
  nPurchasesReturned : ℕ := 0
  nSalesReturned : ℕ := 0
  lastPurchaseDate : Option Day := none
  lastSaleDate : Option Day := none
  totalPurchaseAmount : ℚ := 0
  totalSaleAmount : ℚ := 0
  lastActivityDate : Option Day := none
  daysSinceLastActivity : Option ℤ := none
  purchasesCensored : Bool := false
  historyCensored : Bool := false
  hasExtendedHistory : Bool := false
deriving DecidableEq

structure TxnRow where
  txnId : Option ℤ
  txnType : TxnType
  clientId : ClientId
  unitFundId : Option FundId
  date : Option Day
  amount : ℚ
  saleType : Option String
deriving DecidableEq

structure FlattenResult where
  funds : List FundRow := []
  clients : List ClientRow := []
  transactions : List TxnRow := []

abbrev Pair := ClientId × FundId

def ClientRow.pair (row : ClientRow) : Pair := (row.clientId, row.unitFundId)

/-! ## One client of a fund -/

/-- Keeps the first transaction of each id, then those that have none. -/
def dedupeTransactions (rawLists : List (List RawTxn)) : List RawTxn :=
  let (seen, extra) := rawLists.flatten.foldl
    (fun (kept : Dict ℤ RawTxn × List RawTxn) txn =>
      match txn.id with
      | none => (kept.1, kept.2 ++ [txn])
      | some key => if kept.1.contains key then kept else (kept.1.set key txn, kept.2))
    (.empty, [])
  seen.items.map Prod.snd ++ extra

def txnRow (parsing : Parsing) (client : ClientRecord) (fundId : FundId) (txnType : TxnType)
    (txn : RawTxn) : TxnRow where
  txnId := txn.id
  txnType := txnType
  clientId := client.clientId
  unitFundId := txn.unitFundId.getD (some fundId)
  date := parsing.date txn.date
  amount := parsing.amount txn.number
  saleType := txn.saleType

def maxDate (dates : List (Option Day)) : Option Day := (dates.filterMap id).max?

def purchaseCap : ℕ := 5
def saleCap : ℕ := 2

/-- One client's row and its transactions. -/
structure Entry where
  row : ClientRow
  transactions : List TxnRow

def Entry.pair (entry : Entry) : Pair := entry.row.pair

/-- The row and the transactions of a valid client. -/
def flattenClient (parsing : Parsing) (ref : Day) (fundId : FundId) (client : ClientRecord)
    (clientRaw : ClientRaw) : Entry :=
  let purchases := dedupeTransactions [clientRaw.last5Purchases, clientRaw.purchasesLast12Months]
  let sales := dedupeTransactions [clientRaw.last2Sales, clientRaw.salesLast12Months]
  let purchaseRows := purchases.map (txnRow parsing client fundId .purchase)
  let saleRows := sales.map (txnRow parsing client fundId .sale)
  let lastPurchase := maxDate (purchaseRows.map TxnRow.date)
  let lastSale := maxDate (saleRows.map TxnRow.date)
  let lastActivity :=
    (parsing.date clientRaw.activityWindowTo).or (maxDate [lastPurchase, lastSale])
  let purchasesCensored := clientRaw.purchasesLast12Months.isEmpty &&
    decide (purchaseCap ≤ clientRaw.last5Purchases.length)
  { row :=
      { clientId := client.clientId
        unitFundId := fundId
        balance := client.balance
        nPurchasesReturned := purchases.length
        nSalesReturned := sales.length
        lastPurchaseDate := lastPurchase
        lastSaleDate := lastSale
        totalPurchaseAmount := (purchaseRows.map TxnRow.amount).sum
        totalSaleAmount := (saleRows.map TxnRow.amount).sum
        lastActivityDate := lastActivity
        daysSinceLastActivity := lastActivity.map (ref - ·)
        purchasesCensored := purchasesCensored
        historyCensored := purchasesCensored || (clientRaw.salesLast12Months.isEmpty &&
          decide (saleCap ≤ clientRaw.last2Sales.length))
        hasExtendedHistory := !clientRaw.purchasesLast12Months.isEmpty ||
          !clientRaw.salesLast12Months.isEmpty }
    transactions := purchaseRows ++ saleRows }

/-! ## A page and a run -/

/-- The entries of a fund's valid clients. -/
def entriesOfClients (parsing : Parsing) (ref : Day) (fundId : FundId) (clients : List ClientRaw) :
    List Entry :=
  clients.filterMap fun clientRaw =>
    clientRaw.record.map fun client => flattenClient parsing ref fundId client clientRaw

/-- The entries of a page, those of its valid funds. -/
def entriesOfPage (parsing : Parsing) (ref : Day) (page : List FundRaw) : List Entry :=
  page.flatMap fun fundRaw =>
    match fundRaw.record with
    | none => []
    | some fund => entriesOfClients parsing ref fund.unitFundId fundRaw.clients

/-- `_combine_fund`: the first name there is, and the sum of the counts there are. -/
def combineFund (existing : Option FundRow) (incoming : FundRow) : FundRow :=
  match existing with
  | none => incoming
  | some existing =>
    { unitFundId := existing.unitFundId
      unitFundName := match existing.unitFundName with
        | some "" | none => incoming.unitFundName
        | some name => some name
      inactiveClientCount := match existing.inactiveClientCount, incoming.inactiveClientCount with
        | some seen, some more => some (seen + more)
        | some seen, none => some seen
        | none, count => count }

/-- The funds by id, as they are combined one after the other. -/
def combineFunds (funds : List FundRow) (fundsById : Dict FundId FundRow) : Dict FundId FundRow :=
  funds.foldl (fun fundsById fund =>
    fundsById.set fund.unitFundId (combineFund (fundsById.get? fund.unitFundId) fund)) fundsById

def FundRecord.row (fund : FundRecord) : FundRow :=
  ⟨fund.unitFundId, fund.unitFundName, fund.inactiveClientCount⟩

def flattenPayload (parsing : Parsing) (ref : Day) (page : List FundRaw) : FlattenResult :=
  let entries := entriesOfPage parsing ref page
  { funds := (combineFunds (page.filterMap fun fundRaw => fundRaw.record.map FundRecord.row)
      .empty).items.map Prod.snd
    clients := entries.map Entry.row
    transactions := entries.flatMap Entry.transactions }

/-- The pages of a run by number, the funds of each. -/
abbrev RunPages := Dict ℕ (List FundRaw)

/-- The order `natural_key`, a text, puts the pages in. -/
def inTextOrder (pages : RunPages) : List (ℕ × List FundRaw) :=
  sortBy (fun page => toString page.1) pages.items

def flattenRun (parsing : Parsing) (ref : Day) (pages : RunPages) : FlattenResult :=
  let flat := (inTextOrder pages).map fun page => flattenPayload parsing ref page.2
  { funds := (combineFunds (flat.flatMap FlattenResult.funds) .empty).items.map Prod.snd
    clients := flat.flatMap FlattenResult.clients
    transactions := flat.flatMap FlattenResult.transactions }

end ClientEngagement.Transform
