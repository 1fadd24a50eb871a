import ClientEngagement.Transform.Features
import ClientEngagement.Transform.Upsert

/-!
# The tables of a run

The models `persist_result` (`transform/load.py`) writes to, how each is upserted, and the dictionaries of
their rows (`fundDict` to `featureDict`). A relationship has the columns of its `ClientRow` and those no
derivation reads (`RowColumns`); a transaction likewise (`PaymentColumns`).
-/

namespace ClientEngagement.Transform

/-- The columns of a `ClientRow` that no derivation reads; the code as `str` writes it. -/
structure RowColumns where
  clientCode : Option String := none
  clientName : Option String := none
  clientEmail : Option String := none
  clientPhone : Option String := none
  computedAt : Option String := none
  activityWindowFrom : Option Day := none
  activityWindowTo : Option Day := none
  faName : Option String := none
  faEmail : Option String := none

/-- The columns of a `TxnRow` that no derivation reads. -/
structure PaymentColumns where
  fundShortName : Option String := none
  unitPrice : Option ℚ := none
  feesIncurred : Option ℚ := none

/-! ## The values of the bands -/

def TxnType.value : TxnType → String
  | .purchase => "purchase"
  | .sale => "sale"

def RecencyBand.value : RecencyBand → String
  | .under1y => "Under 1y"
  | .from1to3y => "1 to 3y"
  | .from3to6y => "3 to 6y"
  | .over6y => "Over 6y"
  | .unknown => "Unknown"

def ValueBand.value : ValueBand → String
  | .low => "Low"
  | .medium => "Medium"
  | .high => "High"
  | .top => "Top"

def BalanceBand.value : BalanceBand → String
  | .nearlyEmpty => "nearly_empty"
  | .sliding => "sliding"
  | .worthSaving => "worth_saving"

def CadenceBand.value : CadenceBand → String
  | .none => "None"
  | .tight => "Tight"
  | .regular => "Regular"
  | .periodic => "Periodic"
  | .infrequent => "Infrequent"

def HoldBand.value : HoldBand → String
  | .under2m => "Under 2m"
  | .under6m => "Under 6m"
  | .stayedMonths => "Stayed months"
  | .stayedYears => "Stayed years"
  | .unknown => "Unknown"

def PurchaseDepth.value : PurchaseDepth → String
  | .none => "none"
  | .single => "single"
  | .few => "few"
  | .capped => "capped"

def TrendBand.value : TrendBand → String
  | .rising => "rising"
  | .flat => "flat"
  | .falling => "falling"
  | .unknown => "unknown"

def ExitReason.value : ExitReason → String
  | .clientSale => "client_sale"
  | .chargeSettled => "charge_settled"
  | .unknown => "unknown"

def FundType.value : FundType → String
  | .moneyMarket => "money_market"
  | .highYield => "high_yield"
  | .other => "other"

def PriorityTier.value : PriorityTier → String
  | .hotLeads => "hot_leads"
  | .lowDepositors => "low_depositors"
  | .gradualWithdrawers => "gradual_withdrawers"
  | .frequentWithdrawers => "frequent_withdrawers"
  | .oneTimeWithdrawers => "one_time_withdrawers"

/-! ## Dictionaries of rows -/

def fundDict (f : FundRow) : RowDict :=
  .ofList
    [("unit_fund_id", some (.int f.unitFundId)),
      ("unit_fund_name", f.unitFundName.map .text),
      ("inactive_client_count", f.inactiveClientCount.map fun count => .int count)]

def clientDict (c : ClientRow) (columns : RowColumns) (nFunds : ℕ) : RowDict :=
  .ofList
    [("client_id", some (.int c.clientId)),
      ("client_code", columns.clientCode.map .text),
      ("unit_fund_id", some (.int c.unitFundId)),
      ("balance", c.balance.map .float),
      ("n_purchases_returned", some (.int c.nPurchasesReturned)),
      ("n_sales_returned", some (.int c.nSalesReturned)),
      ("last_purchase_date", c.lastPurchaseDate.map .date),
      ("last_sale_date", c.lastSaleDate.map .date),
      ("total_purchase_amount", some (.float c.totalPurchaseAmount)),
      ("total_sale_amount", some (.float c.totalSaleAmount)),
      ("last_activity_date", c.lastActivityDate.map .date),
      ("days_since_last_activity", c.daysSinceLastActivity.map .int),
      ("computed_at", columns.computedAt.map .text),
      ("purchases_censored", some (.bool c.purchasesCensored)),
      ("n_funds", some (.int nFunds))]

def clientFundDict (c : ClientRow) (columns : RowColumns) (m : RelationshipMeasures) (isPrimary : Bool) :
    RowDict :=
  .ofList
    [("client_id", some (.int c.clientId)),
      ("unit_fund_id", some (.int c.unitFundId)),
      ("client_code", columns.clientCode.map .text),
      ("balance", c.balance.map .float),
      ("n_purchases", some (.int c.nPurchasesReturned)),
      ("n_sales", some (.int c.nSalesReturned)),
      ("last_purchase", c.lastPurchaseDate.map .date),
      ("last_sale", c.lastSaleDate.map .date),
      ("exit_date", c.lastActivityDate.map .date),
      ("days_cold", c.daysSinceLastActivity.map .int),
      ("observed_volume", some (.float c.totalPurchaseAmount)),
      ("purchases_censored", some (.bool c.purchasesCensored)),
      ("history_censored", some (.bool c.historyCensored)),
      ("is_primary_contact_row", some (.bool isPrimary)),
      ("computed_at", columns.computedAt.map .text),
      ("avg_ticket", m.avgTicket.map .float),
      ("max_ticket", m.maxTicket.map .float),
      ("rhythm_days", m.rhythmDays.map .float),
      ("first_purchase", m.firstPurchase.map .date),
      ("active_window_days", m.activeWindowDays.map .int),
      ("ticket_trend", m.ticketTrend.map .float),
      ("first_sale", m.firstSale.map .date),
      ("drawdown_days", m.drawdownDays.map .int),
      ("hold_days", m.holdDays.map .int),
      ("exit_type", m.exitType.map .text),
      ("has_extended_history", some (.bool c.hasExtendedHistory)),
      ("activity_window_from", columns.activityWindowFrom.map .date),
      ("activity_window_to", columns.activityWindowTo.map .date),
      ("fa_name", columns.faName.map .text),
      ("fa_email", columns.faEmail.map .text)]

/-- A transaction that has an id. -/
def txnDict (txnId : ℤ) (t : TxnRow) (columns : PaymentColumns) : RowDict :=
  .ofList
    [("txn_id", some (.int txnId)),
      ("txn_type", some (.text t.txnType.value)),
      ("client_id", some (.int t.clientId)),
      ("unit_fund_id", t.unitFundId.map .int),
      ("fund_short_name", columns.fundShortName.map .text),
      ("txn_date", t.date.map .date),
      ("amount", some (.float t.amount)),
      ("unit_price", columns.unitPrice.map .float),
      ("fees_incurred", columns.feesIncurred.map .float),
      ("sale_type", t.saleType.map .text)]

def vaultDict (c : ClientRow) (columns : RowColumns) (source phone : Option String) : RowDict :=
  .ofList
    [("client_id", some (.int c.clientId)),
      ("client_name", columns.clientName.map .text),
      ("contact_email", columns.clientEmail.map .text),
      ("contact_whatsapp", columns.clientPhone.map .text),
      ("contact_phone", phone.map .text),
      ("source", source.map .text)]

def featureDict (f : FeatureRow) : RowDict :=
  .ofList
    [("n_funds", some (.int f.nFunds)),
      ("recency_band", some (.text f.recencyBand.value)),
      ("value_band", some (.text f.valueBand.value)),
      ("balance_band", some (.text f.balanceBand.value)),
      ("has_balance", some (.bool f.hasBalance)),
      ("cadence_band", some (.text f.cadenceBand.value)),
      ("hold_band", some (.text f.holdBand.value)),
      ("purchase_depth", some (.text f.purchaseDepth.value)),
      ("trend_band", some (.text f.trendBand.value)),
      ("exit_reason", some (.text f.exitReason.value)),
      ("fund_type", some (.text f.fundType.value)),
      ("in_wave", some (.bool f.inWave)),
      ("has_depth", some (.bool f.hasDepth)),
      ("staged_exit", some (.bool f.stagedExit)),
      ("stale_contact", some (.bool f.staleContact)),
      ("newly_dormant", some (.bool f.newlyDormant)),
      ("holds_other_funds", some (.bool f.holdsOtherFunds)),
      ("never_funded", some (.bool f.neverFunded)),
      ("priority_tier", some (.text f.priorityTier.value)),
      ("high_value", some (.bool f.highValue)),
      ("client_id", some (.int f.clientId)),
      ("own_rhythm_days", f.ownRhythmDays.map .int),
      ("observed_volume", some (.int f.observedVolume)),
      ("purchases_censored", some (.bool f.purchasesCensored)),
      ("history_censored", some (.bool f.historyCensored))]

/-! ## Models and how they are upserted -/

/-- A column that may not be null and has no default. -/
def required (name : String) : Column := { name := name, nullable := false }

/-- A column that may not be null and has a constant as default. -/
def defaulted (name : String) (constant : Value) : Column :=
  { name := name, nullable := false, serverDefault := .value constant }

def updatedAt : Column := { name := "updated_at", nullable := false, serverDefault := .now }

/-- `Clients`. -/
def clients : Model where
  tablename := "clients"
  columns :=
    [required "client_id", { name := "client_code" }, required "unit_fund_id", { name := "balance" },
      required "n_purchases_returned", required "n_sales_returned",
      { name := "last_purchase_date" }, { name := "last_sale_date" },
      defaulted "total_purchase_amount" (.float 0), defaulted "total_sale_amount" (.float 0),
      { name := "last_activity_date" }, { name := "days_since_last_activity" }, { name := "computed_at" },
      defaulted "n_funds" (.int 1), defaulted "purchases_censored" (.bool false)]

/-- `ClientFund`. -/
def clientFund : Model where
  tablename := "client_fund"
  columns :=
    [required "client_id", required "unit_fund_id", { name := "client_code" }, { name := "balance" },
      required "n_purchases", required "n_sales", { name := "last_purchase" }, { name := "last_sale" },
      { name := "exit_date" }, { name := "days_cold" }, defaulted "observed_volume" (.float 0),
      defaulted "purchases_censored" (.bool false), defaulted "history_censored" (.bool false),
      defaulted "is_primary_contact_row" (.bool true), { name := "computed_at" },
      { name := "avg_ticket" }, { name := "max_ticket" }, { name := "rhythm_days" },
      { name := "first_purchase" }, { name := "active_window_days" }, { name := "ticket_trend" },
      { name := "first_sale" }, { name := "drawdown_days" }, { name := "hold_days" },
      { name := "exit_type" }, defaulted "has_extended_history" (.bool false),
      { name := "activity_window_from" }, { name := "activity_window_to" },
      { name := "fa_name" }, { name := "fa_email" }, updatedAt]

/-- `Transactions`. -/
def transactions : Model where
  tablename := "transactions"
  columns :=
    [required "txn_id", required "txn_type", required "client_id", { name := "unit_fund_id" },
      { name := "fund_short_name" }, { name := "txn_date" }, defaulted "amount" (.float 0),
      { name := "unit_price" }, { name := "fees_incurred" }, { name := "sale_type" }]

/-- `ClientFeatures`. -/
def clientFeatures : Model where
  tablename := "client_features"
  columns :=
    [required "client_id", { name := "own_rhythm_days" }, defaulted "observed_volume" (.int 0),
      defaulted "purchases_censored" (.bool false), defaulted "history_censored" (.bool false),
      defaulted "n_funds" (.int 1), defaulted "recency_band" (.text "Unknown"),
      defaulted "value_band" (.text "Low"), defaulted "balance_band" (.text "nearly_empty"),
      defaulted "has_balance" (.bool false), defaulted "cadence_band" (.text "None"),
      defaulted "hold_band" (.text "Unknown"), defaulted "purchase_depth" (.text "none"),
      defaulted "trend_band" (.text "unknown"), defaulted "exit_reason" (.text "unknown"),
      defaulted "fund_type" (.text "other"), defaulted "in_wave" (.bool false),
      defaulted "has_depth" (.bool false), defaulted "staged_exit" (.bool false),
      defaulted "stale_contact" (.bool false), defaulted "newly_dormant" (.bool false),
      defaulted "holds_other_funds" (.bool false), defaulted "never_funded" (.bool false),
      defaulted "priority_tier" (.text "one_time_withdrawers"),
      defaulted "active_book_auto_checkin" (.bool false), defaulted "high_value" (.bool false), updatedAt]

/-- How the clients are upserted (`_CLIENT_UPDATE`). -/
def clientsTarget : Target where
  model := clients
  key := ["client_id"]
  updateColumns :=
    ["client_code", "unit_fund_id", "balance", "n_purchases_returned", "n_sales_returned",
      "last_purchase_date", "last_sale_date", "total_purchase_amount", "total_sale_amount",
      "last_activity_date", "days_since_last_activity", "computed_at", "purchases_censored", "n_funds"]
  once := by decide

/-- How the relationships are upserted (`_CLIENT_FUND_UPDATE`). -/
def clientFundTarget : Target where
  model := clientFund
  key := ["client_id", "unit_fund_id"]
  updateColumns :=
    ["client_code", "balance", "n_purchases", "n_sales", "last_purchase", "last_sale", "exit_date",
      "days_cold", "observed_volume", "purchases_censored", "history_censored", "is_primary_contact_row",
      "computed_at", "avg_ticket", "max_ticket", "rhythm_days", "first_purchase", "active_window_days",
      "ticket_trend", "first_sale", "drawdown_days", "hold_days", "exit_type", "has_extended_history",
      "activity_window_from", "activity_window_to", "fa_name", "fa_email"]
  extraSet := ["updated_at"]
  once := by decide

/-- How the transactions are upserted (`_TXN_UPDATE`). -/
def transactionsTarget : Target where
  model := transactions
  key := ["txn_id"]
  updateColumns :=
    ["txn_type", "client_id", "unit_fund_id", "fund_short_name", "txn_date", "amount", "unit_price",
      "fees_incurred", "sale_type"]
  once := by decide

/-- How the features are upserted (`_FEATURE_UPDATE`). -/
def featuresTarget : Target where
  model := clientFeatures
  key := ["client_id"]
  updateColumns :=
    ["own_rhythm_days", "observed_volume", "purchases_censored", "history_censored", "n_funds",
      "recency_band", "value_band", "balance_band", "has_balance", "cadence_band", "hold_band",
      "purchase_depth", "trend_band", "exit_reason", "fund_type", "in_wave", "has_depth", "staged_exit",
      "stale_contact", "newly_dormant", "holds_other_funds", "never_funded", "priority_tier", "high_value"]
  extraSet := ["updated_at"]
  once := by decide

/-! ## What every row has -/

variable {stmt : OnConflict}

/-- A batch of the dictionaries of some things, each with its own key. -/
lemma OneBatch.of_map {α : Type*} {f : α → RowDict} {items : List α} (key : α → List Value)
    (columns : ∀ x y, (f x).keys = (f y).keys)
    (found : ∀ x, stmt.indexElements.map (fun name => (f x).get? name) =
      (key x).map fun value => some (some value))
    (nodup : (items.map key).Nodup) : OneBatch stmt (items.map f) where
  columns := by
    intro row mem row' mem' name
    obtain ⟨x, -, rfl⟩ := List.mem_map.mp mem
    obtain ⟨y, -, rfl⟩ := List.mem_map.mp mem'
    rw [columns x y]
  keyed := by
    intro row mem name indexed
    obtain ⟨x, -, rfl⟩ := List.mem_map.mp mem
    have listed : (f x).get? name ∈ (key x).map fun value => some (some value) := by
      rw [← found]
      exact List.mem_map_of_mem indexed
    obtain ⟨value, -, same⟩ := List.mem_map.mp listed
    exact (Dict.mem_keys_iff _).mpr ⟨some value, same.symm⟩
  distinct := by
    have values : ∀ x, (stmt.indexElements.map fun name => ((f x).get? name).join) =
        (key x).map some := by
      intro x
      have joined := congrArg (List.map Option.join) (found x)
      rw [List.map_map, List.map_map] at joined
      exact joined
    have composed : ((fun row : RowDict => stmt.indexElements.map fun name => (row.get? name).join) ∘ f) =
        List.map some ∘ key := funext values
    rw [List.map_map, composed, ← List.map_map]
    exact nodup.map (List.map_injective_iff.mpr (Option.some_injective _))

variable (c c' : ClientRow) (columns columns' : RowColumns) (n n' : ℕ) (m m' : RelationshipMeasures)
  (isPrimary isPrimary' : Bool) (f f' : FundRow) (txnId txnId' : ℤ) (t t' : TxnRow)
  (payment payment' : PaymentColumns) (source phone phone' : Option String) (feature feature' : FeatureRow)

lemma keys_fundDict : (fundDict f).keys = (fundDict f').keys := by
  rw [fundDict, fundDict, Dict.keys_ofList (by simp), Dict.keys_ofList (by simp)]
  rfl

lemma keys_clientDict : (clientDict c columns n).keys = (clientDict c' columns' n').keys := by
  rw [clientDict, clientDict, Dict.keys_ofList (by simp), Dict.keys_ofList (by simp)]
  rfl

lemma keys_clientFundDict :
    (clientFundDict c columns m isPrimary).keys = (clientFundDict c' columns' m' isPrimary').keys := by
  rw [clientFundDict, clientFundDict, Dict.keys_ofList (by simp), Dict.keys_ofList (by simp)]
  rfl

lemma keys_txnDict : (txnDict txnId t payment).keys = (txnDict txnId' t' payment').keys := by
  rw [txnDict, txnDict, Dict.keys_ofList (by simp), Dict.keys_ofList (by simp)]
  rfl

lemma keys_vaultDict : (vaultDict c columns source phone).keys = (vaultDict c' columns' source phone').keys := by
  rw [vaultDict, vaultDict, Dict.keys_ofList (by simp), Dict.keys_ofList (by simp)]
  rfl

lemma keys_featureDict : (featureDict feature).keys = (featureDict feature').keys := by
  rw [featureDict, featureDict, Dict.keys_ofList (by simp), Dict.keys_ofList (by simp)]
  rfl

lemma key_fundDict : fundsTarget.key.map (fun name => (fundDict f).get? name) =
    [some (some (.int f.unitFundId))] := by
  simp [fundsTarget, fundDict, Dict.ofList]

lemma key_clientDict : clientsTarget.key.map (fun name => (clientDict c columns n).get? name) =
    [some (some (.int c.clientId))] := by
  simp [clientsTarget, clientDict, Dict.ofList]

lemma key_clientFundDict :
    clientFundTarget.key.map (fun name => (clientFundDict c columns m isPrimary).get? name) =
      [some (some (.int c.clientId)), some (some (.int c.unitFundId))] := by
  simp [clientFundTarget, clientFundDict, Dict.ofList]

lemma key_txnDict : transactionsTarget.key.map (fun name => (txnDict txnId t payment).get? name) =
    [some (some (.int txnId))] := by
  simp [transactionsTarget, txnDict, Dict.ofList]

lemma key_vaultDict :
    vaultStatement.indexElements.map (fun name => (vaultDict c columns source phone).get? name) =
      [some (some (.int c.clientId))] := by
  simp [vaultStatement, vaultDict, Dict.ofList]

lemma key_featureDict : featuresTarget.key.map (fun name => (featureDict feature).get? name) =
    [some (some (.int feature.clientId))] := by
  simp [featuresTarget, featureDict, Dict.ofList]

/-! What may not be null is given or has a default; of a fund, its name may be missing. -/

lemma violates_fundDict : funds.violates (funds.proposed 0 (fundDict f)) = f.unitFundName.isNone := by
  simp [Model.violates, funds, Model.proposed, Model.default, ServerDefault.eval, fundDict, Dict.ofList]

lemma violates_clientDict : clients.violates (clients.proposed 0 (clientDict c columns n)) = false := by
  simp [Model.violates, clients, required, defaulted, Model.proposed, clientDict, Dict.ofList]

lemma violates_clientFundDict :
    clientFund.violates (clientFund.proposed 0 (clientFundDict c columns m isPrimary)) = false := by
  simp [Model.violates, clientFund, required, defaulted, updatedAt, Model.proposed, Model.default,
    ServerDefault.eval, clientFundDict, Dict.ofList]

lemma violates_txnDict :
    transactions.violates (transactions.proposed 0 (txnDict txnId t payment)) = false := by
  simp [Model.violates, transactions, required, defaulted, Model.proposed, txnDict, Dict.ofList]

lemma violates_vaultDict :
    piiVault.violates (piiVault.proposed 0 (vaultDict c columns source phone)) = false := by
  simp [Model.violates, piiVault, Model.proposed, Model.default, ServerDefault.eval, vaultDict, Dict.ofList]

lemma violates_featureDict :
    clientFeatures.violates (clientFeatures.proposed 0 (featureDict feature)) = false := by
  simp [Model.violates, clientFeatures, required, defaulted, updatedAt, Model.proposed, Model.default,
    ServerDefault.eval, featureDict, Dict.ofList]

/-! A relationship carries the clock of the transaction it was written in. -/

lemma proposed_updatedAt (now : ℤ) :
    clientFund.proposed now (clientFundDict c columns m isPrimary) "updated_at" = some (.timestamp now) := by
  simp [Model.proposed, Model.default, clientFund, required, defaulted, updatedAt, ServerDefault.eval,
    clientFundDict, Dict.ofList]

lemma set_updatedAt : clientFundTarget.statement.set.lookup "updated_at" = some .now := by
  simp [Target.statement, clientFundTarget, List.lookup]

/-! The clock is stored in `updated_at` only. -/

lemma stamps_funds (name : String) (stamped : fundsTarget.statement.stamps name) : name = "updated_at" := by
  simpa [OnConflict.stamps, Target.statement, fundsTarget, funds, eq_comm] using stamped

lemma stamps_clients (name : String) : ¬ clientsTarget.statement.stamps name := by
  simp [OnConflict.stamps, Target.statement, clientsTarget, clients, required, defaulted]

lemma stamps_clientFund (name : String) (stamped : clientFundTarget.statement.stamps name) :
    name = "updated_at" := by
  simpa [OnConflict.stamps, Target.statement, clientFundTarget, clientFund, required, defaulted, updatedAt,
    eq_comm] using stamped

lemma stamps_transactions (name : String) : ¬ transactionsTarget.statement.stamps name := by
  simp [OnConflict.stamps, Target.statement, transactionsTarget, transactions, required, defaulted]

lemma stamps_vault (name : String) (stamped : vaultStatement.stamps name) : name = "updated_at" := by
  simpa [OnConflict.stamps, vaultStatement, piiVault, eq_comm] using stamped

lemma stamps_features (name : String) (stamped : featuresTarget.statement.stamps name) :
    name = "updated_at" := by
  simpa [OnConflict.stamps, Target.statement, featuresTarget, clientFeatures, required, defaulted, updatedAt,
    eq_comm] using stamped

end ClientEngagement.Transform
