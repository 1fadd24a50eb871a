import ClientEngagement.Transform.Repeats

/-!
# A population over pages

A population is the client records of its funds, each pair of client and fund once; a `Split` puts it on
pages, where a fund may span several and the pages come in any order. Measures and features are the same
for every split (`sameDerived_of_splits`) where no two transactions of one client, fund, type and day come
from two records (`TiesApart`): what falls on one day keeps the order of the pages.
-/

namespace ClientEngagement.Transform

/-- A client's record under the fund it is listed in. -/
structure Placed where
  fundId : FundId
  fundName : Option String
  clientRaw : ClientRaw

/-- The row and transactions of a valid record. -/
def Placed.entry? (parsing : Parsing) (ref : Day) (placed : Placed) : Option Entry :=
  placed.clientRaw.record.map fun client =>
    flattenClient parsing ref placed.fundId client placed.clientRaw

def Placed.pair? (placed : Placed) : Option Pair :=
  placed.clientRaw.record.map fun client => (client.clientId, placed.fundId)

def placedOfFund (fundRaw : FundRaw) : List Placed :=
  match fundRaw.record with
  | none => []
  | some fund => fundRaw.clients.map fun clientRaw => ⟨fund.unitFundId, fund.unitFundName, clientRaw⟩

/-- The client records of a list of pages. -/
def placedOn (pages : List (ℕ × List FundRaw)) : List Placed :=
  pages.flatMap fun page => page.2.flatMap placedOfFund

/-- Each pair of client and fund occurs once. -/
structure Population where
  placed : List Placed
  once : (placed.filterMap Placed.pair?).Nodup

/-- The population on pages; a fund has the name it has in the population wherever it appears. -/
structure Split (population : Population) where
  pages : RunPages
  places : (placedOn pages.items).Perm population.placed
  named : ∀ page ∈ pages.items, ∀ fundRaw ∈ page.2, ∀ fund, fundRaw.record = some fund →
    ∀ placed ∈ population.placed, placed.fundId = fund.unitFundId →
      fund.unitFundName = placed.fundName

/-- What two records say of one client and fund never falls on one day. -/
def TiesApart (parsing : Parsing) (ref : Day) (population : Population) : Prop :=
  ∀ p ∈ population.placed, ∀ q ∈ population.placed, ∀ e f,
    p.entry? parsing ref = some e → q.entry? parsing ref = some f →
    ∀ t ∈ e.transactions, ∀ u ∈ f.transactions, ∀ fundId,
      t.unitFundId = some fundId → u.unitFundId = some fundId →
      (t.clientId, fundId) ∈ population.placed.filterMap Placed.pair? →
      t.txnType = u.txnType → t.clientId = u.clientId → t.date.isSome → t.date = u.date →
      e.pair = f.pair

/-! ## The funds of a run -/

variable {parsing : Parsing} {ref : Day} {fundId : FundId} {name : Option String}

/-- Every fund combined so far is under its own id, the one looked at with its name. -/
def NamedSo (fundId : FundId) (name : Option String) (funds : Dict FundId FundRow) : Prop :=
  ∀ k row, funds.get? k = some row → row.unitFundId = k ∧ (k = fundId → row.unitFundName = name)

lemma combineFund_named {existing : Option FundRow} {incoming : FundRow}
    (kept : ∀ row, existing = some row → row.unitFundId = incoming.unitFundId ∧
      (incoming.unitFundId = fundId → row.unitFundName = name))
    (comes : incoming.unitFundId = fundId → incoming.unitFundName = name) :
    (combineFund existing incoming).unitFundId = incoming.unitFundId ∧
      (incoming.unitFundId = fundId → (combineFund existing incoming).unitFundName = name) := by
  cases existing with
  | none => exact ⟨rfl, comes⟩
  | some existing =>
    obtain ⟨id, same⟩ := kept existing rfl
    refine ⟨id, fun mine => ?_⟩
    rw [combineFund]
    dsimp only
    split
    · exact comes mine
    · exact comes mine
    · rename_i given
      rw [← given]
      exact same mine

lemma NamedSo.combine {incoming : List FundRow} {funds : Dict FundId FundRow}
    (named : NamedSo fundId name funds)
    (comes : ∀ fund ∈ incoming, fund.unitFundId = fundId → fund.unitFundName = name) :
    NamedSo fundId name (combineFunds incoming funds) := by
  induction incoming generalizing funds with
  | nil => exact named
  | cons fund incoming ih =>
    apply ih
    · intro k row found
      rw [Dict.get?_set] at found
      split at found
      · rename_i same
        subst same
        cases found
        exact combineFund_named (fun row existing => named _ row existing)
          (comes fund List.mem_cons_self)
      · exact named k row found
    · exact fun fund mem => comes fund (List.mem_cons_of_mem _ mem)

lemma get?_combineFunds_isSome {incoming : List FundRow} {funds : Dict FundId FundRow}
    (known : (funds.get? fundId).isSome ∨ ∃ fund ∈ incoming, fund.unitFundId = fundId) :
    ((combineFunds incoming funds).get? fundId).isSome := by
  induction incoming generalizing funds with
  | nil =>
    rcases known with known | ⟨fund, mem, -⟩
    · exact known
    · cases mem
  | cons fund incoming ih =>
    apply ih
    rw [Dict.get?_set]
    by_cases same : fundId = fund.unitFundId
    · rw [if_pos same]
      exact .inl rfl
    · rw [if_neg same]
      rcases known with known | ⟨other, mem, mine⟩
      · exact .inl known
      · rcases List.mem_cons.mp mem with rfl | mem
        · exact absurd mine.symm same
        · exact .inr ⟨other, mem, mine⟩

/-- Funds that agree on a name are combined to one of that name. -/
lemma combineFunds_rows {incoming : List FundRow}
    (comes : ∀ fund ∈ incoming, fund.unitFundId = fundId → fund.unitFundName = name) :
    (∀ row ∈ (combineFunds incoming .empty).items.map Prod.snd, row.unitFundId = fundId →
      row.unitFundName = name) ∧
    ((∃ fund ∈ incoming, fund.unitFundId = fundId) →
      ∃ row ∈ (combineFunds incoming .empty).items.map Prod.snd, row.unitFundId = fundId) := by
  have named : NamedSo fundId name (combineFunds incoming .empty) :=
    NamedSo.combine (fun _ _ found => by cases found) comes
  constructor
  · intro row mem mine
    obtain ⟨⟨k, row⟩, listed, rfl⟩ := List.mem_map.mp mem
    obtain ⟨id, same⟩ := named k row ((Dict.mem_items_iff _).mp listed)
    exact same (id.symm.trans mine)
  · intro some
    obtain ⟨row, found⟩ := Option.isSome_iff_exists.mp
      (@get?_combineFunds_isSome fundId incoming .empty (.inr some))
    exact ⟨row, List.mem_map.mpr ⟨(fundId, row), (Dict.mem_items_iff _).mpr found, rfl⟩,
      (named fundId row found).1⟩

/-! ## The records of a run -/

lemma placedOfFund_entries {fundRaw : FundRaw} :
    (match fundRaw.record with
      | none => []
      | some fund => entriesOfClients parsing ref fund.unitFundId fundRaw.clients) =
      (placedOfFund fundRaw).filterMap (Placed.entry? parsing ref) := by
  rw [placedOfFund]
  cases fundRaw.record with
  | none => rfl
  | some fund =>
    dsimp only
    rw [List.filterMap_map]
    rfl

lemma entriesOfPage_eq (page : List FundRaw) : entriesOfPage parsing ref page =
    (page.flatMap placedOfFund).filterMap (Placed.entry? parsing ref) := by
  rw [entriesOfPage, List.filterMap_flatMap]
  exact List.flatMap_congr fun fundRaw _ => placedOfFund_entries

/-- The entries of a run, in the order its pages are read. -/
def entriesOfRun (parsing : Parsing) (ref : Day) (pages : RunPages) : List Entry :=
  (placedOn (inTextOrder pages)).filterMap (Placed.entry? parsing ref)

variable {pages : RunPages} {pair : Pair}

lemma entriesOfRun_eq : entriesOfRun parsing ref pages =
    (inTextOrder pages).flatMap fun page => entriesOfPage parsing ref page.2 := by
  rw [entriesOfRun, placedOn, List.filterMap_flatMap]
  exact List.flatMap_congr fun page _ => (entriesOfPage_eq page.2).symm

lemma clients_entriesOfRun : (flattenRun parsing ref pages).clients =
    (entriesOfRun parsing ref pages).map Entry.row := by
  rw [entriesOfRun_eq, List.map_flatMap]
  exact List.flatMap_map _ _ _

lemma transactions_entriesOfRun : (flattenRun parsing ref pages).transactions =
    (entriesOfRun parsing ref pages).flatMap Entry.transactions := by
  rw [entriesOfRun_eq, List.flatMap_assoc]
  exact List.flatMap_map _ _ _

lemma pair_of_entry (placed : Placed) :
    (placed.entry? parsing ref).map Entry.pair = placed.pair? := by
  rw [Placed.entry?, Placed.pair?, Option.map_map]
  rfl

variable {population : Population}

lemma Split.perm (split : Split population) :
    (placedOn (inTextOrder split.pages)).Perm population.placed :=
  ((sortBy_perm _ _).flatMap_right _).trans split.places

lemma Split.entries_perm (a b : Split population) :
    (entriesOfRun parsing ref a.pages).Perm (entriesOfRun parsing ref b.pages) :=
  (a.perm.trans b.perm.symm).filterMap _

lemma Split.mem_entries (split : Split population) {entry : Entry} :
    entry ∈ entriesOfRun parsing ref split.pages ↔
      ∃ placed ∈ population.placed, placed.entry? parsing ref = some entry := by
  rw [entriesOfRun, List.mem_filterMap]
  exact exists_congr fun placed => and_congr_left fun _ => split.perm.mem_iff

lemma Split.pairs_nodup (split : Split population) :
    ((entriesOfRun parsing ref split.pages).map Entry.pair).Nodup := by
  rw [entriesOfRun, List.map_filterMap]
  have pairs : (fun placed : Placed => (placed.entry? parsing ref).map Entry.pair) = Placed.pair? :=
    funext pair_of_entry
  rw [pairs]
  exact (split.perm.filterMap _).nodup_iff.mpr population.once

/-! ## What every split reads -/

/-- At most one member of a list and its rearrangement is kept, so it is kept the same way. -/
lemma filter_eq_of_perm {α : Type*} {l l' : List α} (perm : l.Perm l') (nodup : l.Nodup) (p : α → Bool)
    (one : ∀ a ∈ l, ∀ b ∈ l, p a → p b → a = b) : l.filter p = l'.filter p := by
  have single {l : List α} (nodup : l.Nodup) (one : ∀ a ∈ l, ∀ b ∈ l, p a → p b → a = b) :
      (l.filter p).Pairwise fun _ _ => False := by
    have apart : (l.filter p).Pairwise (· ≠ ·) := nodup.filter p
    refine apart.imp_of_mem fun mem mem' other => ?_
    obtain ⟨mem, kept⟩ := List.mem_filter.mp mem
    obtain ⟨mem', kept'⟩ := List.mem_filter.mp mem'
    exact other (one _ mem _ mem' kept kept')
  refine List.Perm.eq_of_pairwise (fun _ _ _ _ never => never.elim) (single nodup one)
    (single (perm.nodup_iff.mp nodup) fun a mem b mem' => ?_) (perm.filter p)
  exact one a (perm.mem_iff.mpr mem) b (perm.mem_iff.mpr mem')

/-- At most one member of a list and its rearrangement contributes, so they contribute the same. -/
lemma flatMap_eq_of_perm {α β : Type*} {l l' : List α} (perm : l.Perm l') (nodup : l.Nodup)
    (g : α → List β) (one : ∀ a ∈ l, ∀ b ∈ l, g a ≠ [] → g b ≠ [] → a = b) :
    l.flatMap g = l'.flatMap g := by
  have kept (l : List α) : l.flatMap g = (l.filter fun a => !(g a).isEmpty).flatMap g := by
    induction l with
    | nil => rfl
    | cons a l ih =>
      rw [List.flatMap_cons, List.filter_cons, ih]
      cases gives : g a with
      | nil => rfl
      | cons b rest =>
        rw [List.isEmpty_cons, Bool.not_false, if_pos rfl, List.flatMap_cons, gives]
  have contributes {a : α} (kept : (!(g a).isEmpty) = true) : g a ≠ [] := by
    intro none
    rw [none] at kept
    cases kept
  rw [kept, kept l', filter_eq_of_perm perm nodup (fun a => !(g a).isEmpty) fun a mem b mem' kept kept' =>
    one a mem b mem' (contributes kept) (contributes kept')]

lemma Split.fundName_eq (split : Split population) {placed : Placed}
    (mem : placed ∈ population.placed) :
    fundName (flattenRun parsing ref split.pages) placed.fundId = placed.fundName := by
  have pages (page : ℕ × List FundRaw) (listed : page ∈ inTextOrder split.pages) :
      (∀ row ∈ (flattenPayload parsing ref page.2).funds, row.unitFundId = placed.fundId →
        row.unitFundName = placed.fundName) ∧
      ((∃ fund ∈ page.2.filterMap (fun fundRaw => fundRaw.record.map FundRecord.row),
          fund.unitFundId = placed.fundId) →
        ∃ row ∈ (flattenPayload parsing ref page.2).funds, row.unitFundId = placed.fundId) := by
    apply combineFunds_rows
    intro fund listedFund mine
    obtain ⟨fundRaw, inPage, made⟩ := List.mem_filterMap.mp listedFund
    obtain ⟨record, valid, rfl⟩ := Option.map_eq_some_iff.mp made
    exact split.named page (mem_sortBy.mp listed) fundRaw inPage record valid placed mem mine.symm
  obtain ⟨named, known⟩ := @combineFunds_rows placed.fundId placed.fundName
    (((inTextOrder split.pages).map fun page =>
      flattenPayload parsing ref page.2).flatMap FlattenResult.funds) (by
      intro fund listed mine
      obtain ⟨flat, isPage, listed⟩ := List.mem_flatMap.mp listed
      obtain ⟨page, inRun, rfl⟩ := List.mem_map.mp isPage
      exact (pages page inRun).1 fund listed mine)
  obtain ⟨page, inRun, listed⟩ := List.mem_flatMap.mp (split.perm.mem_iff.mpr mem)
  obtain ⟨fundRaw, inPage, listed⟩ := List.mem_flatMap.mp listed
  have valid : ∃ fund, fundRaw.record = some fund ∧ fund.unitFundId = placed.fundId := by
    rw [placedOfFund] at listed
    cases record : fundRaw.record with
    | none =>
      rw [record] at listed
      cases listed
    | some fund =>
      rw [record] at listed
      obtain ⟨_, _, rfl⟩ := List.mem_map.mp listed
      exact ⟨fund, rfl, rfl⟩
  obtain ⟨fund, record, mine⟩ := valid
  obtain ⟨row, inFunds, mine⟩ := (pages page inRun).2 ⟨fund.row, List.mem_filterMap.mpr
    ⟨fundRaw, inPage, by rw [record]; rfl⟩, mine⟩
  obtain ⟨row, inFunds, mine⟩ := known ⟨row, List.mem_flatMap.mpr
    ⟨_, List.mem_map.mpr ⟨page, inRun, rfl⟩, inFunds⟩, mine⟩
  have looked : (((flattenRun parsing ref split.pages).funds.map fun fund =>
      (fund.unitFundId, fund.unitFundName)).foldl (fun d b => d.set b.1 b.2) Dict.empty).get?
        placed.fundId = some placed.fundName := by
    apply Dict.get?_foldl_set_of_agree
    · exact List.mem_map.mpr ⟨row, inFunds, Prod.ext mine (named row inFunds mine)⟩
    · intro binding bound key
      obtain ⟨other, inFunds, rfl⟩ := List.mem_map.mp bound
      exact named other inFunds key
  rw [fundName, Dict.ofList, looked]
  rfl

/-- The dated transactions of one entry, of a type and a pair. -/
def datedOf (txnType : TxnType) (pair : Pair) (entry : Entry) : List (Day × TxnRow) :=
  entry.transactions.filterMap fun txn =>
    txn.date.bind fun date =>
      if txn.txnType = txnType ∧ txn.clientId = pair.1 ∧ txn.unitFundId = some pair.2 then
        some (date, txn)
      else none

lemma datedTxns_flatMap (txnType : TxnType) :
    datedTxns (flattenRun parsing ref pages) txnType pair =
      (entriesOfRun parsing ref pages).flatMap (datedOf txnType pair) := by
  rw [datedTxns, transactions_entriesOfRun, List.filterMap_flatMap]
  rfl

lemma mem_datedOf {txnType : TxnType} {entry : Entry} {dated : Day × TxnRow}
    (mem : dated ∈ datedOf txnType pair entry) : dated.2 ∈ entry.transactions ∧
      dated.2.date = some dated.1 ∧ dated.2.txnType = txnType ∧ dated.2.clientId = pair.1 ∧
      dated.2.unitFundId = some pair.2 := by
  obtain ⟨txn, listed, made⟩ := List.mem_filterMap.mp mem
  obtain ⟨date, isDate, made⟩ := Option.bind_eq_some_iff.mp made
  split at made
  · rename_i mine
    cases made
    exact ⟨listed, isDate, mine⟩
  · cases made

lemma Split.dated_eq (apart : TiesApart parsing ref population) (a b : Split population)
    (measured : pair ∈ population.placed.filterMap Placed.pair?) (txnType : TxnType) :
    sortBy Prod.fst (datedTxns (flattenRun parsing ref a.pages) txnType pair) =
      sortBy Prod.fst (datedTxns (flattenRun parsing ref b.pages) txnType pair) := by
  apply sortBy_eq_of_filter
  intro day
  rw [datedTxns_flatMap, datedTxns_flatMap, List.filter_flatMap, List.filter_flatMap]
  have nodup := List.Nodup.of_map _ (@Split.pairs_nodup parsing ref population a)
  refine flatMap_eq_of_perm (a.entries_perm b) nodup _ fun e mem f mem' some some' => ?_
  obtain ⟨t, inE⟩ := List.exists_mem_of_ne_nil _ some
  obtain ⟨u, inF⟩ := List.exists_mem_of_ne_nil _ some'
  obtain ⟨inE, onDay⟩ := List.mem_filter.mp inE
  obtain ⟨inF, onDay'⟩ := List.mem_filter.mp inF
  obtain ⟨listed, date, type, client, fund⟩ := mem_datedOf inE
  obtain ⟨listed', date', type', client', fund'⟩ := mem_datedOf inF
  obtain ⟨p, inP, isE⟩ := a.mem_entries.mp mem
  obtain ⟨q, inQ, isF⟩ := a.mem_entries.mp mem'
  have same : e.pair = f.pair := by
    refine apart p inP q inQ e f isE isF t.2 listed u.2 listed' pair.2 fund fund' ?_
      (type.trans type'.symm) (client.trans client'.symm) (by rw [date]; rfl) ?_
    · rw [client]
      exact measured
    · rw [date, date', of_decide_eq_true onDay, of_decide_eq_true onDay']
  exact List.inj_on_of_nodup_map a.pairs_nodup mem mem' same

lemma Split.transactions_perm (a b : Split population) :
    (flattenRun parsing ref a.pages).transactions.Perm (flattenRun parsing ref b.pages).transactions := by
  rw [transactions_entriesOfRun, transactions_entriesOfRun]
  exact (a.entries_perm b).flatMap_right _

lemma Split.lastRow_eq (a b : Split population) :
    lastRow (flattenRun parsing ref a.pages).clients pair =
      lastRow (flattenRun parsing ref b.pages).clients pair := by
  have nodup := @Split.pairs_nodup parsing ref population a
  have pairs : (entriesOfRun parsing ref a.pages).map Entry.pair =
      ((entriesOfRun parsing ref a.pages).map Entry.row).map ClientRow.pair := by
    rw [List.map_map]
    rfl
  rw [pairs] at nodup
  rw [lastRow, lastRow, clients_entriesOfRun, clients_entriesOfRun,
    filter_eq_of_perm ((a.entries_perm b).map Entry.row) nodup.of_map _]
  intro row mem other mem' mine mine'
  exact List.inj_on_of_nodup_map nodup mem mem'
    ((of_decide_eq_true mine).trans (of_decide_eq_true mine').symm)

/-- The measures and the features of a population are the same however it is split into pages, where no
    two records tie on a day. -/
theorem sameDerived_of_splits {derivation : Derivation} (apart : TiesApart parsing ref population)
    (a b : Split population) :
    SameDerived derivation (flattenRun parsing ref a.pages) (flattenRun parsing ref b.pages) := by
  have placedRow {row : ClientRow} (mem : row ∈ (flattenRun parsing ref a.pages).clients) :
      ∃ placed ∈ population.placed, placed.fundId = row.unitFundId ∧ placed.pair? = some row.pair := by
    rw [clients_entriesOfRun] at mem
    obtain ⟨entry, inRun, rfl⟩ := List.mem_map.mp mem
    obtain ⟨placed, listed, made⟩ := a.mem_entries.mp inRun
    refine ⟨placed, listed, ?_, ?_⟩
    · obtain ⟨client, _, rfl⟩ := Option.map_eq_some_iff.mp made
      rfl
    · rw [← @pair_of_entry parsing ref placed, made]
      rfl
  apply sameDerived_of_groups
  refine ⟨fun pair => a.lastRow_eq b, fun row mem => ?_, fun row mem txnType => ?_,
    fun clientId => ?_, fun clientId => ?_⟩
  · obtain ⟨placed, listed, fund, -⟩ := placedRow mem
    rw [← fund, a.fundName_eq listed, b.fundName_eq listed]
  · obtain ⟨placed, listed, -, isPair⟩ := placedRow mem
    exact a.dated_eq apart b (List.mem_filterMap.mpr ⟨placed, listed, isPair⟩) txnType
  · exact ((a.transactions_perm b).filter _).filterMap _
  · exact ((a.transactions_perm b).filter _).filterMap _

/-- Records whose transactions name their own fund do not tie. -/
lemma tiesApart_of_own (own : ∀ p ∈ population.placed, ∀ e, p.entry? parsing ref = some e →
    ∀ t ∈ e.transactions, t.unitFundId = some p.fundId) : TiesApart parsing ref population := by
  have pairOf {p : Placed} {e : Entry} (made : p.entry? parsing ref = some e) :
      e.pair.2 = p.fundId ∧ ∀ t ∈ e.transactions, t.clientId = e.pair.1 := by
    obtain ⟨client, _, rfl⟩ := Option.map_eq_some_iff.mp made
    refine ⟨rfl, fun t mem => ?_⟩
    rcases List.mem_append.mp mem with mem | mem
    · obtain ⟨_, _, rfl⟩ := List.mem_map.mp mem
      rfl
    · obtain ⟨_, _, rfl⟩ := List.mem_map.mp mem
      rfl
  intro p inP q inQ e f isE isF t inE u inF fundId fund fund' _ _ client _ _
  rw [own p inP e isE t inE] at fund
  rw [own q inQ f isF u inF] at fund'
  obtain ⟨underFund, ofClient⟩ := pairOf isE
  obtain ⟨underFund', ofClient'⟩ := pairOf isF
  apply Prod.ext
  · rw [← ofClient t inE, ← ofClient' u inF, client]
  · rw [underFund, underFund', Option.some.inj fund, Option.some.inj fund']

/-! ## A client in two funds -/

/-- The client in a fund, with its sales. -/
def sellerIn (fundId : FundId) (sales : List RawTxn) : FundRaw where
  record := some { unitFundId := fundId }
  clients := [{ record := some { clientId := 5 }, last2Sales := sales }]

def soldUnits : RawTxn :=
  { id := some 1, date := .str "2024-01-05", number := .str "100", saleType := some "unit_sale" }

/-- A sale of fund 7. -/
def settledCharge : RawTxn :=
  { soldUnits with id := some 2, unitFundId := some (some 7), saleType := some "interest" }

def sellerPopulation (otherSales : List RawTxn) : Population where
  placed := [⟨7, none, { record := some { clientId := 5 }, last2Sales := [soldUnits] }⟩,
    ⟨8, none, { record := some { clientId := 5 }, last2Sales := otherSales }⟩]
  once := by
    show [((5, 7) : Pair), (5, 8)].Nodup
    decide

/-- The two funds on two pages, in either order. -/
def sellerSplit (otherSales : List RawTxn) (swapped : Bool) : Split (sellerPopulation otherSales) where
  pages :=
    if swapped then .ofList [(1, [sellerIn 8 otherSales]), (2, [sellerIn 7 [soldUnits]])]
    else .ofList [(1, [sellerIn 7 [soldUnits]]), (2, [sellerIn 8 otherSales])]
  places := by
    cases swapped with
    | true => exact .swap ..
    | false => exact .refl _
  named := by
    have unnamed {fundId : FundId} {sales : List RawTxn} {page : ℕ × List FundRaw} {fundRaw : FundRaw}
        {fund : FundRecord} (only : page.2 = [sellerIn fundId sales]) (mem : fundRaw ∈ page.2)
        (record : fundRaw.record = some fund) : fund.unitFundName = none := by
      rw [only] at mem
      cases List.mem_singleton.mp mem
      cases record
      rfl
    intro page mem fundRaw inPage fund record placed inPlaced _
    have none : placed.fundName = none := by
      rcases List.mem_pair.mp inPlaced with rfl | rfl <;> rfl
    rw [none]
    cases swapped with
    | true =>
      rcases List.mem_pair.mp mem with rfl | rfl
      · exact unnamed rfl inPage record
      · exact unnamed rfl inPage record
    | false =>
      rcases List.mem_pair.mp mem with rfl | rfl
      · exact unnamed rfl inPage record
      · exact unnamed rfl inPage record

/-- Each fund has its own sales. -/
theorem sameDerived_of_splits_sample :
    SameDerived sampleDerivation
      (flattenRun sampleParsing 19800 (sellerSplit [{ settledCharge with unitFundId := none }] false).pages)
      (flattenRun sampleParsing 19800 (sellerSplit [{ settledCharge with unitFundId := none }] true).pages) := by
  apply sameDerived_of_splits
  apply tiesApart_of_own
  intro p mem e made
  rcases List.mem_pair.mp mem with rfl | rfl
  · cases made
    decide +kernel
  · cases made
    decide +kernel

/-- A sale that names the other fund falls on the day of that fund's own sale, and the page read last says
    how the client left. -/
theorem split_changes_the_exit :
    ¬ ∀ (population : Population) (a b : Split population),
      SameDerived sampleDerivation (flattenRun sampleParsing 19800 a.pages)
        (flattenRun sampleParsing 19800 b.pages) := by
  intro all
  have same := all _ (sellerSplit [settledCharge] false) (sellerSplit [settledCharge] true)
  have exits := congrArg (Option.map RelationshipMeasures.exitType) (same.measures (5, 7))
  have inOrder : ((deriveRelationshipMeasures sampleDerivation (flattenRun sampleParsing 19800
      (sellerSplit [settledCharge] false).pages)).get? (5, 7)).map RelationshipMeasures.exitType =
        some (some "interest") := by decide +kernel
  have swapped : ((deriveRelationshipMeasures sampleDerivation (flattenRun sampleParsing 19800
      (sellerSplit [settledCharge] true).pages)).get? (5, 7)).map RelationshipMeasures.exitType =
        some (some "unit_sale") := by decide +kernel
  rw [inOrder, swapped] at exits
  simp at exits

end ClientEngagement.Transform
