import ClientEngagement.Transform.Features

/-!
# Pairs repeated across pages

A source that shifts between two requests repeats some clients of a fund on a later page. `keepLast` is the
run in which every pair has only its occurrence on the last page, in the order of the page numbers. The
derivations keep the last row of a pair too, but in the text order of the page numbers, in which page 10
comes before page 2, and they count the transactions of every occurrence. `repeated_counts_once` says when
the run derives what `keepLast` derives.
-/

namespace ClientEngagement.Transform

/-! ## Only the last occurrence -/

def clientPair (fundId : FundId) (clientRaw : ClientRaw) : Option Pair :=
  clientRaw.record.map fun client => (client.clientId, fundId)

def pairsOfClients (fundId : FundId) (clients : List ClientRaw) : List Pair :=
  clients.filterMap (clientPair fundId)

def pairsOfPage (page : List FundRaw) : List Pair :=
  page.flatMap fun fundRaw =>
    match fundRaw.record with
    | none => []
    | some fund => pairsOfClients fund.unitFundId fundRaw.clients

/-- Drops the clients whose pair comes later in the list, or is in `later`. -/
def keepClients (fundId : FundId) (later : List Pair) : List ClientRaw → List ClientRaw
  | [] => []
  | clientRaw :: clients =>
    if (clientPair fundId clientRaw).any fun pair =>
        pair ∈ later ∨ pair ∈ pairsOfClients fundId clients then
      keepClients fundId later clients
    else clientRaw :: keepClients fundId later clients

def keepFunds (later : List Pair) : List FundRaw → List FundRaw
  | [] => []
  | fundRaw :: page =>
    { fundRaw with
      clients := match fundRaw.record with
        | none => fundRaw.clients
        | some fund => keepClients fund.unitFundId (later ++ pairsOfPage page) fundRaw.clients } ::
      keepFunds later page

/-- The pairs on the pages after a number. -/
def pairsAfter (pages : RunPages) (number : ℕ) : List Pair :=
  (pages.items.filter fun page => number < page.1).flatMap fun page => pairsOfPage page.2

def keepPage (pages : RunPages) (page : ℕ × List FundRaw) : ℕ × List FundRaw :=
  (page.1, keepFunds (pairsAfter pages page.1) page.2)

/-- The run in which a pair occurs where it did last. -/
def keepLast (pages : RunPages) : RunPages where
  items := pages.items.map (keepPage pages)
  nodup := by
    rw [List.map_map]
    exact pages.nodup

/-! ## The same for entries -/

/-- Drops the entries whose pair comes later in the list, or is in `later`. -/
def keepEntries (later : List Pair) : List Entry → List Entry
  | [] => []
  | entry :: entries =>
    if entry.pair ∈ later ∨ entry.pair ∈ entries.map Entry.pair then keepEntries later entries
    else entry :: keepEntries later entries

/-- The entries that `keepEntries` drops. -/
def droppedEntries (later : List Pair) : List Entry → List Entry
  | [] => []
  | entry :: entries =>
    if entry.pair ∈ later ∨ entry.pair ∈ entries.map Entry.pair then
      entry :: droppedEntries later entries
    else droppedEntries later entries

variable {parsing : Parsing} {ref : Day} {fundId : FundId} {later : List Pair} {pair : Pair}
variable {pages : RunPages} {entries : List Entry}

lemma pair_entriesOfClients {clients : List ClientRaw} :
    (entriesOfClients parsing ref fundId clients).map Entry.pair = pairsOfClients fundId clients := by
  rw [entriesOfClients, pairsOfClients, List.map_filterMap]
  congr 1
  funext clientRaw
  rw [clientPair, Option.map_map]
  rfl

lemma pair_entriesOfPage {page : List FundRaw} :
    (entriesOfPage parsing ref page).map Entry.pair = pairsOfPage page := by
  rw [entriesOfPage, pairsOfPage, List.map_flatMap]
  congr 1
  funext fundRaw
  cases fundRaw.record with
  | none => rfl
  | some fund => exact pair_entriesOfClients

lemma entriesOfClients_keep {clients : List ClientRaw} :
    entriesOfClients parsing ref fundId (keepClients fundId later clients) =
      keepEntries later (entriesOfClients parsing ref fundId clients) := by
  induction clients with
  | nil => rfl
  | cons clientRaw clients ih =>
    cases valid : clientRaw.record with
    | none =>
      have skip : ∀ rest, entriesOfClients parsing ref fundId (clientRaw :: rest) =
          entriesOfClients parsing ref fundId rest := by
        intro rest
        exact List.filterMap_cons_none (by rw [valid]; rfl)
      rw [keepClients, clientPair, valid, skip, if_neg (by exact Bool.false_ne_true), skip, ih]
    | some client =>
      have first : ∀ rest, entriesOfClients parsing ref fundId (clientRaw :: rest) =
          flattenClient parsing ref fundId client clientRaw ::
            entriesOfClients parsing ref fundId rest := by
        intro rest
        exact List.filterMap_cons_some (by rw [valid]; rfl)
      rw [first, keepEntries, pair_entriesOfClients, keepClients, clientPair, valid, Option.map_some,
        Option.any_some]
      by_cases repeats : (client.clientId, fundId) ∈ later ∨
          (client.clientId, fundId) ∈ pairsOfClients fundId clients
      · rw [if_pos (decide_eq_true repeats), ih]
        exact (if_pos repeats).symm
      · rw [if_neg (by rwa [decide_eq_true_eq]), first, ih]
        exact (if_neg repeats).symm

lemma keepEntries_append {front back : List Entry} : keepEntries later (front ++ back) =
    keepEntries (later ++ back.map Entry.pair) front ++ keepEntries later back := by
  induction front with
  | nil => rfl
  | cons entry front ih =>
    have same : (entry.pair ∈ later ∨ entry.pair ∈ (front ++ back).map Entry.pair) ↔
        (entry.pair ∈ later ++ back.map Entry.pair ∨ entry.pair ∈ front.map Entry.pair) := by
      rw [List.map_append, List.mem_append, List.mem_append]
      tauto
    rw [List.cons_append, keepEntries, keepEntries, if_congr same rfl rfl, ih]
    split <;> rfl

lemma entriesOfPage_cons {fundRaw : FundRaw} {page : List FundRaw} :
    entriesOfPage parsing ref (fundRaw :: page) =
      (match fundRaw.record with
        | none => []
        | some fund => entriesOfClients parsing ref fund.unitFundId fundRaw.clients) ++
      entriesOfPage parsing ref page :=
  List.flatMap_cons

lemma entriesOfPage_keep {page : List FundRaw} :
    entriesOfPage parsing ref (keepFunds later page) =
      keepEntries later (entriesOfPage parsing ref page) := by
  induction page with
  | nil => rfl
  | cons fundRaw page ih =>
    rw [keepFunds, entriesOfPage_cons, ih, entriesOfPage_cons]
    cases fundRaw.record with
    | none => rfl
    | some fund =>
      have pairs : pairsOfPage page = (entriesOfPage parsing ref page).map Entry.pair :=
        pair_entriesOfPage.symm
      dsimp only
      rw [entriesOfClients_keep, pairs, keepEntries_append]

/-! ## The pages of the two runs -/

def rowsOfPage (parsing : Parsing) (ref : Day) (page : ℕ × List FundRaw) : List ClientRow :=
  (entriesOfPage parsing ref page.2).map Entry.row

/-- The rows of a run in the order of its page numbers. -/
def rowsInNumberOrder (parsing : Parsing) (ref : Day) (pages : RunPages) : List ClientRow :=
  (sortBy Prod.fst pages.items).flatMap (rowsOfPage parsing ref)

/-- The row read last of each pair is the one of its last page, and what is repeated there has no dated
    transactions. -/
structure CountsOnce (parsing : Parsing) (ref : Day) (pages : RunPages) : Prop where
  rows : ∀ pair, lastRow (flattenRun parsing ref pages).clients pair =
    lastRow (rowsInNumberOrder parsing ref pages) pair
  undated : ∀ page ∈ pages.items,
    ∀ entry ∈ droppedEntries (pairsAfter pages page.1) (entriesOfPage parsing ref page.2),
      ∀ txn ∈ entry.transactions, txn.date = none

lemma inTextOrder_keepLast : inTextOrder (keepLast pages) = (inTextOrder pages).map (keepPage pages) := by
  rw [inTextOrder, inTextOrder, keepLast, sortBy, sortBy]
  exact (List.map_insertionSort _ _ (keepPage pages) pages.items fun _ _ _ _ => Iff.rfl).symm

lemma clients_flattenRun : (flattenRun parsing ref pages).clients =
    (inTextOrder pages).flatMap (rowsOfPage parsing ref) :=
  List.flatMap_map _ _ _

lemma transactions_flattenRun : (flattenRun parsing ref pages).transactions =
    (inTextOrder pages).flatMap fun page =>
      (entriesOfPage parsing ref page.2).flatMap Entry.transactions :=
  List.flatMap_map _ _ _

lemma records_keepFunds {page : List FundRaw} :
    (keepFunds later page).filterMap (fun fundRaw => fundRaw.record.map FundRecord.row) =
      page.filterMap fun fundRaw => fundRaw.record.map FundRecord.row := by
  induction page with
  | nil => rfl
  | cons fundRaw page ih => rw [keepFunds, List.filterMap_cons, List.filterMap_cons, ih]

lemma funds_keepLast : (flattenRun parsing ref (keepLast pages)).funds =
    (flattenRun parsing ref pages).funds := by
  rw [flattenRun, flattenRun, inTextOrder_keepLast]
  dsimp only
  rw [List.map_map, List.flatMap_map, List.flatMap_map]
  have page : ∀ page, (flattenPayload parsing ref (keepPage pages page).2).funds =
      (flattenPayload parsing ref page.2).funds := by
    intro page
    rw [flattenPayload, keepPage, records_keepFunds]
    rfl
  have same : (fun page => (flattenPayload parsing ref (keepPage pages page).2).funds) =
      fun page => (flattenPayload parsing ref page.2).funds := funext page
  exact congrArg (fun funds => (combineFunds ((inTextOrder pages).flatMap funds) .empty).items.map
    Prod.snd) same

/-- Entries without dated transactions can be dropped. -/
lemma dated_keepEntries (undated : ∀ entry ∈ droppedEntries later entries,
      ∀ txn ∈ entry.transactions, txn.date = none) :
    ((keepEntries later entries).flatMap Entry.transactions).filter (fun txn => txn.date.isSome) =
      (entries.flatMap Entry.transactions).filter fun txn => txn.date.isSome := by
  induction entries with
  | nil => rfl
  | cons entry entries ih =>
    rw [keepEntries]
    rw [droppedEntries] at undated
    split
    case isTrue repeats =>
      rw [if_pos repeats] at undated
      have none_dated : entry.transactions.filter (fun txn => txn.date.isSome) = [] := by
        rw [List.filter_eq_nil_iff]
        intro txn mem
        rw [undated entry List.mem_cons_self txn mem]
        exact Bool.false_ne_true
      rw [ih fun entry mem => undated entry (List.mem_cons_of_mem _ mem), List.flatMap_cons,
        List.filter_append, none_dated, List.nil_append]
    case isFalse single =>
      rw [if_neg single] at undated
      rw [List.flatMap_cons, List.flatMap_cons, List.filter_append, List.filter_append, ih undated]

lemma dated_keepLast (once : CountsOnce parsing ref pages) :
    (flattenRun parsing ref (keepLast pages)).transactions.filter (fun txn => txn.date.isSome) =
      (flattenRun parsing ref pages).transactions.filter fun txn => txn.date.isSome := by
  rw [transactions_flattenRun, transactions_flattenRun, inTextOrder_keepLast, List.flatMap_map,
    List.filter_flatMap, List.filter_flatMap]
  refine List.flatMap_congr fun page mem => ?_
  have mem : page ∈ pages.items := mem_sortBy.mp mem
  rw [keepPage, entriesOfPage_keep]
  exact dated_keepEntries (once.undated page mem)

/-! ## The rows of the two runs -/

lemma lastRow_append (rows : List ClientRow) {rows' : List ClientRow} :
    lastRow (rows ++ rows') pair = (lastRow rows' pair).or (lastRow rows pair) := by
  rw [lastRow, List.filter_append, List.getLast?_append]
  rfl

/-- A pair that does not come later keeps its last entry. -/
lemma filter_keepEntries :
    ((keepEntries later entries).map Entry.row).filter (fun row => row.pair = pair) =
      if pair ∈ later then [] else (lastRow (entries.map Entry.row) pair).toList := by
  induction entries with
  | nil => split <;> rfl
  | cons entry entries ih =>
    have first : lastRow ((entry :: entries).map Entry.row) pair =
        (lastRow (entries.map Entry.row) pair).or (lastRow [entry.row] pair) :=
      lastRow_append [entry.row]
    have occurs : (lastRow (entries.map Entry.row) pair).isSome ↔ pair ∈ entries.map Entry.pair := by
      rw [lastRow_isSome, List.map_map]
      rfl
    have single : lastRow [entry.row] pair = if entry.pair = pair then some entry.row else none := by
      rw [lastRow, List.filter_singleton]
      by_cases same : entry.pair = pair
      · rw [decide_eq_true (show entry.row.pair = pair from same), if_pos same]
        rfl
      · rw [decide_eq_false (show ¬ entry.row.pair = pair from same), if_neg same]
        rfl
    rw [keepEntries]
    split
    case isTrue repeats =>
      rw [ih, first]
      split
      · rfl
      case isFalse absent =>
        by_cases same : entry.pair = pair
        · obtain ⟨row, found⟩ := Option.isSome_iff_exists.mp
            (occurs.mpr (same ▸ repeats.resolve_left (same ▸ absent)))
          rw [found]
          rfl
        · rw [single, if_neg same, Option.or_none]
    case isFalse once =>
      rw [List.map_cons, List.filter_cons, ih, first, single]
      by_cases same : entry.pair = pair
      · have absent : pair ∉ later := fun mem => once (.inl (same ▸ mem))
        have nothing : lastRow (entries.map Entry.row) pair = none := by
          rw [← Option.not_isSome_iff_eq_none, occurs]
          exact fun mem => once (.inr (same ▸ mem))
        rw [decide_eq_true (show entry.row.pair = pair from same), if_pos rfl, if_neg absent, nothing,
          if_pos same, if_neg absent]
        rfl
      · rw [decide_eq_false (show ¬ entry.row.pair = pair from same), if_neg Bool.false_ne_true,
          if_neg same, Option.or_none]

/-- Pages in the order of their numbers: the pair is left where it came last. -/
lemma flatMap_late (late : ℕ → Prop) [DecidablePred late] {ordered : List (ℕ × List FundRaw)}
    (sorted : ordered.Pairwise fun page page' => page.1 < page'.1)
    (comes : ∀ page ∈ ordered, late page.1 ↔
      ∃ page' ∈ ordered, page.1 < page'.1 ∧ pair ∈ pairsOfPage page'.2) :
    ordered.flatMap (fun page => if late page.1 then []
      else (lastRow (rowsOfPage parsing ref page) pair).toList) =
      (lastRow (ordered.flatMap (rowsOfPage parsing ref)) pair).toList := by
  induction ordered with
  | nil => rfl
  | cons page ordered ih =>
    obtain ⟨before, sorted⟩ := List.pairwise_cons.mp sorted
    have rest : ∀ page' ∈ ordered, late page'.1 ↔
        ∃ page'' ∈ ordered, page'.1 < page''.1 ∧ pair ∈ pairsOfPage page''.2 := by
      intro page' mem
      rw [comes page' (List.mem_cons_of_mem _ mem), List.exists_mem_cons_iff]
      exact or_iff_right fun first => absurd first.1 (not_lt.mpr (before page' mem).le)
    rw [List.flatMap_cons, List.flatMap_cons, lastRow_append, ih sorted rest]
    have later : late page.1 ↔ (lastRow (ordered.flatMap (rowsOfPage parsing ref)) pair).isSome := by
      rw [comes page List.mem_cons_self, List.exists_mem_cons_iff, lastRow_isSome, List.map_flatMap,
        List.mem_flatMap]
      have pairs : ∀ page' : ℕ × List FundRaw,
          (rowsOfPage parsing ref page').map ClientRow.pair = pairsOfPage page'.2 := by
        intro page'
        rw [rowsOfPage, List.map_map]
        exact pair_entriesOfPage
      constructor
      · rintro (itself | ⟨page', mem, -, occurs⟩)
        · exact absurd itself.1 (lt_irrefl _)
        · exact ⟨page', mem, (pairs page').symm ▸ occurs⟩
      · rintro ⟨page', mem, occurs⟩
        exact .inr ⟨page', mem, before page' mem, pairs page' ▸ occurs⟩
    split
    case isTrue isLate =>
      obtain ⟨row, found⟩ := Option.isSome_iff_exists.mp (later.mp isLate)
      rw [found]
      rfl
    case isFalse isLast =>
      rw [later, Option.not_isSome_iff_eq_none] at isLast
      rw [isLast, Option.none_or]
      exact List.append_nil _

lemma mem_pairsAfter {number : ℕ} : pair ∈ pairsAfter pages number ↔
    ∃ page ∈ pages.items, number < page.1 ∧ pair ∈ pairsOfPage page.2 := by
  rw [pairsAfter, List.mem_flatMap]
  constructor
  · rintro ⟨page, mem, occurs⟩
    obtain ⟨mem, after⟩ := List.mem_filter.mp mem
    exact ⟨page, mem, of_decide_eq_true after, occurs⟩
  · rintro ⟨page, mem, after, occurs⟩
    exact ⟨page, List.mem_filter.mpr ⟨mem, decide_eq_true after⟩, occurs⟩

/-- `keepLast` has the row of a pair's last page, once. -/
lemma rows_keepLast :
    (flattenRun parsing ref (keepLast pages)).clients.filter (fun row => row.pair = pair) =
      (lastRow (rowsInNumberOrder parsing ref pages) pair).toList := by
  have sorted : (sortBy Prod.fst pages.items).Pairwise fun page page' => page.1 < page'.1 := by
    have distinct : ((sortBy Prod.fst pages.items).map Prod.fst).Nodup :=
      ((sortBy_perm Prod.fst pages.items).map Prod.fst).nodup_iff.mpr pages.nodup
    exact (sortBy_pairwise Prod.fst pages.items).imp₂ (fun _ _ le ne => lt_of_le_of_ne le ne)
      (List.pairwise_map.mp distinct)
  have kept : ∀ page, (rowsOfPage parsing ref (keepPage pages page)).filter (fun row => row.pair = pair) =
      if pair ∈ pairsAfter pages page.1 then [] else (lastRow (rowsOfPage parsing ref page) pair).toList := by
    intro page
    rw [rowsOfPage, keepPage, entriesOfPage_keep, filter_keepEntries]
    rfl
  rw [clients_flattenRun, inTextOrder_keepLast, List.flatMap_map, List.filter_flatMap]
  have text : (inTextOrder pages).Perm (sortBy Prod.fst pages.items) :=
    (sortBy_perm _ pages.items).trans (sortBy_perm _ pages.items).symm
  have perm := text.flatMap_right
    fun page => (rowsOfPage parsing ref (keepPage pages page)).filter fun row => row.pair = pair
  have number : (sortBy Prod.fst pages.items).flatMap (fun page =>
      (rowsOfPage parsing ref (keepPage pages page)).filter fun row => row.pair = pair) =
        (lastRow (rowsInNumberOrder parsing ref pages) pair).toList := by
    rw [rowsInNumberOrder, ← flatMap_late (fun number => pair ∈ pairsAfter pages number) sorted]
    · exact List.flatMap_congr fun page _ => kept page
    · intro page _
      rw [mem_pairsAfter]
      simp only [mem_sortBy]
  rw [number] at perm
  cases last : lastRow (rowsInNumberOrder parsing ref pages) pair with
  | none =>
    rw [last] at perm
    exact perm.eq_nil
  | some row =>
    rw [last] at perm
    exact List.perm_singleton.mp perm

/-- The measures and the features of a run are those of the run in which every pair occurs once, on its
    last page. -/
theorem repeated_counts_once {derivation : Derivation} (once : CountsOnce parsing ref pages) :
    SameDerived derivation (flattenRun parsing ref pages) (flattenRun parsing ref (keepLast pages)) := by
  apply sameDerived_of_read
  refine ⟨funds_keepLast.symm, (dated_keepLast once).symm, fun pair => ?_⟩
  rw [once.rows, lastRow, lastRow, rows_keepLast, lastRow]
  cases (rowsInNumberOrder parsing ref pages).filter (fun row => row.pair = pair) |>.getLast? with
  | none => rfl
  | some row => rfl

/-! ## A client on two pages -/

/-- Reads one date and one amount. -/
def sampleParsing : Parsing where
  date
    | .str "2024-01-05" => some 19727
    | _ => none
  amount
    | .str "100" => 100
    | _ => 0

def sampleDerivation : Derivation where
  log10 _ := 0
  tables := .ascii

def clientWith (balance : ℚ) (purchases : List RawTxn) : FundRaw where
  record := some { unitFundId := 7 }
  clients := [{ record := some { clientId := 5, balance := some balance }, last5Purchases := purchases }]

def topUp : RawTxn := { id := some 1, date := .str "2024-01-05", number := .str "100" }

/-- The client's first occurrence has a purchase without a date, its last one a dated one. -/
def shiftedPages : RunPages :=
  .ofList [(1, [clientWith 10 [{ topUp with date := .null }]]), (2, [clientWith 20 [topUp]])]

/-- Both occurrences have the same purchase. -/
def repeatedPages : RunPages := .ofList [(1, [clientWith 20 [topUp]]), (2, [clientWith 20 [topUp]])]

theorem repeated_counts_once_sample :
    SameDerived sampleDerivation (flattenRun sampleParsing 19800 shiftedPages)
      (flattenRun sampleParsing 19800 (keepLast shiftedPages)) := by
  apply repeated_counts_once
  have same : (flattenRun sampleParsing 19800 shiftedPages).clients =
      rowsInNumberOrder sampleParsing 19800 shiftedPages := by decide +kernel
  exact ⟨fun pair => by rw [same], by decide +kernel⟩

/-- A purchase that is read twice becomes two, with a gap of no days between them. -/
theorem repeat_becomes_a_rhythm :
    ¬ SameDerived sampleDerivation (flattenRun sampleParsing 19800 repeatedPages)
      (flattenRun sampleParsing 19800 (keepLast repeatedPages)) := by
  intro same
  have rhythms := congrArg (Option.map RelationshipMeasures.rhythmDays) (same.measures (5, 7))
  have twice : ((deriveRelationshipMeasures sampleDerivation
      (flattenRun sampleParsing 19800 repeatedPages)).get? (5, 7)).map
        RelationshipMeasures.rhythmDays = some (some 0) := by decide +kernel
  have once : ((deriveRelationshipMeasures sampleDerivation
      (flattenRun sampleParsing 19800 (keepLast repeatedPages))).get? (5, 7)).map
        RelationshipMeasures.rhythmDays = some none := by decide +kernel
  rw [twice, once] at rhythms
  cases rhythms

end ClientEngagement.Transform
