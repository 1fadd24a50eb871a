import ClientEngagement.Ingestion.Worker

/-!
# The concurrent pull and the sequential one

`run` and `runBulk` on a fresh run, over a source that is a function of the page number and the page size.
Both store and count a list of pages in the order of their numbers (`runPages_eq`, `runBulk_eq`), so the
order in which the fetches finish does not matter. The lists differ: the requests of a bulk run after the
first leave the page size out, and its first request is made whatever the page limit. A page that cannot
be read ends both, but the sequential pull keeps what it stored. `bulk_equals_sequential` says when the two
leave the same.
-/

namespace ClientEngagement.Ingestion

/-- What the responses to a page size say about themselves: the page asked for, and one last page. -/
structure Consistent (source : Source) (pageSize : Option ℤ) (lastPage : PageNo) : Prop where
  numbered : ∀ page, page = 1 ∨ page ≤ lastPage → (source page pageSize).currentPage.getD page = page
  last : ∀ page, page = 1 ∨ page ≤ lastPage → (source page pageSize).lastPage.getD page = lastPage

/-- Nothing is on file under the run. -/
structure Fresh (db : IngestionDb) (runId : RunId) : Prop where
  status : db.statuses.get? runId = none
  pages : ∀ page, db.rawStaging.get? (runId, page) = none

/-- The same rows, the same rejects and the same summary. -/
structure SamePull (one other : PullResult) : Prop where
  rawStaging : ∀ key, one.db.rawStaging.get? key = other.db.rawStaging.get? key
  rejects : one.db.rejects = other.db.rejects
  statuses : ∀ runId, one.db.statuses.get? runId = other.db.statuses.get? runId
  summary : one.summary = other.summary

/-- The envelope is one and its funds can be ordered. -/
def IsReadable (payload : Payload) : Prop := (payload.data.bind sortFunds).isSome

instance (payload : Payload) : Decidable (IsReadable payload) :=
  inferInstanceAs (Decidable (_ = true))

/-- The pages a sequential pull stores, `count` of them after the first `k`. -/
def pagesAfter (source : Source) (pageSize : Option ℤ) (k count : ℕ) : List (PageNo × Payload) :=
  (List.range' k count).map fun i : ℕ => ((i : ℤ) + 1, source ((i : ℤ) + 1) pageSize)

/-- The pages a bulk run stores. -/
def bulkPages (config : WorkerConfig) (source : Source) (lastPage : PageNo) : List (PageNo × Payload) :=
  (1, source 1 config.pageSize) ::
    (remainingPages config lastPage).map fun page => (page, source page none)

variable {config : WorkerConfig} {contracts : Contracts} {source : Source} {pageSize : Option ℤ}
variable {lastPage : ℤ} {runId : RunId} {db db' loaded : IngestionDb} {status : IngestionStatus}
variable {pages : List (PageNo × Payload)} {page : PageNo} {payload : Payload} {now : ℤ}
variable {total total' : Option ℤ}

/-! ## Storing and counting a list of pages -/

lemma countPage_isSome : (countPage contracts db runId status page payload).isSome ↔
    IsReadable payload := by
  rw [countPage, processPage, Option.isSome_map, Option.isSome_map]
  rfl

lemma countPage_rawStaging (counted : countPage contracts db runId status page payload = some db') :
    db'.rawStaging = db.rawStaging := by
  obtain ⟨_, -, rfl⟩ := Option.map_eq_some_iff.mp counted
  rfl

lemma countPage_status (counted : countPage contracts db runId status page payload = some db') :
    ∃ status', db'.statuses.get? runId = some status' ∧ status'.pageCursor = some page := by
  obtain ⟨_, -, rfl⟩ := Option.map_eq_some_iff.mp counted
  exact ⟨_, Dict.get?_set_self _ _ _, rfl⟩

lemma loadPages_isSome (found : db.statuses.get? runId = some status) :
    (loadPages contracts runId pages db total).isSome ↔ ∀ row ∈ pages, IsReadable row.2 := by
  induction pages generalizing db status total with
  | nil => simp [loadPages]
  | cons row pages ih =>
    obtain ⟨page, payload⟩ := row
    rw [loadPages, found, Option.bind_some]
    rw [List.forall_mem_cons]
    cases counted : countPage contracts (storeRaw db runId page payload) runId status page payload with
    | none =>
      have unreadable : ¬ IsReadable payload := by
        rw [← countPage_isSome, counted]
        nofun
      exact ⟨nofun, fun all => absurd all.1 unreadable⟩
    | some db' =>
      have readable : IsReadable payload := Iff.mp countPage_isSome (by rw [counted]; rfl)
      obtain ⟨status', found', -⟩ := countPage_status counted
      rw [Option.bind_some, ih found']
      exact ⟨fun all => ⟨readable, all⟩, And.right⟩

/-- The rows of the pages loaded are written over those that were there. -/
lemma rawStaging_loadPages (load : loadPages contracts runId pages db total = some (loaded, total')) :
    loaded.rawStaging =
      pages.foldl (fun rows row => rows.set (runId, row.1) row.2) db.rawStaging := by
  induction pages generalizing db total with
  | nil =>
    cases load
    rfl
  | cons row pages ih =>
    obtain ⟨page, payload⟩ := row
    obtain ⟨status, -, load⟩ := Option.bind_eq_some_iff.mp load
    obtain ⟨db', counted, load⟩ := Option.bind_eq_some_iff.mp load
    rw [ih load, countPage_rawStaging counted, List.foldl_cons]
    rfl

lemma get?_foldl_set {rows : Dict (RunId × PageNo) Payload}
    (distinct : (pages.map Prod.fst).Nodup) (mem : (page, payload) ∈ pages) :
    (pages.foldl (fun rows row => rows.set (runId, row.1) row.2) rows).get? (runId, page) =
      some payload := by
  have folded : pages.foldl (fun rows row => rows.set (runId, row.1) row.2) rows =
      (pages.map fun row => ((runId, row.1), row.2)).foldl (fun rows b => rows.set b.1 b.2) rows := by
    rw [List.foldl_map]
  rw [folded]
  refine Dict.get?_foldl_set_of_mem ?_ (List.mem_map.mpr ⟨(page, payload), mem, rfl⟩)
  have apart := distinct.map (Prod.mk_right_injective runId)
  rw [List.map_map] at apart ⊢
  exact apart

/-! ## The sequential pull -/

lemma pagesAfter_succ (k count : ℕ) : pagesAfter source pageSize k (count + 1) =
    ((k : ℤ) + 1, source ((k : ℤ) + 1) pageSize) :: pagesAfter source pageSize (k + 1) count := by
  rw [pagesAfter, List.range'_succ, List.map_cons]
  rfl

/-- The response after `k` pages, of which a worker that pulled any knows the last. -/
lemma fetchPage_after {known : Option PageNo} {cursor : Option PageNo} {k : ℕ}
    (serves : Consistent source pageSize lastPage) (at_k : cursor = if k = 0 then none else some (k : ℤ))
    (knows : known = if k = 0 then none else some lastPage) :
    fetchPage source pageSize known cursor =
      if 0 < k ∧ lastPage ≤ k then none
      else some ((k : ℤ) + 1, source ((k : ℤ) + 1) pageSize, lastPage) := by
  rw [fetchPage, at_k, knows]
  cases k with
  | zero =>
    have numbered := serves.numbered 1 (.inl rfl)
    have last := serves.last 1 (.inl rfl)
    simp [numbered, last]
  | succ k =>
    have next : (some ((k + 1 : ℕ) : ℤ)).elim 1 (· + 1) = ((k + 1 : ℕ) : ℤ) + 1 := rfl
    rw [if_neg k.succ_ne_zero, if_neg k.succ_ne_zero, next]
    by_cases ends : 0 < k + 1 ∧ lastPage ≤ ((k + 1 : ℕ) : ℤ)
    · rw [if_pos ends]
      exact if_pos (by simpa using Int.lt_add_one_of_le ends.2)
    · have left : ((k + 1 : ℕ) : ℤ) + 1 ≤ lastPage :=
        Int.add_one_le_iff.mpr (not_le.mp fun le => ends ⟨k.succ_pos, le⟩)
      have last : (source (((k + 1 : ℕ) : ℤ) + 1) pageSize).lastPage.getD (((k + 1 : ℕ) : ℤ) + 1) =
          lastPage := serves.last _ (.inr left)
      have asked : ¬ (some lastPage).any (· < ((k + 1 : ℕ) : ℤ) + 1) := by simpa using left
      rw [if_neg ends, if_neg asked]
      dsimp only
      rw [serves.numbered _ (.inr left), last]

/-- How many pages are left after `k`, within a budget. -/
def pagesLeft (lastPage : ℤ) (budget k : ℕ) : ℕ := min budget ((max 1 lastPage).toNat - k)

lemma pagesLeft_eq_zero {budget k : ℕ} (ends : 0 < k ∧ lastPage ≤ k) :
    pagesLeft lastPage budget k = 0 := by
  obtain ⟨positive, ends⟩ := ends
  rw [pagesLeft]
  omega

lemma pagesLeft_succ {budget k : ℕ} (left : ¬ (0 < k ∧ lastPage ≤ k)) :
    pagesLeft lastPage (budget + 1) k = pagesLeft lastPage budget (k + 1) + 1 := by
  rw [pagesLeft, pagesLeft]
  omega

/-- The loop over pages that can all be read. -/
lemma runPages_eq {known : Option PageNo} {budget k : ℕ}
    (serves : Consistent source config.pageSize lastPage)
    (at_k : status.pageCursor = if k = 0 then none else some (k : ℤ))
    (knows : known = if k = 0 then none else some lastPage)
    (found : db.statuses.get? runId = some status)
    (load : loadPages config.toContracts runId
      (pagesAfter source config.pageSize k (pagesLeft lastPage budget k)) db total =
        some (loaded, total')) :
    runPages config source runId budget db status known total = completeRun loaded runId total' := by
  induction budget generalizing k db status known total with
  | zero =>
    have none_left : pagesLeft lastPage 0 k = 0 := Nat.zero_min _
    rw [none_left] at load
    cases load
    rfl
  | succ budget ih =>
    rw [runPages, fetchPage_after serves at_k knows]
    by_cases ends : 0 < k ∧ lastPage ≤ k
    · rw [if_pos ends]
      rw [pagesLeft_eq_zero ends] at load
      cases load
      rfl
    · rw [if_neg ends]
      rw [pagesLeft_succ ends, pagesAfter_succ, loadPages, found, Option.bind_some] at load
      obtain ⟨db', counted, load⟩ := Option.bind_eq_some_iff.mp load
      obtain ⟨status', found', cursor⟩ := countPage_status counted
      dsimp only
      rw [counted]
      dsimp only
      rw [found']
      exact ih (by rw [cursor]; rfl) rfl found' load

lemma rawStaging_setState {state : RunState} :
    (db.setState runId state).rawStaging = db.rawStaging := by
  rw [IngestionDb.setState]
  split <;> rfl

lemma rawStaging_failWith : (failWith db runId).db.rawStaging = db.rawStaging := by
  rw [failWith, markFailed]
  dsimp only
  split
  · rfl
  · split
    · rfl
    · exact rawStaging_setState

lemma rawStaging_completeRun : (completeRun db runId total).db.rawStaging = db.rawStaging :=
  rawStaging_setState

/-- What is stored stays stored, and the page asked for next is stored if the budget allows it. -/
lemma stored_runPages {known : Option PageNo} {budget : ℕ}
    (stored : (db.rawStaging.get? (runId, page)).isSome ∨ 0 < budget ∧
      ∃ payload last, fetchPage source config.pageSize known status.pageCursor =
        some (page, payload, last)) :
    ((runPages config source runId budget db status known total).db.rawStaging.get?
      (runId, page)).isSome := by
  induction budget generalizing db status known total with
  | zero =>
    rw [runPages, rawStaging_completeRun]
    exact stored.resolve_right fun asked => asked.1.false
  | succ budget ih =>
    rw [runPages]
    cases fetched : fetchPage source config.pageSize known status.pageCursor with
    | none =>
      dsimp only
      rw [rawStaging_completeRun]
      refine stored.resolve_right fun asked => ?_
      obtain ⟨-, _, _, asked⟩ := asked
      rw [fetched] at asked
      cases asked
    | some answer =>
      obtain ⟨next, payload, last⟩ := answer
      have stored : ((storeRaw db runId next payload).rawStaging.get? (runId, page)).isSome := by
        rw [storeRaw, Dict.get?_set]
        split
        · rfl
        case isFalse other =>
          refine stored.resolve_right fun asked => other ?_
          obtain ⟨-, _, _, asked⟩ := asked
          rw [fetched] at asked
          cases asked
          rfl
      dsimp only
      cases counted : countPage config.toContracts (storeRaw db runId next payload) runId status next
          payload with
      | none =>
        dsimp only
        rw [rawStaging_failWith]
        exact stored
      | some db' =>
        rw [← countPage_rawStaging counted] at stored
        dsimp only
        cases db'.statuses.get? runId with
        | none =>
          dsimp only
          rw [rawStaging_failWith]
          exact stored
        | some status' => exact ih (.inl stored)

/-- The loop ends in an error at a page that cannot be read. -/
lemma runPages_raises {known : Option PageNo} {budget k : ℕ}
    (serves : Consistent source config.pageSize lastPage)
    (at_k : status.pageCursor = if k = 0 then none else some (k : ℤ))
    (knows : known = if k = 0 then none else some lastPage)
    (found : db.statuses.get? runId = some status)
    (load : loadPages config.toContracts runId
      (pagesAfter source config.pageSize k (pagesLeft lastPage budget k)) db total = none) :
    (runPages config source runId budget db status known total).summary = none := by
  induction budget generalizing k db status known total with
  | zero =>
    have none_left : pagesLeft lastPage 0 k = 0 := Nat.zero_min _
    rw [none_left] at load
    cases load
  | succ budget ih =>
    rw [runPages, fetchPage_after serves at_k knows]
    by_cases ends : 0 < k ∧ lastPage ≤ k
    · rw [pagesLeft_eq_zero ends] at load
      cases load
    · rw [if_neg ends]
      rw [pagesLeft_succ ends, pagesAfter_succ, loadPages, found, Option.bind_some] at load
      dsimp only
      cases counted : countPage config.toContracts
          (storeRaw db runId ((k : ℤ) + 1) (source ((k : ℤ) + 1) config.pageSize)) runId status
          ((k : ℤ) + 1) (source ((k : ℤ) + 1) config.pageSize) with
      | none => rfl
      | some db' =>
        rw [counted, Option.bind_some] at load
        obtain ⟨status', found', cursor⟩ := countPage_status counted
        dsimp only
        rw [found']
        exact ih (by rw [cursor]; rfl) rfl found' load

/-! ## A fresh run -/

/-- The pages of a sequential pull, in order. -/
def sequentialPages (config : WorkerConfig) (source : Source) (lastPage : ℤ) :
    List (PageNo × Payload) :=
  pagesAfter source config.pageSize 0 (pagesLeft lastPage config.maxPages 0)

lemma openRun_fresh (fresh : Fresh db runId) :
    (openRun db config.endpoint runId now).1.statuses.get? runId =
        some { endpoint := config.endpoint, startedAt := now } ∧
      (openRun db config.endpoint runId now).1.rawStaging = db.rawStaging ∧
      (openRun db config.endpoint runId now).2 = { endpoint := config.endpoint, startedAt := now } := by
  rw [openRun, fresh.status]
  exact ⟨Dict.get?_set_self _ _ _, rfl, rfl⟩

lemma run_fresh (fresh : Fresh db runId) : run config source db runId now =
    runPages config source runId config.maxPages (openRun db config.endpoint runId now).1
      { endpoint := config.endpoint, startedAt := now } none none := by
  rw [run]
  dsimp only
  rw [(openRun_fresh fresh).2.2, if_neg (by nofun)]

/-! ## The concurrent pull -/

lemma remainingPages_mem {page : ℤ} : page ∈ remainingPages config lastPage ↔
    2 ≤ page ∧ page ≤ lastPage ∧ page ≤ config.maxPages := by
  rw [remainingPages]
  by_cases more : 1 < lastPage
  · rw [if_pos more, List.mem_map]
    constructor
    · rintro ⟨i, lt, rfl⟩
      have lt := List.mem_range.mp lt
      omega
    · rintro ⟨two, last, max⟩
      exact ⟨(page - 2).toNat, List.mem_range.mpr (by omega), by omega⟩
  · rw [if_neg more]
    exact ⟨nofun, fun bounds => absurd (lt_of_lt_of_le one_lt_two (bounds.1.trans bounds.2.1)) more⟩

lemma remainingPages_pairwise : (remainingPages config lastPage).Pairwise (· < ·) := by
  rw [remainingPages]
  split
  · refine List.Pairwise.map _ (fun a b lt => ?_) List.pairwise_lt_range
    exact add_lt_add_left (Nat.cast_lt.mpr lt) 2
  · exact .nil

/-- The first page and those after it, with whatever answers they have, are in the order of their
    numbers. -/
lemma numbers_pairwise (first : Payload) (answer : PageNo → Payload) :
    (((1, first) :: (remainingPages config lastPage).map fun page => (page, answer page)).map
      Prod.fst).Pairwise (· < ·) := by
  rw [List.map_cons, List.map_map]
  have keys : (remainingPages config lastPage).map (Prod.fst ∘ fun page => (page, answer page)) =
      remainingPages config lastPage := List.map_id _
  rw [keys, List.pairwise_cons]
  refine ⟨fun page mem => ?_, remainingPages_pairwise⟩
  exact lt_of_lt_of_le one_lt_two (Iff.mp remainingPages_mem mem).1

/-- The pages of a bulk run are stored in the order of their numbers, whatever order they came in. -/
lemma runBulk_eq {finished : List PageNo} (serves : Consistent source config.pageSize lastPage)
    (all : finished.Perm (bulkRequests config source)) :
    runBulk config source finished db runId now =
      match loadPages config.toContracts runId (bulkPages config source lastPage)
          (openRun db config.endpoint runId now).1 none with
      | none => failWith (openRun db config.endpoint runId now).1 runId
      | some (loaded, total) => completeRun loaded runId total := by
  have first : fetchPage source config.pageSize none none =
      some (1, source 1 config.pageSize, lastPage) := fetchPage_after (k := 0) serves rfl rfl
  have requests : (bulkRequests config source).Perm (remainingPages config lastPage) := by
    rw [bulkRequests, first]
    dsimp only
    split
    case isTrue zero =>
      rw [zero]
      exact .refl _
    case isFalse => exact .refl _
  have all := all.trans requests
  have keys : (finished.map fun page => (page, source page none)).map Prod.fst = finished := by
    rw [List.map_map]
    exact List.map_id _
  have distinct : (((1, source 1 config.pageSize) ::
      finished.map fun page => (page, source page none)).map Prod.fst).Nodup := by
    rw [List.map_cons, keys, List.nodup_cons]
    refine ⟨fun mem => ?_, all.nodup_iff.mpr (List.Pairwise.imp ne_of_lt remainingPages_pairwise)⟩
    exact absurd (Iff.mp remainingPages_mem (all.mem_iff.mp mem)).1 (show ¬ (2 : ℤ) ≤ 1 by decide)
  have fetched : (finished.foldl (fun pages page => pages.set page (source page none))
      (Dict.empty.set 1 (source 1 config.pageSize))).items =
        (1, source 1 config.pageSize) :: finished.map fun page => (page, source page none) := by
    have set := Dict.items_foldl_set (finished.map fun page => (page, source page none))
      (Dict.empty.set 1 (source 1 config.pageSize)) distinct
    rw [List.foldl_map] at set
    exact set
  have sorted : sortBy Prod.fst ((1, source 1 config.pageSize) ::
      finished.map fun page => (page, source page none)) = bulkPages config source lastPage := by
    have perm : ((1, source 1 config.pageSize) ::
        finished.map fun page => (page, source page none)).Perm (bulkPages config source lastPage) :=
      (all.map _).cons _
    rw [sortBy_eq_of_perm perm fun a mem b mem' same =>
      List.inj_on_of_nodup_map distinct mem mem' same]
    exact List.Pairwise.insertionSort_eq
      ((List.pairwise_map.mp (numbers_pairwise _ _)).imp le_of_lt)
  rw [runBulk]
  dsimp only
  rw [first]
  dsimp only
  rewrite [fetched, sorted]
  rfl

/-! ## The two compared -/

/-- With a page to pull, the sequential pages are those of the bulk run, all asked for with the page
    size. -/
lemma sequentialPages_eq (positive : 1 ≤ config.maxPages) : sequentialPages config source lastPage =
    (1, source 1 config.pageSize) ::
      (remainingPages config lastPage).map fun page => (page, source page config.pageSize) := by
  have count : pagesLeft lastPage config.maxPages 0 =
      (if 1 < lastPage then (min lastPage config.maxPages).toNat - 1 else 0) + 1 := by
    rw [pagesLeft]
    split <;> omega
  rw [sequentialPages, count, pagesAfter_succ, pagesAfter, List.range'_eq_map_range, List.map_map,
    remainingPages]
  congr 1
  split
  · rw [List.map_map]
    refine List.map_congr_left fun i _ => ?_
    have number : ((0 + 1 + i : ℕ) : ℤ) + 1 = (i : ℤ) + 2 := by
      push_cast
      ring
    show (((0 + 1 + i : ℕ) : ℤ) + 1, source (((0 + 1 + i : ℕ) : ℤ) + 1) config.pageSize) = _
    rw [number]
    rfl
  · rfl

lemma completeRun_summary (found : db.statuses.get? runId = some status) :
    (completeRun db runId total).summary.isSome := by
  have kept : (db.setState runId .completed).statuses.get? runId =
      some { status with state := .completed } := by
    rw [IngestionDb.setState, found]
    exact Dict.get?_set_self _ _ _
  rw [completeRun]
  dsimp only
  rw [kept]
  rfl

lemma loadPages_status (load : loadPages contracts runId pages db total = some (loaded, total'))
    (found : db.statuses.get? runId = some status) :
    ∃ status', loaded.statuses.get? runId = some status' := by
  induction pages generalizing db status total with
  | nil =>
    cases load
    exact ⟨status, found⟩
  | cons row pages ih =>
    obtain ⟨_, -, load⟩ := Option.bind_eq_some_iff.mp load
    obtain ⟨db', counted, load⟩ := Option.bind_eq_some_iff.mp load
    obtain ⟨status', found', -⟩ := countPage_status counted
    exact ih load found'

/-- Where a list of pages was loaded, its rows are on file. -/
lemma completeRun_stored (load : loadPages contracts runId pages db total = some (loaded, total'))
    (distinct : (pages.map Prod.fst).Nodup) (mem : (page, payload) ∈ pages) :
    (completeRun loaded runId total').db.rawStaging.get? (runId, page) = some payload := by
  rw [rawStaging_completeRun, rawStaging_loadPages load]
  exact get?_foldl_set distinct mem

lemma run_eq (serves : Consistent source config.pageSize lastPage) (fresh : Fresh db runId)
    (load : loadPages config.toContracts runId (sequentialPages config source lastPage)
      (openRun db config.endpoint runId now).1 none = some (loaded, total)) :
    run config source db runId now = completeRun loaded runId total := by
  rw [run_fresh fresh]
  exact runPages_eq serves rfl rfl (openRun_fresh fresh).1 load

lemma run_raises (serves : Consistent source config.pageSize lastPage) (fresh : Fresh db runId)
    (load : loadPages config.toContracts runId (sequentialPages config source lastPage)
      (openRun db config.endpoint runId now).1 none = none) :
    (run config source db runId now).summary = none := by
  rw [run_fresh fresh]
  exact runPages_raises serves rfl rfl (openRun_fresh fresh).1 load

lemma run_stores_first (serves : Consistent source config.pageSize lastPage) (fresh : Fresh db runId)
    (positive : 1 ≤ config.maxPages) :
    ((run config source db runId now).db.rawStaging.get? (runId, 1)).isSome := by
  rw [run_fresh fresh]
  exact stored_runPages (.inr ⟨positive, _, _, fetchPage_after (k := 0) serves rfl rfl⟩)

lemma loads_iff (now : ℤ) (fresh : Fresh db runId) :
    (loadPages config.toContracts runId (sequentialPages config source lastPage)
      (openRun db config.endpoint runId now).1 none).isSome ↔
        ∀ row ∈ sequentialPages config source lastPage, IsReadable row.2 :=
  loadPages_isSome (openRun_fresh fresh).1

lemma readable_iff (positive : 1 ≤ config.maxPages) :
    (∀ row ∈ sequentialPages config source lastPage, IsReadable row.2) ↔
      ∀ page : ℤ, 1 ≤ page → page ≤ max 1 lastPage → page ≤ config.maxPages →
        IsReadable (source page config.pageSize) := by
  rw [sequentialPages_eq positive, List.forall_mem_cons, List.forall_mem_map]
  constructor
  · intro ⟨first, rest⟩ page one last max
    rcases one.eq_or_lt with rfl | more
    · exact first
    · have last := (le_max_iff.mp last).resolve_left (not_le.mpr more)
      exact rest page (Iff.mpr remainingPages_mem ⟨more, last, max⟩)
  · intro readable
    refine ⟨readable 1 le_rfl (le_max_left _ _) (by exact_mod_cast positive), fun page mem => ?_⟩
    obtain ⟨two, last, max⟩ := Iff.mp remainingPages_mem mem
    exact readable page (one_le_two.trans two) (le_max_of_le_right last) max

lemma bulkPages_eq (positive : 1 ≤ config.maxPages) (same : ∀ page : ℤ, 2 ≤ page → page ≤ lastPage →
    page ≤ config.maxPages → source page none = source page config.pageSize) :
    bulkPages config source lastPage = sequentialPages config source lastPage := by
  rw [sequentialPages_eq positive, bulkPages]
  congr 1
  refine List.map_congr_left fun page mem => ?_
  obtain ⟨two, last, max⟩ := Iff.mp remainingPages_mem mem
  rw [same page two last max]

/-- The first page of a bulk run is on file unless the run fails. -/
lemma runBulk_none {finished : List PageNo} (serves : Consistent source config.pageSize lastPage)
    (fresh : Fresh db runId) (all : finished.Perm (bulkRequests config source))
    (load : loadPages config.toContracts runId (bulkPages config source lastPage)
      (openRun db config.endpoint runId now).1 none = none) :
    (runBulk config source finished db runId now).summary = none ∧
      ∀ page, (runBulk config source finished db runId now).db.rawStaging.get? (runId, page) = none := by
  rw [runBulk_eq serves all, load]
  refine ⟨rfl, fun page => ?_⟩
  rw [rawStaging_failWith, (openRun_fresh fresh).2.1]
  exact fresh.pages page

lemma runBulk_some {finished : List PageNo} (serves : Consistent source config.pageSize lastPage)
    (fresh : Fresh db runId) (all : finished.Perm (bulkRequests config source))
    (load : loadPages config.toContracts runId (bulkPages config source lastPage)
      (openRun db config.endpoint runId now).1 none = some (loaded, total)) :
    runBulk config source finished db runId now = completeRun loaded runId total ∧
    (runBulk config source finished db runId now).summary.isSome ∧
      ∀ page payload, (page, payload) ∈ bulkPages config source lastPage →
        (runBulk config source finished db runId now).db.rawStaging.get? (runId, page) =
          some payload := by
  rw [runBulk_eq serves all, load]
  obtain ⟨_, found⟩ := loadPages_status load (openRun_fresh fresh).1
  refine ⟨rfl, completeRun_summary found, fun page payload mem => ?_⟩
  exact completeRun_stored load ((numbers_pairwise _ _).imp ne_of_lt) mem

/-- The concurrent pull leaves what the sequential one does exactly when it may pull a page, every page
    pulled can be read, and the pages after the first are the same for the source's own page size. -/
theorem bulk_equals_sequential {finished : List PageNo}
    (serves : Consistent source config.pageSize lastPage) (fresh : Fresh db runId)
    (all : finished.Perm (bulkRequests config source)) :
    SamePull (runBulk config source finished db runId now) (run config source db runId now) ↔
      1 ≤ config.maxPages ∧
      (∀ page : ℤ, 1 ≤ page → page ≤ max 1 lastPage → page ≤ config.maxPages →
        IsReadable (source page config.pageSize)) ∧
      ∀ page : ℤ, 2 ≤ page → page ≤ lastPage → page ≤ config.maxPages →
        source page none = source page config.pageSize := by
  constructor
  · intro same
    have positive : 1 ≤ config.maxPages := by
      by_contra none_allowed
      have zero : config.maxPages = 0 := Nat.lt_one_iff.mp (not_le.mp none_allowed)
      have sequential : run config source db runId now =
          completeRun (openRun db config.endpoint runId now).1 runId none := by
        rw [run_fresh fresh, zero, runPages]
      cases load : loadPages config.toContracts runId (bulkPages config source lastPage)
          (openRun db config.endpoint runId now).1 none with
      | none =>
        have completed : (completeRun (openRun db config.endpoint runId now).1 runId
            none).summary.isSome := completeRun_summary (openRun_fresh fresh).1
        rw [← sequential, ← same.summary, (runBulk_none serves fresh all load).1] at completed
        cases completed
      | some result =>
        have stored := (runBulk_some serves fresh all load).2.2 1 _ (List.mem_cons_self ..)
        rw [same.rawStaging, sequential, rawStaging_completeRun, (openRun_fresh fresh).2.1,
          fresh.pages] at stored
        cases stored
    cases load : loadPages config.toContracts runId (bulkPages config source lastPage)
        (openRun db config.endpoint runId now).1 none with
    | none =>
      have first : ((run config source db runId now).db.rawStaging.get? (runId, 1)).isSome :=
        run_stores_first serves fresh positive
      rw [← same.rawStaging, (runBulk_none serves fresh all load).2] at first
      cases first
    | some result =>
      obtain ⟨-, summary, stored⟩ := runBulk_some serves fresh all load
      cases load' : loadPages config.toContracts runId (sequentialPages config source lastPage)
          (openRun db config.endpoint runId now).1 none with
      | none =>
        rw [same.summary, run_raises serves fresh load'] at summary
        cases summary
      | some result' =>
        refine ⟨positive, (readable_iff positive).mp ?_, fun page two last max => ?_⟩
        · refine (loads_iff now fresh).mp ?_
          rw [load']
          rfl
        · have mem : page ∈ remainingPages config lastPage := remainingPages_mem.mpr ⟨two, last, max⟩
          have one := stored page _ (List.mem_cons_of_mem _ (List.mem_map_of_mem mem))
          have other : (run config source db runId now).db.rawStaging.get? (runId, page) =
              some (source page config.pageSize) := by
            rw [run_eq serves fresh load']
            rw [sequentialPages_eq positive] at load'
            exact completeRun_stored load' ((numbers_pairwise _ _).imp ne_of_lt)
              (List.mem_cons_of_mem _ (List.mem_map.mpr ⟨page, mem, rfl⟩))
          rw [same.rawStaging, other] at one
          exact (Option.some.inj one).symm
  · intro ⟨positive, readable, same⟩
    have readable := (readable_iff positive).mpr readable
    obtain ⟨result, load⟩ := Option.isSome_iff_exists.mp ((loads_iff now fresh).mpr readable)
    have sequential := run_eq serves fresh load
    rw [← bulkPages_eq positive same] at load
    rw [(runBulk_some serves fresh all load).1, sequential]
    exact ⟨fun _ => rfl, rfl, fun _ => rfl, rfl⟩

/-! ## A source of three funds -/

/-- Every record is valid, and a fund has the clients it lists. -/
def plainContracts : Contracts where
  fundModel fundRaw := .ok ⟨0, none, match fundRaw.field? "clients" with
    | some (.arr clients) => clients
    | _ => []⟩
  clientModel _ := .ok ()

def fundOfOne (page : PageNo) : Json :=
  .obj [("unit_fund_id", .num page), ("clients", .arr [.obj [("client_id", .num page)]])]

/-- A page for each fund when asked for one fund a page, one page for all of them otherwise. -/
def threeFunds (byDefault : ℤ) : Source := fun page pageSize =>
  if pageSize.getD byDefault = 1 then
    { currentPage := some page, lastPage := some 3, total := some 3,
      data := some (if 1 ≤ page ∧ page ≤ 3 then [fundOfOne page] else []) }
  else
    { currentPage := some page, lastPage := some 1, total := some 3,
      data := some (if page = 1 then [1, 2, 3].map fundOfOne else []) }

def plainConfig (pageSize : Option ℤ) : WorkerConfig :=
  { plainContracts with endpoint := "/clients", pageSize := pageSize }

lemma threeFunds_consistent (byDefault : ℤ) (pageSize : Option ℤ) :
    Consistent (threeFunds byDefault) pageSize (if pageSize.getD byDefault = 1 then 3 else 1) := by
  constructor
  · intro page _
    rw [threeFunds]
    split <;> rfl
  · intro page _
    rw [threeFunds]
    split <;> rfl

lemma fresh_empty : Fresh {} "run" := ⟨rfl, fun _ => rfl⟩

/-- The third page comes in before the second one. -/
theorem bulk_equals_sequential_sample :
    SamePull (runBulk (plainConfig none) (threeFunds 1) [3, 2] {} "run" 0)
      (run (plainConfig none) (threeFunds 1) {} "run" 0) := by
  refine (bulk_equals_sequential (threeFunds_consistent 1 none) fresh_empty (.swap 2 3 [])).mpr
    ⟨by decide, fun page one three _ => ?_, fun page _ _ _ => rfl⟩
  have three : page ≤ 3 := three
  interval_cases page <;> decide

/-- Asked for one fund a page, a bulk run goes on with the pages of the source's own size, which are
    empty after the first. -/
theorem bulk_misses_funds : ∃ (config : WorkerConfig) (source : Source) (finished : List PageNo),
    (∀ pageSize, ∃ lastPage, Consistent source pageSize lastPage) ∧ Fresh {} "run" ∧
      finished.Perm (bulkRequests config source) ∧
      ¬ SamePull (runBulk config source finished {} "run" 0) (run config source {} "run" 0) := by
  refine ⟨plainConfig (some 1), threeFunds 3, [2, 3],
    fun pageSize => ⟨_, threeFunds_consistent 3 pageSize⟩, fresh_empty, .refl _, fun same => ?_⟩
  have seen := congrArg (Option.map IngestionResult.recordsSeen) same.summary
  have bulk : (runBulk (plainConfig (some 1)) (threeFunds 3) [2, 3] {} "run" 0).summary.map
      IngestionResult.recordsSeen = some 1 := rfl
  have sequential : (run (plainConfig (some 1)) (threeFunds 3) {} "run" 0).summary.map
      IngestionResult.recordsSeen = some 3 := rfl
  rw [bulk, sequential] at seen
  cases seen

end ClientEngagement.Ingestion
