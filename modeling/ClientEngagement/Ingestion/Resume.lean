import ClientEngagement.Ingestion.Worker
import ClientEngagement.Lib.Runs

/-!
# Pulls that crash and resume

The attempts of one ingestion run as a transition system, one step per commit of `IngestionWorker.run`,
with a crash possible between any two. The cursor, the counters and the rejects move together
(`Reached`), so a page is stored or counted once. What an attempt forgets is the last page number: one
that resumes after the last page was counted asks for a page the source does not have. Every run that
never does so ends with exactly the source's pages and counts (`ingested_once`).
-/

namespace ClientEngagement.Ingestion

/-- What a worker remembers during an attempt: the last page number, the pages pulled so far, and the page
    that is stored and not counted yet. -/
structure Attempt where
  knownLastPage : Option PageNo := none
  pages : ℕ := 0
  stored : Option (PageNo × Payload) := none

structure PullState where
  db : IngestionDb
  attempt : Option Attempt := none

inductive PullLabel where
  | start (now : ℤ)
  | again (now : ℤ)
  | store
  | count
  | finish
  | crash (marked : Bool)

variable (config : WorkerConfig) (source : Source) (runId : RunId)

def cursorOf (db : IngestionDb) : Option PageNo :=
  (db.statuses.get? runId).bind IngestionStatus.pageCursor

inductive PullStep (st : PullState) : PullLabel → PullState → Prop where
  | start {now db status} (idle : st.attempt = none)
      (opened : openRun st.db config.endpoint runId now = (db, status))
      (unfinished : status.state ≠ .completed) : PullStep st (.start now) ⟨db, some {}⟩
  -- a completed run is only summarized
  | again {now db status} (idle : st.attempt = none)
      (opened : openRun st.db config.endpoint runId now = (db, status))
      (completed : status.state = .completed) : PullStep st (.again now) ⟨db, none⟩
  | store {a page payload lastPage} (going : st.attempt = some a) (free : a.stored = none)
      (within : a.pages < config.maxPages)
      (fetched : fetchPage source config.pageSize a.knownLastPage (cursorOf runId st.db) =
        some (page, payload, lastPage)) :
      PullStep st .store ⟨storeRaw st.db runId page payload,
        some { a with knownLastPage := some lastPage, stored := some (page, payload) }⟩
  | count {a page payload status db} (going : st.attempt = some a)
      (stored : a.stored = some (page, payload)) (row : st.db.statuses.get? runId = some status)
      (counted : countPage config.toContracts st.db runId status page payload = some db) :
      PullStep st .count ⟨db, some { a with pages := a.pages + 1, stored := none }⟩
  | finish {a} (going : st.attempt = some a) (free : a.stored = none)
      (ends : config.maxPages ≤ a.pages ∨
        fetchPage source config.pageSize a.knownLastPage (cursorOf runId st.db) = none) :
      PullStep st .finish ⟨st.db.setState runId .completed, none⟩
  -- the process dies, or an error is caught and the run marked as failed
  | crash {a marked} (going : st.attempt = some a) :
      PullStep st (.crash marked) ⟨if marked then markFailed st.db runId else st.db, none⟩

/-- An attempt starts where the source still has a page. -/
def ResumeGuard (pages : List Payload) (st : PullState) : PullLabel → Prop
  | .start _ => (cursorOf runId st.db).elim 1 (· + 1) ≤ pages.length
  | _ => True

/-- The page of a number, if the source has it. -/
def pageAt (pages : List Payload) (page : PageNo) : Option Payload :=
  if page ≤ 0 then none else pages[(page - 1).toNat]?

/-- The source answers with the same pages every time, and says how many there are. -/
structure Serves (pageSize : Option ℤ) (pages : List Payload) : Prop where
  answers : ∀ (k : ℕ) payload, pages[k]? = some payload → source (k + 1) pageSize = payload
  numbered : ∀ (k : ℕ) payload, pages[k]? = some payload → payload.currentPage.getD (k + 1) = k + 1
  lastPage : ∀ payload ∈ pages, payload.lastPage = some (pages.length : ℤ)

/-! ## What a run should have counted -/

variable (contracts : Contracts) (pages : List Payload)

def fundsOf : List Json := pages.flatMap fun payload => payload.data.getD []

def validFunds : List FundRecord := (fundsOf pages).filterMap (validFund? contracts)

/-- The client records of the valid funds. -/
def clientRecords : List Json := (validFunds contracts pages).flatMap FundRecord.clients

def invalidFunds : ℕ := (fundsOf pages).countP fun fundRaw => (validFund? contracts fundRaw).isNone

/-- The run has stored the pages and counted every record of them once. -/
structure Ingested (db : IngestionDb) (status : IngestionStatus) : Prop where
  stored : ∀ page, db.rawStaging.get? (runId, page) = pageAt pages page
  seen : status.recordsSeen = (clientRecords contracts pages).length
  written : status.recordsWritten = (clientRecords contracts pages).countP (isValidClient contracts)
  rejected : status.recordsRejected = invalidFunds contracts pages +
    (clientRecords contracts pages).countP (!isValidClient contracts ·)
  rows : (db.rejects.filter fun reject => reject.runId = runId).length = status.recordsRejected
  shortfall : status.shortfall = ((validFunds contracts pages).map gapOf).sum

/-- What the pages should add up to. -/
def totalTally : Tally :=
  ((clientRecords contracts pages).length,
    (clientRecords contracts pages).countP (isValidClient contracts),
    invalidFunds contracts pages + (clientRecords contracts pages).countP (!isValidClient contracts ·),
    ((validFunds contracts pages).map gapOf).sum)

lemma sum_fundTally (funds : List Json) : (funds.map (fundTally contracts)).sum =
    (((funds.filterMap (validFund? contracts)).flatMap FundRecord.clients).length,
      ((funds.filterMap (validFund? contracts)).flatMap FundRecord.clients).countP
        (isValidClient contracts),
      funds.countP (fun fundRaw => (validFund? contracts fundRaw).isNone) +
        ((funds.filterMap (validFund? contracts)).flatMap FundRecord.clients).countP
          (!isValidClient contracts ·),
      ((funds.filterMap (validFund? contracts)).map gapOf).sum) := by
  induction funds with
  | nil => rfl
  | cons fundRaw funds ih =>
    rw [List.map_cons, List.sum_cons, ih, fundTally]
    cases valid : validFund? contracts fundRaw with
    | none =>
      rw [List.filterMap_cons_none valid, List.countP_cons_of_pos (by rw [valid]; rfl)]
      simp only [Prod.mk_add_mk, zero_add]
      congr 3
      omega
    | some fund =>
      rw [List.filterMap_cons_some valid, List.countP_cons_of_neg (by rw [valid]; exact Bool.false_ne_true)]
      simp only [clientsTally, List.flatMap_cons, List.length_append, List.countP_append,
        List.map_cons, List.sum_cons, Prod.mk_add_mk, zero_add, add_zero]
      congr 3
      omega

lemma sum_pageTally : (pages.map (pageTally contracts)).sum = totalTally contracts pages := by
  have flat : (pages.map (pageTally contracts)).sum = ((fundsOf pages).map (fundTally contracts)).sum := by
    induction pages with
    | nil => rfl
    | cons payload pages ih =>
      rw [List.map_cons, List.sum_cons, ih, fundsOf, fundsOf, List.flatMap_cons, List.map_append,
        List.sum_append]
      rfl
  rw [flat, sum_fundTally]
  rfl

/-! ## What every attempt keeps -/

/-- The first `k` pages are counted and every stored page is the source's. -/
structure Reached (db : IngestionDb) (status : IngestionStatus) (k : ℕ) : Prop where
  le : k ≤ pages.length
  cursor : status.pageCursor = if k = 0 then none else some (k : ℤ)
  tally : status.tally = ((pages.take k).map (pageTally contracts)).sum
  rows : (db.rejects.filter fun reject => reject.runId = runId).length = status.recordsRejected
  counted : ∀ page : ℤ, page ≤ k → db.rawStaging.get? (runId, page) = pageAt pages page
  stored : ∀ page payload, db.rawStaging.get? (runId, page) = some payload →
    pageAt pages page = some payload

/-- An attempt knows the last page as soon as it has none left, and works on the page after the cursor. -/
structure AttemptAt (db : IngestionDb) (a : Attempt) (k : ℕ) : Prop where
  pages_le : a.pages ≤ k
  last : ∀ lastPage, a.knownLastPage = some lastPage → lastPage = pages.length
  unknown : a.knownLastPage = none → k < pages.length
  storedPage : ∀ page payload, a.stored = some (page, payload) → page = k + 1 ∧
    pages[k]? = some payload ∧ db.rawStaging.get? (runId, page) = some payload ∧
      a.knownLastPage ≠ none

/-- Nothing of the run is on file yet. -/
structure Unstarted (db : IngestionDb) : Prop where
  status : db.statuses.get? runId = none
  pages : ∀ page, db.rawStaging.get? (runId, page) = none
  rejects : (db.rejects.filter fun reject => reject.runId = runId).length = 0

/-- The run has not started, or it has counted some pages and is done only with all of them. -/
def PullInv (st : PullState) : Prop :=
  Unstarted runId st.db ∧ st.attempt = none ∨
    ∃ status k, st.db.statuses.get? runId = some status ∧
      Reached runId contracts pages st.db status k ∧
      (status.state = .completed → k = pages.length ∧ st.attempt = none) ∧
      ∀ a, st.attempt = some a → AttemptAt runId pages st.db a k

variable {config source runId contracts pages} {st st' : PullState} {db db' : IngestionDb}
  {status status' : IngestionStatus} {k : ℕ} {a : Attempt} {label : PullLabel} {now : ℤ}

lemma cursor_next {cursor : Option PageNo} (h : cursor = if k = 0 then none else some (k : ℤ)) :
    cursor.elim 1 (· + 1) = (k : ℤ) + 1 := by
  rw [h]
  split
  · rename_i zero
    rw [zero]
    rfl
  · rfl

lemma pageAt_succ : pageAt pages ((k : ℤ) + 1) = pages[k]? := by
  have positive : ¬ (k : ℤ) + 1 ≤ 0 := by omega
  have index : ((k : ℤ) + 1 - 1).toNat = k := by omega
  rw [pageAt, if_neg positive, index]

/-- A fetch after the counted pages answers with the next one, as long as there is one. -/
lemma fetchPage_next (serves : Serves source config.pageSize pages) {known cursor : Option PageNo}
    {page lastPage : PageNo} {payload : Payload}
    (cursorIs : cursor = if k = 0 then none else some (k : ℤ)) (lt : k < pages.length)
    (h : fetchPage source config.pageSize known cursor = some (page, payload, lastPage)) :
    page = k + 1 ∧ pages[k]? = some payload ∧ lastPage = pages.length := by
  rw [fetchPage, cursor_next cursorIs] at h
  dsimp only at h
  split at h
  · cases h
  · obtain ⟨answer, found⟩ : ∃ answer, pages[k]? = some answer :=
      ⟨_, List.getElem?_eq_getElem lt⟩
    rw [serves.answers k answer found] at h
    simp only [Option.some.injEq, Prod.mk.injEq] at h
    obtain ⟨pageIs, same, lastIs⟩ := h
    rw [serves.lastPage answer (List.mem_of_getElem? found)] at lastIs
    exact ⟨pageIs.symm.trans (serves.numbered k answer found), same ▸ found, lastIs.symm⟩

lemma Reached.status_only (r : Reached runId contracts pages db status k)
    (tally : status'.tally = status.tally) (cursor : status'.pageCursor = status.pageCursor)
    (raw : db'.rawStaging = db.rawStaging) (rejects : db'.rejects = db.rejects) :
    Reached runId contracts pages db' status' k := by
  have rejected : status'.recordsRejected = status.recordsRejected :=
    congrArg (fun tally : Tally => tally.2.2.1) tally
  exact ⟨r.le, cursor.trans r.cursor, tally.trans r.tally, by rw [rejects, rejected, r.rows],
    by rw [raw]; exact r.counted, by rw [raw]; exact r.stored⟩

lemma Unstarted.reached (new : Unstarted runId db) (endpoint : String) (now : ℤ)
    (raw : db'.rawStaging = db.rawStaging) (rejects : db'.rejects = db.rejects) :
    Reached runId contracts pages db' { endpoint := endpoint, startedAt := now } 0 where
  le := Nat.zero_le _
  cursor := rfl
  tally := rfl
  rows := by rw [rejects, new.rejects]
  counted page le := by
    rw [raw, new.pages, pageAt, if_pos (by exact_mod_cast le)]
  stored page payload found := by
    rw [raw, new.pages] at found
    cases found

/-- Opening a run that is not completed starts it, or sets it going again. -/
lemma openRun_cases (h : openRun db config.endpoint runId now = (db', status)) :
    (∃ old, db.statuses.get? runId = some old ∧
      (old.state = .completed ∧ db' = db ∧ status = old ∨
        old.state ≠ .completed ∧ status = { old with state := .running } ∧
          db' = { db with statuses := db.statuses.set runId status })) ∨
    db.statuses.get? runId = none ∧ status = { endpoint := config.endpoint, startedAt := now } ∧
      db' = { db with statuses := db.statuses.set runId status } := by
  rw [openRun] at h
  split at h
  · rename_i old found
    split at h
    · rename_i completed
      cases h
      exact .inl ⟨_, found, .inl ⟨completed, rfl, rfl⟩⟩
    · rename_i unfinished
      cases h
      exact .inl ⟨old, found, .inr ⟨unfinished, rfl, rfl⟩⟩
  · rename_i absent
    cases h
    exact .inr ⟨absent, rfl, rfl⟩

/-- Counting the stored page moves on to the next one. -/
lemma Reached.countPage {payload : Payload} (r : Reached runId contracts pages db status k)
    (isPage : pages[k]? = some payload) (found : db.rawStaging.get? (runId, (k : ℤ) + 1) = some payload)
    (counted : countPage contracts db runId status ((k : ℤ) + 1) payload = some db') :
    ∃ status', db'.statuses.get? runId = some status' ∧ status'.state = status.state ∧
      Reached runId contracts pages db' status' (k + 1) := by
  rw [Ingestion.countPage, Option.map_eq_some_iff] at counted
  obtain ⟨result, processed, same⟩ := counted
  have moved := processPage_ok processed
  obtain ⟨new, appended, length, mine⟩ := moved.rejects
  subst same
  obtain ⟨lt, isPage'⟩ := List.getElem?_eq_some_iff.mp isPage
  have tally : result.1.tally = ((pages.take (k + 1)).map (pageTally contracts)).sum := by
    rw [moved.tally, r.tally, List.take_add_one, List.map_append, List.sum_append, isPage]
    simp
  refine ⟨_, Dict.get?_set_self _ _ _, moved.kept.2.2.1, lt, rfl, tally, ?_, ?_, r.stored⟩
  · have rejected : result.1.recordsRejected = status.recordsRejected + new.length := by
      rw [length]
      exact congrArg (fun tally : Tally => tally.2.2.1) moved.tally
    have all : (new.filter fun reject => reject.runId = runId) = new :=
      List.filter_eq_self.mpr fun reject mem => decide_eq_true (mine reject mem)
    dsimp only
    rw [appended, List.nil_append, List.filter_append, List.length_append, r.rows, all, rejected]
  · intro page le
    rcases lt_or_eq_of_le le with before | same
    · exact r.counted page (by push_cast at before; omega)
    · rw [same]
      push_cast
      rw [found, pageAt_succ, isPage]

/-- Storing the next page leaves the counted ones. -/
lemma Reached.storeRaw {payload : Payload} (r : Reached runId contracts pages db status k)
    (isPage : pages[k]? = some payload) :
    Reached runId contracts pages (storeRaw db runId ((k : ℤ) + 1) payload) status k where
  le := r.le
  cursor := r.cursor
  tally := r.tally
  rows := r.rows
  counted page le := by
    refine (Dict.get?_set_ne _ _ ?_).trans (r.counted page le)
    intro same
    have next : page = (k : ℤ) + 1 := congrArg Prod.snd same
    omega
  stored page other found := by
    rw [Ingestion.storeRaw, Dict.get?_set] at found
    split at found
    · rename_i same
      have next : page = (k : ℤ) + 1 := congrArg Prod.snd same
      cases found
      rw [next, pageAt_succ, isPage]
    · exact r.stored page other found

/-- A run that counted every page has stored and counted what the source has. -/
lemma Reached.ingested (r : Reached runId contracts pages db status k) (all : k = pages.length) :
    Ingested runId contracts pages db status := by
  have total : status.tally = totalTally contracts pages := by
    rw [r.tally, all, List.take_length, sum_pageTally]
  have parts := Prod.ext_iff.mp total
  have parts' := Prod.ext_iff.mp parts.2
  have parts'' := Prod.ext_iff.mp parts'.2
  refine ⟨fun page => ?_, parts.1, parts'.1, parts''.1, r.rows, parts''.2⟩
  rcases le_or_gt page k with le | gt
  · exact r.counted page le
  · cases found : db.rawStaging.get? (runId, page) with
    | some payload => exact (r.stored page payload found).symm
    | none =>
      symm
      rw [pageAt]
      split
      · rfl
      · have past : (k : ℤ) < page := gt
        exact List.getElem?_eq_none (by omega)

/-! ## Runs -/

lemma statuses_setState {state : RunState} (found : db.statuses.get? runId = some status) :
    (db.setState runId state).statuses.get? runId = some { status with state := state } := by
  rw [IngestionDb.setState, found]
  exact Dict.get?_set_self _ _ _

lemma setState_frame (state : RunState) : (db.setState runId state).rawStaging = db.rawStaging ∧
    (db.setState runId state).rejects = db.rejects := by
  rw [IngestionDb.setState]
  split
  · exact ⟨rfl, rfl⟩
  · exact ⟨rfl, rfl⟩

/-- The rest of an attempt's rows and counters stay when only the run's state is written. -/
lemma Reached.setState (state : RunState) (r : Reached runId contracts pages db status k)
    (found : db.statuses.get? runId = some status) :
    (db.setState runId state).statuses.get? runId = some { status with state := state } ∧
      Reached runId contracts pages (db.setState runId state) { status with state := state } k :=
  ⟨statuses_setState found,
    r.status_only rfl rfl (setState_frame state).1 (setState_frame state).2⟩

theorem PullInv.step (serves : Serves source config.pageSize pages)
    (enough : pages.length ≤ config.maxPages) (inv : PullInv runId config.toContracts pages st)
    (guard : ResumeGuard runId pages st label) (step : PullStep config source runId st label st') :
    PullInv runId config.toContracts pages st' := by
  cases step with
  | start idle opened unfinished =>
    rcases openRun_cases opened with ⟨old, found, ⟨completed, _, same⟩ | ⟨_, same, left⟩⟩ |
      ⟨absent, same, left⟩
    · rw [same] at unfinished
      exact absurd completed unfinished
    · rcases inv with ⟨new, _⟩ | ⟨status, k, found', r, _, _⟩
      · rw [new.status] at found
        cases found
      · cases found.symm.trans found'
        have more : k < pages.length := by
          rw [ResumeGuard, cursorOf, found, Option.bind_some, cursor_next r.cursor] at guard
          have next : (k : ℤ) + 1 ≤ pages.length := guard
          omega
        refine .inr ⟨_, k, ?_, r.status_only ?_ ?_ ?_ ?_, fun done => absurd done unfinished, ?_⟩
        · rw [left]
          exact Dict.get?_set_self _ _ _
        · rw [same]
          rfl
        · rw [same]
        · rw [left]
        · rw [left]
        · rintro a ⟨⟩
          exact ⟨Nat.zero_le _, nofun, fun _ => more, nofun⟩
    · have new : Unstarted runId st.db := by
        rcases inv with ⟨new, _⟩ | ⟨status, k, found', _⟩
        · exact new
        · rw [absent] at found'
          cases found'
      have more : 0 < pages.length := by
        rw [ResumeGuard, cursorOf, absent] at guard
        have next : (1 : ℤ) ≤ pages.length := guard
        omega
      refine .inr ⟨_, 0, ?_, ?_, fun done => absurd done unfinished, ?_⟩
      · rw [left]
        exact Dict.get?_set_self _ _ _
      · rw [same]
        exact new.reached _ _ (by rw [left]) (by rw [left])
      · rintro a ⟨⟩
        exact ⟨le_rfl, nofun, fun _ => more, nofun⟩
  | again idle opened completed =>
    rcases openRun_cases opened with ⟨old, found, ⟨_, left, _⟩ | ⟨_, same, _⟩⟩ | ⟨_, same, _⟩
    · rw [left]
      rcases inv with ⟨new, _⟩ | ⟨status, k, found', r, done, _⟩
      · exact .inl ⟨new, rfl⟩
      · exact .inr ⟨status, k, found', r, fun completed => ⟨(done completed).1, rfl⟩, nofun⟩
    · rw [same] at completed
      cases completed
    · rw [same] at completed
      cases completed
  | store going free within fetched =>
    rename_i a page payload lastPage
    rcases inv with ⟨_, idle⟩ | ⟨status, k, found, r, done, attempt⟩
    · rw [idle] at going
      cases going
    · have at_ := attempt a going
      have more : k < pages.length := by
        cases known : a.knownLastPage with
        | none => exact at_.unknown known
        | some last =>
          rw [fetchPage, cursorOf, found, Option.bind_some, cursor_next r.cursor, known,
            at_.last last known] at fetched
          by_contra all
          simp only [Option.any_some, decide_eq_true_eq, Option.ite_none_left_eq_some] at fetched
          have next : ¬ (pages.length : ℤ) < (k : ℤ) + 1 := fetched.1
          omega
      rw [cursorOf, found, Option.bind_some] at fetched
      obtain ⟨rfl, isPage, lastIs⟩ := fetchPage_next serves r.cursor more fetched
      refine .inr ⟨status, k, found, r.storeRaw isPage, fun completed => ?_, ?_⟩
      · rw [(done completed).2] at going
        cases going
      · rintro a' ⟨⟩
        refine ⟨at_.pages_le, ?_, nofun, ?_⟩
        · rintro last ⟨⟩
          exact lastIs
        · rintro page other ⟨⟩
          exact ⟨rfl, isPage, Dict.get?_set_self _ _ _, nofun⟩
  | count going stored row counted =>
    rename_i a page payload status db
    rcases inv with ⟨_, idle⟩ | ⟨status', k, found, r, done, attempt⟩
    · rw [idle] at going
      cases going
    · cases row.symm.trans found
      have at_ := attempt a going
      obtain ⟨rfl, isPage, onFile, known⟩ := at_.storedPage page payload stored
      obtain ⟨status', found', sameState, r'⟩ := r.countPage isPage onFile counted
      refine .inr ⟨status', k + 1, found', r', fun completed => ?_, ?_⟩
      · rw [sameState] at completed
        rw [(done completed).2] at going
        cases going
      · rintro a' ⟨⟩
        exact ⟨Nat.succ_le_succ at_.pages_le, at_.last, fun unknown => absurd unknown known, nofun⟩
  | finish going free ends =>
    rename_i a
    rcases inv with ⟨_, idle⟩ | ⟨status, k, found, r, done, attempt⟩
    · rw [idle] at going
      cases going
    · have at_ := attempt a going
      have all : k = pages.length := by
        refine le_antisymm r.le ?_
        rcases ends with full | none_left
        · exact (enough.trans full).trans at_.pages_le
        · rw [fetchPage, cursorOf, found, Option.bind_some, cursor_next r.cursor] at none_left
          cases known : a.knownLastPage with
          | none =>
            rw [known] at none_left
            simp at none_left
          | some last =>
            rw [known, at_.last last known] at none_left
            simp only [Option.any_some, decide_eq_true_eq, ite_eq_left_iff, reduceCtorEq, imp_false,
              not_not] at none_left
            have past : (pages.length : ℤ) < (k : ℤ) + 1 := none_left
            omega
      obtain ⟨found', r'⟩ := r.setState .completed found
      exact .inr ⟨_, k, found', r', fun _ => ⟨all, rfl⟩, nofun⟩
  | crash going =>
    rename_i a marked
    rcases inv with ⟨_, idle⟩ | ⟨status, k, found, r, done, attempt⟩
    · rw [idle] at going
      cases going
    · have unfinished : status.state ≠ .completed := by
        intro completed
        rw [(done completed).2] at going
        cases going
      cases marked with
      | false => exact .inr ⟨status, k, found, r, fun completed => absurd completed unfinished, nofun⟩
      | true =>
        rw [if_pos rfl, markFailed, found]
        dsimp only
        rw [if_neg unfinished]
        obtain ⟨found', r'⟩ := r.setState .failed found
        exact .inr ⟨_, k, found', r', nofun, nofun⟩

/-- A second call with a completed run's id changes nothing. -/
lemma run_completed (found : db.statuses.get? runId = some status)
    (completed : status.state = .completed) : (run config source db runId now).db = db := by
  have opened : openRun db config.endpoint runId now = (db, status) := by
    rw [openRun, found]
    exact if_pos completed
  rw [run, opened]
  dsimp only
  rw [if_pos completed]

/-- A run none of whose attempts starts past the source's last page ends with exactly the source's pages
    stored and every record counted once, and calling it again changes nothing. -/
theorem ingested_once {start : IngestionDb} {labels : List PullLabel}
    (serves : Serves source config.pageSize pages) (enough : pages.length ≤ config.maxPages)
    (new : Unstarted runId start)
    (r : Run (Guarded (ResumeGuard runId pages) (PullStep config source runId)) { db := start }
      labels st) :
    ∀ status, st.db.statuses.get? runId = some status → status.state = .completed →
      Ingested runId config.toContracts pages st.db status ∧
        ∀ now, (run config source st.db runId now).db = st.db := by
  have inv := r.invariant (PullInv runId config.toContracts pages) (.inl ⟨new, rfl⟩)
    fun _ _ _ inv step => inv.step serves enough step.1 step.2
  intro status found completed
  refine ⟨?_, fun now => run_completed found completed⟩
  rcases inv with ⟨new, _⟩ | ⟨status', k, found', r, done, _⟩
  · rw [new.status] at found
    cases found
  · cases found.symm.trans found'
    exact r.ingested (done completed).1

/-! ## An attempt that is not interrupted -/

lemma get?_of_countPage {db db' : IngestionDb} {page : PageNo} {payload : Payload}
    (counted : countPage contracts db runId status page payload = some db') :
    ∃ status', db'.statuses.get? runId = some status' := by
  obtain ⟨counted, -, rfl⟩ := Option.map_eq_some_iff.mp counted
  exact ⟨_, Dict.get?_set_self _ _ _⟩

/-- The loop of `run` takes these steps, to its end or to its first error. -/
lemma runPages_steps {budget : ℕ} {total : Option ℤ} (going : st.attempt = some a)
    (free : a.stored = none) (left : budget + a.pages = config.maxPages)
    (found : st.db.statuses.get? runId = some status) :
    ∃ labels st', Run (PullStep config source runId) st labels st' ∧ st'.attempt = none ∧
      st'.db = (runPages config source runId budget st.db status a.knownLastPage total).db := by
  induction budget generalizing st a status total with
  | zero =>
    have full : config.maxPages ≤ a.pages := by omega
    exact ⟨_, _, .single (.finish going free (.inl full)), rfl, rfl⟩
  | succ budget ih =>
    have cursor : cursorOf runId st.db = status.pageCursor := by
      rw [cursorOf, found, Option.bind_some]
    rw [runPages]
    cases fetched : fetchPage source config.pageSize a.knownLastPage status.pageCursor with
    | none =>
      rw [← cursor] at fetched
      exact ⟨_, _, .single (.finish going free (.inr fetched)), rfl, rfl⟩
    | some answer =>
      obtain ⟨page, payload, lastPage⟩ := answer
      rw [← cursor] at fetched
      have store := PullStep.store going free (by omega) fetched
      dsimp only
      cases counted : countPage config.toContracts (storeRaw st.db runId page payload) runId status
          page payload with
      | none =>
        have crash : PullStep config source runId
            ⟨storeRaw st.db runId page payload,
              some { a with knownLastPage := some lastPage, stored := some (page, payload) }⟩
            (.crash true) ⟨markFailed (storeRaw st.db runId page payload) runId, none⟩ := .crash rfl
        exact ⟨_, _, .snoc (.single store) crash, rfl, rfl⟩
      | some db =>
        have row : (storeRaw st.db runId page payload).statuses.get? runId = some status := found
        have count : PullStep config source runId
            ⟨storeRaw st.db runId page payload,
              some { a with knownLastPage := some lastPage, stored := some (page, payload) }⟩ .count
            ⟨db, some { a with knownLastPage := some lastPage, pages := a.pages + 1, stored := none }⟩ :=
          .count (a := { a with knownLastPage := some lastPage, stored := some (page, payload) }) rfl rfl
            row counted
        obtain ⟨status', found'⟩ := get?_of_countPage counted
        dsimp only
        rw [found']
        have left : budget + (a.pages + 1) = config.maxPages := by omega
        obtain ⟨labels, st', rest, idle, same⟩ := @ih ⟨db, some _⟩ status'
          { a with knownLastPage := some lastPage, pages := a.pages + 1, stored := none }
          (payload.total.or total) rfl rfl left found'
        exact ⟨_, st', ((Run.single store).snoc count).append rest, idle, same⟩

lemma get?_openRun {db : IngestionDb} {now : ℤ} :
    (openRun db config.endpoint runId now).1.statuses.get? runId =
      some (openRun db config.endpoint runId now).2 := by
  rw [openRun]
  cases found : db.statuses.get? runId with
  | none => exact Dict.get?_set_self _ _ _
  | some status =>
    dsimp only
    split
    · exact found
    · exact Dict.get?_set_self _ _ _

/-- What `run` leaves behind is reached by steps of the system. -/
lemma run_steps (db : IngestionDb) (now : ℤ) :
    ∃ labels, Run (PullStep config source runId) ⟨db, none⟩ labels
      ⟨(run config source db runId now).db, none⟩ := by
  have opened : openRun db config.endpoint runId now =
      ((openRun db config.endpoint runId now).1, (openRun db config.endpoint runId now).2) := rfl
  rw [run]
  dsimp only
  split
  case isTrue completed => exact ⟨_, .single (.again rfl opened completed)⟩
  case isFalse unfinished =>
    have start : PullStep config source runId ⟨db, none⟩ (.start now)
        ⟨(openRun db config.endpoint runId now).1, some {}⟩ := .start rfl opened unfinished
    obtain ⟨labels, ⟨db', attempt⟩, rest, rfl, rfl⟩ := @runPages_steps config source runId
      ⟨(openRun db config.endpoint runId now).1, some {}⟩ _ {} config.maxPages none rfl rfl
      (Nat.add_zero _) get?_openRun
    exact ⟨_, (Run.single start).append rest⟩

/-! ## A source of one page -/

/-- Funds with an id and clients, and clients with an id. -/
def idContracts : Contracts where
  fundModel raw :=
    match raw.field? "unit_fund_id", raw.field? "clients" with
    | some (.num _), some (.arr clients) => .ok ⟨7, some 3, clients⟩
    | _, _ => .error "unit_fund_id Field required"
  clientModel raw :=
    match raw.field? "client_id" with
    | some (.num _) => .ok ()
    | _ => .error "client_id Field required"

def onePageConfig : WorkerConfig := { idContracts with endpoint := "inactive-clients" }

def onlyPage : Payload where
  currentPage := some 1
  lastPage := some 1
  data := some [.obj [("unit_fund_id", .num 7), ("clients", .arr [.obj [("client_id", .num 5)], .obj []])]]

/-- Past its page the source answers with an empty one. -/
def onePageSource : Source := fun page _ =>
  if page = 1 then onlyPage
  else { currentPage := some page, lastPage := some 1, data := some [] }

lemma onePageSource_serves : Serves onePageSource none [onlyPage] where
  answers
  | 0, _, rfl => rfl
  numbered
  | 0, _, rfl => rfl
  lastPage payload mem := by
    cases List.mem_singleton.mp mem
    rfl

/-- One attempt dies with the page stored and not counted, the next one completes. -/
theorem ingested_once_sample : ∃ st status,
    Run (Guarded (ResumeGuard "run" [onlyPage]) (PullStep onePageConfig onePageSource "run"))
      { db := {} } [.start 0, .store, .crash false, .start 1, .store, .count, .finish] st ∧
    st.db.statuses.get? "run" = some status ∧ Ingested "run" idContracts [onlyPage] st.db status := by
  have r : ∃ st, Run (Guarded (ResumeGuard "run" [onlyPage])
      (PullStep onePageConfig onePageSource "run")) { db := {} }
        [.start 0, .store, .crash false, .start 1, .store, .count, .finish] st ∧
      ∃ status, st.db.statuses.get? "run" = some status ∧ status.state = .completed := by
    refine ⟨_, .snoc (.snoc (.snoc (.snoc (.snoc (.snoc (.snoc .nil
      ⟨?_, .start rfl rfl nofun⟩) ⟨trivial, .store rfl rfl (by decide) rfl⟩)
      ⟨trivial, .crash rfl⟩) ⟨?_, .start rfl rfl nofun⟩)
      ⟨trivial, .store rfl rfl (by decide) rfl⟩) ⟨trivial, .count rfl rfl rfl rfl⟩)
      ⟨trivial, .finish rfl rfl (.inr rfl)⟩, _, rfl, rfl⟩
    · exact Int.le_refl 1
    · exact Int.le_refl 1
  obtain ⟨st, r, status, found, completed⟩ := r
  exact ⟨st, status, r, found, (ingested_once onePageSource_serves (by decide)
    ⟨rfl, fun _ => rfl, rfl⟩ r status found completed).1⟩

/-- An attempt dies after the last page is counted: the next one pulls and stores a second page. -/
theorem page_past_the_last : ∃ labels st status,
    Run (PullStep onePageConfig onePageSource "run") { db := {} } labels st ∧
      st.db.statuses.get? "run" = some status ∧ status.state = .completed ∧
      ¬ Ingested "run" idContracts [onlyPage] st.db status := by
  have r : ∃ st, Run (PullStep onePageConfig onePageSource "run") { db := {} }
      [.start 0, .store, .count, .crash false, .start 1, .store, .count, .finish] st ∧
      (∃ status, st.db.statuses.get? "run" = some status ∧ status.state = .completed) ∧
      (st.db.rawStaging.get? ("run", 2)).isSome = true :=
    ⟨_, .snoc (.snoc (.snoc (.snoc (.snoc (.snoc (.snoc (.snoc .nil
      (.start rfl rfl nofun)) (.store rfl rfl (by decide) rfl)) (.count rfl rfl rfl rfl))
      (.crash rfl)) (.start rfl rfl nofun)) (.store rfl rfl (by decide) rfl))
      (.count rfl rfl rfl rfl)) (.finish rfl rfl (.inr rfl)), ⟨_, rfl, rfl⟩, rfl⟩
  obtain ⟨st, r, ⟨status, found, completed⟩, second⟩ := r
  refine ⟨_, st, status, r, found, completed, fun ingested => ?_⟩
  rw [ingested.stored 2] at second
  cases second

end ClientEngagement.Ingestion
