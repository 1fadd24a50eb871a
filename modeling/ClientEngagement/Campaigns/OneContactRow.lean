import ClientEngagement.Campaigns.Enrollment

/-!
# Every person has one contact row

A campaign's enrollments over any calls of `enrollCohort`: which rows a call adds, which of them are contact
rows, and that every name has one contact row, the largest of the call that enrolled it, exactly in the runs
in which no client's name is the id of a client without one (`one_contact_row_iff`).
-/

namespace ClientEngagement.Campaigns

variable {vault : VaultNames} {w w' : EnrollWorld} {l : EnrollLabel} {clientId other : ClientId} {name : String}
  {row : Enrollment} {key : CampaignId × ClientId}

/-! ## What a call adds -/

/-- The clients a call enrolls, the values it ranks them by and the names that are taken. -/
def EnrollLabel.newIds (l : EnrollLabel) (w : EnrollWorld) : List ClientId :=
  newClientIds w.enrollments l.campaignId l.clientIds

def EnrollLabel.values (l : EnrollLabel) (w : EnrollWorld) : Dict ClientId ℚ :=
  relationshipValues l.purchases (l.newIds w)

def EnrollLabel.claimed (l : EnrollLabel) (vault : VaultNames) (w : EnrollWorld) : List String :=
  claimedNames vault w.enrollments l.campaignId

def EnrollLabel.created (l : EnrollLabel) (vault : VaultNames) (w : EnrollWorld) : List Enrollment :=
  createdRows (rankPrimaryFlags vault (l.values w) (l.newIds w) (l.claimed vault w)) l.campaignId l.now
    w.nextEnrollmentId (l.newIds w)

lemma mem_newIds : clientId ∈ l.newIds w ↔
    clientId ∈ l.clientIds ∧ w.enrollments.get? (l.campaignId, clientId) = none := by
  rw [EnrollLabel.newIds, newClientIds, List.mem_filter, Dict.mem_keys_iff]
  simp only [Dict.get?_ofList_map (fun _ => ()), Dict.contains, decide_eq_true_iff, Bool.not_eq_true,
    Option.isSome_eq_false_iff, Option.isNone_iff_eq_none]
  apply and_congr_left'
  split_ifs with listed
  · exact ⟨fun _ => listed, fun _ => ⟨(), rfl⟩⟩
  · refine ⟨?_, fun h => absurd h listed⟩
    rintro ⟨_, absent⟩
    cases absent

lemma nodup_newIds : (l.newIds w).Nodup := (Dict.keys_nodup _).filter _

lemma map_createdRows {flags : Dict ClientId Bool} {campaignId : CampaignId} {now : Rules.Instant}
    (next : EnrollmentId) (ids : List ClientId) :
    (createdRows flags campaignId now next ids).map Enrollment.clientId = ids := by
  induction ids generalizing next with
  | nil => rfl
  | cons id ids ih => rw [createdRows, List.map_cons, ih]

lemma mem_createdRows {flags : Dict ClientId Bool} {campaignId : CampaignId} {now : Rules.Instant}
    {next : EnrollmentId} {ids : List ClientId} (mem : row ∈ createdRows flags campaignId now next ids) :
    row.campaignId = campaignId ∧ row.clientId ∈ ids ∧ row.isPrimaryContactRow = flags.getD row.clientId true := by
  induction ids generalizing next with
  | nil => cases mem
  | cons id ids ih =>
    rw [createdRows, List.mem_cons] at mem
    rcases mem with rfl | later
    · exact ⟨rfl, List.mem_cons_self, rfl⟩
    · obtain ⟨campaign, listed, flag⟩ := ih later
      exact ⟨campaign, List.mem_cons_of_mem _ listed, flag⟩

lemma exists_created (mem : clientId ∈ l.newIds w) : ∃ row ∈ l.created vault w, row.clientId = clientId := by
  have listed : clientId ∈ (l.created vault w).map Enrollment.clientId := by
    rw [EnrollLabel.created, map_createdRows]
    exact mem
  exact List.mem_map.mp listed

lemma created_new (mem : row ∈ l.created vault w) : row.clientId ∈ l.newIds w := (mem_createdRows mem).2.1

/-- A new row is a contact row exactly when its client is the first of its key and its name is free. -/
lemma created_primary_iff (mem : row ∈ l.created vault w) : row.isPrimaryContactRow = true ↔
    WindowFirst vault (l.values w) (l.claimed vault w) (l.newIds w) row.clientId := by
  obtain ⟨flag, window, means⟩ := get?_rankFlags
    (created_new mem)
  rw [(mem_createdRows mem).2.2, Dict.getD, window, Option.getD_some, means, WindowFirst]

lemma enrollStep_eq (st : EnrollStep vault w l w') : w' =
    { enrollments := (l.created vault w).foldl (fun rows row => rows.set (l.campaignId, row.clientId) row)
        w.enrollments
      nextEnrollmentId := w.nextEnrollmentId + (l.created vault w).length
      calls := w.calls ++ [⟨l.campaignId, l.clientIds, l.values w, l.created vault w⟩] } := by
  rw [EnrollStep, enrollCohort] at st
  split at st
  · cases st
  · exact (Option.some_inj.mp st).symm

/-! ## The table after a call -/

lemma foldl_rows (campaignId : CampaignId) (rows : List Enrollment) (table : EnrollmentTable) :
    rows.foldl (fun rows row => rows.set (campaignId, row.clientId) row) table =
      (rows.map fun row => ((campaignId, row.clientId), row)).foldl (fun d b => d.set b.1 b.2) table := by
  rw [List.foldl_map]

lemma nodup_created : ((l.created vault w).map fun row => ((l.campaignId, row.clientId), row)).map Prod.fst
    |>.Nodup := by
  rw [List.map_map]
  have ids : ((l.created vault w).map Enrollment.clientId).Nodup := by
    rw [EnrollLabel.created, map_createdRows]
    exact nodup_newIds
  have keys := ids.map (f := fun id => (l.campaignId, id)) fun a b same => (Prod.mk.inj same).2
  rwa [List.map_map] at keys

/-- A new row is in the table. -/
lemma get?_created (st : EnrollStep vault w l w') (mem : row ∈ l.created vault w) :
    w'.enrollments.get? (l.campaignId, row.clientId) = some row := by
  rw [enrollStep_eq st]
  simp only [foldl_rows]
  exact Dict.get?_foldl_set_of_mem nodup_created (List.mem_map_of_mem mem)

/-- The rest of the table is as it was. -/
lemma get?_not_created (st : EnrollStep vault w l w') (old : key.1 ≠ l.campaignId ∨ key.2 ∉ l.newIds w) :
    w'.enrollments.get? key = w.enrollments.get? key := by
  rw [enrollStep_eq st]
  simp only [foldl_rows]
  apply Dict.get?_foldl_set_of_not_mem
  rw [List.map_map]
  intro mem
  obtain ⟨row, created, rfl⟩ := List.mem_map.mp mem
  rcases old with campaign | id
  · exact campaign rfl
  · exact id (created_new created)

/-- No row that is there changes. -/
lemma get?_kept (st : EnrollStep vault w l w') (here : w.enrollments.get? key = some row) :
    w'.enrollments.get? key = some row := by
  rw [get?_not_created st, here]
  by_contra neither
  rw [not_or, not_not, not_not] at neither
  have absent := (mem_newIds.mp neither.2).2
  rw [← neither.1, Prod.mk.eta, here] at absent
  cases absent

/-- Every row was there or is new. -/
lemma get?_cases (st : EnrollStep vault w l w') (here : w'.enrollments.get? key = some row) :
    w.enrollments.get? key = some row ∨ (key = (l.campaignId, row.clientId) ∧ row ∈ l.created vault w) := by
  by_cases new : key.1 = l.campaignId ∧ key.2 ∈ l.newIds w
  · obtain ⟨made, mem, id⟩ := exists_created new.2
    have same := get?_created st mem
    have key_eq : key = (l.campaignId, made.clientId) := Prod.ext new.1 id.symm
    rw [← key_eq, here, Option.some_inj] at same
    subst same
    exact Or.inr ⟨key_eq, mem⟩
  · rw [not_and_or] at new
    rw [get?_not_created st new] at here
    exact Or.inl here

lemma mem_calls (st : EnrollStep vault w l w') {call : EnrollCall} : call ∈ w'.calls ↔
    call ∈ w.calls ∨ call = ⟨l.campaignId, l.clientIds, l.values w, l.created vault w⟩ := by
  rw [enrollStep_eq st, List.mem_append, List.mem_singleton]

/-- The names that are taken are those of the campaign's contact rows. -/
lemma mem_claimedNames {campaignId : CampaignId} : name ∈ claimedNames vault w.enrollments campaignId ↔
    ∃ id row, w.enrollments.get? (campaignId, id) = some row ∧ row.isPrimaryContactRow = true ∧
      vault.filled id = some name := by
  have primary (id : ClientId) : id ∈ (w.enrollments.items.filterMap fun row =>
      if row.1.1 = campaignId ∧ row.2.isPrimaryContactRow = true then some row.1.2 else none) ↔
      ∃ row, w.enrollments.get? (campaignId, id) = some row ∧ row.isPrimaryContactRow = true := by
    rw [List.mem_filterMap]
    constructor
    · rintro ⟨⟨⟨campaign, id'⟩, row⟩, listed, kept⟩
      split_ifs at kept with both
      cases kept
      obtain ⟨rfl, contact⟩ := both
      exact ⟨row, (Dict.mem_items_iff _).mp listed, contact⟩
    · rintro ⟨row, here, contact⟩
      exact ⟨((campaignId, id), row), (Dict.mem_items_iff _).mpr here, if_pos ⟨rfl, contact⟩⟩
  rw [claimedNames, List.mem_filterMap]
  constructor
  · rintro ⟨⟨id, own⟩, listed, named⟩
    simp only at named
    subst named
    rw [Dict.mem_items_iff, fetchClientNames, Dict.get?_ofList_map] at listed
    split_ifs at listed with among
    · obtain ⟨row, here, contact⟩ := (primary id).mp among
      exact ⟨id, row, here, contact, Option.some_inj.mp listed⟩
  · rintro ⟨id, row, here, contact, named⟩
    refine ⟨(id, some name), ?_, rfl⟩
    rw [Dict.mem_items_iff, fetchClientNames, Dict.get?_ofList_map, if_pos ((primary id).mpr ⟨row, here, contact⟩), named]

/-! ## The law -/

/-- What holds of the enrollments after any calls. -/
structure OneContactRow (vault : VaultNames) (w : EnrollWorld) : Prop where
  keyed : ∀ key row, w.enrollments.get? key = some row → key = (row.campaignId, row.clientId)
  enrolled : ∀ call ∈ w.calls, ∀ id ∈ call.clientIds, ∃ row, w.enrollments.get? (call.campaignId, id) = some row
  kept : ∀ call ∈ w.calls, ∀ row ∈ call.created, w.enrollments.get? (call.campaignId, row.clientId) = some row
  atMostOne : ∀ campaignId id id' row row' name, w.enrollments.get? (campaignId, id) = some row →
    w.enrollments.get? (campaignId, id') = some row' → row.isPrimaryContactRow = true →
    row'.isPrimaryContactRow = true → vault.filled id = some name → vault.filled id' = some name → id = id'
  atLeastOne : ∀ campaignId id row name, w.enrollments.get? (campaignId, id) = some row →
    vault.filled id = some name → ∃ id' row', w.enrollments.get? (campaignId, id') = some row' ∧
      row'.isPrimaryContactRow = true ∧ vault.filled id' = some name
  largest : ∀ call ∈ w.calls, ∀ row ∈ call.created, ∀ other ∈ call.created, ∀ name,
    row.isPrimaryContactRow = true → vault.filled row.clientId = some name →
    vault.filled other.clientId = some name → ¬ Ahead call.values other.clientId row.clientId

/-- A new client's free name that is the id of a new client without one is also the name of a new client ahead
    of that one. -/
def NamesBeforeIds (vault : VaultNames) (w : EnrollWorld) (l : EnrollLabel) : Prop :=
  ∀ nameless ∈ l.newIds w, vault.nameOf nameless = none → ∀ named ∈ l.newIds w,
    vault.nameOf named = some (toString nameless) → toString nameless ∉ l.claimed vault w →
    ∃ first ∈ l.newIds w, vault.nameOf first = some (toString nameless) ∧ Ahead (l.values w) first nameless

lemma oneContactRow_fresh : OneContactRow vault {} := by
  have empty (key : CampaignId × ClientId) : ({} : EnrollWorld).enrollments.get? key = none := rfl
  constructor
  · intro key row here
    rw [empty] at here
    cases here
  · intro call mem
    cases mem
  · intro call mem
    cases mem
  · intro campaignId id id' row row' name here
    rw [empty] at here
    cases here
  · intro campaignId id row name here
    rw [empty] at here
    cases here
  · intro call mem
    cases mem

/-- A contact row a call adds is the first of its name there, and nobody had the name before. -/
lemma created_first (mem : row ∈ l.created vault w) (contact : row.isPrimaryContactRow = true)
    (named : vault.filled row.clientId = some name) : name ∉ l.claimed vault w ∧
      ∀ other ∈ l.newIds w, vault.filled other = some name → ¬ Ahead (l.values w) other row.clientId := by
  obtain ⟨first, free⟩ := (created_primary_iff mem).mp contact
  obtain ⟨own, _⟩ := filled_eq_some.mp named
  refine ⟨free name own, ?_⟩
  intro other among also
  apply first other among
  rw [partitionKey_named own, partitionKey_named (filled_eq_some.mp also).1]

/-- The first of the new clients of a free name is contacted, unless a client without a name whose id it is
    ranks before it. -/
lemma exists_contact (guard : NamesBeforeIds vault w l) (mem : clientId ∈ l.newIds w)
    (named : vault.filled clientId = some name) (free : name ∉ l.claimed vault w) :
    ∃ row ∈ l.created vault w, row.isPrimaryContactRow = true ∧ vault.filled row.clientId = some name := by
  obtain ⟨own, filled⟩ := filled_eq_some.mp named
  have listed : clientId ∈ (l.newIds w).filter fun c => vault.nameOf c = some name :=
    List.mem_filter.mpr ⟨mem, decide_eq_true own⟩
  obtain ⟨first, among, nobody⟩ := exists_first (l.values w) listed
  obtain ⟨first_mem, first_named⟩ := List.mem_filter.mp among
  have first_named := of_decide_eq_true first_named
  obtain ⟨row, created, rfl⟩ := exists_created first_mem
  refine ⟨row, created, ?_, filled_eq_some.mpr ⟨first_named, filled⟩⟩
  rw [created_primary_iff created]
  constructor
  · intro other other_mem same ahead
    rcases partitionKey_eq same first_named with also | ⟨nameless, text⟩
    · exact nobody other (List.mem_filter.mpr ⟨other_mem, decide_eq_true also⟩) ahead
    · rw [← text] at first_named free nobody
      obtain ⟨before, before_mem, before_named, before_ahead⟩ :=
        guard other other_mem nameless _ first_mem first_named free
      apply nobody before (List.mem_filter.mpr ⟨before_mem, decide_eq_true before_named⟩)
      exact lt_trans before_ahead ahead
  · intro name' also
    rw [first_named] at also
    cases also
    exact free

/-- A call that meets the condition keeps the law. -/
lemma OneContactRow.step (h : OneContactRow vault w) (st : EnrollStep vault w l w')
    (guard : NamesBeforeIds vault w l) : OneContactRow vault w' where
  keyed := by
    intro key row here
    rcases get?_cases st here with old | ⟨rfl, created⟩
    · exact h.keyed key row old
    · rw [(mem_createdRows created).1]
  enrolled := by
    intro call mem id listed
    rcases (mem_calls st).mp mem with old | rfl
    · obtain ⟨row, here⟩ := h.enrolled call old id listed
      exact ⟨row, get?_kept st here⟩
    · by_cases new : id ∈ l.newIds w
      · obtain ⟨row, created, rfl⟩ := exists_created new
        exact ⟨row, get?_created st created⟩
      · rw [mem_newIds, not_and, ← ne_eq, Option.ne_none_iff_exists'] at new
        obtain ⟨row, here⟩ := new listed
        exact ⟨row, get?_kept st here⟩
  kept := by
    intro call mem row created
    rcases (mem_calls st).mp mem with old | rfl
    · exact get?_kept st (h.kept call old row created)
    · exact get?_created st created
  atMostOne := by
    intro campaignId id id' row row' name here here' contact contact' named named'
    have taken {id : ClientId} {row : Enrollment} (here : w.enrollments.get? (l.campaignId, id) = some row)
        (contact : row.isPrimaryContactRow = true) (named : vault.filled id = some name) :
        name ∈ l.claimed vault w :=
      mem_claimedNames.mpr ⟨id, row, here, contact, named⟩
    rcases get?_cases st here with old | ⟨eq, created⟩ <;> rcases get?_cases st here' with old' | ⟨eq', created'⟩
    · exact h.atMostOne campaignId id id' row row' name old old' contact contact' named named'
    · obtain ⟨rfl, rfl⟩ := Prod.mk.inj eq'
      exact absurd (taken old contact named) (created_first created' contact' named').1
    · obtain ⟨rfl, rfl⟩ := Prod.mk.inj eq
      exact absurd (taken old' contact' named') (created_first created contact named).1
    · obtain ⟨rfl, rfl⟩ := Prod.mk.inj eq
      obtain ⟨_, rfl⟩ := Prod.mk.inj eq'
      by_contra ne
      rcases ahead_or_ahead ne with ahead | ahead
      · exact (created_first created' contact' named').2 _ (created_new created) named ahead
      · exact (created_first created contact named).2 _ (created_new created') named' ahead
  atLeastOne := by
    intro campaignId id row name here named
    rcases get?_cases st here with old | ⟨eq, created⟩
    · obtain ⟨id', row', here', contact, named'⟩ := h.atLeastOne campaignId id row name old named
      exact ⟨id', row', get?_kept st here', contact, named'⟩
    · obtain ⟨rfl, rfl⟩ := Prod.mk.inj eq
      by_cases free : name ∈ l.claimed vault w
      · obtain ⟨id', row', here', contact, named'⟩ := mem_claimedNames.mp free
        exact ⟨id', row', get?_kept st here', contact, named'⟩
      · obtain ⟨row', created', contact, named'⟩ := exists_contact guard (created_new created) named free
        exact ⟨row'.clientId, row', get?_created st created', contact, named'⟩
  largest := by
    intro call mem row created other created' name contact named named'
    rcases (mem_calls st).mp mem with old | rfl
    · exact h.largest call old row created other created' name contact named named'
    · exact (created_first created contact named).2 _ (created_new created') named'

/-- A call after which every name has a contact row meets the condition. -/
lemma namesBeforeIds_of_kept (st : EnrollStep vault w l w') (kept : OneContactRow vault w') :
    NamesBeforeIds vault w l := by
  intro nameless nameless_mem no_name named named_mem own free
  by_contra nobody
  obtain ⟨row, created, rfl⟩ := exists_created named_mem
  have filled : vault.filled row.clientId = some (toString nameless) :=
    filled_eq_some.mpr ⟨own, toString_ne_empty nameless⟩
  obtain ⟨id, contact, here, primary, also⟩ :=
    kept.atLeastOne l.campaignId row.clientId row _ (get?_created st created) filled
  rcases get?_cases st here with old | ⟨eq, made⟩
  · exact free (mem_claimedNames.mpr ⟨id, contact, old, primary, also⟩)
  · obtain ⟨_, rfl⟩ := Prod.mk.inj eq
    have contact_named := (filled_eq_some.mp also).1
    have first := ((created_primary_iff made).mp primary).1 nameless nameless_mem
    rw [partitionKey_nameless no_name, partitionKey_named contact_named] at first
    have ne : contact.clientId ≠ nameless := by
      rintro same
      rw [same, no_name] at contact_named
      cases contact_named
    rcases ahead_or_ahead ne with ahead | ahead
    · exact nobody ⟨contact.clientId, created_new made, contact_named, ahead⟩
    · exact first rfl ahead

/-- Every person has one contact row in every state of a run exactly when every call meets the condition. -/
theorem one_contact_row_iff (vault : VaultNames) (ls : List EnrollLabel) (w : EnrollWorld) :
    Run (Guarded (NamesBeforeIds vault) (EnrollStep vault)) {} ls w ↔
      Run (Keeping (OneContactRow vault) (EnrollStep vault)) {} ls w := by
  apply Run.guarded_iff_keeping oneContactRow_fresh
  intro t l u inv st
  constructor
  · exact inv.step st
  · exact namesBeforeIds_of_kept st

/-! ## A name that is an id -/

/-- Client 1 is called "5" in the vault; client 5, who invested more, has no name there. -/
def namedFive : VaultNames := .ofList [(1, some "5")]

def enrollBoth : EnrollLabel where
  purchases := .ofList [(1, 100), (5, 200)]
  now := 0
  campaignId := 1
  clientIds := [1, 5]

/-- One call enrolls both, and nobody called "5" is contacted. -/
theorem named_five_not_contacted :
    ∃ w, Run (EnrollStep namedFive) {} [enrollBoth] w ∧ ¬ OneContactRow namedFive w := by
  have flag : (enrollCohort namedFive enrollBoth.purchases 0 {} 1 [1, 5]).map
      (fun w => (w.enrollments.get? (1, 1)).map Enrollment.isPrimaryContactRow) = some (some false) := by
    decide +kernel
  obtain ⟨w, st, row_eq⟩ := Option.map_eq_some_iff.mp flag
  obtain ⟨row, here, unset⟩ := Option.map_eq_some_iff.mp row_eq
  refine ⟨w, .single st, ?_⟩
  intro law
  obtain ⟨id, contact, also, primary, named⟩ := law.atLeastOne 1 1 row "5" here (by decide)
  have only : id = 1 := by
    by_contra other
    have nameless : namedFive.nameOf id = none := by
      rw [VaultNames.nameOf, Dict.getD, namedFive, Dict.ofList, List.foldl_cons, List.foldl_nil,
        Dict.get?_set_ne _ _ other]
      rfl
    rw [filled_eq_some, nameless] at named
    cases named.1
  subst only
  rw [here, Option.some_inj] at also
  subst also
  rw [unset] at primary
  cases primary

end ClientEngagement.Campaigns
