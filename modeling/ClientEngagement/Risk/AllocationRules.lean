import ClientEngagement.Risk.Overflow

/-!
# The rules of the allocation

The rules in the header of `risk/fa_allocation.py`, as one specification `MeetsRules`, and the proof
that `allocateAdvisors` meets it for every roster with at least one advisor
(`allocateAdvisors_meetsRules`). An environment with no roster is left untouched instead
(`allocateAdvisors_nil`).
-/

namespace ClientEngagement.Risk
open Lending

/-! ## The specification -/

/-- The clients an advisor phones tonight. -/
def callsOf (clients : List ClientLoad) (a : AdvisorAllocation) (f : FaId) : List ClientLoad :=
  clients.filter fun c =>
    c.inCallQueue ∧ c.clientId ∉ a.demoted ∧ a.advisorFor c.clientId = some f

/-- The clients of its own queue an advisor keeps. -/
def ownCalls (clients : List ClientLoad) (a : AdvisorAllocation) (f : FaId) : List ClientLoad :=
  (queueOf clients a.owner f).filter fun c =>
    c.clientId ∉ a.covering.keys ∧ c.clientId ∉ a.demoted

/-- The lines over capacity, all advisors together. -/
def totalOverflow (roster : List FaRecord) (clients : List ClientLoad)
    (owner : Dict ClientId FaId) : ℕ :=
  (roster.map fun r => (queueOf clients owner r.faId).length - r.dailyCapacity).sum

/-- The room left, all advisors together. -/
def totalRoom (roster : List FaRecord) (clients : List ClientLoad)
    (owner : Dict ClientId FaId) : ℕ :=
  (roster.map fun r => r.dailyCapacity - (queueOf clients owner r.faId).length).sum

/-- What an allocation promises. -/
structure MeetsRules (roster : List FaRecord) (clients : List ClientLoad)
    (currentOwners sourceOwners : Dict ClientId FaId) (a : AdvisorAllocation) : Prop where
  owned : ∀ c ∈ clients, ∃! f, f ∈ roster.map FaRecord.faId ∧ a.owner.get? c.clientId = some f
  keeps_source : ∀ c ∈ clients, ∀ f, sourceOwners.get? c.clientId = some f →
    f ∈ roster.map FaRecord.faId → a.owner.get? c.clientId = some f
  keeps_current : ∀ c ∈ clients, ∀ f, (∀ g ∈ sourceOwners.get? c.clientId,
      g ∉ roster.map FaRecord.faId) → currentOwners.get? c.clientId = some f →
    f ∈ roster.map FaRecord.faId → a.owner.get? c.clientId = some f
  covering_queue : ∀ id ∈ a.covering.keys, ∃ c ∈ clients, c.inCallQueue ∧ c.clientId = id
  demoted_queue : ∀ id ∈ a.demoted, ∃ c ∈ clients, c.inCallQueue ∧ c.clientId = id
  disjoint : ∀ id ∈ a.covering.keys, id ∉ a.demoted
  within_capacity : ∀ r ∈ roster, (callsOf clients a r.faId).length ≤ r.dailyCapacity
  keeps_count : ∀ r ∈ roster, (ownCalls clients a r.faId).length =
    min r.dailyCapacity (queueOf clients a.owner r.faId).length
  keeps_largest : ∀ r ∈ roster, ∀ c ∈ ownCalls clients a r.faId,
    ∀ d ∈ queueOf clients a.owner r.faId, d ∉ ownCalls clients a r.faId →
      lightestFirst d < lightestFirst c
  lent_count : a.covering.keys.length =
    min (totalOverflow roster clients a.owner) (totalRoom roster clients a.owner)
  lent_first : ∀ c ∈ clients, ∀ d ∈ clients, c.clientId ∈ a.covering.keys →
    d.clientId ∈ a.demoted → heaviestFirst c < heaviestFirst d

variable {roster : List FaRecord} {clients : List ClientLoad} {owner : Dict ClientId FaId}

lemma lightestFirst_lt {c d : ClientLoad} (ne : c.clientId ≠ d.clientId)
    (le : lightestFirst c ≤ lightestFirst d) : lightestFirst c < lightestFirst d := by
  refine lt_of_le_of_ne le fun e => ne ?_
  exact congrArg (fun k => (ofLex k).2) e

lemma heaviestFirst_lt {c d : ClientLoad} (ne : c.clientId ≠ d.clientId)
    (le : heaviestFirst c ≤ heaviestFirst d) : heaviestFirst c < heaviestFirst d := by
  refine lt_of_le_of_ne le fun e => ne ?_
  exact congrArg (fun k => (ofLex k).2) e

/-- Tonight's allocation for an ownership. -/
def tonightFor (roster : List FaRecord) (clients : List ClientLoad)
    (owner : Dict ClientId FaId) : AdvisorAllocation where
  owner := owner
  covering := (lendOverflow roster clients owner).covering
  demoted := (lendOverflow roster clients owner).demoted

@[simp] lemma tonightFor_owner : (tonightFor roster clients owner).owner = owner := rfl

@[simp] lemma tonightFor_covering :
    (tonightFor roster clients owner).covering = (lendOverflow roster clients owner).covering := rfl

@[simp] lemma tonightFor_demoted :
    (tonightFor roster clients owner).demoted = (lendOverflow roster clients owner).demoted := rfl

/-! ## The overflow rules -/

lemma mem_excessOf_or_drop {f : FaId} {c : ClientLoad} (hc : c ∈ queueOf clients owner f)
    (hno : c ∉ excessOf roster clients owner f) {d : ClientLoad}
    (hd : d ∈ excessOf roster clients owner f) : lightestFirst d ≤ lightestFirst c := by
  rw [excessOf, excess] at hno hd
  split at hd
  · cases hd
  · rename_i hlen
    rw [if_neg hlen] at hno
    have hs := (mem_sortBy (f := lightestFirst)).mpr hc
    rcases mem_take_or_drop _ hs with h | h
    · exact absurd h hno
    · exact le_of_mem_take_drop hd h

lemma totalRoom_eq (nd : (roster.map FaRecord.faId).Nodup) :
    totalRoom roster clients owner = spareTotal roster clients owner := by
  rw [totalRoom, spareTotal, spare, List.map_map]
  congr 1
  apply List.map_congr_left
  intro r hr
  simp [capacity_record nd hr, queueLength]

namespace Book

lemma totalOverflow_eq (b : Book roster clients owner) :
    totalOverflow roster clients owner = (queueOverflow roster clients owner).length := by
  rw [← sum_owed (homeOf owner) b.roster_nodup, totalOverflow, List.map_map]
  · congr 1
    apply List.map_congr_left
    intro r hr
    simp [b.owed_queueOverflow, capacity_record b.roster_nodup hr, queueLength]
  · intro c hc
    obtain ⟨hmem, -, ho⟩ := mem_clients_of_mem_overflow (mem_sortBy.mp hc)
    obtain ⟨f, hf, e⟩ := b.owned c hmem
    rw [e] at ho
    cases ho
    exact hf

lemma covered_iff (b : Book roster clients owner) {c : ClientLoad} (hc : c ∈ clients) :
    c.clientId ∈ (tonightFor roster clients owner).covering.keys ↔
      c ∈ (queueOverflow roster clients owner).take (spareTotal roster clients owner) := by
  rw [tonightFor_covering, lendOverflow_covering b, List.mem_map]
  constructor
  · rintro ⟨d, hd, e⟩
    have hd' := mem_clients_of_mem_overflow (mem_sortBy.mp (List.mem_of_mem_take hd))
    rwa [← b.eq_of_id_eq hd'.1 hc e]
  · intro h
    exact ⟨c, h, rfl⟩

lemma demoted_iff (b : Book roster clients owner) {c : ClientLoad} (hc : c ∈ clients) :
    c.clientId ∈ (tonightFor roster clients owner).demoted ↔
      c ∈ (queueOverflow roster clients owner).drop (spareTotal roster clients owner) := by
  rw [tonightFor_demoted, lendOverflow_demoted b, List.mem_toFinset, List.mem_map]
  constructor
  · rintro ⟨d, hd, e⟩
    have hd' := mem_clients_of_mem_overflow (mem_sortBy.mp (List.mem_of_mem_drop hd))
    rwa [← b.eq_of_id_eq hd'.1 hc e]
  · intro h
    exact ⟨c, h, rfl⟩

/-- What an advisor keeps is its queue without the excess. -/
lemma mem_ownCalls (b : Book roster clients owner) {f : FaId} {c : ClientLoad} :
    c ∈ ownCalls clients (tonightFor roster clients owner) f ↔
      c ∈ queueOf clients owner f ∧ c ∉ excessOf roster clients owner f := by
  simp only [ownCalls, List.mem_filter, decide_eq_true_eq, tonightFor_owner]
  refine and_congr_right fun hq => ?_
  have hc := mem_queueOf.mp hq
  rw [b.covered_iff hc.1, b.demoted_iff hc.1, ← not_or, ← List.mem_append, List.take_append_drop,
    queueOverflow, mem_sortBy, mem_overflow_home, homeOf_eq hc.2.2]

lemma length_ownCalls (b : Book roster clients owner) (f : FaId) :
    (ownCalls clients (tonightFor roster clients owner) f).length =
      min (capacity roster f) (queueLength clients owner f) := by
  have hsplit := List.length_eq_countP_add_countP (fun c => c ∈ excessOf roster clients owner f)
    (l := queueOf clients owner f)
  have hex : (queueOf clients owner f).countP (fun c => c ∈ excessOf roster clients owner f) =
      (excessOf roster clients owner f).length := by
    rw [List.countP_eq_length_filter]
    apply List.Perm.length_eq
    refine (List.perm_ext_iff_of_nodup ((b.queueOf_nodup f).filter _) (b.excessOf_nodup f)).mpr ?_
    intro c
    simp only [List.mem_filter, decide_eq_true_eq]
    exact ⟨fun h => h.2, fun h => ⟨excess_subset h, h⟩⟩
  have hkept : (ownCalls clients (tonightFor roster clients owner) f).length =
      (queueOf clients owner f).countP (fun c => ¬ c ∈ excessOf roster clients owner f) := by
    rw [List.countP_eq_length_filter]
    apply List.Perm.length_eq
    refine (List.perm_ext_iff_of_nodup ((b.queueOf_nodup f).filter _)
      ((b.queueOf_nodup f).filter _)).mpr ?_
    intro c
    have h := b.mem_ownCalls (f := f) (c := c)
    rw [ownCalls, tonightFor_owner] at h
    rw [h, List.mem_filter, decide_eq_true_eq]
  have hlen : (excessOf roster clients owner f).length =
      (queueOf clients owner f).length - capacity roster f := length_excess f _
  rw [hkept, queueLength]
  simp only [decide_eq_true_eq] at hsplit
  omega

/-- The clients covered by one advisor are those it was lent. -/
lemma length_coveredBy (b : Book roster clients owner) (f : FaId) :
    (clients.filter fun c =>
      (tonightFor roster clients owner).covering.get? c.clientId = some f).length ≤
        lentTo (loans roster clients owner) f := by
  have hnd : ((clients.filter fun c =>
      (tonightFor roster clients owner).covering.get? c.clientId = some f).map
        ClientLoad.clientId).Nodup :=
    b.ids_nodup.sublist (List.filter_sublist.map _)
  have hsub : ((clients.filter fun c =>
      (tonightFor roster clients owner).covering.get? c.clientId = some f).map
        ClientLoad.clientId) ⊆
      (((loans roster clients owner).lent.filter fun p => p.2 = f).map fun p => p.1.clientId) := by
    intro id hid
    obtain ⟨c, hc, rfl⟩ := List.mem_map.mp hid
    have hget := of_decide_eq_true (List.mem_filter.mp hc).2
    rw [tonightFor_covering, ← Dict.mem_items_iff, b.covering_items] at hget
    obtain ⟨p, hp, e⟩ := List.mem_map.mp hget
    obtain ⟨hid, hf⟩ := Prod.mk.inj e
    exact List.mem_map.mpr ⟨p, List.mem_filter.mpr ⟨hp, by simpa using hf⟩, hid⟩
  have h := (hnd.subperm hsub).length_le
  rw [List.length_map, List.length_map] at h
  rw [lentTo, List.countP_eq_length_filter]
  exact h

lemma within_capacity (b : Book roster clients owner) (f : FaId) :
    (callsOf clients (tonightFor roster clients owner) f).length ≤ capacity roster f := by
  have hle : (callsOf clients (tonightFor roster clients owner) f).length ≤
      ((clients.filter fun c =>
        (tonightFor roster clients owner).covering.get? c.clientId = some f) ++
          ownCalls clients (tonightFor roster clients owner) f).length := by
    refine ((b.nodup.filter _).subperm ?_).length_le
    intro c hc
    simp only [List.mem_filter, decide_eq_true_eq] at hc
    obtain ⟨hmem, hq, hdem, hadv⟩ := hc
    rw [List.mem_append, List.mem_filter]
    cases e : (tonightFor roster clients owner).covering.get? c.clientId with
    | some g =>
      rw [AdvisorAllocation.advisorFor, e] at hadv
      exact .inl ⟨hmem, by simpa [e] using hadv⟩
    | none =>
      rw [AdvisorAllocation.advisorFor, e, Option.none_or] at hadv
      right
      simp only [ownCalls, List.mem_filter, decide_eq_true_eq]
      exact ⟨mem_queueOf.mpr ⟨hmem, hq, hadv⟩, (Dict.get?_eq_none_iff _).mp e, hdem⟩
  have hcov := b.length_coveredBy f
  have hlent := lentTo_le b f
  rw [List.length_append, b.length_ownCalls] at hle
  omega

lemma length_covering (b : Book roster clients owner) :
    (tonightFor roster clients owner).covering.keys.length =
      min (totalOverflow roster clients owner) (totalRoom roster clients owner) := by
  rw [tonightFor_covering, lendOverflow_covering b, List.length_map, List.length_take, b.totalOverflow_eq,
    totalRoom_eq b.roster_nodup, min_comm]

lemma lent_first (b : Book roster clients owner) {c d : ClientLoad} (hc : c ∈ clients)
    (hd : d ∈ clients) (hcov : c.clientId ∈ (tonightFor roster clients owner).covering.keys)
    (hdem : d.clientId ∈ (tonightFor roster clients owner).demoted) :
    heaviestFirst c < heaviestFirst d := by
  rw [b.covered_iff hc] at hcov
  rw [b.demoted_iff hd] at hdem
  apply heaviestFirst_lt _ (le_of_mem_take_drop hcov hdem)
  intro e
  obtain rfl := b.eq_of_id_eq hc hd e
  exact take_drop_disjoint b.queueOverflow_nodup _ hcov hdem

lemma keeps_largest (b : Book roster clients owner) {f : FaId} {c d : ClientLoad}
    (hc : c ∈ ownCalls clients (tonightFor roster clients owner) f)
    (hd : d ∈ queueOf clients owner f)
    (hno : d ∉ ownCalls clients (tonightFor roster clients owner) f) :
    lightestFirst d < lightestFirst c := by
  obtain ⟨hcq, hcno⟩ := b.mem_ownCalls.mp hc
  have hdex : d ∈ excessOf roster clients owner f := by
    by_contra h
    exact hno (b.mem_ownCalls.mpr ⟨hd, h⟩)
  apply lightestFirst_lt _ (mem_excessOf_or_drop hcq hcno hdex)
  intro e
  obtain rfl := b.eq_of_id_eq (mem_queueOf.mp hd).1 (mem_queueOf.mp hcq).1 e
  exact hcno hdex

end Book

/-! ## The allocation -/

lemma allocateAdvisors_eq (ne : roster ≠ []) (currentOwners sourceOwners : Dict ClientId FaId) :
    allocateAdvisors roster clients currentOwners sourceOwners =
      tonightFor roster clients (ownersFor roster clients currentOwners sourceOwners) := by
  cases clients with
  | nil => simp [allocateAdvisors, tonightFor, ownersFor, lendOverflow, overflow, queueByFa, sortBy,
      Dict.empty]
  | cons c clients => simp [allocateAdvisors, tonightFor, ne]

/-- With no roster there is no allocation. -/
theorem allocateAdvisors_nil (currentOwners sourceOwners : Dict ClientId FaId) :
    allocateAdvisors [] clients currentOwners sourceOwners = {} := by
  simp [allocateAdvisors]

lemma ownersFor_book (nd : (roster.map FaRecord.faId).Nodup)
    (ids : (clients.map ClientLoad.clientId).Nodup) (ne : roster ≠ [])
    (currentOwners sourceOwners : Dict ClientId FaId) :
    Book roster clients (ownersFor roster clients currentOwners sourceOwners) where
  roster_nodup := nd
  ids_nodup := ids
  owned := by
    intro c hc
    have h := ownersFor_total (keys_rostered_ne_nil nd ne) currentOwners sourceOwners hc
    rwa [keys_rostered nd] at h

/-- Tonight's allocation meets the rules for any ownership that keeps the owners it has to keep. -/
lemma Book.meetsRules (b : Book roster clients owner) {currentOwners sourceOwners : Dict ClientId FaId}
    (source : ∀ id g, sourceOwners.get? id = some g → g ∈ roster.map FaRecord.faId)
    (keeps : ∀ c ∈ clients, ∀ f ∈ roster.map FaRecord.faId,
      (sourceOwners.get? c.clientId).or (currentOwners.get? c.clientId) = some f →
        owner.get? c.clientId = some f) :
    MeetsRules roster clients currentOwners sourceOwners (tonightFor roster clients owner) := by
  constructor
  case owned =>
    intro c hc
    obtain ⟨f, hf, e⟩ := b.owned c hc
    refine ⟨f, ⟨hf, e⟩, fun g hg => ?_⟩
    exact Option.some.inj (hg.2.symm.trans e)
  case keeps_source =>
    intro c hc f hf hr
    exact keeps c hc f hr (by rw [hf]; rfl)
  case keeps_current =>
    intro c hc f hno hf hr
    cases e : sourceOwners.get? c.clientId with
    | none => exact keeps c hc f hr (by rw [e, hf]; rfl)
    | some g => exact absurd (source _ g e) (hno g e)
  case covering_queue =>
    intro id hid
    rw [tonightFor_covering, lendOverflow_covering b] at hid
    obtain ⟨c, hc, rfl⟩ := List.mem_map.mp hid
    have h := mem_clients_of_mem_overflow (mem_sortBy.mp (List.mem_of_mem_take hc))
    exact ⟨c, h.1, h.2.1, rfl⟩
  case demoted_queue =>
    intro id hid
    rw [tonightFor_demoted, lendOverflow_demoted b, List.mem_toFinset] at hid
    obtain ⟨c, hc, rfl⟩ := List.mem_map.mp hid
    have h := mem_clients_of_mem_overflow (mem_sortBy.mp (List.mem_of_mem_drop hc))
    exact ⟨c, h.1, h.2.1, rfl⟩
  case disjoint =>
    intro id hcov hdem
    rw [tonightFor_covering, lendOverflow_covering b, List.map_take] at hcov
    rw [tonightFor_demoted, lendOverflow_demoted b, List.mem_toFinset, List.map_drop] at hdem
    exact take_drop_disjoint b.queueOverflow_ids_nodup _ hcov hdem
  case within_capacity =>
    intro r hr
    rw [← capacity_record b.roster_nodup hr]
    exact b.within_capacity r.faId
  case keeps_count =>
    intro r hr
    rw [← capacity_record b.roster_nodup hr]
    exact b.length_ownCalls r.faId
  case keeps_largest =>
    intro r _ c hc d hd hno
    exact b.keeps_largest hc hd hno
  case lent_count => exact b.length_covering
  case lent_first =>
    intro c hc d hd hcov hdem
    exact b.lent_first hc hd hcov hdem

/-- The allocation meets its rules for every roster with an advisor, and an empty roster leaves the
    book untouched. -/
theorem allocateAdvisors_meetsRules (normalizedEmail : String → String) (roster : Roster)
    (clients : List ClientLoad) (ids : (clients.map ClientLoad.clientId).Nodup)
    (currentOwners : Dict ClientId FaId) (sourceEmails : Dict ClientId String) :
    let sourceOwners := ownersFromSource normalizedEmail roster.records sourceEmails
    let a := allocateAdvisors roster.records clients currentOwners sourceOwners
    (roster.records ≠ [] → MeetsRules roster.records clients currentOwners sourceOwners a) ∧
      (roster.records = [] → a = {}) := by
  intro sourceOwners a
  refine ⟨fun ne => ?_, fun e => ?_⟩
  · have ha : a = tonightFor roster.records clients
        (ownersFor roster.records clients currentOwners sourceOwners) :=
      allocateAdvisors_eq ne currentOwners sourceOwners
    rw [ha]
    apply (ownersFor_book roster.nodup ids ne currentOwners sourceOwners).meetsRules
    · exact fun _ _ => ownersFromSource_mem
    · intro c hc f hf e
      apply ownersFor_kept (keys_rostered_ne_nil roster.nodup ne) hc
      rw [existingOwner, e, Option.filter_some, if_pos]
      rwa [Dict.contains_iff, keys_rostered roster.nodup]
  · show allocateAdvisors roster.records clients currentOwners sourceOwners = {}
    rw [e]
    exact allocateAdvisors_nil currentOwners sourceOwners

/-- Two advisors and three queued clients, one of whom finds no room. -/
theorem allocateAdvisors_meetsRules_small :
    let roster : Roster :=
      ⟨[⟨"fa1", "Amina", "amina@desk", 1⟩, ⟨"fa2", "Brian", "brian@desk", 1⟩], by decide⟩
    let clients : List ClientLoad := [⟨1, 100, true⟩, ⟨2, 300, true⟩, ⟨3, 200, true⟩]
    let current := Dict.ofList [(1, "fa1"), (2, "fa1"), (3, "fa1")]
    let source := ownersFromSource id roster.records (.ofList [(3, "brian@desk")])
    MeetsRules roster.records clients current source
      (allocateAdvisors roster.records clients current source) :=
  (allocateAdvisors_meetsRules id
    ⟨[⟨"fa1", "Amina", "amina@desk", 1⟩, ⟨"fa2", "Brian", "brian@desk", 1⟩], by decide⟩
    [⟨1, 100, true⟩, ⟨2, 300, true⟩, ⟨3, 200, true⟩] (by decide) _ _).1 (by simp)

/-- With no roster a client is left without an owner. -/
theorem allocateAdvisors_no_roster :
    ¬ MeetsRules [] [⟨1, 100, true⟩] .empty (ownersFromSource id [] .empty)
      (allocateAdvisors [] [⟨1, 100, true⟩] .empty (ownersFromSource id [] .empty)) := by
  intro h
  obtain ⟨f, ⟨hf, -⟩, -⟩ := h.owned ⟨1, 100, true⟩ (List.mem_singleton.mpr rfl)
  simp at hf

end ClientEngagement.Risk
