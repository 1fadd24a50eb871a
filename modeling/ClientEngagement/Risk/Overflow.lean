import ClientEngagement.Lib.Lending
import ClientEngagement.Risk.Ownership

/-!
# Tonight's overflow

What `lendOverflow` computes once every client is owned (`Book`). `queueOf` is one advisor's call
queue, `excessOf` the part of it over capacity, `keptOf` the part the advisor calls. The loop
`lendOne` is an instance of the generic lending loop (`foldl_lendOne`), so the first `spareTotal`
clients of `queueOverflow` are lent and the rest demoted (`lendOverflow_covering`,
`lendOverflow_demoted`), and no advisor is lent more than its room (`lentTo_le`).
-/

namespace ClientEngagement.Risk
open Lending

/-- Every client is listed once and owned by an advisor of the roster. -/
structure Book (roster : List FaRecord) (clients : List ClientLoad)
    (owner : Dict ClientId FaId) : Prop where
  roster_nodup : (roster.map FaRecord.faId).Nodup
  ids_nodup : (clients.map ClientLoad.clientId).Nodup
  owned : ∀ c ∈ clients, ∃ f ∈ roster.map FaRecord.faId, owner.get? c.clientId = some f

/-- One advisor's call queue. -/
def queueOf (clients : List ClientLoad) (owner : Dict ClientId FaId) (f : FaId) : List ClientLoad :=
  clients.filter fun c => c.inCallQueue ∧ owner.get? c.clientId = some f

/-- The part of the queue over capacity. -/
def excessOf (roster : List FaRecord) (clients : List ClientLoad) (owner : Dict ClientId FaId)
    (f : FaId) : List ClientLoad :=
  excess roster f (queueOf clients owner f)

/-- The part of the queue within capacity. -/
def keptOf (roster : List FaRecord) (clients : List ClientLoad) (owner : Dict ClientId FaId)
    (f : FaId) : List ClientLoad :=
  (queueOf clients owner f).filter fun c => c ∉ excessOf roster clients owner f

/-- The overflow of all queues, biggest first. -/
def queueOverflow (roster : List FaRecord) (clients : List ClientLoad)
    (owner : Dict ClientId FaId) : List ClientLoad :=
  sortBy heaviestFirst (overflow roster clients owner)

/-- The advisor a client belongs to. -/
def homeOf (owner : Dict ClientId FaId) (c : ClientLoad) : FaId := owner.getD c.clientId ""

/-- The shortest queue, the advisor's id breaking ties. -/
def shortestQueue (counts : FaId → ℕ) (l : List FaId) : Option FaId :=
  minBy (fun f => toLex (counts f, f)) l

def queueLength (clients : List ClientLoad) (owner : Dict ClientId FaId) (f : FaId) : ℕ :=
  (queueOf clients owner f).length

/-- The room of all advisors together. -/
def spareTotal (roster : List FaRecord) (clients : List ClientLoad)
    (owner : Dict ClientId FaId) : ℕ :=
  spare (roster.map FaRecord.faId) (capacity roster) (queueLength clients owner)

lemma shortestQueue_picks : Picks shortestQueue where
  mem := minBy_mem
  some_of_ne_nil := fun _ _ => minBy_isSome

variable {roster : List FaRecord} {clients : List ClientLoad} {owner : Dict ClientId FaId}

lemma mem_queueOf {f : FaId} {c : ClientLoad} :
    c ∈ queueOf clients owner f ↔
      c ∈ clients ∧ c.inCallQueue = true ∧ owner.get? c.clientId = some f := by
  simp [queueOf]

/-! ## The queue dictionary -/

/-- The grouping loop collects each advisor's queue in client order. -/
lemma queueByFa_getD (f : FaId) :
    (queueByFa clients owner).getD f [] = queueOf clients owner f := by
  have key : ∀ (l : List ClientLoad) (d : Dict FaId (List ClientLoad)),
      (l.foldl (fun queues client =>
        if client.inCallQueue then
          (owner.get? client.clientId).elim queues fun faId => queues.modify faId [] (· ++ [client])
        else queues) d).getD f [] = d.getD f [] ++ queueOf l owner f := by
    intro l
    induction l with
    | nil => simp [queueOf]
    | cons c l ih =>
      intro d
      rw [List.foldl_cons, ih]
      cases hq : c.inCallQueue with
      | false => simp [queueOf, hq]
      | true =>
        cases ho : owner.get? c.clientId with
        | none => simp [queueOf, hq, ho]
        | some f' =>
          by_cases e : f' = f
          · subst e
            simp [queueOf, hq, ho, Dict.getD]
          · simp [queueOf, hq, ho, Dict.getD, e, Ne.symm e]
  have steps : queueByFa clients owner = clients.foldl (fun queues client =>
      if client.inCallQueue then
        (owner.get? client.clientId).elim queues fun faId => queues.modify faId [] (· ++ [client])
      else queues) .empty := by
    rw [queueByFa]
    congr 1
    funext queues client
    cases owner.get? client.clientId with
    | none => rfl
    | some faId => rfl
  rw [steps]
  exact key clients .empty

lemma mem_items_queueByFa {f : FaId} {rows : List ClientLoad}
    (h : (f, rows) ∈ (queueByFa clients owner).items) : rows = queueOf clients owner f := by
  rw [← queueByFa_getD, Dict.getD, (Dict.mem_items_iff _).mp h]
  rfl

lemma excess_subset {f : FaId} {rows : List ClientLoad} {c : ClientLoad}
    (h : c ∈ excess roster f rows) : c ∈ rows := by
  rw [excess] at h
  split at h
  · cases h
  · exact mem_sortBy.mp (List.mem_of_mem_take h)

lemma length_excess (f : FaId) (rows : List ClientLoad) :
    (excess roster f rows).length = rows.length - capacity roster f := by
  rw [excess]
  split
  · simp only [List.length_nil]
    omega
  · rw [List.length_take, length_sortBy]
    omega

/-- A client overflows exactly when it is in the excess of its owner's queue. -/
lemma mem_overflow {c : ClientLoad} :
    c ∈ overflow roster clients owner ↔ ∃ f, c ∈ excessOf roster clients owner f := by
  simp only [overflow, List.mem_flatMap, Prod.exists]
  constructor
  · rintro ⟨f, rows, hmem, hc⟩
    rw [mem_items_queueByFa hmem] at hc
    exact ⟨f, hc⟩
  · rintro ⟨f, hc⟩
    cases e : (queueByFa clients owner).get? f with
    | some rows =>
      have hmem := (Dict.mem_items_iff _).mpr e
      refine ⟨f, rows, hmem, ?_⟩
      rwa [mem_items_queueByFa hmem]
    | none =>
      -- an advisor missing from the dictionary has an empty queue
      have hq : queueOf clients owner f = [] := by
        rw [← queueByFa_getD, Dict.getD, e]
        rfl
      have := excess_subset hc
      rw [hq] at this
      cases this

lemma owner_of_mem_excessOf {f : FaId} {c : ClientLoad} (h : c ∈ excessOf roster clients owner f) :
    owner.get? c.clientId = some f :=
  (mem_queueOf.mp (excess_subset h)).2.2

lemma homeOf_eq {c : ClientLoad} {f : FaId} (h : owner.get? c.clientId = some f) :
    homeOf owner c = f := by
  rw [homeOf, Dict.getD, h]
  rfl

lemma mem_overflow_home {c : ClientLoad} :
    c ∈ overflow roster clients owner ↔ c ∈ excessOf roster clients owner (homeOf owner c) := by
  rw [mem_overflow]
  constructor
  · rintro ⟨f, h⟩
    rwa [homeOf_eq (owner_of_mem_excessOf h)]
  · exact fun h => ⟨_, h⟩

lemma mem_clients_of_mem_overflow {c : ClientLoad} (h : c ∈ overflow roster clients owner) :
    c ∈ clients ∧ c.inCallQueue = true ∧ owner.get? c.clientId = some (homeOf owner c) :=
  mem_queueOf.mp (excess_subset (mem_overflow_home.mp h))

namespace Book

lemma nodup (b : Book roster clients owner) : clients.Nodup := b.ids_nodup.of_map _

lemma queueOf_nodup (b : Book roster clients owner) (f : FaId) : (queueOf clients owner f).Nodup :=
  b.nodup.filter _

lemma excessOf_nodup (b : Book roster clients owner) (f : FaId) :
    (excessOf roster clients owner f).Nodup := by
  rw [excessOf, excess]
  split
  · exact List.nodup_nil
  · exact (((sortBy_perm _ _).nodup_iff).mpr (b.queueOf_nodup f)).sublist (List.take_sublist _ _)

lemma eq_of_id_eq (b : Book roster clients owner) {c d : ClientLoad} (hc : c ∈ clients)
    (hd : d ∈ clients) (e : c.clientId = d.clientId) : c = d :=
  List.inj_on_of_nodup_map b.ids_nodup hc hd e

lemma overflow_nodup (b : Book roster clients owner) : (overflow roster clients owner).Nodup := by
  rw [overflow, List.nodup_flatMap]
  constructor
  · rintro ⟨f, rows⟩ h
    rw [mem_items_queueByFa h]
    exact b.excessOf_nodup f
  · -- two entries have different keys, and a client sits in the queue of its owner only
    refine (queueByFa clients owner).nodup.of_map.imp_of_mem ?_
    rintro ⟨f, rows⟩ ⟨f', rows'⟩ h h' hne c hc hc'
    obtain rfl := mem_items_queueByFa h
    obtain rfl := mem_items_queueByFa h'
    have e := (owner_of_mem_excessOf hc).symm.trans (owner_of_mem_excessOf hc')
    cases e
    exact hne rfl

lemma queueOverflow_nodup (b : Book roster clients owner) :
    (queueOverflow roster clients owner).Nodup :=
  (sortBy_perm _ _).nodup_iff.mpr b.overflow_nodup

/-- What an advisor owes in the loop is the excess of its queue. -/
lemma owed_queueOverflow (b : Book roster clients owner) (f : FaId) :
    owed (homeOf owner) (queueOverflow roster clients owner) f =
      queueLength clients owner f - capacity roster f := by
  rw [owed, queueOverflow, (sortBy_perm _ _).countP_eq, List.countP_eq_length_filter, queueLength,
    ← length_excess]
  apply List.Perm.length_eq
  refine (List.perm_ext_iff_of_nodup (b.overflow_nodup.filter _) (b.excessOf_nodup f)).mpr ?_
  intro c
  simp only [List.mem_filter, decide_eq_true_eq, mem_overflow_home]
  constructor
  · rintro ⟨h, rfl⟩
    exact h
  · intro h
    have e := homeOf_eq (owner_of_mem_excessOf h)
    exact ⟨by rwa [e], e⟩

/-- The loop invariant holds at the start. -/
lemma owes (b : Book roster clients owner) :
    Owed (capacity roster) (homeOf owner) (queueLength clients owner)
      (queueOverflow roster clients owner) := by
  intro c hc
  have hpos : 0 < owed (homeOf owner) (queueOverflow roster clients owner) (homeOf owner c) :=
    List.countP_pos_iff.mpr ⟨c, hc, by simp⟩
  rw [b.owed_queueOverflow] at hpos ⊢
  omega

end Book

/-! ## The loop -/

/-- The lending loop of the generic library, run on tonight's overflow. -/
def loans (roster : List FaRecord) (clients : List ClientLoad) (owner : Dict ClientId FaId) :
    Ledger ClientLoad FaId :=
  lendAll (roster.map FaRecord.faId) (capacity roster) (homeOf owner) shortestQueue
    ⟨queueLength clients owner, [], []⟩ (queueOverflow roster clients owner)

/-- `lendOne` is one turn of the generic loop. -/
lemma foldl_lendOne (nd : (roster.map FaRecord.faId).Nodup) (xs : List ClientLoad)
    (hx : ∀ c ∈ xs, (owner.get? c.clientId).isSome) (s : Tonight) (l : Ledger ClientLoad FaId)
    (hs : s = ⟨l.counts, .ofList (l.lent.map fun p => (p.1.clientId, p.2)),
      (l.refused.map ClientLoad.clientId).toFinset⟩) :
    xs.foldl (lendOne roster owner) s =
      let l' := lendAll (roster.map FaRecord.faId) (capacity roster) (homeOf owner) shortestQueue
        l xs
      ⟨l'.counts, .ofList (l'.lent.map fun p => (p.1.clientId, p.2)),
        (l'.refused.map ClientLoad.clientId).toFinset⟩ := by
  induction xs generalizing s l with
  | nil => exact hs
  | cons c xs ih =>
    rw [List.foldl_cons]
    apply ih (fun d hd => hx d (List.mem_cons_of_mem _ hd)) _
      (lend (roster.map FaRecord.faId) (capacity roster) (homeOf owner) shortestQueue l c)
    subst hs
    obtain ⟨h, hh⟩ := Option.isSome_iff_exists.mp (hx c (List.mem_cons_self ..))
    have hroom : ((rostered roster).keys.filter fun f => f ≠ h ∧ l.counts f < capacity roster f) =
        withRoom (roster.map FaRecord.faId) (capacity roster) l.counts h := by
      rw [keys_rostered nd]
      rfl
    simp only [lendOne, lend, hh, hroom, homeOf_eq hh]
    cases e : shortestQueue l.counts
      (withRoom (roster.map FaRecord.faId) (capacity roster) l.counts h) with
    | none =>
      rw [shortestQueue] at e
      simp only [e, List.map_append, List.map_singleton, List.toFinset_append]
      congr 1
      ext id
      simp
    | some t =>
      rw [shortestQueue] at e
      simp only [e, moved, List.map_append, List.map_singleton, Dict.ofList, List.foldl_append,
        List.foldl_cons, List.foldl_nil]

lemma lendOverflow_eq (b : Book roster clients owner) :
    lendOverflow roster clients owner =
      ⟨(loans roster clients owner).counts,
        .ofList ((loans roster clients owner).lent.map fun p => (p.1.clientId, p.2)),
        ((loans roster clients owner).refused.map ClientLoad.clientId).toFinset⟩ := by
  have hcounts : (fun f => ((queueByFa clients owner).getD f []).length) =
      queueLength clients owner := by
    funext f
    rw [queueByFa_getD]
    rfl
  rw [lendOverflow, hcounts]
  refine foldl_lendOne b.roster_nodup _ ?_ _ _ rfl
  intro c hc
  rw [(mem_clients_of_mem_overflow (mem_sortBy.mp hc)).2.2]
  rfl

/-! ## What the loop leaves -/

namespace Book

lemma loans_lent (b : Book roster clients owner) :
    (loans roster clients owner).lent.map Prod.fst =
      (queueOverflow roster clients owner).take (spareTotal roster clients owner) := by
  have h := lendAll_spec shortestQueue_picks b.roster_nodup (queueOverflow roster clients owner)
    ⟨queueLength clients owner, [], []⟩ b.owes
  exact h.1

lemma loans_refused (b : Book roster clients owner) :
    (loans roster clients owner).refused =
      (queueOverflow roster clients owner).drop (spareTotal roster clients owner) := by
  have h := lendAll_spec shortestQueue_picks b.roster_nodup (queueOverflow roster clients owner)
    ⟨queueLength clients owner, [], []⟩ b.owes
  exact h.2

/-- No two overflow clients share an id. -/
lemma queueOverflow_ids_nodup (b : Book roster clients owner) :
    ((queueOverflow roster clients owner).map ClientLoad.clientId).Nodup := by
  refine b.queueOverflow_nodup.map_on ?_
  intro c hc d hd e
  have hc' := (mem_clients_of_mem_overflow (mem_sortBy.mp hc)).1
  have hd' := (mem_clients_of_mem_overflow (mem_sortBy.mp hd)).1
  exact b.eq_of_id_eq hc' hd' e

lemma loans_keys (b : Book roster clients owner) :
    ((loans roster clients owner).lent.map fun p => (p.1.clientId, p.2)).map Prod.fst =
      ((queueOverflow roster clients owner).take (spareTotal roster clients owner)).map
        ClientLoad.clientId := by
  rw [← b.loans_lent, List.map_map, List.map_map]
  rfl

lemma loans_keys_nodup (b : Book roster clients owner) :
    (((loans roster clients owner).lent.map fun p => (p.1.clientId, p.2)).map Prod.fst).Nodup := by
  rw [b.loans_keys]
  exact b.queueOverflow_ids_nodup.sublist ((List.take_sublist _ _).map _)

lemma covering_items (b : Book roster clients owner) :
    (lendOverflow roster clients owner).covering.items =
      (loans roster clients owner).lent.map fun p => (p.1.clientId, p.2) := by
  rw [lendOverflow_eq b]
  exact Dict.items_ofList b.loans_keys_nodup

end Book

/-- The covered clients are the first overflow clients, as many as there is room for. -/
theorem lendOverflow_covering (b : Book roster clients owner) :
    (lendOverflow roster clients owner).covering.keys =
      ((queueOverflow roster clients owner).take (spareTotal roster clients owner)).map
        ClientLoad.clientId := by
  rw [Dict.keys, b.covering_items, b.loans_keys]

/-- The demoted clients are the overflow clients nobody had room for. -/
theorem lendOverflow_demoted (b : Book roster clients owner) :
    (lendOverflow roster clients owner).demoted =
      (((queueOverflow roster clients owner).drop (spareTotal roster clients owner)).map
        ClientLoad.clientId).toFinset := by
  rw [lendOverflow_eq b, b.loans_refused]

/-- A covered client is covered by an advisor other than its own. -/
theorem covering_target (b : Book roster clients owner) {c : ClientLoad} (hc : c ∈ clients)
    {f : FaId} (h : (lendOverflow roster clients owner).covering.get? c.clientId = some f) :
    f ∈ roster.map FaRecord.faId ∧ f ≠ homeOf owner c := by
  rw [← Dict.mem_items_iff, b.covering_items] at h
  obtain ⟨⟨d, f'⟩, hmem, e⟩ := List.mem_map.mp h
  obtain ⟨hid, rfl⟩ := Prod.mk.inj e
  have hd : d ∈ queueOverflow roster clients owner := by
    have hm : d ∈ (loans roster clients owner).lent.map Prod.fst :=
      List.mem_map.mpr ⟨_, hmem, rfl⟩
    rw [b.loans_lent] at hm
    exact List.mem_of_mem_take hm
  have hd' := (mem_clients_of_mem_overflow (mem_sortBy.mp hd)).1
  obtain rfl := b.eq_of_id_eq hd' hc hid
  exact lendAll_target shortestQueue_picks b.roster_nodup _ _ b.owes (by simp) _ hmem

/-- An advisor is lent no more clients than it has room for. -/
theorem lentTo_le (b : Book roster clients owner) (f : FaId) :
    lentTo (loans roster clients owner) f ≤ capacity roster f - queueLength clients owner f := by
  have h := lendAll_lentTo shortestQueue_picks b.roster_nodup (queueOverflow roster clients owner)
    ⟨queueLength clients owner, [], []⟩ b.owes f
  simpa [lentTo, loans] using h

end ClientEngagement.Risk
