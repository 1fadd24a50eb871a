import ClientEngagement.Risk.AllocationRules

/-!
# The allocation forgets the order of its inputs

Both lists `allocateAdvisors` is given are walked in order, yet the result is the same map for every
order of either (`allocateAdvisors_perm`): the sums commute, and every sort and every choice has a
key that separates its candidates. A night that starts from the owners of the night before keeps
them all (`allocateAdvisors_stable`).
-/

namespace ClientEngagement.Risk
open Lending

/-- The same book, its two lists given in another order. -/
structure Reordered (roster roster' : List FaRecord) (clients clients' : List ClientLoad) : Prop where
  roster_perm : roster.Perm roster'
  clients_perm : clients.Perm clients'
  roster_nodup : (roster.map FaRecord.faId).Nodup
  ids_nodup : (clients.map ClientLoad.clientId).Nodup

variable {roster roster' : List FaRecord} {clients clients' : List ClientLoad}
variable {owner owner' currentOwners sourceOwners : Dict ClientId FaId}

lemma heaviestFirst_inj {c d : ClientLoad} (e : heaviestFirst c = heaviestFirst d) :
    c.clientId = d.clientId :=
  congrArg (fun k => (ofLex k).2) e

lemma lightestFirst_inj {c d : ClientLoad} (e : lightestFirst c = lightestFirst d) :
    c.clientId = d.clientId :=
  congrArg (fun k => (ofLex k).2) e

lemma loadKey_inj {w : Carried} {f g : FaId} (e : loadKey w f = loadKey w g) : f = g :=
  congrArg (fun k => (ofLex (ofLex k).2).2) e

lemma shortestQueue_perm {counts : FaId → ℕ} {l l' : List FaId} (p : l.Perm l') :
    shortestQueue counts l = shortestQueue counts l' := by
  apply minBy_eq_of_perm p
  intro f _ g _ e
  exact congrArg (fun k => (ofLex k).2) e

/-- Weights add up in any order. -/
lemma Carried.add_swap (w : Carried) (f g : FaId) (x y : ℚ) :
    (w.add f x).add g y = (w.add g y).add f x := by
  cases eq_or_ne f g with
  | inl e =>
    subst e
    simp only [Carried.add, Function.update_self, Function.update_idem, Carried.mk.injEq, and_true]
    rw [add_right_comm]
  | inr ne =>
    simp only [Carried.add, Function.update_of_ne ne, Function.update_of_ne ne.symm]
    rw [Function.update_comm ne, Function.update_comm ne]

namespace Reordered

lemma roster_nodup' (r : Reordered roster roster' clients clients') :
    (roster'.map FaRecord.faId).Nodup :=
  (r.roster_perm.map _).nodup_iff.mp r.roster_nodup

lemma ids_nodup' (r : Reordered roster roster' clients clients') :
    (clients'.map ClientLoad.clientId).Nodup :=
  (r.clients_perm.map _).nodup_iff.mp r.ids_nodup

lemma keys_perm (r : Reordered roster roster' clients clients') :
    (rostered roster).keys.Perm (rostered roster').keys := by
  rw [keys_rostered r.roster_nodup, keys_rostered r.roster_nodup']
  exact r.roster_perm.map _

/-- The roster dictionary is the same map. -/
lemma rostered_same (r : Reordered roster roster' clients clients') :
    (rostered roster).Same (rostered roster') := by
  intro f
  apply Option.ext
  intro a
  rw [rostered, rostered, Dict.get?_ofList (rostered_pairs r.roster_nodup),
    Dict.get?_ofList (rostered_pairs r.roster_nodup')]
  exact (r.roster_perm.map _).mem_iff

lemma capacity_eq (r : Reordered roster roster' clients clients') :
    capacity roster = capacity roster' := by
  funext f
  rw [capacity, capacity, r.rostered_same f]

lemma existingOwner_eq (r : Reordered roster roster' clients clients') :
    existingOwner roster currentOwners sourceOwners =
      existingOwner roster' currentOwners sourceOwners := by
  funext id
  have h : (fun f => (rostered roster).contains f) = fun f => (rostered roster').contains f := by
    funext f
    rw [Dict.contains, Dict.contains, r.rostered_same f]
  rw [existingOwner, existingOwner, h]

/-! ## Ownership -/

lemma place_owner (r : Reordered roster roster' clients clients') :
    (clients.foldl (place roster currentOwners sourceOwners) {}).owner.Same
      (clients'.foldl (place roster' currentOwners sourceOwners) {}).owner := by
  intro id
  rw [foldl_place_get?, foldl_place_get?, r.existingOwner_eq]
  simp only [(r.clients_perm.map ClientLoad.clientId).mem_iff]

/-- The clients without an owner are assigned in one order. -/
lemma place_unassigned (r : Reordered roster roster' clients clients') :
    sortBy heaviestFirst (clients.foldl (place roster currentOwners sourceOwners) {}).unassigned =
      sortBy heaviestFirst
        (clients'.foldl (place roster' currentOwners sourceOwners) {}).unassigned := by
  rw [foldl_place_unassigned, foldl_place_unassigned, List.nil_append, List.nil_append,
    r.existingOwner_eq]
  apply sortBy_eq_of_perm (r.clients_perm.filter _)
  intro c hc d hd e
  exact List.inj_on_of_nodup_map r.ids_nodup (List.mem_filter.mp hc).1 (List.mem_filter.mp hd).1
    (heaviestFirst_inj e)

lemma carriedBy_eq (r : Reordered roster roster' clients clients') (h : owner.Same owner') :
    carriedBy clients owner = carriedBy clients' owner' := by
  have hpairs : ((clients.map fun c => (c.clientId, c)).map Prod.fst).Nodup := by
    rw [List.map_map]
    exact r.ids_nodup
  have hpairs' : ((clients'.map fun c => (c.clientId, c)).map Prod.fst).Nodup := by
    rw [List.map_map]
    exact r.ids_nodup'
  have hbyId : ∀ id, (Dict.ofList (clients.map fun c => (c.clientId, c))).get? id =
      (Dict.ofList (clients'.map fun c => (c.clientId, c))).get? id := by
    intro id
    apply Option.ext
    intro c
    rw [Dict.get?_ofList hpairs, Dict.get?_ofList hpairs']
    exact (r.clients_perm.map _).mem_iff
  simp only [carriedBy, hbyId]
  apply h.items_perm.foldl_eq'
  intro b _ b' _ w
  apply Carried.add_swap

/-- The assignment loop on the same clients, from the same ownership. -/
lemma foldl_assignOne (r : Reordered roster roster' clients clients') (xs : List ClientLoad)
    (s s' : Dict ClientId FaId × Carried) (hs : s.1.Same s'.1) (hw : s.2 = s'.2) :
    (xs.foldl (assignOne roster) s).1.Same (xs.foldl (assignOne roster') s').1 := by
  induction xs generalizing s s' with
  | nil => exact hs
  | cons c xs ih =>
    have hmin : minBy (loadKey s.2) (rostered roster).keys =
        minBy (loadKey s'.2) (rostered roster').keys := by
      rw [← hw]
      apply minBy_eq_of_perm r.keys_perm
      intro f _ g _ e
      exact loadKey_inj e
    cases e : minBy (loadKey s'.2) (rostered roster').keys with
    | none =>
      simp only [List.foldl_cons, assignOne, hmin, e]
      exact ih s s' hs hw
    | some f =>
      simp only [List.foldl_cons, assignOne, hmin, e]
      apply ih
      · intro id
        rw [Dict.get?_set, Dict.get?_set, hs id]
      · exact congrArg (fun w => Carried.add w f c.fundAtRisk) hw

/-- Every client has the same owner. -/
lemma ownersFor_same (r : Reordered roster roster' clients clients') :
    (ownersFor roster clients currentOwners sourceOwners).Same
      (ownersFor roster' clients' currentOwners sourceOwners) := by
  simp only [ownersFor, r.place_unassigned]
  exact r.foldl_assignOne _ _ _ r.place_owner (r.carriedBy_eq r.place_owner)

/-! ## Tonight's overflow -/

lemma queueOf_perm (r : Reordered roster roster' clients clients') (h : owner.Same owner') (f : FaId) :
    (queueOf clients owner f).Perm (queueOf clients' owner' f) := by
  have e : (fun c : ClientLoad => decide (c.inCallQueue ∧ owner.get? c.clientId = some f)) =
      fun c => decide (c.inCallQueue ∧ owner'.get? c.clientId = some f) := by
    funext c
    rw [h c.clientId]
  rw [queueOf, queueOf, e]
  exact r.clients_perm.filter _

lemma excessOf_eq (r : Reordered roster roster' clients clients') (h : owner.Same owner') (f : FaId) :
    excessOf roster clients owner f = excessOf roster' clients' owner' f := by
  have p := r.queueOf_perm h f
  have hs : sortBy lightestFirst (queueOf clients owner f) =
      sortBy lightestFirst (queueOf clients' owner' f) := by
    apply sortBy_eq_of_perm p
    intro c hc d hd e
    exact List.inj_on_of_nodup_map r.ids_nodup (mem_queueOf.mp hc).1 (mem_queueOf.mp hd).1
      (lightestFirst_inj e)
  simp only [excessOf, excess, hs, r.capacity_eq, p.length_eq]

/-- The overflow is taken in one order. -/
lemma queueOverflow_eq (r : Reordered roster roster' clients clients') (h : owner.Same owner')
    (b : Book roster clients owner) (b' : Book roster' clients' owner') :
    queueOverflow roster clients owner = queueOverflow roster' clients' owner' := by
  apply sortBy_eq_of_perm
  · rw [List.perm_ext_iff_of_nodup b.overflow_nodup b'.overflow_nodup]
    intro c
    simp only [mem_overflow, r.excessOf_eq h]
  · intro c hc d hd e
    exact b.eq_of_id_eq (mem_clients_of_mem_overflow hc).1 (mem_clients_of_mem_overflow hd).1
      (heaviestFirst_inj e)

/-- One turn of the lending loop does the same. -/
lemma lendOne_eq (r : Reordered roster roster' clients clients') (h : owner.Same owner') :
    lendOne roster owner = lendOne roster' owner' := by
  funext s c
  have hpick : ∀ home, shortestQueue s.counts ((rostered roster).keys.filter fun f =>
        f ≠ home ∧ s.counts f < capacity roster f) =
      shortestQueue s.counts ((rostered roster').keys.filter fun f =>
        f ≠ home ∧ s.counts f < capacity roster' f) := by
    intro home
    rw [r.capacity_eq]
    exact shortestQueue_perm (r.keys_perm.filter _)
  simp only [shortestQueue] at hpick
  simp only [lendOne, h c.clientId, hpick]

lemma lendOverflow_eq (r : Reordered roster roster' clients clients') (h : owner.Same owner')
    (b : Book roster clients owner) (b' : Book roster' clients' owner') :
    lendOverflow roster clients owner = lendOverflow roster' clients' owner' := by
  have hcounts : (fun f => ((queueByFa clients owner).getD f []).length) =
      fun f => ((queueByFa clients' owner').getD f []).length := by
    funext f
    rw [queueByFa_getD, queueByFa_getD, (r.queueOf_perm h f).length_eq]
  have ho := r.queueOverflow_eq h b b'
  rw [queueOverflow, queueOverflow] at ho
  simp only [lendOverflow, hcounts, r.lendOne_eq h, ho]

/-- Both orders give the same allocation. -/
lemma allocateAdvisors (r : Reordered roster roster' clients clients') :
    let a := allocateAdvisors roster clients currentOwners sourceOwners
    let a' := Risk.allocateAdvisors roster' clients' currentOwners sourceOwners
    a.owner.Same a'.owner ∧ a.covering.Same a'.covering ∧ a.demoted = a'.demoted := by
  cases eq_or_ne roster [] with
  | inl e =>
    subst e
    obtain rfl := r.roster_perm.nil_eq
    simp only [allocateAdvisors_nil]
    exact ⟨Dict.Same.refl _, Dict.Same.refl _, trivial⟩
  | inr ne =>
    have ne' : roster' ≠ [] := fun e => ne (by subst e; exact r.roster_perm.eq_nil)
    have b := ownersFor_book r.roster_nodup r.ids_nodup ne currentOwners sourceOwners
    have b' := ownersFor_book r.roster_nodup' r.ids_nodup' ne' currentOwners sourceOwners
    have h := r.lendOverflow_eq r.ownersFor_same b b'
    simp only [allocateAdvisors_eq ne, allocateAdvisors_eq ne', tonightFor, h]
    exact ⟨r.ownersFor_same, Dict.Same.refl _, trivial⟩

end Reordered

/-- A night that starts from the owners of the night before keeps them. -/
lemma allocateAdvisors_kept (roster : Roster) (later : List ClientLoad) {c : ClientLoad}
    (hc : c ∈ clients) (hl : c.clientId ∈ later.map ClientLoad.clientId) :
    let before := allocateAdvisors roster.records clients currentOwners sourceOwners
    (allocateAdvisors roster.records later before.owner).owner.get? c.clientId =
      before.owner.get? c.clientId := by
  intro before
  cases eq_or_ne roster.records [] with
  | inl e =>
    simp only [before, e, allocateAdvisors_nil]
  | inr ne =>
    have hk := keys_rostered_ne_nil roster.nodup ne
    have hbefore : before.owner = ownersFor roster.records clients currentOwners sourceOwners := by
      simp only [before, allocateAdvisors_eq ne, tonightFor_owner]
    obtain ⟨f, hf, hown⟩ := ownersFor_total hk currentOwners sourceOwners hc
    rw [hbefore, hown, allocateAdvisors_eq ne, tonightFor_owner]
    obtain ⟨d, hd, e⟩ := List.mem_map.mp hl
    rw [← e]
    apply ownersFor_kept hk hd
    rw [existingOwner, Dict.get?_empty, Option.none_or, e, hown, Option.filter_some, if_pos]
    exact (Dict.contains_iff _).mpr hf

/-- The allocation is the same for every order of the clients and of the roster, and a later night
    that starts from its owners keeps the owner of every client. -/
theorem allocateAdvisors_perm_and_stable (roster : Roster) (clients : List ClientLoad)
    (ids : (clients.map ClientLoad.clientId).Nodup) (currentOwners sourceOwners : Dict ClientId FaId) :
    let a := allocateAdvisors roster.records clients currentOwners sourceOwners
    (∀ roster' clients', roster.records.Perm roster' → clients.Perm clients' →
      let a' := allocateAdvisors roster' clients' currentOwners sourceOwners
      a.owner.Same a'.owner ∧ a.covering.Same a'.covering ∧ a.demoted = a'.demoted) ∧
    ∀ later : List ClientLoad, ∀ c ∈ clients, c.clientId ∈ later.map ClientLoad.clientId →
      (allocateAdvisors roster.records later a.owner).owner.get? c.clientId =
        a.owner.get? c.clientId := by
  intro a
  refine ⟨fun roster' clients' hr hc => ?_, fun later c hc hl => ?_⟩
  · exact Reordered.allocateAdvisors ⟨hr, hc, roster.nodup, ids⟩
  · exact allocateAdvisors_kept roster later hc hl

/-- Two advisors and three clients, both lists reversed. -/
theorem allocateAdvisors_perm_and_stable_small :
    let amina : FaRecord := ⟨"fa1", "Amina", "amina@desk", 1⟩
    let brian : FaRecord := ⟨"fa2", "Brian", "brian@desk", 1⟩
    let a := allocateAdvisors [amina, brian] [⟨1, 100, true⟩, ⟨2, 100, true⟩, ⟨3, 100, true⟩] .empty
    let a' := allocateAdvisors [brian, amina] [⟨3, 100, true⟩, ⟨2, 100, true⟩, ⟨1, 100, true⟩] .empty
    a.owner.Same a'.owner ∧ a.covering.Same a'.covering ∧ a.demoted = a'.demoted :=
  (allocateAdvisors_perm_and_stable
    ⟨[⟨"fa1", "Amina", "amina@desk", 1⟩, ⟨"fa2", "Brian", "brian@desk", 1⟩], by decide⟩
    [⟨1, 100, true⟩, ⟨2, 100, true⟩, ⟨3, 100, true⟩] (by decide) .empty .empty).1 _ _
      (List.Perm.swap _ _ _) (List.reverse_perm [_, _, _]).symm

end ClientEngagement.Risk
