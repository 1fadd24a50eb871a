import ClientEngagement.Risk.FaAllocation

/-!
# Ownership in the advisor allocation

What `ownersFor` computes: a client whose source owner, or else current owner, is on the roster keeps
that owner (`ownersFor_kept`), and every client ends with an owner of the roster (`ownersFor_total`).
The loop lemmas are `foldl_place_get?` for the placement and `foldl_assignOne_get?` for the
assignment of the clients left over.
-/

namespace ClientEngagement.Risk

variable {roster : List FaRecord} {currentOwners sourceOwners : Dict ClientId FaId}

lemma rostered_pairs (nd : (roster.map FaRecord.faId).Nodup) :
    ((roster.map fun record => (record.faId, record)).map Prod.fst).Nodup := by
  rw [List.map_map]
  exact nd

lemma keys_rostered (nd : (roster.map FaRecord.faId).Nodup) :
    (rostered roster).keys = roster.map FaRecord.faId := by
  rw [rostered, Dict.keys_ofList (rostered_pairs nd), List.map_map]
  rfl

lemma keys_rostered_ne_nil (nd : (roster.map FaRecord.faId).Nodup) (ne : roster ≠ []) :
    (rostered roster).keys ≠ [] := by
  rw [keys_rostered nd]
  simpa using ne

lemma capacity_record (nd : (roster.map FaRecord.faId).Nodup) {r : FaRecord} (hr : r ∈ roster) :
    capacity roster r.faId = r.dailyCapacity := by
  have h : (rostered roster).get? r.faId = some r :=
    (Dict.get?_ofList (rostered_pairs nd)).mpr (List.mem_map.mpr ⟨r, hr, rfl⟩)
  simp [capacity, h]

lemma existingOwner_mem {id : ClientId} {f : FaId}
    (h : existingOwner roster currentOwners sourceOwners id = some f) :
    f ∈ (rostered roster).keys := by
  rw [existingOwner, Option.filter_eq_some_iff] at h
  exact (Dict.contains_iff _).mp h.2

/-- The placement loop gives a listed client its existing owner and touches nobody else. -/
lemma foldl_place_get? (clients : List ClientLoad) (p : Placement) (id : ClientId) :
    (clients.foldl (place roster currentOwners sourceOwners) p).owner.get? id =
      if id ∈ clients.map ClientLoad.clientId then
        (existingOwner roster currentOwners sourceOwners id).or (p.owner.get? id)
      else p.owner.get? id := by
  induction clients generalizing p with
  | nil => simp
  | cons c clients ih =>
    rw [List.foldl_cons, ih]
    cases e : existingOwner roster currentOwners sourceOwners c.clientId with
    | none =>
      simp only [place, e, List.map_cons, List.mem_cons]
      by_cases h : id = c.clientId
      · subst h
        simp [e]
      · simp [h]
    | some f =>
      simp only [place, e, List.map_cons, List.mem_cons, Dict.get?_set]
      by_cases h : id = c.clientId
      · subst h
        simp [e]
      · simp [h]

/-- The clients left over are those without an existing owner, in order. -/
lemma foldl_place_unassigned (clients : List ClientLoad) (p : Placement) :
    (clients.foldl (place roster currentOwners sourceOwners) p).unassigned =
      p.unassigned ++ clients.filter fun c =>
        (existingOwner roster currentOwners sourceOwners c.clientId).isNone := by
  induction clients generalizing p with
  | nil => simp
  | cons c clients ih =>
    rw [List.foldl_cons, ih]
    cases e : existingOwner roster currentOwners sourceOwners c.clientId with
    | none => simp [place, e]
    | some f => simp [place, e]

/-- The assignment loop gives every listed client an owner of the roster and touches nobody else. -/
lemma foldl_assignOne_get? (ne : (rostered roster).keys ≠ []) (clients : List ClientLoad)
    (s : Dict ClientId FaId × Carried) (id : ClientId) :
    (id ∈ clients.map ClientLoad.clientId → ∃ f ∈ (rostered roster).keys,
        (clients.foldl (assignOne roster) s).1.get? id = some f) ∧
      (id ∉ clients.map ClientLoad.clientId →
        (clients.foldl (assignOne roster) s).1.get? id = s.1.get? id) := by
  induction clients generalizing s with
  | nil => simp
  | cons c clients ih =>
    obtain ⟨f, hf⟩ := minBy_isSome (f := loadKey s.2) ne
    have e : assignOne roster s c = (s.1.set c.clientId f, s.2.add f c.fundAtRisk) := by
      simp only [assignOne, hf]
    rw [List.foldl_cons, e]
    obtain ⟨hin, hout⟩ := ih (s.1.set c.clientId f, s.2.add f c.fundAtRisk)
    refine ⟨fun hm => ?_, fun hm => ?_⟩
    · by_cases hr : id ∈ clients.map ClientLoad.clientId
      · exact hin hr
      · -- the head binds `id`, the tail leaves it alone
        obtain rfl : id = c.clientId := by simpa [hr] using hm
        exact ⟨f, minBy_mem hf, by rw [hout hr, Dict.get?_set_self]⟩
    · simp only [List.map_cons, List.mem_cons, not_or] at hm
      rw [hout hm.2, Dict.get?_set_ne _ _ hm.1]

lemma not_mem_unassigned (clients : List ClientLoad) {id : ClientId} {f : FaId}
    (h : existingOwner roster currentOwners sourceOwners id = some f) :
    id ∉ (clients.filter fun c =>
      (existingOwner roster currentOwners sourceOwners c.clientId).isNone).map ClientLoad.clientId := by
  intro hm
  obtain ⟨c, hc, rfl⟩ := List.mem_map.mp hm
  simp [h] at hc

lemma mem_map_sortBy {β : Type*} [LinearOrder β] {key : ClientLoad → β} {l : List ClientLoad}
    {id : ClientId} :
    id ∈ (sortBy key l).map ClientLoad.clientId ↔ id ∈ l.map ClientLoad.clientId :=
  ((sortBy_perm key l).map _).mem_iff

/-- A client with an existing owner on the roster keeps that owner. -/
theorem ownersFor_kept (ne : (rostered roster).keys ≠ []) {clients : List ClientLoad}
    {c : ClientLoad} (hc : c ∈ clients) {f : FaId}
    (h : existingOwner roster currentOwners sourceOwners c.clientId = some f) :
    (ownersFor roster clients currentOwners sourceOwners).get? c.clientId = some f := by
  have hno := not_mem_unassigned clients h
  rw [ownersFor, foldl_place_unassigned, List.nil_append]
  rw [(foldl_assignOne_get? ne _ _ _).2 (by rwa [mem_map_sortBy])]
  rw [foldl_place_get?, if_pos (List.mem_map_of_mem hc), h]
  rfl

/-- Every client ends with an owner of the roster. -/
theorem ownersFor_total (ne : (rostered roster).keys ≠ [])
    (currentOwners sourceOwners : Dict ClientId FaId) {clients : List ClientLoad}
    {c : ClientLoad} (hc : c ∈ clients) :
    ∃ f ∈ (rostered roster).keys,
      (ownersFor roster clients currentOwners sourceOwners).get? c.clientId = some f := by
  cases e : existingOwner roster currentOwners sourceOwners c.clientId with
  | some f => exact ⟨f, existingOwner_mem e, ownersFor_kept ne hc e⟩
  | none =>
    rw [ownersFor, foldl_place_unassigned, List.nil_append]
    apply (foldl_assignOne_get? ne _ _ _).1
    rw [mem_map_sortBy]
    exact List.mem_map_of_mem (List.mem_filter.mpr ⟨hc, by simp [e]⟩)

/-- What the source records name is on the roster. -/
lemma ownersFromSource_mem {normalizedEmail : String → String} {sourceEmails : Dict ClientId String}
    {id : ClientId} {f : FaId}
    (h : (ownersFromSource normalizedEmail roster sourceEmails).get? id = some f) :
    f ∈ roster.map FaRecord.faId := by
  have hm := Dict.mem_of_get?_ofList h
  simp only [List.mem_filterMap, Option.map_eq_some_iff, Prod.mk.injEq] at hm
  obtain ⟨⟨id', email⟩, -, f', hf', -, rfl⟩ := hm
  have := Dict.mem_of_get?_ofList hf'
  simp only [List.mem_map, Prod.mk.injEq] at this
  obtain ⟨r, hr, -, rfl⟩ := this
  exact List.mem_map_of_mem hr

end ClientEngagement.Risk
