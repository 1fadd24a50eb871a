import ClientEngagement.Rules.Versioning

/-!
# Which version is in force

The selection `activeVersion` as an order: the row that `Leads` a date names the version. From it,
what each write does to the selection on a date: rows that are dominated change nothing
(`activeVersion_append_of_dominated`), rows that are not take the date over
(`activeVersion_append_of_takes`), dropping rows of other versions changes nothing
(`activeVersion_filter`), and a publish leaves the version `nextInForce` (`activeVersion_publish`).
-/

namespace ClientEngagement.Rules

variable {ν ι : Type*}

/-- The row is in force on the date and none in force ranks above it. -/
structure Leads (rows : List (Row ν)) (date : Date) (r : Row ν) : Prop where
  mem : r ∈ rows
  inForce : r.inForce date = true
  le : ∀ r' ∈ rows, r'.inForce date = true → r'.rank ≤ r.rank

lemma version_of_rank_eq {r r' : Row ν} (e : r.rank = r'.rank) : r.version = r'.version :=
  congrArg (fun k => (ofLex k).2) e

variable {rows new : List (Row ν)} {date : Date} {r : Row ν} {v : ℤ}

lemma Leads.version_eq {r' : Row ν} (h : Leads rows date r) (h' : Leads rows date r') :
    r.version = r'.version :=
  version_of_rank_eq (le_antisymm (h'.le r h.mem h.inForce) (h.le r' h'.mem h'.inForce))

lemma leads_of_minBy
    (hm : minBy (fun r => OrderDual.toDual r.rank) (rows.filter (·.inForce date)) = some r) :
    Leads rows date r := by
  obtain ⟨hmem, hf⟩ := List.mem_filter.mp (minBy_mem hm)
  refine ⟨hmem, hf, fun r' hr' hf' => ?_⟩
  have hle := minBy_le hm (List.mem_filter.mpr ⟨hr', hf'⟩)
  exact OrderDual.toDual_le_toDual.mp hle

lemma exists_leads (hr : r ∈ rows) (hf : r.inForce date = true) : ∃ r', Leads rows date r' := by
  have hmem : r ∈ rows.filter (·.inForce date) := List.mem_filter.mpr ⟨hr, hf⟩
  obtain ⟨m, hm⟩ := minBy_isSome (f := fun r => OrderDual.toDual r.rank) (List.ne_nil_of_mem hmem)
  exact ⟨m, leads_of_minBy hm⟩

lemma leads_of_activeVersion (h : activeVersion rows date = some v) :
    ∃ r, Leads rows date r ∧ r.version = v := by
  obtain ⟨m, hm, rfl⟩ := Option.map_eq_some_iff.mp h
  exact ⟨m, leads_of_minBy hm, rfl⟩

/-- No version is in force exactly when no row is. -/
lemma activeVersion_eq_none : activeVersion rows date = none ↔ ∀ r ∈ rows, r.inForce date = false := by
  simp [activeVersion]

/-- The row that leads names the version. -/
lemma Leads.activeVersion_eq (h : Leads rows date r) : activeVersion rows date = some r.version := by
  cases e : activeVersion rows date with
  | none =>
    have := activeVersion_eq_none.mp e r h.mem
    rw [h.inForce] at this
    cases this
  | some v =>
    obtain ⟨r', h', rfl⟩ := leads_of_activeVersion e
    rw [h.version_eq h']

/-! ## Adding and dropping rows -/

/-- New rows that something in force outranks leave the selection alone. -/
lemma activeVersion_append_of_dominated
    (hd : ∀ n ∈ new, n.inForce date = true → ∃ r ∈ rows, r.inForce date = true ∧ n.rank < r.rank) :
    activeVersion (rows ++ new) date = activeVersion rows date := by
  cases e : activeVersion rows date with
  | none =>
    rw [activeVersion_eq_none] at e ⊢
    intro r hr
    cases List.mem_append.mp hr with
    | inl hr => exact e r hr
    | inr hr =>
      cases hf : r.inForce date with
      | false => rfl
      | true =>
        obtain ⟨r', hr', hf', -⟩ := hd r hr hf
        rw [e r' hr'] at hf'
        cases hf'
  | some v =>
    obtain ⟨m, hm, rfl⟩ := leads_of_activeVersion e
    refine Leads.activeVersion_eq ⟨List.mem_append_left _ hm.mem, hm.inForce, fun r hr hf => ?_⟩
    cases List.mem_append.mp hr with
    | inl hr => exact hm.le r hr hf
    | inr hr =>
      obtain ⟨r', hr', hf', lt⟩ := hd r hr hf
      exact lt.le.trans (hm.le r' hr' hf')

/-- New rows of one version that nothing in force outranks take the date over. -/
lemma activeVersion_append_of_takes (hv : ∀ n ∈ new, n.version = v) (hn : r ∈ new)
    (hf : r.inForce date = true) (hle : ∀ r' ∈ rows, r'.inForce date = true → r'.rank ≤ r.rank) :
    activeVersion (rows ++ new) date = some v := by
  obtain ⟨m, hm⟩ : ∃ m, Leads (rows ++ new) date m :=
    exists_leads (List.mem_append_right _ hn) hf
  rw [hm.activeVersion_eq]
  cases List.mem_append.mp hm.mem with
  | inl hmem =>
    have e := le_antisymm (hle m hmem hm.inForce) (hm.le r (List.mem_append_right _ hn) hf)
    rw [version_of_rank_eq e, hv r hn]
  | inr hmem => rw [hv m hmem]

/-- Adding rows of one version selects that version or what was selected before. -/
lemma activeVersion_append (hv : ∀ n ∈ new, n.version = v) :
    activeVersion (rows ++ new) date = some v ∨
      activeVersion (rows ++ new) date = activeVersion rows date := by
  by_cases hd : ∀ n ∈ new, n.inForce date = true →
      ∃ r ∈ rows, r.inForce date = true ∧ n.rank < r.rank
  · exact .inr (activeVersion_append_of_dominated hd)
  · push Not at hd
    obtain ⟨n, hn, hf, hle⟩ := hd
    exact .inl (activeVersion_append_of_takes hv hn hf hle)

/-- Dropping rows of versions that are not selected leaves the selection alone. -/
lemma activeVersion_filter {p : Row ν → Bool}
    (h : ∀ r ∈ rows, p r = false → activeVersion rows date ≠ some r.version) :
    activeVersion (rows.filter p) date = activeVersion rows date := by
  cases e : activeVersion rows date with
  | none =>
    rw [activeVersion_eq_none] at e ⊢
    intro r hr
    exact e r (List.mem_filter.mp hr).1
  | some v =>
    obtain ⟨m, hm, rfl⟩ := leads_of_activeVersion e
    have hp : p m = true := by
      cases hp : p m with
      | true => rfl
      | false => exact absurd e (h m hm.mem hp)
    refine Leads.activeVersion_eq ⟨List.mem_filter.mpr ⟨hm.mem, hp⟩, hm.inForce, fun r hr hf => ?_⟩
    exact hm.le r (List.mem_filter.mp hr).1 hf

/-! ## Publishing -/

variable (spec : ComponentSpec ν ι) (componentKey : String) (version : ℤ) (start : Date)

/-- The rows in force on `date` that a publish from `start` on leaves in force. -/
def untouched (rows : List (Row ν)) (date : Date) : List (Row ν) :=
  rows.filter fun r => r.inForce date ∧ ¬ (r.version = version ∧ spec.addresses componentKey r) ∧
    ¬ (r.isLive ∧ spec.addresses componentKey r ∧ start ≤ date)

/-- Whether the published version leads the date. -/
def takesOver (rows : List (Row ν)) (date : Date) : Prop :=
  start ≤ date ∧
    ∀ r ∈ untouched spec componentKey version start rows date, r.rank ≤ toLex (start, version)

instance (rows : List (Row ν)) (date : Date) :
    Decidable (takesOver spec componentKey version start rows date) :=
  inferInstanceAs (Decidable (_ ∧ _))

/-- The version a publish leaves in force on `date`. -/
def nextInForce (rows : List (Row ν)) (date : Date) : Option ℤ :=
  if takesOver spec componentKey version start rows date then some version
  else activeVersion (untouched spec componentKey version start rows date) date

variable {spec componentKey version start} {publishedBy : Option String} {now : Instant}

lemma publishRow_of_addressed (h : r.version = version ∧ spec.addresses componentKey r = true) :
    Store.publishRow spec componentKey version publishedBy start now r =
      { r with
        status := .published
        validFrom := some start
        validTo := none
        publishedBy := publishedBy
        publishedAt := some now } := by
  rw [Store.publishRow, if_pos h]

@[simp] lemma version_publishRow :
    (Store.publishRow spec componentKey version publishedBy start now r).version = r.version := by
  simp only [Store.publishRow]
  split_ifs <;> rfl

@[simp] lemma key_publishRow :
    (Store.publishRow spec componentKey version publishedBy start now r).key = r.key := by
  simp only [Store.publishRow]
  split_ifs <;> rfl

lemma status_publishRow (h : ¬ (r.version = version ∧ spec.addresses componentKey r = true)) :
    (Store.publishRow spec componentKey version publishedBy start now r).status = r.status := by
  rw [Store.publishRow, if_neg h]
  split_ifs <;> rfl

lemma validFrom_publishRow (h : ¬ (r.version = version ∧ spec.addresses componentKey r = true)) :
    (Store.publishRow spec componentKey version publishedBy start now r).validFrom = r.validFrom := by
  rw [Store.publishRow, if_neg h]
  split_ifs <;> rfl

lemma validTo_publishRow (h : ¬ (r.version = version ∧ spec.addresses componentKey r = true))
    (e : (Store.publishRow spec componentKey version publishedBy start now r).validTo = some date) :
    r.validTo = some date ∨ date = start := by
  rw [Store.publishRow, if_neg h] at e
  split_ifs at e
  · exact .inr (Option.some.inj e).symm
  · exact .inl e

lemma rank_publishRow (h : ¬ (r.version = version ∧ spec.addresses componentKey r = true)) :
    (Store.publishRow spec componentKey version publishedBy start now r).rank = r.rank := by
  rw [Store.publishRow, if_neg h]
  split_ifs <;> rfl

/-- A row of another version stays in force exactly when the publish leaves it untouched. -/
lemma inForce_publishRow (hr : r ∈ rows)
    (h : ¬ (r.version = version ∧ spec.addresses componentKey r = true)) :
    (Store.publishRow spec componentKey version publishedBy start now r).inForce date = true ↔
      r ∈ untouched spec componentKey version start rows date := by
  simp only [untouched, List.mem_filter, decide_eq_true_eq, hr, true_and, h, not_false_eq_true]
  rw [Store.publishRow, if_neg h]
  split_ifs with live
  · -- a live row is open-ended, so its new end is what decides
    have hto : r.validTo = none := by
      have := live.1
      simp only [Row.isLive, decide_eq_true_eq] at this
      exact this.2
    simp [Row.inForce, live.1, live.2, hto]
  · simp only [not_and] at live
    constructor
    · exact fun hf => ⟨hf, fun hc => live hc.1 hc.2.1⟩
    · exact fun hf => hf.1

/-- A publish of rows that exist leaves `nextInForce` selected on every date. -/
theorem activeVersion_publish (hr : r ∈ rows)
    (ha : r.version = version ∧ spec.addresses componentKey r = true) (date : Date) :
    activeVersion (rows.map (Store.publishRow spec componentKey version publishedBy start now)) date =
      nextInForce spec componentKey version start rows date := by
  have hpub : Store.publishRow spec componentKey version publishedBy start now r = { r with
      status := .published
      validFrom := some start
      validTo := none
      publishedBy := publishedBy
      publishedAt := some now } := publishRow_of_addressed ha
  rw [nextInForce]
  split_ifs with takes
  · -- the published rows lead: every other row in force is untouched, hence below them
    obtain ⟨hstart, hle⟩ := takes
    have hlead : Leads (rows.map (Store.publishRow spec componentKey version publishedBy start now))
        date (Store.publishRow spec componentKey version publishedBy start now r) := by
      refine ⟨List.mem_map_of_mem hr, by simp [hpub, Row.inForce, hstart], ?_⟩
      intro r' hr' hf
      obtain ⟨q, hq, rfl⟩ := List.mem_map.mp hr'
      by_cases hqa : q.version = version ∧ spec.addresses componentKey q = true
      · rw [publishRow_of_addressed hqa, hpub]
        simp [Row.rank, hqa.1, ha.1]
      · rw [rank_publishRow hqa, hpub]
        simpa [Row.rank, ha.1] using hle q ((inForce_publishRow hq hqa).mp hf)
    rw [hlead.activeVersion_eq, version_publishRow, ha.1]
  · cases e : activeVersion (untouched spec componentKey version start rows date) date with
    | none =>
      -- nothing is untouched, so the publish has not started
      rw [activeVersion_eq_none] at e ⊢
      have hnil : ∀ q, q ∉ untouched spec componentKey version start rows date := by
        intro q hq
        have hf := (List.mem_filter.mp hq).2
        simp only [decide_eq_true_eq] at hf
        rw [e q hq] at hf
        cases hf.1
      have hlate : ¬ start ≤ date := fun hs => takes ⟨hs, fun q hq => absurd hq (hnil q)⟩
      intro r' hr'
      obtain ⟨q, hq, rfl⟩ := List.mem_map.mp hr'
      rw [Bool.eq_false_iff]
      intro hf
      by_cases hqa : q.version = version ∧ spec.addresses componentKey q = true
      · rw [publishRow_of_addressed hqa] at hf
        simp [Row.inForce, hlate] at hf
      · exact hnil q ((inForce_publishRow hq hqa).mp hf)
    | some v =>
      obtain ⟨m, hm, rfl⟩ := leads_of_activeVersion e
      have hmr := List.mem_filter.mp hm.mem
      simp only [decide_eq_true_eq] at hmr
      have hma := hmr.2.2.1
      have hlead : Leads (rows.map (Store.publishRow spec componentKey version publishedBy start now))
          date (Store.publishRow spec componentKey version publishedBy start now m) := by
        refine ⟨List.mem_map_of_mem hmr.1, (inForce_publishRow hmr.1 hma).mpr hm.mem, ?_⟩
        intro r' hr' hf
        obtain ⟨q, hq, rfl⟩ := List.mem_map.mp hr'
        rw [rank_publishRow hma]
        by_cases hqa : q.version = version ∧ spec.addresses componentKey q = true
        · -- the published rows are in force but do not take over: something untouched is above
          rw [publishRow_of_addressed hqa] at hf ⊢
          have hstart : start ≤ date := by simpa [Row.inForce] using hf
          have hex : ∃ w ∈ untouched spec componentKey version start rows date,
              toLex (start, version) < w.rank := by
            by_contra hno
            push Not at hno
            exact takes ⟨hstart, hno⟩
          obtain ⟨w, hw, lt⟩ := hex
          have hwf := (List.mem_filter.mp hw).2
          simp only [decide_eq_true_eq] at hwf
          have hle := lt.le.trans (hm.le w hw hwf.1)
          simpa [Row.rank, hqa.1] using hle
        · rw [rank_publishRow hqa]
          have hqu := (inForce_publishRow hq hqa).mp hf
          have hqf := (List.mem_filter.mp hqu).2
          simp only [decide_eq_true_eq] at hqf
          exact hm.le q hqu hqf.1
      rw [hlead.activeVersion_eq, version_publishRow]

end ClientEngagement.Rules
