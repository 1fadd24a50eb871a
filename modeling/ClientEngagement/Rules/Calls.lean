import ClientEngagement.Lib.Runs
import ClientEngagement.Rules.Selection

/-!
# Histories of a versioned component

The calls that change a component as one labelled system: `Call`, `step` and, for the calls that do
not raise, `Accepts`. Each operation has one inversion lemma that says all it does (`saveVersion_ok`,
`saveDraft_ok`, `publish_ok`, `discardDraft_ok`). `NoDraftInForce` is the invariant that no loader
returns a draft; for each operation a lemma says when it is kept.
-/

namespace ClientEngagement.Rules

variable {ν ι α : Type*} {spec : ComponentSpec ν ι}

/-- A call on a component; `α` is what its own save function is given. The publish date is the
    caller's, or today. -/
inductive Call (α ν : Type*) where
  | saveVersion (args : α)
  | saveDraft (componentKey : String) (values : List (DraftValues ν)) (createdBy : Option String)
  | publish (componentKey : String) (version : ℤ) (publishedBy : Option String) (date : Date)
      (now : Instant)
  | discardDraft (componentKey : String) (version : ℤ)

def step [DecidableEq ι] (save : Store spec → α → Except VersioningError (Store spec)) (s : Store spec) :
    Call α ν → Except VersioningError (Store spec)
  | .saveVersion args => save s args
  | .saveDraft componentKey values createdBy => s.saveDraft componentKey values createdBy
  | .publish componentKey version publishedBy date now =>
    s.publish componentKey version publishedBy date now
  | .discardDraft componentKey version => s.discardDraft componentKey version

/-- The call does not raise. -/
def Accepts [DecidableEq ι] (save : Store spec → α → Except VersioningError (Store spec)) (s : Store spec)
    (c : Call α ν) (s' : Store spec) : Prop :=
  step save s c = .ok s'

/-- A list of calls, one after the other, up to the first that raises. -/
def runCalls [DecidableEq ι] (save : Store spec → α → Except VersioningError (Store spec))
    (s : Store spec) : List (Call α ν) → Except VersioningError (Store spec)
  | [] => .ok s
  | c :: calls => (step save s c).bind fun s' => runCalls save s' calls

/-- A guarded history, checked call by call. -/
def GuardedCalls [DecidableEq ι] (guard : Store spec → Call α ν → Prop)
    (save : Store spec → α → Except VersioningError (Store spec)) (s : Store spec) :
    List (Call α ν) → Prop
  | [] => True
  | c :: calls => guard s c ∧ ∀ s', step save s c = .ok s' → GuardedCalls guard save s' calls

lemma run_of_runCalls [DecidableEq ι] {guard : Store spec → Call α ν → Prop}
    {save : Store spec → α → Except VersioningError (Store spec)} {s₀ s t : Store spec}
    {before calls : List (Call α ν)} (r : Run (Guarded guard (Accepts save)) s₀ before s)
    (h : runCalls save s calls = .ok t) (hg : GuardedCalls guard save s calls) :
    Run (Guarded guard (Accepts save)) s₀ (before ++ calls) t := by
  induction calls generalizing s before with
  | nil =>
    cases h
    rwa [List.append_nil]
  | cons c calls ih =>
    simp only [runCalls] at h
    cases e : step save s c with
    | error err =>
      rw [e] at h
      cases h
    | ok s' =>
      rw [e] at h
      have r' := ih (.snoc r ⟨hg.1, e⟩) h (hg.2 s' e)
      rwa [List.append_assoc] at r'

/-! ## What each call does -/

variable {s s' : Store spec} {componentKey : String} {version : ℤ}

lemma insertRows_ok [DecidableEq ι] {new : List (Row ν)} (h : s.insertRows new = .ok s') :
    s'.rows = s.rows ++ new ∧ s'.active = s.active := by
  rw [Store.insertRows] at h
  split at h
  · cases h
    exact ⟨rfl, rfl⟩
  · cases h

lemma foldl_setActiveVersion (version : ℤ) (keys : List String) (s : Store spec) :
    (keys.foldl (fun s key => s.setActiveVersion key version) s).rows = s.rows ∧
      (keys.foldl (fun s key => s.setActiveVersion key version) s).active =
        keys.foldl (fun active key => active.set key version) s.active := by
  induction keys generalizing s with
  | nil => exact ⟨rfl, rfl⟩
  | cons key keys ih => exact ih (s.setActiveVersion key version)

/-- A save that is accepted adds published rows of a version nobody used. -/
lemma saveVersion_ok [DecidableEq ι] {validated : Except String Unit} {items : List (String × ν)}
    {pointers : List String} {validFrom : Date} {validTo : Option Date} {publishedAt : Instant}
    (h : s.saveVersion validated version items pointers validFrom validTo publishedAt = .ok s') :
    (∀ r ∈ s.rows, r.version ≠ version) ∧
      s'.rows = s.rows ++ (items.map fun (key, content) =>
        Store.publishedRow version validFrom validTo publishedAt key content) ∧
      s'.active = if validTo = none then
        pointers.foldl (fun active key => active.set key version) s.active else s.active := by
  unfold Store.saveVersion at h
  split at h
  · cases h
  · split at h
    · cases h
    · rename_i hv
      have hfresh : ∀ r ∈ s.rows, r.version ≠ version := by
        simpa [Store.versionExists] using hv
      generalize e : s.insertRows _ = res at h
      cases res with
      | error err => cases h
      | ok t =>
        obtain ⟨hrows, hactive⟩ := insertRows_ok e
        simp only [Except.map] at h
        split at h
        · rename_i hto
          cases h
          obtain ⟨hr, ha⟩ := foldl_setActiveVersion version pointers t
          exact ⟨hfresh, hr.trans hrows, by rw [ha, hactive, if_pos hto]⟩
        · rename_i hto
          cases h
          exact ⟨hfresh, hrows, by rw [hactive, if_neg hto]⟩

/-- The rows a draft adds. -/
def draftRows (s : Store spec) (componentKey : String) (values : List (DraftValues ν))
    (createdBy : Option String) : List (Row ν) :=
  values.map fun row => row.row spec componentKey (s.nextVersion componentKey) createdBy

lemma saveDraft_ok [DecidableEq ι] {values : List (DraftValues ν)} {createdBy : Option String}
    (h : s.saveDraft componentKey values createdBy = .ok s') :
    values ≠ [] ∧ s'.rows = s.rows ++ draftRows s componentKey values createdBy ∧
      s'.active = s.active := by
  rw [Store.saveDraft] at h
  split at h
  · cases h
  · rename_i ne
    exact ⟨ne, insertRows_ok h⟩

lemma rowsFor_draft {r : Row ν} (hr : r ∈ s.rows)
    (ha : r.version = version ∧ spec.addresses componentKey r = true)
    (hd : ¬ (s.rowsFor componentKey version).any (·.status ≠ .draft) = true) : r.status = .draft := by
  simp only [Store.rowsFor, List.any_eq_true, List.mem_filter, decide_eq_true_eq, not_exists,
    not_and, not_not] at hd
  exact hd r ⟨hr, ha⟩

lemma publish_ok {publishedBy : Option String} {date : Date} {now : Instant}
    (h : s.publish componentKey version publishedBy date now = .ok s') :
    (∃ r ∈ s.rows, r.version = version ∧ spec.addresses componentKey r = true) ∧
      (∀ r ∈ s.rows, r.version = version ∧ spec.addresses componentKey r = true →
        r.status = .draft) ∧
      s'.rows = s.rows.map (Store.publishRow spec componentKey version publishedBy date now) ∧
      s'.active = s.active.set componentKey version := by
  rw [Store.publish] at h
  split at h
  · cases h
  · split at h
    · cases h
    · rename_i hne hd
      cases h
      obtain ⟨r, hr⟩ := List.exists_mem_of_ne_nil _ hne
      have hr := List.mem_filter.mp hr
      simp only [decide_eq_true_eq] at hr
      exact ⟨⟨r, hr⟩, fun r hr ha => rowsFor_draft hr ha hd, rfl, rfl⟩

lemma discardDraft_ok (h : s.discardDraft componentKey version = .ok s') :
    (∀ r ∈ s.rows, r.version = version ∧ spec.addresses componentKey r = true →
        r.status = .draft) ∧
      s'.rows = (s.rows.filter fun r => ¬ (r.version = version ∧ spec.addresses componentKey r)) ∧
      s'.active = s.active := by
  rw [Store.discardDraft] at h
  split at h
  · cases h
  · split at h
    · cases h
    · rename_i hd
      cases h
      exact ⟨fun r hr ha => rowsFor_draft hr ha hd, rfl, rfl⟩

/-! ## Drafts and the version in force -/

/-- The version in force on a date is never one with a draft row. -/
def NoDraftInForce (rows : List (Row ν)) : Prop :=
  ∀ date, ∀ r ∈ rows, r.status = .draft → activeVersion rows date ≠ some r.version

/-- Whenever one of the new rows is in force, a row that ranks above it is in force too. -/
def Dominated (rows new : List (Row ν)) : Prop :=
  ∀ date, ∀ n ∈ new, n.inForce date = true → ∃ r ∈ rows, r.inForce date = true ∧ n.rank < r.rank

/-- After a publish from `start` on, no other draft carries a version in force. -/
def LeavesDraftsOut (spec : ComponentSpec ν ι) (componentKey : String) (version : ℤ) (start : Date)
    (rows : List (Row ν)) : Prop :=
  ∀ date, ∀ r ∈ rows, r.status = .draft →
    ¬ (r.version = version ∧ spec.addresses componentKey r = true) →
      nextInForce spec componentKey version start rows date ≠ some r.version

/-- Published rows of a fresh version bring no draft into force. -/
lemma NoDraftInForce.append_published {rows new : List (Row ν)} (h : NoDraftInForce rows)
    (fresh : ∀ r ∈ rows, r.version ≠ version)
    (hnew : ∀ n ∈ new, n.version = version ∧ n.status = .published) :
    NoDraftInForce (rows ++ new) := by
  intro date r hr hd
  cases List.mem_append.mp hr with
  | inr hr =>
    rw [(hnew r hr).2] at hd
    cases hd
  | inl hr =>
    have chosen : activeVersion (rows ++ new) date = some version ∨
        activeVersion (rows ++ new) date = activeVersion rows date :=
      activeVersion_append fun n hn => (hnew n hn).1
    cases chosen with
    | inl e =>
      rw [e]
      exact fun e => fresh r hr (Option.some.inj e).symm
    | inr e =>
      rw [e]
      exact h date r hr hd

/-- A draft stays out of force exactly when its version is not in force and its rows are outranked. -/
lemma NoDraftInForce.append_draft_iff {rows new : List (Row ν)} (h : NoDraftInForce rows)
    (ne : new ≠ []) (hnew : ∀ n ∈ new, n.version = version ∧ n.status = .draft) :
    NoDraftInForce (rows ++ new) ↔
      (∀ date, activeVersion rows date ≠ some version) ∧ Dominated rows new := by
  obtain ⟨m, hm⟩ := List.exists_mem_of_ne_nil _ ne
  constructor
  · intro h'
    have hout : ∀ date, activeVersion (rows ++ new) date ≠ some version := by
      intro date
      have := h' date m (List.mem_append_right _ hm) (hnew m hm).2
      rwa [(hnew m hm).1] at this
    refine ⟨fun date e => ?_, fun date n hn hf => ?_⟩
    · have chosen : activeVersion (rows ++ new) date = some version ∨
          activeVersion (rows ++ new) date = activeVersion rows date :=
        activeVersion_append fun n hn => (hnew n hn).1
      cases chosen with
      | inl e' => exact hout date e'
      | inr e' => exact hout date (e'.trans e)
    · by_contra hno
      push Not at hno
      exact hout date (activeVersion_append_of_takes (fun n hn => (hnew n hn).1) hn hf hno)
  · intro hc date r hr hd
    rw [activeVersion_append_of_dominated (hc.2 date)]
    cases List.mem_append.mp hr with
    | inl hr => exact h date r hr hd
    | inr hr =>
      rw [(hnew r hr).1]
      exact hc.1 date

/-- A publish keeps drafts out of force exactly when it leaves them out on every date. -/
lemma noDraftInForce_publish_iff {publishedBy : Option String} {date : Date} {now : Instant}
    (h : s.publish componentKey version publishedBy date now = .ok s') :
    NoDraftInForce s'.rows ↔ LeavesDraftsOut spec componentKey version date s.rows := by
  obtain ⟨⟨r₀, hr₀, ha₀⟩, -, hrows, -⟩ := publish_ok h
  have hsel : ∀ d, activeVersion s'.rows d = nextInForce spec componentKey version date s.rows d := by
    intro d
    rw [hrows]
    exact activeVersion_publish hr₀ ha₀ d
  constructor
  · intro h' d r hr hd hna
    rw [← hsel d]
    have hmem : Store.publishRow spec componentKey version publishedBy date now r ∈ s'.rows := by
      rw [hrows]
      exact List.mem_map_of_mem hr
    have := h' d _ hmem (by rw [status_publishRow hna, hd])
    rwa [version_publishRow] at this
  · intro hc d r' hr' hd
    rw [hrows] at hr'
    obtain ⟨r, hr, rfl⟩ := List.mem_map.mp hr'
    rw [hsel d, version_publishRow]
    by_cases ha : r.version = version ∧ spec.addresses componentKey r = true
    · rw [publishRow_of_addressed ha] at hd
      cases hd
    · rw [status_publishRow ha] at hd
      exact hc d r hr hd ha

/-- Discarding a draft that is not in force changes no selection. -/
lemma activeVersion_discardDraft (inv : NoDraftInForce s.rows)
    (h : s.discardDraft componentKey version = .ok s') (date : Date) :
    activeVersion s'.rows date = activeVersion s.rows date := by
  obtain ⟨hdraft, hrows, -⟩ := discardDraft_ok h
  rw [hrows]
  apply activeVersion_filter
  intro r hr hp
  have ha : r.version = version ∧ spec.addresses componentKey r = true := by simpa using hp
  exact inv date r hr (hdraft r hr ha)

lemma NoDraftInForce.discardDraft (inv : NoDraftInForce s.rows)
    (h : s.discardDraft componentKey version = .ok s') : NoDraftInForce s'.rows := by
  intro date r hr hd
  rw [activeVersion_discardDraft inv h]
  rw [(discardDraft_ok h).2.1] at hr
  exact inv date r (List.mem_filter.mp hr).1 hd

end ClientEngagement.Rules
