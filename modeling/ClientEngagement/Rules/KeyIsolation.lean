import ClientEngagement.Rules.Calls
import ClientEngagement.Rules.TierContract

/-!
# Isolation between the keys of one table

The catalogue and the tier contract version each key on its own, while their loaders choose one
version for the whole table. `KeepsKeys` is the condition under which a call on one key leaves every
other key's row where it was and brings no draft into force; `keys_isolated` shows that it is exact,
in every state a history of such calls reaches. `publish_drops_held_angle` is a history of three
calls that breaks the isolation: publishing one angle lets another, held, angle go.
-/

namespace ClientEngagement.Rules

variable {ν α β : Type*}

/-- The key a call is about; a save is about the whole table. -/
def Call.key? : Call α ν → Option String
  | .saveVersion _ => none
  | .saveDraft componentKey _ _ => some componentKey
  | .publish componentKey _ _ _ _ => some componentKey
  | .discardDraft componentKey _ => some componentKey

/-- What is read under every other key is the same before and after, on every date. -/
def Isolates (read : Store (keyedSpec ν) → String → Date → β) (c : Call α ν)
    (s s' : Store (keyedSpec ν)) : Prop :=
  ∀ key ∈ c.key?, ∀ other, other ≠ key → ∀ date, read s' other date = read s other date

/-- No loader returns a draft row. -/
def NoDraftLoaded (load : Store (keyedSpec ν) → String → Date → Option (Row ν))
    (s : Store (keyedSpec ν)) : Prop :=
  ∀ key date r, load s key date = some r → r.status ≠ .draft

/-- On the date, the publish leaves the version in force, or neither version has a row under another
    key. -/
def KeepsOthers (s : Store (keyedSpec ν)) (componentKey : String) (version : ℤ) (start : Date) :
    Prop :=
  ∀ date,
    nextInForce (keyedSpec ν) componentKey version start s.rows date = activeVersion s.rows date ∨
      ∀ r ∈ s.rows, r.key ≠ componentKey →
        nextInForce (keyedSpec ν) componentKey version start s.rows date ≠ some r.version ∧
          activeVersion s.rows date ≠ some r.version

/-- When a call keeps the keys apart. -/
def KeepsKeys (s : Store (keyedSpec ν)) : Call α ν → Prop
  | .saveVersion _ => True
  | .saveDraft componentKey values createdBy =>
    (∀ date, activeVersion s.rows date ≠ some (s.nextVersion componentKey)) ∧
      Dominated s.rows (draftRows s componentKey values createdBy)
  | .publish componentKey version _ date _ =>
    KeepsOthers s componentKey version date ∧
      LeavesDraftsOut (keyedSpec ν) componentKey version date s.rows
  | .discardDraft _ _ => True

/-- A loader returns the row of its key under the version in force. -/
def LoadsInForce (load : Store (keyedSpec ν) → String → Date → Option (Row ν)) : Prop :=
  ∀ s key date r, load s key date = some r ↔
    r ∈ s.rows ∧ r.key = key ∧ activeVersion s.rows date = some r.version

/-- A save adds published rows of a version nobody used. -/
def SavesFresh (save : Store (keyedSpec ν) → α → Except VersioningError (Store (keyedSpec ν))) :
    Prop :=
  ∀ s args s', save s args = .ok s' → ∃ version new, s'.rows = s.rows ++ new ∧
    (∀ r ∈ s.rows, r.version ≠ version) ∧ ∀ n ∈ new, n.version = version ∧ n.status = .published

variable {load : Store (keyedSpec ν) → String → Date → Option (Row ν)}
variable {save : Store (keyedSpec ν) → α → Except VersioningError (Store (keyedSpec ν))}
variable {s s' : Store (keyedSpec ν)} {componentKey : String} {version : ℤ}

lemma addresses_keyed {r : Row ν} :
    (keyedSpec ν).addresses componentKey r = true ↔ r.key = componentKey := by
  simp [ComponentSpec.addresses, keyedSpec]

lemma noDraftLoaded_iff (hl : LoadsInForce load) :
    NoDraftLoaded load s ↔ NoDraftInForce s.rows := by
  constructor
  · intro h date r hr hd e
    exact h r.key date r ((hl s r.key date r).mpr ⟨hr, rfl, e⟩) hd
  · intro h key date r e hd
    obtain ⟨hr, -, ha⟩ := (hl s key date r).mp e
    exact h date r hr hd ha

/-- The same rows and the same version in force give the same row. -/
lemma load_congr (hl : LoadsInForce load) {key : String} {date : Date}
    (hrows : ∀ r : Row ν, r.key = key → (r ∈ s'.rows ↔ r ∈ s.rows))
    (ha : activeVersion s'.rows date = activeVersion s.rows date) :
    load s' key date = load s key date := by
  apply Option.ext
  intro r
  rw [hl, hl, ha]
  constructor
  · exact fun h => ⟨(hrows r h.2.1).mp h.1, h.2⟩
  · exact fun h => ⟨(hrows r h.2.1).mpr h.1, h.2⟩

lemma saveDraft_isolated (hl : LoadsInForce load) {values : List (DraftValues ν)}
    {createdBy : Option String} (h : s.saveDraft componentKey values createdBy = .ok s')
    (hd : Dominated s.rows (draftRows s componentKey values createdBy)) {other : String}
    (ne : other ≠ componentKey) (date : Date) : load s' other date = load s other date := by
  obtain ⟨-, hrows, -⟩ := saveDraft_ok h
  refine load_congr hl (fun r hr => ?_) ?_
  · rw [hrows, List.mem_append, or_iff_left]
    intro hmem
    obtain ⟨d, -, rfl⟩ := List.mem_map.mp hmem
    exact ne (by rw [← hr]; rfl)
  · rw [hrows]
    exact activeVersion_append_of_dominated (hd date)

lemma discardDraft_isolated (hl : LoadsInForce load) (inv : NoDraftInForce s.rows)
    (h : s.discardDraft componentKey version = .ok s') {other : String}
    (ne : other ≠ componentKey) (date : Date) : load s' other date = load s other date := by
  refine load_congr hl (fun r hr => ?_) (activeVersion_discardDraft inv h date)
  rw [(discardDraft_ok h).2.1, List.mem_filter, and_iff_left]
  have hna : ¬ (r.version = version ∧ (keyedSpec ν).addresses componentKey r = true) := by
    rw [addresses_keyed]
    exact fun e => ne (by rw [← hr, e.2])
  exact decide_eq_true hna

/-- A publish moves no row of another key. -/
lemma mem_publish_other {publishedBy : Option String} {date : Date} {now : Instant}
    (h : s.publish componentKey version publishedBy date now = .ok s') {r : Row ν}
    (ne : r.key ≠ componentKey) : r ∈ s'.rows ↔ r ∈ s.rows := by
  have hsame : ∀ q : Row ν, q.key ≠ componentKey →
      Store.publishRow (keyedSpec ν) componentKey version publishedBy date now q = q := by
    intro q hq
    rw [Store.publishRow, if_neg, if_neg]
    · exact fun hc => hq (addresses_keyed.mp hc.2)
    · exact fun hc => hq (addresses_keyed.mp hc.2)
  rw [(publish_ok h).2.2.1, List.mem_map]
  constructor
  · intro hr
    obtain ⟨q, hq, rfl⟩ := hr
    rw [key_publishRow] at ne
    rwa [hsame q ne]
  · exact fun hr => ⟨r, hr, hsame r ne⟩

/-- A publish keeps the other keys exactly when `KeepsOthers` holds. -/
lemma publish_isolated_iff (hl : LoadsInForce load) {publishedBy : Option String} {date : Date}
    {now : Instant} (h : s.publish componentKey version publishedBy date now = .ok s') :
    (∀ other, other ≠ componentKey → ∀ d, load s' other d = load s other d) ↔
      KeepsOthers s componentKey version date := by
  have hsel : ∀ d, activeVersion s'.rows d =
      nextInForce (keyedSpec ν) componentKey version date s.rows d := by
    intro d
    obtain ⟨⟨r₀, hr₀, ha₀⟩, -, hrows, -⟩ := publish_ok h
    rw [hrows]
    exact activeVersion_publish hr₀ ha₀ d
  constructor
  · intro hiso d
    rw [← hsel d]
    by_cases e : activeVersion s'.rows d = activeVersion s.rows d
    · exact .inl e
    · -- a row under another key would be loaded on one side only
      refine .inr fun r hr ne => ⟨fun e' => e ?_, fun e' => e ?_⟩
      · have hload : load s' r.key d = some r :=
          (hl _ _ _ _).mpr ⟨(mem_publish_other h ne).mpr hr, rfl, e'⟩
        rw [hiso r.key ne d] at hload
        rw [e', ((hl _ _ _ _).mp hload).2.2]
      · have hload : load s r.key d = some r := (hl _ _ _ _).mpr ⟨hr, rfl, e'⟩
        rw [← hiso r.key ne d] at hload
        rw [e', ((hl _ _ _ _).mp hload).2.2]
  · intro hk other ne d
    cases hk d with
    | inl e =>
      refine load_congr hl (fun r hr => mem_publish_other h (by rwa [hr])) ?_
      rw [hsel d, e]
    | inr hno =>
      apply Option.ext
      intro r
      rw [hl, hl, hsel d]
      constructor
      · intro hr
        have hmem := (mem_publish_other h (by rw [hr.2.1]; exact ne)).mp hr.1
        exact absurd hr.2.2 (hno r hmem (by rw [hr.2.1]; exact ne)).1
      · intro hr
        exact absurd hr.2.2 (hno r hr.1 (by rw [hr.2.1]; exact ne)).2

/-- One call, from a state without drafts in force. -/
lemma step_isolated_iff (hl : LoadsInForce load) (hs : SavesFresh save) {c : Call α ν}
    (inv : NoDraftInForce s.rows) (h : Accepts save s c s') :
    (Isolates load c s s' ∧ NoDraftInForce s'.rows) ↔ KeepsKeys s c := by
  cases c with
  | saveVersion args =>
    obtain ⟨version, new, hrows, fresh, hnew⟩ := hs s args s' h
    simp only [KeepsKeys, iff_true]
    refine ⟨fun key hk => ?_, ?_⟩
    · cases hk
    · rw [hrows]
      exact inv.append_published fresh hnew
  | saveDraft key values createdBy =>
    obtain ⟨ne, hrows, -⟩ := saveDraft_ok h
    have hnew : ∀ n ∈ draftRows s key values createdBy,
        n.version = s.nextVersion key ∧ n.status = .draft := by
      intro n hn
      obtain ⟨d, -, rfl⟩ := List.mem_map.mp hn
      exact ⟨rfl, rfl⟩
    have hiff := inv.append_draft_iff (by simpa [draftRows] using ne) hnew
    rw [← hrows] at hiff
    simp only [KeepsKeys]
    rw [← hiff, and_iff_right_of_imp]
    intro hno key' hk other hother date
    obtain rfl := Option.some.inj hk
    exact saveDraft_isolated hl h (hiff.mp hno).2 hother date
  | publish key version publishedBy date now =>
    have hiso := publish_isolated_iff hl h
    have hno := noDraftInForce_publish_iff h
    simp only [KeepsKeys]
    rw [← hiso, ← hno, Isolates]
    simp [Call.key?]
  | discardDraft key version =>
    simp only [KeepsKeys, iff_true]
    refine ⟨fun key' hk other hother date => ?_, inv.discardDraft h⟩
    obtain rfl := Option.some.inj hk
    exact discardDraft_isolated hl inv h hother date

/-- Over a history of calls that keep the keys apart no draft is loaded, and each further call keeps
    them apart exactly when `KeepsKeys` says so. -/
lemma run_isolated (hl : LoadsInForce load) (hs : SavesFresh save) {calls : List (Call α ν)}
    (r : Run (Guarded KeepsKeys (Accepts save)) (Store.empty _) calls s) :
    NoDraftInForce s.rows ∧ ∀ c s', Accepts save s c s' →
      ((Isolates load c s s' ∧ NoDraftInForce s'.rows) ↔ KeepsKeys s c) := by
  have inv : NoDraftInForce s.rows := by
    apply r.invariant (fun s => NoDraftInForce s.rows)
    · intro date r hr
      cases hr
    · intro t c u ht hstep
      exact ((step_isolated_iff hl hs ht hstep.2).mpr hstep.1).2
  exact ⟨inv, fun c s' h => step_isolated_iff hl hs inv h⟩

/-! ## The two keyed tables -/

/-- What `saveCatalogVersion` is given. -/
structure CatalogVersion where
  version : ℤ
  angles : List AngleSpec
  validFrom : Date
  validTo : Option Date := none
  publishedAt : Instant := 0

def saveCatalog (s : Catalog) (a : CatalogVersion) : Except VersioningError Catalog :=
  saveCatalogVersion s a.version a.angles a.validFrom a.validTo a.publishedAt

/-- What `saveTierContractVersion` is given. -/
structure TierVersion where
  version : ℤ
  tiers : List TierSpec
  validFrom : Date
  validTo : Option Date := none
  publishedAt : Instant := 0

def saveContract (s : TierContracts) (a : TierVersion) : Except VersioningError TierContracts :=
  saveTierContractVersion s a.version a.tiers a.validFrom a.validTo a.publishedAt

lemma saveVersion_fresh {validated : Except String Unit} {items : List (String × ν)}
    {pointers : List String} {validFrom : Date} {validTo : Option Date} {publishedAt : Instant}
    (h : s.saveVersion validated version items pointers validFrom validTo publishedAt = .ok s') :
    ∃ version new, s'.rows = s.rows ++ new ∧ (∀ r ∈ s.rows, r.version ≠ version) ∧
      ∀ n ∈ new, n.version = version ∧ n.status = .published := by
  obtain ⟨fresh, hrows, -⟩ := saveVersion_ok h
  refine ⟨version, _, hrows, fresh, fun n hn => ?_⟩
  obtain ⟨item, -, rfl⟩ := List.mem_map.mp hn
  exact ⟨rfl, rfl⟩

lemma saveCatalog_savesFresh : SavesFresh saveCatalog :=
  fun _ _ _ h => saveVersion_fresh h

lemma saveContract_savesFresh : SavesFresh saveContract :=
  fun _ _ _ h => saveVersion_fresh h

lemma loadAngle_loadsInForce : LoadsInForce loadAngle := fun _ _ _ _ => loadAngle_iff

lemma loadTier_loadsInForce : LoadsInForce loadTier := fun _ _ _ _ => loadTier_iff

lemma Isolates.angleIsHeld {c : Call α AngleBrief} {s s' : Catalog} (h : Isolates loadAngle c s s') :
    Isolates angleIsHeld c s s' := by
  intro key hk other ne date
  rw [Rules.angleIsHeld, Rules.angleIsHeld, h key hk other ne date]

/-- In every history of calls that keep the keys apart, no loader returns a draft, and the next call
    leaves every other key as it was and no draft loaded exactly when it keeps the keys apart. -/
theorem keys_isolated (catalogCalls : List (Call CatalogVersion AngleBrief))
    (contractCalls : List (Call TierVersion TierPolicy)) (catalog : Catalog)
    (contracts : TierContracts) :
    (Run (Guarded KeepsKeys (Accepts saveCatalog)) (Store.empty _) catalogCalls catalog →
      NoDraftLoaded loadAngle catalog ∧ ∀ c s', Accepts saveCatalog catalog c s' →
        ((Isolates loadAngle c catalog s' ∧ Isolates angleIsHeld c catalog s' ∧
          NoDraftLoaded loadAngle s') ↔ KeepsKeys catalog c)) ∧
    (Run (Guarded KeepsKeys (Accepts saveContract)) (Store.empty _) contractCalls contracts →
      NoDraftLoaded loadTier contracts ∧ ∀ c s', Accepts saveContract contracts c s' →
        ((Isolates loadTier c contracts s' ∧ NoDraftLoaded loadTier s') ↔ KeepsKeys contracts c)) := by
  constructor
  · intro r
    obtain ⟨inv, hstep⟩ := run_isolated loadAngle_loadsInForce saveCatalog_savesFresh r
    simp only [noDraftLoaded_iff loadAngle_loadsInForce]
    refine ⟨inv, fun c s' h => ?_⟩
    rw [← hstep c s' h]
    constructor
    · exact fun hi => ⟨hi.1, hi.2.2⟩
    · exact fun hi => ⟨hi.1, hi.1.angleIsHeld, hi.2⟩
  · intro r
    obtain ⟨inv, hstep⟩ := run_isolated loadTier_loadsInForce saveContract_savesFresh r
    simp only [noDraftLoaded_iff loadTier_loadsInForce]
    exact ⟨inv, hstep⟩

/-! ## A history that breaks the isolation -/

def sampleAngle (angle : String) (held : Bool) : AngleSpec where
  angle := angle
  headline := "Back on schedule"
  who := "Clients who paused"
  claim := "They kept a rhythm"
  ask := "Resume it"
  never := "Promise a return"
  use := "One fact"
  held := held

/-- Two angles, the second one held, and a draft of the first. -/
def sampleCalls : List (Call CatalogVersion AngleBrief) :=
  [.saveVersion ⟨1, [sampleAngle "back_on_schedule" false, sampleAngle "fee_warning" true], 0, none, 0⟩,
    .saveDraft "back_on_schedule" [⟨(sampleAngle "back_on_schedule" false).brief, none, none⟩] none]

/-- Publishing the draft of one angle stops the other from being held. -/
theorem publish_drops_held_angle :
    ¬ ∀ calls (s : Catalog) c s',
      Run (Guarded (fun _ _ => True) (Accepts saveCatalog)) (Store.empty _) calls s →
        Accepts saveCatalog s c s' → Isolates angleIsHeld c s s' := by
  intro h
  have hex : ∃ s s' : Catalog, runCalls saveCatalog (Store.empty _) sampleCalls = .ok s ∧
      step saveCatalog s (.publish "back_on_schedule" 2 none 10 0) = .ok s' ∧
      angleIsHeld s "fee_warning" 10 = true ∧ angleIsHeld s' "fee_warning" 10 = false :=
    ⟨_, _, rfl, rfl, by decide, by decide⟩
  obtain ⟨s, s', hs, hs', hbefore, hafter⟩ := hex
  have r := run_of_runCalls .nil hs
    (show GuardedCalls (fun _ _ => True) _ _ sampleCalls by simp [GuardedCalls, sampleCalls])
  have hiso := h _ s _ s' r hs' "back_on_schedule" rfl "fee_warning" (by decide) 10
  rw [hbefore, hafter] at hiso
  cases hiso

/-- Two angles, a draft of one that is then discarded: nothing moves for the other. -/
theorem keys_isolated_sample :
    ∃ s s' : Catalog, runCalls saveCatalog (Store.empty _) sampleCalls = .ok s ∧
      Accepts saveCatalog s (.discardDraft "back_on_schedule" 2) s' ∧
      NoDraftLoaded loadAngle s ∧ loadAngle s' "fee_warning" 10 = loadAngle s "fee_warning" 10 := by
  have hex : ∃ s s' : Catalog, runCalls saveCatalog (Store.empty _) sampleCalls = .ok s ∧
      Accepts saveCatalog s (.discardDraft "back_on_schedule" 2) s' := ⟨_, _, rfl, rfl⟩
  obtain ⟨s, s', hs, hs'⟩ := hex
  have hguard : GuardedCalls KeepsKeys saveCatalog (Store.empty _) sampleCalls := by
    refine ⟨trivial, fun t ht => ⟨⟨fun date e => ?_, fun date n hn hf => ?_⟩, fun _ _ => trivial⟩⟩
    · -- version 1 is the only one in the table, so the draft is numbered 2
      simp only [step, saveCatalog, saveCatalogVersion] at ht
      obtain ⟨-, hrows, -⟩ := saveVersion_ok ht
      rw [Store.empty, List.nil_append] at hrows
      obtain ⟨r, hr, hv⟩ := leads_of_activeVersion e
      have hone : r.version = 1 := by
        have hmem := hr.mem
        rw [hrows] at hmem
        obtain ⟨item, -, rfl⟩ := List.mem_map.mp hmem
        rfl
      have hnext : t.nextVersion "back_on_schedule" = 2 := by
        rw [Store.nextVersion, hrows]
        rfl
      rw [hone, hnext] at hv
      cases hv
    · obtain ⟨d, hd, rfl⟩ := List.mem_map.mp hn
      obtain rfl := List.mem_singleton.mp hd
      cases hf
  have r := run_of_runCalls .nil hs hguard
  obtain ⟨hno, hstep⟩ := (keys_isolated _ [] s (Store.empty _)).1 r
  refine ⟨s, s', hs, hs', hno, ?_⟩
  exact ((hstep _ s' hs').mpr trivial).1 _ rfl "fee_warning" (by decide) 10

end ClientEngagement.Rules
