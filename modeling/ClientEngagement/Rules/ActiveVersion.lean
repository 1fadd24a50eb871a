import ClientEngagement.Rules.Calls
import ClientEngagement.Rules.Store

/-!
# The active version of the business rules

Three records name the active version of the rule set: the version `loadActiveRules` selects, the
live version `bootstrap` reports and the pointer in `active_configuration`. `Agrees` says that they
name the same version. `SingleLive` is the invariant behind it: one version at most is live, and the
pointer names it. `Tidy` is the condition on a call under which it survives; `active_version_agrees`
shows that the condition is exact, in every state a history of such calls reaches.
-/

namespace ClientEngagement.Rules

/-- What `saveVersion` is given. -/
structure RuleVersion where
  version : ℤ
  rules : List RuleSpec
  validFrom : Date
  validTo : Option Date := none
  validate : Bool := true
  publishedAt : Instant := 0

def saveRules (s : RuleStore) (a : RuleVersion) : Except VersioningError RuleStore :=
  saveVersion s a.version a.rules a.validFrom a.validTo a.validate a.publishedAt

abbrev RuleCall := Call RuleVersion RuleRow

/-- The effective dates a call brings in. -/
def datesOf : RuleCall → List Date
  | .saveVersion a => a.validFrom :: a.validTo.toList
  | .saveDraft _ values _ => values.flatMap fun d => d.validFrom.toList ++ d.validTo.toList
  | .publish _ _ _ date _ => [date]
  | .discardDraft _ _ => []

/-- The effective dates used so far. -/
def usedDates (calls : List RuleCall) : List Date := calls.flatMap datesOf

/-- The three records of the active version agree from the last used date on, every open-ended
    published row carries that version, and no loaded rule is a draft. `scan` is the table in
    whichever order the database returns it. -/
structure Agrees (used : List Date) (s : RuleStore) : Prop where
  bootstrap : ∀ date, (∀ d ∈ used, d ≤ date) → ∀ scan, scan.Perm s.rows →
    (bootstrap scan defaultComponentKey).liveVersion = activeVersion s.rows date
  pointer : ∀ date, (∀ d ∈ used, d ≤ date) →
    s.active.get? defaultComponentKey = activeVersion s.rows date
  one_open : ∀ date, (∀ d ∈ used, d ≤ date) →
    ∀ r ∈ s.rows, r.isLive = true → activeVersion s.rows date = some r.version
  no_draft : ∀ date, ∀ r ∈ loadActiveRules s date, r.status ≠ .draft

/-- When a call keeps the three records together. -/
def Tidy (s : RuleStore) : RuleCall → Prop
  | .saveVersion a => a.validTo = none → a.rules ≠ [] ∧ ∀ r ∈ s.rows, r.isLive = false
  | .saveDraft componentKey values createdBy =>
    Dominated s.rows (draftRows s componentKey values createdBy)
  | .publish componentKey version _ date _ =>
    componentKey = defaultComponentKey ∧ LeavesDraftsOut ruleSpec componentKey version date s.rows
  | .discardDraft _ _ => True

/-- What the tidy calls keep. -/
structure SingleLive (used : List Date) (s : RuleStore) : Prop where
  key : ∀ r ∈ s.rows, r.key = defaultComponentKey
  uniform : ∀ r ∈ s.rows, ∀ r' ∈ s.rows, r.version = r'.version → r.isLive = r'.isLive
  live_pointer : ∀ r ∈ s.rows, r.isLive = true → s.active.get? defaultComponentKey = some r.version
  pointer_live : ∀ v, s.active.get? defaultComponentKey = some v →
    ∃ r ∈ s.rows, r.isLive = true ∧ r.version = v
  not_archived : ∀ r ∈ s.rows, r.status ≠ .archived
  published_from : ∀ r ∈ s.rows, r.status = .published → r.validFrom ≠ none
  dated : ∀ r ∈ s.rows, ∀ d, r.validFrom = some d ∨ r.validTo = some d → d ∈ used
  no_draft : NoDraftInForce s.rows

/-! ## From the invariant to the agreement -/

variable {used : List Date} {s s' : RuleStore} {date : Date}

lemma isLive_iff {ν : Type*} {r : Row ν} :
    r.isLive = true ↔ r.status = .published ∧ r.validTo = none := by
  simp [Row.isLive]

lemma noDraft_loaded_iff :
    (∀ date, ∀ r ∈ loadActiveRules s date, r.status ≠ .draft) ↔ NoDraftInForce s.rows := by
  simp only [mem_loadActiveRules, NoDraftInForce]
  constructor
  · exact fun h date r hr hd e => h date r ⟨hr, e⟩ hd
  · exact fun h date r hr hd => h date r hr.1 hd hr.2

namespace SingleLive

/-- From the last used date on only open-ended rows are in force. -/
lemma validTo_eq_none (i : SingleLive used s) (hd : ∀ d ∈ used, d ≤ date) {r : Row RuleRow}
    (hr : r ∈ s.rows) (hf : r.inForce date = true) : r.validTo = none := by
  cases e : r.validTo with
  | none => rfl
  | some d =>
    have hle := hd d (i.dated r hr d (.inr e))
    simp only [Row.inForce, e, Option.all_some, Bool.and_eq_true, decide_eq_true_eq] at hf
    exact absurd hf.2 (not_lt.mpr hle)

/-- The row that leads such a date is live. -/
lemma leads_isLive (i : SingleLive used s) (hd : ∀ d ∈ used, d ≤ date) {r : Row RuleRow}
    (hl : Leads s.rows date r) : r.isLive = true := by
  have hto := i.validTo_eq_none hd hl.mem hl.inForce
  cases e : r.status with
  | draft => exact absurd hl.activeVersion_eq (i.no_draft date r hl.mem e)
  | archived => exact absurd e (i.not_archived r hl.mem)
  | published => exact isLive_iff.mpr ⟨e, hto⟩

lemma inForce_of_isLive (i : SingleLive used s) (hd : ∀ d ∈ used, d ≤ date) {r : Row RuleRow}
    (hr : r ∈ s.rows) (hl : r.isLive = true) : r.inForce date = true := by
  obtain ⟨hp, hto⟩ := isLive_iff.mp hl
  obtain ⟨d, hfrom⟩ := Option.ne_none_iff_exists'.mp (i.published_from r hr hp)
  have hle := hd d (i.dated r hr d (.inl hfrom))
  simp [Row.inForce, hto, hfrom, hle]

lemma pointer_eq (i : SingleLive used s) (hd : ∀ d ∈ used, d ≤ date) :
    s.active.get? defaultComponentKey = activeVersion s.rows date := by
  cases e : activeVersion s.rows date with
  | some v =>
    obtain ⟨r, hl, rfl⟩ := leads_of_activeVersion e
    exact i.live_pointer r hl.mem (i.leads_isLive hd hl)
  | none =>
    rw [activeVersion_eq_none] at e
    cases ep : s.active.get? defaultComponentKey with
    | none => rfl
    | some v =>
      obtain ⟨r, hr, hl, -⟩ := i.pointer_live v ep
      have := i.inForce_of_isLive hd hr hl
      rw [e r hr] at this
      cases this

/-- `bootstrap` reports the pointer, in whichever order the rows come. -/
lemma bootstrap_eq (i : SingleLive used s) {scan : List (Row RuleRow)} (p : scan.Perm s.rows) :
    (bootstrap scan defaultComponentKey).liveVersion = s.active.get? defaultComponentKey := by
  have hscan : scan.filter (·.key = defaultComponentKey) = scan := by
    rw [List.filter_eq_self]
    intro r hr
    simpa using i.key r (p.mem_iff.mp hr)
  simp only [bootstrap, hscan, liveVersion]
  generalize e : (Dict.groupBy Row.version scan).items.find? _ = found
  cases found with
  | some g =>
    obtain ⟨v, rows⟩ := g
    have hlive := List.find?_some e
    obtain ⟨hrows, hne⟩ := Dict.mem_items_groupBy.mp (List.mem_of_find?_eq_some e)
    cases rows with
    | nil => exact absurd rfl hne
    | cons r rest =>
      have hr := List.mem_filter.mp (hrows ▸ List.mem_cons_self (a := r) (l := rest))
      simp only [decide_eq_true_eq] at hr
      have hl : r.isLive = true := by simpa using hlive
      rw [Option.map_some, i.live_pointer r (p.mem_iff.mp hr.1) hl, hr.2]
  | none =>
    rw [List.find?_eq_none] at e
    cases ep : s.active.get? defaultComponentKey with
    | none => rfl
    | some v =>
      -- the live version has a group, and its first row is live because the version is uniform
      obtain ⟨r, hr, hl, rfl⟩ := i.pointer_live v ep
      have hmem : r ∈ scan.filter (·.version = r.version) := by
        simpa using p.mem_iff.mpr hr
      obtain ⟨q, rest, hg⟩ := List.exists_cons_of_ne_nil (List.ne_nil_of_mem hmem)
      have hq := List.mem_filter.mp (hg ▸ List.mem_cons_self (a := q) (l := rest))
      simp only [decide_eq_true_eq] at hq
      have hitem : (r.version, q :: rest) ∈ (Dict.groupBy Row.version scan).items :=
        Dict.mem_items_groupBy.mpr ⟨hg.symm, by simp⟩
      have hlq := i.uniform q (p.mem_iff.mp hq.1) r hr hq.2
      have := e _ hitem
      simp [hlq, hl] at this

theorem agrees (i : SingleLive used s) : Agrees used s where
  bootstrap := fun _ hd _ p => (i.bootstrap_eq p).trans (i.pointer_eq hd)
  pointer := fun _ hd => i.pointer_eq hd
  one_open := fun _ hd r hr hl => (i.pointer_eq hd).symm.trans (i.live_pointer r hr hl)
  no_draft := noDraft_loaded_iff.mpr i.no_draft

/-! ## The invariant is kept -/

lemma empty : SingleLive [] (Store.empty ruleSpec) where
  key := by intro r hr; cases hr
  uniform := by intro r hr; cases hr
  live_pointer := by intro r hr; cases hr
  pointer_live := by intro v hv; cases hv
  not_archived := by intro r hr; cases hr
  published_from := by intro r hr; cases hr
  dated := by intro r hr; cases hr
  no_draft := by intro date r hr; cases hr

lemma mono {used' : List Date} (i : SingleLive used s) (h : ∀ d ∈ used, d ∈ used') :
    SingleLive used' s :=
  { i with dated := fun r hr d hd => h d (i.dated r hr d hd) }

end SingleLive

/-- The rows a save adds. -/
def savedRows (a : RuleVersion) : List (Row RuleRow) :=
  a.rules.map fun rule =>
    Store.publishedRow a.version a.validFrom a.validTo a.publishedAt defaultComponentKey rule.row

lemma saveRules_ok {a : RuleVersion} (h : saveRules s a = .ok s') :
    (∀ r ∈ s.rows, r.version ≠ a.version) ∧ s'.rows = s.rows ++ savedRows a ∧
      s'.active = if a.validTo = none then s.active.set defaultComponentKey a.version
        else s.active := by
  obtain ⟨fresh, hrows, hactive⟩ := saveVersion_ok h
  rw [List.map_map] at hrows
  exact ⟨fresh, hrows, hactive⟩

lemma mem_savedRows {a : RuleVersion} {r : Row RuleRow} (h : r ∈ savedRows a) :
    r.version = a.version ∧ r.key = defaultComponentKey ∧ r.status = .published ∧
      r.validFrom = some a.validFrom ∧ r.validTo = a.validTo := by
  obtain ⟨rule, -, rfl⟩ := List.mem_map.mp h
  exact ⟨rfl, rfl, rfl, rfl, rfl⟩

lemma addresses_rules {componentKey : String} {r : Row RuleRow} :
    ruleSpec.addresses componentKey r = true := rfl

/-- Every version in the table is below the next one. -/
lemma lt_nextVersion {componentKey : String} {r : Row RuleRow} (hr : r ∈ s.rows) :
    r.version < s.nextVersion componentKey := by
  have hmem : r.version ∈ (s.rows.filter (ruleSpec.addresses componentKey)).map Row.version :=
    List.mem_map_of_mem (List.mem_filter.mpr ⟨hr, addresses_rules⟩)
  rw [Store.nextVersion]
  cases e : ((s.rows.filter (ruleSpec.addresses componentKey)).map Row.version).max? with
  | none =>
    rw [List.max?_eq_none_iff] at e
    rw [e] at hmem
    cases hmem
  | some m =>
    have := (List.max?_eq_some_iff.mp e).2 _ hmem
    simp only [Option.getD_some]
    omega

lemma mem_draftRows {componentKey : String} {values : List (DraftValues RuleRow)}
    {createdBy : Option String} {r : Row RuleRow}
    (h : r ∈ draftRows s componentKey values createdBy) :
    r.version = s.nextVersion componentKey ∧ r.key = defaultComponentKey ∧ r.status = .draft ∧
      ∃ d ∈ values, r.validFrom = d.validFrom ∧ r.validTo = d.validTo := by
  obtain ⟨d, hd, rfl⟩ := List.mem_map.mp h
  exact ⟨rfl, rfl, rfl, d, hd, rfl, rfl⟩

namespace SingleLive

lemma saveVersion {a : RuleVersion} (i : SingleLive used s) (h : saveRules s a = .ok s')
    (t : Tidy s (.saveVersion a)) : SingleLive (used ++ datesOf (.saveVersion a)) s' := by
  obtain ⟨fresh, hrows, hactive⟩ := saveRules_ok h
  have hcases : ∀ r ∈ s'.rows, r ∈ s.rows ∨ r ∈ savedRows a := by
    intro r hr
    rwa [hrows, List.mem_append] at hr
  have hopen : ∀ r ∈ savedRows a, r.isLive = true ↔ a.validTo = none := by
    intro r hr
    obtain ⟨-, -, hp, -, hto⟩ := mem_savedRows hr
    rw [isLive_iff, hto]
    exact and_iff_right hp
  constructor
  case key =>
    intro r hr
    cases hcases r hr with
    | inl hr => exact i.key r hr
    | inr hr => exact (mem_savedRows hr).2.1
  case uniform =>
    intro r hr r' hr' e
    cases hcases r hr with
    | inl hr =>
      cases hcases r' hr' with
      | inl hr' => exact i.uniform r hr r' hr' e
      | inr hr' => exact absurd (e.trans (mem_savedRows hr').1) (fresh r hr)
    | inr hr =>
      cases hcases r' hr' with
      | inl hr' => exact absurd (e.symm.trans (mem_savedRows hr).1) (fresh r' hr')
      | inr hr' => rw [Bool.eq_iff_iff, hopen r hr, hopen r' hr']
  case live_pointer =>
    intro r hr hl
    rw [hactive]
    split_ifs with hto
    · cases hcases r hr with
      | inl hr =>
        rw [(t hto).2 r hr] at hl
        cases hl
      | inr hr => rw [Dict.get?_set_self, (mem_savedRows hr).1]
    · cases hcases r hr with
      | inl hr => exact i.live_pointer r hr hl
      | inr hr => exact absurd ((hopen r hr).mp hl) hto
  case pointer_live =>
    intro v hv
    rw [hactive] at hv
    split_ifs at hv with hto
    · -- an open save has a rule, so its version has a live row
      rw [Dict.get?_set_self] at hv
      obtain ⟨rule, rest, e⟩ := List.exists_cons_of_ne_nil (t hto).1
      have hmem : Store.publishedRow a.version a.validFrom a.validTo a.publishedAt
          defaultComponentKey rule.row ∈ savedRows a := by
        rw [savedRows, e]
        exact List.mem_cons_self ..
      refine ⟨_, by rw [hrows]; exact List.mem_append_right _ hmem, (hopen _ hmem).mpr hto, ?_⟩
      exact Option.some.inj hv
    · obtain ⟨r, hr, hl, hvr⟩ := i.pointer_live v hv
      exact ⟨r, by rw [hrows]; exact List.mem_append_left _ hr, hl, hvr⟩
  case not_archived =>
    intro r hr
    cases hcases r hr with
    | inl hr => exact i.not_archived r hr
    | inr hr =>
      rw [(mem_savedRows hr).2.2.1]
      exact fun e => by cases e
  case published_from =>
    intro r hr hp
    cases hcases r hr with
    | inl hr => exact i.published_from r hr hp
    | inr hr =>
      rw [(mem_savedRows hr).2.2.2.1]
      exact fun e => by cases e
  case dated =>
    intro r hr d hd
    rw [List.mem_append]
    cases hcases r hr with
    | inl hr => exact .inl (i.dated r hr d hd)
    | inr hr =>
      obtain ⟨-, -, -, hfrom, hto⟩ := mem_savedRows hr
      rw [hfrom, hto] at hd
      right
      cases hd with
      | inl e =>
        obtain rfl := Option.some.inj e
        exact List.mem_cons_self ..
      | inr e => simp [datesOf, e]
  case no_draft =>
    rw [hrows]
    exact i.no_draft.append_published fresh fun n hn =>
      ⟨(mem_savedRows hn).1, (mem_savedRows hn).2.2.1⟩

lemma saveDraft {componentKey : String} {values : List (DraftValues RuleRow)}
    {createdBy : Option String} (i : SingleLive used s)
    (h : s.saveDraft componentKey values createdBy = .ok s')
    (hno : NoDraftInForce s'.rows) :
    SingleLive (used ++ datesOf (.saveDraft componentKey values createdBy)) s' := by
  obtain ⟨-, hrows, hactive⟩ := saveDraft_ok h
  have hcases : ∀ r ∈ s'.rows, r ∈ s.rows ∨ r ∈ draftRows s componentKey values createdBy := by
    intro r hr
    rwa [hrows, List.mem_append] at hr
  have hdead : ∀ r ∈ draftRows s componentKey values createdBy, r.isLive = false := by
    intro r hr
    simp [Row.isLive, (mem_draftRows hr).2.2.1]
  constructor
  case key =>
    intro r hr
    cases hcases r hr with
    | inl hr => exact i.key r hr
    | inr hr => exact (mem_draftRows hr).2.1
  case uniform =>
    intro r hr r' hr' e
    cases hcases r hr with
    | inl hr =>
      cases hcases r' hr' with
      | inl hr' => exact i.uniform r hr r' hr' e
      | inr hr' => exact absurd (e.trans (mem_draftRows hr').1) (lt_nextVersion hr).ne
    | inr hr =>
      cases hcases r' hr' with
      | inl hr' => exact absurd (e.symm.trans (mem_draftRows hr).1) (lt_nextVersion hr').ne
      | inr hr' => rw [hdead r hr, hdead r' hr']
  case live_pointer =>
    intro r hr hl
    rw [hactive]
    cases hcases r hr with
    | inl hr => exact i.live_pointer r hr hl
    | inr hr =>
      rw [hdead r hr] at hl
      cases hl
  case pointer_live =>
    intro v hv
    rw [hactive] at hv
    obtain ⟨r, hr, hl, hvr⟩ := i.pointer_live v hv
    exact ⟨r, by rw [hrows]; exact List.mem_append_left _ hr, hl, hvr⟩
  case not_archived =>
    intro r hr
    cases hcases r hr with
    | inl hr => exact i.not_archived r hr
    | inr hr =>
      rw [(mem_draftRows hr).2.2.1]
      exact fun e => by cases e
  case published_from =>
    intro r hr hp
    cases hcases r hr with
    | inl hr => exact i.published_from r hr hp
    | inr hr =>
      rw [(mem_draftRows hr).2.2.1] at hp
      cases hp
  case dated =>
    intro r hr d hd
    rw [List.mem_append]
    cases hcases r hr with
    | inl hr => exact .inl (i.dated r hr d hd)
    | inr hr =>
      obtain ⟨-, -, -, q, hq, hfrom, hto⟩ := mem_draftRows hr
      rw [hfrom, hto] at hd
      right
      simp only [datesOf, List.mem_flatMap, List.mem_append, Option.mem_toList]
      exact ⟨q, hq, hd⟩
  case no_draft => exact hno

lemma publish {version : ℤ} {publishedBy : Option String} {start : Date} {now : Instant}
    (i : SingleLive used s)
    (h : s.publish defaultComponentKey version publishedBy start now = .ok s')
    (hno : NoDraftInForce s'.rows) :
    SingleLive (used ++ datesOf (.publish defaultComponentKey version publishedBy start now)) s' := by
  obtain ⟨⟨r₀, hr₀, ha₀⟩, hdraft, hrows, hactive⟩ := publish_ok h
  have hcases : ∀ r' ∈ s'.rows, ∃ r ∈ s.rows,
      r' = Store.publishRow ruleSpec defaultComponentKey version publishedBy start now r := by
    intro r' hr'
    rw [hrows] at hr'
    obtain ⟨r, hr, rfl⟩ := List.mem_map.mp hr'
    exact ⟨r, hr, rfl⟩
  -- after the publish a row is live exactly when it carries the published version
  have hlive : ∀ r : Row RuleRow,
      (Store.publishRow ruleSpec defaultComponentKey version publishedBy start now r).isLive = true ↔
        r.version = version := by
    intro r
    by_cases hv : r.version = version
    · rw [publishRow_of_addressed ⟨hv, addresses_rules⟩]
      simp [Row.isLive, hv]
    · rw [Store.publishRow, if_neg (fun hc => hv hc.1)]
      split_ifs with hl
      · simp [Row.isLive, hv]
      · have : r.isLive = false := by
          rw [Bool.eq_false_iff]
          exact fun hc => hl ⟨hc, addresses_rules⟩
        simp [this, hv]
  constructor
  case key =>
    intro r' hr'
    obtain ⟨r, hr, rfl⟩ := hcases r' hr'
    rw [key_publishRow]
    exact i.key r hr
  case uniform =>
    intro q hq q' hq' e
    obtain ⟨r, hr, rfl⟩ := hcases q hq
    obtain ⟨r', hr', rfl⟩ := hcases q' hq'
    rw [version_publishRow, version_publishRow] at e
    rw [Bool.eq_iff_iff, hlive, hlive, e]
  case live_pointer =>
    intro r' hr' hl
    obtain ⟨r, hr, rfl⟩ := hcases r' hr'
    rw [hactive, Dict.get?_set_self, version_publishRow, (hlive r).mp hl]
  case pointer_live =>
    intro v hv
    rw [hactive, Dict.get?_set_self] at hv
    refine ⟨_, by rw [hrows]; exact List.mem_map_of_mem hr₀, (hlive r₀).mpr ha₀.1, ?_⟩
    rw [version_publishRow, ha₀.1, Option.some.inj hv]
  case not_archived =>
    intro r' hr'
    obtain ⟨r, hr, rfl⟩ := hcases r' hr'
    by_cases hv : r.version = version
    · rw [publishRow_of_addressed ⟨hv, addresses_rules⟩]
      exact fun e => by cases e
    · rw [status_publishRow (fun hc => hv hc.1)]
      exact i.not_archived r hr
  case published_from =>
    intro r' hr' hp
    obtain ⟨r, hr, rfl⟩ := hcases r' hr'
    by_cases hv : r.version = version
    · rw [publishRow_of_addressed ⟨hv, addresses_rules⟩]
      exact fun e => by cases e
    · rw [status_publishRow (fun hc => hv hc.1)] at hp
      rw [validFrom_publishRow (fun hc => hv hc.1)]
      exact i.published_from r hr hp
  case dated =>
    intro r' hr' d hd
    obtain ⟨r, hr, rfl⟩ := hcases r' hr'
    rw [List.mem_append]
    simp only [datesOf, List.mem_singleton]
    by_cases hv : r.version = version
    · rw [publishRow_of_addressed ⟨hv, addresses_rules⟩] at hd
      right
      cases hd with
      | inl e => exact (Option.some.inj e).symm
      | inr e => cases e
    · rw [validFrom_publishRow (fun hc => hv hc.1)] at hd
      cases hd with
      | inl e => exact .inl (i.dated r hr d (.inl e))
      | inr e =>
        cases validTo_publishRow (fun hc => hv hc.1) e with
        | inl e => exact .inl (i.dated r hr d (.inr e))
        | inr e => exact .inr e
  case no_draft => exact hno

lemma discardDraft {componentKey : String} {version : ℤ} (i : SingleLive used s)
    (h : s.discardDraft componentKey version = .ok s') : SingleLive used s' := by
  obtain ⟨hdraft, hrows, hactive⟩ := discardDraft_ok h
  have hsub : ∀ r ∈ s'.rows, r ∈ s.rows := by
    intro r hr
    rw [hrows] at hr
    exact (List.mem_filter.mp hr).1
  constructor
  case key => exact fun r hr => i.key r (hsub r hr)
  case uniform => exact fun r hr r' hr' => i.uniform r (hsub r hr) r' (hsub r' hr')
  case live_pointer =>
    rw [hactive]
    exact fun r hr => i.live_pointer r (hsub r hr)
  case pointer_live =>
    intro v hv
    rw [hactive] at hv
    obtain ⟨r, hr, hl, hvr⟩ := i.pointer_live v hv
    refine ⟨r, ?_, hl, hvr⟩
    -- a live row is no draft, so it is not among the discarded ones
    rw [hrows]
    refine List.mem_filter.mpr ⟨hr, decide_eq_true fun ha => ?_⟩
    have hd := hdraft r hr ha
    rw [(isLive_iff.mp hl).1] at hd
    cases hd
  case not_archived => exact fun r hr => i.not_archived r (hsub r hr)
  case published_from => exact fun r hr => i.published_from r (hsub r hr)
  case dated => exact fun r hr => i.dated r (hsub r hr)
  case no_draft => exact i.no_draft.discardDraft h

lemma saveDraft_noDraft_iff {componentKey : String} {values : List (DraftValues RuleRow)}
    {createdBy : Option String} (i : SingleLive used s)
    (h : s.saveDraft componentKey values createdBy = .ok s') :
    NoDraftInForce s'.rows ↔ Dominated s.rows (draftRows s componentKey values createdBy) := by
  obtain ⟨ne, hrows, -⟩ := saveDraft_ok h
  have hne : draftRows s componentKey values createdBy ≠ [] := by simpa [draftRows] using ne
  rw [hrows, i.no_draft.append_draft_iff hne fun n hn =>
    ⟨(mem_draftRows hn).1, (mem_draftRows hn).2.2.1⟩]
  refine and_iff_right fun date e => ?_
  obtain ⟨r, hr, hv⟩ := leads_of_activeVersion e
  exact (lt_nextVersion hr.mem).ne hv

/-- A tidy call keeps the invariant. -/
lemma step {c : RuleCall} (i : SingleLive used s) (h : Accepts saveRules s c s') (t : Tidy s c) :
    SingleLive (used ++ datesOf c) s' := by
  cases c with
  | saveVersion a => exact i.saveVersion h t
  | saveDraft componentKey values createdBy =>
    exact i.saveDraft h ((i.saveDraft_noDraft_iff h).mpr t)
  | publish componentKey version publishedBy date now =>
    obtain ⟨rfl, hout⟩ := t
    exact i.publish h ((noDraftInForce_publish_iff h).mpr hout)
  | discardDraft componentKey version =>
    exact (i.discardDraft h).mono fun d hd => List.mem_append_left _ hd

end SingleLive

/-! ## The condition is exact -/

lemma exists_after (used : List Date) : ∃ date, ∀ d ∈ used, d ≤ date := by
  obtain ⟨date, h⟩ := used.toFinset.bddAbove
  exact ⟨date, fun d hd => h (by simpa using hd)⟩

namespace Agrees

/-- A live row names the pointer. -/
lemma live_pointer (g : Agrees used s) {r : Row RuleRow} (hr : r ∈ s.rows) (hl : r.isLive = true) :
    s.active.get? defaultComponentKey = some r.version := by
  obtain ⟨date, hd⟩ := exists_after used
  exact (g.pointer date hd).trans (g.one_open date hd r hr hl)

/-- The pointer names a version of the table. -/
lemma pointer_mem (g : Agrees used s) {v : ℤ} (h : s.active.get? defaultComponentKey = some v) :
    ∃ r ∈ s.rows, r.version = v := by
  obtain ⟨date, hd⟩ := exists_after used
  obtain ⟨r, hr, hv⟩ := leads_of_activeVersion ((g.pointer date hd).symm.trans h)
  exact ⟨r, hr.mem, hv⟩

lemma tidy_saveVersion {a : RuleVersion} (h : saveRules s a = .ok s') (g : Agrees used s') :
    Tidy s (.saveVersion a) := by
  intro hto
  obtain ⟨fresh, hrows, hactive⟩ := saveRules_ok h
  have hpointer : s'.active.get? defaultComponentKey = some a.version := by
    rw [hactive, if_pos hto, Dict.get?_set_self]
  refine ⟨fun e => ?_, fun r hr => ?_⟩
  · -- an empty rule set leaves the pointer without a row
    obtain ⟨r, hr, hv⟩ := g.pointer_mem hpointer
    rw [hrows, savedRows, e, List.map_nil, List.append_nil] at hr
    exact fresh r hr hv
  · rw [Bool.eq_false_iff]
    intro hl
    have hr' : r ∈ s'.rows := by
      rw [hrows]
      exact List.mem_append_left _ hr
    have e := g.live_pointer hr' hl
    rw [hpointer] at e
    exact fresh r hr (Option.some.inj e).symm

lemma tidy_publish {componentKey : String} {version : ℤ} {publishedBy : Option String}
    {start : Date} {now : Instant} {used' : List Date} (i : SingleLive used' s)
    (h : s.publish componentKey version publishedBy start now = .ok s') (g : Agrees used s') :
    Tidy s (.publish componentKey version publishedBy start now) := by
  refine ⟨?_, (noDraftInForce_publish_iff h).mp (noDraft_loaded_iff.mp g.no_draft)⟩
  by_contra ne
  obtain ⟨⟨r, hr, ha⟩, hdraft, hrows, hactive⟩ := publish_ok h
  have hmem : Store.publishRow ruleSpec componentKey version publishedBy start now r ∈ s'.rows := by
    rw [hrows]
    exact List.mem_map_of_mem hr
  have e := g.live_pointer hmem (by rw [publishRow_of_addressed ha]; rfl)
  rw [hactive, Dict.get?_set_ne _ _ (Ne.symm ne), version_publishRow, ha.1] at e
  -- the pointer would name the version as live before it was published
  obtain ⟨q, hq, hl, hv⟩ := i.pointer_live version e
  have hd := hdraft q hq ⟨hv, addresses_rules⟩
  rw [(isLive_iff.mp hl).1] at hd
  cases hd

end Agrees

lemma step_agrees_iff {c : RuleCall} (i : SingleLive used s) (h : Accepts saveRules s c s') :
    Agrees (used ++ datesOf c) s' ↔ Tidy s c := by
  refine ⟨fun g => ?_, fun t => (i.step h t).agrees⟩
  cases c with
  | saveVersion a => exact g.tidy_saveVersion h
  | saveDraft componentKey values createdBy =>
    exact (i.saveDraft_noDraft_iff h).mp (noDraft_loaded_iff.mp g.no_draft)
  | publish componentKey version publishedBy date now => exact g.tidy_publish i h
  | discardDraft componentKey version => trivial

/-- In every history of tidy calls the three records of the active version agree, and after one more
    call they do exactly when that call is tidy. -/
theorem active_version_agrees (calls : List RuleCall) (s : RuleStore)
    (r : Run (Guarded Tidy (Accepts saveRules)) (Store.empty _) calls s) :
    Agrees (usedDates calls) s ∧ ∀ c s', Accepts saveRules s c s' →
      (Agrees (usedDates (calls ++ [c])) s' ↔ Tidy s c) := by
  have i : SingleLive (usedDates calls) s := by
    apply r.invariant_trace fun calls s => SingleLive (usedDates calls) s
    · exact SingleLive.empty
    · intro calls t c u ht hstep
      rw [usedDates, List.flatMap_append, List.flatMap_singleton]
      exact ht.step hstep.2 hstep.1
  refine ⟨i.agrees, fun c s' h => ?_⟩
  rw [usedDates, List.flatMap_append, List.flatMap_singleton]
  exact step_agrees_iff i h

/-- A rule for everyone. -/
def sampleRule : RuleSpec where
  name := "everyone"
  priority := 1

/-- A first version, then a draft that is published. -/
theorem active_version_agrees_sample :
    ∃ s : RuleStore,
      runCalls saveRules (Store.empty _) [.saveVersion ⟨1, [sampleRule], 0, none, true, 0⟩] = .ok s ∧
        Agrees [0] s := by
  have hex : ∃ s : RuleStore, runCalls saveRules (Store.empty _)
      [.saveVersion ⟨1, [sampleRule], 0, none, true, 0⟩] = .ok s := ⟨_, rfl⟩
  obtain ⟨s, hs⟩ := hex
  have hguard : GuardedCalls Tidy saveRules (Store.empty _)
      [.saveVersion ⟨1, [sampleRule], 0, none, true, 0⟩] := by
    refine ⟨fun _ => ⟨by simp, fun r hr => ?_⟩, fun _ _ => trivial⟩
    cases hr
  exact ⟨s, hs, (active_version_agrees _ s (run_of_runCalls .nil hs hguard)).1⟩

/-- Two open versions saved one after the other both stay live. -/
theorem saveVersion_leaves_two_live :
    ¬ ∀ calls (s : RuleStore),
      Run (Guarded (fun _ _ => True) (Accepts saveRules)) (Store.empty _) calls s →
        Agrees (usedDates calls) s := by
  intro h
  have hex : ∃ s : RuleStore, runCalls saveRules (Store.empty _)
      [.saveVersion ⟨1, [sampleRule], 0, none, true, 0⟩,
        .saveVersion ⟨2, [sampleRule], 10, none, true, 0⟩] = .ok s ∧
      (∃ r ∈ s.rows, r.isLive = true ∧ r.version = 1) ∧
      s.active.get? defaultComponentKey = some 2 := ⟨_, rfl, by decide, by decide⟩
  obtain ⟨s, hs, ⟨r, hr, hl, hv⟩, hp⟩ := hex
  have hrun := run_of_runCalls .nil hs (show GuardedCalls (fun _ _ => True) _ _ _ by
    simp [GuardedCalls])
  have e := (h _ s hrun).live_pointer hr hl
  rw [hp, hv] at e
  cases e

end ClientEngagement.Rules
