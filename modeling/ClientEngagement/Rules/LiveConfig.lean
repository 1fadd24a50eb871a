import ClientEngagement.Risk.ConfigStore
import ClientEngagement.Rules.Calls
import ClientEngagement.Rules.Store

/-!
# What goes live is validated

A configuration goes live through its store's save function, which validates it, or as a draft that
`publish_component` hands to the versioning engine, which does not. `DatedValid` is the invariant of
a table without key column whose dated versions all pass their check; a save keeps it, a discard
keeps it, and a draft or a publish does when its rows pass (`SoundCall`). For the business rules and the
risk configuration together: `live_configuration_valid`.
-/

namespace ClientEngagement.Rules
open Risk

variable {ν ι α : Type*} {spec : ComponentSpec ν ι} {Valid : List ν → Prop} {rows new : List (Row ν)}
  {s s' : Store spec} {version : ℤ} {componentKey : String} {r : Row ν}

/-- The contents of one version. -/
def contents (rows : List (Row ν)) (version : ℤ) : List ν :=
  (rows.filter (·.version = version)).map Row.content

/-- Every version that may be in force on some date passes. -/
def DatedValid (Valid : List ν → Prop) (rows : List (Row ν)) : Prop :=
  ∀ r ∈ rows, r.validFrom.isSome = true → Valid (contents rows r.version)

/-- A draft that carries a start date passes, and so does what is published. -/
def SoundCall (Valid : List ν → Prop) (s : Store spec) : Call α ν → Prop
  | .saveVersion _ => True
  | .saveDraft _ values _ =>
    (∃ row ∈ values, row.validFrom.isSome = true) → Valid (values.map DraftValues.content)
  | .publish _ version _ _ _ => Valid (contents s.rows version)
  | .discardDraft _ _ => True

lemma inForce_dated {date : Date} (h : r.inForce date = true) : r.validFrom.isSome = true := by
  rw [Row.inForce, Bool.and_eq_true] at h
  cases from_ : r.validFrom with
  | none =>
    rw [from_] at h
    exact absurd h.1 Bool.false_ne_true
  | some _ => rfl

/-- The version in force passes. -/
lemma DatedValid.inForce {date : Date} (h : DatedValid Valid rows)
    (active : activeVersion rows date = some version) : Valid (contents rows version) := by
  obtain ⟨r, leads, same⟩ := leads_of_activeVersion active
  exact same ▸ h r leads.mem (inForce_dated leads.inForce)

lemma DatedValid.append (h : DatedValid Valid rows) (fresh : ∀ r ∈ rows, r.version ≠ version)
    (hnew : ∀ n ∈ new, n.version = version)
    (valid : (∃ n ∈ new, n.validFrom.isSome = true) → Valid (new.map Row.content)) :
    DatedValid Valid (rows ++ new) := by
  intro r mem dated
  cases List.mem_append.mp mem with
  | inl old =>
    have none : new.filter (·.version = r.version) = [] := by
      refine List.filter_eq_nil_iff.mpr fun n hn same => fresh r old ?_
      exact (of_decide_eq_true same).symm.trans (hnew n hn)
    rw [contents, List.filter_append, none, List.append_nil]
    exact h r old dated
  | inr now =>
    have none : rows.filter (·.version = r.version) = [] := by
      refine List.filter_eq_nil_iff.mpr fun q hq same => fresh q hq ?_
      exact (of_decide_eq_true same).trans (hnew r now)
    have all : new.filter (·.version = r.version) = new :=
      List.filter_eq_self.mpr fun n hn => decide_eq_true ((hnew n hn).trans (hnew r now).symm)
    rw [contents, List.filter_append, none, List.nil_append, all]
    exact valid ⟨r, now, dated⟩

/-- A publish changes no row's version or content. -/
lemma contents_publish {publishedBy : Option String} {date : Date} {now : Instant} :
    contents (rows.map (Store.publishRow spec componentKey version publishedBy date now)) =
      contents rows := by
  funext v
  rw [contents, List.filter_map, List.map_map, contents]
  have same : ((fun r : Row ν => decide (r.version = v)) ∘
      Store.publishRow spec componentKey version publishedBy date now) =
      fun r => decide (r.version = v) := by
    funext r
    simp
  rw [same]
  refine List.map_congr_left fun r _ => ?_
  simp only [Function.comp_apply, Store.publishRow]
  split
  · rfl
  · split
    · rfl
    · rfl

lemma DatedValid.publish {publishedBy : Option String} {date : Date} {now : Instant}
    (h : DatedValid Valid s.rows) (valid : Valid (contents s.rows version))
    (ok : s.publish componentKey version publishedBy date now = .ok s') :
    DatedValid Valid s'.rows := by
  rw [(publish_ok ok).2.2.1]
  intro r' mem dated
  obtain ⟨r, old, same⟩ := List.mem_map.mp mem
  subst same
  rw [contents_publish, version_publishRow]
  cases Classical.em (r.version = version ∧ spec.addresses componentKey r = true) with
  | inl published => exact published.1 ▸ valid
  | inr not =>
    rw [validFrom_publishRow not] at dated
    exact h r old dated

section Unkeyed

variable (unkeyed : spec.keyed = false)
include unkeyed

lemma addresses_unkeyed : spec.addresses componentKey r = true := by
  rw [ComponentSpec.addresses, unkeyed]
  rfl

/-- Every version of the table is below the next one. -/
lemma version_lt_next (mem : r ∈ s.rows) : r.version < s.nextVersion componentKey := by
  have listed : r.version ∈ (s.rows.filter (spec.addresses componentKey)).map Row.version :=
    List.mem_map_of_mem (List.mem_filter.mpr ⟨mem, addresses_unkeyed unkeyed⟩)
  rw [Store.nextVersion]
  cases top : ((s.rows.filter (spec.addresses componentKey)).map Row.version).max? with
  | none =>
    rw [List.max?_eq_none_iff] at top
    rw [top] at listed
    cases listed
  | some m =>
    have le := (List.max?_eq_some_iff.mp top).2 _ listed
    rw [Option.getD_some]
    omega

lemma DatedValid.saveDraft [DecidableEq ι] {values : List (DraftValues ν)}
    {createdBy : Option String} (h : DatedValid Valid s.rows)
    (valid : (∃ row ∈ values, row.validFrom.isSome = true) → Valid (values.map DraftValues.content))
    (ok : s.saveDraft componentKey values createdBy = .ok s') : DatedValid Valid s'.rows := by
  rw [(saveDraft_ok ok).2.1]
  have fresh : ∀ r ∈ s.rows, r.version ≠ s.nextVersion componentKey :=
    fun r mem => (version_lt_next unkeyed mem).ne
  refine h.append fresh ?_ ?_
  · intro n mem
    obtain ⟨row, _, same⟩ := List.mem_map.mp mem
    exact same ▸ rfl
  · intro ⟨n, mem, dated⟩
    obtain ⟨row, listed, same⟩ := List.mem_map.mp mem
    subst same
    rw [draftRows, List.map_map]
    exact valid ⟨row, listed, dated⟩

/-- A discard drops a version as a whole. -/
lemma DatedValid.discardDraft (h : DatedValid Valid s.rows)
    (ok : s.discardDraft componentKey version = .ok s') : DatedValid Valid s'.rows := by
  rw [(discardDraft_ok ok).2.1]
  intro r mem dated
  obtain ⟨old, kept⟩ := List.mem_filter.mp mem
  have ne : r.version ≠ version := fun same =>
    of_decide_eq_true kept ⟨same, addresses_unkeyed unkeyed⟩
  have same : contents (s.rows.filter fun r =>
      ¬ (r.version = version ∧ spec.addresses componentKey r)) r.version =
      contents s.rows r.version := by
    rw [contents, List.filter_filter]
    refine congrArg (List.map Row.content) (List.filter_congr fun q _ => ?_)
    cases eq_or_ne q.version r.version with
    | inl eq => simp [eq, ne]
    | inr other => simp [other]
  rw [same]
  exact h r old dated

end Unkeyed

/-! ## The two checks -/

/-- `validate_rules` accepts the stored rules: each match reads as one, and the rules pass. -/
def RulesPass (rules : List RuleRow) : Prop :=
  ∃ specs, List.Forall₂ (fun row rule => row.spec? = some rule) rules specs ∧
    validateRules specs = .ok ()

/-- `validate_config` accepts every stored configuration of the list. -/
def ConfigsPass (configs : List RiskConfig) : Prop :=
  ∀ config ∈ configs, validateConfig config.weights config.thresholds = .ok ()

lemma validateRules_iff {rules : List RuleSpec} : validateRules rules = .ok () ↔
    rules ≠ [] ∧ (rules.map RuleSpec.priority).Nodup ∧ (∀ rule ∈ rules, ruleError rule = none) ∧
      unreachableRule [] (sortBy RuleSpec.priority rules) = none := by
  rw [validateRules]
  split
  · rename_i empty
    exact ⟨(by intro passed; cases passed), fun h => absurd empty h.1⟩
  · rename_i nonempty
    split
    · rename_i twice
      exact ⟨(by intro passed; cases passed), fun h => absurd h.2.1 twice⟩
    · rename_i once
      rw [not_not] at once
      split
      · rename_i reason found
        refine ⟨(by intro passed; cases passed), fun h => ?_⟩
        rw [List.findSome?_eq_none_iff.mpr h.2.2.1] at found
        cases found
      · rename_i sound
        split
        · rename_i covered
          exact ⟨(by intro passed; cases passed), fun h => absurd (covered.symm.trans h.2.2.2) (Option.some_ne_none _)⟩
        · rename_i reachable
          exact ⟨fun _ => ⟨nonempty, once, List.findSome?_eq_none_iff.mp sound, reachable⟩,
            fun _ => rfl⟩

/-- The check does not depend on the order the rules are given in. -/
lemma validateRules_perm {rules rules' : List RuleSpec} (p : rules.Perm rules')
    (h : validateRules rules = .ok ()) : validateRules rules' = .ok () := by
  rw [validateRules_iff] at h ⊢
  obtain ⟨nonempty, once, sound, reachable⟩ := h
  have same : sortBy RuleSpec.priority rules = sortBy RuleSpec.priority rules' :=
    sortBy_eq_of_perm p fun a ha b hb => List.inj_on_of_nodup_map once ha hb
  refine ⟨fun empty => nonempty ?_, ((p.map _).nodup_iff).mp once,
    fun rule mem => sound rule (p.mem_iff.mpr mem), same ▸ reachable⟩
  rw [empty] at p
  exact p.eq_nil

lemma RulesPass.perm {rules rules' : List RuleRow} (p : rules'.Perm rules) (h : RulesPass rules) :
    RulesPass rules' := by
  obtain ⟨specs, read, valid⟩ := h
  obtain ⟨specs', read', p'⟩ := List.perm_comp_forall₂ p read
  exact ⟨specs', read', validateRules_perm p'.symm valid⟩

/-- What `save_version` stores of rules that pass, passes. -/
lemma RulesPass.of_saved {rules : List RuleSpec} (h : validateRules rules = .ok ()) :
    RulesPass (rules.map RuleSpec.row) := by
  refine ⟨rules, ?_, h⟩
  rw [List.forall₂_map_left_iff, List.forall₂_same]
  exact fun rule _ => spec?_row rule

/-! ## Histories of both tables -/

structure ConfigStores where
  rules : RuleStore
  risk : RiskConfigStore

def ConfigStores.empty : ConfigStores := ⟨.empty _, .empty _⟩

/-- What `save_version` is given, its validation on. -/
structure RuleSet where
  version : ℤ
  rules : List RuleSpec
  validFrom : Date
  validTo : Option Date := none
  publishedAt : Instant := 0

/-- What `save_config_version` is given. -/
structure RiskConfigVersion where
  version : ℤ
  config : RiskConfig
  validFrom : Date
  validTo : Option Date := none
  publishedAt : Instant := 0

/-- A save, or a call of the endpoints, on either table. -/
inductive ConfigCall where
  | rules (call : Call RuleSet RuleRow)
  | risk (call : Call RiskConfigVersion RiskConfig)

def saveRuleSet (s : RuleStore) (a : RuleSet) : Except VersioningError RuleStore :=
  saveVersion s a.version a.rules a.validFrom a.validTo true a.publishedAt

def stepRisk (s : RiskConfigStore) :
    Call RiskConfigVersion RiskConfig → Except SaveConfigError RiskConfigStore
  | .saveVersion a => saveConfigVersion s a.version a.config a.validFrom a.validTo a.publishedAt
  | .saveDraft componentKey values createdBy =>
    (s.saveDraft componentKey values createdBy).mapError .store
  | .publish componentKey version publishedBy date now =>
    (s.publish componentKey version publishedBy date now).mapError .store
  | .discardDraft componentKey version => (s.discardDraft componentKey version).mapError .store

/-- The call does not raise. -/
inductive ConfigStep (s : ConfigStores) : ConfigCall → ConfigStores → Prop where
  | rules {call rules} (ok : step saveRuleSet s.rules call = .ok rules) :
      ConfigStep s (.rules call) { s with rules := rules }
  | risk {call risk} (ok : stepRisk s.risk call = .ok risk) :
      ConfigStep s (.risk call) { s with risk := risk }

/-- The rows that a draft or a publish brings into force pass the check of their table. -/
def SoundConfig (s : ConfigStores) : ConfigCall → Prop
  | .rules call => SoundCall RulesPass s.rules call
  | .risk call => SoundCall ConfigsPass s.risk call

structure ConfigStores.Validated (s : ConfigStores) : Prop where
  rules : DatedValid RulesPass s.rules.rows
  risk : DatedValid ConfigsPass s.risk.rows

lemma saveRuleSet_valid {s s' : RuleStore} {a : RuleSet} (h : DatedValid RulesPass s.rows)
    (ok : saveRuleSet s a = .ok s') : DatedValid RulesPass s'.rows := by
  rw [saveRuleSet, saveVersion, if_pos rfl] at ok
  cases valid : validateRules a.rules with
  | error reason =>
    rw [valid] at ok
    cases ok
  | ok _ =>
    obtain ⟨fresh, rows, _⟩ := saveVersion_ok ok
    rw [rows]
    refine h.append fresh ?_ fun _ => ?_
    · intro n mem
      obtain ⟨item, _, same⟩ := List.mem_map.mp mem
      exact same ▸ rfl
    · rw [List.map_map, List.map_map]
      exact .of_saved valid

lemma mapError_eq_ok {ε ε' β : Type*} {x : Except ε β} {f : ε → ε'} {b : β}
    (h : x.mapError f = .ok b) : x = .ok b := by
  cases x with
  | error e => cases h
  | ok a =>
    cases h
    rfl

lemma saveConfigVersion_valid {s s' : RiskConfigStore} {a : RiskConfigVersion}
    (h : DatedValid ConfigsPass s.rows)
    (ok : saveConfigVersion s a.version a.config a.validFrom a.validTo a.publishedAt = .ok s') :
    DatedValid ConfigsPass s'.rows := by
  rw [saveConfigVersion] at ok
  cases valid : validateConfig a.config.weights a.config.thresholds with
  | error error =>
    rw [valid] at ok
    cases ok
  | ok _ =>
    rw [valid] at ok
    obtain ⟨fresh, rows, _⟩ := saveVersion_ok (mapError_eq_ok ok)
    rw [rows]
    refine h.append fresh ?_ fun _ => ?_
    · intro n mem
      cases List.mem_singleton.mp mem
      rfl
    · intro config mem
      cases List.mem_singleton.mp mem
      exact valid

/-- A sound call keeps the dated versions of both tables valid. -/
theorem ConfigStep.valid {s s' : ConfigStores} {call : ConfigCall} (step : ConfigStep s call s')
    (sound : SoundConfig s call) (h : s.Validated) : s'.Validated := by
  cases step with
  | @rules call rules ok =>
    refine ⟨?_, h.risk⟩
    cases call with
    | saveVersion a => exact saveRuleSet_valid h.rules ok
    | saveDraft componentKey values createdBy => exact h.rules.saveDraft rfl sound ok
    | publish componentKey version publishedBy date now => exact h.rules.publish sound ok
    | discardDraft componentKey version => exact h.rules.discardDraft rfl ok
  | @risk call risk ok =>
    refine ⟨h.rules, ?_⟩
    cases call with
    | saveVersion a => exact saveConfigVersion_valid h.risk ok
    | saveDraft componentKey values createdBy =>
      exact h.risk.saveDraft rfl sound (mapError_eq_ok ok)
    | publish componentKey version publishedBy date now =>
      exact h.risk.publish sound (mapError_eq_ok ok)
    | discardDraft componentKey version => exact h.risk.discardDraft rfl (mapError_eq_ok ok)

/-- In every history whose drafts with a start date and published drafts pass their table's check, the
    rules loaded on any date pass `validate_rules`, and so does the configuration `validate_config`. -/
theorem live_configuration_valid {calls : List ConfigCall} {s : ConfigStores}
    (r : Run (Guarded SoundConfig ConfigStep) ConfigStores.empty calls s) (date : Date) :
    (loadActiveRules s.rules date ≠ [] →
      RulesPass ((loadActiveRules s.rules date).map Row.content)) ∧
    ∀ row, loadActiveConfig s.risk date = some row →
      validateConfig row.content.weights row.content.thresholds = .ok () := by
  have valid : s.Validated := r.invariant ConfigStores.Validated
    ⟨fun _ mem => (by cases mem), fun _ mem => (by cases mem)⟩
    fun _ _ _ h step => step.2.valid step.1 h
  refine ⟨fun loaded => ?_, fun row loaded => ?_⟩
  · rw [loadActiveRules] at loaded ⊢
    refine RulesPass.perm ((sortBy_perm _ _).map _) ?_
    rw [activeRows] at loaded ⊢
    cases active : activeVersion s.rules.rows date with
    | none =>
      rw [active] at loaded
      exact absurd rfl loaded
    | some version => exact valid.rules.inForce active
  · rw [loadActiveConfig] at loaded
    obtain ⟨version, active, found⟩ := Option.bind_eq_some_iff.mp loaded
    have same := List.find?_some found
    refine valid.risk.inForce active _ (List.mem_map_of_mem (List.mem_filter.mpr ?_))
    exact ⟨List.mem_of_find?_eq_some found, same⟩

/-- A rule for everyone, as a row. -/
def everyoneRow : RuleRow :=
  RuleSpec.row { name := "everyone", priority := 1 }

lemma everyoneRow_passes : RulesPass [everyoneRow] := by
  have passes : validateRules [{ name := "everyone", priority := 1 }] = .ok () := rfl
  exact .of_saved passes

/-- A draft that passes is published. -/
theorem live_configuration_valid_sample : ∃ s, Run (Guarded SoundConfig ConfigStep)
    ConfigStores.empty
    [.rules (.saveDraft "default" [{ content := everyoneRow }] none),
      .rules (.publish "default" 1 none 10 0)] s ∧
    (loadActiveRules s.rules 10).map Row.content = [everyoneRow] ∧
    RulesPass ((loadActiveRules s.rules 10).map Row.content) := by
  have run : ∃ s, Run (Guarded SoundConfig ConfigStep) ConfigStores.empty
      [.rules (.saveDraft "default" [{ content := everyoneRow }] none),
        .rules (.publish "default" 1 none 10 0)] s ∧
      (loadActiveRules s.rules 10).map Row.content = [everyoneRow] :=
    ⟨_, .snoc (.snoc .nil ⟨fun _ => everyoneRow_passes, .rules rfl⟩)
      ⟨by exact everyoneRow_passes, .rules rfl⟩, rfl⟩
  obtain ⟨s, r, loaded⟩ := run
  refine ⟨s, r, loaded, (live_configuration_valid r 10).1 fun empty => ?_⟩
  rw [empty] at loaded
  cases loaded

/-- A rule on an angle nobody knows. -/
def unknownAngleRow : RuleRow :=
  RuleSpec.row { name := "everyone", priority := 1, messageAngle := "no_such_angle" }

/-- A configuration without weights. -/
def noWeights : RiskConfig where
  weights := .obj []
  thresholds := .obj []
  faCallCapacity := 10
  atRiskMin := 1

lemma unknownAngleRow_fails : ¬ RulesPass [unknownAngleRow] := by
  intro ⟨specs, read, valid⟩
  obtain ⟨rule, rest, found, none, same⟩ := List.forall₂_cons_left_iff.mp read
  cases List.forall₂_nil_left_iff.mp none
  rw [unknownAngleRow, spec?_row] at found
  cases found
  subst same
  cases valid

/-- Drafts that fail their checks are published through the endpoint, and go live. -/
theorem publish_goes_live_unchecked : ∃ s, Run ConfigStep ConfigStores.empty
    [.rules (.saveDraft "default" [{ content := unknownAngleRow }] none),
      .rules (.publish "default" 1 none 10 0),
      .risk (.saveDraft "default" [{ content := noWeights }] none),
      .risk (.publish "default" 1 none 10 0)] s ∧
    (loadActiveRules s.rules 10).map Row.content = [unknownAngleRow] ∧
    ¬ RulesPass ((loadActiveRules s.rules 10).map Row.content) ∧
    ∃ row, loadActiveConfig s.risk 10 = some row ∧
      validateConfig row.content.weights row.content.thresholds ≠ .ok () := by
  have run : ∃ s, Run ConfigStep ConfigStores.empty
      [.rules (.saveDraft "default" [{ content := unknownAngleRow }] none),
        .rules (.publish "default" 1 none 10 0),
        .risk (.saveDraft "default" [{ content := noWeights }] none),
        .risk (.publish "default" 1 none 10 0)] s ∧
      (loadActiveRules s.rules 10).map Row.content = [unknownAngleRow] ∧
      (loadActiveConfig s.risk 10).map Row.content = some noWeights :=
    ⟨_, .snoc (.snoc (.snoc (.snoc .nil (.rules rfl)) (.rules rfl)) (.risk rfl)) (.risk rfl), rfl,
      rfl⟩
  obtain ⟨s, r, rules, risk⟩ := run
  obtain ⟨row, loaded, same⟩ := Option.map_eq_some_iff.mp risk
  refine ⟨s, r, rules, rules ▸ unknownAngleRow_fails, row, loaded, ?_⟩
  rw [same]
  exact nofun

end ClientEngagement.Rules
