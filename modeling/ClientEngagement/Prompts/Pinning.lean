import ClientEngagement.Prompts.Configuration
import ClientEngagement.Rules.Calls

/-!
# What a version stamp means later

A generation run is stamped with the versions of the configuration it was drafted with, and
`resolvePinnedConfiguration` is how that configuration is read again. `World` is the prompt stores
with the runs drafted so far; its events are the draft, publish and discard calls on each component,
the replacement of a policy's global fact rules and the drafting of a run, in any order.

`stamps_keep_meaning` says that the stamps of every run give its configuration back in every state
reached by events that meet `KeepsStamped`: no draft that a run is stamped with is discarded, and the
rules of a stamped policy keep the mode they had. `stamps_lose_meaning` is a history for each of the
two that the code accepts and after which the stamps name another configuration.
-/

namespace ClientEngagement.Prompts

open Rules

/-- A drafted run: what its stamps and its context keep, and the configuration the graph was given. -/
structure DraftedRun where
  angle : Option String
  channel : String
  config : AgentConfiguration

structure World where
  stores : PromptStores
  runs : List DraftedRun

inductive Event where
  | tierContract (c : Call Empty TierPolicy)
  | voiceContract (c : Call Empty VoiceContract)
  | safetyPolicy (c : Call Empty SafetyPolicy)
  | outputPolicy (c : Call Empty OutputPolicy)
  | personalizationPolicy (c : Call Empty Unit)
  | agentPrompt (c : Call Empty String)
  | setGlobal (policyVersion : ℤ) (rows : List FactRequest)
  | draftRun (hardcoded : Bool) (angle tier : Option String) (channel : String) (date : Date)
      (scan : List FactRule)

/-- The prompt screens draft, publish and discard; they have no save of their own. -/
def noSave {ν ι : Type*} {spec : ComponentSpec ν ι} (_ : Store spec) (args : Empty) :
    Except VersioningError (Store spec) :=
  args.elim

variable {repr : Json → String} {w w' : World}

/-- One accepted event. -/
inductive Step (repr : Json → String) : World → Event → World → Prop where
  | tierContract {w c s} : Accepts noSave w.stores.tierContract c s →
      Step repr w (.tierContract c) { w with stores := { w.stores with tierContract := s } }
  | voiceContract {w c s} : Accepts noSave w.stores.voiceContract c s →
      Step repr w (.voiceContract c) { w with stores := { w.stores with voiceContract := s } }
  | safetyPolicy {w c s} : Accepts noSave w.stores.safetyPolicy c s →
      Step repr w (.safetyPolicy c) { w with stores := { w.stores with safetyPolicy := s } }
  | outputPolicy {w c s} : Accepts noSave w.stores.outputPolicy c s →
      Step repr w (.outputPolicy c) { w with stores := { w.stores with outputPolicy := s } }
  | personalizationPolicy {w c s} : Accepts noSave w.stores.personalizationPolicy c s →
      Step repr w (.personalizationPolicy c)
        { w with stores := { w.stores with personalizationPolicy := s } }
  | agentPrompt {w c s} : Accepts noSave w.stores.agentPrompt c s →
      Step repr w (.agentPrompt c) { w with stores := { w.stores with agentPrompt := s } }
  | setGlobal {w version rows table} :
      setGlobalFactEligibility w.stores.factEligibility version rows = .ok table →
      Step repr w (.setGlobal version rows)
        { w with stores := { w.stores with factEligibility := table } }
  | draftRun {w hardcoded angle tier channel date scan config} :
      scan.Perm w.stores.factEligibility.rows →
      resolveActiveConfiguration repr w.stores scan hardcoded angle tier channel date = .ok config →
      Step repr w (.draftRun hardcoded angle tier channel date scan)
        { w with runs := w.runs ++ [⟨angle, channel, config⟩] }

/-- The stamps of every run give back the configuration it was drafted with. -/
def StampsKeepMeaning (repr : Json → String) (w : World) : Prop :=
  ∀ run ∈ w.runs, ∀ scan : List FactRule, scan.Perm w.stores.factEligibility.rows →
    resolvePinnedConfiguration repr w.stores scan run.config.stamps run.angle run.channel =
      .ok run.config

/-! ## When a stamp keeps its meaning -/

/-- What a call deletes. -/
def discarded? {ν : Type*} : Call Empty ν → Option (String × ℤ)
  | .discardDraft componentKey version => some (componentKey, version)
  | _ => none

/-- The call does not discard the version a run is stamped with. -/
def LeavesVersion {ν : Type*} (c : Call Empty ν) (key : String) (stamp : Option ℤ) : Prop :=
  ∀ version, stamp = some version → discarded? c ≠ some (key, version)

/-- A policy opens a field of an angle one way, in whatever order its rules are read. -/
def Settled (rows : List FactRule) (angle : Option String) (version : ℤ) (field : String) : Prop :=
  ownModes rows angle version field ≠ [] ∨ ∃ mode, Spells (globalModes rows version field) mode

/-- Where the angle has no rule of its own, the replaced and the new global rules of a field both
    name one mode, and it is the same. -/
def RepeatsMode (rows : List FactRule) (angle : Option String) (version : ℤ)
    (requests : List FactRequest) (field : String) : Prop :=
  ownModes rows angle version field ≠ [] ∨ ∃ mode,
    Spells (globalModes rows version field) mode ∧ Spells (requestedModes requests field) mode

/-- When an event leaves the stamps of the runs drafted so far alone. -/
def KeepsStamped (w : World) : Event → Prop
  | .tierContract _ => True
  | .voiceContract c => ∀ run ∈ w.runs, LeavesVersion c run.channel run.config.voiceContractVersion
  | .safetyPolicy c => ∀ run ∈ w.runs, LeavesVersion c run.channel run.config.safetyPolicyVersion
  | .outputPolicy c => ∀ run ∈ w.runs, LeavesVersion c run.channel run.config.outputPolicyVersion
  | .personalizationPolicy _ => True
  | .agentPrompt c => ∀ run ∈ w.runs,
      LeavesVersion c (baseInstructionsKey run.channel) run.config.baseInstructionsVersion
  | .setGlobal version requests => ∀ run ∈ w.runs,
      run.config.personalizationPolicyVersion = some version → ∀ field ∈ factFields,
        RepeatsMode w.stores.factEligibility.rows run.angle version requests field
  | .draftRun hardcoded angle _ _ date _ => hardcoded = false → ∀ version,
      resolveVersion w.stores.personalizationPolicy defaultComponentKey date = some version →
        ∀ field ∈ factFields, Settled w.stores.factEligibility.rows angle version field

/-! ## Rows under their versions -/

section
variable {ν : Type*} {s s' : Store (keyedSpec ν)} {version : ℤ} {key : String}

lemma rowAt_iff {r : Row ν} : rowAt s version key = some r ↔
    r ∈ s.rows ∧ r.version = version ∧ r.key = key := by
  have sound : ∀ {q : Row ν}, rowAt s version key = some q →
      q ∈ s.rows ∧ q.version = version ∧ q.key = key := by
    intro q h
    have holds := List.find?_some h
    simp only [decide_eq_true_eq] at holds
    exact ⟨List.mem_of_find?_eq_some h, holds⟩
  constructor
  · exact sound
  · intro h
    cases e : rowAt s version key with
    | none =>
      have none_of := List.find?_eq_none.mp e r h.1
      simp only [decide_eq_true_eq] at none_of
      exact absurd h.2 none_of
    | some q =>
      have hq := sound e
      -- version and key are unique together
      have same : (keyedSpec ν).rowKey q = (keyedSpec ν).rowKey r := by
        simp [ComponentSpec.rowKey, keyedSpec, hq.2, h.2]
      rw [List.inj_on_of_nodup_map s.unique hq.1 h.1 same]

/-- A stamp reads a content: the row it names, or nothing where it is empty. -/
def Reads (s : Store (keyedSpec ν)) (key : String) (stamp : Option ℤ) (content : Option ν) : Prop :=
  (pinnedRow s stamp key).map Row.version = stamp ∧
    (pinnedRow s stamp key).map Row.content = content

lemma content_publishRow {spec : ComponentSpec ν (ℤ × String)} {componentKey : String}
    {publishedBy : Option String} {date : Date} {now : Instant} (r : Row ν) :
    (Store.publishRow spec componentKey version publishedBy date now r).content = r.content := by
  simp only [Store.publishRow]
  split_ifs <;> rfl

/-- A row outlives every call but its own discard, with its content. -/
lemma rowAt_accepts {c : Call Empty ν} (h : Accepts noSave s c s')
    (leaves : discarded? c ≠ some (key, version)) {r : Row ν} (at_row : rowAt s version key = some r) :
    ∃ r', rowAt s' version key = some r' ∧ r'.version = r.version ∧ r'.content = r.content := by
  obtain ⟨hr, hv, hk⟩ := rowAt_iff.mp at_row
  cases c with
  | saveVersion args => cases args
  | saveDraft componentKey values createdBy =>
    have hrows := (saveDraft_ok (show s.saveDraft componentKey values createdBy = .ok s' from h)).2.1
    refine ⟨r, rowAt_iff.mpr ⟨?_, hv, hk⟩, rfl, rfl⟩
    rw [hrows]
    exact List.mem_append_left _ hr
  | publish componentKey v publishedBy date now =>
    have hrows :=
      (publish_ok (show s.publish componentKey v publishedBy date now = .ok s' from h)).2.2.1
    refine ⟨Store.publishRow (keyedSpec ν) componentKey v publishedBy date now r,
      rowAt_iff.mpr ⟨?_, ?_, ?_⟩, ?_, ?_⟩
    · rw [hrows]
      exact List.mem_map_of_mem hr
    · rw [version_publishRow, hv]
    · rw [key_publishRow, hk]
    · exact version_publishRow
    · exact content_publishRow r
  | discardDraft componentKey v =>
    have hrows := (discardDraft_ok (show s.discardDraft componentKey v = .ok s' from h)).2.1
    refine ⟨r, rowAt_iff.mpr ⟨?_, hv, hk⟩, rfl, rfl⟩
    rw [hrows, List.mem_filter]
    refine ⟨hr, decide_eq_true ?_⟩
    intro gone
    have addressed : r.key = componentKey := by
      simpa [ComponentSpec.addresses, keyedSpec] using gone.2
    apply leaves
    rw [discarded?, ← addressed, ← gone.1, hv, hk]

lemma Reads.accepts {stamp : Option ℤ} {content : Option ν} {c : Call Empty ν}
    (reads : Reads s key stamp content) (h : Accepts noSave s c s') (leaves : LeavesVersion c key stamp) :
    Reads s' key stamp content := by
  cases stamp with
  | none => exact reads
  | some version =>
    obtain ⟨named, held⟩ := reads
    rw [pinnedRow, Option.bind_some] at named held
    cases e : rowAt s version key with
    | none =>
      rw [e] at named
      cases named
    | some r =>
      rw [e] at named held
      obtain ⟨r', e', hv, hc⟩ := rowAt_accepts h (leaves version rfl) e
      rw [Reads, pinnedRow, Option.bind_some, e']
      exact ⟨by rw [← named, Option.map_some, Option.map_some, hv],
        by rw [← held, Option.map_some, Option.map_some, hc]⟩

/-- The version in force has a row under the key it was looked up for. -/
lemma reads_resolveVersion (s : Store (keyedSpec ν)) (key : String) (date : Date) :
    Reads s key (resolveVersion s key date)
      ((pinnedRow s (resolveVersion s key date) key).map Row.content) := by
  refine ⟨?_, rfl⟩
  cases e : resolveVersion s key date with
  | none => rfl
  | some version =>
    obtain ⟨r, chosen, hv⟩ := Option.map_eq_some_iff.mp e
    have hr := List.mem_filter.mp (List.mem_filter.mp (minBy_mem chosen)).1
    have hk : r.key = key := by simpa [ComponentSpec.addresses, keyedSpec] using hr.2
    rw [pinnedRow, Option.bind_some, rowAt_iff.mpr ⟨hr.1, hv, hk⟩, Option.map_some, hv]

lemma reads_activePrompt (s : Store (keyedSpec String)) (key : String) (date : Date) :
    Reads s key ((activePrompt s key date).map Row.version)
      ((activePrompt s key date).map Row.content) := by
  cases e : activePrompt s key date with
  | none => exact ⟨rfl, rfl⟩
  | some r =>
    have hr := List.mem_filter.mp (minBy_mem e)
    simp only [decide_eq_true_eq] at hr
    rw [Option.map_some, Reads, pinnedRow, Option.bind_some, rowAt_iff.mpr ⟨hr.1, rfl, hr.2.1⟩]
    exact ⟨rfl, rfl⟩

end

/-! ## The runs stay pinned -/

/-- The rules of a stamped policy read one way in every scan. -/
structure FactsPinned (table : FactTable) (angle : Option String) (stamp : Option ℤ)
    (facts : Option (Dict String ExposureMode)) : Prop where
  settled : ∀ version, stamp = some version → ∀ field ∈ factFields,
    Settled table.rows angle version field
  read : ∀ scan : List FactRule, scan.Perm table.rows →
    stamp.map (fun version => resolveFactEligibility scan angle version) = facts

/-- The rows under a run's stamps still build the configuration it was drafted with. -/
def Pinned (repr : Json → String) (stores : PromptStores) (run : DraftedRun) : Prop :=
  ∃ voice safety output facts base,
    configurationFromRows repr run.config.stamps voice safety output facts base = .ok run.config ∧
      Reads stores.voiceContract run.channel run.config.voiceContractVersion voice ∧
      Reads stores.safetyPolicy run.channel run.config.safetyPolicyVersion safety ∧
      Reads stores.outputPolicy run.channel run.config.outputPolicyVersion output ∧
      Reads stores.agentPrompt (baseInstructionsKey run.channel) run.config.baseInstructionsVersion
        base ∧
      FactsPinned stores.factEligibility run.angle run.config.personalizationPolicyVersion facts

lemma Pinned.resolves {stores : PromptStores} {run : DraftedRun} (h : Pinned repr stores run)
    {scan : List FactRule} (p : scan.Perm stores.factEligibility.rows) :
    resolvePinnedConfiguration repr stores scan run.config.stamps run.angle run.channel =
      .ok run.config := by
  obtain ⟨voice, safety, output, facts, base, built, hv, hs, ho, hb, hf⟩ := h
  rw [← built, resolvePinnedConfiguration]
  simp only [AgentConfiguration.stamps]
  rw [hv.1, hv.2, hs.1, hs.2, ho.1, ho.2, hb.1, hb.2, hf.read scan p]

lemma FactsPinned.setGlobal {table table' : FactTable} {angle : Option String} {stamp : Option ℤ}
    {facts : Option (Dict String ExposureMode)} {version : ℤ} {requests : List FactRequest}
    (h : FactsPinned table angle stamp facts)
    (saved : setGlobalFactEligibility table version requests = .ok table')
    (keeps : stamp = some version → ∀ field ∈ factFields,
      RepeatsMode table.rows angle version requests field) :
    FactsPinned table' angle stamp facts := by
  obtain ⟨own, others, here⟩ := setGlobal_ok saved
  -- for every stamped version, the rules before and after name the same modes
  have agree : ∀ v, stamp = some v → ∀ field ∈ factFields,
      ownModes table.rows angle v field ≠ [] ∨ ∃ mode,
        Spells (globalModes table.rows v field) mode ∧
          Spells (globalModes table'.rows v field) mode := by
    intro v hv field known
    by_cases same : v = version
    · subst same
      rw [here]
      exact keeps hv field known
    · rw [others v field same]
      cases h.settled v hv field known with
      | inl some_own => exact .inl some_own
      | inr named =>
        obtain ⟨mode, spells⟩ := named
        exact .inr ⟨mode, spells, spells⟩
  constructor
  · intro v hv field known
    rw [Settled, own]
    cases agree v hv field known with
    | inl some_own => exact .inl some_own
    | inr named =>
      obtain ⟨mode, -, after⟩ := named
      exact .inr ⟨mode, after⟩
  · intro scan' p'
    rw [← h.read table.rows (List.Perm.refl _)]
    cases e : stamp with
    | none => rfl
    | some v =>
      rw [Option.map_some, Option.map_some]
      apply congrArg some
      apply resolve_ext
      intro field known
      exact get?_resolve_congr (List.Perm.refl _) p' known (own angle v field) (agree v e field known)

/-- A run is pinned when it is drafted. -/
lemma pinned_draftRun {stores : PromptStores} {scan : List FactRule} {hardcoded : Bool}
    {angle tier : Option String} {channel : String} {date : Date} {config : AgentConfiguration}
    (p : scan.Perm stores.factEligibility.rows)
    (h : resolveActiveConfiguration repr stores scan hardcoded angle tier channel date = .ok config)
    (settled : hardcoded = false → ∀ version,
      resolveVersion stores.personalizationPolicy defaultComponentKey date = some version →
        ∀ field ∈ factFields, Settled stores.factEligibility.rows angle version field) :
    Pinned repr stores ⟨angle, channel, config⟩ := by
  rw [resolveActiveConfiguration] at h
  split at h
  · -- the hardcoded configuration stamps nothing and reads nothing
    cases h
    exact ⟨none, none, none, none, none, rfl, ⟨rfl, rfl⟩, ⟨rfl, rfl⟩, ⟨rfl, rfl⟩, ⟨rfl, rfl⟩,
      ⟨nofun, fun _ _ => rfl⟩⟩
  · rename_i live
    have settled := settled (by simpa using live)
    have stamps := stamps_of_configurationFromRows h
    have hv := congrArg VersionStamps.voiceContract stamps
    have hs := congrArg VersionStamps.safetyPolicy stamps
    have ho := congrArg VersionStamps.outputPolicy stamps
    have hb := congrArg VersionStamps.baseInstructions stamps
    have hf := congrArg VersionStamps.personalizationPolicy stamps
    simp only [AgentConfiguration.stamps] at hv hs ho hb hf
    dsimp only at h
    rw [← stamps] at h
    refine ⟨_, _, _, _, _, h, ?_, ?_, ?_, ?_, ?_⟩
    · rw [hv]
      exact reads_resolveVersion stores.voiceContract channel date
    · rw [hs]
      exact reads_resolveVersion stores.safetyPolicy channel date
    · rw [ho]
      exact reads_resolveVersion stores.outputPolicy channel date
    · rw [hb]
      exact reads_activePrompt stores.agentPrompt (baseInstructionsKey channel) date
    · rw [hf]
      refine ⟨settled, fun scan' p' => ?_⟩
      cases e : resolveVersion stores.personalizationPolicy defaultComponentKey date with
      | none => rfl
      | some version =>
        rw [Option.map_some, Option.map_some]
        apply congrArg some
        apply resolve_ext
        intro field known
        refine get?_resolve_congr p p' known rfl ?_
        cases settled version e field known with
        | inl some_own => exact .inl some_own
        | inr named =>
          obtain ⟨mode, spells⟩ := named
          exact .inr ⟨mode, spells, spells⟩

/-- An event that keeps what is stamped keeps every run pinned. -/
lemma step_pinned {event : Event} (st : Guarded KeepsStamped (Step repr) w event w')
    (inv : ∀ run ∈ w.runs, Pinned repr w.stores run) : ∀ run ∈ w'.runs, Pinned repr w'.stores run := by
  obtain ⟨keeps, st⟩ := st
  cases st with
  | tierContract h => exact inv
  | personalizationPolicy h => exact inv
  | voiceContract h =>
    intro run mem
    obtain ⟨voice, safety, output, facts, base, built, hv, hs, ho, hb, hf⟩ := inv run mem
    exact ⟨voice, safety, output, facts, base, built, hv.accepts h (keeps run mem), hs, ho, hb, hf⟩
  | safetyPolicy h =>
    intro run mem
    obtain ⟨voice, safety, output, facts, base, built, hv, hs, ho, hb, hf⟩ := inv run mem
    exact ⟨voice, safety, output, facts, base, built, hv, hs.accepts h (keeps run mem), ho, hb, hf⟩
  | outputPolicy h =>
    intro run mem
    obtain ⟨voice, safety, output, facts, base, built, hv, hs, ho, hb, hf⟩ := inv run mem
    exact ⟨voice, safety, output, facts, base, built, hv, hs, ho.accepts h (keeps run mem), hb, hf⟩
  | agentPrompt h =>
    intro run mem
    obtain ⟨voice, safety, output, facts, base, built, hv, hs, ho, hb, hf⟩ := inv run mem
    exact ⟨voice, safety, output, facts, base, built, hv, hs, ho, hb.accepts h (keeps run mem), hf⟩
  | setGlobal h =>
    intro run mem
    obtain ⟨voice, safety, output, facts, base, built, hv, hs, ho, hb, hf⟩ := inv run mem
    exact ⟨voice, safety, output, facts, base, built, hv, hs, ho, hb, hf.setGlobal h (keeps run mem)⟩
  | draftRun p h =>
    intro run mem
    cases List.mem_append.mp mem with
    | inl before => exact inv run before
    | inr new =>
      cases List.mem_singleton.mp new
      exact pinned_draftRun p h keeps

/-- In every state reached by events that keep what is stamped, the stamps of every run drafted on
    the way give its configuration back. -/
theorem stamps_keep_meaning {start : World} {events : List Event} (fresh : start.runs = [])
    (r : Run (Guarded KeepsStamped (Step repr)) start events w) : StampsKeepMeaning repr w := by
  have inv : ∀ run ∈ w.runs, Pinned repr w.stores run := by
    apply r.invariant (fun w => ∀ run ∈ w.runs, Pinned repr w.stores run)
    · intro run mem
      rw [fresh] at mem
      cases mem
    · exact fun _ _ _ inv st => step_pinned st inv
  exact fun run mem scan p => (inv run mem).resolves p

/-! ## Histories -/

/-- One published email voice with a draft to follow it, one policy that opens the fund's name. -/
def sampleStores : PromptStores where
  tierContract := .empty _
  voiceContract :=
    { rows := [Store.publishedRow 1 0 none 0 "email" { renderedText := "Warm." },
        DraftValues.row (keyedSpec VoiceContract) "email" 2 none { content := { renderedText := "Brisk." } }]
      active := .empty
      unique := by decide }
  safetyPolicy := .empty _
  outputPolicy := .empty _
  personalizationPolicy :=
    { rows := [Store.publishedRow 1 0 none 0 defaultComponentKey ()]
      active := .empty
      unique := by decide }
  agentPrompt := .empty _
  factEligibility :=
    { rows := [⟨1, none, "fund_name", .direct, none⟩]
      unique := by decide }

/-- A run drafted on day 5. -/
def draftSample : Event :=
  .draftRun false (some "second_try") none "email" 5 [⟨1, none, "fund_name", .direct, none⟩]

lemma draftSample_settled : KeepsStamped ⟨sampleStores, []⟩ draftSample := by
  intro _ version hv field _
  cases hv
  by_cases named : field = "fund_name"
  · subst named
    exact .inr ⟨.direct, by decide⟩
  · refine .inr ⟨.prohibited, ?_, fun _ => rfl⟩
    intro m hm
    obtain ⟨row, hrow, -⟩ := List.mem_map.mp hm
    obtain ⟨mem, holds⟩ := List.mem_filter.mp hrow
    simp only [decide_eq_true_eq] at holds
    cases List.mem_singleton.mp mem
    exact absurd holds.2.2.symm named

lemma draftSample_then_publish (repr : Json → String) : ∃ w : World, w.runs.length = 1 ∧
    Run (Guarded KeepsStamped (Step repr)) ⟨sampleStores, []⟩
      [draftSample, .voiceContract (.publish "email" 2 none 6 0)] w := by
  refine ⟨_, rfl, .snoc (.snoc .nil ⟨draftSample_settled, .draftRun (List.Perm.refl _) rfl⟩)
    ⟨?_, .voiceContract (by exact rfl)⟩⟩
  intro run _ version _
  exact nofun

theorem stamps_keep_meaning_sample : ∃ w : World, w.runs.length = 1 ∧
    Run (Guarded KeepsStamped (Step fun _ => "")) ⟨sampleStores, []⟩
      [draftSample, .voiceContract (.publish "email" 2 none 6 0)] w ∧
    StampsKeepMeaning (fun _ => "") w := by
  obtain ⟨w, drafted, r⟩ := draftSample_then_publish fun _ => ""
  exact ⟨w, drafted, r, stamps_keep_meaning rfl r⟩

/-- The voice table with one draft, which may carry a start. -/
def draftVoice (text : String) (start : Option Date) : Store (keyedSpec VoiceContract) where
  rows := [DraftValues.row (keyedSpec VoiceContract) "email" 1 none
    { content := { renderedText := text }, validFrom := start }]
  active := .empty
  unique := List.nodup_singleton _

/-- Two histories after which the stamps of a run name another configuration: the rules of a stamped
    policy are replaced, and a draft in force is discarded and its number given to another text. -/
theorem stamps_lose_meaning :
    (∃ w, Run (Step fun _ => "") ⟨sampleStores, []⟩
      [draftSample, .setGlobal 1 [⟨"fund_name", "prohibited", none⟩]] w ∧
        ¬ StampsKeepMeaning (fun _ => "") w) ∧
    ∃ w, Run (Step fun _ => "")
      ⟨{ sampleStores with voiceContract := draftVoice "Warm." (some 0) }, []⟩
      [draftSample, .voiceContract (.discardDraft "email" 1),
        .voiceContract (.saveDraft "email" [{ content := { renderedText := "Brisk." } }] none)] w ∧
        ¬ StampsKeepMeaning (fun _ => "") w := by
  constructor
  · refine ⟨_, .snoc (.snoc .nil (.draftRun (List.Perm.refl _) rfl)) (.setGlobal rfl), ?_⟩
    intro keeps
    have again := keeps _ (List.mem_singleton.mpr rfl) _ (List.Perm.refl _)
    have modes := congrArg (fun config => config.toOption.bind fun c =>
      c.factEligibility.bind fun facts => facts.get? "fund_name") again
    revert modes
    decide
  · have discards : Accepts noSave (draftVoice "Warm." (some 0)) (.discardDraft "email" 1)
        (.empty _) := rfl
    have drafts : Accepts noSave (.empty _)
        (.saveDraft "email" [{ content := { renderedText := "Brisk." } }] none)
        (draftVoice "Brisk." none) := rfl
    refine ⟨_, .snoc (.snoc (.snoc .nil (.draftRun (List.Perm.refl _) rfl)) (.voiceContract discards))
      (.voiceContract drafts), ?_⟩
    intro keeps
    have again := keeps _ (List.mem_singleton.mpr rfl) _ (List.Perm.refl _)
    have texts := congrArg (fun config => config.toOption.bind AgentConfiguration.voiceText) again
    revert texts
    decide

end ClientEngagement.Prompts
