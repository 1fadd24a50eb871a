import ClientEngagement.Privacy.Boundary
import ClientEngagement.Prompts.FactEligibility

/-!
# What a generation run hands to the model

Model of the nodes `assemble_prompt` and `generate` of `agents/graph.py` as far as the payload goes.
`assembleContext` narrows the client's facts to what the policy allows, validates them again and,
where nothing is left, falls back on the client's raw bands; every attempt hands the model that
context (`handed`).

`mem_payloadFields` says which fields the model sees. `payload_keeps_policy_iff` is the exact
condition under which all of them are allowed by the policy and a stricter policy adds none: the raw
bands have to be allowed too. `prohibited_band_is_sent` is a run that sends a prohibited band.
-/

namespace ClientEngagement.Prompts

open Privacy

/-- The field is in one of the two parts a filtering leaves. -/
def FilteredFacts.keeps (filtered : FilteredFacts) (field : String) : Bool :=
  filtered.direct.contains field || filtered.placeholder.contains field

/-- The facts, or the raw bands where there are none. -/
def contextOf (raw : Dict String Json) (facts : Option (Dict String Json)) : Dict String Json :=
  match facts with
  | none => toModelContext raw
  | some facts => if facts.items.isEmpty then toModelContext raw else facts

/-- The facts a prompt may use (`assemble_prompt`). -/
def narrowedFacts (tables : Unicode) (lax : Lax) (facts : Option (Dict String Json))
    (eligibility : Option (Dict String ExposureMode)) :
    Except BlockError (Option (Dict String Json)) :=
  match facts, eligibility with
  | some given, some policy =>
    if given.items.isEmpty then .ok facts
    else
      let filtered := filterFactsForPrompt given policy
      (modelFactBlock tables lax (given.filterKeys filtered.keeps)).map fun block => some block.facts
  | _, _ => .ok facts

def assembleContext (tables : Unicode) (lax : Lax) (facts : Option (Dict String Json))
    (raw : Dict String Json) (eligibility : Option (Dict String ExposureMode)) :
    Except BlockError (Dict String Json) :=
  (narrowedFacts tables lax facts eligibility).map (contextOf raw)

/-- The payloads of the attempts from one on; `final` says which attempt ends the run, because its
    draft is accepted or its scan raises. -/
def handedFrom (final : ℕ → Bool) (context : Dict String Json) : ℕ → ℕ → List (Dict String Json)
  | 0, _ => [context]
  | remaining + 1, attempt =>
    context :: if final attempt then [] else handedFrom final context remaining (attempt + 1)

/-- What `generate` hands to `run_model_boundary`, attempt by attempt. -/
def handed (maxAttempts : ℕ) (final : ℕ → Bool) (context : Dict String Json) :
    List (Dict String Json) :=
  handedFrom final context (maxAttempts - 1) 1

/-- The payloads of a run whose configuration resolves the fact eligibility to `policy`. -/
def generationPayloads (tables : Unicode) (lax : Lax) (facts : Option (Dict String Json))
    (raw : Dict String Json) (policy : Dict String ExposureMode) (maxAttempts : ℕ) (final : ℕ → Bool) :
    Except BlockError (List (Dict String Json)) :=
  (assembleContext tables lax facts raw (some policy)).map (handed maxAttempts final)

/-! ## The policy -/

/-- The policy lets a field through, given the client's own facts. -/
def Permitted (policy : Dict String ExposureMode) (facts : Dict String Json) (field : String) : Prop :=
  match policy.getD field .prohibited with
  | .direct => True
  | .placeholder => True
  | .conditional => field ∈ facts.keys ∧ conditionMet facts field = true
  | .prohibited => False

/-- A fact of the client that the policy lets through; an interval needs its cadence with it. -/
def Visible (policy : Dict String ExposureMode) (facts : Dict String Json) (field : String) : Prop :=
  field ∈ facts.keys ∧ Permitted policy facts field ∧
    (field = "invested_every_n_days" → Permitted policy facts "cadence_band")

/-- The policy prohibits what the other one does, and maybe more. -/
def Stricter (policy' policy : Dict String ExposureMode) : Prop :=
  ∀ field, policy'.get? field = policy.get? field ∨ policy'.get? field = some .prohibited

/-- A band the fallback would send. -/
def IsRawBand (raw : Dict String Json) (field : String) : Prop :=
  field ∈ raw.keys ∧ field ∈ modelAllowedKeys

variable {tables : Unicode} {lax : Lax} {facts : Dict String Json} {raw : Dict String Json}
variable {policy policy' : Dict String ExposureMode} {maxAttempts : ℕ} {final : ℕ → Bool} {field : String}

lemma keeps_filterFact (given : Dict String Json) (filtered : FilteredFacts) (fact : String × Json) :
    (filterFact given policy filtered fact).keeps field = true ↔
      filtered.keeps field = true ∨ field = fact.1 ∧
        match policy.getD fact.1 .prohibited with
        | .direct => True
        | .placeholder => True
        | .conditional => conditionMet given fact.1 = true
        | .prohibited => False := by
  rw [filterFact]
  cases policy.getD fact.1 .prohibited with
  | direct =>
    simp only [FilteredFacts.keeps, Bool.or_eq_true, Dict.contains_iff, Dict.mem_keys_set]
    tauto
  | placeholder =>
    simp only [FilteredFacts.keeps, Bool.or_eq_true, Dict.contains_iff, Dict.mem_keys_set]
    tauto
  | conditional =>
    cases conditionMet given fact.1 with
    | true =>
      simp only [if_pos, FilteredFacts.keeps, Bool.or_eq_true, Dict.contains_iff, Dict.mem_keys_set]
      tauto
    | false => simp
  | prohibited => simp

lemma keeps_foldl_filterFact (given : Dict String Json) (items : List (String × Json))
    (filtered : FilteredFacts) :
    (items.foldl (filterFact given policy) filtered).keeps field = true ↔
      filtered.keeps field = true ∨ field ∈ items.map Prod.fst ∧
        match policy.getD field .prohibited with
        | .direct => True
        | .placeholder => True
        | .conditional => conditionMet given field = true
        | .prohibited => False := by
  induction items generalizing filtered with
  | nil => simp
  | cons fact items ih =>
    rw [List.foldl_cons, ih, keeps_filterFact, List.map_cons, List.mem_cons]
    by_cases same : field = fact.1
    · rw [← same]
      tauto
    · tauto

/-- A filtering keeps the client's facts that the policy lets through. -/
lemma keeps_filterFactsForPrompt : (filterFactsForPrompt facts policy).keeps field = true ↔
    field ∈ facts.keys ∧ Permitted policy facts field := by
  rw [filterFactsForPrompt, keeps_foldl_filterFact, Permitted]
  have none_kept : (({} : FilteredFacts).keeps field = true) = False := by
    rw [eq_iff_iff, iff_false]
    exact nofun
  rw [none_kept, false_or, ← Dict.keys]
  cases policy.getD field .prohibited with
  | direct => rfl
  | placeholder => rfl
  | conditional =>
    simp only
    tauto
  | prohibited => rfl

lemma Stricter.permitted (h : Stricter policy' policy) (p : Permitted policy' facts field) :
    Permitted policy facts field := by
  rw [Permitted, Dict.getD] at p ⊢
  cases h field with
  | inl same => rwa [same] at p
  | inr gone =>
    rw [gone] at p
    cases p

lemma Stricter.visible (h : Stricter policy' policy) (v : Visible policy' facts field) :
    Visible policy facts field :=
  ⟨v.1, h.permitted v.2.1, fun interval => h.permitted (v.2.2 interval)⟩

/-! ## The fields the model sees -/

/-- The fields of the payloads of a run. -/
def payloadFields (tables : Unicode) (lax : Lax) (client : Option (ModelFactBlock tables))
    (raw : Dict String Json) (policy : Dict String ExposureMode) (maxAttempts : ℕ) (final : ℕ → Bool) :
    Set String :=
  {field | ∃ payloads, generationPayloads tables lax (client.map ModelFactBlock.facts) raw policy
    maxAttempts final = .ok payloads ∧ ∃ payload ∈ payloads, field ∈ payload.keys}

/-- The client's own facts. -/
def ownFacts (client : Option (ModelFactBlock tables)) : Dict String Json :=
  (client.map ModelFactBlock.facts).getD .empty

lemma mem_handedFrom {context payload : Dict String Json} {remaining attempt : ℕ}
    (mem : payload ∈ handedFrom final context remaining attempt) : payload = context := by
  induction remaining generalizing attempt with
  | zero => exact List.mem_singleton.mp mem
  | succ remaining ih =>
    rw [handedFrom] at mem
    cases List.mem_cons.mp mem with
    | inl first => exact first
    | inr later =>
      split at later
      · cases later
      · exact ih later

/-- Every attempt hands over the assembled context. -/
lemma mem_handed {context payload : Dict String Json} :
    payload ∈ handed maxAttempts final context ↔ payload = context := by
  constructor
  · exact mem_handedFrom
  · intro same
    rw [same, handed]
    cases maxAttempts - 1 with
    | zero => exact List.mem_singleton.mpr rfl
    | succ remaining => exact List.mem_cons_self ..

lemma mem_toModelContext : field ∈ (toModelContext raw).keys ↔ IsRawBand raw field := by
  rw [toModelContext, Dict.mem_keys_filterKeys, decide_eq_true_eq, IsRawBand]

lemma isEmpty_iff_keys {d : Dict String Json} : d.items.isEmpty = true ↔ ∀ field, field ∉ d.keys := by
  rw [List.isEmpty_iff, Dict.keys]
  constructor
  · intro empty field
    rw [empty]
    exact List.not_mem_nil
  · intro none_there
    rw [← List.map_eq_nil_iff (f := Prod.fst)]
    exact List.eq_nil_iff_forall_not_mem.mpr none_there

/-- The model sees the client's visible facts, or the raw bands where no fact is visible. -/
theorem mem_payloadFields {client : Option (ModelFactBlock tables)} :
    field ∈ payloadFields tables lax client raw policy maxAttempts final ↔
      Visible policy (ownFacts client) field ∨
        (∀ shown, ¬ Visible policy (ownFacts client) shown) ∧ IsRawBand raw field := by
  have fields : ∀ context, assembleContext tables lax (client.map ModelFactBlock.facts) raw
      (some policy) = .ok context →
        (field ∈ payloadFields tables lax client raw policy maxAttempts final ↔ field ∈ context.keys) := by
    intro context assembled
    rw [payloadFields, Set.mem_ofPred_eq, generationPayloads, assembled]
    constructor
    · intro h
      obtain ⟨payloads, run, payload, mem, there⟩ := h
      cases run
      rwa [mem_handed.mp mem] at there
    · exact fun there => ⟨_, rfl, context, mem_handed.mpr rfl, there⟩
  -- with no fact at all, nothing is visible and the bands are sent
  have fallback : (∀ shown, shown ∉ (ownFacts client).keys) →
      (field ∈ (toModelContext raw).keys ↔ Visible policy (ownFacts client) field ∨
        (∀ shown, ¬ Visible policy (ownFacts client) shown) ∧ IsRawBand raw field) := by
    intro none_there
    have hidden : ∀ shown, ¬ Visible policy (ownFacts client) shown :=
      fun shown v => none_there shown v.1
    rw [mem_toModelContext, or_iff_right (hidden field), and_iff_right hidden]
  cases client with
  | none =>
    rw [fields (toModelContext raw) rfl]
    exact fallback fun _ => nofun
  | some block =>
    by_cases empty : block.facts.items.isEmpty = true
    · rw [fields (toModelContext raw) ?_]
      · exact fallback (isEmpty_iff_keys.mp empty)
      · rw [assembleContext, Option.map_some, narrowedFacts, if_pos empty]
        show Except.ok (contextOf raw (some block.facts)) = _
        rw [contextOf, if_pos empty]
    · obtain ⟨block', built, kept⟩ := modelFactBlock_restrict lax block
        (filterFactsForPrompt block.facts policy).keeps
      have assembled : assembleContext tables lax (some block.facts) raw (some policy) =
          .ok (contextOf raw (some block'.facts)) := by
        rw [assembleContext, narrowedFacts, if_neg empty]
        dsimp only
        rw [built]
        rfl
      -- what is validated again is what is visible
      have same : ∀ name, name ∈ block'.facts.keys ↔ Visible policy block.facts name := by
        intro name
        rw [kept, keeps_filterFactsForPrompt, keeps_filterFactsForPrompt, Visible]
        constructor
        · exact fun h => ⟨h.1, h.2.1.2, fun interval => (h.2.2 interval).2⟩
        · intro h
          refine ⟨h.1, ⟨h.1, h.2.1⟩, fun interval => ⟨?_, h.2.2 interval⟩⟩
          have quoted := h.1
          rw [interval] at quoted
          by_contra absent
          have there := block.cadence quoted
          rw [Dict.getD, (block.facts.get?_eq_none_iff).mpr absent] at there
          cases there
      rw [fields _ assembled, contextOf]
      show field ∈ (if _ then _ else _ : Dict String Json).keys ↔ Visible policy block.facts field ∨
        (∀ shown, ¬ Visible policy block.facts shown) ∧ _
      by_cases nothing : block'.facts.items.isEmpty = true
      · have hidden : ∀ shown, ¬ Visible policy block.facts shown :=
          fun shown v => isEmpty_iff_keys.mp nothing shown ((same shown).mpr v)
        rw [if_pos nothing, mem_toModelContext, or_iff_right (hidden field), and_iff_right hidden]
      · rw [if_neg nothing, same field, or_iff_left]
        intro fallen_back
        apply nothing
        rw [isEmpty_iff_keys]
        exact fun name there => fallen_back.1 name ((same name).mp there)

/-! ## When the policy holds of what is sent -/

/-- Every field of every payload is one the policy lets through. -/
def OnlyPermitted (tables : Unicode) (lax : Lax) (client : Option (ModelFactBlock tables))
    (raw : Dict String Json) (policy : Dict String ExposureMode) (maxAttempts : ℕ) (final : ℕ → Bool) :
    Prop :=
  ∀ field ∈ payloadFields tables lax client raw policy maxAttempts final,
    Permitted policy (ownFacts client) field

/-- Prohibiting more facts adds no field to the payloads. -/
def StricterAddsNothing (tables : Unicode) (lax : Lax) (client : Option (ModelFactBlock tables))
    (raw : Dict String Json) (policy : Dict String ExposureMode) (maxAttempts : ℕ) (final : ℕ → Bool) :
    Prop :=
  ∀ (scan : List FactRule) (angle : Option String) (version : ℤ),
    Stricter (resolveFactEligibility scan angle version) policy →
      payloadFields tables lax client raw (resolveFactEligibility scan angle version) maxAttempts
        final ⊆ payloadFields tables lax client raw policy maxAttempts final

/-- The raw bands need no fallback: where a fact is visible they are visible facts themselves, and
    where none is the policy lets them through. -/
def BandsCovered (policy : Dict String ExposureMode) (facts raw : Dict String Json) : Prop :=
  (∀ field, IsRawBand raw field → Permitted policy facts field) ∧
    ((∃ shown, Visible policy facts shown) → ∀ field, IsRawBand raw field → Visible policy facts field)

/-- Under a resolution that found no rule nothing is visible. -/
lemma not_visible_of_no_rule (facts : Dict String Json) (field : String) :
    ¬ Visible (resolveFactEligibility [] none 0) facts field := by
  intro v
  have p := v.2.1
  rw [Permitted, Dict.getD] at p
  by_cases known : field ∈ factFields
  · rw [get?_resolveFactEligibility known] at p
    exact p
  · rw [(Dict.get?_eq_none_iff _).mpr (by rwa [keys_resolveFactEligibility])] at p
    exact p

lemma stricter_no_rule (scan : List FactRule) (angle : Option String) (version : ℤ) :
    Stricter (resolveFactEligibility [] none 0) (resolveFactEligibility scan angle version) := by
  intro field
  by_cases known : field ∈ factFields
  · exact .inr (get?_resolveFactEligibility known)
  · refine .inl ?_
    rw [(Dict.get?_eq_none_iff _).mpr (by rwa [keys_resolveFactEligibility]),
      (Dict.get?_eq_none_iff _).mpr (by rwa [keys_resolveFactEligibility])]

/-- The model sees nothing the policy prohibits, and nothing more under a stricter policy, exactly
    when the client's raw bands are covered. -/
theorem payload_keeps_policy_iff (client : Option (ModelFactBlock tables)) (raw : Dict String Json)
    (scan : List FactRule) (angle : Option String) (version : ℤ) (maxAttempts : ℕ) (final : ℕ → Bool) :
    OnlyPermitted tables lax client raw (resolveFactEligibility scan angle version) maxAttempts final ∧
        StricterAddsNothing tables lax client raw (resolveFactEligibility scan angle version)
          maxAttempts final ↔
      BandsCovered (resolveFactEligibility scan angle version) (ownFacts client) raw := by
  generalize h : resolveFactEligibility scan angle version = policy
  constructor
  · intro kept
    obtain ⟨permitted, adds_nothing⟩ := kept
    -- with everything prohibited the bands are sent, so they are among the fields sent already
    have sent : ∀ band, IsRawBand raw band →
        band ∈ payloadFields tables lax client raw policy maxAttempts final := by
      intro band raw_band
      have strictest := stricter_no_rule scan angle version
      rw [h] at strictest
      apply adds_nothing [] none 0 strictest
      exact mem_payloadFields.mpr (.inr ⟨not_visible_of_no_rule _, raw_band⟩)
    refine ⟨fun band raw_band => permitted band (sent band raw_band), fun shown band raw_band => ?_⟩
    cases mem_payloadFields.mp (sent band raw_band) with
    | inl visible => exact visible
    | inr fallen_back =>
      obtain ⟨name, visible⟩ := shown
      exact absurd visible (fallen_back.1 name)
  · intro covered
    constructor
    · intro field mem
      cases mem_payloadFields.mp mem with
      | inl visible => exact visible.2.1
      | inr fallen_back => exact covered.1 field fallen_back.2
    · intro scan' angle' version' stricter field mem
      apply mem_payloadFields.mpr
      cases mem_payloadFields.mp mem with
      | inl visible => exact .inl (stricter.visible visible)
      | inr fallen_back =>
        by_cases shown : ∃ name, Visible policy (ownFacts client) name
        · exact .inl (covered.2 shown field fallen_back.2)
        · exact .inr ⟨fun name visible => shown ⟨name, visible⟩, fallen_back.2⟩

/-- A client whose only fact is the recency band. -/
def sampleClient : ModelFactBlock .ascii where
  facts := .ofList [("recency_band", .str "Under 1y")]
  typed := by
    intro name value held
    obtain ⟨rfl, rfl⟩ := Prod.mk.inj (List.mem_singleton.mp (Dict.mem_of_get?_ofList held))
    exact ⟨_, rfl, rfl⟩
  monthTheyLeft := rfl
  monthTheAccountEmpties := rfl
  cadence := by decide

/-- The policy prohibits every fact, and the model is sent the client's recency band. -/
theorem prohibited_band_is_sent :
    (resolveFactEligibility [] (some "second_try") 1).get? "recency_band" = some .prohibited ∧
      "recency_band" ∈ payloadFields .ascii (fun _ _ => none) (some sampleClient)
        (.ofList [("recency_band", .str "Under 1y")])
        (resolveFactEligibility [] (some "second_try") 1) 2 (fun _ => true) := by
  refine ⟨get?_resolveFactEligibility (by decide), mem_payloadFields.mpr (.inr ⟨?_, ?_⟩)⟩
  · exact not_visible_of_no_rule _
  · exact ⟨by decide, by decide⟩

end ClientEngagement.Prompts
