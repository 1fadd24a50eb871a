import ClientEngagement.Lib.Json
import ClientEngagement.Review.Personalization

/-!
# The generation graph

Model of `build_generation_graph` (`agents/graph.py`) from its node `generate` on: the nodes `generate` and
`guardrails` with the two conditional edges (`routeAfterGenerate`, `routeAfterGuardrails`), as steps of a
machine whose state is merged with what each node returns. What `retrieve_context` and `assemble_prompt` left
in the state is `prepared` and `systemPrompt`: no later node writes them. The parser, the checks, the verdict
of the inbound scan and the model's replies are parameters; an inbound leak leaves the graph as an exception.
-/

namespace ClientEngagement.Agents
open Review (GuardrailFailure)

/-! ## The state -/

/-- The keys of `GenerationState` that no field of a draft is named as. -/
def graphKeys : List String :=
  ["client_id", "product", "run_id", "trace_id", "angle", "priority_tier", "prompt_variant", "rule_version",
    "angle_catalog_version", "tier_contract_version", "voice_contract_version", "safety_policy_version",
    "output_policy_version", "personalization_policy_version", "base_instructions_version", "data_date",
    "raw_context", "chunks", "brief", "contract", "facts", "allowed_placeholders", "context", "system_prompt",
    "draft", "content", "raw_structured_output", "attempts", "status", "reason", "failed_guardrail", "llm_calls",
    "tool_calls"]

/-- What `model_dump` makes of a parsed draft. -/
structure Draft where
  fields : Dict String Json
  own : ∀ key ∈ fields.keys, key ∉ graphKeys

inductive GenerationStatus where
  | pending
  | accepted
  | rejected
deriving DecidableEq

/-- One entry of `llm_calls`. -/
structure LlmCall where
  attempt : ℕ
  systemPrompt : String
  rawOutput : Option String

/-- The state of one generation. A key that is absent and one that holds `None` are both `none`. -/
structure GenerationState (π : Type*) where
  prepared : π
  systemPrompt : String
  draft : Option String := none
  content : Option Draft := none
  subject : Option Json := none
  body : Option Json := none
  callBrief : Option Json := none
  rawStructuredOutput : Option Draft := none
  attempts : ℕ := 0
  status : GenerationStatus := .pending
  reason : Option String := none
  failedGuardrail : Option String := none
  llmCalls : List LlmCall := []

abbrev GuardrailCheck (π : Type*) := GenerationState π → Except GuardrailFailure Unit

/-- What the graph is built with, and what its first two nodes left in the state. -/
structure GenerationGraph (π : Type*) where
  maxAttempts : ℤ := 2
  draftParser : String → π → Except String Draft
  checks : List (GuardrailCheck π)
  prepared : π
  systemPrompt : String
  inboundLeak : Option String := none

/-- What the outbound scan says of a reply. -/
inductive BoundaryVerdict where
  | passed (draft : String)
  | leaked (reason : String)

variable {π : Type*}

/-! ## The nodes -/

def GenerationGraph.retryOrReject (g : GenerationGraph π) (s : GenerationState π)
    (failure : GuardrailFailure) : GenerationState π :=
  { s with
    status := if (s.attempts : ℤ) < g.maxAttempts then .pending else .rejected
    reason := some failure.reason
    failedGuardrail := some failure.guardrail }

/-- Counts an attempt and keeps the record of its call. -/
def GenerationState.called (s : GenerationState π) (rawOutput : Option String) : GenerationState π :=
  { s with
    attempts := s.attempts + 1
    llmCalls := s.llmCalls ++ [⟨s.attempts + 1, s.systemPrompt, rawOutput⟩] }

def GenerationGraph.generate (g : GenerationGraph π) (s : GenerationState π) :
    BoundaryVerdict → GenerationState π
  | .leaked reason => g.retryOrReject (s.called none) ⟨reason, "pii_scan"⟩
  | .passed draft =>
    { s.called (some draft) with
      draft := some draft
      status := .pending
      reason := none
      failedGuardrail := none }

/-- The state the checks are given: the parsed draft, and its fields as keys of their own. -/
def GenerationState.withContent (s : GenerationState π) (draft : Draft) : GenerationState π :=
  { s with
    content := some draft
    rawStructuredOutput := some draft
    subject := (draft.fields.get? "subject").or s.subject
    body := (draft.fields.get? "body").or s.body
    callBrief := (draft.fields.get? "call_brief").or s.callBrief }

/-- The failure of the first check that does not pass. -/
def firstFailure : List (GuardrailCheck π) → GenerationState π → Option GuardrailFailure
  | [], _ => none
  | check :: rest, s =>
    match check s with
    | .error failure => some failure
    | .ok () => firstFailure rest s

def GenerationGraph.guardrails (g : GenerationGraph π) (s : GenerationState π) : GenerationState π :=
  match g.draftParser (s.draft.getD "") s.prepared with
  | .error reason => g.retryOrReject s ⟨reason, "structured_output"⟩
  | .ok draft =>
    match firstFailure g.checks (s.withContent draft) with
    | some failure => g.retryOrReject (s.withContent draft) failure
    | none => { s.withContent draft with status := .accepted, reason := none, failedGuardrail := none }

/-! ## The edges -/

inductive Node where
  | generate
  | guardrails
  | finished
  | raised
deriving DecidableEq

def routeAfterGenerate (s : GenerationState π) : Node :=
  if s.status = .rejected then .finished
  else if s.failedGuardrail.isSome then .generate
  else .guardrails

def routeAfterGuardrails (s : GenerationState π) : Node :=
  if s.status = .pending then .generate else .finished

/-- A run of the graph: the node that is next, the state, and how often the model was asked. -/
structure GraphRun (π : Type*) where
  node : Node
  state : GenerationState π
  asked : ℕ := 0

/-- Runs the next node, merges what it returns and follows its edge. -/
def GenerationGraph.step (g : GenerationGraph π) (replies : ℕ → BoundaryVerdict) (m : GraphRun π) : GraphRun π :=
  match m.node with
  | .generate =>
    match g.inboundLeak with
    | some _ => { m with node := .raised }
    | none =>
      let s := g.generate m.state (replies m.asked)
      ⟨routeAfterGenerate s, s, m.asked + 1⟩
  | .guardrails =>
    let s := g.guardrails m.state
    ⟨routeAfterGuardrails s, s, m.asked⟩
  | .finished => m
  | .raised => m

/-- `new_generation_state`, with what the first two nodes add. -/
def GenerationGraph.initial (g : GenerationGraph π) : GenerationState π where
  prepared := g.prepared
  systemPrompt := g.systemPrompt

def GenerationGraph.start (g : GenerationGraph π) : GraphRun π where
  node := .generate
  state := g.initial

/-- Where the graph is after so many nodes. -/
def GenerationGraph.after (g : GenerationGraph π) (replies : ℕ → BoundaryVerdict) (nodes : ℕ)
    (m : GraphRun π) : GraphRun π :=
  (g.step replies)^[nodes] m

/-- The graph ends in `m`. -/
def GenerationGraph.Ends (g : GenerationGraph π) (replies : ℕ → BoundaryVerdict) (m : GraphRun π) : Prop :=
  m.node = .finished ∧ ∃ nodes, g.after replies nodes g.start = m

/-! ## One attempt -/

/-- The parse of a reply, if it has one. -/
def GenerationGraph.parsed (g : GenerationGraph π) : BoundaryVerdict → Option Draft
  | .leaked _ => none
  | .passed draft => (g.draftParser draft g.prepared).toOption

/-- The two nodes of an attempt, as far as it gets. -/
def GenerationGraph.attempt (g : GenerationGraph π) (s : GenerationState π) (reply : BoundaryVerdict) :
    GenerationState π :=
  match reply with
  | .leaked _ => g.generate s reply
  | .passed _ => g.guardrails (g.generate s reply)

/-- Why an attempt that begins in `s` fails, if it does. -/
def GenerationGraph.failureOf (g : GenerationGraph π) (s : GenerationState π) :
    BoundaryVerdict → Option GuardrailFailure
  | .leaked reason => some ⟨reason, "pii_scan"⟩
  | .passed draft =>
    match g.draftParser draft s.prepared with
    | .error reason => some ⟨reason, "structured_output"⟩
    | .ok parsed => firstFailure g.checks ((g.generate s (.passed draft)).withContent parsed)

/-- The state in which the attempt of this index begins when every one before it failed. -/
def GenerationGraph.stateAt (g : GenerationGraph π) (replies : ℕ → BoundaryVerdict) : ℕ → GenerationState π
  | 0 => g.initial
  | k + 1 => g.attempt (g.stateAt replies k) (replies k)

/-- How many attempts there may be. -/
def GenerationGraph.limit (g : GenerationGraph π) : ℕ := (max 1 g.maxAttempts).toNat

/-! ## What an attempt leaves -/

variable {g : GenerationGraph π} {s : GenerationState π} {reply : BoundaryVerdict}
  {replies : ℕ → BoundaryVerdict} {failure : GuardrailFailure} {k : ℕ}

/-- A reply that gets through is parsed and checked in the state it was generated in. -/
lemma attempt_passed (draft : String) : g.attempt s (.passed draft) =
    match g.draftParser draft s.prepared with
    | .error reason => g.retryOrReject (g.generate s (.passed draft)) ⟨reason, "structured_output"⟩
    | .ok parsed =>
      match firstFailure g.checks ((g.generate s (.passed draft)).withContent parsed) with
      | some failure => g.retryOrReject ((g.generate s (.passed draft)).withContent parsed) failure
      | none =>
        { (g.generate s (.passed draft)).withContent parsed with
          status := .accepted
          reason := none
          failedGuardrail := none } :=
  rfl

lemma attempt_status (fails : g.failureOf s reply = some failure) : (g.attempt s reply).status =
    if ((s.attempts + 1 : ℕ) : ℤ) < g.maxAttempts then .pending else .rejected := by
  cases reply with
  | leaked reason => rfl
  | passed draft =>
    rw [GenerationGraph.failureOf] at fails
    rw [attempt_passed]
    split at fails
    · rfl
    · simp only [fails]
      rfl

lemma attempt_accepted (passes : g.failureOf s reply = none) : (g.attempt s reply).status = .accepted := by
  cases reply with
  | leaked reason => cases passes
  | passed draft =>
    rw [GenerationGraph.failureOf] at passes
    rw [attempt_passed]
    split at passes
    · cases passes
    · simp only [passes]

/-- What the loop leaves alone, and its two counts. -/
lemma attempt_frame : (g.attempt s reply).prepared = s.prepared ∧
    (g.attempt s reply).attempts = s.attempts + 1 ∧
    (g.attempt s reply).llmCalls.length = s.llmCalls.length + 1 := by
  have calls (call : LlmCall) : (s.llmCalls ++ [call]).length = s.llmCalls.length + 1 := List.length_append
  cases reply with
  | leaked reason => exact ⟨rfl, rfl, calls _⟩
  | passed draft =>
    rw [attempt_passed]
    split
    · exact ⟨rfl, rfl, calls _⟩
    · split
      · exact ⟨rfl, rfl, calls _⟩
      · exact ⟨rfl, rfl, calls _⟩

/-- An attempt that parses nothing leaves the parse of an earlier one where it is. -/
lemma attempt_raw (same : s.prepared = g.prepared) :
    (g.attempt s reply).rawStructuredOutput = (g.parsed reply).or s.rawStructuredOutput := by
  cases reply with
  | leaked reason => rfl
  | passed draft =>
    rw [attempt_passed, GenerationGraph.parsed, same]
    cases g.draftParser draft g.prepared with
    | error reason => rfl
    | ok parsed =>
      simp only
      split <;> rfl

lemma prepared_stateAt (k : ℕ) : (g.stateAt replies k).prepared = g.prepared := by
  induction k with
  | zero => rfl
  | succ k ih => rw [GenerationGraph.stateAt, attempt_frame.1, ih]

lemma attempts_stateAt (k : ℕ) : (g.stateAt replies k).attempts = k := by
  induction k with
  | zero => rfl
  | succ k ih => rw [GenerationGraph.stateAt, attempt_frame.2.1, ih]

lemma llmCalls_stateAt (k : ℕ) : (g.stateAt replies k).llmCalls.length = k := by
  induction k with
  | zero => rfl
  | succ k ih => rw [GenerationGraph.stateAt, attempt_frame.2.2, ih]

/-- The state holds a parse exactly when some attempt before had one. -/
lemma raw_stateAt (k : ℕ) :
    (g.stateAt replies k).rawStructuredOutput = none ↔ ∀ j < k, g.parsed (replies j) = none := by
  induction k with
  | zero => exact ⟨fun _ j low => absurd low (Nat.not_lt_zero j), fun _ => rfl⟩
  | succ k ih =>
    rw [GenerationGraph.stateAt, attempt_raw (prepared_stateAt k), Option.or_eq_none_iff, ih]
    constructor
    · intro ⟨last, earlier⟩ j low
      rcases Nat.lt_succ_iff_lt_or_eq.mp low with before | rfl
      · exact earlier j before
      · exact last
    · intro nothing
      exact ⟨nothing k (Nat.lt_succ_self k), fun j low => nothing j (Nat.lt_succ_of_lt low)⟩

/-- The attempt of this index fails, when every one before it failed. -/
def GenerationGraph.Fails (g : GenerationGraph π) (replies : ℕ → BoundaryVerdict) (k : ℕ) : Prop :=
  (g.failureOf (g.stateAt replies k) (replies k)).isSome

lemma limit_pos : 1 ≤ g.limit := by
  rw [GenerationGraph.limit]
  omega

lemma status_stateAt (fails : g.Fails replies k) : (g.stateAt replies (k + 1)).status =
    if k + 1 < g.limit then .pending else .rejected := by
  obtain ⟨failure, eq⟩ := Option.isSome_iff_exists.mp fails
  rw [GenerationGraph.stateAt, attempt_status eq, attempts_stateAt]
  have same : ((k + 1 : ℕ) : ℤ) < g.maxAttempts ↔ k + 1 < g.limit := by
    rw [GenerationGraph.limit]
    omega
  by_cases low : k + 1 < g.limit
  · rw [if_pos low, if_pos (same.mpr low)]
  · rw [if_neg low, if_neg fun h => low (same.mp h)]

lemma accepted_stateAt (passes : ¬ g.Fails replies k) : (g.stateAt replies (k + 1)).status = .accepted := by
  apply attempt_accepted
  rwa [GenerationGraph.Fails, Bool.not_eq_true, Option.isSome_eq_false_iff, Option.isNone_iff_eq_none] at passes

/-! ## How the graph gets there -/

lemma after_add {n n' : ℕ} {m : GraphRun π} :
    g.after replies (n + n') m = g.after replies n (g.after replies n' m) :=
  Function.iterate_add_apply ..

/-- An attempt that is not the last one leads back to `generate`. -/
lemma after_attempt (s : GenerationState π) (replies : ℕ → BoundaryVerdict) (k : ℕ)
    (clear : g.inboundLeak = none) : ∃ nodes, g.after replies nodes ⟨.generate, s, k⟩ =
    ⟨if (g.attempt s (replies k)).status = .pending then .generate else .finished,
      g.attempt s (replies k), k + 1⟩ := by
  cases reply : replies k with
  | leaked reason =>
    refine ⟨1, ?_⟩
    have route : routeAfterGenerate (g.generate s (.leaked reason)) =
        if (g.generate s (.leaked reason)).status = .pending then .generate else .finished := by
      rw [routeAfterGenerate, GenerationGraph.generate, GenerationGraph.retryOrReject]
      simp only
      split
      · rfl
      · rfl
    simp only [GenerationGraph.after, Function.iterate_one, GenerationGraph.step, clear, reply, route]
    rfl
  | passed draft =>
    refine ⟨2, ?_⟩
    simp only [GenerationGraph.after, Function.iterate_succ, Function.iterate_zero, Function.comp_apply, id_eq]
    have first : g.step replies ⟨.generate, s, k⟩ = ⟨.guardrails, g.generate s (.passed draft), k + 1⟩ := by
      simp only [GenerationGraph.step, clear, reply]
      rfl
    rw [first]
    rfl

lemma reaches_stateAt (clear : g.inboundLeak = none)
    (pending : ∀ j < k, (g.stateAt replies (j + 1)).status = .pending) :
    ∃ nodes, g.after replies nodes g.start = ⟨.generate, g.stateAt replies k, k⟩ := by
  induction k with
  | zero => exact ⟨0, rfl⟩
  | succ k ih =>
    obtain ⟨nodes, before⟩ := ih fun j low => pending j (Nat.lt_succ_of_lt low)
    obtain ⟨more, last⟩ := after_attempt (g.stateAt replies k) replies k clear
    refine ⟨more + nodes, ?_⟩
    rw [after_add, before, last]
    have again := pending k (Nat.lt_succ_self k)
    rw [GenerationGraph.stateAt] at again
    rw [if_pos again]
    rfl

lemma ends_stateAt (clear : g.inboundLeak = none)
    (pending : ∀ j < k, (g.stateAt replies (j + 1)).status = .pending)
    (last : (g.stateAt replies (k + 1)).status ≠ .pending) :
    g.Ends replies ⟨.finished, g.stateAt replies (k + 1), k + 1⟩ := by
  obtain ⟨nodes, before⟩ := reaches_stateAt clear pending
  obtain ⟨more, ends⟩ := after_attempt (g.stateAt replies k) replies k clear
  refine ⟨rfl, more + nodes, ?_⟩
  rw [GenerationGraph.stateAt] at last
  rw [after_add, before, ends, if_neg last]
  rfl

lemma after_finished {m : GraphRun π} (ended : m.node = .finished) (nodes : ℕ) : g.after replies nodes m = m := by
  have fixed : g.step replies m = m := by
    rw [GenerationGraph.step, ended]
  exact Function.iterate_fixed fixed nodes

/-- The graph ends in one way. -/
lemma ends_unique {m m' : GraphRun π} (h : g.Ends replies m) (h' : g.Ends replies m') : m = m' := by
  obtain ⟨ended, nodes, reach⟩ := h
  obtain ⟨ended', nodes', reach'⟩ := h'
  have left : g.after replies (nodes' + nodes) g.start = m := by
    rw [after_add, reach, after_finished ended]
  have right : g.after replies (nodes + nodes') g.start = m' := by
    rw [after_add, reach', after_finished ended']
  rw [← left, ← right, Nat.add_comm]

/-- What the inbound scan stops leaves the graph as an exception. -/
lemma not_ends_of_leak {reason : String} (leak : g.inboundLeak = some reason) {m : GraphRun π} :
    ¬ g.Ends replies m := by
  intro ⟨ended, nodes, reach⟩
  have first : g.step replies g.start = { g.start with node := .raised } := by
    simp only [GenerationGraph.step, GenerationGraph.start, leak]
  have fixed : g.step replies { g.start with node := .raised } = { g.start with node := .raised } := rfl
  cases nodes with
  | zero =>
    have start : g.start = m := reach
    rw [← start] at ended
    cases ended
  | succ nodes =>
    rw [GenerationGraph.after, Function.iterate_succ_apply, first, Function.iterate_fixed fixed] at reach
    rw [← reach] at ended
    cases ended

/-- Some attempt within the limit is the last: one that passes, or the one the limit allows no more after. -/
lemma exists_last (g : GenerationGraph π) (replies : ℕ → BoundaryVerdict) : ∃ k < g.limit, (g.stateAt replies (k + 1)).status ≠ .pending ∧
    ∀ j < k, (g.stateAt replies (j + 1)).status = .pending := by
  classical
  have some_last : ∃ k, (g.stateAt replies (k + 1)).status ≠ .pending := by
    refine ⟨g.limit - 1, ?_⟩
    have pos := limit_pos (g := g)
    by_cases fails : g.Fails replies (g.limit - 1)
    · rw [status_stateAt fails, if_neg (by omega)]
      nofun
    · rw [accepted_stateAt fails]
      nofun
  refine ⟨Nat.find some_last, ?_, Nat.find_spec some_last, ?_⟩
  · by_contra high
    have pos := limit_pos (g := g)
    have pending := Nat.find_min some_last (m := g.limit - 1) (by omega)
    rw [not_not] at pending
    by_cases fails : g.Fails replies (g.limit - 1)
    · rw [status_stateAt fails, if_neg (by omega)] at pending
      cases pending
    · rw [accepted_stateAt fails] at pending
      cases pending
  · intro j low
    exact not_not.mp (Nat.find_min some_last low)

lemma fails_of_pending (pending : (g.stateAt replies (k + 1)).status = .pending) : g.Fails replies k := by
  by_contra passes
  rw [accepted_stateAt passes] at pending
  cases pending

/-! ## What the graph ends with -/

/-- The state as the checks saw it, before the node settled how the attempt ended. -/
def GenerationState.checked (s : GenerationState π) : GenerationState π :=
  { s with status := .pending, reason := none, failedGuardrail := none }

/-- The guardrail named in the state is the one the last attempt failed. -/
def GenerationGraph.NamesFailure (g : GenerationGraph π) (s : GenerationState π) : BoundaryVerdict → Prop
  | .leaked _ => s.failedGuardrail = some "pii_scan"
  | .passed draft =>
    match g.draftParser draft g.prepared with
    | .error _ => s.failedGuardrail = some "structured_output"
    | .ok _ => ∃ passing check rest failure, g.checks = passing ++ check :: rest ∧
        (∀ earlier ∈ passing, earlier s.checked = .ok ()) ∧ check s.checked = .error failure ∧
        s.failedGuardrail = some failure.guardrail

/-- Every part of a finished generation is accounted for. -/
structure GenerationGraph.AccountedFor (g : GenerationGraph π) (replies : ℕ → BoundaryVerdict)
    (m : GraphRun π) : Prop where
  asked : (m.asked : ℤ) ≤ max 1 g.maxAttempts
  ended : m.state.status = .accepted ∨ m.state.status = .rejected
  attempts : m.state.attempts = m.state.llmCalls.length
  accepted : m.state.status = .accepted → ∃ draft, g.parsed (replies (m.asked - 1)) = some draft ∧
    m.state.content = some draft ∧ m.state.rawStructuredOutput = some draft ∧
    ∀ check ∈ g.checks, check m.state.checked = .ok ()
  rejected : m.state.status = .rejected → g.NamesFailure m.state (replies (m.asked - 1)) ∧
    ∀ draft, m.state.rawStructuredOutput = some draft → g.parsed (replies (m.asked - 1)) = some draft

lemma firstFailure_none {checks : List (GuardrailCheck π)} :
    firstFailure checks s = none ↔ ∀ check ∈ checks, check s = .ok () := by
  induction checks with
  | nil => simp [firstFailure]
  | cons check rest ih =>
    rw [firstFailure, List.forall_mem_cons]
    cases verdict : check s with
    | error failure => simp
    | ok => simp [ih]

lemma firstFailure_some {checks : List (GuardrailCheck π)} (first : firstFailure checks s = some failure) :
    ∃ passing check rest, checks = passing ++ check :: rest ∧
      (∀ earlier ∈ passing, earlier s = .ok ()) ∧ check s = .error failure := by
  induction checks with
  | nil => cases first
  | cons check rest ih =>
    rw [firstFailure] at first
    split at first
    · rename_i verdict
      cases first
      exact ⟨[], check, rest, rfl, by simp, verdict⟩
    · rename_i verdict
      obtain ⟨passing, failed, others, rfl, before, last⟩ := ih first
      exact ⟨check :: passing, failed, others, rfl, List.forall_mem_cons.mpr ⟨verdict, before⟩, last⟩

/-- An attempt that passes ends with its own parse, which every check passes on. -/
lemma attempt_passes (same : s.prepared = g.prepared) (passes : g.failureOf s reply = none) :
    ∃ draft, g.parsed reply = some draft ∧ (g.attempt s reply).content = some draft ∧
      (g.attempt s reply).rawStructuredOutput = some draft ∧
      ∀ check ∈ g.checks, check (g.attempt s reply).checked = .ok () := by
  cases reply with
  | leaked reason => cases passes
  | passed draft =>
    rw [GenerationGraph.failureOf] at passes
    rw [attempt_passed, GenerationGraph.parsed, ← same]
    split at passes
    · cases passes
    · rename_i parsed read
      simp only [passes]
      exact ⟨parsed, by rw [read]; rfl, rfl, rfl, firstFailure_none.mp passes⟩

/-- An attempt that fails names what it failed. -/
lemma attempt_names (same : s.prepared = g.prepared) (fails : g.failureOf s reply = some failure) :
    g.NamesFailure (g.attempt s reply) reply := by
  cases reply with
  | leaked reason => rfl
  | passed draft =>
    rw [GenerationGraph.failureOf] at fails
    rw [attempt_passed, GenerationGraph.NamesFailure, ← same]
    split at fails
    · rfl
    · rename_i parsed read
      simp only [fails]
      obtain ⟨passing, check, rest, eq, before, last⟩ := firstFailure_some fails
      exact ⟨passing, check, rest, failure, eq, before, last, rfl⟩

/-- The parse that is kept is the last attempt's: some attempt within the limit passes, or the last one's
    output parses, or no attempt's does. -/
def GenerationGraph.KeepsLastParse (g : GenerationGraph π) (replies : ℕ → BoundaryVerdict) : Prop :=
  (∀ k < g.limit, g.Fails replies k) →
    (g.parsed (replies (g.limit - 1))).isSome ∨ ∀ k < g.limit - 1, g.parsed (replies k) = none

/-- Where the last attempt ends, all but the parse that is kept is accounted for. -/
lemma accounted_last (low : k < g.limit) (last : (g.stateAt replies (k + 1)).status ≠ .pending)
    (kept : (g.stateAt replies (k + 1)).status = .rejected → ∀ draft,
      (g.stateAt replies (k + 1)).rawStructuredOutput = some draft → g.parsed (replies k) = some draft) :
    g.AccountedFor replies ⟨.finished, g.stateAt replies (k + 1), k + 1⟩ where
  asked := by
    rw [GenerationGraph.limit] at low
    simp only
    omega
  ended := by
    by_cases fails : g.Fails replies k
    · have status := status_stateAt fails
      split at status
      · exact absurd status last
      · exact Or.inr status
    · exact Or.inl (accepted_stateAt fails)
  attempts := by
    rw [attempts_stateAt, llmCalls_stateAt]
  accepted := by
    intro accepted
    have passes : g.failureOf (g.stateAt replies k) (replies k) = none := by
      by_contra fails
      have status := status_stateAt (Option.isSome_iff_ne_none.mpr fails : g.Fails replies k)
      simp only at accepted
      rw [accepted] at status
      split at status <;> cases status
    exact attempt_passes (prepared_stateAt k) passes
  rejected := by
    intro rejected
    refine ⟨?_, kept rejected⟩
    have fails : g.Fails replies k := by
      by_contra passes
      have status := accepted_stateAt passes
      simp only at rejected
      rw [rejected] at status
      cases status
    obtain ⟨failure, eq⟩ := Option.isSome_iff_exists.mp fails
    exact attempt_names (prepared_stateAt k) eq

/-- When every attempt fails, the last one the limit allows is the one that is rejected. -/
lemma rejected_of_fails (fails : ∀ k < g.limit, g.Fails replies k) :
    (∀ j < g.limit - 1, (g.stateAt replies (j + 1)).status = .pending) ∧
      (g.stateAt replies (g.limit - 1 + 1)).status = .rejected := by
  have pos := limit_pos (g := g)
  constructor
  · intro j low
    rw [status_stateAt (fails j (by omega)), if_pos (by omega)]
  · rw [status_stateAt (fails (g.limit - 1) (by omega)), if_neg (by omega)]

/-- The graph ends, with its draft accounted for, exactly when the inbound scan lets the context through and
    the parse that is kept is the last attempt's. -/
theorem accounted_iff (g : GenerationGraph π) (replies : ℕ → BoundaryVerdict) :
    (∃ m, g.Ends replies m ∧ g.AccountedFor replies m) ↔
      g.inboundLeak = none ∧ g.KeepsLastParse replies := by
  constructor
  · intro ⟨m, ends, accounted⟩
    have clear : g.inboundLeak = none := by
      by_contra leak
      obtain ⟨reason, eq⟩ := Option.ne_none_iff_exists'.mp leak
      exact not_ends_of_leak eq ends
    refine ⟨clear, ?_⟩
    intro fails
    obtain ⟨pending, rejected⟩ := rejected_of_fails fails
    have last := ends_stateAt clear pending (by rw [rejected]; nofun)
    have same := ends_unique ends last
    subst same
    have kept := (accounted.rejected rejected).2
    by_contra neither
    rw [not_or, Option.not_isSome_iff_eq_none] at neither
    apply neither.2
    rw [← raw_stateAt, Option.eq_none_iff_forall_ne_some]
    intro draft raw
    have final : (g.stateAt replies (g.limit - 1 + 1)).rawStructuredOutput = some draft := by
      rw [GenerationGraph.stateAt, attempt_raw (prepared_stateAt _), neither.1, Option.none_or, raw]
    have parsed := kept draft final
    rw [Nat.add_sub_cancel, neither.1] at parsed
    cases parsed
  · intro ⟨clear, keeps⟩
    obtain ⟨k, low, last, pending⟩ := exists_last g replies
    refine ⟨_, ends_stateAt clear pending last, accounted_last low last ?_⟩
    intro rejected draft raw
    have fails : ∀ j < g.limit, g.Fails replies j := by
      have at_last : g.Fails replies k := by
        by_contra passes
        rw [accepted_stateAt passes] at rejected
        cases rejected
      have status := status_stateAt at_last
      rw [rejected] at status
      intro j below
      rcases lt_trichotomy j k with before | rfl | after
      · exact fails_of_pending (pending j before)
      · exact at_last
      · rw [if_pos (by omega)] at status
        cases status
    have limit : k = g.limit - 1 := by
      have status := status_stateAt (fails k low)
      rw [rejected] at status
      by_contra other
      rw [if_pos (by omega)] at status
      cases status
    rw [GenerationGraph.stateAt, attempt_raw (prepared_stateAt k)] at raw
    rcases keeps fails with parsed | nothing
    · rw [← limit] at parsed
      obtain ⟨own, eq⟩ := Option.isSome_iff_exists.mp parsed
      rw [eq, Option.some_or] at raw
      rw [eq, raw]
    · rw [← limit] at nothing
      rw [(raw_stateAt k).mpr nothing, Option.or_none] at raw
      exact raw

/-! ## A parse that is kept from an earlier attempt -/

/-- A draft of a body alone. -/
def bodyDraft (body : String) : Draft where
  fields := .ofList [("body", .str body)]
  own := by
    intro key mem
    obtain rfl := List.mem_singleton.mp (show key ∈ ["body"] from mem)
    decide

/-- Two attempts; every text parses as a body, and no body is long enough. -/
def shortBodies : GenerationGraph Unit where
  draftParser := fun text _ => .ok (bodyDraft text)
  checks := [fun _ => .error ⟨"body is under the minimum", "format_length"⟩]
  prepared := ()
  systemPrompt := "Write one short email."

/-- A short draft, then one that leaks. -/
def shortThenLeak : ℕ → BoundaryVerdict
  | 0 => .passed "Hi"
  | _ => .leaked "email address"

/-- The run is rejected for the leak of its second attempt and keeps the parse of its first. -/
theorem stale_draft_kept :
    ¬ ∃ m, shortBodies.Ends shortThenLeak m ∧ shortBodies.AccountedFor shortThenLeak m := by
  intro ⟨m, ends, accounted⟩
  have last : shortBodies.Ends shortThenLeak (shortBodies.after shortThenLeak 3 shortBodies.start) := by
    exact ⟨rfl, 3, rfl⟩
  have same := ends_unique ends last
  subst same
  have kept := (accounted.rejected rfl).2 (bodyDraft "Hi") rfl
  cases kept

end ClientEngagement.Agents
