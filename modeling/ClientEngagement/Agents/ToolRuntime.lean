import ClientEngagement.Lib.Runs

/-!
# The trace of tool calls

Model of `agents/tool_runtime.py` as a run of `investigate_group`s uses it: the query executor
(`make_async_query_executor`), which commits each row, the blocking executor (`make_tool_executor`), whose
rows belong to the session of the group, and the dispatch over both
(`make_investigation_tool_executor`). The groups make their calls side by side and share one
`OrdinalSource`; what a tool's function does is a `Body`, any writes and then any ending.

A group that fails rolls its session back, and a function may raise what no executor catches: the rows of
these calls are lost. `Traced` says that every call left its trace, `Kept` is the condition on a step;
`leaves_callTool_iff` says of one call when it leaves one.
-/

namespace ClientEngagement.Agents.ToolRuntime

/-- What the scanner and the column say to an output; the last is one that cannot be rendered or stored. -/
inductive Check where
  | clean
  | leak
  | unrecordable
deriving DecidableEq

/-- How a tool's function ends. -/
inductive Outcome (Output : Type) where
  | returned (output : Output)
  | typeError (message : String)
  | unknownTool
  | raised

/-- What a tool's function does: what it has written when it ends, and how it ends. -/
structure Body (Output Write : Type) where
  writes : List Write
  outcome : Outcome Output

/-- What a row of `agent_tool_call` records as the answer. -/
inductive ToolOutput (Output : Type) where
  | answer (output : Output)
  | error (code message : String)

/-- `CallBudget`. -/
structure CallBudget where
  limit : ℤ
  taken : ℕ := 0

/-- Claims one query; nothing is left when they are all spent. -/
def CallBudget.take (budget : CallBudget) : Option CallBudget :=
  if budget.limit ≤ budget.taken then none else some { budget with taken := budget.taken + 1 }

/-- The tools of one investigation; the extra tools are among the other ones. -/
structure Toolbox (Output : Type) where
  queryNames : List String
  queryFunctions : List String
  otherTools : List String
  queryBudget : ℤ
  check : Output → Check

variable {γ Input Output Write : Type}

/-! ## The executors -/

/-- What a call comes to; without an output there is no row. -/
structure Answer (Output Write : Type) where
  budget : CallBudget
  refused : Bool := false
  executed : Bool := false
  output : Option (ToolOutput Output)
  writes : List Write := []
  raises : Bool := false

def unknownToolError (toolName : String) : ToolOutput Output :=
  .error "unknown_tool" ("'" ++ toolName ++ "' is not a tool this agent can call")

def budgetSpentError (limit : ℤ) : ToolOutput Output :=
  .error "budget_spent" ("this investigation has used all " ++ toString limit ++ " of its queries")

def outputBlockedError : ToolOutput Output :=
  .error "output_blocked" "this tool's answer was withheld"

/-- What both executors make of a function that ran and returned. -/
def scanned (tools : Toolbox Output) (budget : CallBudget) (writes : List Write) (output : Output) :
    Answer Output Write :=
  match tools.check output with
  | .clean => { budget := budget, executed := true, output := some (.answer output), writes := writes }
  | .leak =>
    { budget := budget, executed := true, output := some outputBlockedError, writes := writes, raises := true }
  | .unrecordable => { budget := budget, executed := true, output := none, raises := true }

/-- One call of the query executor (`make_async_query_executor`). -/
def queryCall (tools : Toolbox Output) (budget : CallBudget) (toolName : String)
    (body : Body Output Write) : Answer Output Write :=
  if toolName ∉ tools.queryFunctions then
    { budget := budget, refused := true, output := some (unknownToolError toolName) }
  else
    match budget.take with
    | none => { budget := budget, refused := true, output := some (budgetSpentError budget.limit) }
    | some budget =>
      match body.outcome with
      | .returned output => scanned tools budget body.writes output
      | .typeError message =>
        { budget := budget
          executed := true
          output := some (.error "invalid_input" message)
          writes := body.writes }
      | .unknownTool | .raised => { budget := budget, executed := true, output := none, raises := true }

/-- One call of the blocking executor (`make_tool_executor`), which also records an unknown tool that the
    function itself reports. -/
def blockingCall (tools : Toolbox Output) (budget : CallBudget) (toolName : String)
    (body : Body Output Write) : Answer Output Write :=
  if toolName ∉ tools.otherTools then
    { budget := budget, refused := true, output := some (unknownToolError toolName) }
  else
    match body.outcome with
    | .returned output => scanned tools budget body.writes output
    | .typeError message =>
      { budget := budget
        executed := true
        output := some (.error "invalid_input" message)
        writes := body.writes }
    | .unknownTool =>
      { budget := budget
        executed := true
        output := some (unknownToolError toolName)
        writes := body.writes }
    | .raised => { budget := budget, executed := true, output := none, raises := true }

/-- `make_investigation_tool_executor`. -/
def callTool (tools : Toolbox Output) (budget : CallBudget) (toolName : String)
    (body : Body Output Write) : Answer Output Write :=
  if toolName ∈ tools.queryNames then queryCall tools budget toolName body
  else blockingCall tools budget toolName body

/-! ## The run -/

/-- Where the row of a call is: not written yet, flushed in its group's session, committed, or lost. -/
inductive Place where
  | running
  | flushed
  | committed
  | lost
deriving DecidableEq

/-- A call that was made, with what became of it. -/
structure ToolCall (γ Input Output Write : Type) where
  ordinal : ℕ
  group : γ
  toolName : String
  toolInput : Input
  refused : Bool := false
  executed : Bool := false
  output : Option (ToolOutput Output) := none
  writes : List Write := []
  place : Place := .running

inductive Phase where
  | idle
  | calling (ordinal : ℕ) (toolName : String)
  | raised
  | ended
deriving DecidableEq

structure Group where
  phase : Phase := .idle
  budget : CallBudget

/-- A run under way; `next` is the `OrdinalSource`. -/
structure RunState (γ Input Output Write : Type) where
  next : ℕ
  calls : List (ToolCall γ Input Output Write)
  groups : γ → Group

/-- The groups before their first call, each with a query budget of its own. -/
def RunState.initial (tools : Toolbox Output) (start : ℕ) : RunState γ Input Output Write where
  next := start
  calls := []
  groups := fun _ => { budget := { limit := tools.queryBudget } }

/-- A row of `agent_tool_call`. -/
structure ToolRow (Input Output : Type) where
  ordinal : ℕ
  toolName : String
  toolInput : Input
  toolOutput : ToolOutput Output

def ToolRow.asked (row : ToolRow Input Output) : ℕ × String × Input :=
  (row.ordinal, row.toolName, row.toolInput)

def ToolCall.asked (call : ToolCall γ Input Output Write) : ℕ × String × Input :=
  (call.ordinal, call.toolName, call.toolInput)

/-- The committed row of a call. -/
def ToolCall.row? (call : ToolCall γ Input Output Write) : Option (ToolRow Input Output) :=
  if call.place = .committed then
    call.output.map fun output =>
      { ordinal := call.ordinal
        toolName := call.toolName
        toolInput := call.toolInput
        toolOutput := output }
  else none

/-- The committed rows of the run. -/
def RunState.rows (s : RunState γ Input Output Write) : List (ToolRow Input Output) :=
  s.calls.filterMap ToolCall.row?

/-- What is committed to the other tables, each write with the ordinal of the call that made it. -/
def RunState.data (s : RunState γ Input Output Write) : List (ℕ × Write) :=
  (s.calls.filter (·.place = .committed)).flatMap fun call => call.writes.map fun write => (call.ordinal, write)

inductive RunEvent (γ Input Output Write : Type) where
  | call (group : γ) (toolName : String) (toolInput : Input)
  | answer (group : γ) (body : Body Output Write)
  | commit (group : γ)
  | fail (group : γ)

/-- What an answer makes of its call: a query's row is committed at once, another one is flushed. -/
def ToolCall.answered (tools : Toolbox Output) (answer : Answer Output Write)
    (call : ToolCall γ Input Output Write) : ToolCall γ Input Output Write :=
  { call with
    refused := answer.refused
    executed := answer.executed
    output := answer.output
    writes := answer.writes
    place := if answer.output.isNone then .lost
      else if call.toolName ∈ tools.queryNames then .committed else .flushed }

/-- What the end of a group's session makes of its flushed calls. -/
def ToolCall.closed [DecidableEq γ] (group : γ) (place : Place) (call : ToolCall γ Input Output Write) :
    ToolCall γ Input Output Write :=
  if call.group = group ∧ call.place = .flushed then { call with place := place } else call

section Steps

variable [DecidableEq γ] (s : RunState γ Input Output Write) (group : γ)

/-- A call takes the next ordinal. -/
def RunState.makes (toolName : String) (toolInput : Input) : RunState γ Input Output Write where
  next := s.next + 1
  calls := s.calls ++
    [{ ordinal := s.next, group := group, toolName := toolName, toolInput := toolInput }]
  groups := Function.update s.groups group
    { phase := .calling s.next toolName, budget := (s.groups group).budget }

/-- The call under way is answered. -/
def RunState.answers (tools : Toolbox Output) (ordinal : ℕ) (answer : Answer Output Write) :
    RunState γ Input Output Write where
  next := s.next
  calls := s.calls.map fun call => if call.ordinal = ordinal then call.answered tools answer else call
  groups := Function.update s.groups group
    { phase := if answer.raises then .raised else .idle, budget := answer.budget }

/-- The session of the group ends. -/
def RunState.closes (place : Place) : RunState γ Input Output Write where
  next := s.next
  calls := s.calls.map (ToolCall.closed group place)
  groups := Function.update s.groups group { phase := .ended, budget := (s.groups group).budget }

end Steps

/-- One step of the run. An executor that raises leaves its group nothing but to fail, which any group may do
    between two calls. -/
inductive RunStep [DecidableEq γ] (tools : Toolbox Output) (s : RunState γ Input Output Write) :
    RunEvent γ Input Output Write → RunState γ Input Output Write → Prop where
  | call {group toolName toolInput} (idle : (s.groups group).phase = .idle) :
    RunStep tools s (.call group toolName toolInput) (s.makes group toolName toolInput)
  | answer {group ordinal toolName body} (calling : (s.groups group).phase = .calling ordinal toolName) :
    RunStep tools s (.answer group body)
      (s.answers group tools ordinal (callTool tools (s.groups group).budget toolName body))
  | commit {group} (idle : (s.groups group).phase = .idle) :
    RunStep tools s (.commit group) (s.closes group .committed)
  | fail {group} (stops : (s.groups group).phase = .idle ∨ (s.groups group).phase = .raised) :
    RunStep tools s (.fail group) (s.closes group .lost)

/-- Every group that made a call has ended. -/
def RunState.Over (s : RunState γ Input Output Write) : Prop :=
  ∀ call ∈ s.calls, (s.groups call.group).phase = .ended

/-- An argument error is what a row records. -/
def ToolOutput.IsInvalidInput (output : ToolOutput Output) : Prop :=
  ∃ message, output = .error "invalid_input" message

/-- The queries of a group whose function ran. -/
def RunState.queriesRun [DecidableEq γ] (tools : Toolbox Output) (s : RunState γ Input Output Write)
    (group : γ) : List (ToolCall γ Input Output Write) :=
  s.calls.filter fun call => call.group = group ∧ call.toolName ∈ tools.queryNames ∧ call.executed

/-- Every call left its trace: one committed row each, under consecutive ordinals, within the budgets, and
    nothing done by a call that was refused or kept by one recorded as an argument error. -/
structure Traced [DecidableEq γ] (tools : Toolbox Output) (start : ℕ) (s : RunState γ Input Output Write) :
    Prop where
  each_call : (s.rows.map ToolRow.asked).Perm (s.calls.map ToolCall.asked)
  consecutive : (s.rows.map ToolRow.ordinal).Perm (List.range' start s.rows.length)
  budget : ∀ group, ((s.queriesRun tools group).length : ℤ) ≤ max 0 tools.queryBudget
  refused : ∀ call ∈ s.calls, call.refused = true →
    call.executed = false ∧ ∀ write ∈ s.data, write.1 ≠ call.ordinal
  invalid : ∀ row ∈ s.rows, row.toolOutput.IsInvalidInput → ∀ write ∈ s.data, write.1 ≠ row.ordinal

/-- The function of the tool is called. -/
def Executes (tools : Toolbox Output) (budget : CallBudget) (toolName : String) : Prop :=
  if toolName ∈ tools.queryNames then
    toolName ∈ tools.queryFunctions ∧ (budget.taken : ℤ) < budget.limit
  else toolName ∈ tools.otherTools

/-- The executor records the ending of the function, and an argument error comes before any write. -/
def Recordable (tools : Toolbox Output) (toolName : String) (body : Body Output Write) : Prop :=
  match body.outcome with
  | .returned output => tools.check output ≠ .unrecordable
  | .typeError _ => body.writes = []
  | .unknownTool => toolName ∉ tools.queryNames
  | .raised => False

/-- When a step loses no trace: a function that is called ends so that its row is written, and no group fails
    with rows flushed in its session. -/
def Kept (tools : Toolbox Output) (s : RunState γ Input Output Write) : RunEvent γ Input Output Write → Prop
  | .call _ _ _ => True
  | .answer group body => ∀ ordinal toolName, (s.groups group).phase = .calling ordinal toolName →
    Executes tools (s.groups group).budget toolName → Recordable tools toolName body
  | .commit _ => True
  | .fail group => ∀ call ∈ s.calls, call.group = group → call.place ≠ .flushed

/-! ## One call -/

section Answers

variable {tools : Toolbox Output} {budget : CallBudget} {toolName : String} {body : Body Output Write}

/-- The claims on the budget stay within it. -/
def CallBudget.Within (limit : ℤ) (budget : CallBudget) : Prop :=
  budget.limit = limit ∧ (budget.taken : ℤ) ≤ max 0 limit

/-- What both executors owe their caller. -/
structure Answer.Sound (tools : Toolbox Output) (budget : CallBudget) (toolName : String)
    (answer : Answer Output Write) : Prop where
  refused : answer.refused = true → answer.executed = false ∧ answer.writes = []
  spends : answer.budget.taken =
    budget.taken + if toolName ∈ tools.queryNames ∧ answer.executed = true then 1 else 0
  within : budget.Within tools.queryBudget → answer.budget.Within tools.queryBudget

lemma take_eq_some {left : CallBudget} (h : budget.take = some left) :
    (budget.taken : ℤ) < budget.limit ∧ left = { budget with taken := budget.taken + 1 } := by
  rw [CallBudget.take] at h
  split at h
  · cases h
  · rename_i below
    exact ⟨not_le.mp below, (Option.some.inj h).symm⟩

lemma take_eq_none (h : budget.take = none) : budget.limit ≤ budget.taken := by
  rw [CallBudget.take] at h
  split at h
  · assumption
  · cases h

lemma within_take {left : CallBudget} {limit : ℤ} (h : budget.take = some left)
    (within : budget.Within limit) : left.Within limit := by
  obtain ⟨below, same⟩ := take_eq_some h
  obtain ⟨named, _⟩ := within
  subst same
  refine ⟨named, ?_⟩
  rw [Nat.cast_add, Nat.cast_one]
  omega

/-- The part of an answer that does not depend on which executor gives it. -/
lemma scanned_fields (budget : CallBudget) (writes : List Write) (output : Output) :
    (scanned tools budget writes output).budget = budget ∧
      (scanned tools budget writes output).refused = false ∧
      (scanned tools budget writes output).executed = true := by
  rw [scanned]
  cases tools.check output with
  | clean => exact ⟨rfl, rfl, rfl⟩
  | leak => exact ⟨rfl, rfl, rfl⟩
  | unrecordable => exact ⟨rfl, rfl, rfl⟩

lemma sound_queryCall (query : toolName ∈ tools.queryNames) :
    (queryCall tools budget toolName body).Sound tools budget toolName := by
  rw [queryCall]
  split
  · exact ⟨fun _ => ⟨rfl, rfl⟩, by simp, id⟩
  · split
    · exact ⟨fun _ => ⟨rfl, rfl⟩, by simp, id⟩
    · rename_i left taken
      have spent : left.taken = budget.taken + 1 := by rw [(take_eq_some taken).2]
      split
      · rename_i output _
        obtain ⟨left_, refused, executed⟩ := @scanned_fields _ _ tools left body.writes output
        refine ⟨fun h => ?_, ?_, fun within => ?_⟩
        · rw [refused] at h
          cases h
        · rw [left_, executed, if_pos ⟨query, rfl⟩, spent]
        · rw [left_]
          exact within_take taken within
      · exact ⟨nofun, by simp [query, spent], within_take taken⟩
      · exact ⟨nofun, by simp [query, spent], within_take taken⟩
      · exact ⟨nofun, by simp [query, spent], within_take taken⟩

lemma sound_blockingCall (other : toolName ∉ tools.queryNames) :
    (blockingCall tools budget toolName body).Sound tools budget toolName := by
  rw [blockingCall]
  split
  · exact ⟨fun _ => ⟨rfl, rfl⟩, by simp, id⟩
  · split
    · rename_i output _
      obtain ⟨left, refused, executed⟩ := @scanned_fields _ _ tools budget body.writes output
      refine ⟨fun h => ?_, ?_, fun within => ?_⟩
      · rw [refused] at h
        cases h
      · rw [left, if_neg fun both => other both.1, Nat.add_zero]
      · rw [left]
        exact within
    · exact ⟨nofun, by simp [other], id⟩
    · exact ⟨nofun, by simp [other], id⟩
    · exact ⟨nofun, by simp [other], id⟩

lemma sound_callTool : (callTool tools budget toolName body).Sound tools budget toolName := by
  rw [callTool]
  split
  · rename_i query
    exact sound_queryCall query
  · rename_i other
    exact sound_blockingCall other

/-- An answer that leaves a trace: a row, and no write under an argument error. -/
def Answer.Leaves (answer : Answer Output Write) : Prop :=
  ∃ output, answer.output = some output ∧ (output.IsInvalidInput → answer.writes = [])

lemma not_isInvalidInput {code message : String} (other : code ≠ "invalid_input") :
    ¬ (ToolOutput.error code message : ToolOutput Output).IsInvalidInput := by
  rintro ⟨message', same⟩
  cases same
  exact other rfl

lemma leaves_refusal {budget : CallBudget} {code message : String} (other : code ≠ "invalid_input") :
    ({ budget := budget, refused := true, output := some (.error code message) } :
      Answer Output Write).Leaves :=
  ⟨_, rfl, fun invalid => absurd invalid (not_isInvalidInput other)⟩

lemma leaves_scanned_iff (budget : CallBudget) (writes : List Write) (output : Output) :
    (scanned tools budget writes output).Leaves ↔ tools.check output ≠ .unrecordable := by
  rw [scanned]
  cases tools.check output with
  | clean =>
    refine ⟨fun _ => nofun, fun _ => ⟨_, rfl, ?_⟩⟩
    rintro ⟨message, same⟩
    cases same
  | leak =>
    exact ⟨fun _ => nofun, fun _ => ⟨_, rfl, fun invalid => absurd invalid (not_isInvalidInput (by decide))⟩⟩
  | unrecordable =>
    refine ⟨?_, fun h => absurd rfl h⟩
    rintro ⟨output, same, _⟩
    cases same

lemma leaves_invalid_iff {budget : CallBudget} {message : String} {writes : List Write} :
    ({ budget := budget
       executed := true
       output := some (.error "invalid_input" message)
       writes := writes } : Answer Output Write).Leaves ↔ writes = [] := by
  constructor
  · rintro ⟨output, same, empty⟩
    cases same
    exact empty ⟨message, rfl⟩
  · exact fun empty => ⟨_, rfl, fun _ => empty⟩

lemma not_leaves_raised {budget : CallBudget} :
    ¬ ({ budget := budget, executed := true, output := none, raises := true } :
      Answer Output Write).Leaves := by
  rintro ⟨output, same, _⟩
  cases same

lemma leaves_queryCall_iff (query : toolName ∈ tools.queryNames) :
    (queryCall tools budget toolName body).Leaves ↔
      (toolName ∈ tools.queryFunctions ∧ (budget.taken : ℤ) < budget.limit →
        Recordable tools toolName body) := by
  rw [queryCall]
  split
  · rename_i unknown
    exact ⟨fun _ both => absurd both.1 unknown, fun _ => leaves_refusal (by decide)⟩
  · rename_i known
    rw [not_not] at known
    split
    · rename_i spent
      have full := take_eq_none spent
      exact ⟨fun _ both => absurd both.2 (not_lt.mpr full), fun _ => leaves_refusal (by decide)⟩
    · rename_i left taken
      have given : toolName ∈ tools.queryFunctions ∧ (budget.taken : ℤ) < budget.limit :=
        ⟨known, (take_eq_some taken).1⟩
      rw [Recordable, forall_prop_of_true given]
      cases body.outcome with
      | returned output => exact leaves_scanned_iff left body.writes output
      | typeError message => exact leaves_invalid_iff
      | unknownTool => exact iff_of_false not_leaves_raised (not_not.mpr query)
      | raised => exact iff_of_false not_leaves_raised id

lemma leaves_blockingCall_iff (other : toolName ∉ tools.queryNames) :
    (blockingCall tools budget toolName body).Leaves ↔
      (toolName ∈ tools.otherTools → Recordable tools toolName body) := by
  rw [blockingCall]
  split
  · rename_i unknown
    exact ⟨fun _ known => absurd known unknown, fun _ => leaves_refusal (by decide)⟩
  · rename_i known
    rw [Recordable, forall_prop_of_true (not_not.mp known)]
    cases body.outcome with
    | returned output => exact leaves_scanned_iff budget body.writes output
    | typeError message => exact leaves_invalid_iff
    | unknownTool =>
      exact iff_of_true ⟨_, rfl, fun invalid => absurd invalid (not_isInvalidInput (by decide))⟩ other
    | raised => exact iff_of_false not_leaves_raised id

/-- A call leaves its trace exactly when a function that it calls ends so that it is recorded. -/
lemma leaves_callTool_iff : (callTool tools budget toolName body).Leaves ↔
    (Executes tools budget toolName → Recordable tools toolName body) := by
  rw [callTool, Executes]
  split
  · rename_i query
    exact leaves_queryCall_iff query
  · rename_i other
    exact leaves_blockingCall_iff other

lemma place_answered (answer : Answer Output Write) (call : ToolCall γ Input Output Write) :
    (call.answered tools answer).place ≠ .running ∧
      ((call.answered tools answer).place = .lost ↔ answer.output = none) := by
  rw [ToolCall.answered]
  cases answer.output with
  | none => exact ⟨nofun, iff_of_true rfl rfl⟩
  | some output =>
    simp only [Option.isNone_some, Bool.false_eq_true, if_false]
    split
    · exact ⟨nofun, iff_of_false nofun nofun⟩
    · exact ⟨nofun, iff_of_false nofun nofun⟩

/-- A call whose row is lost, or that left writes under an argument error. -/
def ToolCall.Broken (call : ToolCall γ Input Output Write) : Prop :=
  call.place = .lost ∨ (∃ output, call.output = some output ∧ output.IsInvalidInput) ∧ call.writes ≠ []

lemma broken_answered_iff {answer : Answer Output Write} {call : ToolCall γ Input Output Write} :
    (call.answered tools answer).Broken ↔ ¬ answer.Leaves := by
  rw [ToolCall.Broken, (place_answered answer call).2, Answer.Leaves]
  simp only [ToolCall.answered]
  cases answer.output with
  | none => simp
  | some output => simp

end Answers

section Tables

variable {s : RunState γ Input Output Write}

lemma mem_rows {row : ToolRow Input Output} : row ∈ s.rows ↔
    ∃ call ∈ s.calls, call.place = .committed ∧ call.asked = row.asked ∧
      call.output = some row.toolOutput := by
  rw [RunState.rows, List.mem_filterMap]
  constructor
  · rintro ⟨call, mem, made⟩
    rw [ToolCall.row?] at made
    split at made
    · rename_i committed
      obtain ⟨output, some_, same⟩ := Option.map_eq_some_iff.mp made
      subst same
      exact ⟨call, mem, committed, rfl, some_⟩
    · cases made
  · rintro ⟨call, mem, committed, asked, some_⟩
    refine ⟨call, mem, ?_⟩
    rw [ToolCall.asked, ToolRow.asked, Prod.mk.injEq, Prod.mk.injEq] at asked
    rw [ToolCall.row?, if_pos committed, some_, asked.1, asked.2.1, asked.2.2]
    rfl

lemma mem_data {write : ℕ × Write} : write ∈ s.data ↔
    ∃ call ∈ s.calls, call.place = .committed ∧ call.ordinal = write.1 ∧ write.2 ∈ call.writes := by
  rw [RunState.data, List.mem_flatMap]
  constructor
  · rintro ⟨call, mem, written⟩
    rw [List.mem_filter, decide_eq_true_eq] at mem
    obtain ⟨w, listed, same⟩ := List.mem_map.mp written
    subst same
    exact ⟨call, mem.1, mem.2, rfl, listed⟩
  · rintro ⟨call, mem, committed, ordinal, listed⟩
    refine ⟨call, List.mem_filter.mpr ⟨mem, decide_eq_true committed⟩, ?_⟩
    exact List.mem_map.mpr ⟨write.2, listed, by rw [ordinal]⟩

end Tables

end ClientEngagement.Agents.ToolRuntime
