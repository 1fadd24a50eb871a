import ClientEngagement.Lib.Programs
import ClientEngagement.Privacy.Scanners

/-!
# The model boundary

Model of `privacy/boundary.py`: what a model call is given (`toModelContext`, `renderModelContext`)
and the tool calling conversation, in its blocking form `runConversationBoundary`
(`run_conversation_boundary`) and its async form `runConversationBoundaryAsync`.

The model and the tools are a `Behaviour`: any functions of a state of their own, which may raise. A
conversation is a program over that state and a trace of what happened: every scan that was run, every
audit record, every call of the model with its reply and every call of a tool.
-/

namespace ClientEngagement.Privacy

/-- The allow-listed part of a row (`to_model_context`). -/
def toModelContext (row : Dict String Json) : Dict String Json :=
  row.filterKeys fun key => key ∈ modelAllowedKeys

/-- `render_model_context`. -/
def renderModelContext (settings : ScanSettings) (payload : Dict String Json) : String :=
  "\n".intercalate ((sortBy Prod.fst payload.items).map fun (key, value) =>
    key ++ ": " ++ value.pyStr settings.repr)

/-! ## Turns and messages -/

structure ToolRequest where
  callId : String
  toolName : String
  toolInput : Dict String Json

structure Turn where
  text : String
  toolRequests : List ToolRequest

inductive Block where
  | text (text : String)
  | toolUse (callId toolName : String) (input : Dict String Json)
  | toolResult (callId : String) (content : List Char)

/-- A message of the history, by who wrote it and what it holds. -/
inductive Message where
  | opening (text : String)
  | assistant (content : List Block)
  | results (content : List Block)

/-- `assistant_content_blocks`. -/
def assistantContentBlocks (turn : Turn) : List Block :=
  (if turn.text = "" then [] else [.text turn.text]) ++
    turn.toolRequests.map fun request =>
      .toolUse request.callId request.toolName request.toolInput

/-- A tool output as text: a string as it is, anything else as JSON (`tool_result_block`). -/
def toolResultContent (settings : ScanSettings) : Json → List Char
  | .str text => text.toList
  | output => output.dumps settings.number

/-- `ScannedConversation`. -/
inductive ScannedConversation where
  | finalAnswer (finalText : String)
  | turnLimit

/-! ## The scans of a conversation -/

inductive Verdict where
  | skipped
  | pass
  | blocked
deriving DecidableEq, Repr

structure BoundaryAudit where
  fields : List String
  inbound : Verdict := .skipped
  outbound : Verdict := .skipped
  entityId : Option String
  runId : Option String
  traceId : Option String
  reason : Option String := none

/-- What a scan looks at. -/
inductive Subject where
  | context (payload : Dict String Json)
  | turnText (text : String)
  | toolInput (toolName : String) (input : Dict String Json)
  | toolOutput (toolName : String) (content : List Char)

/-- The scans of one conversation (`_ConversationScans`); `audited` says whether it has a sink. -/
structure ConversationScans where
  settings : ScanSettings
  identifiers : List String
  entityId : Option String
  runId : Option String
  traceId : Option String
  audited : Bool

/-- What a tool input is scanned as. -/
def renderedInput (settings : ScanSettings) (input : Dict String Json) : List Char :=
  (Json.obj input.items).sortKeys.dumps settings.number

namespace ConversationScans

/-- What the scan of a subject finds. -/
def verdict (scans : ConversationScans) : Subject → Except Leak Unit
  | .context payload => scanInbound scans.settings payload scans.identifiers
  | .turnText text => scanOutbound scans.settings text.toList scans.identifiers
  | .toolInput _ input =>
    scanOutbound scans.settings (renderedInput scans.settings input) scans.identifiers
  | .toolOutput _ content => scanOutbound scans.settings content scans.identifiers

def auditOf (scans : ConversationScans) (subject : Subject) (result : Verdict)
    (reason : Option String) : BoundaryAudit :=
  let base : BoundaryAudit :=
    { fields := [], entityId := scans.entityId, runId := scans.runId, traceId := scans.traceId,
      reason := reason }
  match subject with
  | .context payload => { base with fields := sortBy id payload.keys, inbound := result }
  | .turnText _ => { base with fields := ["turn_text"], outbound := result }
  | .toolInput name _ => { base with fields := ["tool_input:" ++ name], outbound := result }
  | .toolOutput name _ => { base with fields := ["tool_output:" ++ name], outbound := result }

end ConversationScans

/-- The text of the exception. -/
def Leak.reason : Leak → String
  | .inbound reason => reason
  | .outbound reason => reason

/-! ## A conversation as a program -/

inductive Event where
  | scan (subject : Subject)
  | audit (record : BoundaryAudit)
  | converse (messages : List Message)
  | replied (turn : Turn)
  | callTool (toolName : String) (input : Dict String Json)

/-- The model and the tools, over a state of their own. -/
structure Behaviour (σ ε : Type) where
  converse : σ → List Message → Except ε Turn × σ
  callTool : σ → String → Dict String Json → Except ε Json × σ

/-- How a conversation raises: on a leak, or because the model or a tool did. -/
inductive Failure (ε : Type) where
  | leak (leak : Leak)
  | raised (error : ε)

structure World (σ : Type) where
  outside : σ
  trace : List Event

variable {σ ε : Type}

abbrev Conversation (σ ε : Type) (α : Type) := Program (World σ) (Failure ε) α

def emit (event : Event) : Conversation σ ε Unit := fun world =>
  (.ok (), { world with trace := world.trace ++ [event] })

/-- Calls the model; its reply is part of the trace. -/
def askModel (behaviour : Behaviour σ ε) (messages : List Message) : Conversation σ ε Turn := fun world =>
  match behaviour.converse world.outside messages with
  | (.ok turn, outside) => (.ok turn, ⟨outside, world.trace ++ [.converse messages] ++ [.replied turn]⟩)
  | (.error error, outside) => (.error (.raised error), ⟨outside, world.trace ++ [.converse messages]⟩)

def runTool (behaviour : Behaviour σ ε) (name : String) (input : Dict String Json) :
    Conversation σ ε Json := fun world =>
  match behaviour.callTool world.outside name input with
  | (.ok output, outside) => (.ok output, ⟨outside, world.trace ++ [.callTool name input]⟩)
  | (.error error, outside) => (.error (.raised error), ⟨outside, world.trace ++ [.callTool name input]⟩)

namespace ConversationScans

variable (scans : ConversationScans)

def record (audit : BoundaryAudit) : Conversation σ ε Unit :=
  if scans.audited then emit (.audit audit) else pure ()

/-- One scan: a hit is recorded and raised, a pass is recorded. -/
def check (subject : Subject) : Conversation σ ε Unit := do
  emit (.scan subject)
  match scans.verdict subject with
  | .error leak =>
    scans.record (scans.auditOf subject .blocked (some leak.reason))
    Program.raise (.leak leak)
  | .ok () => scans.record (scans.auditOf subject .pass none)

/-- `first_messages`. -/
def firstMessages (payload : Dict String Json) : Conversation σ ε (List Message) := do
  scans.check (.context payload)
  let text := renderModelContext scans.settings payload
  pure [.opening (if text = "" then "Begin." else text)]

def checkInputs : List ToolRequest → Conversation σ ε Unit
  | [] => pure ()
  | request :: requests => do
    scans.check (.toolInput request.toolName request.toolInput)
    checkInputs requests

/-- `turn`. -/
def checkTurn (turn : Turn) : Conversation σ ε Unit := do
  scans.check (.turnText turn.text)
  scans.checkInputs turn.toolRequests

/-- `tool_output`. -/
def toolOutput (request : ToolRequest) (output : Json) : Conversation σ ε Block := do
  let content := toolResultContent scans.settings output
  scans.check (.toolOutput request.toolName content)
  pure (.toolResult request.callId content)

end ConversationScans

/-! ## The blocking form -/

section
variable (scans : ConversationScans) (behaviour : Behaviour σ ε)

/-- The results of a turn's tool calls, as a comprehension over its requests. -/
def toolResults : List ToolRequest → Conversation σ ε (List Block)
  | [] => pure []
  | request :: requests => do
    let output ← runTool behaviour request.toolName request.toolInput
    let block ← scans.toolOutput request output
    let blocks ← toolResults requests
    pure (block :: blocks)

/-- The turns that are left, on a history. -/
def converseTurns : ℕ → List Message → Conversation σ ε ScannedConversation
  | 0, _ => pure .turnLimit
  | remaining + 1, messages => do
    let turn ← askModel behaviour messages
    scans.checkTurn turn
    if turn.toolRequests.isEmpty then pure (.finalAnswer turn.text)
    else if remaining = 0 then pure .turnLimit
    else
      let results ← toolResults scans behaviour turn.toolRequests
      converseTurns remaining
        (messages ++ [.assistant (assistantContentBlocks turn)] ++ [.results results])

def runConversationBoundary (context : Dict String Json) (maxTurns : ℤ) :
    Conversation σ ε ScannedConversation := do
  let messages ← scans.firstMessages context
  converseTurns scans behaviour maxTurns.toNat messages

/-! ## The async form -/

/-- The same results, collected by a loop. -/
def collectResults : List Block → List ToolRequest → Conversation σ ε (List Block)
  | results, [] => pure results
  | results, request :: requests => do
    let output ← runTool behaviour request.toolName request.toolInput
    let block ← scans.toolOutput request output
    collectResults (results ++ [block]) requests

def converseTurnsAsync : ℕ → List Message → Conversation σ ε ScannedConversation
  | 0, _ => pure .turnLimit
  | remaining + 1, messages => do
    let turn ← askModel behaviour messages
    scans.checkTurn turn
    if turn.toolRequests.isEmpty then pure (.finalAnswer turn.text)
    else if remaining = 0 then pure .turnLimit
    else
      let results ← collectResults scans behaviour [] turn.toolRequests
      converseTurnsAsync remaining
        (messages ++ [.assistant (assistantContentBlocks turn)] ++ [.results results])

def runConversationBoundaryAsync (context : Dict String Json) (maxTurns : ℤ) :
    Conversation σ ε ScannedConversation := do
  let messages ← scans.firstMessages context
  converseTurnsAsync scans behaviour maxTurns.toNat messages

end

end ClientEngagement.Privacy
