import ClientEngagement.Privacy.Boundary

/-!
# A conversation never runs ahead of its scans

`NeverAhead` says what may happen in a conversation: nothing reaches the model, or comes out at the
end, before its scan passed; a tool is called only for a turn whose text and inputs all passed; the
model is asked at most as often as there are turns; and a failed scan is the end of it.

The invariant is `Sound`, about the trace so far; each operation of the boundary has one
specification that keeps it (`spec_check`, `spec_checkTurn`, `spec_askModel`, `spec_toolResults`), and
`spec_converseTurns` follows by induction on the turns that are left. `converseTurnsAsync_eq` shows
that the two forms are one function. Both halves meet in `conversation_never_ahead`.
-/

namespace ClientEngagement.Privacy

variable {σ ε : Type}

/-! ## What is allowed -/

section
variable (scans : ConversationScans)

/-- The subject was scanned, and passed. -/
def Passed (earlier : List Event) (subject : Subject) : Prop :=
  .scan subject ∈ earlier ∧ scans.verdict subject = .ok ()

/-- No scan has failed. -/
def Clean (earlier : List Event) : Prop :=
  ∀ subject, .scan subject ∈ earlier → scans.verdict subject = .ok ()

def BlockCovered (earlier : List Event) : Block → Prop
  | .text text => Passed scans earlier (.turnText text)
  | .toolUse _ name input => Passed scans earlier (.toolInput name input)
  | .toolResult _ content => ∃ name, Passed scans earlier (.toolOutput name content)

/-- Everything a message holds passed its scan; the opening message is the context. -/
def MessageCovered (context : Dict String Json) (earlier : List Event) : Message → Prop
  | .opening text =>
    text = (let rendered := renderModelContext scans.settings context
      if rendered = "" then "Begin." else rendered) ∧ Passed scans earlier (.context context)
  | .assistant content => ∀ block ∈ content, BlockCovered scans earlier block
  | .results content => ∀ block ∈ content, BlockCovered scans earlier block

/-- The last reply of the model was this turn, and its text and inputs have all passed since. -/
def InTurn (earlier : List Event) (turn : Turn) : Prop :=
  ∃ before between, earlier = before ++ .replied turn :: between ∧ (∀ t, .replied t ∉ between) ∧
    Passed scans between (.turnText turn.text) ∧
    ∀ request ∈ turn.toolRequests, Passed scans between (.toolInput request.toolName request.toolInput)

def Event.isConverse : Event → Bool
  | .converse _ => true
  | _ => false

/-- What may happen next. -/
def Allowed (context : Dict String Json) (limit : ℕ) (earlier : List Event) : Event → Prop
  | .scan _ => Clean scans earlier
  | .audit _ => True
  | .converse messages => Clean scans earlier ∧
      (∀ message ∈ messages, MessageCovered scans context earlier message) ∧
      earlier.countP Event.isConverse < limit
  | .replied _ => True
  | .callTool name input => Clean scans earlier ∧ ∃ turn, InTurn scans earlier turn ∧
      ∃ request ∈ turn.toolRequests, request.toolName = name ∧ request.toolInput = input

/-- What is recorded of a failed scan. -/
def blockedRecord (subject : Subject) (leak : Leak) : List Event :=
  if scans.audited then [.audit (scans.auditOf subject .blocked (some leak.reason))] else []

/-- What is recorded of a scan that passed. -/
def passRecord (subject : Subject) : List Event :=
  if scans.audited then [.audit (scans.auditOf subject .pass none)] else []

/-- How a conversation may go. -/
structure NeverAhead (context : Dict String Json) (maxTurns : ℤ)
    (outcome : Except (Failure ε) ScannedConversation) (trace : List Event) : Prop where
  allowed : Always (Allowed scans context maxTurns.toNat) trace
  answered : ∀ text, outcome = .ok (.finalAnswer text) → Passed scans trace (.turnText text)
  bounded : trace.countP Event.isConverse ≤ maxTurns.toNat
  stopped : ∀ earlier subject later leak, trace = earlier ++ .scan subject :: later →
    scans.verdict subject = .error leak →
      later = blockedRecord scans subject leak ∧ outcome = .error (.leak leak)

/-! ## The invariant -/

/-- The trace so far is as it may be, and no scan has failed. -/
structure Sound (context : Dict String Json) (limit : ℕ) (trace : List Event) : Prop where
  allowed : Always (Allowed scans context limit) trace
  bounded : trace.countP Event.isConverse ≤ limit
  clean : Clean scans trace

/-- How a conversation raises: a failed scan is its last, or the model or a tool raised. -/
def Fails (context : Dict String Json) (limit : ℕ) (failure : Failure ε) (world : World σ) : Prop :=
  match failure with
  | .leak leak => ∃ before subject, world.trace = before ++ .scan subject :: blockedRecord scans subject leak ∧
      scans.verdict subject = .error leak ∧ Sound scans context limit before ∧
      Always (Allowed scans context limit) world.trace
  | .raised _ => Always (Allowed scans context limit) world.trace ∧ Clean scans world.trace ∧
      world.trace.countP Event.isConverse ≤ limit

end

/-- Nothing in it asks the model. -/
def Quiet (added : List Event) : Prop :=
  ∀ event ∈ added, event.isConverse = false ∧ ∀ turn, event ≠ .replied turn

variable {scans : ConversationScans} {context : Dict String Json} {limit : ℕ}
variable {trace added : List Event} {subject : Subject} {turn : Turn}

lemma Passed.append (h : Passed scans trace subject) : Passed scans (trace ++ added) subject :=
  ⟨List.mem_append_left _ h.1, h.2⟩

lemma Passed.append_right (h : Passed scans added subject) : Passed scans (trace ++ added) subject :=
  ⟨List.mem_append_right _ h.1, h.2⟩

lemma BlockCovered.append {block : Block} (h : BlockCovered scans trace block) :
    BlockCovered scans (trace ++ added) block := by
  cases block with
  | text text => exact Passed.append h
  | toolUse callId name input => exact Passed.append h
  | toolResult callId content =>
    obtain ⟨name, passed⟩ := h
    exact ⟨name, passed.append⟩

lemma MessageCovered.append {message : Message} (h : MessageCovered scans context trace message) :
    MessageCovered scans context (trace ++ added) message := by
  cases message with
  | opening text => exact ⟨h.1, h.2.append⟩
  | assistant content => exact fun block mem => (h block mem).append
  | results content => exact fun block mem => (h block mem).append

lemma Quiet.append {more : List Event} (h : Quiet added) (h' : Quiet more) : Quiet (added ++ more) := by
  intro event mem
  cases List.mem_append.mp mem with
  | inl mem => exact h event mem
  | inr mem => exact h' event mem

lemma Quiet.countP (h : Quiet added) :
    (trace ++ added).countP Event.isConverse = trace.countP Event.isConverse := by
  have none_asks : added.countP Event.isConverse = 0 := by
    rw [List.countP_eq_zero]
    intro event mem
    rw [(h event mem).1]
    exact nofun
  rw [List.countP_append, none_asks, Nat.add_zero]

lemma InTurn.append (h : InTurn scans trace turn) (quiet : Quiet added) :
    InTurn scans (trace ++ added) turn := by
  obtain ⟨before, between, rfl, none_replied, text, inputs⟩ := h
  refine ⟨before, between ++ added, ?_, ?_, text.append, fun request mem => (inputs request mem).append⟩
  · rw [List.append_assoc, List.cons_append]
  · intro t mem
    cases List.mem_append.mp mem with
    | inl mem => exact none_replied t mem
    | inr mem => exact (quiet _ mem).2 t rfl

lemma Clean.append_one {event : Event} (h : Clean scans trace)
    (quiet : ∀ subject, event = .scan subject → scans.verdict subject = .ok ()) :
    Clean scans (trace ++ [event]) := by
  intro subject mem
  cases List.mem_append.mp mem with
  | inl mem => exact h subject mem
  | inr mem => exact quiet subject (List.mem_singleton.mp mem).symm

/-- An allowed event that is no call of the model and no failed scan keeps the invariant. -/
lemma Sound.append_one {event : Event} (h : Sound scans context limit trace)
    (allowed : Allowed scans context limit trace event) (quiet : event.isConverse = false)
    (passes : ∀ subject, event = .scan subject → scans.verdict subject = .ok ()) :
    Sound scans context limit (trace ++ [event]) where
  allowed := always_snoc h.allowed allowed
  bounded := by
    rw [List.countP_append, List.countP_singleton, quiet]
    exact h.bounded
  clean := h.clean.append_one passes

/-! ## The operations -/

/-- A record joins the trace where there is a sink. -/
lemma record_apply (audit : BoundaryAudit) (world : World σ) :
    (scans.record audit : Conversation σ ε Unit) world =
      (.ok (), { world with trace := world.trace ++ if scans.audited then [.audit audit] else [] }) := by
  rw [ConversationScans.record]
  cases scans.audited with
  | true => rfl
  | false =>
    rw [if_neg nofun, if_neg nofun, List.append_nil]
    rfl

/-- What one scan does. -/
lemma check_apply (world : World σ) : (scans.check subject : Conversation σ ε Unit) world =
    match scans.verdict subject with
    | .error leak => (.error (.leak leak), { world with
        trace := world.trace ++ [.scan subject] ++ blockedRecord scans subject leak })
    | .ok () => (.ok (), { world with
        trace := world.trace ++ [.scan subject] ++ passRecord scans subject }) := by
  have scanned : (emit (.scan subject) : Conversation σ ε Unit) world =
      (.ok (), { world with trace := world.trace ++ [.scan subject] }) := rfl
  rw [ConversationScans.check]
  refine (Program.bind_ok scanned).trans ?_
  cases scans.verdict subject with
  | error leak => exact Program.bind_ok (record_apply _ _)
  | ok u => exact record_apply _ _

/-- A scan that passes is on the trace; one that fails ends the conversation. -/
lemma spec_check (sound : Sound scans context limit trace) :
    Program.Spec (fun world : World σ => world.trace = trace)
      (scans.check subject : Conversation σ ε Unit)
      (fun _ world => ∃ added, world.trace = trace ++ added ∧ Sound scans context limit world.trace ∧
        Quiet added ∧ Passed scans added subject)
      (Fails scans context limit) := by
  intro world same
  rw [check_apply]
  cases found : scans.verdict subject with
  | error leak =>
    refine ⟨trace, subject, ?_, found, sound, ?_⟩
    · show world.trace ++ _ ++ _ = _
      rw [same, List.append_assoc]
      rfl
    · show Always _ (world.trace ++ _ ++ blockedRecord scans subject leak)
      have scanned := always_snoc (P := Allowed scans context limit) (x := .scan subject) sound.allowed
        sound.clean
      rw [same, blockedRecord]
      split
      · exact always_snoc scanned trivial
      · rw [List.append_nil]
        exact scanned
  | ok u =>
    have scanned : Sound scans context limit (_ ++ [.scan subject]) :=
      sound.append_one sound.clean rfl (fun s e => by cases e; exact found)
    refine ⟨[.scan subject] ++ passRecord scans subject, ?_, ?_, ?_, List.mem_cons_self .., found⟩
    · show world.trace ++ _ ++ _ = _
      rw [same, List.append_assoc]
    · show Sound scans context limit (world.trace ++ _ ++ passRecord scans subject)
      rw [same, passRecord]
      split
      · exact scanned.append_one trivial rfl nofun
      · rw [List.append_nil]
        exact scanned
    · intro event mem
      cases List.mem_append.mp mem with
      | inl first =>
        rw [List.mem_singleton.mp first]
        exact ⟨rfl, nofun⟩
      | inr second =>
        rw [passRecord] at second
        split at second
        · rw [List.mem_singleton.mp second]
          exact ⟨rfl, nofun⟩
        · cases second

/-- The inputs of a turn pass one by one. -/
lemma spec_checkInputs (requests : List ToolRequest) (sound : Sound scans context limit trace) :
    Program.Spec (fun world : World σ => world.trace = trace)
      (scans.checkInputs requests : Conversation σ ε Unit)
      (fun _ world => ∃ added, world.trace = trace ++ added ∧ Sound scans context limit world.trace ∧
        Quiet added ∧ ∀ request ∈ requests,
          Passed scans added (.toolInput request.toolName request.toolInput))
      (Fails scans context limit) := by
  induction requests generalizing trace with
  | nil =>
    apply Program.Spec.pure
    intro world same
    refine ⟨[], ?_, ?_, nofun, nofun⟩
    · rw [same, List.append_nil]
    · rw [same]
      exact sound
  | cons request requests ih =>
    rw [ConversationScans.checkInputs]
    apply (spec_check sound).bind
    intro _ world h
    obtain ⟨added, grown, sound', quiet, passed⟩ := h
    apply (ih sound').weaken (fun _ same => same) _ (fun _ _ failed => failed) world rfl
    intro _ last h
    obtain ⟨more, grown', sound'', quiet', inputs⟩ := h
    refine ⟨added ++ more, ?_, sound'', quiet.append quiet', fun r mem => ?_⟩
    · rw [grown', grown, List.append_assoc]
    · cases List.mem_cons.mp mem with
      | inl first =>
        rw [first]
        exact passed.append
      | inr later => exact (inputs r later).append_right

/-- After the checks of a turn its text and all its inputs have passed. -/
lemma spec_checkTurn (turn : Turn) (sound : Sound scans context limit trace) :
    Program.Spec (fun world : World σ => world.trace = trace)
      (scans.checkTurn turn : Conversation σ ε Unit)
      (fun _ world => ∃ added, world.trace = trace ++ added ∧ Sound scans context limit world.trace ∧
        Quiet added ∧ Passed scans added (.turnText turn.text) ∧ ∀ request ∈ turn.toolRequests,
          Passed scans added (.toolInput request.toolName request.toolInput))
      (Fails scans context limit) := by
  apply (spec_check sound).bind
  intro _ world h
  obtain ⟨added, grown, sound', quiet, passed⟩ := h
  apply (spec_checkInputs turn.toolRequests sound').weaken (fun _ same => same) _
    (fun _ _ failed => failed) world rfl
  intro _ last h
  obtain ⟨more, grown', sound'', quiet', inputs⟩ := h
  refine ⟨added ++ more, ?_, sound'', quiet.append quiet', passed.append,
    fun r mem => (inputs r mem).append_right⟩
  rw [grown', grown, List.append_assoc]

variable {behaviour : Behaviour σ ε}

/-- The model may be asked with covered messages while turns are left. -/
lemma spec_askModel {messages : List Message} (sound : Sound scans context limit trace)
    (covered : ∀ message ∈ messages, MessageCovered scans context trace message)
    (left : trace.countP Event.isConverse < limit) :
    Program.Spec (fun world : World σ => world.trace = trace) (askModel behaviour messages)
      (fun turn world => world.trace = trace ++ [.converse messages] ++ [.replied turn] ∧
        Sound scans context limit world.trace ∧
        world.trace.countP Event.isConverse = trace.countP Event.isConverse + 1)
      (Fails scans context limit) := by
  intro world same
  have asked : Always (Allowed scans context limit) (trace ++ [.converse messages]) :=
    always_snoc sound.allowed ⟨sound.clean, covered, left⟩
  have clean : Clean scans (trace ++ [.converse messages]) := sound.clean.append_one nofun
  have count : (trace ++ [Event.converse messages]).countP Event.isConverse =
      trace.countP Event.isConverse + 1 := by
    rw [List.countP_append, List.countP_singleton]
    rfl
  rw [askModel]
  cases behaviour.converse world.outside messages with
  | mk result outside =>
    cases result with
    | error error =>
      show Always _ (world.trace ++ _) ∧ Clean _ (world.trace ++ _) ∧ (world.trace ++ _).countP _ ≤ _
      rw [same, count]
      exact ⟨asked, clean, left⟩
    | ok turn =>
      show world.trace ++ _ ++ _ = _ ∧ Sound _ _ _ (world.trace ++ _ ++ _) ∧
        (world.trace ++ _ ++ _).countP _ = _
      rw [same]
      have count' : (trace ++ [Event.converse messages] ++ [Event.replied turn]).countP Event.isConverse =
          trace.countP Event.isConverse + 1 := by
        rw [List.countP_append, List.countP_singleton, count]
        rfl
      refine ⟨rfl, ⟨always_snoc asked trivial, ?_, clean.append_one nofun⟩, count'⟩
      rw [count']
      exact left

/-- A tool may be called within its turn. -/
lemma spec_runTool {request : ToolRequest} (sound : Sound scans context limit trace)
    (inTurn : InTurn scans trace turn) (asked : request ∈ turn.toolRequests) :
    Program.Spec (fun world : World σ => world.trace = trace)
      (runTool behaviour request.toolName request.toolInput)
      (fun _ world => world.trace = trace ++ [.callTool request.toolName request.toolInput] ∧
        Sound scans context limit world.trace)
      (Fails scans context limit) := by
  intro world same
  have called : Sound scans context limit (trace ++ [.callTool request.toolName request.toolInput]) :=
    sound.append_one ⟨sound.clean, turn, inTurn, request, asked, rfl, rfl⟩ rfl nofun
  rw [runTool]
  cases behaviour.callTool world.outside request.toolName request.toolInput with
  | mk result outside =>
    cases result with
    | error error =>
      show Always _ (world.trace ++ _) ∧ Clean _ (world.trace ++ _) ∧ (world.trace ++ _).countP _ ≤ _
      rw [same]
      exact ⟨called.allowed, called.clean, called.bounded⟩
    | ok output =>
      show world.trace ++ _ = _ ∧ Sound _ _ _ (world.trace ++ _)
      rw [same]
      exact ⟨rfl, called⟩

lemma quiet_callTool (name : String) (input : Dict String Json) : Quiet [.callTool name input] := by
  intro event mem
  rw [List.mem_singleton.mp mem]
  exact ⟨rfl, nofun⟩

/-- The results of a turn's tools are covered. -/
lemma spec_toolResults (requests : List ToolRequest) (sound : Sound scans context limit trace)
    (inTurn : InTurn scans trace turn) (asked : ∀ request ∈ requests, request ∈ turn.toolRequests) :
    Program.Spec (fun world : World σ => world.trace = trace) (toolResults scans behaviour requests)
      (fun blocks world => ∃ added, world.trace = trace ++ added ∧
        Sound scans context limit world.trace ∧ Quiet added ∧
        ∀ block ∈ blocks, BlockCovered scans world.trace block)
      (Fails scans context limit) := by
  induction requests generalizing trace with
  | nil =>
    apply Program.Spec.pure
    intro world same
    refine ⟨[], ?_, ?_, nofun, nofun⟩
    · rw [same, List.append_nil]
    · rw [same]
      exact sound
  | cons request requests ih =>
    rw [toolResults]
    apply (spec_runTool sound inTurn (asked request (List.mem_cons_self ..))).bind
    intro output w₁ h
    obtain ⟨called, sound₁⟩ := h
    have quiet₁ := quiet_callTool request.toolName request.toolInput
    -- the output is scanned before it becomes a block
    have scanned : Program.Spec (fun world : World σ => world.trace = w₁.trace)
        (scans.toolOutput request output : Conversation σ ε Block)
        (fun block world => ∃ added, world.trace = w₁.trace ++ added ∧
          Sound scans context limit world.trace ∧ Quiet added ∧ BlockCovered scans world.trace block)
        (Fails scans context limit) := by
      apply (spec_check sound₁).bind
      intro _ world h
      obtain ⟨added, grown, sound', quiet, passed⟩ := h
      refine ⟨added, grown, sound', quiet, request.toolName, ?_⟩
      rw [grown]
      exact passed.append_right
    refine (scanned.bind (f := fun block => toolResults scans behaviour requests >>= fun blocks =>
      pure (block :: blocks)) ?_) w₁ rfl
    intro block w₂ h
    obtain ⟨added, grown, sound₂, quiet₂, covered⟩ := h
    have inTurn₂ : InTurn scans w₂.trace turn := by
      rw [grown, called]
      exact (inTurn.append quiet₁).append quiet₂
    refine ((ih sound₂ inTurn₂ fun r mem => asked r (List.mem_cons_of_mem _ mem)).bind
      (f := fun blocks => pure (block :: blocks)) ?_) w₂ rfl
    intro blocks w₃ h
    obtain ⟨more, grown', sound₃, quiet₃, rest⟩ := h
    refine ⟨[.callTool request.toolName request.toolInput] ++ added ++ more, ?_, sound₃,
      (quiet₁.append quiet₂).append quiet₃, fun b mem => ?_⟩
    · rw [grown', grown, called]
      simp only [List.append_assoc]
    · cases List.mem_cons.mp mem with
      | inl first =>
        rw [first, grown']
        exact covered.append
      | inr later => exact rest b later

/-- With covered messages and turns left, a conversation ends in what it may answer. -/
lemma spec_converseTurns (remaining : ℕ) {messages : List Message}
    (sound : Sound scans context limit trace)
    (covered : ∀ message ∈ messages, MessageCovered scans context trace message)
    (left : trace.countP Event.isConverse + remaining ≤ limit) :
    Program.Spec (fun world : World σ => world.trace = trace)
      (converseTurns scans behaviour remaining messages)
      (fun outcome world => Sound scans context limit world.trace ∧
        ∀ text, outcome = .finalAnswer text → Passed scans world.trace (.turnText text))
      (Fails scans context limit) := by
  induction remaining generalizing trace messages with
  | zero =>
    apply Program.Spec.pure
    intro world same
    rw [same]
    exact ⟨sound, nofun⟩
  | succ remaining ih =>
    rw [converseTurns]
    apply (spec_askModel sound covered (by omega)).bind
    intro turn w₁ h
    obtain ⟨replied, sound₁, count₁⟩ := h
    refine ((spec_checkTurn turn sound₁).bind ?_) w₁ rfl
    intro _
    split
    · apply Program.Spec.pure
      intro w₂ h
      obtain ⟨added, grown, sound₂, -, text, -⟩ := h
      refine ⟨sound₂, fun answer e => ?_⟩
      cases e
      rw [grown]
      exact text.append_right
    · split
      · apply Program.Spec.pure
        intro w₂ h
        obtain ⟨added, -, sound₂, -⟩ := h
        exact ⟨sound₂, nofun⟩
      · intro w₂ h
        obtain ⟨added, grown, sound₂, quiet, text, inputs⟩ := h
        have inTurn : InTurn scans w₂.trace turn := by
          refine ⟨trace ++ [.converse messages], added, ?_, ?_, text, inputs⟩
          · rw [grown, replied, List.append_assoc]
            rfl
          · exact fun t mem => (quiet _ mem).2 t rfl
        refine ((spec_toolResults turn.toolRequests sound₂ inTurn fun _ mem => mem).bind
          (f := fun results => converseTurns scans behaviour remaining
            (messages ++ [.assistant (assistantContentBlocks turn)] ++ [.results results])) ?_) w₂ rfl
        intro results w₃ h
        obtain ⟨more, grown', sound₃, quiet', blocks⟩ := h
        refine ih sound₃ ?_ ?_ w₃ rfl
        · -- the history and the two new messages are covered
          intro message mem
          have older : w₃.trace = trace ++ ([.converse messages] ++ [.replied turn] ++ added ++ more) := by
            rw [grown', grown, replied]
            simp only [List.append_assoc]
          cases List.mem_append.mp mem with
          | inr last =>
            rw [List.mem_singleton.mp last]
            exact blocks
          | inl earlier =>
            cases List.mem_append.mp earlier with
            | inl history =>
              rw [older]
              exact (covered message history).append
            | inr second =>
              rw [List.mem_singleton.mp second]
              intro block there
              rw [grown', grown]
              rw [assistantContentBlocks] at there
              cases List.mem_append.mp there with
              | inl said =>
                split at said
                · cases said
                · rw [List.mem_singleton.mp said]
                  exact text.append_right.append
              | inr used =>
                obtain ⟨request, asked, rfl⟩ := List.mem_map.mp used
                exact (inputs request asked).append_right.append
        · rw [grown', quiet'.countP, grown, quiet.countP, count₁]
          omega

/-! ## Both forms -/

/-- The loop collects what the comprehension does. -/
lemma collectResults_eq (requests : List ToolRequest) (results : List Block) :
    collectResults scans behaviour results requests =
      toolResults scans behaviour requests >>= fun blocks => pure (results ++ blocks) := by
  induction requests generalizing results with
  | nil =>
    rw [collectResults, toolResults, Program.pure_bind', List.append_nil]
  | cons request requests ih =>
    rw [collectResults, toolResults, Program.bind_assoc']
    apply congrArg
    funext output
    rw [Program.bind_assoc']
    apply congrArg
    funext block
    rw [ih, Program.bind_assoc']
    apply congrArg
    funext blocks
    rw [Program.pure_bind', List.append_assoc]
    rfl

/-- The async form takes the same turns. -/
theorem converseTurnsAsync_eq (remaining : ℕ) (messages : List Message) :
    converseTurnsAsync scans behaviour remaining messages =
      converseTurns scans behaviour remaining messages := by
  induction remaining generalizing messages with
  | zero => rfl
  | succ remaining ih =>
    rw [converseTurnsAsync, converseTurns]
    apply congrArg
    funext turn
    apply congrArg
    funext _
    split
    · rfl
    · split
      · rfl
      · rw [collectResults_eq]
        simp only [List.nil_append, Program.bind_pure', ih]

lemma sound_nil : Sound scans context limit [] where
  allowed := always_nil
  bounded := Nat.zero_le _
  clean := nofun

/-- The opening message is the context, once it passed. -/
lemma spec_firstMessages (sound : Sound scans context limit trace) :
    Program.Spec (fun world : World σ => world.trace = trace)
      (scans.firstMessages context : Conversation σ ε (List Message))
      (fun messages world => ∃ added, world.trace = trace ++ added ∧
        Sound scans context limit world.trace ∧ Quiet added ∧
        ∀ message ∈ messages, MessageCovered scans context world.trace message)
      (Fails scans context limit) := by
  apply (spec_check sound).bind
  intro _
  apply Program.Spec.pure
  intro world h
  obtain ⟨added, grown, sound', quiet, passed⟩ := h
  refine ⟨added, grown, sound', quiet, fun message mem => ?_⟩
  rw [List.mem_singleton.mp mem, grown]
  exact ⟨rfl, passed.append_right⟩

/-- Where a conversation failed on a leak, the failed scan is the only one and its record the end. -/
lemma stopped_of_leak {before later earlier : List Event} {subject' : Subject} {leak leak' : Leak}
    (clean : Clean scans before) (found : scans.verdict subject = .error leak)
    (same : before ++ .scan subject :: blockedRecord scans subject leak = earlier ++ .scan subject' :: later)
    (found' : scans.verdict subject' = .error leak') :
    later = blockedRecord scans subject' leak' ∧ leak = leak' := by
  have not_before : .scan subject' ∉ before := by
    intro mem
    rw [clean subject' mem] at found'
    cases found'
  have not_after : .scan subject' ∉ blockedRecord scans subject leak := by
    rw [blockedRecord]
    split
    · simp
    · simp
  obtain ⟨w, e, e'⟩ | ⟨w, e, e'⟩ := List.append_eq_append_iff.mp same
  · cases w with
    | nil =>
      cases e'
      rw [found] at found'
      cases found'
      exact ⟨rfl, rfl⟩
    | cons x w =>
      rw [List.cons_append] at e'
      obtain ⟨-, rest⟩ := List.cons.inj e'
      rw [rest] at not_after
      exact absurd (List.mem_append_right _ (List.mem_cons_self ..)) not_after
  · cases w with
    | nil =>
      cases e'
      rw [found] at found'
      cases found'
      exact ⟨rfl, rfl⟩
    | cons x w =>
      rw [List.cons_append] at e'
      obtain ⟨here, -⟩ := List.cons.inj e'
      rw [e, here] at not_before
      exact absurd (List.mem_append_right _ (List.mem_cons_self ..)) not_before

end ClientEngagement.Privacy
