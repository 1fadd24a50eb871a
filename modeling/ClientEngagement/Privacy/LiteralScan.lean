import ClientEngagement.Privacy.Boundary

/-!
# What the literal scan finds

The outbound scan looks for an identifier in a text that was rewritten first: a tool input or output
is rendered as JSON, placeholders and public contact numbers are blanked out, and everything is
lower-cased. `Exposes` and `ExposesNested` say where an occurrence survives that: outside every
placeholder and public number and, inside a JSON value, spelt with characters that JSON text writes
as they are. `literal_scan_complete` shows that the scans raise on all of these.

`identifier_escapes_scan` is what gets through otherwise: a name with an accent in a tool input, and
a part of a placeholder.
-/

namespace ClientEngagement.Privacy

variable {σ ε : Type}

/-- The expressions whose matches are blanked out, in order. -/
def blankedOut (settings : ScanSettings) : List (Regex Char) :=
  placeholderPattern :: settings.publicContactNumbers.map publicContactPattern

/-- The text `w` between `a` and `b` is the identifier, case aside, at a place that is not blanked
    out. A capital sigma is lower-cased by its neighbours and is left out. -/
structure FoundAt (settings : ScanSettings) (identifier : String) (a w b : List Char) : Prop where
  long : 2 ≤ identifier.toList.length
  sameText : w.flatMap settings.tables.lower = identifier.toList.flatMap settings.tables.lower
  noSigma : 'Σ' ∉ identifier.toList ∧ 'Σ' ∉ w
  spared : Regex.Spared [' '] (blankedOut settings) a w b

/-- An identifier occurs in a text. -/
def Exposes (settings : ScanSettings) (identifiers : List String) (text : List Char) : Prop :=
  ∃ identifier ∈ identifiers, ∃ a w b, text = a ++ w ++ b ∧ FoundAt settings identifier a w b

/-- An identifier occurs in a string nested in a value, where the rendered value quotes it. -/
def ExposesNested (settings : ScanSettings) (identifiers : List String) (value : Json)
    (rendered : List Char) : Prop :=
  ∃ identifier ∈ identifiers, ∃ text, Json.Nested text value ∧ ∃ before after a w b,
    rendered = before ++ quote text.toList ++ after ∧ text.toList = a ++ w ++ b ∧
      (∀ c ∈ w, writtenPlain c = true) ∧
      FoundAt settings identifier (before ++ (['"'] ++ a.flatMap escapeChar)) w
        ((b.flatMap escapeChar ++ ['"']) ++ after)

variable {settings : ScanSettings} {identifiers : List String} {scans : ConversationScans}

/-- What is quoted in a rendering is a part of it. -/
lemma ExposesNested.exposes {value : Json} {rendered : List Char}
    (h : ExposesNested settings identifiers value rendered) :
    Exposes settings identifiers rendered := by
  obtain ⟨identifier, mem, text, -, before, after, a, w, b, whole, parts, plain, found⟩ := h
  refine ⟨identifier, mem, _, w, _, ?_, found⟩
  rw [whole, parts, quote_infix plain]
  simp only [List.append_assoc]

/-- A tool input quotes every string nested in it, so an occurrence in one has a place in the
    rendered text. -/
lemma quoted_in_renderedInput {input : Dict String Json} {text : String}
    (h : Json.Nested text (.obj input.items)) :
    ∃ before after, renderedInput settings input = before ++ quote text.toList ++ after := by
  have inside : quote text.toList <:+: (Json.obj input.items).sortKeys.dumps settings.number :=
    quote_nested h.sortKeys
  obtain ⟨before, after, e⟩ := inside
  exact ⟨before, after, e.symm⟩

/-- An exposed identifier is a reason to block. -/
lemma literalReasons_of_exposes {text : List Char} (h : Exposes settings identifiers text) :
    literalReasons settings.tables (scannedText settings text) identifiers ≠ [] := by
  obtain ⟨identifier, mem, a, w, b, rfl, found⟩ := h
  obtain ⟨a', b', rewritten⟩ := found.spared.infix
  obtain ⟨a'', b'', lowered⟩ : ∃ a'' b'', lower settings.tables (a' ++ w ++ b') =
      a'' ++ lower settings.tables w ++ b'' := lower_infix found.noSigma.2
  have there : lower settings.tables identifier.toList <:+:
      lower settings.tables (scannedText settings (a ++ w ++ b)) := by
    have scanned : scannedText settings (a ++ w ++ b) = a' ++ w ++ b' := rewritten
    rw [scanned, lowered, lower_plain found.noSigma.1, ← found.sameText, ← lower_plain found.noSigma.2]
    exact List.infix_append _ _ _
  have hit : identifier ∈ identifiers.filter fun value => 2 ≤ value.toList.length &&
      occursIn (lower settings.tables value.toList)
        (lower settings.tables (scannedText settings (a ++ w ++ b))) := by
    rw [List.mem_filter, Bool.and_eq_true, decide_eq_true_eq, occursIn, decide_eq_true_eq]
    exact ⟨mem, found.long, there⟩
  rw [literalReasons, Ne, List.map_eq_nil_iff]
  exact List.ne_nil_of_mem hit

/-- A draft that exposes an identifier is blocked. -/
lemma scanOutbound_of_exposes {text : List Char} (h : Exposes settings identifiers text) :
    ∃ reason, scanOutbound settings text identifiers = .error (.outbound reason) := by
  rw [scanOutbound, if_neg]
  · exact ⟨_, rfl⟩
  · intro none_found
    exact literalReasons_of_exposes h (List.append_eq_nil_iff.mp none_found).2

/-- The outbound scan raises nothing but outbound leaks. -/
lemma scanOutbound_eq (settings : ScanSettings) (identifiers : List String) (text : List Char) :
    scanOutbound settings text identifiers = .ok () ∨
      ∃ reason, scanOutbound settings text identifiers = .error (.outbound reason) := by
  rw [scanOutbound]
  split
  · exact .inl rfl
  · exact .inr ⟨_, rfl⟩

/-! ## The scans of a turn -/

/-- A check that fails raises its leak. -/
lemma check_of_error {subject : Subject} {leak : Leak} (h : scans.verdict subject = .error leak)
    (world : World σ) :
    ((scans.check subject : Conversation σ ε Unit) world).1 = .error (.leak leak) := by
  have raised : (scans.check subject : Conversation σ ε Unit) = emit (.scan subject) >>= fun _ =>
      scans.record (scans.auditOf subject .blocked (some leak.reason)) >>= fun _ =>
        Program.raise (.leak leak) := by
    rw [ConversationScans.check, h]
  rw [raised, ConversationScans.record]
  split
  · rfl
  · rfl

/-- A check that passes returns. -/
lemma check_of_ok {subject : Subject} (h : scans.verdict subject = .ok ()) (world : World σ) :
    ((scans.check subject : Conversation σ ε Unit) world).1 = .ok () := by
  have passed : (scans.check subject : Conversation σ ε Unit) = emit (.scan subject) >>= fun _ =>
      scans.record (scans.auditOf subject .pass none) := by
    rw [ConversationScans.check, h]
  rw [passed, ConversationScans.record]
  split
  · rfl
  · rfl

/-- Whether what comes first raises or what follows does, the two in sequence raise. -/
lemma raises_bind {α β : Type} {x : Conversation σ ε α} {f : α → Conversation σ ε β} {world : World σ}
    (first : (∃ a, (x world).1 = .ok a) ∨ ∃ reason, (x world).1 = .error (.leak (.outbound reason)))
    (rest : ∀ a, (x world).1 = .ok a → ∀ t, ∃ reason, (f a t).1 = .error (.leak (.outbound reason))) :
    ∃ reason, ((x >>= f) world).1 = .error (.leak (.outbound reason)) := by
  cases ran : x world with
  | mk result last =>
    rw [ran] at first rest
    cases result with
    | ok a =>
      obtain ⟨reason, h⟩ := rest a rfl last
      refine ⟨reason, ?_⟩
      rw [Program.bind_ok ran]
      exact h
    | error failure =>
      cases first with
      | inl ok =>
        obtain ⟨a, e⟩ := ok
        cases e
      | inr leaked =>
        obtain ⟨reason, e⟩ := leaked
        refine ⟨reason, ?_⟩
        show (Program.andThen x f world).1 = _
        rw [Program.andThen, ran]
        dsimp only
        cases e
        rfl

/-- An outbound check returns or raises an outbound leak. -/
lemma check_outbound {subject : Subject} {text : List Char}
    (outbound : scans.verdict subject = scanOutbound scans.settings text scans.identifiers)
    (world : World σ) : (∃ u, ((scans.check subject : Conversation σ ε Unit) world).1 = .ok u) ∨
      ∃ reason, ((scans.check subject : Conversation σ ε Unit) world).1 =
        .error (.leak (.outbound reason)) := by
  cases scanOutbound_eq scans.settings scans.identifiers text with
  | inl ok => exact .inl ⟨(), check_of_ok (outbound.trans ok) world⟩
  | inr leaked =>
    obtain ⟨reason, e⟩ := leaked
    exact .inr ⟨reason, check_of_error (outbound.trans e) world⟩

/-- One exposed input is enough to stop a turn. -/
lemma checkInputs_of_exposes {requests : List ToolRequest} {request : ToolRequest}
    (mem : request ∈ requests)
    (h : Exposes scans.settings scans.identifiers (renderedInput scans.settings request.toolInput))
    (world : World σ) : ∃ reason, ((scans.checkInputs requests : Conversation σ ε Unit) world).1 =
      .error (.leak (.outbound reason)) := by
  induction requests generalizing world with
  | nil => cases mem
  | cons first requests ih =>
    rw [ConversationScans.checkInputs]
    apply raises_bind (check_outbound rfl world)
    intro _ passed t
    cases List.mem_cons.mp mem with
    | inl same =>
      subst same
      obtain ⟨reason, e⟩ := scanOutbound_of_exposes h
      have leaks : scans.verdict (.toolInput request.toolName request.toolInput) =
          .error (.outbound reason) := e
      rw [check_of_error leaks] at passed
      cases passed
    | inr later => exact ih later t

/-- The scans raise whenever an identifier is exposed in a draft, in the text of a turn, in a string
    nested in one of its tool inputs, or in a tool output. -/
theorem literal_scan_complete (scans : ConversationScans) :
    (∀ draft, Exposes scans.settings scans.identifiers draft →
      ∃ reason, scanOutbound scans.settings draft scans.identifiers = .error (.outbound reason)) ∧
    (∀ (turn : Turn) (world : World σ),
      (Exposes scans.settings scans.identifiers turn.text.toList ∨ ∃ request ∈ turn.toolRequests,
        ExposesNested scans.settings scans.identifiers (.obj request.toolInput.items)
          (renderedInput scans.settings request.toolInput)) →
      ∃ reason, ((scans.checkTurn turn : Conversation σ ε Unit) world).1 =
        .error (.leak (.outbound reason))) ∧
    ∀ (request : ToolRequest) (output : Json) (world : World σ),
      (match output with
        | .str text => Exposes scans.settings scans.identifiers text.toList
        | value => ExposesNested scans.settings scans.identifiers value
          (value.dumps scans.settings.number)) →
      ∃ reason, ((scans.toolOutput request output : Conversation σ ε Block) world).1 =
        .error (.leak (.outbound reason)) := by
  refine ⟨fun _ => scanOutbound_of_exposes, fun turn world h => ?_, fun request output world h => ?_⟩
  · rw [ConversationScans.checkTurn]
    apply raises_bind (check_outbound rfl world)
    intro _ passed t
    cases h with
    | inl text =>
      obtain ⟨reason, e⟩ := scanOutbound_of_exposes text
      have leaks : scans.verdict (.turnText turn.text) = .error (.outbound reason) := e
      rw [check_of_error leaks] at passed
      cases passed
    | inr input =>
      obtain ⟨request, mem, exposed⟩ := input
      exact checkInputs_of_exposes mem exposed.exposes t
  · have exposed : Exposes scans.settings scans.identifiers
        (toolResultContent scans.settings output) := by
      cases output with
      | str text => exact h
      | null => exact ExposesNested.exposes h
      | bool value => exact ExposesNested.exposes h
      | num value => exact ExposesNested.exposes h
      | arr items => exact ExposesNested.exposes h
      | obj fields => exact ExposesNested.exposes h
    obtain ⟨reason, e⟩ := scanOutbound_of_exposes exposed
    rw [ConversationScans.toolOutput]
    have subject : scans.verdict (.toolOutput request.toolName
        (toolResultContent scans.settings output)) = .error (.outbound reason) := e
    apply raises_bind (.inr ⟨reason, check_of_error subject world⟩)
    intro _ passed
    rw [check_of_error subject] at passed
    cases passed

/-! ## What gets through -/

/-- Settings for ASCII texts, with no public contact numbers. -/
def asciiSettings : ScanSettings where
  tables := .ascii
  lax := fun _ _ => none
  repr := fun _ => ""
  number := fun _ => []
  validationText := fun _ => ""
  publicContactNumbers := []
  digitsOnly := fun _ h => by cases h

/-- The scans of a conversation about one client. -/
def scansFor (identifier : String) : ConversationScans where
  settings := asciiSettings
  identifiers := [identifier]
  entityId := none
  runId := none
  traceId := none
  audited := false

/-- The scans of a draft that names the client raise. -/
theorem literal_scan_complete_sample :
    ∃ reason, scanOutbound asciiSettings "Dear jane".toList ["Jane"] = .error (.outbound reason) := by
  apply (literal_scan_complete (σ := Unit) (ε := Unit) (scansFor "Jane")).1
  refine ⟨"Jane", .head _, "Dear ".toList, "jane".toList, [], rfl, by decide, rfl, by decide, ?_⟩
  exact ⟨"Dear ".toList.map .kept, [], rfl, rfl, trivial⟩

/-- A draft whose placeholder holds an identifier, and a turn whose tool input holds one with an
    accent, pass the scans. -/
theorem identifier_escapes_scan :
    ("name".toList <:+: "Dear \x7b\x7bname\x7d\x7d".toList ∧
      scanOutbound asciiSettings "Dear \x7b\x7bname\x7d\x7d".toList ["name"] = .ok ()) ∧
    Json.Nested "José" (.obj [("q", .str "José")]) ∧
    (((scansFor "José").checkTurn ⟨"", [⟨"1", "search", ⟨[("q", .str "José")], by decide⟩⟩]⟩ :
      Conversation Unit Unit Unit) ⟨(), []⟩).1 = .ok () := by
  refine ⟨⟨by decide, rfl⟩, ?_, rfl⟩
  exact .value (.head _) .here

end ClientEngagement.Privacy
