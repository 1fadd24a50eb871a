import ClientEngagement.Agents.QueryTools
import ClientEngagement.Lib.DateTime
import ClientEngagement.Lib.FormatString
import ClientEngagement.Lib.Results

/-!
# Published prompts

Model of `validate_prompt_placeholders` (`agents/prompt_versioning.py`), which a template passes before it is
published, and of the builders that format it night after night: `build_plan_system_prompt` and
`build_choose_system_prompt` (`agents/agent_loop.py`), `build_choose_system_prompt` (`agents/action_agent.py`) and
`build_investigation_system_prompt` (`agents/intelligence.py`). The check looks at the names of the fields alone,
and not at a field without one. A template it accepts is formatted whatever the builder passes exactly when every
field is fillable (`renders_iff`); fields of a name alone are (`renders_of_bare`).
-/

namespace ClientEngagement.Prompts.Placeholders
open Format

/-! ## The check -/

def agentLoopPlan : String := "agent_loop_plan"
def agentLoopChoose : String := "agent_loop_choose"
def actionAgentChoose : String := "action_agent_choose"
def emailBaseInstructions : String := "email_base_instructions"
def smsBaseInstructions : String := "sms_base_instructions"
def intelligenceInvestigation : String := "intelligence_investigation"
def agentChat : String := "agent_chat"

/-- `PROMPT_PLACEHOLDERS`. -/
def promptPlaceholders : Dict String (List String) := .ofList [
  (agentLoopPlan, ["as_of"]),
  (agentLoopChoose, ["as_of", "plan_text", "groups", "menu", "tool_name"]),
  (actionAgentChoose, ["as_of", "title", "kind", "group_name", "client_count", "money", "why_now", "suggestion",
    "confidence", "confidence_reason", "avoid", "menu", "tool_name"]),
  (emailBaseInstructions, []),
  (smsBaseInstructions, []),
  (intelligenceInvestigation, ["as_of", "group_name", "question", "size_lines", "last_contact_line",
    "past_findings_lines", "waiting_on_a_person", "field_names", "measures"]),
  (agentChat, ["as_of", "question", "field_names", "measures"])]

/-- `FORMATTED_PROMPTS`. -/
def formattedPrompts : List String :=
  [agentLoopPlan, agentLoopChoose, actionAgentChoose, intelligenceInvestigation, agentChat]

inductive PromptValidationError where
  | notValid (error : String)
  | unknownPrompt (promptName : String)
  | mismatch (promptName : String) (missing unexpected : List String)
deriving DecidableEq

def templatePlaceholders (template : String) : Except PromptValidationError (List String) :=
  match parse template.toList with
  | .error error => .error (.notValid error)
  | .ok items => .ok (((fieldsOf items).map fun field => String.ofList field.name).filter (· ≠ "")).dedup

def validatePromptPlaceholders (promptName template : String) : Except PromptValidationError Unit :=
  match promptPlaceholders.get? promptName with
  | none => .error (.unknownPrompt promptName)
  | some expected =>
    if promptName ∉ formattedPrompts then .ok ()
    else
      (templatePlaceholders template).bind fun found =>
        let missing := expected.filter (· ∉ found)
        let extra := found.filter (· ∉ expected)
        if missing ≠ [] ∨ extra ≠ [] then .error (.mismatch promptName (sortBy id missing) (sortBy id extra))
        else .ok ()

/-! ## The builders -/

structure AgentPrompt where
  template : String
  version : ℤ

inductive PromptError where
  | missingPromptTemplate (promptName : String)
  /-- The error of `str.format`. -/
  | formatRaised

/-- What Python prints. -/
structure Printing (ω : Type*) extends Python ω where
  /-- An amount with its thousands separated and no decimals. -/
  amount : ℚ → String

structure CalendarDate where
  year : ℕ
  month : ℕ
  day : ℕ
  valid : (1 ≤ year ∧ year ≤ 9999) ∧ (1 ≤ month ∧ month ≤ 12) ∧ (1 ≤ day ∧ day ≤ daysInMonth year month)

def CalendarDate.isoformat (date : CalendarDate) : List Char :=
  paddedDigits 4 date.year ++ '-' :: (paddedDigits 2 date.month ++ '-' :: paddedDigits 2 date.day)

variable {ω : Type*}

def textOf (text : String) : Value ω := .text text.toList

def joined (separator : String) (lines : List String) : String := separator.intercalate lines

/-- A row of `agent_action_catalog`. -/
structure ActionRow where
  title : String
  who : String
  messageAngle : Option String := none

/-- The angle of an action that has one. -/
def ActionRow.angle (row : ActionRow) : Option String := row.messageAngle.filter (· ≠ "")

/-- The actions as the model reads them. -/
def menuOf (sends : String → String) (sendsNothing : String) (actions : Dict String ActionRow) : String :=
  joined "\n" ((sortBy Prod.fst actions.items).map fun (code, row) =>
    "- " ++ code ++ ": " ++ row.title ++ ". Who it is for: " ++ row.who ++ ". " ++
      row.angle.elim sendsNothing sends)

/-- `row.template.format(…)` of a published row. -/
def formatRow (p : Python ω) (promptName : String) (row : Option AgentPrompt) (values : Dict String (Value ω)) :
    Except PromptError (List Char × ℤ) :=
  match row with
  | none => .error (.missingPromptTemplate promptName)
  | some row =>
    match format p values row.template.toList with
    | none => .error .formatRaised
    | some text => .ok (text, row.version)

def planValues (asOf : CalendarDate) : Dict String (Value ω) := .ofList [("as_of", .text asOf.isoformat)]

def buildPlanSystemPrompt (p : Python ω) (row : Option AgentPrompt) (asOf : CalendarDate) :
    Except PromptError (List Char × ℤ) :=
  formatRow p agentLoopPlan row (planValues asOf)

namespace AgentLoop

def menu (actions : Dict String ActionRow) : String :=
  menuOf (fun angle => "Uses the angle '" ++ angle ++ "'.") "Sends nothing." actions

def chooseValues (actions : Dict String ActionRow) (candidateGroupNames : List String) (planText : String)
    (asOf : CalendarDate) : Dict String (Value ω) := .ofList [
  ("as_of", .text asOf.isoformat),
  ("plan_text", textOf planText),
  ("groups", textOf (joined ", " (sortBy id candidateGroupNames))),
  ("menu", textOf (menu actions)),
  ("tool_name", textOf "choose_action")]

def buildChooseSystemPrompt (p : Python ω) (row : Option AgentPrompt) (actions : Dict String ActionRow)
    (candidateGroupNames : List String) (planText : String) (asOf : CalendarDate) :
    Except PromptError (List Char × ℤ) :=
  formatRow p agentLoopChoose row (chooseValues actions candidateGroupNames planText asOf)

end AgentLoop

namespace ActionAgent

structure InsightBrief where
  kind : String
  title : String
  groupName : String
  /-- What the column holds. -/
  clientCount : {n : ℕ // n < 2 ^ 31}
  moneyTotalKes : Option ℚ
  confidence : String
  confidenceReason : String
  suggestion : String
  whyNow : String
  avoidSaying : Option String

def menu (actions : Dict String ActionRow) : String :=
  menuOf (fun angle => "Sends an email using the angle '" ++ angle ++ "'.") "Sends nothing to the client." actions

def money (p : Printing ω) (brief : InsightBrief) : String :=
  brief.moneyTotalKes.elim "an amount that was not recorded" fun money => "about " ++ p.amount money ++ " KES"

def avoid (brief : InsightBrief) : String :=
  (brief.avoidSaying.filter (· ≠ "")).getD "nothing in particular was named."

def chooseValues (p : Printing ω) (brief : InsightBrief) (actions : Dict String ActionRow) (asOf : CalendarDate) :
    Dict String (Value ω) := .ofList [
  ("as_of", .text asOf.isoformat),
  ("title", textOf brief.title),
  ("kind", textOf brief.kind),
  ("group_name", textOf brief.groupName),
  ("client_count", .number brief.clientCount.1),
  ("money", textOf (money p brief)),
  ("why_now", textOf brief.whyNow),
  ("suggestion", textOf brief.suggestion),
  ("confidence", textOf brief.confidence),
  ("confidence_reason", textOf brief.confidenceReason),
  ("avoid", textOf (avoid brief)),
  ("menu", textOf (menu actions)),
  ("tool_name", textOf "choose_response")]

/-- `results` is what the results of earlier runs read as. -/
def buildChooseSystemPrompt (p : Printing ω) (row : Option AgentPrompt) (brief : InsightBrief)
    (actions : Dict String ActionRow) (asOf : CalendarDate) (results : Option String) :
    Except PromptError (List Char × ℤ) :=
  (formatRow p.toPython actionAgentChoose row (chooseValues p brief actions asOf)).map fun (prompt, version) =>
    (results.elim prompt fun results => prompt ++ ['\n', '\n'] ++ results.toList, version)

end ActionAgent

namespace Intelligence

/-- The size of a group that has a filter. -/
structure GroupMembers where
  clientCount : ℕ
  fundCount : ℕ
  moneyTotalKes : ℚ
  definition : String

/-- The last thing proposed for a group. -/
structure LastContact where
  actionCode : String
  proposedAt : String
  includedCount : ℕ
  status : String

structure GroupBrief where
  name : String
  question : String
  members : Option GroupMembers := none
  lastContact : Option LastContact := none

structure PastFinding where
  title : String
  groupName : String
  state : String
  writtenOn : String

structure GatheredContext where
  asOf : CalendarDate
  briefs : List GroupBrief
  pastFindings : List PastFinding
  /-- Two counts of rows. -/
  waitingOnAPerson : {n : ℕ // n < 2 ^ 64}
  promptTemplate : String
  resultsText : String := ""

def groupSizesLine (context : GatheredContext) : String :=
  joined "\n" (context.briefs.filterMap fun brief => brief.members.map fun members =>
    "- " ++ brief.name ++ ": " ++ toString members.clientCount ++ " clients across " ++ toString members.fundCount ++
      " client funds")

def pastFindingsLines (context : GatheredContext) : String :=
  if context.pastFindings.isEmpty then "Nothing has been written down before this run."
  else joined "\n" (context.pastFindings.map fun finding =>
    "- " ++ finding.writtenOn ++ ", " ++ finding.groupName ++ ": " ++ finding.title ++ " (" ++ finding.state ++ ")")

def lastContactLine (brief : GroupBrief) : String :=
  brief.lastContact.elim "Nothing has ever been proposed for this group." fun contact =>
    "The last thing proposed for this group was " ++ contact.actionCode ++ " on " ++
      String.ofList (contact.proposedAt.toList.take 10) ++ ", covering " ++ toString contact.includedCount ++
      " clients, and it is " ++ contact.status ++ "."

def sizeLines (p : Printing ω) (brief : GroupBrief) (context : GatheredContext) : String :=
  match brief.members with
  | none =>
    "This group has no filter of its own. It is the whole book minus " ++
      "nothing, and it is where you may look for something none of the " ++
      "other groups would catch. Tonight's other groups are:\n" ++ groupSizesLine context
  | some members =>
    "It holds " ++ toString members.clientCount ++ " clients across " ++ toString members.fundCount ++
      " client funds, and about " ++ p.amount members.moneyTotalKes ++ " KES.\n" ++
      "The filter behind it: " ++ members.definition

def investigationValues (p : Printing ω) (brief : GroupBrief) (context : GatheredContext) :
    Dict String (Value ω) := .ofList [
  ("as_of", .text context.asOf.isoformat),
  ("group_name", textOf brief.name),
  ("question", textOf brief.question),
  ("size_lines", textOf (sizeLines p brief context)),
  ("last_contact_line", textOf (lastContactLine brief)),
  ("past_findings_lines", textOf (pastFindingsLines context)),
  ("waiting_on_a_person", .number context.waitingOnAPerson.1),
  ("field_names", textOf (joined ", " (Agents.Query.fields.map Agents.Query.FieldSpec.name))),
  ("measures", textOf (joined ", " (Agents.Query.allMeasures.map Agents.Query.Measure.text)))]

def buildInvestigationSystemPrompt (p : Printing ω) (brief : GroupBrief) (context : GatheredContext) :
    Except PromptError (List Char) :=
  match format p.toPython (investigationValues p brief context) context.promptTemplate.toList with
  | none => .error .formatRaised
  | some prompt =>
    .ok (if context.resultsText = "" then prompt else prompt ++ ['\n', '\n'] ++ context.resultsText.toList)

end Intelligence

/-! ## What is promised -/

/-- The prompts a builder formats. -/
inductive FormattedPrompt where
  | plan | choose | actionChoose | investigation
deriving DecidableEq

def FormattedPrompt.promptName : FormattedPrompt → String
  | plan => agentLoopPlan
  | choose => agentLoopChoose
  | actionChoose => actionAgentChoose
  | investigation => intelligenceInvestigation

/-- The builder of a prompt formats a template whatever it is called with. -/
def Renders (p : Printing ω) (template : String) : FormattedPrompt → Prop
  | .plan => ∀ version asOf, ∃ out, buildPlanSystemPrompt p.toPython (some ⟨template, version⟩) asOf = .ok out
  | .choose => ∀ version actions candidateGroupNames planText asOf, ∃ out,
      AgentLoop.buildChooseSystemPrompt p.toPython (some ⟨template, version⟩) actions candidateGroupNames planText
        asOf = .ok out
  | .actionChoose => ∀ version brief actions asOf results, ∃ out,
      ActionAgent.buildChooseSystemPrompt p (some ⟨template, version⟩) brief actions asOf results = .ok out
  | .investigation => ∀ (brief : Intelligence.GroupBrief) (context : Intelligence.GatheredContext), ∃ out,
      Intelligence.buildInvestigationSystemPrompt p brief { context with promptTemplate := template } = .ok out

/-- What the builder of a prompt passes. -/
def Passes (p : Printing ω) : FormattedPrompt → Dict String (Value ω) → Prop
  | .plan, values => ∃ asOf, values = planValues asOf
  | .choose, values => ∃ actions candidateGroupNames planText asOf,
      values = AgentLoop.chooseValues actions candidateGroupNames planText asOf
  | .actionChoose, values => ∃ brief actions asOf, values = ActionAgent.chooseValues p brief actions asOf
  | .investigation, values => ∃ brief context, values = Intelligence.investigationValues p brief context

/-- A field has a name and a conversion there is, and its spec, with what is nested in it filled in, is one the value
    takes. -/
structure Fillable (p : Printing ω) (prompt : FormattedPrompt) (field : Field) : Prop where
  named : field.name ≠ []
  known : ∀ c ∈ field.conversion, c ∈ conversions
  takes : ∀ values, Passes p prompt values → ∀ value, values.get? (String.ofList field.name) = some value →
    ∃ spec, Expands p.toPython values field.spec spec ∧
      Takes p.toPython (converted p.toPython field.conversion value) spec

variable {p : Printing ω} {prompt : FormattedPrompt} {template : String} {values : Dict String (Value ω)}
  {field : Field} {items : List Markup} {name : String}

/-! ## What is passed -/

lemma formatRow_ok {promptName : String} {version : ℤ} :
    (∃ out, formatRow p.toPython promptName (some ⟨template, version⟩) values = .ok out) ↔
      ∃ text, format p.toPython values template.toList = some text := by
  rw [formatRow]
  cases format p.toPython values template.toList with
  | none => exact ⟨nofun, nofun⟩
  | some text => exact ⟨fun _ => ⟨text, rfl⟩, fun _ => ⟨_, rfl⟩⟩

/-- A builder formats a template exactly when whatever it passes does. -/
lemma renders_iff_format : Renders p template prompt ↔
    ∀ values, Passes p prompt values → ∃ text, format p.toPython values template.toList = some text := by
  cases prompt with
  | plan =>
    constructor
    · rintro renders values ⟨asOf, rfl⟩
      exact formatRow_ok.mp (renders 1 asOf)
    · exact fun formats version asOf => formatRow_ok.mpr (formats _ ⟨asOf, rfl⟩)
  | choose =>
    constructor
    · rintro renders values ⟨actions, names, planText, asOf, rfl⟩
      exact formatRow_ok.mp (renders 1 actions names planText asOf)
    · exact fun formats version actions names planText asOf =>
        formatRow_ok.mpr (formats _ ⟨actions, names, planText, asOf, rfl⟩)
  | actionChoose =>
    constructor
    · rintro renders values ⟨brief, actions, asOf, rfl⟩
      obtain ⟨out, made⟩ := renders 1 brief actions asOf none
      obtain ⟨prompt, formatted, -⟩ := map_eq_ok.mp made
      exact formatRow_ok.mp ⟨prompt, formatted⟩
    · intro formats version brief actions asOf results
      obtain ⟨prompt, formatted⟩ := formatRow_ok.mpr (formats _ ⟨brief, actions, asOf, rfl⟩)
      exact ⟨_, map_eq_ok.mpr ⟨prompt, formatted, rfl⟩⟩
  | investigation =>
    constructor
    · rintro renders values ⟨brief, context, rfl⟩
      obtain ⟨out, made⟩ := renders brief context
      rw [Intelligence.buildInvestigationSystemPrompt] at made
      split at made
      · cases made
      · rename_i text formatted
        exact ⟨text, formatted⟩
    · intro formats brief context
      obtain ⟨text, formatted⟩ := formats _ ⟨brief, { context with promptTemplate := template }, rfl⟩
      rw [Intelligence.buildInvestigationSystemPrompt, formatted]
      exact ⟨_, rfl⟩

/-- The names of a prompt. -/
def FormattedPrompt.placeholders (prompt : FormattedPrompt) : List String :=
  (promptPlaceholders.get? prompt.promptName).getD []

lemma keys_ofList_names {l : List (String × Value ω)} {names : List String} (same : l.map Prod.fst = names)
    (nodup : names.Nodup) : (Dict.ofList l).keys = names := by
  rw [Dict.keys_ofList (same ▸ nodup), same]

/-- A builder passes the names of its prompt. -/
lemma keys_of_passes (passes : Passes p prompt values) : values.keys = prompt.placeholders := by
  cases prompt with
  | plan =>
    obtain ⟨asOf, rfl⟩ := passes
    exact keys_ofList_names rfl (by decide)
  | choose =>
    obtain ⟨actions, names, planText, asOf, rfl⟩ := passes
    exact keys_ofList_names rfl (by decide)
  | actionChoose =>
    obtain ⟨brief, actions, asOf, rfl⟩ := passes
    exact keys_ofList_names rfl (by decide)
  | investigation =>
    obtain ⟨brief, context, rfl⟩ := passes
    exact keys_ofList_names rfl (by decide)

lemma exists_passes (p : Printing ω) (prompt : FormattedPrompt) : ∃ values, Passes p prompt values := by
  have asOf : CalendarDate := ⟨2026, 1, 1, by decide⟩
  cases prompt with
  | plan => exact ⟨_, asOf, rfl⟩
  | choose => exact ⟨_, .empty, [], "", asOf, rfl⟩
  | actionChoose =>
    exact ⟨_, ⟨"", "", "", ⟨0, by decide⟩, none, "", "", "", "", none⟩, .empty, asOf, rfl⟩
  | investigation => exact ⟨_, ⟨"", "", none, none⟩, ⟨asOf, [], [], ⟨0, by decide⟩, "", ""⟩, rfl⟩

/-! ## What is accepted -/

lemma get?_placeholders : promptPlaceholders.get? prompt.promptName = some prompt.placeholders := by
  cases prompt <;> decide

lemma plain_placeholders : ∀ name ∈ prompt.placeholders, isPlain name.toList = true := by
  cases prompt <;> decide

/-- The fields of an accepted template that have a name have one of the prompt's. -/
lemma accepted_fields (accepted : validatePromptPlaceholders prompt.promptName template = .ok ()) :
    (∃ items, parse template.toList = .ok items) ∧
      ∀ field ∈ fieldsIn template.toList, field.name ≠ [] → String.ofList field.name ∈ prompt.placeholders := by
  have formatted : prompt.promptName ∈ formattedPrompts := by
    cases prompt <;> decide
  rw [validatePromptPlaceholders, get?_placeholders] at accepted
  dsimp only at accepted
  rw [if_neg (not_not.mpr formatted), bind_eq_ok] at accepted
  obtain ⟨found, read, same⟩ := accepted
  rw [templatePlaceholders] at read
  cases split : parse template.toList with
  | error error =>
    rw [split] at read
    cases read
  | ok items =>
    rw [split] at read
    cases read
    refine ⟨⟨items, rfl⟩, fun field mem named => ?_⟩
    rw [fieldsIn, split] at mem
    generalize found : (((fieldsOf items).map fun field => String.ofList field.name).filter (· ≠ "")).dedup = names
      at same
    have listed : String.ofList field.name ∈ names := by
      rw [← found, List.mem_dedup, List.mem_filter]
      refine ⟨List.mem_map.mpr ⟨field, mem, rfl⟩, decide_eq_true fun empty => named ?_⟩
      rw [← String.toList_ofList (l := field.name), empty]
      rfl
    by_contra other
    have extra : String.ofList field.name ∈ names.filter (· ∉ prompt.placeholders) :=
      List.mem_filter.mpr ⟨listed, decide_eq_true other⟩
    rw [if_pos (.inr (List.ne_nil_of_mem extra))] at same
    cases same

/-- A named field of an accepted template finds its value. -/
lemma fieldObject_of_passes (passes : Passes p prompt values) (named : String.ofList field.name ∈ prompt.placeholders) :
    ∃ value, values.get? (String.ofList field.name) = some value ∧
      fieldObject p.toPython values field.name = some value := by
  have plain := plain_placeholders _ named
  rw [String.toList_ofList] at plain
  rw [← keys_of_passes passes] at named
  obtain ⟨value, found⟩ := (Dict.mem_keys_iff _).mp named
  exact ⟨value, found, (fieldObject_plain plain).trans found⟩

lemma formats_iff_fillable (accepted : validatePromptPlaceholders prompt.promptName template = .ok ()) :
    (∀ values, Passes p prompt values → ∃ text, format p.toPython values template.toList = some text) ↔
      ∀ field ∈ fieldsIn template.toList, Fillable p prompt field := by
  obtain ⟨⟨items, split⟩, names⟩ := accepted_fields accepted
  have fields : fieldsIn template.toList = fieldsOf items := by
    rw [fieldsIn, split]
    rfl
  constructor
  · intro formats field mem
    have fits : ∀ values, Passes p prompt values → Fits p.toPython values field := fun values passes =>
      (format_iff split).mp (formats values passes) field (fields ▸ mem)
    obtain ⟨values, passes⟩ := exists_passes p prompt
    have named : field.name ≠ [] := by
      intro empty
      obtain ⟨_, _, found, -⟩ := (fits values passes).takes
      rw [empty, fieldObject_nil] at found
      cases found
    refine ⟨named, (fits values passes).known, fun values passes value given => ?_⟩
    obtain ⟨value', found, same⟩ := fieldObject_of_passes passes (names field mem named)
    obtain ⟨object, spec, reached, expands, takes⟩ := (fits values passes).takes
    cases found.symm.trans given
    cases reached.symm.trans same
    exact ⟨spec, expands, takes⟩
  · intro fillable values passes
    refine (format_iff split).mpr fun field mem => ?_
    rw [← fields] at mem
    have fills := fillable field mem
    obtain ⟨value, given, found⟩ := fieldObject_of_passes passes (names field mem fills.named)
    obtain ⟨spec, expands, takes⟩ := fills.takes values passes value given
    exact ⟨fills.known, value, spec, found, expands, takes⟩

/-- What is passed is a text or a number. -/
lemma own_of_passes {value : Value ω} (passes : Passes p prompt values) (given : values.get? name = some value) :
    value.isOwn = true := by
  have listed : ∀ l : List (String × Value ω), (l.all fun entry => entry.2.isOwn) = true →
      (Dict.ofList l).get? name = some value → value.isOwn = true := fun l own found =>
    List.all_eq_true.mp own _ (Dict.mem_of_get?_ofList found)
  cases prompt with
  | plan =>
    obtain ⟨asOf, rfl⟩ := passes
    exact listed _ rfl given
  | choose =>
    obtain ⟨actions, names, planText, asOf, rfl⟩ := passes
    exact listed _ rfl given
  | actionChoose =>
    obtain ⟨brief, actions, asOf, rfl⟩ := passes
    exact listed _ rfl given
  | investigation =>
    obtain ⟨brief, context, rfl⟩ := passes
    exact listed _ rfl given

/-- A template whose fields are a name each, and perhaps a conversion, is formatted whatever the builder passes. -/
theorem renders_of_bare (accepted : validatePromptPlaceholders prompt.promptName template = .ok ())
    (bare : ∀ field ∈ fieldsIn template.toList, field.name ≠ [] ∧ field.spec = [] ∧
      ∀ c ∈ field.conversion, c ∈ conversions) : Renders p template prompt := by
  refine renders_iff_format.mpr ((formats_iff_fillable accepted).mpr fun field mem => ?_)
  obtain ⟨named, spec, known⟩ := bare field mem
  refine ⟨named, known, fun values passes value given => ⟨[], ?_, ?_⟩⟩
  · rw [spec]
    exact .flat List.not_mem_nil
  · exact takes_nil (own_of_passes passes given)

/-- A template that is accepted is formatted, whatever the builder passes, exactly when each of its fields is
    fillable. -/
theorem renders_iff (p : Printing ω) (prompt : FormattedPrompt) (template : String)
    (accepted : validatePromptPlaceholders prompt.promptName template = .ok ()) :
    Renders p template prompt ↔ ∀ field ∈ fieldsIn template.toList, Fillable p prompt field :=
  renders_iff_format.trans (formats_iff_fillable accepted)

/-- The characters and numbers of ASCII. -/
def asciiPrinting : Printing Empty where
  decimal := fun c => if c.isDigit then some (c.toNat - 48) else none
  decimal_alpha := fun c alpha => by
    refine if_neg fun digit => ?_
    simp only [Char.isAlpha, Char.isUpper, Char.isLower, Char.isDigit, Bool.or_eq_true, Bool.and_eq_true,
      decide_eq_true_eq, ge_iff_le, UInt32.le_iff_toNat_le, Char.reduceVal, UInt32.reduceToNat] at alpha digit
    omega
  numeral := fun _ n => (toString n).toList
  str := Empty.elim
  repr
    | .text text => '\'' :: text ++ ['\'']
    | .number n => (toString n).toList
  ascii
    | .text text => '\'' :: text ++ ['\'']
    | .number n => (toString n).toList
  reach := fun value path => if path = [] then some value else none
  reach_nil := fun _ => rfl
  formatObject := Empty.elim
  amount := fun amount => String.ofList (groupedDigits (round amount).toNat)

/-- The date alone. -/
theorem renders_iff_date : Renders asciiPrinting "\x7bas_of\x7d" .plan := by
  refine (renders_iff asciiPrinting .plan "\x7bas_of\x7d" (by decide)).mpr fun field mem => ?_
  have fields : fieldsIn "\x7bas_of\x7d".toList = [{ name := "as_of".toList }] := by decide
  rw [fields, List.mem_singleton] at mem
  subst mem
  refine ⟨by decide, nofun, fun values passes value given => ⟨[], .flat List.not_mem_nil, ?_⟩⟩
  exact takes_nil (own_of_passes passes given)

/-- A pair of empty braces beside the date is accepted, and no night's prompt can be formatted. -/
theorem empty_braces_raise : validatePromptPlaceholders agentLoopPlan "\x7bas_of\x7d\x7b\x7d" = .ok () ∧
    ¬ Renders asciiPrinting "\x7bas_of\x7d\x7b\x7d" .plan := by
  refine ⟨by decide, fun renders => ?_⟩
  obtain ⟨text, formatted⟩ := renders_iff_format.mp renders _ ⟨⟨2026, 1, 1, by decide⟩, rfl⟩
  have raised : format asciiPrinting.toPython (planValues ⟨2026, 1, 1, by decide⟩)
      "\x7bas_of\x7d\x7b\x7d".toList = none := by
    decide
  rw [raised] at formatted
  cases formatted

end ClientEngagement.Prompts.Placeholders
