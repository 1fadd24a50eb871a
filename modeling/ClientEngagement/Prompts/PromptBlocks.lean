import ClientEngagement.Prompts.SystemPrompt

/-!
# Prompts in two blocks

Model of `build_system_prompt_blocks` (`agents/email_agent.py`), which puts what all clients of an angle share
before what is the client's own, so that the provider can cache the first part, and of
`build_sms_system_prompt` (`agents/sms_agent.py`).

The cached block is the prompt of a client without facts (`cached_eq_buildSystemPrompt`). The two blocks
together say what `buildSystemPrompt` says: they have its lines in another order, and a heading for the
prohibitions that moved (`lines_blocks`).
-/

namespace ClientEngagement.Prompts

/-- `SystemPromptBlocks`. -/
structure SystemPromptBlocks where
  cached : List Char
  dynamic : List Char

/-- The two blocks as one prompt. -/
def SystemPromptBlocks.text (blocks : SystemPromptBlocks) : List Char :=
  if blocks.dynamic = [] then blocks.cached else blocks.cached ++ "\n\n".toList ++ blocks.dynamic

/-- What says that the figures of the client come with the prompt. -/
def figuresSections (facts : Dict String Json) : List (List Char) :=
  if facts.items = [] then []
  else [("The client's own figures are given in the user message. Use only those, exactly as " ++
    "written, and omit any claim you have no fact for.").toList]

def angleSection (brief : Option Rules.AngleBrief) (angle : String) : List Char :=
  match brief with
  | some brief => (briefBlock brief).toList
  | none => "Angle: ".toList ++ (if angle = "" then "winback" else angle).toList

def citeSection (chunks : List String) : List Char :=
  "Facts you may cite (only these, verbatim):\n".toList ++ renderFacts chunks

/-- The sections of the block that clients share; the facts of `parts` are not read. -/
def cachedSections (parts : PromptParts) (angle : String) (extraProhibitions : List String) : List (List Char) :=
  let shared : PromptParts := { core := parts.core, brief := parts.brief }
  [(templateText shared).toList] ++ [angleSection parts.brief angle] ++
    (parts.contract.map fun contract => (contractBlock contract).toList).toList ++
    ["You must never:\n".toList ++ prohibitionsBlock shared extraProhibitions] ++ [citeSection parts.chunks]

/-- The sections of the block that is the client's own. -/
def dynamicSections (facts : Dict String Json) : List (List Char) :=
  (if conditionalProhibitions facts = [] then []
    else ["This client also must never:\n".toList ++
      separated ['\n'] ((conditionalProhibitions facts).map bullet)]) ++
  figuresSections facts

/-- `build_system_prompt_blocks`. -/
def buildSystemPromptBlocks (parts : PromptParts) (angle : String) (extraProhibitions : List String) :
    SystemPromptBlocks where
  cached := separated "\n\n".toList (cachedSections parts angle extraProhibitions)
  dynamic := separated "\n\n".toList (dynamicSections parts.facts)

/-- The sections of an SMS prompt: no contract, no sign off and no guidance for a variant. -/
def smsPromptSections (parts : PromptParts) (angle : String) (extraProhibitions : List String) :
    List (List Char) :=
  [(parts.core ++ bannedWordsClause parts.safetyWords ++ bannedPhrasesClause parts.safetyPhrases).toList] ++
    (parts.outputRules.map String.toList).toList ++ [angleSection parts.brief angle] ++
    ["You must never:\n".toList ++ prohibitionsBlock parts extraProhibitions] ++
    figuresSections parts.facts ++ [citeSection parts.chunks]

/-- `build_sms_system_prompt`. -/
def buildSmsSystemPrompt (parts : PromptParts) (angle : String) (extraProhibitions : List String) : List Char :=
  separated "\n\n".toList (smsPromptSections parts angle extraProhibitions)

/-! ## The lines of a prompt -/

lemma separated_cons (separator a b : List Char) (rest : List (List Char)) :
    separated separator (a :: b :: rest) = a ++ separator ++ separated separator (b :: rest) := rfl

def textLines (text : List Char) : List (List Char) := text.splitOn '\n'

lemma textLines_append (a b : List Char) : textLines (a ++ '\n' :: b) = textLines a ++ textLines b := by
  rw [textLines, textLines, textLines, List.splitOn_eq_splitOnP]
  exact List.splitOnP_append_cons _ _ (by decide)

/-- Sections stand on lines of their own, a blank line before each but the first. -/
lemma textLines_sections (first : List Char) (rest : List (List Char)) :
    textLines (separated "\n\n".toList (first :: rest)) =
      textLines first ++ rest.flatMap fun part => [] :: textLines part := by
  induction rest generalizing first with
  | nil => rw [separated, List.flatMap_nil, List.append_nil]
  | cons part rest ih =>
    have gap : separated "\n\n".toList (first :: part :: rest) =
        first ++ '\n' :: ([] ++ '\n' :: separated "\n\n".toList (part :: rest)) := by
      rw [separated_cons]
      simp
    rw [gap, textLines_append, textLines_append, ih]
    rfl

/-- The lines of a list are those of its entries. -/
lemma textLines_listed (first : List Char) (rest : List (List Char)) :
    textLines (separated ['\n'] (first :: rest)) = textLines first ++ rest.flatMap textLines := by
  induction rest generalizing first with
  | nil => rw [separated, List.flatMap_nil, List.append_nil]
  | cons line rest ih =>
    have gap : separated ['\n'] (first :: line :: rest) = first ++ '\n' :: separated ['\n'] (line :: rest) := by
      rw [separated_cons]
      simp
    rw [gap, textLines_append, ih]
    rfl

lemma separated_append (separator : List Char) (a b : List Char) (left right : List (List Char)) :
    separated separator ((a :: left) ++ b :: right) =
      separated separator (a :: left) ++ separator ++ separated separator (b :: right) := by
  induction left generalizing a with
  | nil => rw [List.cons_append, List.nil_append, separated_cons, separated]
  | cons next left ih =>
    rw [List.cons_append, List.cons_append, separated_cons, separated_cons, ← List.cons_append, ih]
    simp only [List.append_assoc]

/-! ## The blocks and the prompt -/

/-- What the two blocks are built from: nothing that a configuration resolves. -/
structure PromptParts.BuiltIn (parts : PromptParts) : Prop where
  safetyWords : parts.safetyWords = bannedWords
  safetyPhrases : parts.safetyPhrases = []
  campaignProhibitions : parts.campaignProhibitions = Prompts.campaignProhibitions
  outputRules : parts.outputRules = none
  defaultSignOff : parts.contract = none → parts.defaultSignOff.filter (· ≠ "") = none

/-- The parts without the client's facts. -/
def PromptParts.shared (parts : PromptParts) : PromptParts := { parts with facts := .empty }

variable {parts : PromptParts} {angle : String} {extra : List String}

/-- Without facts there is nothing that only this client is spared. -/
lemma conditionalProhibitions_empty : conditionalProhibitions .empty = [] := if_pos rfl

/-- The sections before the prohibitions. -/
def openingSections (parts : PromptParts) (angle : String) : List (List Char) :=
  (templateText parts).toList :: ((parts.outputRules.map String.toList).toList ++
    [angleSection parts.brief angle] ++ (signOffSection parts).map String.toList)

def neverSection (lines : List String) : List Char :=
  "You must never:\n".toList ++ separated ['\n'] (lines.map bullet)

lemma promptSections_eq : promptSections parts angle extra none =
    openingSections parts angle ++ [neverSection (prohibitionLines parts extra)] ++
      figuresSections parts.facts ++ [citeSection parts.chunks] := by
  rw [promptSections, Option.filter_none, Option.map_none, Option.toList_none, List.append_nil, openingSections]
  rfl

lemma cachedSections_eq (builtIn : parts.BuiltIn) : cachedSections parts angle extra =
    openingSections parts angle ++
      [neverSection (prohibitionLines { core := parts.core, brief := parts.brief } extra)] ++
        [citeSection parts.chunks] := by
  have template : templateText { core := parts.core, brief := parts.brief } = templateText parts := by
    rw [templateText, templateText, builtIn.safetyWords, builtIn.safetyPhrases]
  have sign_off : (parts.contract.map fun contract => (contractBlock contract).toList).toList =
      (signOffSection parts).map String.toList := by
    rw [signOffSection]
    cases contract : parts.contract with
    | some contract => rfl
    | none =>
      simp only [builtIn.defaultSignOff contract]
      rfl
  rw [cachedSections, openingSections, builtIn.outputRules, Option.map_none, Option.toList_none, List.nil_append]
  rw [template, sign_off]
  rfl

lemma prohibitionLines_ne_nil (parts : PromptParts) (extra : List String) :
    prohibitionLines { core := parts.core, brief := parts.brief } extra ≠ [] := by
  rw [prohibitionLines, Prompts.campaignProhibitions]
  exact List.cons_ne_nil _ _

/-- The prohibitions of all clients of the angle come first in those of a client. -/
lemma prohibitionLines_shared (builtIn : parts.BuiltIn) : prohibitionLines parts extra =
    prohibitionLines { core := parts.core, brief := parts.brief } extra ++ conditionalProhibitions parts.facts := by
  rw [prohibitionLines, prohibitionLines, builtIn.campaignProhibitions]
  dsimp only
  rw [conditionalProhibitions_empty, List.append_nil]

/-- The block that is shared is the prompt of a client without facts. -/
theorem cached_eq_buildSystemPrompt (builtIn : parts.BuiltIn) :
    (buildSystemPromptBlocks parts angle extra).cached = buildSystemPrompt parts.shared angle extra none := by
  have builtIn' : parts.shared.BuiltIn := ⟨builtIn.1, builtIn.2, builtIn.3, builtIn.4, builtIn.5⟩
  have never : prohibitionLines parts.shared extra =
      prohibitionLines { core := parts.core, brief := parts.brief } extra := by
    rw [prohibitionLines_shared builtIn']
    exact (congrArg _ conditionalProhibitions_empty).trans (List.append_nil _)
  have figures : figuresSections parts.shared.facts = [] := if_pos rfl
  rw [buildSystemPrompt, promptSections_eq, never, figures, List.append_nil]
  show separated _ (cachedSections parts angle extra) = _
  rw [cachedSections_eq builtIn]
  rfl

/-- A client without facts has no block of its own. -/
theorem text_of_no_facts (builtIn : parts.BuiltIn) (nothing : parts.facts.items = []) :
    (buildSystemPromptBlocks parts angle extra).text = buildSystemPrompt parts angle extra none := by
  have conditional : conditionalProhibitions parts.facts = [] := if_pos nothing
  have own : (buildSystemPromptBlocks parts angle extra).dynamic = [] := by
    rw [buildSystemPromptBlocks, dynamicSections, figuresSections, if_pos conditional, if_pos nothing,
      List.append_nil, separated]
  have same : parts.shared = parts := by
    obtain ⟨core, words, phrases, prohibitions, rules, signOff, brief, contract, ⟨items, nodup⟩, chunks⟩ := parts
    subst nothing
    rfl
  rw [SystemPromptBlocks.text, if_pos own, cached_eq_buildSystemPrompt builtIn, same]

/-- Two blocks are the sections of both. -/
lemma text_blocks (parts : PromptParts) (angle : String) (extra : List String) :
    (buildSystemPromptBlocks parts angle extra).text =
      separated "\n\n".toList (cachedSections parts angle extra ++ dynamicSections parts.facts) := by
  rw [SystemPromptBlocks.text, buildSystemPromptBlocks]
  dsimp only
  cases own : dynamicSections parts.facts with
  | nil => rw [if_pos (by rw [separated]), List.append_nil]
  | cons first rest =>
    have filled : first ≠ [] := by
      have mem : first ∈ dynamicSections parts.facts := by
        rw [own]
        exact List.mem_cons_self
      rw [dynamicSections, figuresSections, List.mem_append] at mem
      rcases mem with h | h
      · split at h
        · cases h
        · rw [List.mem_singleton.mp h]
          exact List.append_ne_nil_of_left_ne_nil (by decide) _
      · split at h
        · cases h
        · rw [List.mem_singleton.mp h]
          decide +kernel
    have shown : separated "\n\n".toList (first :: rest) ≠ [] := by
      intro empty
      have within := infix_separated "\n\n".toList (List.mem_cons_self (a := first) (l := rest))
      rw [empty] at within
      exact filled (List.eq_nil_of_infix_nil within)
    obtain ⟨opening, others, shared⟩ : ∃ opening others, cachedSections parts angle extra = opening :: others :=
      ⟨_, _, rfl⟩
    rw [if_neg shown, shared, separated_append]

/-- A heading stands over the lines of its list. -/
lemma textLines_headed {heading text : List Char} (ends : text = heading ++ ['\n']) (plain : '\n' ∉ heading)
    {lines : List String} (filled : lines ≠ []) :
    textLines (text ++ separated ['\n'] (lines.map bullet)) =
      heading :: lines.flatMap fun line => textLines (bullet line) := by
  have alone : textLines heading = [heading] := by
    rw [textLines, List.splitOn_eq_splitOnP]
    apply List.splitOnP_eq_singleton
    intro c mem
    exact beq_eq_false_iff_ne.mpr fun same => plain (same ▸ mem)
  obtain ⟨first, rest, rfl⟩ := List.exists_cons_of_ne_nil filled
  rw [ends, List.append_assoc, List.singleton_append, textLines_append, alone, List.map_cons, textLines_listed,
    List.flatMap_cons, List.flatMap_map]
  rfl

lemma textLines_neverSection {lines : List String} (filled : lines ≠ []) : textLines (neverSection lines) =
    "You must never:".toList :: lines.flatMap fun line => textLines (bullet line) :=
  textLines_headed (by decide) (by decide) filled

/-- Lines that leave a section for sections at the end are still there. -/
lemma perm_moved {opening never grown cite : List Char} {others moved figures : List (List Char)}
    {own heading : List (List Char)} (grew : textLines grown = textLines never ++ own)
    (gone : (moved.flatMap fun part => [] :: textLines part).Perm (own ++ heading)) :
    (textLines (separated "\n\n".toList (opening :: others ++ [never] ++ [cite] ++ (moved ++ figures)))).Perm
      (textLines (separated "\n\n".toList (opening :: others ++ [grown] ++ figures ++ [cite])) ++ heading) := by
  simp only [List.cons_append, textLines_sections]
  rw [List.perm_iff_count]
  intro line
  have count := gone.count_eq line
  simp only [List.flatMap_append, List.flatMap_singleton, List.count_append, List.count_cons, grew] at count ⊢
  omega

/-- The blocks have the lines of the prompt in another order, and a heading for the prohibitions that moved. -/
theorem lines_blocks (builtIn : parts.BuiltIn) :
    (textLines (buildSystemPromptBlocks parts angle extra).text).Perm
      (textLines (buildSystemPrompt parts angle extra none) ++
        if conditionalProhibitions parts.facts = [] then []
        else [[], "This client also must never:".toList]) := by
  have filled := prohibitionLines_ne_nil parts extra
  have movedLines {lines : List String} (some_lines : lines ≠ []) :=
    @textLines_headed "This client also must never:".toList "This client also must never:\n".toList
      (by decide) (by decide) lines some_lines
  rw [text_blocks, cachedSections_eq builtIn, buildSystemPrompt, promptSections_eq, prohibitionLines_shared builtIn,
    dynamicSections, openingSections]
  refine @perm_moved _ _ _ _ _ _ _ ((conditionalProhibitions parts.facts).flatMap fun line => textLines (bullet line)) _
    ?_ ?_
  · rw [textLines_neverSection filled, textLines_neverSection (List.append_ne_nil_of_left_ne_nil filled _),
      List.flatMap_append]
    rfl
  · cases conditionalProhibitions parts.facts with
    | nil => exact List.Perm.refl _
    | cons own more =>
      rw [if_neg (List.cons_ne_nil own more), if_neg (List.cons_ne_nil own more), List.flatMap_singleton,
        movedLines (List.cons_ne_nil own more)]
      exact @List.perm_append_comm _ [[], "This client also must never:".toList] _

end ClientEngagement.Prompts
