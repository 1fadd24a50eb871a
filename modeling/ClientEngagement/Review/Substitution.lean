import ClientEngagement.Review.Decisions
import ClientEngagement.Review.Traceability

/-!
# Substitution of placeholders

Model of `instantiate_message_for_template` (`services/review.py`), and what the substitutions of
`resolve_placeholders` come to. A text is cut into its placeholders, as `_PLACEHOLDER` finds them, and the
characters between (`Cut`). As long as the values hold no braces, and no placeholder holds another one inside,
the replacements made one after the other are the ones made at once (`resolvePlaceholders_eq_substitute`), and
the placeholders that are left are those of the draft without a value (`tokens_resolved`).
-/

namespace ClientEngagement.Review
open Privacy (placeholderPattern)
open Campaigns (CampaignId ClientId MessageId)

/-! ## Instances of a template -/

structure MessageTemplate where
  generationRunId : RunId
  channel : String := "email"
  aiDraftContent : Content

/-- What the numeric check of an instance reads besides the client: the settings' public numbers, the Unicode
    tables and how Python prints numbers. -/
structure NumericEnv where
  tables : Unicode
  print : NumberText
  publicContactNumbers : List String := []

/-- `instantiate_message_for_template`; `callBrief` is what `render_call_brief_for_instance` makes. -/
def instantiateMessageForTemplate (env : Env) (numeric : NumericEnv) (s : Store) (template : MessageTemplate)
    (clientId : ClientId) (campaignId : CampaignId) (callBrief : Option String) (newMessage : MessageId) :
    Except CreateError (Store × Option MessageId) :=
  let values := placeholderValues env.format s.records env.testClientFirstName clientId
  let personalized := personalizeContent values template.aiDraftContent
  match personalized.get? "body" with
  | none => .error (.keyError "body")
  | some body =>
    let checked := do
      checkNoUnresolvedPlaceholders (personalized.getD "subject" "") body
      instanceNumericTraceabilityCheck numeric.tables numeric.print numeric.publicContactNumbers
        (template.aiDraftContent.getD "body" "") body (s.records.facts.getD clientId .empty)
    match checked with
    | .error _ => .ok (s, none)
    | .ok () =>
      let message : OutreachMessage :=
        { campaignId := campaignId
          clientId := clientId
          channel := template.channel
          status := .approved
          generationRunId := template.generationRunId
          aiDraftContent := template.aiDraftContent
          personalizedContent := some personalized
          callBrief := callBrief }
      .ok ({ s with messages := s.messages.set newMessage message }, some newMessage)

/-! ## Substitution at once -/

/-- Every name with its value, in the order they are substituted. -/
def PlaceholderValues.all (values : PlaceholderValues) : List (String × Option String) :=
  ("first_name", some values.firstName) :: ("fund_name", some values.fundName) :: values.facts

/-- The characters of a placeholder. -/
def token (name : List Char) : List Char := ['{', '{'] ++ (name ++ ['}', '}'])

/-- What a placeholder stands for among some names; one without a value stands for itself. -/
def valueIn (names : List (String × Option String)) (found : List Char) : List Char :=
  match names.find? fun (name, _) => token name.toList = found with
  | some (_, some value) => value.toList
  | _ => found

/-- The placeholders of a text. -/
def tokens (text : String) : List (List Char) := Regex.findall placeholderPattern text.toList

/-- A text with something put for each placeholder. -/
def fill (σ : List Char → List Char) (cut : List (Piece Char)) : List Char :=
  cut.flatMap fun
    | .kept c => [c]
    | .matched found => σ found

/-- The text with every placeholder that has a value replaced by it, all at once. -/
def substitute (values : PlaceholderValues) (text : String) : String :=
  String.ofList (fill (valueIn values.all) (Regex.pieces placeholderPattern text.toList))

/-- The placeholder is one of a name with a value. -/
def Valued (values : PlaceholderValues) (found : List Char) : Prop :=
  ∃ p ∈ values.all, p.2.isSome = true ∧ found = token p.1.toList

/-- The text of the values: not empty, and without braces. -/
def PlaceholderValues.Plain (values : PlaceholderValues) : Prop :=
  ∀ p ∈ values.all, ∀ value ∈ p.2, value ≠ "" ∧ '{' ∉ value.toList ∧ '}' ∉ value.toList

/-- No placeholder of the text holds one with a value inside, besides being it. -/
def Standalone (values : PlaceholderValues) (text : String) : Prop :=
  ∀ found ∈ tokens text, ∀ p ∈ values.all, p.2.isSome = true →
    token p.1.toList <:+: found → found = token p.1.toList

/-- The subject and the body of a draft, as they are checked. -/
def draftText (draft : Content) : String := draft.getD "subject" "" ++ "\n" ++ draft.getD "body" ""

/-- A message was stored under the id. -/
def Stored (result : Except CreateError (Store × Option MessageId)) (id : MessageId) : Prop :=
  ∃ s, result = .ok (s, some id)

/-! ## Cutting a text at its placeholders -/

/-- A placeholder begins the text. -/
def Opens (text : List Char) : Prop := ∃ name rest, text = token name ++ rest ∧ '}' ∉ name

lemma blind_placeholderPattern : Regex.blind placeholderPattern = true := rfl

lemma rests_placeholderPattern (text : List Char) :
    Regex.rests placeholderPattern (['{', '{'] ++ text) =
      Regex.rests (.lit ['}', '}']) (text.dropWhile (· ≠ '}')) := by
  have last : Regex.seqs [.lit ['}', '}']] = .seq (.lit ['}', '}']) (.empty : Regex Char) := rfl
  have stops : ∀ (c : Char) (rest : List Char), decide (c ≠ '}') = true →
      Regex.rests (.seqs [.lit ['}', '}']]) (c :: rest) = [] := by
    intro c rest other
    rw [last, Regex.rests_seq _ rfl, Regex.rests_lit_elsewhere]
    · rfl
    · intro within
      exact of_decide_eq_true other (List.cons_prefix_cons.mp within).1.symm
  rw [placeholderPattern, Regex.seqs, Regex.rests_seq _ rfl, Regex.rests_lit_append, List.flatMap_cons,
    List.flatMap_nil, List.append_nil, Regex.seqs, Regex.rests_seq _ rfl, Regex.flatMap_rests_star_one stops, last,
    Regex.rests_seq _ rfl]
  exact List.flatMap_singleton' _

/-- A placeholder at the beginning is the first piece. -/
lemma pieces_token {name : List Char} (closed : '}' ∉ name) (rest : List Char) :
    Regex.pieces placeholderPattern (token name ++ rest) =
      .matched (token name) :: Regex.pieces placeholderPattern rest := by
  have some_token : token name ≠ [] := List.cons_ne_nil _ _
  apply Regex.pieces_append blind_placeholderPattern some_token
  have pass : ∀ c ∈ name, decide (c ≠ '}') = true := fun c mem => decide_eq_true (ne_of_mem_of_not_mem mem closed)
  have inside : token name ++ rest = ['{', '{'] ++ (name ++ (['}', '}'] ++ rest)) := by
    rw [token, List.append_assoc, List.append_assoc]
  rw [inside, rests_placeholderPattern, List.dropWhile_append_of_pos pass]
  exact congrArg List.head? (Regex.rests_lit_append ['}', '}'] rest)

lemma pieces_char {c : Char} {rest : List Char} (no : ¬ Opens (c :: rest)) :
    Regex.pieces placeholderPattern (c :: rest) = .kept c :: Regex.pieces placeholderPattern rest := by
  apply Regex.pieces_cons blind_placeholderPattern
  by_cases opening : ['{', '{'] <+: c :: rest
  · obtain ⟨text, eq⟩ := opening
    rw [← eq] at no ⊢
    rw [rests_placeholderPattern]
    apply Regex.rests_lit_elsewhere
    rintro ⟨after, closing⟩
    have split := List.takeWhile_append_dropWhile (p := (· ≠ '}')) (l := text)
    refine no ⟨text.takeWhile (· ≠ '}'), after, ?_, ?_⟩
    · rw [token, List.append_assoc, List.append_assoc, closing, split]
    · intro mem
      exact of_decide_eq_true (List.mem_takeWhile_imp (p := (· ≠ '}')) mem) rfl
  · rw [placeholderPattern, Regex.seqs, Regex.rests_seq _ rfl, Regex.rests_lit_elsewhere opening]
    rfl

/-- A text cut at its placeholders. -/
inductive Cut : List (Piece Char) → Prop where
  | nil : Cut []
  | char {c cut} : ¬ Opens (c :: Regex.source cut) → Cut cut → Cut (.kept c :: cut)
  | token {name cut} : '}' ∉ name → Cut cut → Cut (.matched (token name) :: cut)

theorem cut_pieces (text : List Char) : Cut (Regex.pieces placeholderPattern text) := by
  match text with
  | [] => exact .nil
  | c :: rest =>
    by_cases opens : Opens (c :: rest)
    · obtain ⟨name, after, eq, closed⟩ := opens
      have shorter : after.length < (c :: rest).length := by
        rw [eq, token]
        simp only [List.length_append, List.length_cons, List.length_nil]
        omega
      rw [eq, pieces_token closed]
      exact .token closed (cut_pieces after)
    · rw [pieces_char opens]
      refine .char ?_ (cut_pieces rest)
      rwa [Regex.source_pieces]
  termination_by text.length
  decreasing_by
    · exact shorter
    · exact Nat.lt_succ_self _

/-! ## Filling the placeholders -/

/-- Every placeholder is filled with itself or with a plain text. -/
def Filled (σ : List Char → List Char) (cut : List (Piece Char)) : Prop :=
  ∀ found, .matched found ∈ cut → σ found = found ∨ σ found ≠ [] ∧ '{' ∉ σ found ∧ '}' ∉ σ found

variable {σ : List Char → List Char} {cut : List (Piece Char)}

lemma Filled.tail {piece : Piece Char} (h : Filled σ (piece :: cut)) : Filled σ cut :=
  fun found mem => h found (List.mem_cons_of_mem _ mem)

lemma fill_kept (c : Char) : fill σ (.kept c :: cut) = c :: fill σ cut := rfl

lemma fill_matched (found : List Char) : fill σ (.matched found :: cut) = σ found ++ fill σ cut := rfl

lemma source_kept (c : Char) : Regex.source (.kept c :: cut) = c :: Regex.source cut := rfl

lemma source_matched (found : List Char) : Regex.source (.matched found :: cut) = found ++ Regex.source cut := rfl

/-- What follows in a filled text up to a closing follows in the text. -/
lemma exists_closing (h : Cut cut) (filled : Filled σ cut) {name rest : List Char} (closed : '}' ∉ name)
    (eq : fill σ cut = name ++ (['}', '}'] ++ rest)) :
    ∃ name' rest', Regex.source cut = name' ++ (['}', '}'] ++ rest') ∧ '}' ∉ name' := by
  induction h generalizing name with
  | nil =>
    have empty := congrArg List.length eq
    simp [fill] at empty
  | @token inner cut inner_closed _ _ =>
    refine ⟨['{', '{'] ++ inner, Regex.source cut, ?_, ?_⟩
    · rw [source_matched, token]
      simp only [List.append_assoc]
    · simp [inner_closed]
  | @char c cut _ h ih =>
    rw [fill_kept] at eq
    cases name with
    | cons d name =>
      obtain ⟨rfl, after⟩ := List.cons.inj eq
      obtain ⟨name', rest', source, closed'⟩ := ih filled.tail (fun mem => closed (List.mem_cons_of_mem _ mem)) after
      have other : '}' ≠ c := fun same => closed (same ▸ List.mem_cons_self)
      exact ⟨c :: name', rest', by rw [source_kept, source]; rfl, by simp [other, closed']⟩
    | nil =>
      obtain ⟨rfl, after⟩ := List.cons.inj eq
      cases h with
      | nil => cases after
      | @char d cut _ _ =>
        obtain ⟨rfl, _⟩ := List.cons.inj after
        exact ⟨[], Regex.source cut, rfl, by simp⟩
      | @token inner cut _ _ =>
        -- What fills a placeholder does not begin with a closing brace.
        exfalso
        rw [fill_matched] at after
        rcases filled (token inner) (by simp) with same | ⟨some_text, _, no_closing⟩
        · rw [same, token] at after
          cases after
        · obtain ⟨d, more, text⟩ := List.exists_cons_of_ne_nil some_text
          rw [text] at after no_closing
          obtain ⟨rfl, _⟩ := List.cons.inj after
          exact no_closing List.mem_cons_self

/-- Filling makes no placeholder begin where none began. -/
lemma not_opens_fill {c : Char} (h : Cut (.kept c :: cut)) (filled : Filled σ cut) : ¬ Opens (c :: fill σ cut) := by
  rintro ⟨name, rest, eq, closed⟩
  cases h with
  | char no h =>
    rw [token, List.append_assoc, List.cons_append, List.cons_append, List.nil_append] at eq
    obtain ⟨rfl, second⟩ := List.cons.inj eq
    cases h with
    | nil => cases second
    | @token inner cut inner_closed _ =>
      rcases filled _ List.mem_cons_self with same | ⟨some_text, no_opening, _⟩
      · refine no ⟨'{' :: inner, Regex.source cut, ?_, by simp [inner_closed]⟩
        rw [source_matched, token, token]
        rfl
      · obtain ⟨d, more, text⟩ := List.exists_cons_of_ne_nil some_text
        rw [fill_matched, text] at second
        rw [text] at no_opening
        obtain ⟨rfl, _⟩ := List.cons.inj second
        exact no_opening List.mem_cons_self
    | @char d cut _ h =>
      rw [fill_kept] at second
      obtain ⟨rfl, inside⟩ := List.cons.inj second
      rw [List.append_assoc] at inside
      obtain ⟨name', rest', source, closed'⟩ := exists_closing h filled.tail closed inside
      refine no ⟨name', rest', ?_, closed'⟩
      rw [source_kept, source, token]
      simp only [List.cons_append, List.nil_append, List.append_assoc]

/-- The pieces of a filled text: the placeholders filled with themselves are still there, the others are
    characters. -/
lemma pieces_fill (h : Cut cut) (filled : Filled σ cut) :
    Regex.pieces placeholderPattern (fill σ cut) = cut.flatMap fun
      | .kept c => [.kept c]
      | .matched found => if σ found = found then [.matched found] else (σ found).map .kept := by
  induction h with
  | nil => rfl
  | char no h ih => rw [fill_kept, pieces_char (not_opens_fill (.char no h) filled.tail), ih filled.tail]; rfl
  | @token name cut closed h ih =>
    rw [fill_matched, List.flatMap_cons]
    simp only
    rcases filled _ List.mem_cons_self with same | ⟨_, no_opening, _⟩
    · rw [if_pos same, same, pieces_token closed, ih filled.tail]
      rfl
    · have changed : σ (token name) ≠ token name := by
        intro same
        rw [same, token] at no_opening
        exact no_opening List.mem_cons_self
      rw [if_neg changed, ← ih filled.tail]
      generalize σ (token name) = value at no_opening
      clear changed
      induction value with
      | nil => rfl
      | cons c value inner =>
        have no : ¬ Opens (c :: (value ++ fill σ cut)) := by
          rintro ⟨_, _, eq, _⟩
          rw [token] at eq
          obtain ⟨rfl, _⟩ := List.cons.inj eq
          exact no_opening List.mem_cons_self
        rw [List.cons_append, pieces_char no, inner fun mem => no_opening (List.mem_cons_of_mem _ mem)]
        rfl

/-! ## One replacement after the other -/

lemma fill_congr {τ : List Char → List Char} (same : ∀ found, .matched found ∈ cut → σ found = τ found) :
    fill σ cut = fill τ cut := by
  apply List.flatMap_congr
  intro piece mem
  cases piece with
  | kept c => rfl
  | matched found => exact same found mem

/-- Where a word begins nowhere it replaces nothing. -/
lemma sub_lit_pass {w : List Char} (repl : List Char) {text rest : List Char}
    (nowhere : ∀ before after, text = before ++ after → after ≠ [] → ¬ w <+: after ++ rest) :
    Regex.sub (.lit w) repl (text ++ rest) = text ++ Regex.sub (.lit w) repl rest := by
  induction text with
  | nil => rfl
  | cons c text ih =>
    have here : ¬ w <+: c :: (text ++ rest) := nowhere [] (c :: text) rfl (List.cons_ne_nil _ _)
    rw [List.cons_append, Regex.sub_lit_cons repl here,
      ih fun before after eq some_after => nowhere (c :: before) after (by rw [eq]; rfl) some_after]
    rfl

/-- Up to the first closing brace two texts that agree are the same. -/
lemma before_closing {a b c d : List Char} (open_a : '}' ∉ a) (open_c : '}' ∉ c) (eq : a ++ '}' :: b = c ++ '}' :: d) :
    a = c := by
  have until_closing {x : List Char} (y : List Char) (open_x : '}' ∉ x) :
      (x ++ '}' :: y).takeWhile (· ≠ '}') = x := by
    rw [List.takeWhile_append_of_pos fun z mem => decide_eq_true (ne_of_mem_of_not_mem mem open_x),
      List.takeWhile_cons_of_neg (by simp), List.append_nil]
  rw [← until_closing b open_a, eq, until_closing d open_c]

/-- A placeholder begins inside another one only where it is a part of it. -/
lemma token_nowhere {name inner rest before after : List Char} (closed : '}' ∉ name) (inner_closed : '}' ∉ inner)
    (apart : ¬ token name <:+: token inner) (eq : token inner = before ++ after) (some_after : after ≠ []) :
    ¬ token name <+: after ++ rest := by
  rintro ⟨more, within⟩
  have whole : (['{', '{'] ++ inner) ++ ['}', '}'] = before ++ after := by rw [← eq, token, List.append_assoc]
  rcases List.append_eq_append_iff.mp whole with ⟨mid, before_eq, after_eq⟩ | ⟨mid, inner_eq, after_eq⟩
  · -- The part left is made of closing braces only.
    obtain ⟨c, tail, rfl⟩ := List.exists_cons_of_ne_nil some_after
    have closing : c ∈ ['}', '}'] := by rw [after_eq]; simp
    have opening : '{' = c := (List.cons.inj within).1
    rw [← opening] at closing
    revert closing
    decide
  · have open_mid : '}' ∉ mid := by
      intro mem
      have in_inner : '}' ∈ ['{', '{'] ++ inner := by rw [inner_eq]; exact List.mem_append_right _ mem
      simp [inner_closed] at in_inner
    have same : ['{', '{'] ++ name = mid := by
      rw [after_eq, token] at within
      simp only [List.append_assoc] at within
      refine before_closing (by simp [closed]) open_mid (b := '}' :: more) (d := '}' :: rest) ?_
      rw [List.append_assoc]
      exact within
    apply apart
    refine ⟨before, [], ?_⟩
    rw [eq, after_eq, ← same, token]
    simp

/-- The value of one name is put for its placeholder, and nowhere else. -/
lemma sub_fill {name : List Char} (closed : '}' ∉ name) (value : List Char) (h : Cut cut)
    (filled : Filled σ cut) (unfilled : σ (token name) = token name)
    (apart : ∀ found, .matched found ∈ cut → σ found = found → token name <:+: found → found = token name) :
    Regex.sub (.lit (token name)) value (fill σ cut) =
      fill (fun found => if found = token name then value else σ found) cut := by
  have some_token : token name ≠ [] := List.cons_ne_nil _ _
  induction h with
  | nil => rfl
  | @char c cut no h ih =>
    have here : ¬ token name <+: c :: fill σ cut := by
      rintro ⟨rest, eq⟩
      exact not_opens_fill (.char no h) filled.tail ⟨name, rest, eq.symm, closed⟩
    rw [fill_kept, fill_kept, Regex.sub_lit_cons _ here,
      ih filled.tail fun found mem => apart found (List.mem_cons_of_mem _ mem)]
  | @token inner cut inner_closed h ih =>
    have rest := ih filled.tail fun found mem => apart found (List.mem_cons_of_mem _ mem)
    rw [fill_matched, fill_matched]
    by_cases same : token inner = token name
    · rw [if_pos same, same, unfilled, Regex.sub_lit_append some_token, rest]
    · rw [if_neg same, ← rest]
      apply sub_lit_pass
      intro before after eq some_after
      rcases filled _ List.mem_cons_self with kept | ⟨_, no_opening, _⟩
      · rw [kept] at eq
        exact token_nowhere closed inner_closed (fun within => same (apart _ List.mem_cons_self kept within)) eq
          some_after
      · rintro ⟨more, within⟩
        obtain ⟨c, tail, rfl⟩ := List.exists_cons_of_ne_nil some_after
        have opening : '{' = c := (List.cons.inj within).1
        rw [eq, ← opening] at no_opening
        exact no_opening (by simp)

lemma token_inj {a b : List Char} (same : token a = token b) : a = b := by simpa [token] using same

lemma toList_placeholder (name : String) : (placeholder name).toList = token name.toList := by
  simp [placeholder, token]

lemma names_closed (values : PlaceholderValues) : ∀ p ∈ values.all, '}' ∉ p.1.toList := by
  have closed : ∀ name ∈ values.all.map Prod.fst, '}' ∉ name.toList := by
    show ∀ name ∈ ["first_name", "fund_name", "typical_contribution", "largest_contribution", "years_since_exit",
      "days_held_after_last_topup", "month_they_left", "cadence_interval_days"], '}' ∉ name.toList
    decide
  intro p mem
  exact closed p.1 (List.mem_map_of_mem mem)

lemma names_nodup (values : PlaceholderValues) : (values.all.map Prod.fst).Nodup := by
  show ["first_name", "fund_name", "typical_contribution", "largest_contribution", "years_since_exit",
    "days_held_after_last_topup", "month_they_left", "cadence_interval_days"].Nodup
  decide

/-- A placeholder stands for itself or for the value of its name. -/
lemma valueIn_cases (names : List (String × Option String)) (found : List Char) :
    valueIn names found = found ∨
      ∃ name value, (name, some value) ∈ names ∧ found = token name.toList ∧ valueIn names found = value.toList := by
  rw [valueIn]
  cases eq : names.find? fun (name, _) => token name.toList = found with
  | none => exact .inl rfl
  | some p =>
    obtain ⟨name, value⟩ := p
    cases value with
    | none => exact .inl rfl
    | some value =>
      have same := List.find?_some eq
      simp only [decide_eq_true_eq] at same
      exact .inr ⟨name, value, List.mem_of_find?_eq_some eq, same.symm, rfl⟩

/-- The placeholder of a name with a value stands for it. -/
lemma valueIn_token {names : List (String × Option String)} (nodup : (names.map Prod.fst).Nodup) {name value : String}
    (mem : (name, some value) ∈ names) : valueIn names (token name.toList) = value.toList := by
  have first : (names.find? fun (other, _) => token other.toList = token name.toList) = some (name, some value) := by
    induction names with
    | nil => cases mem
    | cons p names ih =>
      rcases List.mem_cons.mp mem with rfl | mem
      · exact List.find?_cons_of_pos (decide_eq_true rfl)
      · obtain ⟨fresh, nodup⟩ := List.nodup_cons.mp nodup
        have other : ¬ token p.1.toList = token name.toList := by
          intro same
          rw [String.toList_inj.mp (token_inj same)] at fresh
          exact fresh (List.mem_map_of_mem mem)
        rw [List.find?_cons_of_neg (by simpa using other), ih nodup mem]
  rw [valueIn, first]

/-- A further name speaks for its own placeholder only. -/
lemma valueIn_concat {names : List (String × Option String)} {name : String} (value : Option String)
    (fresh : name ∉ names.map Prod.fst) (found : List Char) :
    valueIn (names ++ [(name, value)]) found =
      if found = token name.toList then (value.map String.toList).getD found else valueIn names found := by
  rw [valueIn, valueIn, List.find?_append]
  split_ifs with same
  · have none_found : (names.find? fun (name, _) => token name.toList = found) = none := by
      apply List.find?_eq_none.mpr
      intro p mem p_same
      have names_same : p.1 = name := String.toList_inj.mp (token_inj ((of_decide_eq_true p_same).trans same))
      exact fresh (names_same ▸ List.mem_map_of_mem mem)
    rw [none_found, Option.none_or, List.find?_cons_of_pos (by simp [same])]
    cases value <;> rfl
  · rw [List.find?_cons_of_neg (by simpa using Ne.symm same), List.find?_nil, Option.or_none]

/-- The replacements one after the other fill every placeholder with its value. -/
lemma foldl_resolveFact (todo names : List (String × Option String)) (h : Cut cut)
    (plain : ∀ p ∈ names ++ todo, ∀ value ∈ p.2, value ≠ "" ∧ '{' ∉ value.toList ∧ '}' ∉ value.toList)
    (closed : ∀ p ∈ names ++ todo, '}' ∉ p.1.toList) (nodup : ((names ++ todo).map Prod.fst).Nodup)
    (apart : ∀ found, .matched found ∈ cut → ∀ p ∈ names ++ todo, p.2.isSome = true →
      token p.1.toList <:+: found → found = token p.1.toList) :
    todo.foldl resolveFact (String.ofList (fill (valueIn names) cut)) =
      String.ofList (fill (valueIn (names ++ todo)) cut) := by
  induction todo generalizing names with
  | nil => rw [List.append_nil]; rfl
  | cons p todo ih =>
    obtain ⟨name, value⟩ := p
    have fresh : name ∉ names.map Prod.fst := by
      rw [List.map_append, List.nodup_append] at nodup
      intro mem
      exact nodup.2.2 name mem name List.mem_cons_self rfl
    have step : resolveFact (String.ofList (fill (valueIn names) cut)) (name, value) =
        String.ofList (fill (valueIn (names ++ [(name, value)])) cut) := by
      cases value with
      | none =>
        rw [resolveFact]
        congr 1
        apply fill_congr
        intro found _
        rw [valueIn_concat _ fresh]
        split_ifs with same
        · rcases valueIn_cases names found with self | ⟨other, _, mem, other_same, _⟩
          · exact self
          · have names_same := String.toList_inj.mp (token_inj (other_same.symm.trans same))
            exact absurd (List.mem_map_of_mem mem) (names_same ▸ fresh)
        · rfl
      | some value =>
        have filled : Filled (valueIn names) cut := by
          intro found _
          rcases valueIn_cases names found with self | ⟨other, text, mem, _, eq⟩
          · exact .inl self
          · obtain ⟨some_text, no_open, no_close⟩ := plain _ (List.mem_append_left _ mem) text rfl
            refine .inr ⟨?_, eq ▸ no_open, eq ▸ no_close⟩
            rw [eq]
            exact fun empty => some_text (String.toList_eq_nil_iff.mp empty)
        have unfilled : valueIn names (token name.toList) = token name.toList := by
          rcases valueIn_cases names (token name.toList) with self | ⟨other, _, mem, same, _⟩
          · exact self
          · have names_same := String.toList_inj.mp (token_inj same)
            exact absurd (List.mem_map_of_mem mem) (names_same ▸ fresh)
        have replaced := sub_fill (closed (name, some value) (by simp)) value.toList h filled unfilled
          fun found mem _ within => apart found mem (name, some value) (by simp) rfl within
        rw [resolveFact, replaceText, toList_placeholder, String.toList_ofList, replaced]
        congr 1
        apply fill_congr
        intro found _
        rw [valueIn_concat _ fresh]
        rfl
    rw [List.append_cons] at plain closed nodup apart ⊢
    rw [List.foldl_cons, step, ih (names ++ [(name, value)]) plain closed nodup apart]

variable {values : PlaceholderValues} {text : String}

lemma mem_tokens {found : List Char} :
    found ∈ tokens text ↔ .matched found ∈ Regex.pieces placeholderPattern text.toList := by
  rw [tokens, Regex.findall, List.mem_filterMap]
  constructor
  · rintro ⟨piece, mem, eq⟩
    cases piece with
    | kept c => cases eq
    | matched other =>
      obtain rfl := Option.some_inj.mp eq
      exact mem
  · intro mem
    exact ⟨_, mem, rfl⟩

lemma resolvePlaceholders_eq_foldl (values : PlaceholderValues) (text : String) :
    resolvePlaceholders values text = values.all.foldl resolveFact text := by
  rw [resolvePlaceholders, PlaceholderValues.all, List.foldl_cons, List.foldl_cons, resolveFact, resolveFact]

/-- A text whose placeholders stand for themselves is the text. -/
lemma fill_self (cut : List (Piece Char)) : fill (valueIn []) cut = Regex.source cut := by
  apply List.flatMap_congr
  intro piece _
  cases piece <;> rfl

/-- The replacements one after the other are the ones made at once. -/
theorem resolvePlaceholders_eq_substitute (plain : values.Plain) (standalone : Standalone values text) :
    resolvePlaceholders values text = substitute values text := by
  have folded := foldl_resolveFact values.all [] (cut_pieces text.toList) plain (names_closed values)
    (names_nodup values) fun found mem p p_mem valued within => standalone found (mem_tokens.mpr mem) p p_mem valued within
  rw [fill_self, Regex.source_pieces, String.ofList_toList] at folded
  rw [resolvePlaceholders_eq_foldl, folded, substitute, List.nil_append]

lemma filled_valueIn (plain : values.Plain) (cut : List (Piece Char)) : Filled (valueIn values.all) cut := by
  intro found _
  rcases valueIn_cases values.all found with self | ⟨name, value, mem, _, eq⟩
  · exact .inl self
  · obtain ⟨some_text, no_open, no_close⟩ := plain _ mem value rfl
    refine .inr ⟨?_, eq ▸ no_open, eq ▸ no_close⟩
    rw [eq]
    exact fun empty => some_text (String.toList_eq_nil_iff.mp empty)

/-- A placeholder is left when no name with a value is its. -/
lemma valueIn_self_iff (plain : values.Plain) {found : List Char} :
    valueIn values.all found = found ↔ ¬ Valued values found := by
  constructor
  · rintro self ⟨⟨name, value⟩, mem, valued, rfl⟩
    obtain ⟨value, rfl⟩ := Option.isSome_iff_exists.mp valued
    rw [valueIn_token (names_nodup values) mem] at self
    exact (plain _ mem value rfl).2.1 (self ▸ List.mem_cons_self)
  · intro unvalued
    rcases valueIn_cases values.all found with self | ⟨name, value, mem, same, _⟩
    · exact self
    · exact absurd ⟨_, mem, rfl, same⟩ unvalued

/-- The placeholders of a resolved text are those of the text without a value. -/
theorem mem_tokens_resolved (plain : values.Plain) (standalone : Standalone values text) {found : List Char} :
    found ∈ tokens (resolvePlaceholders values text) ↔ found ∈ tokens text ∧ ¬ Valued values found := by
  rw [mem_tokens, resolvePlaceholders_eq_substitute plain standalone, substitute, String.toList_ofList,
    pieces_fill (cut_pieces _) (filled_valueIn plain _), List.mem_flatMap, mem_tokens]
  constructor
  · rintro ⟨piece, mem, within⟩
    cases piece with
    | kept c => cases List.mem_singleton.mp within
    | matched other =>
      simp only at within
      split_ifs at within with self
      · cases List.mem_singleton.mp within
        exact ⟨mem, (valueIn_self_iff plain).mp self⟩
      · simp at within
  · rintro ⟨mem, unvalued⟩
    refine ⟨_, mem, ?_⟩
    simp only
    rw [if_pos ((valueIn_self_iff plain).mpr unvalued)]
    exact List.mem_singleton_self _

/-! ## The fields of a draft -/

/-- A word without some character is replaced on both sides of it alike. -/
lemma sub_lit_around {w : List Char} (some_word : w ≠ []) {c : Char} (no : c ∉ w) (repl a b : List Char) :
    Regex.sub (.lit w) repl (a ++ c :: b) = Regex.sub (.lit w) repl a ++ c :: Regex.sub (.lit w) repl b := by
  by_cases here : w <+: a
  · obtain ⟨rest, rfl⟩ := here
    have shorter : rest.length < (w ++ rest).length := by
      have := List.length_pos_iff.mpr some_word
      rw [List.length_append]
      omega
    rw [List.append_assoc, Regex.sub_lit_append some_word, Regex.sub_lit_append some_word, List.append_assoc,
      sub_lit_around some_word no repl rest b]
  · have nowhere : ¬ w <+: a ++ c :: b := by
      rintro ⟨rest, eq⟩
      rcases List.append_eq_append_iff.mp eq with ⟨mid, a_eq, _⟩ | ⟨mid, w_eq, after⟩
      · exact here ⟨mid, a_eq.symm⟩
      · cases mid with
        | nil =>
          rw [List.append_nil] at w_eq
          exact here ⟨[], by rw [w_eq, List.append_nil]⟩
        | cons d mid =>
          obtain ⟨rfl, _⟩ := List.cons.inj after
          exact no (by rw [w_eq]; simp)
    match a with
    | [] => rw [List.nil_append] at nowhere ⊢; rw [Regex.sub_lit_cons repl nowhere]; rfl
    | x :: a =>
      rw [List.cons_append] at nowhere ⊢
      rw [Regex.sub_lit_cons repl nowhere, Regex.sub_lit_cons repl here, sub_lit_around some_word no repl a b]
      rfl
  termination_by a.length

lemma resolveFact_lines (p : String × Option String) (one_line : '\n' ∉ p.1.toList) (a b : String) :
    resolveFact (a ++ "\n" ++ b) p = resolveFact a p ++ "\n" ++ resolveFact b p := by
  obtain ⟨name, value⟩ := p
  cases value with
  | none => rfl
  | some value =>
    have some_token : token name.toList ≠ [] := List.cons_ne_nil _ _
    have no : '\n' ∉ token name.toList := by simpa [token] using one_line
    have lines : (a ++ "\n" ++ b).toList = a.toList ++ '\n' :: b.toList := by simp
    rw [resolveFact, resolveFact, resolveFact, replaceText, replaceText, replaceText, toList_placeholder, lines,
      sub_lit_around some_token no]
    apply String.toList_inj.mp
    simp

/-- The lines of a text are resolved one by one. -/
lemma resolvePlaceholders_lines (values : PlaceholderValues) (a b : String) :
    resolvePlaceholders values (a ++ "\n" ++ b) =
      resolvePlaceholders values a ++ "\n" ++ resolvePlaceholders values b := by
  have one_line : ∀ name ∈ values.all.map Prod.fst, '\n' ∉ name.toList := by
    show ∀ name ∈ ["first_name", "fund_name", "typical_contribution", "largest_contribution", "years_since_exit",
      "days_held_after_last_topup", "month_they_left", "cadence_interval_days"], '\n' ∉ name.toList
    decide
  have all_lines (names : List (String × Option String)) (lines : ∀ name ∈ names.map Prod.fst, '\n' ∉ name.toList)
      (a b : String) : names.foldl resolveFact (a ++ "\n" ++ b) =
        names.foldl resolveFact a ++ "\n" ++ names.foldl resolveFact b := by
    induction names generalizing a b with
    | nil => rfl
    | cons p names ih =>
      rw [List.foldl_cons, List.foldl_cons, List.foldl_cons, resolveFact_lines p (lines p.1 (by simp)),
        ih fun name mem => lines name (List.mem_cons_of_mem _ mem)]
  rw [resolvePlaceholders_eq_foldl, resolvePlaceholders_eq_foldl, resolvePlaceholders_eq_foldl,
    all_lines values.all one_line]

/-! ## Which messages are stored -/

lemma checkNoUnresolved_iff {subject body : String} :
    checkNoUnresolvedPlaceholders subject body = .ok () ↔ tokens (subject ++ "\n" ++ body) = [] := by
  have leftover_iff : leftoverPlaceholders (subject ++ "\n" ++ body) = [] ↔ tokens (subject ++ "\n" ++ body) = [] := by
    have sorted := (sortBy_perm id ((tokens (subject ++ "\n" ++ body)).map String.ofList).dedup).length_eq
    rw [leftoverPlaceholders, ← tokens, ← List.length_eq_zero_iff, sorted, List.length_eq_zero_iff, List.dedup_eq_nil,
      List.map_eq_nil_iff]
  rw [checkNoUnresolvedPlaceholders]
  split_ifs with none_left
  · exact iff_of_true rfl (leftover_iff.mp none_left)
  · exact iff_of_false (fun passed => by cases passed) (mt leftover_iff.mpr none_left)

lemma resolvePlaceholders_empty (values : PlaceholderValues) : resolvePlaceholders values "" = "" := by
  rw [resolvePlaceholders_eq_foldl]
  induction values.all with
  | nil => rfl
  | cons p names ih =>
    obtain ⟨name, value⟩ := p
    have here : resolveFact "" (name, value) = "" := by cases value <;> rfl
    rw [List.foldl_cons, here, ih]

lemma getD_personalized (values : PlaceholderValues) (draft : Content) (field : String) :
    (personalizeContent values draft).getD field "" = resolvePlaceholders values (draft.getD field "") := by
  rw [personalizeContent, Dict.getD, Dict.getD, Dict.get?_mapValues]
  cases draft.get? field with
  | none => rw [Option.map_none, Option.getD_none, resolvePlaceholders_empty]
  | some text => rw [Option.map_some, Option.getD_some, Option.getD_some]

/-- A personalized draft passes the check exactly when each of its placeholders has a value. -/
theorem personalized_ok_iff {draft : Content} (plain : values.Plain) (standalone : Standalone values (draftText draft)) :
    checkNoUnresolvedPlaceholders ((personalizeContent values draft).getD "subject" "")
        ((personalizeContent values draft).getD "body" "") = .ok () ↔
      ∀ found ∈ tokens (draftText draft), Valued values found := by
  rw [checkNoUnresolved_iff, getD_personalized, getD_personalized, ← resolvePlaceholders_lines, ← draftText,
    List.eq_nil_iff_forall_not_mem]
  constructor
  · intro none_left found mem
    by_contra unvalued
    exact none_left found ((mem_tokens_resolved plain standalone).mpr ⟨mem, unvalued⟩)
  · intro valued found mem
    obtain ⟨mem, unvalued⟩ := (mem_tokens_resolved plain standalone).mp mem
    exact unvalued (valued found mem)

/-- A run's message is stored exactly when its personalized draft passes the check. -/
lemma stored_createOutreachMessage {env : Env} {s : Store} {runId : RunId} {run : GenerationRun}
    {campaignId : CampaignId} {channel : String} {callBrief : Option String} {slot : Option CohortSlot}
    {newMessage : MessageId} {newCohort : CohortId} (has_body : run.aiDraftContent.contains "body" = true)
    (read : placeholderValues env.format s.records env.testClientFirstName run.clientId = values) :
    Stored (createOutreachMessage env s runId run campaignId channel callBrief slot newMessage newCohort) newMessage ↔
      checkNoUnresolvedPlaceholders ((personalizeContent values run.aiDraftContent).getD "subject" "")
        ((personalizeContent values run.aiDraftContent).getD "body" "") = .ok () := by
  obtain ⟨body, found⟩ := Option.isSome_iff_exists.mp has_body
  have personalized : (personalizeContent values run.aiDraftContent).get? "body" =
      some (resolvePlaceholders values body) := by
    rw [personalizeContent, Dict.get?_mapValues, found, Option.map_some]
  have body_eq : (personalizeContent values run.aiDraftContent).getD "body" "" = resolvePlaceholders values body := by
    rw [Dict.getD, personalized, Option.getD_some]
  rw [body_eq]
  simp only [createOutreachMessage, read, personalized]
  cases checkNoUnresolvedPlaceholders ((personalizeContent values run.aiDraftContent).getD "subject" "")
      (resolvePlaceholders values body) with
  | error failure =>
    refine iff_of_false ?_ fun passed => by cases passed
    rintro ⟨_, eq⟩
    cases eq
  | ok passed => exact iff_of_true ⟨_, rfl⟩ rfl

/-- A template's message is stored exactly when the personalized draft passes both checks. -/
lemma stored_instantiateMessageForTemplate {env : Env} {numeric : NumericEnv} {s : Store} {template : MessageTemplate}
    {clientId : ClientId} {campaignId : CampaignId} {callBrief : Option String} {newMessage : MessageId}
    (has_body : template.aiDraftContent.contains "body" = true)
    (read : placeholderValues env.format s.records env.testClientFirstName clientId = values) :
    Stored (instantiateMessageForTemplate env numeric s template clientId campaignId callBrief newMessage) newMessage ↔
      checkNoUnresolvedPlaceholders ((personalizeContent values template.aiDraftContent).getD "subject" "")
          ((personalizeContent values template.aiDraftContent).getD "body" "") = .ok () ∧
        instanceNumericTraceabilityCheck numeric.tables numeric.print numeric.publicContactNumbers
          (template.aiDraftContent.getD "body" "") ((personalizeContent values template.aiDraftContent).getD "body" "")
          (s.records.facts.getD clientId .empty) = .ok () := by
  obtain ⟨body, found⟩ := Option.isSome_iff_exists.mp has_body
  have personalized : (personalizeContent values template.aiDraftContent).get? "body" =
      some (resolvePlaceholders values body) := by
    rw [personalizeContent, Dict.get?_mapValues, found, Option.map_some]
  have body_eq : (personalizeContent values template.aiDraftContent).getD "body" "" =
      resolvePlaceholders values body := by
    rw [Dict.getD, personalized, Option.getD_some]
  rw [body_eq]
  simp only [instantiateMessageForTemplate, read, personalized]
  cases checkNoUnresolvedPlaceholders ((personalizeContent values template.aiDraftContent).getD "subject" "")
      (resolvePlaceholders values body) with
  | error failure =>
    refine iff_of_false ?_ fun both => by cases both.1
    rintro ⟨_, eq⟩
    cases eq
  | ok passed =>
    cases instanceNumericTraceabilityCheck numeric.tables numeric.print numeric.publicContactNumbers
        (template.aiDraftContent.getD "body" "") (resolvePlaceholders values body)
        (s.records.facts.getD clientId .empty) with
    | error failure =>
      refine iff_of_false ?_ fun both => by cases both.2
      rintro ⟨_, eq⟩
      cases eq
    | ok passed => exact iff_of_true ⟨_, rfl⟩ ⟨rfl, rfl⟩

/-- With plain values the placeholders of a text that hold no other ones are substituted all at once; a run's
    message is stored exactly when each placeholder of its draft has a value, and a template's when, besides, the
    numbers of the resolved body can be traced. -/
theorem substituted_at_once (values : PlaceholderValues) (plain : values.Plain) :
    (∀ text, Standalone values text → resolvePlaceholders values text = substitute values text) ∧
    (∀ (env : Env) (s : Store) (runId : RunId) (run : GenerationRun) (campaignId : CampaignId) (channel : String)
      (callBrief : Option String) (slot : Option CohortSlot) (newMessage : MessageId) (newCohort : CohortId),
      placeholderValues env.format s.records env.testClientFirstName run.clientId = values →
      run.aiDraftContent.contains "body" = true → Standalone values (draftText run.aiDraftContent) →
      (Stored (createOutreachMessage env s runId run campaignId channel callBrief slot newMessage newCohort)
          newMessage ↔
        ∀ found ∈ tokens (draftText run.aiDraftContent), Valued values found)) ∧
    ∀ (env : Env) (numeric : NumericEnv) (s : Store) (template : MessageTemplate) (clientId : ClientId)
      (campaignId : CampaignId) (callBrief : Option String) (newMessage : MessageId),
      placeholderValues env.format s.records env.testClientFirstName clientId = values →
      template.aiDraftContent.contains "body" = true → Standalone values (draftText template.aiDraftContent) →
      (Stored (instantiateMessageForTemplate env numeric s template clientId campaignId callBrief newMessage)
          newMessage ↔
        (∀ found ∈ tokens (draftText template.aiDraftContent), Valued values found) ∧
          instanceNumericTraceabilityCheck numeric.tables numeric.print numeric.publicContactNumbers
            (template.aiDraftContent.getD "body" "")
            (resolvePlaceholders values (template.aiDraftContent.getD "body" ""))
            (s.records.facts.getD clientId .empty) = .ok ()) := by
  refine ⟨fun text standalone => resolvePlaceholders_eq_substitute plain standalone, ?_, ?_⟩
  · intro env s runId run campaignId channel callBrief slot newMessage newCohort read has_body standalone
    rw [stored_createOutreachMessage has_body read, personalized_ok_iff plain standalone]
  · intro env numeric s template clientId campaignId callBrief newMessage read has_body standalone
    rw [stored_instantiateMessageForTemplate has_body read, personalized_ok_iff plain standalone, getD_personalized]

/-! ## A name that is a placeholder, and a number before one -/

/-- A client of test mode, and one number on file. -/
def numberedEnv : Env where
  today := 0
  testClientFirstName := some "Test"
  format := { amount := fun _ => "", general := fun _ => "", plain := fun _ => "7", month := fun _ => "" }
  roundInverse := fun _ => 2

def numberedStore : Store where
  records := { facts := .ofList [(1, .ofList [("invested_every_n_days", .num 7)])] }

def numberedNumbers : NumericEnv where
  tables := .ascii
  print := ⟨fun _ => ['7'], fun _ => ['7']⟩

def numberedValues : PlaceholderValues :=
  placeholderValues numberedEnv.format numberedStore.records numberedEnv.testClientFirstName 1

/-- The text before the placeholder ends in a digit and a comma. -/
def numberedDraft : Content := .ofList [("body", "Every 1," ++ placeholder "cadence_interval_days" ++ " days")]

def numberedTemplate : MessageTemplate where
  generationRunId := "run"
  aiDraftContent := numberedDraft

def numberedRun : GenerationRun where
  clientId := 1
  priorityTier := none
  angle := none
  status := .accepted
  aiDraftContent := numberedDraft

theorem substituted_at_once_numbered :
    resolvePlaceholders numberedValues (placeholder "first_name") =
        substitute numberedValues (placeholder "first_name") ∧
      (Stored (createOutreachMessage numberedEnv numberedStore "run" numberedRun 1 "email" none none "m" "c") "m" ↔
        ∀ found ∈ tokens (draftText numberedDraft), Valued numberedValues found) ∧
      (Stored (instantiateMessageForTemplate numberedEnv numberedNumbers numberedStore numberedTemplate 1 1 none "m")
          "m" ↔
        (∀ found ∈ tokens (draftText numberedDraft), Valued numberedValues found) ∧
          instanceNumericTraceabilityCheck .ascii numberedNumbers.print [] (numberedDraft.getD "body" "")
            (resolvePlaceholders numberedValues (numberedDraft.getD "body" ""))
            (numberedStore.records.facts.getD 1 .empty) = .ok ()) := by
  have plain : numberedValues.Plain := by
    rw [PlaceholderValues.Plain]
    decide +kernel
  have standalone : Standalone numberedValues (draftText numberedDraft) := by
    rw [Standalone]
    decide +kernel
  have greeting : Standalone numberedValues (placeholder "first_name") := by
    rw [Standalone]
    decide +kernel
  obtain ⟨resolved, created, instantiated⟩ := substituted_at_once numberedValues plain
  exact ⟨resolved _ greeting, created _ _ _ _ _ _ _ _ _ _ rfl (by decide +kernel) standalone,
    instantiated _ numberedNumbers _ numberedTemplate _ _ _ _ rfl (by decide +kernel) standalone⟩

/-- A first name that is a placeholder is replaced again, and the number of a template that runs into a figure
    keeps its message from being stored. -/
theorem first_name_rewritten :
    resolvePlaceholders { firstName := placeholder "fund_name", fundName := "Growth" } (placeholder "first_name") ≠
        substitute { firstName := placeholder "fund_name", fundName := "Growth" } (placeholder "first_name") ∧
      (∀ found ∈ tokens (draftText numberedDraft), Valued numberedValues found) ∧
      ¬ Stored (instantiateMessageForTemplate numberedEnv numberedNumbers numberedStore numberedTemplate 1 1 none "m")
        "m" := by
  refine ⟨by decide +kernel, ?_, ?_⟩
  · unfold Valued
    decide +kernel
  · have has_body : numberedTemplate.aiDraftContent.contains "body" = true := by decide +kernel
    rw [stored_instantiateMessageForTemplate has_body rfl]
    rintro ⟨_, traced⟩
    have untraced := check_eq_ok_iff.mp traced "1,7".toList (by decide +kernel)
    revert untraced
    decide +kernel

end ClientEngagement.Review
