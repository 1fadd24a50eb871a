import ClientEngagement.Agents.Cleaning
import ClientEngagement.Agents.DraftChecks
import ClientEngagement.Campaigns.BatchDrafting
import ClientEngagement.Rules.TierContract

/-!
# Sign offs of cleaned drafts

A body is cleaned before `default_sign_off_check` looks for the sign off of the contract, which is not. The
sign offs that pass in every draft that ends with them are those that cleaning leaves alone wherever they
stand (`Carried`, `cleaned_sign_off_iff`).
-/

namespace ClientEngagement.Agents.SignOff
open BatchDrafting (checkedDraft formatContract)
open Cleaning
open Rules (TierSpec isSpace validateTiers)

/-! ## Sign offs -/

/-- A sign off that every cleaned body still has at its end: tidy, with no space or comma at its ends that would go;
it may begin with a comma if it is nothing but that and space, which alone is no body. -/
structure Carried (signOff : List Char) : Prop extends Tidy signOff where
  last : ∀ c ∈ signOff.getLast?, edge c = false
  first : ∀ c ∈ signOff.head?, isSpace c = false
  alone : ∀ rest, signOff = ',' :: rest → ∀ c ∈ rest, isSpace c = true

/-- The sign off is still there, or the body has nothing but space. -/
lemma infix_of_carried (tables : Unicode) {signOff : List Char} (carried : Carried signOff) (front : List Char) :
    signOff <:+: stripAiDashes tables (front ++ signOff) ∨
      ∀ c ∈ stripAiDashes tables (front ++ signOff), isSpace c = true := by
  obtain ⟨swept, eq⟩ := exists_sweep_append carried.toTidy carried.first tables front
  rw [stripAiDashes_eq, eq]
  rcases signOff with _ | ⟨c, rest⟩
  · exact .inl List.nil_infix
  have kept (within : c :: rest <:+ (swept ++ c :: rest).dropWhile edge) :
      c :: rest <:+: stripOf edge (swept ++ c :: rest) := by
    obtain ⟨more, parts⟩ := within
    have back : ((swept ++ c :: rest).dropWhile edge).rdropWhile edge = (swept ++ c :: rest).dropWhile edge := by
      rw [List.rdropWhile_eq_self_iff, ← parts]
      intro some_text
      have last := carried.last _ (List.getLast?_eq_some_getLast (List.cons_ne_nil c rest))
      rw [List.getLast_append_of_ne_nil _ (List.cons_ne_nil c rest), last]
      decide
    have both : stripOf edge (swept ++ c :: rest) = ((swept ++ c :: rest).dropWhile edge).rdropWhile edge := rfl
    rw [both, back, ← parts]
    exact (List.suffix_append more _).isInfix
  cases comma : edge c with
  | false =>
    refine .inl (kept (Regex.suffix_dropWhile (List.suffix_append swept _) ?_))
    intro d mem
    obtain rfl := Option.some_inj.mp mem
    exact comma
  | true =>
    have is_comma : c = ',' := by
      rw [edge, Bool.or_eq_true, decide_eq_true_eq, decide_eq_true_eq] at comma
      rcases comma with rfl | rfl
      · exact absurd (carried.first ' ' rfl) (by decide)
      · rfl
    subst is_comma
    have parts := @List.dropWhile_append _ edge swept (',' :: rest)
    split_ifs at parts with gone
    · right
      intro d mem
      have within := (List.rdropWhile_prefix edge _).subset mem
      rw [parts, List.dropWhile_cons_of_pos comma] at within
      exact carried.alone rest rfl d ((List.dropWhile_suffix edge).subset within)
    · left
      apply kept
      rw [parts]
      exact List.suffix_append _ _

/-! ## Drafts -/

section Drafts

variable {ν : Type} (settings : ParseSettings ν)

/-- The body in what the model answered. -/
def givenBody (raw : String) : Option String :=
  ((loadsText settings.format raw.toList).or (loadsText settings.format (stripCodeFence raw.toList))).bind
    fun payload => (emailDraft.read payload).map fun read => read "body"

/-- Every draft that is accepted, and whose body ended with the sign off, passes the check. -/
def SignOffKept (contract : FormatContract) : Prop :=
  ∀ raw facts allowed draft body, givenBody settings raw = some body → contract.signOff.toList <:+ body.toList →
    emailDraft.parse settings raw facts allowed = .ok draft → ∀ told chunks,
      defaultSignOffCheck (checkedDraft draft.fields.get? told chunks (some contract)) = .ok ()

/-- What an accepted draft has for a body. -/
lemma body_of_parse {raw body : String} {facts : Option (Dict String Json)} {allowed : Option (List String)}
    {draft : Draft} (given : givenBody settings raw = some body)
    (accepted : emailDraft.parse settings raw facts allowed = .ok draft) :
    draft.fields.get? "body" = some (.str (.ofList (stripAiDashes settings.tables body.toList))) ∧
      ¬∀ c ∈ stripAiDashes settings.tables body.toList, isSpace c = true := by
  rw [DraftSchema.parse] at accepted
  rw [givenBody] at given
  cases payload : (loadsText settings.format raw.toList).or (loadsText settings.format (stripCodeFence raw.toList)) with
  | none =>
    rw [payload] at given
    cases given
  | some value =>
    rw [payload, Option.bind_some] at given
    rw [payload] at accepted
    simp only at accepted
    obtain ⟨read, eq, rfl⟩ := Option.map_eq_some_iff.mp given
    rw [eq] at accepted
    simp only at accepted
    split_ifs at accepted with blanks
    cases placeholders : checkPlaceholders (separated ['\n']
        (emailDraft.names.map fun name => stripAiDashes settings.tables (read name).toList)) facts allowed with
    | error message =>
      rw [placeholders] at accepted
      cases accepted
    | ok =>
      rw [placeholders] at accepted
      obtain rfl := Except.ok.inj accepted
      refine ⟨rfl, fun all => blanks ?_⟩
      rw [List.any_eq_true]
      exact ⟨"body", by decide, List.all_eq_true.mpr all⟩

lemma checked_body {draft : Draft} {cleaned : List Char}
    (body : draft.fields.get? "body" = some (.str (.ofList cleaned))) (told : Option (Dict String Json))
    (chunks : List GroundingChunk) (contract : FormatContract) :
    defaultSignOffCheck (checkedDraft draft.fields.get? told chunks (some contract)) = .ok () ↔
      contract.signOff.toList <:+: cleaned := by
  have text : (checkedDraft draft.fields.get? told chunks (some contract)).body.toList = cleaned := by
    rw [checkedDraft]
    simp only
    rw [body]
    exact String.toList_ofList
  have occurs : occursIn contract.signOff.toList
      (checkedDraft draft.fields.get? told chunks (some contract)).body.toList = true ↔
        contract.signOff.toList <:+: cleaned := by
    rw [text, occursIn, decide_eq_true_eq]
  rw [← occurs]
  constructor
  · intro passes
    by_contra no
    have fails : defaultSignOffCheck (checkedDraft draft.fields.get? told chunks (some contract)) = .error _ := if_neg no
    rw [fails] at passes
    cases passes
  · intro yes
    exact if_pos yes

/-- The sign offs that are carried are kept. -/
lemma kept_of_carried {contract : FormatContract} (carried : Carried contract.signOff.toList) :
    SignOffKept settings contract := by
  rintro raw facts allowed draft body given ⟨front, ends⟩ accepted told chunks
  obtain ⟨cleaned, some_ink⟩ := body_of_parse settings given accepted
  rw [checked_body cleaned]
  rw [← ends] at some_ink ⊢
  exact (infix_of_carried settings.tables carried front).resolve_right some_ink

/-! ## Sign offs that are not carried -/

def greeting : List Char := "\x7b\x7bfirst_name\x7d\x7d \x7b\x7bfund_name\x7d\x7d".toList

/-- An answer with both placeholders in its subject. -/
def answer (body : List Char) : String :=
  .ofList (JsonText.render settings.format
    (.obj [("subject", .str (.ofList greeting)), ("body", .str (.ofList body))]))

instance (x y : Char) : Decidable (Smooth x y) := inferInstanceAs (Decidable (_ ∧ _))

lemma dashless_of_all {text : List Char} (all : (text.all fun c => !isDash c) = true) :
    ∀ c ∈ text, isDash c = false := by
  intro c mem
  simpa using List.all_eq_true.mp all c mem

lemma clean_greeting : Clean greeting where
  dashless := dashless_of_all rfl
  smooth := by decide
  first := by
    intro c mem
    obtain rfl := Option.some_inj.mp (mem : some '\x7b' = some c)
    rfl
  last := by
    intro c mem
    obtain rfl := Option.some_inj.mp (mem : some '\x7d' = some c)
    rfl

lemma loads_answer (body : List Char) : loadsText settings.format (answer settings body).toList =
    some (.obj [("subject", .str (.ofList greeting)), ("body", .str (.ofList body))]) := by
  rw [answer, String.toList_ofList, loadsText, if_neg (by rw [JsonText.render, List.head?_cons]; decide),
    JsonText.loads_render]

lemma givenBody_answer (body : List Char) : givenBody settings (answer settings body) = some (.ofList body) := by
  rw [givenBody, loads_answer]
  rfl

/-- A draft may use the placeholders it is allowed. -/
lemma exists_checked {text : List Char} {facts : Option (Dict String Json)}
    (required : ∀ token ∈ requiredPlaceholders facts, token.toList <:+: text) :
    ∃ allowed, checkPlaceholders text facts (some allowed) = .ok () := by
  refine ⟨(Regex.findall Privacy.placeholderPattern text).map String.ofList, ?_⟩
  have missing : ((requiredPlaceholders facts).filter fun token => ¬occursIn token.toList text) = [] := by
    rw [List.filter_eq_nil_iff]
    intro token mem
    have occurs : occursIn token.toList text = true := decide_eq_true (required token mem)
    simp [occurs]
  have unexpected : ((Regex.findall Privacy.placeholderPattern text).map String.ofList).dedup.filter
      (· ∉ (Regex.findall Privacy.placeholderPattern text).map String.ofList) = [] := by
    rw [List.filter_eq_nil_iff]
    intro token mem
    simpa using List.mem_dedup.mp mem
  rw [checkPlaceholders]
  simp only [Option.getD_some]
  rw [if_neg (not_not_intro missing), if_neg (not_not_intro unexpected)]

lemma greeting_required : ∀ token ∈ requiredPlaceholders none, token.toList <:+: greeting := by
  intro token mem
  rcases List.mem_pair.mp (mem : token ∈ [Review.placeholder "first_name", Review.placeholder "fund_name"]) with
    rfl | rfl
  · decide
  · decide

/-- An answer is accepted unless its cleaned body is blank, or a placeholder is not allowed. -/
lemma exists_parsed {body : List Char} {facts : Option (Dict String Json)} {allowed : Option (List String)}
    (ink : ∃ c ∈ stripAiDashes settings.tables body, isSpace c = false)
    (checked : checkPlaceholders (separated ['\n'] [greeting, stripAiDashes settings.tables body]) facts allowed = .ok ()) :
    ∃ draft, emailDraft.parse settings (answer settings body) facts allowed = .ok draft := by
  obtain ⟨read, eq, subject, given⟩ : ∃ read, emailDraft.read (JsonValue.obj (ν := ν)
      [("subject", .str (.ofList greeting)), ("body", .str (.ofList body))]) = some read ∧
        read "subject" = .ofList greeting ∧ read "body" = .ofList body := ⟨_, rfl, rfl, rfl⟩
  have cleaned : emailDraft.names.map (fun name => stripAiDashes settings.tables (read name).toList) =
      [greeting, stripAiDashes settings.tables body] := by
    rw [emailDraft, List.map_cons, List.map_singleton, subject, given, String.toList_ofList, String.toList_ofList,
      stripAiDashes_of_clean _ clean_greeting]
  have filled : ¬(emailDraft.names.any fun name =>
      (stripAiDashes settings.tables (read name).toList).all isSpace) = true := by
    rw [List.any_eq_true]
    rintro ⟨name, mem, all⟩
    rcases List.mem_pair.mp (mem : name ∈ ["subject", "body"]) with rfl | rfl
    · rw [subject, String.toList_ofList, stripAiDashes_of_clean _ clean_greeting] at all
      exact absurd all (by decide)
    · obtain ⟨c, here, no_space⟩ := ink
      rw [given, String.toList_ofList] at all
      rw [List.all_eq_true.mp all c here] at no_space
      cases no_space
  refine ⟨emailDraft.dump fun name => .ofList (stripAiDashes settings.tables (read name).toList), ?_⟩
  rw [DraftSchema.parse, loads_answer, Option.some_or]
  simp only [eq]
  rw [if_neg filled, cleaned, checked]

lemma exists_accepted {body : List Char} (ink : ∃ c ∈ stripAiDashes settings.tables body, isSpace c = false) :
    ∃ allowed draft, emailDraft.parse settings (answer settings body) none (some allowed) = .ok draft := by
  have required : ∀ token ∈ requiredPlaceholders none,
      token.toList <:+: separated ['\n'] [greeting, stripAiDashes settings.tables body] := by
    intro token mem
    have parts : separated ['\n'] [greeting, stripAiDashes settings.tables body] =
        greeting ++ ['\n'] ++ stripAiDashes settings.tables body := rfl
    rw [parts, List.append_assoc]
    exact (greeting_required token mem).trans (List.prefix_append greeting _).isInfix
  obtain ⟨allowed, checked⟩ := exists_checked required
  obtain ⟨draft, accepted⟩ := exists_parsed settings ink checked
  exact ⟨allowed, draft, accepted⟩

/-- What is kept is still in every cleaned body that is not blank. -/
lemma infix_of_kept {contract : FormatContract} (kept : SignOffKept settings contract) (front : List Char)
    (ink : ∃ c ∈ stripAiDashes settings.tables (front ++ contract.signOff.toList), isSpace c = false) :
    contract.signOff.toList <:+: stripAiDashes settings.tables (front ++ contract.signOff.toList) := by
  obtain ⟨allowed, draft, accepted⟩ := exists_accepted settings ink
  have given := givenBody_answer settings (front ++ contract.signOff.toList)
  have ends : contract.signOff.toList <:+ (String.ofList (front ++ contract.signOff.toList)).toList := by
    rw [String.toList_ofList]
    exact List.suffix_append _ _
  have passes := kept _ _ _ _ _ given ends accepted none []
  obtain ⟨cleaned, _⟩ := body_of_parse settings given accepted
  rw [checked_body cleaned, String.toList_ofList] at passes
  exact passes

end Drafts

/-! ## Bodies that lose a sign off -/

section Losing

variable (tables : Unicode)

lemma ne_dash_of_x {text : List Char} : afterDash ('x' :: text) = none := by
  rw [afterDash, List.dropWhile_cons_of_neg (by decide)]
  rfl

/-- A letter at the beginning stays there. -/
lemma exists_sweep_x (text : List Char) : ∃ swept, sweep tables ('x' :: text) = 'x' :: swept := by
  have dashes (t : List Char) : Regex.sub remainingDash [',', ' '] ('x' :: t) =
      'x' :: Regex.sub remainingDash [',', ' '] t :=
    Regex.sub_of_unmatched rfl ((head_rests_remainingDash _).trans ne_dash_of_x)
  have commas (t : List Char) : Regex.sub duplicatePunctuation [] ('x' :: t) =
      'x' :: Regex.sub duplicatePunctuation [] t :=
    Regex.sub_of_unmatched rfl ((head_rests_duplicatePunctuation _).trans rfl)
  have space (t : List Char) : Regex.sub spaceBeforePunctuation [] ('x' :: t) =
      'x' :: Regex.sub spaceBeforePunctuation [] t :=
    Regex.sub_of_unmatched rfl ((head_rests_spaceBeforePunctuation _).trans rfl)
  have blanks (t : List Char) : Regex.sub repeatedSpace [' '] ('x' :: t) = 'x' :: Regex.sub repeatedSpace [' '] t :=
    Regex.sub_of_unmatched rfl ((head_rests_repeatedSpace _).trans
      (afterBlanks_eq_none_iff.mpr fun y _ both => absurd both.1 (by decide)))
  have pointwise := sub_compoundHyphen tables ('x' :: text)
  rw [sweep]
  generalize Regex.sub (compoundHyphen tables) [' '] ('x' :: text) = compound at pointwise ⊢
  cases pointwise with
  | cons change _ =>
    obtain rfl := change.resolve_right fun hyphen => absurd hyphen.1 (by decide)
    rw [dashes, commas, space, blanks]
    exact ⟨_, rfl⟩

lemma ink_of_x (text : List Char) : ∃ c ∈ stripAiDashes tables ('x' :: text), isSpace c = false := by
  obtain ⟨swept, eq⟩ := exists_sweep_x tables text
  rw [stripAiDashes_eq, eq]
  exact ⟨'x', mem_stripOf List.mem_cons_self (by decide), by decide⟩

lemma tidy_x {text : List Char} (tidy : Tidy text) : Tidy ('x' :: text) where
  dashless c mem := by
    rcases List.mem_cons.mp mem with rfl | mem
    · decide
    · exact tidy.dashless c mem
  smooth := by
    refine tidy.smooth.cons fun y _ => ⟨fun joined => ?_, fun both => absurd both.1 (by decide)⟩
    rcases joined.1 with space | comma
    · exact absurd space (by decide)
    · exact absurd comma (by decide)

/-- A sign off that is still there does not end with what would go. -/
lemma last_of_within {signOff : List Char} (tidy : Tidy signOff)
    (within : signOff <:+: stripAiDashes tables ('x' :: signOff)) : ∀ c ∈ signOff.getLast?, edge c = false := by
  intro c last
  rw [stripAiDashes_eq, sweep_of_tidy tables (tidy_x tidy)] at within
  have ends := (ends_stripOf edge ('x' :: signOff)).2
  have some_sign : signOff ≠ [] := List.getLast?_isSome.mp (Option.isSome_iff_exists.mpr ⟨c, last⟩)
  have cut := stripOf_within edge ('x' :: signOff)
  rcases Nat.lt_or_ge (stripOf edge ('x' :: signOff)).length ('x' :: signOff).length with shorter | whole
  · have same := within.eq_of_length_le (Nat.le_of_lt_succ shorter)
    apply ends
    rw [← same]
    exact last
  · have same := cut.eq_of_length_le whole
    apply ends
    rw [same, List.getLast?_cons, last]
    rfl

/-- After space or a comma a tidy text of space and what goes at the ends is space. -/
lemma isSpace_of_joined {x : Char} {rest : List Char} (joined : (x :: rest).IsChain Joined)
    (leads : isSpace x = true ∨ x = ',') (edges : ∀ c ∈ rest, edge c = false → isSpace c = true) :
    ∀ c ∈ rest, isSpace c = true := by
  induction rest generalizing x with
  | nil => exact nofun
  | cons d rest ih =>
    obtain ⟨next, later⟩ := List.isChain_cons_cons.mp joined
    have space : isSpace d = true := by
      cases is_edge : edge d with
      | false => exact edges d List.mem_cons_self is_edge
      | true =>
        rw [edge, Bool.or_eq_true, decide_eq_true_eq, decide_eq_true_eq] at is_edge
        rcases is_edge with rfl | rfl
        · decide
        · exact absurd ⟨leads, by decide⟩ next
    intro c mem
    rcases List.mem_cons.mp mem with rfl | mem
    · exact space
    · exact ih later (.inl space) (fun e here => edges e (List.mem_cons_of_mem _ here)) c mem

/-- A sign off that begins with what would go, and is still there in every body with more than space, has nothing but
space after that. -/
lemma isSpace_of_within {c : Char} {rest : List Char} (tidy : Tidy (c :: rest)) (goes : edge c = true)
    (within : (∃ d ∈ stripAiDashes tables (c :: rest), isSpace d = false) →
      c :: rest <:+: stripAiDashes tables (c :: rest)) : ∀ d ∈ rest, isSpace d = true := by
  rw [stripAiDashes_eq, sweep_of_tidy tables tidy] at within
  have leads : isSpace c = true ∨ c = ',' := by
    rw [edge, Bool.or_eq_true, decide_eq_true_eq, decide_eq_true_eq] at goes
    rcases goes with rfl | rfl
    · exact .inl (by decide)
    · exact .inr rfl
  apply isSpace_of_joined tidy.joined leads
  intro d mem stays
  by_contra no_space
  have ink : ∃ d ∈ stripOf edge (c :: rest), isSpace d = false :=
    ⟨d, mem_stripOf (List.mem_cons_of_mem c mem) stays, Bool.not_eq_true _ ▸ no_space⟩
  have same := (within ink).eq_of_length_le (stripOf_within edge (c :: rest)).length_le
  have first := (ends_stripOf edge (c :: rest)).1 c (by rw [← same]; rfl)
  rw [goes] at first
  cases first

/-- A dash takes the space after it. -/
lemma sweep_dash {c : Char} {rest : List Char} (tidy : Tidy (c :: rest)) (space : isSpace c = true) :
    sweep tables ('x' :: '—' :: c :: rest) = 'x' :: ',' :: ' ' :: rest.dropWhile isSpace := by
  have tail : Tidy (rest.dropWhile isSpace) :=
    tidy.part ((List.dropWhile_suffix isSpace).trans (List.suffix_cons c rest)).isInfix
  have after_space : Tidy (' ' :: rest.dropWhile isSpace) := by
    constructor
    · intro d mem
      rcases List.mem_cons.mp mem with rfl | mem
      · decide
      · exact tail.dashless d mem
    · refine tail.smooth.cons fun d head => ⟨fun joined => ?_, fun both => ?_⟩
      · have unmarked := unmarked_of_joined (.inl space) tidy.joined
        rw [Option.mem_def.mp head, Option.any_some, joined.2] at unmarked
        cases unmarked
      · have stops := List.head?_dropWhile_not isSpace rest
        rw [Option.mem_def.mp head] at stops
        exact absurd (isSpace_of_blank both.2) (by rw [stops]; decide)
  have after_comma : Tidy ('x' :: ',' :: ' ' :: rest.dropWhile isSpace) := by
    apply tidy_x
    constructor
    · intro d mem
      rcases List.mem_cons.mp mem with rfl | mem
      · decide
      · exact after_space.dashless d mem
    · exact List.isChain_cons_cons.mpr ⟨by decide, after_space.smooth⟩
  have no_hyphen : '-' ∉ 'x' :: '—' :: c :: rest := by
    rw [List.mem_cons, List.mem_cons, not_or, not_or]
    exact ⟨by decide, by decide, no_hyphen_of_tidy tidy⟩
  have at_dash : (Regex.rests remainingDash ('—' :: c :: rest)).head? = some (rest.dropWhile isSpace) := by
    rw [head_rests_remainingDash, afterDash, List.dropWhile_cons_of_neg (by decide)]
    simp only
    rw [if_neg (by decide), if_pos (by decide), List.dropWhile_cons_of_pos space]
  have dashes : Regex.sub remainingDash [',', ' '] ('x' :: '—' :: c :: rest) =
      'x' :: ',' :: ' ' :: rest.dropWhile isSpace := by
    rw [Regex.sub_of_unmatched rfl ((head_rests_remainingDash _).trans ne_dash_of_x),
      Regex.sub_of_first rfl at_dash (consumes_remainingDash at_dash), remainingDash_eq_self tail.dashless]
    rfl
  rw [sweep, sub_compoundHyphen_eq_self tables no_hyphen, dashes,
    duplicatePunctuation_eq_self (unrepeated_of_joined after_comma.joined),
    spaceBeforePunctuation_eq_self after_comma.joined, repeatedSpace_eq_self after_comma.smooth]

/-- A sign off that begins with space other than a blank is lost after a dash. -/
lemma not_infix_dash {c : Char} {rest : List Char} (tidy : Tidy (c :: rest)) (space : isSpace c = true)
    (other : c ≠ ' ') : ¬c :: rest <:+: stripAiDashes tables ('x' :: '—' :: c :: rest) := by
  rw [stripAiDashes_eq, sweep_dash tables tidy space]
  intro within
  have fewer := (within.trans (stripOf_within edge _)).sublist.count_le c
  have dropped := ((List.dropWhile_suffix (l := rest) isSpace).sublist).count_le c
  have not_x : 'x' ≠ c := by
    rintro rfl
    exact absurd space (by decide)
  have not_comma : ',' ≠ c := by
    rintro rfl
    exact absurd space (by decide)
  rw [List.count_cons_self, List.count_cons_of_ne not_x, List.count_cons_of_ne not_comma,
    List.count_cons_of_ne other.symm] at fewer
  omega

end Losing

/-! ## Which sign offs are kept -/

section Kept

variable {ν : Type} (settings : ParseSettings ν)

/-- The sign offs that are kept are carried, if they are more than space. -/
lemma carried_of_kept {contract : FormatContract} (kept : SignOffKept settings contract)
    (some_ink : ∃ c ∈ contract.signOff.toList, isSpace c = false) : Carried contract.signOff.toList := by
  have after_x := infix_of_kept settings kept ['x'] (ink_of_x settings.tables _)
  have tidy : Tidy contract.signOff.toList := (clean_stripAiDashes _ _).toTidy.part after_x
  have alone {c : Char} {rest : List Char} (parts : contract.signOff.toList = c :: rest) (goes : edge c = true) :
      ∀ d ∈ rest, isSpace d = true := by
    have whole := infix_of_kept settings kept []
    rw [List.nil_append, parts] at whole
    exact isSpace_of_within settings.tables (parts ▸ tidy) goes whole
  refine ⟨tidy, last_of_within settings.tables tidy after_x, ?_, fun rest parts => alone parts (by decide)⟩
  intro c head
  by_contra space
  rw [Bool.not_eq_false] at space
  obtain ⟨rest, parts⟩ := List.head?_eq_some_iff.mp head
  by_cases blank_first : c = ' '
  · obtain ⟨d, mem, ink⟩ := some_ink
    rw [parts] at mem
    rcases List.mem_cons.mp mem with rfl | mem
    · rw [space] at ink
      cases ink
    · rw [alone parts (by rw [blank_first]; decide) d mem] at ink
      cases ink
  · have after_dash := infix_of_kept settings kept ['x', '—'] (ink_of_x settings.tables _)
    rw [parts] at after_dash
    exact not_infix_dash settings.tables (parts ▸ tidy) space blank_first after_dash

/-- What `validate_tiers` lets through has a sign off of more than space. -/
lemma ink_of_accepted {tiers : List TierSpec} {spec : TierSpec} (accepted : validateTiers tiers = .ok ())
    (listed : spec ∈ tiers) : ∃ c ∈ spec.signOff.toList, isSpace c = false := by
  have checked : ((fun spec : TierSpec => Rules.isBlank spec.signOff), "has no sign off") ∈ Rules.tierChecks := by
    simp [Rules.tierChecks]
  have ink := Rules.passes_of_accepted accepted listed checked
  simp only [Rules.isBlank, List.all_eq_false] at ink
  obtain ⟨c, mem, no_space⟩ := ink
  exact ⟨c, mem, Bool.not_eq_true _ ▸ no_space⟩

/-- Cleaning is done once and for all and leaves no dash; and the sign off of an accepted contract passes the check in
every accepted draft whose body ended with it exactly when it is carried. -/
theorem cleaned_sign_off_iff :
    (∀ text, stripAiDashes settings.tables (stripAiDashes settings.tables text) =
        stripAiDashes settings.tables text) ∧
      (∀ text, ∀ c ∈ stripAiDashes settings.tables text, c ≠ '–' ∧ c ≠ '—') ∧
      ∀ tiers, validateTiers tiers = .ok () → ∀ spec ∈ tiers,
        (SignOffKept settings (formatContract spec.policy) ↔ Carried spec.signOff.toList) := by
  refine ⟨fun text => stripAiDashes_of_clean _ (clean_stripAiDashes _ text), ?_, ?_⟩
  · intro text c mem
    have dashless := (clean_stripAiDashes settings.tables text).dashless c mem
    constructor
    · rintro rfl
      exact absurd dashless (by decide)
    · rintro rfl
      exact absurd dashless (by decide)
  · intro tiers accepted spec listed
    constructor
    · intro kept
      exact carried_of_kept settings kept (ink_of_accepted accepted listed)
    · intro carried
      exact kept_of_carried settings carried

end Kept

/-! ## Two sign offs -/

/-- Settings for texts of ASCII. -/
def plainSettings : ParseSettings ℕ where
  tables := .ascii
  format := JsonText.naturals
  decodeText _ := "no JSON"
  validationText _ message := message.getD "fields"

/-- A tier that is signed off in this way. -/
def signedOff (signOff : String) : TierSpec where
  tier := "hot_leads"
  displayName := "Hot leads"
  primaryChannel := "email"
  maxWords := 120
  signOff := signOff
  humanApproval := true
  reviewSampleRate := 1

theorem team_kept : SignOffKept plainSettings (formatContract (signedOff "The CIB team.").policy) := by
  have accepted : validateTiers [signedOff "The CIB team."] = .ok () := by decide +kernel
  apply ((cleaned_sign_off_iff plainSettings).2.2 _ accepted _ List.mem_cons_self).mpr
  refine ⟨⟨dashless_of_all (by decide +kernel), by decide +kernel⟩, ?_, ?_, ?_⟩
  · intro c last
    obtain rfl := Option.some_inj.mp (last : some '.' = some c)
    decide
  · intro c first
    obtain rfl := Option.some_inj.mp (first : some 'T' = some c)
    decide
  · intro rest parts
    exact absurd (List.cons.inj (parts : 'T' :: _ = ',' :: rest)).1 (by decide)

/-- A body that ends with a sign off with a comma at its end. -/
def farewell : List Char := "See you soon.\nKind regards,".toList

/-- A sign off with a comma at its end is accepted, and lost in a draft that ends with it. -/
theorem regards_lost :
    validateTiers [signedOff "Kind regards,"] = .ok () ∧
      ∃ draft, emailDraft.parse plainSettings (answer plainSettings farewell) none none = .ok draft ∧
        draft.fields.get? "body" = some (.str "See you soon.\nKind regards") ∧
        defaultSignOffCheck (checkedDraft draft.fields.get? none []
          (some (formatContract (signedOff "Kind regards,").policy))) ≠ .ok () ∧
        ¬SignOffKept plainSettings (formatContract (signedOff "Kind regards,").policy) := by
  have cleaned : stripAiDashes .ascii farewell = "See you soon.\nKind regards".toList := by decide +kernel
  have ink : ∃ c ∈ stripAiDashes plainSettings.tables farewell, isSpace c = false := ⟨'S', by
    rw [show plainSettings.tables = .ascii from rfl, cleaned]
    decide, by decide⟩
  have checked : checkPlaceholders (separated ['\n'] [greeting, stripAiDashes plainSettings.tables farewell]) none none =
      .ok () := by
    rw [show plainSettings.tables = .ascii from rfl, cleaned]
    decide +kernel
  obtain ⟨draft, accepted⟩ := exists_parsed plainSettings ink checked
  have given := givenBody_answer plainSettings farewell
  obtain ⟨body, _⟩ := body_of_parse plainSettings given accepted
  rw [String.toList_ofList, show plainSettings.tables = .ascii from rfl, cleaned] at body
  have fails : defaultSignOffCheck (checkedDraft draft.fields.get? none []
      (some (formatContract (signedOff "Kind regards,").policy))) ≠ .ok () := by
    rw [Ne, checked_body body]
    decide +kernel
  refine ⟨by decide +kernel, draft, accepted, body, fails, fun kept => fails ?_⟩
  exact kept _ none none draft _ given ⟨"See you soon.\n".toList, rfl⟩ accepted none []

end ClientEngagement.Agents.SignOff
