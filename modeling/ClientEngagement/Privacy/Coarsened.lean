import ClientEngagement.Lib.MapM
import ClientEngagement.Privacy.InboundScan

/-!
# What the inbound scan lets through

A payload that passes the inbound scan by a schema is coarse (`Coarse`): rounded amounts and years, and no
interval without a cadence. The scan answers in no other way than by `InboundLeak` unless a value has no text or
an amount is infinite (`coarsened_iff`), and the facts of a block pass it unless the years are NaN.
-/

namespace ClientEngagement.Privacy.Inbound

variable {ω : Type} {platform : Platform ω} {payload : Dict String (Value ω)} {block read : String → Value ω}
  {name : String}

/-! ## Amounts -/

/-- The validated amount is infinite. -/
def Value.isInfinite : Value ω → Bool
  | .number (.infinite _) => true
  | _ => false

lemma roundAmount_cases (value : Value ω) :
    (value = .number .nan ∧ roundAmount value = .error .valueError) ∨
      (value.isInfinite = true ∧ roundAmount value = .error .overflowError) ∨
      (value ≠ .number .nan ∧ value.isInfinite = false ∧ ∃ rounded, roundAmount value = .ok rounded) := by
  cases value with
  | number x =>
    cases x with
    | finite q =>
      refine .inr (.inr ⟨nofun, rfl, ?_⟩)
      rw [roundAmount, roundSigFigs_finite]
      exact ⟨_, rfl⟩
    | infinite negative => exact .inr (.inl ⟨rfl, rfl⟩)
    | nan => exact .inl ⟨rfl, rfl⟩
  | none => exact .inr (.inr ⟨nofun, rfl, _, rfl⟩)
  | bool b => exact .inr (.inr ⟨nofun, rfl, _, rfl⟩)
  | text t => exact .inr (.inr ⟨nofun, rfl, _, rfl⟩)
  | object o => exact .inr (.inr ⟨nofun, rfl, _, rfl⟩)

/-- A rounded amount of the right type is absent or of two significant figures, and rounded to itself. -/
lemma roundAmount_ok {value rounded : Value ω} (ok : roundAmount value = .ok rounded) :
    roundAmount rounded = .ok rounded ∧ ((∀ x, value ≠ .number x) ∧ rounded = value ∨
      ∃ x, rounded = .number x ∧ SigFigs 2 x ∧ ∃ y, value = .number y) := by
  cases value with
  | number y =>
    obtain ⟨x, rounds, rfl⟩ := map_eq_ok.mp ok
    refine ⟨?_, .inr ⟨x, rfl, sigFigs_roundSigFigs rounds, y, rfl⟩⟩
    rw [roundAmount, roundSigFigs_again rounds]
    rfl
  | none => cases ok; exact ⟨rfl, .inl ⟨nofun, rfl⟩⟩
  | bool b => cases ok; exact ⟨rfl, .inl ⟨nofun, rfl⟩⟩
  | text t => cases ok; exact ⟨rfl, .inl ⟨nofun, rfl⟩⟩
  | object o => cases ok; exact ⟨rfl, .inl ⟨nofun, rfl⟩⟩

/-! ## The privacy rules -/

/-- The months are in their formats. -/
def MonthsHold (platform : Platform ω) (read : String → Value ω) : Prop :=
  formatHolds (monthFormat platform.tables) (read "month_they_left") = true ∧
    formatHolds (monthNameFormat platform.tables) (read "month_the_account_empties") = true

lemma applyPrivacyRules_eq_ok_iff : applyPrivacyRules platform read = .ok block ↔
    ∃ typical largest, roundAmount (read "typical_contribution_kes") = .ok typical ∧
      roundAmount (read "largest_contribution_kes") = .ok largest ∧ MonthsHold platform read ∧
      block = corrected read typical largest := by
  rw [applyPrivacyRules, bind_eq_ok]
  constructor
  · rintro ⟨typical, first, rest⟩
    obtain ⟨largest, second, rest⟩ := bind_eq_ok.mp rest
    split_ifs at rest with left empties
    cases rest
    exact ⟨typical, largest, first, second, ⟨by simpa using left, by simpa using empties⟩, rfl⟩
  · rintro ⟨typical, largest, first, second, ⟨left, empties⟩, rfl⟩
    refine ⟨typical, first, ?_⟩
    rw [second, Except.bind, if_neg (by rw [left]; exact nofun), if_neg (by rw [empties]; exact nofun)]

lemma applyPrivacyRules_overflow_iff (platform : Platform ω) : applyPrivacyRules platform read = .error .overflowError ↔
    (read "typical_contribution_kes").isInfinite = true ∨
      read "typical_contribution_kes" ≠ .number .nan ∧ (read "largest_contribution_kes").isInfinite = true := by
  rw [applyPrivacyRules]
  rcases roundAmount_cases (read "typical_contribution_kes") with ⟨eq, raises⟩ | ⟨inf, raises⟩ | ⟨no, fin, _, first⟩
  · rw [raises, eq]
    simp [Except.bind, Value.isInfinite]
  · rw [raises]
    simp [Except.bind, inf]
  · rw [first]
    simp only [Except.bind, fin, no, ne_eq, not_false_eq_true, true_and, Bool.false_eq_true, false_or]
    rcases roundAmount_cases (read "largest_contribution_kes") with ⟨eq, raises⟩ | ⟨inf, raises⟩ | ⟨_, fin', _, second⟩
    · rw [raises, eq]
      simp [Value.isInfinite]
    · rw [raises]
      simp [inf]
    · rw [second]
      simp only [fin']
      split_ifs <;> simp

lemma modelFactBlock_eq_ok_iff : modelFactBlock platform payload = .ok block ↔
    ∃ read, readFields platform modelFields payload = some read ∧ applyPrivacyRules platform read = .ok block := by
  rw [modelFactBlock]
  cases readFields platform modelFields payload with
  | none => simp
  | some read =>
    simp only [Option.some.injEq, exists_eq_left']
    cases applyPrivacyRules platform read with
    | ok built => simp
    | error e => cases e <;> simp

/-- An amount of a payload that is otherwise right is infinite. -/
def Overflows (platform : Platform ω) (payload : Dict String (Value ω)) : Prop :=
  ∃ read, readFields platform modelFields payload = some read ∧
    ((read "typical_contribution_kes").isInfinite = true ∨
      read "typical_contribution_kes" ≠ .number .nan ∧ (read "largest_contribution_kes").isInfinite = true)

lemma validate_overflow_iff :
    validateAgainstKnownSchema platform payload = .error .overflowError ↔ Overflows platform payload := by
  rw [validateAgainstKnownSchema, modelFactBlock, Overflows, riskFactBlock]
  cases readFields platform modelFields payload with
  | none =>
    simp only [reduceCtorEq, false_and, exists_false, iff_false]
    cases readFields platform riskFields payload <;> exact nofun
  | some read =>
    simp only [Option.some.injEq, exists_eq_left', ← applyPrivacyRules_overflow_iff platform]
    cases applyPrivacyRules platform read with
    | ok built => simp
    | error e =>
      cases e with
      | overflowError => simp
      | valueError =>
        simp only [reduceCtorEq, Except.error.injEq, iff_false]
        cases readFields platform riskFields payload <;> exact nofun

/-- Corrections keep the types. -/
lemma typed_corrected {typical largest : Value ω} (typed : Typed modelFields read)
    (first : roundAmount (read "typical_contribution_kes") = .ok typical)
    (second : roundAmount (read "largest_contribution_kes") = .ok largest) :
    Typed modelFields (corrected read typical largest) := by
  have amount (field : String) (known : modelFields.lookup field = some .number) (value : Value ω)
      (rounds : roundAmount (read field) = .ok value) (there : value ≠ .none) :
      ∃ kind, modelFields.lookup field = some kind ∧ accepts kind value = true := by
    refine ⟨.number, known, ?_⟩
    rcases (roundAmount_ok rounds).2 with ⟨no_number, rfl⟩ | ⟨x, rfl, -⟩
    · obtain ⟨kind, known', accepted⟩ := typed field there
      rw [known] at known'
      cases known'
      exact accepted
    · rfl
  intro name there
  rw [corrected] at there ⊢
  split_ifs at there ⊢ with typ lar years interval
  · rw [typ]
    exact amount _ rfl typical first there
  · rw [lar]
    exact amount _ rfl largest second there
  · have given : read name ≠ .none := by
      intro absent
      rw [absent] at there
      exact there rfl
    obtain ⟨kind, known, accepted⟩ := typed name given
    have number : kind = .number := by
      rw [years] at known
      exact (Option.some.inj known).symm
    subst number
    refine ⟨.number, known, ?_⟩
    cases here : read name with
    | number x => rfl
    | _ =>
      rw [here] at accepted
      cases accepted
  · exact absurd rfl there
  · exact typed name there

/-- What `ModelFactBlock` builds is built from its own facts again. -/
lemma applyPrivacyRules_again (built : applyPrivacyRules platform read = .ok block) :
    applyPrivacyRules platform block = .ok block := by
  obtain ⟨typical, largest, first, second, months, rfl⟩ := applyPrivacyRules_eq_ok_iff.mp built
  refine applyPrivacyRules_eq_ok_iff.mpr
    ⟨typical, largest, (roundAmount_ok first).1, (roundAmount_ok second).1, months, ?_⟩
  have band : corrected read typical largest "cadence_band" = read "cadence_band" := rfl
  funext name
  rw [corrected.eq_1 (corrected read typical largest), band]
  split_ifs with typ lar years interval
  · rw [corrected, if_pos typ]
  · rw [corrected, if_neg typ, if_pos lar]
  · rw [corrected, if_neg typ, if_neg lar, if_pos years]
    cases read name with
    | number x => exact congrArg Value.number (round_round x 1).symm
    | _ => rfl
  · rw [corrected, if_neg typ, if_neg lar, if_neg years, if_pos interval]
  · rfl

/-- What is known of a block of `ModelFactBlock`. -/
structure Built (platform : Platform ω) (block : String → Value ω) : Prop where
  typed : Typed modelFields block
  again : applyPrivacyRules platform block = .ok block
  amounts : ∀ name, name = "typical_contribution_kes" ∨ name = "largest_contribution_kes" →
    block name = .none ∨ ∃ x, block name = .number x ∧ SigFigs 2 x
  years : block "years_since_exit" = .none ∨ ∃ x : PyNumber, block "years_since_exit" = .number (x.round 1)
  interval : noCadence (block "cadence_band") = true → block "invested_every_n_days" = .none

lemma built_of_modelFactBlock (built : modelFactBlock platform payload = .ok block) : Built platform block := by
  obtain ⟨read, valid, rules⟩ := modelFactBlock_eq_ok_iff.mp built
  have again := applyPrivacyRules_again rules
  obtain ⟨typical, largest, first, second, months, rfl⟩ := applyPrivacyRules_eq_ok_iff.mp rules
  have raw := typed_of_readFields valid
  have typed := typed_corrected raw first second
  have number (name : String) (known : modelFields.lookup name = some .number)
      (there : corrected read typical largest name ≠ .none) :
      ∃ x, corrected read typical largest name = .number x := by
    obtain ⟨kind, known', accepted⟩ := typed name there
    rw [known] at known'
    cases known'
    cases here : corrected read typical largest name with
    | number x => exact ⟨x, rfl⟩
    | _ =>
      rw [here] at accepted
      cases accepted
  have amount (name : String) (known : modelFields.lookup name = some .number) (value : Value ω)
      (rounds : roundAmount (read name) = .ok value) (same : corrected read typical largest name = value) :
      corrected read typical largest name = .none ∨
        ∃ x, corrected read typical largest name = .number x ∧ SigFigs 2 x := by
    by_cases there : corrected read typical largest name = .none
    · exact .inl there
    · obtain ⟨x, eq⟩ := number name known there
      rcases (roundAmount_ok rounds).2 with ⟨no_number, kept⟩ | ⟨y, eq', figures, -⟩
      · exact absurd (kept.symm.trans (same.symm.trans eq)) (no_number x)
      · exact .inr ⟨y, same.trans eq', figures⟩
  constructor
  · exact typed
  · exact again
  · rintro name (rfl | rfl)
    · exact amount _ rfl typical first rfl
    · exact amount _ rfl largest second rfl
  · by_cases there : corrected read typical largest "years_since_exit" = .none
    · exact .inl there
    · obtain ⟨x, eq⟩ := number _ rfl there
      have rounded : roundYears (read "years_since_exit") = .number x := eq
      cases given : read "years_since_exit" with
      | number y =>
        rw [given] at rounded
        exact .inr ⟨y, eq.trans rounded.symm⟩
      | _ =>
        rw [given] at rounded
        cases rounded
  · intro no_cadence
    exact if_pos (And.intro rfl no_cadence)

/-! ## Payloads that pass -/

/-- The payload validates, and holds nothing finer than its schema keeps. -/
structure Coarse (platform : Platform ω) (payload : Dict String (Value ω)) : Prop where
  valid : ∃ block, modelFactBlock platform payload = .ok block ∨ riskFactBlock platform payload = .ok block
  amounts : ∀ name, name = "typical_contribution_kes" ∨ name = "largest_contribution_kes" →
    payload.getD name .none ≠ .none → ∃ x, number? platform (payload.getD name .none) = some x ∧ SigFigs 2 x
  years : payload.getD "years_since_exit" .none ≠ .none →
    ∃ x, number? platform (payload.getD "years_since_exit" .none) = some x ∧ Decimals 1 x
  interval : noCadence (payload.getD "cadence_band" .none) = true →
    payload.getD "invested_every_n_days" .none = .none

/-- A corrected field of a payload without corrections counts as its validated value. -/
lemma equals_of_uncorrected (none_corrected : uncorrectedFields platform payload block = [])
    (field : name ∈ validatorCorrectedFields) (there : payload.getD name .none ≠ .none) :
    ∃ x y, number? platform (payload.getD name .none) = some x ∧ number? platform (block name) = some y ∧
      x.equals y = true := by
  have kept := (List.filter_eq_nil_iff.mp none_corrected) name field
  rw [present_iff.mpr there, Bool.true_and, differs] at kept
  split at kept
  · rename_i a b given built
    exact ⟨a, b, given, built, by simpa using kept⟩
  · exact absurd rfl kept

lemma coarse_of_uncorrected (valid : validateAgainstKnownSchema platform payload = .ok block)
    (none_corrected : uncorrectedFields platform payload block = []) : Coarse platform payload := by
  rw [validateAgainstKnownSchema] at valid
  split at valid
  · rename_i built_ok
    cases valid
    have built := built_of_modelFactBlock built_ok
    have same (name : String) (field : name ∈ validatorCorrectedFields)
        (there : payload.getD name .none ≠ .none) (value : PyNumber) (eq : block name = .number value) :
        number? platform (payload.getD name .none) = some value ∧ value ≠ .nan := by
      obtain ⟨x, y, given, held, equal⟩ := equals_of_uncorrected none_corrected field there
      rw [eq] at held
      cases held
      obtain ⟨rfl, number⟩ := equals_iff.mp equal
      exact ⟨given, number⟩
    have held (name : String) (field : name ∈ validatorCorrectedFields)
        (there : payload.getD name .none ≠ .none) : block name ≠ .none := by
      intro absent
      obtain ⟨x, y, -, held, -⟩ := equals_of_uncorrected none_corrected field there
      rw [absent] at held
      cases held
    refine ⟨⟨block, .inl built_ok⟩, fun name amount there => ?_, fun there => ?_, fun no_cadence => ?_⟩
    · have field : name ∈ validatorCorrectedFields := by
        rcases amount with rfl | rfl <;> decide
      obtain ⟨x, eq, figures⟩ := (built.amounts name amount).resolve_left (held name field there)
      exact ⟨x, (same name field there x eq).1, figures⟩
    · have field : "years_since_exit" ∈ validatorCorrectedFields := by decide
      obtain ⟨x, eq⟩ := built.years.resolve_left (held _ field there)
      obtain ⟨given, number⟩ := same _ field there _ eq
      exact ⟨_, given, decimals_round fun nan => number (by rw [nan]; rfl)⟩
    · by_contra there
      obtain ⟨read, fields, rules⟩ := modelFactBlock_eq_ok_iff.mp built_ok
      obtain ⟨typical, largest, -, -, -, rfl⟩ := applyPrivacyRules_eq_ok_iff.mp rules
      have band : read "cadence_band" = payload.getD "cadence_band" .none := by
        apply read_of_accepts fields rfl
        cases given : payload.getD "cadence_band" .none with
        | none => exact .inl rfl
        | text band =>
          rw [given] at no_cadence
          right
          rw [of_decide_eq_true no_cadence]
          rfl
        | _ =>
          rw [given] at no_cadence
          cases no_cadence
      apply held "invested_every_n_days" (by decide) there
      have both : "invested_every_n_days" = "invested_every_n_days" ∧ noCadence (read "cadence_band") = true :=
        ⟨rfl, band.symm ▸ no_cadence⟩
      exact if_pos both
  · cases valid
  · rename_i refused
    have risk := valid
    rw [riskFactBlock] at valid
    split at valid
    · cases valid
    · rename_i fields
      have absent (name : String) (unknown : name ∉ riskFields.map Prod.fst) : payload.getD name .none = .none := by
        have missing : payload.get? name = none := by
          rw [Dict.get?_eq_none_iff]
          exact fun given => unknown (mem_of_readFields fields given)
        rw [Dict.getD, missing]
        rfl
      refine ⟨⟨block, .inr risk⟩, fun name amount there => ?_, fun there => ?_, fun _ => absent _ (by decide)⟩
      · refine absurd (absent name ?_) there
        rcases amount with rfl | rfl <;> decide
      · exact absurd (absent _ (by decide)) there

/-! ## Texts of bands -/

/-- ASCII, and none of the characters of an address, an amount, a date or a JSON number. -/
def plainChar (c : Char) : Bool := c.toNat < 128 && c ∉ ['@', ',', '.', '-', '/', '$', 'K', 'D', '\x7d', ']']

/-- No digit has another within the two characters after it, and none is the last. -/
def digitsApart : List Char → Bool
  | [] => true
  | [x] => !x.isDigit
  | x :: y :: rest => (!x.isDigit || !y.isDigit && !rest.head?.any Char.isDigit) && digitsApart (y :: rest)

def quiet (text : List Char) : Bool := text.all plainChar && digitsApart text

/-- The values of a field are quiet in print. -/
def quietKind : FactKind → Bool
  | .band values => values.all fun value => quiet value.toList
  | .flag => true
  | _ => false

lemma digitsApart_tail {x : Char} {rest : List Char} (apart : digitsApart (x :: rest) = true) :
    digitsApart rest = true := by
  cases rest with
  | nil => rfl
  | cons y rest =>
    rw [digitsApart, Bool.and_eq_true] at apart
    exact apart.2

lemma digitsApart_suffix {text rest : List Char} (within : rest <:+ text) (apart : digitsApart text = true) :
    digitsApart rest = true := by
  obtain ⟨front, rfl⟩ := within
  induction front with
  | nil => exact apart
  | cons x front ih => exact ih (digitsApart_tail apart)

lemma digitsApart_space {text : List Char} (apart : digitsApart text = true) : digitsApart (' ' :: text) = true := by
  cases text with
  | nil => rfl
  | cons y rest =>
    rw [digitsApart, apart]
    rfl

lemma digitsApart_append {text : List Char} (apart : digitsApart text = true) :
    ∀ word : List Char, digitsApart word = true → digitsApart (word ++ ' ' :: text) = true
  | [], _ => digitsApart_space apart
  | [x], last => by
    rw [List.singleton_append, digitsApart, digitsApart_space apart]
    rw [digitsApart] at last
    rw [last]
    rfl
  | x :: y :: rest, inside => by
    rw [digitsApart, Bool.and_eq_true] at inside
    have later := digitsApart_append apart (y :: rest) inside.2
    rw [List.cons_append, List.cons_append, digitsApart, ← List.cons_append, later, Bool.and_true]
    cases rest with
    | nil =>
      rcases Bool.or_eq_true_iff.mp inside.1 with no_digit | next
      · rw [no_digit, Bool.true_or]
      · rw [Bool.and_eq_true] at next
        rw [next.1]
        exact Bool.or_true _
    | cons z rest => exact inside.1

lemma quiet_intercalate {words : List String} (all : ∀ word ∈ words, quiet word.toList = true) :
    quiet (" ".intercalate words).toList = true := by
  induction words with
  | nil =>
    rw [String.intercalate_nil]
    rfl
  | cons word words ih =>
    cases words with
    | nil =>
      rw [String.intercalate_singleton]
      exact all word List.mem_cons_self
    | cons next words =>
      have first := all word List.mem_cons_self
      have rest := ih fun other mem => all other (List.mem_cons_of_mem word mem)
      rw [String.intercalate_cons_cons, String.toList_append, String.toList_append]
      rw [quiet, Bool.and_eq_true] at first rest ⊢
      constructor
      · rw [List.all_append, List.all_append, first.1, rest.1]
        rfl
      · rw [List.append_assoc]
        exact digitsApart_append rest.2 word.toList first.2

/-! ## Nothing is found in a quiet text -/

section Quiet

variable {text : List Char} (calm : quiet text = true)
include calm

lemma plain_of_quiet : ∀ c ∈ text, plainChar c = true := by
  rw [quiet, Bool.and_eq_true] at calm
  exact List.all_eq_true.mp calm.1

lemma unmatched_email (tables : Unicode) : Regex.Unmatched (emailPattern tables) text := by
  apply Regex.Needs.unmatched _ (plain_of_quiet calm)
  exact Regex.needs_seqs (List.mem_cons_of_mem _ List.mem_cons_self)
    (Regex.needs_lit (x := '@') List.mem_cons_self rfl)

lemma unmatched_date (tables : Unicode) : Regex.Unmatched (datePattern tables) text := by
  apply Regex.Needs.unmatched _ (plain_of_quiet calm)
  apply Regex.needs_alts
  rw [List.forall_mem_cons, List.forall_mem_singleton]
  constructor
  · exact Regex.needs_seqs (.tail _ (.tail _ (.head _))) (Regex.needs_lit (x := '-') List.mem_cons_self rfl)
  · exact Regex.needs_seqs (.tail _ (.tail _ (.head _))) (Regex.needs_lit (x := '/') List.mem_cons_self rfl)

lemma unmatched_jsonNumber (tables : Unicode) : Regex.Unmatched (jsonNumberPattern tables) text := by
  apply Regex.Needs.unmatched _ (plain_of_quiet calm)
  apply Regex.needs_seqs (.tail _ (.tail _ (.tail _ (.head _))))
  apply Regex.needs_ahead
  intro x plain
  apply decide_eq_false
  intro mem
  rcases mem with _ | ⟨_, _ | ⟨_, _ | ⟨_, mem⟩⟩⟩
  · cases plain
  · cases plain
  · cases plain
  · cases mem

lemma unmatched_money (tables : Unicode) : Regex.Unmatched (moneyPattern tables) text := by
  have tag (word : List Char) (x : Char) (mem : x ∈ word) (fails : plainChar x = false) :
      Regex.Needs plainChar (.lit word) := Regex.needs_lit mem fails
  apply Regex.Needs.unmatched _ (plain_of_quiet calm)
  apply Regex.needs_alts
  rw [List.forall_mem_cons, List.forall_mem_cons, List.forall_mem_singleton]
  refine ⟨?_, ?_, ?_⟩
  · apply Regex.needs_seqs (.head _)
    apply Regex.needs_alts
    rw [List.forall_mem_map]
    intro word mem
    have currency : 'K' ∈ word.toList ∨ 'D' ∈ word.toList ∨ '$' ∈ word.toList := by
      revert word
      decide +kernel
    rcases currency with mem | mem | mem
    · exact tag word.toList 'K' mem rfl
    · exact tag word.toList 'D' mem rfl
    · exact tag word.toList '$' mem rfl
  · apply Regex.needs_seqs (.tail _ (.head _))
    exact Regex.needs_plus (Regex.needs_seq_left (tag [','] ',' List.mem_cons_self rfl) _)
  · exact Regex.needs_seqs (.tail _ (.head _)) (tag ['.'] '.' List.mem_cons_self rfl)

omit calm

/-- One digit of a number, with what may follow it. -/
lemma after_of_digit {tables : Unicode} {p : Char → Bool} {c d : Cursor Char}
    (found : d ∈ Regex.ends (.seq (digitClass tables) (.opt (.one p))) c) :
    ∃ x rest, c.after = x :: rest ∧ tables.digit x = true ∧ (d.after = rest ∨ ∃ y, rest = y :: d.after) := by
  rw [Regex.ends] at found
  obtain ⟨mid, first, second⟩ := List.mem_flatMap.mp found
  rw [digitClass, Regex.ends] at first
  cases ahead : c.after with
  | nil =>
    rw [ahead] at first
    cases first
  | cons x rest =>
    rw [ahead] at first
    simp only at first
    split_ifs at first with digit
    · cases List.mem_singleton.mp first
      refine ⟨x, rest, rfl, digit, ?_⟩
      rw [Regex.opt, Regex.ends, List.mem_append] at second
      rcases second with taken | left
      · obtain ⟨found, cut, -⟩ := Regex.reaches_of_mem_ends taken
        rw [Regex.ends] at taken
        cases rest with
        | nil => cases taken
        | cons y rest =>
          simp only at taken
          split_ifs at taken
          · cases List.mem_singleton.mp taken
            exact .inr ⟨y, rfl⟩
          · cases taken
      · cases List.mem_singleton.mp left
        exact .inl rfl
    · cases first

include calm

lemma unmatched_accountOrPhone (platform : Platform ω) :
    Regex.Unmatched (accountOrPhonePattern platform.tables) text := by
  intro c within
  have apart : digitsApart c.after = true := by
    rw [quiet, Bool.and_eq_true] at calm
    exact digitsApart_suffix within calm.2
  have ascii : ∀ x ∈ c.after, platform.tables.digit x = x.isDigit := by
    intro x mem
    have plain := plain_of_quiet calm x (within.mem mem)
    rw [plainChar, Bool.and_eq_true] at plain
    exact platform.digits x (of_decide_eq_true plain.1)
  rw [accountOrPhonePattern, Regex.atLeast, Regex.ends, List.flatMap_eq_nil_iff]
  intro e seven
  rw [Regex.times, Regex.ends] at seven
  obtain ⟨d, first, rest⟩ := List.mem_flatMap.mp seven
  rw [Regex.times, Regex.ends] at rest
  obtain ⟨d', second, -⟩ := List.mem_flatMap.mp rest
  obtain ⟨x, later, cut, digit, left⟩ := after_of_digit first
  obtain ⟨x', later', cut', digit', -⟩ := after_of_digit second
  rw [cut] at apart ascii
  rw [ascii x List.mem_cons_self] at digit
  rcases left with left | ⟨y, left⟩
  · rw [cut'] at left
    rw [← left] at apart ascii
    rw [ascii x' (.tail _ (.head _))] at digit'
    rw [digitsApart, digit, digit'] at apart
    cases apart
  · rw [cut'] at left
    rw [left] at apart ascii
    rw [ascii x' (.tail _ (.tail _ (.head _)))] at digit'
    rw [digitsApart, digit, List.head?_cons, Option.any_some, digit', Bool.not_true, Bool.and_false] at apart
    cases apart

/-- No pattern of the inbound scan is in a quiet text. -/
lemma patternReasons_of_quiet (platform : Platform ω) :
    patternReasons platform.tables text inboundCategories = [] := by
  rw [patternReasons]
  simp only [Regex.sub_of_unmatched_all (unmatched_date calm platform.tables),
    Regex.sub_of_unmatched_all (unmatched_jsonNumber calm platform.tables)]
  rw [List.map_eq_nil_iff, List.filter_eq_nil_iff]
  intro category _ found
  rw [ite_self] at found
  have unmatched : Regex.Unmatched (category.pattern platform.tables) text := by
    cases category with
    | email => exact unmatched_email calm platform.tables
    | accountOrPhone => exact unmatched_accountOrPhone calm platform
    | money => exact unmatched_money calm platform.tables
    | date => exact unmatched_date calm platform.tables
  rw [Regex.search_of_unmatched unmatched] at found
  cases found

end Quiet

/-! ## The facts of a block -/

/-- Every value has a text. -/
def Printable (platform : Platform ω) (payload : Dict String (Value ω)) : Prop :=
  ∀ entry ∈ payload.items, ∃ text, print platform entry.2 = some text

/-- The scan reads the shape and the texts of a payload whose values have texts. -/
lemma scanInbound_of_printable (printable : Printable platform payload) :
    ∃ printed, (∀ text ∈ printed, ∃ entry ∈ payload.items, print platform entry.2 = some text) ∧
      ∀ identifiers, scanInbound platform payload identifiers =
        (checkShape platform payload (" ".intercalate printed).toList).bind fun _ =>
          raiseReasons (literalReasons platform.tables (" ".intercalate printed).toList identifiers) := by
  obtain ⟨printed, made⟩ := exists_mapM_iff.mpr printable
  refine ⟨printed, exists_of_mapM_eq_some made, fun identifiers => ?_⟩
  rw [scanInbound, made]

lemma scanInbound_of_unprintable (unprintable : ¬Printable platform payload) (identifiers : List String) :
    scanInbound platform payload identifiers = .error .unprintable := by
  have made : payload.items.mapM (fun entry => print platform entry.2) = none := by
    rw [Option.eq_none_iff_forall_ne_some]
    exact fun printed made => unprintable (exists_mapM_iff.mp ⟨printed, made⟩)
  rw [scanInbound, made]

/-- The allowed keys of the older payloads hold bands and flags. -/
lemma quietKind_of_allowed : ∀ key ∈ modelAllowedKeys, (modelFields.lookup key).any quietKind = true :=
  List.all_eq_true.mp rfl

lemma quiet_print {kind : FactKind} (calm : quietKind kind = true) {value : Value ω}
    (typed : accepts kind value = true) {text : String} (printed : print platform value = some text) :
    quiet text.toList = true := by
  cases kind with
  | band values =>
    cases value with
    | text given =>
      cases printed
      exact List.all_eq_true.mp calm text (of_decide_eq_true typed)
    | _ => cases typed
  | flag =>
    cases value with
    | bool b =>
      cases printed
      cases b <;> rfl
    | _ => cases typed
  | _ => cases calm

/-- Bands and flags of a block alone have no text that a pattern finds. -/
lemma checkShape_of_keyedInside (built : Built platform block)
    (inside : keyedInside (toDict modelFields block) = true) {printed : List String}
    (texts : ∀ text ∈ printed, ∃ entry ∈ (toDict modelFields block).items, print platform entry.2 = some text) :
    checkShape platform (toDict modelFields block) (" ".intercalate printed).toList = .ok () := by
  have calm : quiet (" ".intercalate printed).toList = true := by
    apply quiet_intercalate
    intro text mem
    obtain ⟨⟨name, value⟩, here, shown⟩ := texts text mem
    have held := (Dict.mem_items_iff _).mp here
    obtain ⟨same, there⟩ := get?_toDict modelFields_nodup built.typed held
    obtain ⟨kind, known, accepted⟩ := built.typed name (same.symm ▸ there)
    have allowed : name ∈ modelAllowedKeys :=
      of_decide_eq_true (List.all_eq_true.mp inside name ((Dict.mem_keys_iff _).mpr ⟨value, held⟩))
    have quiet_kind := quietKind_of_allowed name allowed
    rw [known, Option.any_some] at quiet_kind
    exact quiet_print quiet_kind (same ▸ accepted) shown
  rw [checkShape, if_pos inside, patternReasons_of_quiet calm platform]
  rfl

lemma validate_toDict (built : Built platform block) :
    validateAgainstKnownSchema platform (toDict modelFields block) = .ok block := by
  have same : modelFactBlock platform (toDict modelFields block) = .ok block :=
    modelFactBlock_eq_ok_iff.mpr ⟨block, readFields_toDict modelFields_nodup built.typed, built.again⟩
  rw [validateAgainstKnownSchema, same]

lemma differs_number (x : PyNumber) : differs platform (.number x) (.number x) = true ↔ x = .nan := by
  have unequal : (!x.equals x) = true ↔ x = .nan := by
    rw [Bool.not_eq_true', ← Bool.not_eq_true, equals_iff]
    simp
  exact unequal

/-- The years are the only figure of a block that can differ from itself. -/
lemma uncorrected_toDict_iff (built : Built platform block) :
    uncorrectedFields platform (toDict modelFields block) block = [] ↔
      block "years_since_exit" ≠ .number .nan := by
  have amount (name : String) (field : name = "typical_contribution_kes" ∨ name = "largest_contribution_kes") :
      ¬(present (block name) && differs platform (block name) (block name)) = true := by
    rcases built.amounts name field with absent | ⟨x, eq, figures⟩
    · rw [absent]
      exact nofun
    · rw [eq, Bool.and_eq_true, differs_number]
      rintro ⟨-, rfl⟩
      exact figures
  have interval : ¬(present (block "invested_every_n_days") &&
      differs platform (block "invested_every_n_days") (block "invested_every_n_days")) = true := by
    rw [Bool.and_eq_true, present_iff]
    rintro ⟨there, differ⟩
    obtain ⟨kind, known, accepted⟩ := built.typed _ there
    obtain rfl : FactKind.whole = kind := Option.some.inj known
    cases eq : block "invested_every_n_days" with
    | number x =>
      rw [eq] at accepted differ
      rw [(differs_number x).mp differ] at accepted
      cases accepted
    | _ =>
      rw [eq] at accepted
      cases accepted
  have years : (present (block "years_since_exit") &&
      differs platform (block "years_since_exit") (block "years_since_exit")) = true ↔
        block "years_since_exit" = .number .nan := by
    rcases built.years with absent | ⟨x, eq⟩
    · rw [absent]
      simp [present]
    · rw [eq, Bool.and_eq_true, differs_number]
      simp [present]
  rw [uncorrectedFields, List.filter_eq_nil_iff]
  simp only [getD_toDict modelFields_nodup built.typed]
  constructor
  · exact fun none_differs nan => none_differs _ (.tail _ (.tail _ (.head _))) (years.mpr nan)
  · intro number name field
    rcases field with _ | ⟨_, _ | ⟨_, _ | ⟨_, _ | ⟨_, field⟩⟩⟩⟩
    · exact amount _ (.inl rfl)
    · exact amount _ (.inr rfl)
    · exact fun differ => number (years.mp differ)
    · exact interval
    · cases field

lemma raiseReasons_cases (reasons : List String) :
    raiseReasons reasons = .ok () ∨ ∃ reason, raiseReasons reasons = .error (.inboundLeak reason) := by
  rw [raiseReasons]
  split_ifs
  · exact .inl rfl
  · exact .inr ⟨_, rfl⟩

/-- Outside the older keys the scan answers by `InboundLeak` alone, and lets only coarse payloads through, unless
    a value has no text or an amount is infinite; the facts of a block pass it when they have texts and the
    years are a number; and an amount is rounded once and for all. -/
theorem coarsened_iff (platform : Platform ω) :
    (∀ payload identifiers, keyedInside payload = false →
      (((∃ reason, scanInbound platform payload identifiers = .error (.inboundLeak reason)) ∨
          scanInbound platform payload identifiers = .ok () ∧ Coarse platform payload) ↔
        Printable platform payload ∧ ¬Overflows platform payload)) ∧
    (∀ figures block, modelFactBlock platform figures = .ok block →
      (scanInbound platform (toDict modelFields block) [] = .ok () ↔
        Printable platform (toDict modelFields block) ∧ block "years_since_exit" ≠ .number .nan)) ∧
    ∀ value rounded, roundSigFigs value 2 = .ok rounded → roundSigFigs rounded 2 = .ok rounded := by
  refine ⟨fun payload identifiers outside => ?_, fun figures block figured => ?_, fun _ _ => roundSigFigs_again⟩
  · by_cases printable : Printable platform payload
    swap
    · rw [scanInbound_of_unprintable printable]
      simp [printable]
    obtain ⟨printed, -, scan⟩ := scanInbound_of_printable printable
    rw [scan, ← validate_overflow_iff, checkShape, outside, if_neg nofun]
    simp only [printable, true_and]
    cases valid : validateAgainstKnownSchema platform payload with
    | error e =>
      cases e with
      | overflowError => simp [Except.bind]
      | validationError => simp [Except.bind]
    | ok block =>
      simp only [reduceCtorEq, not_false_eq_true, iff_true]
      split_ifs with none_corrected
      · have coarse := coarse_of_uncorrected valid none_corrected
        rcases raiseReasons_cases (literalReasons platform.tables (" ".intercalate printed).toList identifiers)
          with ok | leak
        · exact .inr ⟨ok, coarse⟩
        · exact .inl leak
      · exact .inl ⟨_, rfl⟩
  · have built := built_of_modelFactBlock figured
    by_cases printable : Printable platform (toDict modelFields block)
    swap
    · rw [scanInbound_of_unprintable printable]
      simp [printable]
    obtain ⟨printed, texts, scan⟩ := scanInbound_of_printable printable
    have passes : scanInbound platform (toDict modelFields block) [] = .ok () ↔
        checkShape platform (toDict modelFields block) (" ".intercalate printed).toList = .ok () := by
      rw [scan []]
      cases checkShape platform (toDict modelFields block) (" ".intercalate printed).toList with
      | error e => simp [Except.bind]
      | ok _ => exact ⟨fun _ => rfl, fun _ => rfl⟩
    rw [passes, ← uncorrected_toDict_iff built]
    simp only [printable, true_and]
    cases inside : keyedInside (toDict modelFields block) with
    | true =>
      refine iff_of_true (checkShape_of_keyedInside built inside texts) ?_
      rw [uncorrected_toDict_iff built]
      intro nan
      have held : "years_since_exit" ∈ (toDict modelFields block).keys := by
        rw [Dict.mem_keys_iff]
        by_contra missing
        have absent : (toDict modelFields block).get? "years_since_exit" = none :=
          Option.eq_none_iff_forall_ne_some.mpr fun value held => missing ⟨value, held⟩
        have eq := getD_toDict modelFields_nodup built.typed "years_since_exit"
        rw [Dict.getD, absent, nan] at eq
        cases eq
      exact absurd (of_decide_eq_true (List.all_eq_true.mp inside _ held)) (by decide)
    | false =>
      rw [checkShape, inside, if_neg nofun, validate_toDict built]
      simp only
      split_ifs with none_corrected
      · simp [none_corrected]
      · simp [none_corrected]

/-- A platform on ASCII texts, with no other objects and no conversions. -/
def plainPlatform : Platform Empty where
  tables := .ascii
  digits _ _ := rfl
  printNumber
    | .finite value => some (toString value.num ++ if value.den = 1 then "" else "/" ++ toString value.den)
    | .infinite negative => some (if negative then "-inf" else "inf")
    | .nan => some "nan"
  printObject := nofun
  numberOf := nofun
  lax _ _ := none
  validationText _ := "validation error"

/-- A payload with one figure. -/
def figure (name : String) (value : PyNumber) : Dict String (Value Empty) := .ofList [(name, .number value)]

/-- A rounded amount passes. -/
theorem coarsened_rounded :
    scanInbound plainPlatform (figure "typical_contribution_kes" (.finite 25000)) [] = .ok () ∧
      Coarse plainPlatform (figure "typical_contribution_kes" (.finite 25000)) := by
  have outside : keyedInside (figure "typical_contribution_kes" (.finite 25000)) = false := by decide +kernel
  have printable : Printable plainPlatform (figure "typical_contribution_kes" (.finite 25000)) := by
    intro entry mem
    obtain rfl := List.mem_singleton.mp (mem : entry ∈ [_])
    exact ⟨_, rfl⟩
  have passes : scanInbound plainPlatform (figure "typical_contribution_kes" (.finite 25000)) [] = .ok () := by
    decide +kernel
  have finite : ¬Overflows plainPlatform (figure "typical_contribution_kes" (.finite 25000)) := by
    rw [← validate_overflow_iff]
    intro overflows
    obtain ⟨printed, -, scan⟩ := scanInbound_of_printable printable
    rw [scan, checkShape, outside, if_neg nofun, overflows] at passes
    cases passes
  rcases ((coarsened_iff plainPlatform).1 _ [] outside).mpr ⟨printable, finite⟩ with ⟨reason, leaks⟩ | coarse
  · rw [passes] at leaks
    cases leaks
  · exact coarse

/-- An infinite amount raises `OverflowError`, and the facts of a block with NaN for its years are a leak. -/
theorem infinite_amount_overflows :
    (keyedInside (figure "typical_contribution_kes" (.infinite false)) = false ∧
      scanInbound plainPlatform (figure "typical_contribution_kes" (.infinite false)) [] = .error .overflowError) ∧
    ∃ block, modelFactBlock plainPlatform (figure "years_since_exit" .nan) = .ok block ∧
      scanInbound plainPlatform (toDict modelFields block) [] = .error (.inboundLeak
        "payload carried a value the schema would have corrected: ['years_since_exit']") := by
  refine ⟨⟨by decide +kernel, by decide +kernel⟩, _, rfl, by decide +kernel⟩

end ClientEngagement.Privacy.Inbound
