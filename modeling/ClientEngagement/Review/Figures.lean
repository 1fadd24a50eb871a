import ClientEngagement.Review.Substitution

/-!
# Formatted figures

Model of the formatter of `services/review.py` (`formatAmount`, `formatMonth`, and `clientFormat` for the values
of `_placeholder_facts_for_client`). What it prints is a figure that the numeric check of an instance reads as one
number and finds among the written forms of the fact (`amount_traced`, `years_traced`, `days_traced`,
`month_traced`). A resolved body passes the check as long as no figure runs into a digit or into another figure
(`resolved_figures_traceable`).
-/

namespace ClientEngagement.Review
open Privacy (placeholderPattern roundHalfEven monthNames present)

/-- `_format_amount`. -/
def formatAmount (value : ℚ) : List Char :=
  if value.den = 1 then signed (fun value => groupedDigits value.num.toNat) value else fixed groupedDigits 2 value

/-- `_format_month` of a month that `strptime` accepts; `%Y` writes no zeros in front of a year. -/
def formatMonth (text : List Char) : List Char :=
  let year := Nat.ofDigitChars 10 (text.takeWhile (· ≠ '-')) 0
  let month := Nat.ofDigitChars 10 ((text.dropWhile (· ≠ '-')).drop 1) 0
  (monthNames.getD (month - 1) "").toList ++ ' ' :: digitsOf year

/-- How `_placeholder_facts_for_client` prints a fact of the type it has in a fact block. -/
def clientFormat : FactFormat where
  amount
    | .num value => String.ofList (formatAmount value)
    | _ => ""
  general
    | .num value => String.ofList (general value)
    | _ => ""
  plain
    | .num value => String.ofList (signed (fun value => digitsOf value.num.toNat) value)
    | _ => ""
  month
    | .str text => String.ofList (formatMonth text.toList)
    | _ => ""

/-- A month as `YYYY-MM`. -/
def monthText (year month : ℕ) : String := String.ofList (paddedDigits 4 year ++ '-' :: paddedDigits 2 month)

/-- The figures of a client's facts: amounts that are not negative, years to one decimal that `:g` writes without
    an exponent, whole days, and a month of a year that needs all of its four digits. -/
structure ClientFigures (facts : Dict String Json) : Prop where
  amounts : ∀ field ∈ ["typical_contribution_kes", "largest_contribution_kes"], ∀ value,
    facts.get? field = some value → present value = true → ∃ amount : ℚ, value = .num amount ∧ 0 ≤ amount
  years : ∀ value, facts.get? "years_since_exit" = some value → present value = true →
    ∃ tenths : ℕ, value = .num (tenths / 10) ∧ tenths < 9999995
  days : ∀ field ∈ ["days_held_after_last_topup", "invested_every_n_days"], ∀ value,
    facts.get? field = some value → present value = true → ∃ days : ℕ, value = .num days
  month : ∀ value, facts.get? "month_they_left" = some value → present value = true →
    ∃ year month, value = .str (monthText year month) ∧
      (1000 ≤ year ∧ year < 10000) ∧ 1 ≤ month ∧ month ≤ 12

/-! ## Figures are numbers -/

variable {tables : Unicode}

lemma DigitTable.digit (digit_table : DigitTable tables) {c : Char} (digit : c.isDigit = true) :
    tables.digit c = true := by
  rw [digit_table c ?_, digit]
  rw [Char.isDigit, Bool.and_eq_true, decide_eq_true_eq, decide_eq_true_eq] at digit
  have low : c.toNat ≤ '9'.toNat := digit.2
  exact Nat.lt_of_le_of_lt low (by decide)

lemma numberAt_figure (digit_table : DigitTable tables) {figure : List Char} (h : Figure figure) :
    NumberAt tables figure [] := by
  obtain ⟨first, middle, last, fraction, rfl, first_digit, only, _, _, decimal⟩ := h.parts
  have inside : ∀ c ∈ middle, inNumber tables c = true := by
    intro c mem
    rw [inNumber, Bool.or_eq_true]
    rcases only c mem with digit | comma
    · exact .inl (digit_table.digit digit)
    · exact .inr (decide_eq_true comma)
  rcases decimal with rfl | ⟨e, more, rfl, digits⟩
  · rw [List.append_nil]
    exact .whole (digit_table.digit first_digit) inside (fun _ next => absurd next (Option.not_mem_none _))
      fun _ _ next => absurd next.symm (List.cons_ne_nil _ _)
  · exact .decimal (digit_table.digit first_digit) inside (fun c mem => digit_table.digit (digits c mem))
      fun _ next => absurd next (Option.not_mem_none _)

/-- A figure ends with a digit. -/
lemma figure_last {figure : List Char} (h : Figure figure) : ∃ before last, figure = before ++ [last] ∧ last.isDigit = true := by
  obtain ⟨first, middle, last, fraction, rfl, _, _, last_mem, last_digit, decimal⟩ := h.parts
  rcases decimal with rfl | ⟨e, more, rfl, digits⟩
  · rw [List.append_nil]
    obtain ⟨before, eq⟩ := List.getLast?_eq_some_iff.mp last_mem
    exact ⟨before, last, eq, last_digit⟩
  · obtain ⟨before, last, eq⟩ := (List.eq_nil_or_concat (e :: more)).resolve_left (List.cons_ne_nil _ _)
    refine ⟨first :: (middle ++ '.' :: before), last, ?_, digits last (by rw [eq]; simp)⟩
    rw [eq]
    simp

lemma rstripMarks_figure {figure : List Char} (h : Figure figure) : rstripMarks figure = figure := by
  obtain ⟨before, last, rfl, digit⟩ := figure_last h
  have kept : (last = ',' || last = '.') = false := by
    rw [Bool.or_eq_false_iff, decide_eq_false_iff_not, decide_eq_false_iff_not]
    constructor
    · rintro rfl
      exact absurd digit (by decide)
    · rintro rfl
      exact absurd digit (by decide)
  rw [rstripMarks, List.reverse_append, List.reverse_singleton, List.singleton_append,
    List.dropWhile_cons_of_neg (by simpa using kept)]
  simp

lemma numbersIn_figure (digit_table : DigitTable tables) {figure : List Char} (h : Figure figure) :
    numbersIn tables figure = [figure] := by
  have alone := numbersIn_number digit_table (numberAt_figure digit_table h)
  rwa [List.append_nil, rstripMarks_figure h, numbersIn_nil] at alone

/-- A text without digits has no numbers. -/
lemma numbersIn_quiet {text : List Char} (no_digit : ∀ c ∈ text, tables.digit c = false) :
    numbersIn tables text = [] := by
  induction text with
  | nil => rfl
  | cons c text ih =>
    rw [numbersIn_cons (no_digit c List.mem_cons_self), ih fun d mem => no_digit d (List.mem_cons_of_mem _ mem)]

lemma not_endsOpen_quiet {text : List Char} (no_digit : ∀ c ∈ text, tables.digit c = false) :
    ¬ EndsOpen tables text := by
  rintro ⟨before, d, n, stop, rfl, digit, _⟩
  rw [no_digit d (by simp)] at digit
  cases digit

/-- Commas and a full stop are all that may stand before the digit that closes a number. -/
lemma beginsClosing_cons {c : Char} {text : List Char} (no_digit : tables.digit c = false)
    (h : BeginsClosing tables (c :: text)) : (c = ',' ∨ c = '.') ∧ BeginsClosing tables text := by
  obtain ⟨n, stop, d, after, eq, digit, point⟩ := h
  cases n with
  | succ n =>
    obtain ⟨rfl, rest⟩ := List.cons.inj eq
    exact ⟨.inl rfl, n, stop, d, after, rest, digit, point⟩
  | zero =>
    rcases point with rfl | rfl
    · obtain ⟨rfl, _⟩ := List.cons.inj eq
      rw [no_digit] at digit
      cases digit
    · obtain ⟨rfl, rest⟩ := List.cons.inj eq
      exact ⟨.inr rfl, 0, [], d, after, rest, digit, .inl rfl⟩

/-- A text without digits, with a character that is no part of any number. -/
def Quiet (tables : Unicode) (text : List Char) : Prop :=
  (∀ c ∈ text, tables.digit c = false) ∧ ∃ c ∈ text, c ≠ ',' ∧ c ≠ '.'

lemma not_beginsClosing_quiet {text : List Char} (h : Quiet tables text) (rest : List Char) :
    ¬ BeginsClosing tables (text ++ rest) := by
  obtain ⟨no_digit, c, mem, no_comma, no_stop⟩ := h
  induction text with
  | nil => cases mem
  | cons d text ih =>
    intro closing
    obtain ⟨mark, closing⟩ := beginsClosing_cons (no_digit d List.mem_cons_self) closing
    rcases List.mem_cons.mp mem with rfl | mem
    · exact mark.elim no_comma no_stop
    · exact ih (fun x x_mem => no_digit x (List.mem_cons_of_mem _ x_mem)) mem closing

/-- A quiet text parts the numbers before it from those after it. -/
lemma numbersIn_around (digit_table : DigitTable tables) {text : List Char} (h : Quiet tables text)
    (a b : List Char) : numbersIn tables (a ++ (text ++ b)) = numbersIn tables a ++ numbersIn tables b := by
  rw [numbersIn_append digit_table a fun _ => not_beginsClosing_quiet h b,
    numbersIn_append digit_table text fun opened => absurd opened (not_endsOpen_quiet h.1), numbersIn_quiet h.1]
  rfl

/-- A figure between two texts that it does not run into is a number of its own. -/
lemma numbersIn_around_figure (digit_table : DigitTable tables) {figure : List Char} (h : Figure figure)
    {a b : List Char} (left : EndsOpen tables a → ¬ BeginsClosing tables (figure ++ b))
    (right : ¬ BeginsClosing tables b) :
    numbersIn tables (a ++ (figure ++ b)) = numbersIn tables a ++ figure :: numbersIn tables b := by
  rw [numbersIn_append digit_table a left, numbersIn_append digit_table figure fun _ => right,
    numbersIn_figure digit_table h]
  rfl

/-! ## A body cut at its placeholders -/

/-- A figure, perhaps after a quiet text: what a fact is printed as. -/
inductive Printed (tables : Unicode) (figure : List Char) : List Char → Prop where
  | alone : Printed tables figure figure
  | after {text} : Quiet tables text → Printed tables figure (text ++ figure)

lemma numbersIn_around_printed (digit_table : DigitTable tables) {figure value : List Char} (h : Figure figure)
    (printed : Printed tables figure value) {a b : List Char}
    (left : EndsOpen tables a → ¬ BeginsClosing tables (value ++ b)) (right : ¬ BeginsClosing tables b) :
    numbersIn tables (a ++ (value ++ b)) = numbersIn tables a ++ figure :: numbersIn tables b := by
  cases printed with
  | alone => exact numbersIn_around_figure digit_table h left right
  | @after text quiet =>
    rw [List.append_assoc, numbersIn_around digit_table quiet,
      numbersIn_append digit_table figure fun _ => right, numbersIn_figure digit_table h]
    rfl

/-- No figure that is put in runs into a digit of the text or into another figure: what stands between them is not
    commas with a full stop at most. -/
def FiguresApart (tables : Unicode) (values : PlaceholderValues) (body : String) : Prop :=
  ∀ left found right, Regex.pieces placeholderPattern body.toList = left ++ .matched found :: right →
    (∃ c ∈ valueIn values.all found, tables.digit c = true) →
      (EndsOpen tables (Regex.source left) →
        ¬ BeginsClosing tables (fill (valueIn values.all) (.matched found :: right))) ∧
      ¬ BeginsClosing tables (fill (valueIn values.all) right)

/-- The numbers of a filled body are those of the body without its placeholders, and the figures put in. -/
lemma numbersIn_fill (digit_table : DigitTable tables) {σ : List Char → List Char} {cut : List (Piece Char)}
    {allowed : List (List Char)}
    (kinds : ∀ found, .matched found ∈ cut → Quiet tables (σ found) ∨
      ∃ figure ∈ allowed, Figure figure ∧ Printed tables figure (σ found)) (literal : List Char)
    (apart : ∀ left found right, cut = left ++ .matched found :: right → (∃ c ∈ σ found, tables.digit c = true) →
      (EndsOpen tables (literal ++ Regex.source left) → ¬ BeginsClosing tables (fill σ (.matched found :: right))) ∧
        ¬ BeginsClosing tables (fill σ right)) :
    ∀ number ∈ numbersIn tables (literal ++ fill σ cut),
      number ∈ numbersIn tables (literal ++ fill (fun _ => [' ']) cut) ∨ number ∈ allowed := by
  have blank : Quiet tables [' '] := by
    refine ⟨?_, ' ', List.mem_cons_self, by decide, by decide⟩
    intro c mem
    rw [List.mem_singleton.mp mem]
    exact digit_table ' ' (by decide)
  induction cut generalizing literal with
  | nil => exact fun number mem => .inl mem
  | cons piece cut ih =>
    have rest_kinds : ∀ found, .matched found ∈ cut → _ := fun found mem => kinds found (List.mem_cons_of_mem _ mem)
    cases piece with
    | kept c =>
      have step := ih rest_kinds (literal ++ [c]) fun left found right eq digit => by
        rw [List.append_assoc]
        exact apart (.kept c :: left) found right (by rw [eq]; rfl) digit
      rw [fill_kept, fill_kept]
      rw [List.append_assoc, List.append_assoc] at step
      exact step
    | matched found =>
      have rest := ih rest_kinds [] fun left other right eq digit =>
        have before := apart (.matched found :: left) other right (by rw [eq]; rfl) digit
        ⟨fun opened => before.1 ((opened.append found).append literal), before.2⟩
      have blanked : numbersIn tables (literal ++ fill (fun _ => [' ']) (.matched found :: cut)) =
          numbersIn tables literal ++ numbersIn tables (fill (fun _ => [' ']) cut) := by
        rw [fill_matched, numbersIn_around digit_table blank]
      intro number mem
      rw [blanked, List.mem_append, or_assoc]
      rw [fill_matched] at mem
      rcases kinds found List.mem_cons_self with quiet | ⟨figure, figure_mem, figure_h, printed⟩
      · rw [numbersIn_around digit_table quiet, List.mem_append] at mem
        exact mem.imp_right (rest number)
      · have has_digit : ∃ c ∈ σ found, tables.digit c = true := by
          obtain ⟨before, last, eq, digit⟩ := figure_last figure_h
          refine ⟨last, ?_, digit_table.digit digit⟩
          generalize σ found = value at printed
          cases printed <;> simp [eq]
        obtain ⟨left, right⟩ := apart [] found cut rfl has_digit
        rw [show literal ++ Regex.source [] = literal from List.append_nil _, fill_matched] at left
        rw [numbersIn_around_printed digit_table figure_h printed left right, List.mem_append, List.mem_cons] at mem
        rcases mem with mem | rfl | mem
        · exact .inl mem
        · exact .inr (.inr figure_mem)
        · exact .inr (rest number mem)

/-! ## What the formatter prints -/

/-- The value is printed as a figure that the facts allow, without braces. -/
structure Traced (tables : Unicode) (print : NumberText) (facts : Dict String Json) (value : List Char) : Prop where
  figure : ∃ figure ∈ traceableNumbers tables print facts, Figure figure ∧ Printed tables figure value
  plain : value ≠ [] ∧ '{' ∉ value ∧ '}' ∉ value

lemma mem_figure {figure : List Char} (h : Figure figure) {c : Char} (mem : c ∈ figure) :
    c.isDigit = true ∨ c = ',' ∨ c = '.' := by
  obtain ⟨first, middle, last, fraction, rfl, first_digit, only, _, _, decimal⟩ := h.parts
  rcases List.mem_cons.mp mem with rfl | mem
  · exact .inl first_digit
  · rcases List.mem_append.mp mem with mem | mem
    · exact (only c mem).imp_right .inl
    · rcases decimal with rfl | ⟨e, more, rfl, digits⟩
      · cases mem
      · rcases List.mem_cons.mp mem with rfl | mem
        · exact .inr (.inr rfl)
        · exact .inl (digits c mem)

lemma figure_plain {figure : List Char} (h : Figure figure) : figure ≠ [] ∧ '{' ∉ figure ∧ '}' ∉ figure := by
  refine ⟨?_, fun mem => ?_, fun mem => ?_⟩
  · obtain ⟨before, last, rfl, _⟩ := figure_last h
    simp
  · rcases mem_figure h mem with digit | mark | mark
    · exact absurd digit (by decide)
    · exact absurd mark (by decide)
    · exact absurd mark (by decide)
  · rcases mem_figure h mem with digit | mark | mark
    · exact absurd digit (by decide)
    · exact absurd mark (by decide)
    · exact absurd mark (by decide)

variable {print : NumberText} {facts : Dict String Json}

/-- A written form of a fact that is a figure is traced. -/
lemma traced_form {field : String} {value : ℚ} (fact : facts.get? field = some (.num value)) {figure : List Char}
    (h : Figure figure) (form : figure ∈ writtenForms print value) : Traced tables print facts figure :=
  ⟨⟨figure, List.mem_flatMap.mpr ⟨_, (Dict.mem_items_iff _).mpr fact, form⟩, h, .alone⟩, figure_plain h⟩

lemma mem_writtenForms {value : ℚ} {form : List Char} (h : Figure form)
    (mem : form ∈ [print.grouped value, general value, print.plain value] ++
      if value.den = 1 then [fixed groupedDigits 0 value, fixed digitsOf 0 value]
      else [fixed groupedDigits 1 value, fixed digitsOf 1 value, fixed groupedDigits 2 value, fixed digitsOf 2 value]) :
    form ∈ writtenForms print value :=
  List.mem_map.mpr ⟨form, mem, rstripMarks_figure h⟩

lemma roundHalfEven_intCast (n : ℤ) : roundHalfEven n = n := by
  simp [roundHalfEven]

/-- A whole number without places. -/
lemma fixed_whole (whole : ℕ → List Char) {value : ℚ} (integral : value.den = 1) (nonneg : 0 ≤ value) :
    fixed whole 0 value = whole value.num.toNat := by
  have same : (value.num : ℚ) = value := Rat.coe_int_num_of_den_eq_one integral
  rw [fixed, signed, if_neg (not_lt.mpr nonneg), pow_zero, mul_one, ← same, roundHalfEven_intCast, same, fixedPlaces,
    pow_zero, Nat.div_one, if_pos rfl, List.append_nil]

theorem amount_traced {field : String} {amount : ℚ} (fact : facts.get? field = some (.num amount))
    (nonneg : 0 ≤ amount) : Traced tables print facts (formatAmount amount) := by
  by_cases integral : amount.den = 1
  · have grouped := fixed_whole groupedDigits integral nonneg
    have shown : formatAmount amount = groupedDigits amount.num.toNat := by
      rw [formatAmount, if_pos integral, signed, if_neg (not_lt.mpr nonneg)]
    have figure : Figure (groupedDigits amount.num.toNat) := by
      have h : Figure (groupedDigits amount.num.toNat ++ []) := figure_groupedDigits _ (.inl rfl)
      rwa [List.append_nil] at h
    rw [shown]
    refine traced_form fact figure (mem_writtenForms figure ?_)
    rw [if_pos integral, grouped]
    simp
  · have shown : formatAmount amount = fixed groupedDigits 2 amount := if_neg integral
    have figure : Figure (fixed groupedDigits 2 amount) := by
      rw [fixed, signed, if_neg (not_lt.mpr nonneg)]
      exact figure_fixedPlaces_grouped _ _
    rw [shown]
    refine traced_form fact figure (mem_writtenForms figure ?_)
    rw [if_neg integral]
    simp

theorem days_traced {field : String} {days : ℕ} (fact : facts.get? field = some (.num days)) :
    Traced tables print facts (signed (fun value => digitsOf value.num.toNat) days) := by
  have nonneg : (0 : ℚ) ≤ days := Nat.cast_nonneg days
  have shown : signed (fun value => digitsOf value.num.toNat) (days : ℚ) = digitsOf days := by
    rw [signed, if_neg (not_lt.mpr nonneg), Rat.num_natCast, Int.toNat_natCast]
  rw [shown]
  refine traced_form fact (figure_digitsOf days) (mem_writtenForms (figure_digitsOf days) ?_)
  rw [if_pos (Rat.den_natCast _), fixed_whole digitsOf (Rat.den_natCast _) nonneg, Rat.num_natCast, Int.toNat_natCast]
  simp

lemma roundHalfEven_lt {value : ℚ} {n : ℤ} (below : value < n - 1 / 2) : roundHalfEven value < n := by
  have floor_le : (⌊value⌋ : ℚ) ≤ value := Int.floor_le value
  have floor_lt : ⌊value⌋ < n := by
    have h : (⌊value⌋ : ℚ) < n := by linarith
    exact_mod_cast h
  rw [roundHalfEven]
  by_cases last : ⌊value⌋ = n - 1
  · have rest : value - ⌊value⌋ < 1 / 2 := by
      rw [last]
      push_cast
      linarith
    rw [if_pos rest]
    exact floor_lt
  · split_ifs <;> omega

/-- Years to one decimal below 999,999.5 are written without an exponent. -/
theorem years_traced {field : String} {tenths : ℕ} (fact : facts.get? field = some (.num (tenths / 10)))
    (below : tenths < 9999995) : Traced tables print facts (general (tenths / 10)) := by
  have nonneg : (0 : ℚ) ≤ tenths / 10 := by positivity
  have figure : Figure (general (tenths / 10)) := by
    rw [general, signed, if_neg (not_lt.mpr nonneg)]
    by_cases zero : (tenths / 10 : ℚ) = 0
    · rw [if_pos zero]
      exact figure_digitsOf 0
    · rw [if_neg zero]
      have pos : (0 : ℚ) < tenths / 10 := lt_of_le_of_ne nonneg (Ne.symm zero)
      have small : (tenths / 10 : ℚ) < 999999 + 1 / 2 := by
        have h : (tenths : ℚ) < 9999995 := by exact_mod_cast below
        linarith
      have large : (10 : ℚ) ^ (-1 : ℤ) ≤ tenths / 10 := by
        have some_tenth : (1 : ℚ) ≤ tenths := by
          have : 0 < tenths := by
            rcases Nat.eq_zero_or_pos tenths with rfl | h
            · simp at pos
            · exact h
          exact_mod_cast this
        rw [zpow_neg_one]
        linarith
      have low : -1 ≤ Int.log 10 (tenths / 10 : ℚ) :=
        (Int.zpow_le_iff_le_log (by decide) pos).mp (by exact_mod_cast large)
      have high : Int.log 10 (tenths / 10 : ℚ) < 6 := by
        apply (Int.lt_zpow_iff_log_lt (by decide) pos).mp
        have : (tenths / 10 : ℚ) < 10 ^ (6 : ℤ) := by norm_num; linarith
        exact_mod_cast this
      have exponent : -4 ≤ (leadingDigits (tenths / 10)).2 ∧ (leadingDigits (tenths / 10)).2 < 6 := by
        rw [leadingDigits]
        split_ifs with carried
        · refine ⟨by simp only; omega, ?_⟩
          by_contra six
          have five : Int.log 10 (tenths / 10 : ℚ) = 5 := by simp only at six; omega
          rw [five] at carried
          have rounded : roundHalfEven (tenths / 10 * 10 ^ (5 - 5 : ℤ)) < 1000000 := by
            apply roundHalfEven_lt
            norm_num
            linarith
          omega
        · exact ⟨by simp only; omega, high⟩
      simp only
      rw [if_pos exponent]
      exact figure_fewestPlaces _ _
  exact traced_form fact figure (mem_writtenForms figure (by simp))

lemma paddedDigits_full {year : ℕ} (full : 1000 ≤ year) : paddedDigits 4 year = digitsOf year := by
  have long : ¬ (digitsOf year).length ≤ 3 := by
    rw [digitsOf, Nat.length_toDigits_le_iff (by decide) (by decide)]
    omega
  rw [paddedDigits, List.leftpad, show 4 - (digitsOf year).length = 0 by omega]
  rfl

lemma ofDigitChars_paddedDigits (width n : ℕ) : Nat.ofDigitChars 10 (paddedDigits width n) 0 = n := by
  rw [paddedDigits, List.leftpad, Nat.ofDigitChars_append, Nat.ofDigitChars_replicate_zero, Nat.mul_zero]
  exact Nat.ofDigitChars_ten_toDigits

lemma formatMonth_monthText (year month : ℕ) :
    formatMonth (monthText year month).toList =
      (monthNames.getD (month - 1) "").toList ++ ' ' :: digitsOf year := by
  have no_dash : ∀ c ∈ paddedDigits 4 year, decide (c ≠ '-') = true := by
    intro c mem
    apply decide_eq_true
    rintro rfl
    exact absurd (isDigit_of_mem_paddedDigits mem) (by decide)
  rw [formatMonth, monthText, String.toList_ofList, List.takeWhile_append_of_pos no_dash,
    List.dropWhile_append_of_pos no_dash, List.takeWhile_cons_of_neg (by decide), List.dropWhile_cons_of_neg (by decide),
    List.append_nil, List.drop_succ_cons, List.drop_zero, ofDigitChars_paddedDigits, ofDigitChars_paddedDigits]

lemma monthNames_letters : ∀ name ∈ monthNames, name.toList.all Char.isAlpha = true := by decide

/-- A letter is an ASCII character between the digits and the braces. -/
lemma letter_range {c : Char} (letter : c.isAlpha = true) : 64 < c.toNat ∧ c.toNat < 123 := by
  simp only [Char.isAlpha, Char.isUpper, Char.isLower, Bool.or_eq_true, Bool.and_eq_true, decide_eq_true_eq] at letter
  have upper (h : c.val ≤ 'Z'.val) : c.toNat ≤ 'Z'.toNat := h
  have lower (h : 'a'.val ≤ c.val) : 'a'.toNat ≤ c.toNat := h
  rcases letter with ⟨low, high⟩ | ⟨low, high⟩
  · have from_a : 'A'.toNat ≤ c.toNat := low
    have to_z := upper high
    simp only [Char.reduceToNat] at from_a to_z
    omega
  · have from_a := lower low
    have to_z : c.toNat ≤ 'z'.toNat := high
    simp only [Char.reduceToNat] at from_a to_z
    omega

theorem month_traced (digit_table : DigitTable tables) {field : String} {year month : ℕ}
    (fact : facts.get? field = some (.str (monthText year month))) (full : 1000 ≤ year) (first : 1 ≤ month)
    (last : month ≤ 12) : Traced tables print facts (formatMonth (monthText year month).toList) := by
  have listed : monthNames.getD (month - 1) "" ∈ monthNames := by
    have within : month - 1 < monthNames.length := by
      show month - 1 < 12
      omega
    rw [List.getD_eq_getElem _ _ within]
    exact List.getElem_mem within
  rw [formatMonth_monthText]
  generalize monthNames.getD (month - 1) "" = name at listed
  have letters : ∀ c ∈ name.toList, 64 < c.toNat ∧ c.toNat < 123 := fun c mem =>
    letter_range (List.all_eq_true.mp (monthNames_letters name listed) c mem)
  have plain := figure_plain (figure_digitsOf year)
  refine ⟨⟨digitsOf year, ?_, figure_digitsOf year, ?_⟩, by simp, ?_, ?_⟩
  · -- The year is a number of the fact's own text.
    have quiet : ¬ BeginsClosing tables ('-' :: paddedDigits 2 month) := fun closing =>
      absurd (beginsClosing_cons (digit_table '-' (by decide)) closing).1 (by decide)
    refine List.mem_flatMap.mpr ⟨_, (Dict.mem_items_iff _).mpr fact, ?_⟩
    show digitsOf year ∈ numbersIn tables (monthText year month).toList
    rw [monthText, String.toList_ofList, paddedDigits_full full, numbersIn_append digit_table _ fun _ => quiet,
      numbersIn_figure digit_table (figure_digitsOf year)]
    exact List.mem_append_left _ (List.mem_singleton_self _)
  · have quiet : Quiet tables (name.toList ++ [' ']) := by
      refine ⟨fun c mem => ?_, ' ', by simp, by decide, by decide⟩
      rcases List.mem_append.mp mem with mem | mem
      · rw [digit_table c (by have := letters c mem; omega)]
        by_contra digit
        have low : c.toNat ≤ '9'.toNat := by
          rw [Bool.not_eq_false, Char.isDigit, Bool.and_eq_true, decide_eq_true_eq, decide_eq_true_eq] at digit
          exact digit.2
        simp only [Char.reduceToNat] at low
        have := letters c mem
        omega
      · rw [List.mem_singleton.mp mem]
        exact digit_table ' ' (by decide)
    rw [← List.singleton_append, ← List.append_assoc]
    exact .after quiet
  · simp only [List.mem_append, List.mem_cons, not_or]
    exact ⟨fun mem => absurd (letters _ mem).2 (by decide), by decide, plain.2.1⟩
  · simp only [List.mem_append, List.mem_cons, not_or]
    exact ⟨fun mem => absurd (letters _ mem).2 (by decide), by decide, plain.2.2⟩

/-! ## Resolved bodies -/

/-- A name without digits and braces, and not of commas and full stops alone. -/
def PlainName (tables : Unicode) (name : String) : Prop :=
  Quiet tables name.toList ∧ '{' ∉ name.toList ∧ '}' ∉ name.toList

lemma printedFact_some {field value : String} {shown : Json → String}
    (h : printedFact facts field shown = some value) :
    ∃ json, facts.get? field = some json ∧ present json = true ∧ value = shown json := by
  obtain ⟨json, kept, rfl⟩ := Option.map_eq_some_iff.mp h
  obtain ⟨fact, is_present⟩ := Option.filter_eq_some_iff.mp kept
  exact ⟨json, fact, is_present, rfl⟩

/-- Every value of a client is a plain name or traced. -/
lemma client_values (print : NumberText) (digit_table : DigitTable tables) {records : ClientRecords} {testName : Option String}
    {clientId : ℤ} (figures : ClientFigures (records.facts.getD clientId .empty))
    (first_name : PlainName tables (placeholderValues clientFormat records testName clientId).firstName)
    (fund_name : PlainName tables (placeholderValues clientFormat records testName clientId).fundName) :
    ∀ p ∈ (placeholderValues clientFormat records testName clientId).all, ∀ value ∈ p.2,
      PlainName tables value ∨ Traced tables print (records.facts.getD clientId .empty) value.toList := by
  intro p mem value value_mem
  simp only [PlaceholderValues.all, PlaceholderValues.facts, placeholderValues, List.mem_cons, List.not_mem_nil,
    or_false] at mem
  rcases mem with rfl | rfl | rfl | rfl | rfl | rfl | rfl | rfl
  · obtain rfl := Option.some_inj.mp value_mem
    exact .inl first_name
  · obtain rfl := Option.some_inj.mp value_mem
    exact .inl fund_name
  · obtain ⟨json, fact, is_present, rfl⟩ := printedFact_some value_mem
    obtain ⟨amount, rfl, nonneg⟩ := figures.amounts _ (by simp) json fact is_present
    refine .inr ?_
    rw [show clientFormat.amount (.num amount) = String.ofList (formatAmount amount) from rfl, String.toList_ofList]
    exact amount_traced fact nonneg
  · obtain ⟨json, fact, is_present, rfl⟩ := printedFact_some value_mem
    obtain ⟨amount, rfl, nonneg⟩ := figures.amounts _ (by simp) json fact is_present
    refine .inr ?_
    rw [show clientFormat.amount (.num amount) = String.ofList (formatAmount amount) from rfl, String.toList_ofList]
    exact amount_traced fact nonneg
  · obtain ⟨json, fact, is_present, rfl⟩ := printedFact_some value_mem
    obtain ⟨tenths, rfl, below⟩ := figures.years json fact is_present
    refine .inr ?_
    rw [show clientFormat.general (.num (tenths / 10)) = String.ofList (general (tenths / 10)) from rfl,
      String.toList_ofList]
    exact years_traced fact below
  · obtain ⟨json, fact, is_present, rfl⟩ := printedFact_some value_mem
    obtain ⟨days, rfl⟩ := figures.days _ (by simp) json fact is_present
    refine .inr ?_
    rw [show clientFormat.plain (.num days) =
      String.ofList (signed (fun value => digitsOf value.num.toNat) days) from rfl, String.toList_ofList]
    exact days_traced fact
  · obtain ⟨json, fact, is_present, rfl⟩ := printedFact_some value_mem
    obtain ⟨year, month, rfl, full, first, last⟩ := figures.month json fact is_present
    refine .inr ?_
    rw [show clientFormat.month (.str (monthText year month)) =
      String.ofList (formatMonth (monthText year month).toList) from rfl, String.toList_ofList]
    exact month_traced digit_table fact full.1 first last
  · obtain ⟨json, fact, is_present, rfl⟩ := printedFact_some value_mem
    obtain ⟨days, rfl⟩ := figures.days _ (by simp) json fact is_present
    refine .inr ?_
    rw [show clientFormat.plain (.num days) =
      String.ofList (signed (fun value => digitsOf value.num.toNat) days) from rfl, String.toList_ofList]
    exact days_traced fact

lemma token_mem_open {cut : List (Piece Char)} (h : Cut cut) {found : List Char} (mem : .matched found ∈ cut) :
    '{' ∈ found := by
  induction h with
  | nil => cases mem
  | char _ _ ih =>
    rcases List.mem_cons.mp mem with same | mem
    · cases same
    · exact ih mem
  | token _ _ ih =>
    rcases List.mem_cons.mp mem with same | mem
    · cases same
      exact List.mem_cons_self
    · exact ih mem

/-- The body with a client's formatted figures passes the numeric check of an instance, when no figure runs into
    a digit or into another figure. -/
theorem resolved_figures_traceable (digit_table : DigitTable tables) (print : NumberText) (contacts : List String)
    (records : ClientRecords) (testName : Option String) (clientId : ℤ) (body : String)
    (figures : ClientFigures (records.facts.getD clientId .empty))
    (first_name : PlainName tables (placeholderValues clientFormat records testName clientId).firstName)
    (fund_name : PlainName tables (placeholderValues clientFormat records testName clientId).fundName)
    (standalone : Standalone (placeholderValues clientFormat records testName clientId) body)
    (unknown : ∀ found ∈ tokens body, ¬ Valued (placeholderValues clientFormat records testName clientId) found →
      ∀ c ∈ found, tables.digit c = false)
    (apart : FiguresApart tables (placeholderValues clientFormat records testName clientId) body) :
    instanceNumericTraceabilityCheck tables print contacts body
      (resolvePlaceholders (placeholderValues clientFormat records testName clientId) body)
      (records.facts.getD clientId .empty) = .ok () := by
  have kinds := client_values print digit_table figures first_name fund_name
  generalize placeholderValues clientFormat records testName clientId = values at *
  have plain : values.Plain := by
    intro p mem value value_mem
    rcases kinds p mem value value_mem with name | traced
    · refine ⟨?_, name.2⟩
      rintro rfl
      obtain ⟨c, c_mem, _⟩ := name.1.2
      cases c_mem
    · exact ⟨fun empty => traced.plain.1 (by rw [empty]; rfl), traced.plain.2⟩
  rw [check_eq_ok_iff, resolvePlaceholders_eq_substitute plain standalone, substitute, String.toList_ofList]
  have cut := cut_pieces body.toList
  have found_kinds : ∀ found, .matched found ∈ Regex.pieces placeholderPattern body.toList →
      Quiet tables (valueIn values.all found) ∨ ∃ figure ∈ traceableNumbers tables print
        (records.facts.getD clientId .empty), Figure figure ∧ Printed tables figure (valueIn values.all found) := by
    intro found mem
    rcases valueIn_cases values.all found with self | ⟨name, value, value_mem, _, eq⟩
    · refine .inl ⟨?_, '{', ?_, by decide, by decide⟩
      · rw [self]
        exact unknown found (mem_tokens.mpr mem) ((valueIn_self_iff plain).mp self)
      · rw [self]
        exact token_mem_open cut mem
    · rw [eq]
      rcases kinds _ value_mem value rfl with name | traced
      · exact .inl name.1
      · exact .inr traced.figure
  have blanked : Regex.sub placeholderPattern [' '] body.toList =
      fill (fun _ => [' ']) (Regex.pieces placeholderPattern body.toList) := by
    apply List.flatMap_congr
    intro piece _
    cases piece <;> rfl
  intro number mem
  rcases numbersIn_fill digit_table found_kinds [] apart number mem with already | traced
  · rw [blanked]
    exact .inl already
  · exact .inr (.inl traced)

/-! ## Bodies with a figure, and with two that run together -/

/-- Whole numbers as Python prints an `int`. -/
def wholeNumbers : NumberText where
  grouped value := groupedDigits value.num.toNat
  plain value := digitsOf value.num.toNat

def cadenceBody : String := placeholder "cadence_interval_days" ++ " days"

theorem cadence_traceable :
    instanceNumericTraceabilityCheck .ascii wholeNumbers [] cadenceBody
      (resolvePlaceholders (placeholderValues clientFormat numberedStore.records (some "Test") 1) cadenceBody)
      (numberedStore.records.facts.getD 1 .empty) = .ok () := by
  have only (field : String) (other : field ≠ "invested_every_n_days") :
      (numberedStore.records.facts.getD 1 .empty).get? field = none := by
    show ((Dict.empty.set "invested_every_n_days" (.num 7) : Dict String Json)).get? field = none
    rw [Dict.get?_set_ne _ _ other]
    rfl
  have no_digits {text : List Char} (none : text.all (fun c => !c.isDigit) = true) :
      ∀ c ∈ text, Unicode.ascii.digit c = false := by
    intro c mem
    show c.isDigit = false
    simpa using List.all_eq_true.mp none c mem
  apply resolved_figures_traceable (fun _ _ => rfl)
  · constructor
    · intro field mem value fact
      rw [only field (by rintro rfl; revert mem; decide)] at fact
      cases fact
    · intro value fact
      rw [only _ (by decide)] at fact
      cases fact
    · intro field mem value fact _
      by_cases other : field = "invested_every_n_days"
      · subst other
        obtain rfl := Option.some_inj.mp fact
        exact ⟨7, rfl⟩
      · rw [only field other] at fact
        cases fact
    · intro value fact
      rw [only _ (by decide)] at fact
      cases fact
  · exact ⟨⟨no_digits (by decide +kernel), 'T', by decide +kernel, by decide, by decide⟩, by decide +kernel,
      by decide +kernel⟩
  · exact ⟨⟨no_digits (by decide +kernel), 'y', by decide +kernel, by decide, by decide⟩, by decide +kernel,
      by decide +kernel⟩
  · rw [Standalone]
    decide +kernel
  · intro found mem unvalued
    have valued : ∀ found ∈ tokens cadenceBody,
        Valued (placeholderValues clientFormat numberedStore.records (some "Test") 1) found := by
      unfold Valued
      decide +kernel
    exact absurd (valued found mem) unvalued
  · intro left found right eq _
    have cut : Regex.pieces placeholderPattern cadenceBody.toList =
        .matched (token "cadence_interval_days".toList) :: " days".toList.map .kept := by rfl
    rw [cut] at eq
    cases left with
    | nil =>
      obtain ⟨same, rest⟩ := List.cons.inj eq
      rw [← rest]
      have after : fill (valueIn (placeholderValues clientFormat numberedStore.records (some "Test") 1).all)
          (" days".toList.map .kept) = " days".toList ++ [] := rfl
      rw [after]
      refine ⟨fun opened => absurd opened (not_endsOpen_quiet nofun), not_beginsClosing_quiet ⟨no_digits (by decide), ?_⟩ []⟩
      exact ⟨' ', by decide, by decide, by decide⟩
    | cons piece left =>
      obtain ⟨_, rest⟩ := List.cons.inj eq
      have mem : Piece.matched found ∈ " days".toList.map Piece.kept := by rw [rest]; simp
      simp at mem

def twoAmounts : ClientRecords where
  facts := .ofList [(1, .ofList [("typical_contribution_kes", .num 5000), ("largest_contribution_kes", .num 7000)])]

/-- The two placeholders have only a comma between them. -/
def joinedBody : String := placeholder "typical_contribution" ++ "," ++ placeholder "largest_contribution"

/-- Two amounts with only a comma between them are read as one number, which is no fact's. -/
theorem joined_amounts_untraceable :
    (∀ c ∈ joinedBody.toList, c.isDigit = false) ∧
      (placeholderValues clientFormat twoAmounts (some "Test") 1).typicalContribution = some "5,000" ∧
      (placeholderValues clientFormat twoAmounts (some "Test") 1).largestContribution = some "7,000" ∧
      ¬ instanceNumericTraceabilityCheck .ascii wholeNumbers [] joinedBody
        (resolvePlaceholders (placeholderValues clientFormat twoAmounts (some "Test") 1) joinedBody)
        (twoAmounts.facts.getD 1 .empty) = .ok () := by
  have none : joinedBody.toList.all (fun c => !c.isDigit) = true := by decide +kernel
  refine ⟨fun c mem => by simpa using List.all_eq_true.mp none c mem, by decide +kernel, by decide +kernel,
    fun traced => ?_⟩
  have untraced := check_eq_ok_iff.mp traced "5,000,7,000".toList (by decide +kernel)
  revert untraced
  decide +kernel

end ClientEngagement.Review
