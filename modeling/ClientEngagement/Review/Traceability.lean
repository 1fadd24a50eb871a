import ClientEngagement.Lib.DecimalText
import ClientEngagement.Lib.RegexScan
import ClientEngagement.Privacy.FactBlock
import ClientEngagement.Review.Personalization

/-!
# Traceable numbers

Model of the numeric checks of `agents/guardrails.py`: the numbers of a text (`numbersIn`), the ways one figure
may be written (`writtenForms`), the numbers a client's facts allow (`traceableNumbers`) and
`instanceNumericTraceabilityCheck`, which an instance of a template has to pass.

Where two texts meet, no number begins in the one and ends in the other unless the one ends in a digit with
commas and a full stop at most after it (`EndsOpen`) and the other goes on from there to a digit
(`BeginsClosing`): `numbersIn_append`.
-/

namespace ClientEngagement.Review
open Privacy (placeholderPattern roundHalfEven decimals digitClass)
open Rules (reprNames)

/-! ## Figures in a sentence -/

/-- A digit, or the comma of a grouping. -/
def inNumber (tables : Unicode) (c : Char) : Bool := tables.digit c || c = ','

/-- `_NUMBER`. -/
def numberPattern (tables : Unicode) : Regex Char :=
  .seq (.one tables.digit) (.seq (.star (.one (inNumber tables))) (decimals tables))

/-- `str.rstrip(",.")`. -/
def rstripMarks (text : List Char) : List Char := (text.reverse.dropWhile fun c => c = ',' || c = '.').reverse

/-- `_numbers_in`. -/
def numbersIn (tables : Unicode) (text : List Char) : List (List Char) :=
  (Regex.findall (numberPattern tables) text).map rstripMarks

/-- What depends on whether Python holds a number as an `int` or as a `float`. -/
structure NumberText where
  /-- `f"\x7bvalue:,\x7d"`. -/
  grouped : ℚ → List Char
  /-- `str(value)`. -/
  plain : ℚ → List Char

def signed (text : ℚ → List Char) (value : ℚ) : List Char := if value < 0 then '-' :: text (-value) else text value

/-- A number with some places, rounded. -/
def fixed (whole : ℕ → List Char) (places : ℕ) : ℚ → List Char :=
  signed fun value => fixedPlaces whole places (roundHalfEven (value * 10 ^ places)).toNat

/-- The six leading digits of a positive number, rounded, and the exponent of the first of them. -/
def leadingDigits (value : ℚ) : ℕ × ℤ :=
  let exponent := Int.log 10 value
  let digits := (roundHalfEven (value * 10 ^ (5 - exponent))).toNat
  if digits = 1000000 then (100000, exponent + 1) else (digits, exponent)

/-- `:g`. -/
def general : ℚ → List Char :=
  signed fun value =>
    if value = 0 then ['0']
    else
      let (digits, exponent) := leadingDigits value
      if -4 ≤ exponent ∧ exponent < 6 then fewestPlaces (5 - exponent).toNat digits
      else
        fewestPlaces 5 digits ++ 'e' :: (if exponent < 0 then '-' else '+') :: paddedDigits 2 exponent.natAbs

/-- `_written_forms`. -/
def writtenForms (print : NumberText) (value : ℚ) : List (List Char) :=
  let forms := [print.grouped value, general value, print.plain value]
  let rounded :=
    if value.den = 1 then [fixed groupedDigits 0 value, fixed digitsOf 0 value]
    else [fixed groupedDigits 1 value, fixed digitsOf 1 value, fixed groupedDigits 2 value, fixed digitsOf 2 value]
  (forms ++ rounded).map rstripMarks

/-- `traceable_numbers` of a client's facts. -/
def traceableNumbers (tables : Unicode) (print : NumberText) (facts : Dict String Json) : List (List Char) :=
  facts.items.flatMap fun (_, value) =>
    match value with
    | .num value => writtenForms print value
    | .str text => numbersIn tables text.toList
    | _ => []

section
local instance lawfulWritten : LawfulBEq (List Char) := inferInstance

/-- `instance_numeric_traceability_check`; `contacts` are the public numbers of the settings. -/
def instanceNumericTraceabilityCheck (tables : Unicode) (print : NumberText) (contacts : List String)
    (templateBody resolvedBody : String) (facts : Dict String Json) : Except GuardrailFailure Unit :=
  let alreadyAllowed := numbersIn tables (Regex.sub placeholderPattern [' '] templateBody.toList)
  let allowed := alreadyAllowed ++ traceableNumbers tables print facts ++
    contacts.flatMap fun number => numbersIn tables number.toList
  let untraceable := (numbersIn tables resolvedBody.toList).filter fun number => number ∉ allowed
  if untraceable = [] then .ok ()
  else .error
    { reason := "resolved body carries numbers that trace to no template fact or this client's own facts: " ++
        reprNames (sortBy id (untraceable.map String.ofList).dedup)
      guardrail := "instance_numeric_traceability" }

end

lemma check_eq_ok_iff {tables : Unicode} {print : NumberText} {contacts : List String}
    {templateBody resolvedBody : String} {facts : Dict String Json} :
    instanceNumericTraceabilityCheck tables print contacts templateBody resolvedBody facts = .ok () ↔
      ∀ number ∈ numbersIn tables resolvedBody.toList,
        number ∈ numbersIn tables (Regex.sub placeholderPattern [' '] templateBody.toList) ∨
          number ∈ traceableNumbers tables print facts ∨
            number ∈ contacts.flatMap fun number => numbersIn tables number.toList := by
  have allowed_iff (number : List Char) (u v w : List (List Char)) :
      (decide (number ∉ u ++ v ++ w) = true → False) ↔ number ∈ u ∨ number ∈ v ∨ number ∈ w := by
    rw [decide_eq_true_eq, ← not_iff_not, not_or, not_or, List.mem_append, List.mem_append]
    tauto
  rw [instanceNumericTraceabilityCheck]
  split_ifs with none_left
  · rw [List.filter_eq_nil_iff] at none_left
    refine iff_of_true rfl fun number mem => ?_
    exact (allowed_iff number _ _ _).mp (none_left number mem)
  · refine iff_of_false nofun fun all => none_left ?_
    rw [List.filter_eq_nil_iff]
    intro number mem
    exact (allowed_iff number _ _ _).mpr (all number mem)

/-! ## Reading a number -/

/-- The tables tell ASCII digits from the other ASCII characters. -/
def DigitTable (tables : Unicode) : Prop := ∀ c : Char, c.toNat < 128 → tables.digit c = c.isDigit

variable {tables : Unicode}

lemma blind_numberPattern : Regex.blind (numberPattern tables) = true := rfl

/-- A number of a text, and what follows it: nothing that it could go on with. -/
inductive NumberAt (tables : Unicode) : List Char → List Char → Prop where
  | whole {d u rest} : tables.digit d = true → (∀ c ∈ u, inNumber tables c = true) →
      (∀ c ∈ rest.head?, inNumber tables c = false) →
      (∀ e more, rest = '.' :: e :: more → tables.digit e = false) → NumberAt tables (d :: u) rest
  | decimal {d u e more rest} : tables.digit d = true → (∀ c ∈ u, inNumber tables c = true) →
      (∀ c ∈ e :: more, tables.digit c = true) → (∀ c ∈ rest.head?, tables.digit c = false) →
      NumberAt tables (d :: (u ++ '.' :: e :: more)) rest

/-- A stretch that passes a test is dropped when the test fails after it. -/
lemma dropWhile_append_stop {p : Char → Bool} {u rest : List Char} (pass : ∀ c ∈ u, p c = true)
    (stop : ∀ c ∈ rest.head?, p c = false) : (u ++ rest).dropWhile p = rest := by
  rw [List.dropWhile_append_of_pos pass]
  cases rest with
  | nil => rfl
  | cons c rest => exact List.dropWhile_cons_of_neg (by simp [stop c rfl])

lemma rests_decimals (text : List Char) :
    Regex.rests (decimals tables) text =
      (Regex.rests (.lit ['.']) text).flatMap (Regex.rests (.plus (digitClass tables))) ++ [text] := by
  rw [decimals, Regex.opt, Regex.rests_alt, Regex.rests_seq _ rfl]
  rfl

lemma rests_plus_cons (c : Char) (text : List Char) :
    Regex.rests (.plus (digitClass tables)) (c :: text) =
      if tables.digit c = true then Regex.rests (.star (digitClass tables)) text else [] := by
  rw [Regex.plus, Regex.rests_seq _ rfl, digitClass, Regex.rests_one_cons]
  split_ifs
  · rw [List.flatMap_cons, List.flatMap_nil, List.append_nil]
  · rfl

/-- Without a fraction at its beginning a text is left as it is. -/
lemma rests_decimals_none {text : List Char} (none : ∀ e more, text = '.' :: e :: more → tables.digit e = false) :
    Regex.rests (decimals tables) text = [text] := by
  rw [rests_decimals]
  by_cases point : ['.'] <+: text
  · obtain ⟨text, rfl⟩ := point
    rw [Regex.rests_lit_append, List.flatMap_cons, List.flatMap_nil, List.append_nil]
    cases text with
    | nil => rfl
    | cons e more =>
      rw [rests_plus_cons, none e more rfl]
      rfl
  · rw [Regex.rests_lit_elsewhere point]
    rfl

lemma head?_rests_decimals {e : Char} {more rest : List Char} (digits : ∀ c ∈ e :: more, tables.digit c = true)
    (stop : ∀ c ∈ rest.head?, tables.digit c = false) :
    (Regex.rests (decimals tables) ('.' :: e :: (more ++ rest))).head? = some rest := by
  obtain ⟨others, eq⟩ := Regex.rests_star_one tables.digit (more ++ rest)
  rw [dropWhile_append_stop (fun c mem => digits c (List.mem_cons_of_mem _ mem)) stop] at eq
  have point := Regex.rests_lit_append ['.'] (e :: (more ++ rest))
  rw [List.singleton_append] at point
  rw [rests_decimals, point, List.flatMap_cons, rests_plus_cons, if_pos (digits e List.mem_cons_self), digitClass, eq]
  rfl

/-- The preferred match of a number ends where the number does. -/
lemma head?_rests_number (digit_table : DigitTable tables) {number rest : List Char}
    (h : NumberAt tables number rest) : (Regex.rests (numberPattern tables) (number ++ rest)).head? = some rest := by
  cases h with
  | @whole d u _ digit only stop none =>
    obtain ⟨others, eq⟩ := Regex.rests_star_one (inNumber tables) (u ++ rest)
    rw [dropWhile_append_stop only stop] at eq
    rw [numberPattern, Regex.rests_seq _ rfl, List.cons_append, Regex.rests_one_cons, if_pos digit,
      List.flatMap_cons, Regex.rests_seq _ rfl, eq, List.flatMap_cons, rests_decimals_none none]
    rfl
  | @decimal d u e more _ digit only digits stop =>
    have point : ∀ c ∈ ('.' :: e :: (more ++ rest)).head?, inNumber tables c = false := by
      intro c mem
      obtain rfl := Option.some_inj.mp mem
      rw [inNumber, digit_table '.' (by decide)]
      rfl
    obtain ⟨others, eq⟩ := Regex.rests_star_one (inNumber tables) (u ++ '.' :: e :: (more ++ rest))
    rw [dropWhile_append_stop only point] at eq
    have fraction := head?_rests_decimals digits stop
    rw [numberPattern, Regex.rests_seq _ rfl, List.cons_append, Regex.rests_one_cons, if_pos digit,
      List.flatMap_cons, Regex.rests_seq _ rfl, List.append_assoc, List.cons_append, List.cons_append, eq,
      List.flatMap_cons, List.append_assoc, List.head?_append, fraction]
    rfl

/-! ## The numbers of a text -/

lemma numbersIn_nil : numbersIn tables [] = [] := rfl

lemma numbersIn_cons {c : Char} (no : tables.digit c = false) (text : List Char) :
    numbersIn tables (c :: text) = numbersIn tables text := by
  have unmatched : Regex.rests (numberPattern tables) (c :: text) = [] := by
    rw [numberPattern, Regex.rests_seq _ rfl, Regex.rests_one_cons, no]
    rfl
  rw [numbersIn, Regex.findall, Regex.pieces_cons rfl unmatched]
  rfl

lemma numbersIn_number (digit_table : DigitTable tables) {number rest : List Char}
    (h : NumberAt tables number rest) :
    numbersIn tables (number ++ rest) = rstripMarks number :: numbersIn tables rest := by
  have some_number : number ≠ [] := by cases h <;> exact List.cons_ne_nil _ _
  rw [numbersIn, Regex.findall, Regex.pieces_append rfl some_number (head?_rests_number digit_table h)]
  rfl

/-- A number begins at every digit. -/
lemma exists_numberAt {d : Char} (digit : tables.digit d = true) (text : List Char) :
    ∃ number rest, d :: text = number ++ rest ∧ number ≠ [] ∧ NumberAt tables number rest := by
  have split := List.takeWhile_append_dropWhile (p := inNumber tables) (l := text)
  have only : ∀ c ∈ text.takeWhile (inNumber tables), inNumber tables c = true :=
    fun c mem => List.mem_takeWhile_imp mem
  have stop : ∀ c ∈ (text.dropWhile (inNumber tables)).head?, inNumber tables c = false := by
    intro c mem
    have h := List.head?_dropWhile_not (inNumber tables) text
    rw [Option.mem_def.mp mem] at h
    simpa using h
  by_cases fraction : ∃ e more, (text.dropWhile (inNumber tables)) = '.' :: e :: more ∧
      tables.digit e = true
  · obtain ⟨e, more, eq, digit_e⟩ := fraction
    have tail := List.takeWhile_append_dropWhile (p := tables.digit) (l := more)
    refine ⟨d :: ((text.takeWhile (inNumber tables)) ++ '.' :: e :: more.takeWhile tables.digit),
      more.dropWhile tables.digit, ?_, List.cons_ne_nil _ _, .decimal digit only ?_ ?_⟩
    · rw [List.cons_append, List.append_assoc, List.cons_append, List.cons_append, tail, ← eq, split]
    · exact List.forall_mem_cons.mpr ⟨digit_e, fun c mem => List.mem_takeWhile_imp mem⟩
    · intro c mem
      have h := List.head?_dropWhile_not tables.digit more
      rw [Option.mem_def.mp mem] at h
      simpa using h
  · refine ⟨d :: text.takeWhile (inNumber tables), _, ?_, List.cons_ne_nil _ _,
      .whole digit only stop ?_⟩
    · rw [List.cons_append, split]
    · intro e more eq
      by_contra is_digit
      exact fraction ⟨e, more, eq, by simpa using is_digit⟩

/-! ## Where two texts meet -/

/-- The text ends in a digit, with commas and a full stop at most after it. -/
def EndsOpen (tables : Unicode) (text : List Char) : Prop :=
  ∃ before d n stop, text = before ++ d :: (List.replicate n ',' ++ stop) ∧ tables.digit d = true ∧
    (stop = [] ∨ stop = ['.'])

/-- The text begins with commas and a full stop at most, and a digit after them. -/
def BeginsClosing (tables : Unicode) (text : List Char) : Prop :=
  ∃ n stop d after, text = List.replicate n ',' ++ (stop ++ d :: after) ∧ tables.digit d = true ∧
    (stop = [] ∨ stop = ['.'])

lemma EndsOpen.append {text : List Char} (h : EndsOpen tables text) (before : List Char) :
    EndsOpen tables (before ++ text) := by
  obtain ⟨more, d, n, stop, rfl, digit, point⟩ := h
  exact ⟨before ++ more, d, n, stop, by rw [List.append_assoc], digit, point⟩

lemma endsOpen_whole {d : Char} {u : List Char} (digit : tables.digit d = true)
    (only : ∀ c ∈ u, inNumber tables c = true) {stop : List Char} (point : stop = [] ∨ stop = ['.']) :
    EndsOpen tables (d :: (u ++ stop)) := by
  obtain ⟨before, last, n, eq, last_digit⟩ : ∃ before last n, d :: u = before ++ last :: List.replicate n ',' ∧
      tables.digit last = true := by
    induction u using List.reverseRecOn with
    | nil => exact ⟨[], d, 0, rfl, digit⟩
    | append_singleton u c ih =>
      obtain ⟨before, last, n, eq, last_digit⟩ := ih fun x mem => only x (List.mem_append_left _ mem)
      have kind := only c (by simp)
      rw [inNumber, Bool.or_eq_true, decide_eq_true_eq] at kind
      rcases kind with c_digit | rfl
      · exact ⟨d :: u, c, 0, rfl, c_digit⟩
      · refine ⟨before, last, n + 1, ?_, last_digit⟩
        rw [← List.cons_append, eq, List.replicate_succ', List.append_assoc, List.cons_append]
  refine ⟨before, last, n, stop, ?_, last_digit, point⟩
  rw [← List.cons_append, eq, List.append_assoc, List.cons_append]

lemma rstripMarks_append {marks : List Char} (only : ∀ c ∈ marks, c = ',' ∨ c = '.') (text : List Char) :
    rstripMarks (text ++ marks) = rstripMarks text := by
  rw [rstripMarks, List.reverse_append, List.dropWhile_append_of_pos]
  · rfl
  · intro c mem
    simpa using only c (List.mem_reverse.mp mem)

lemma numbersIn_marks (digit_table : DigitTable tables) {marks : List Char} (only : ∀ c ∈ marks, c = ',' ∨ c = '.')
    (text : List Char) : numbersIn tables (marks ++ text) = numbersIn tables text := by
  induction marks with
  | nil => rfl
  | cons c marks ih =>
    have no : tables.digit c = false := by
      rcases only c List.mem_cons_self with rfl | rfl
      · exact digit_table ',' (by decide)
      · exact digit_table '.' (by decide)
    rw [List.cons_append, numbersIn_cons no, ih fun x mem => only x (List.mem_cons_of_mem _ mem)]

/-- A number at the end of a text, before one that does not close it. -/
lemma numbersIn_last (digit_table : DigitTable tables) {number text : List Char} (h : NumberAt tables number [])
    (open_only : EndsOpen tables number → ¬ BeginsClosing tables text) :
    numbersIn tables (number ++ text) = rstripMarks number :: numbersIn tables text := by
  cases h with
  | @whole d u _ digit only _ _ =>
    have closed : ¬ BeginsClosing tables text := by
      have opened := endsOpen_whole digit only (.inl rfl)
      rw [List.append_nil] at opened
      exact open_only opened
    have commas : text.takeWhile (· = ',') = List.replicate (text.takeWhile (· = ',')).length ',' :=
      List.eq_replicate_iff.mpr ⟨rfl, fun c mem => of_decide_eq_true (List.mem_takeWhile_imp (p := (· = ',')) mem)⟩
    have split := List.takeWhile_append_dropWhile (p := (· = ',')) (l := text)
    have stop := List.head?_dropWhile_not (· = ',') text
    generalize text.takeWhile (· = ',') = marks at commas split
    generalize text.dropWhile (· = ',') = rest at split stop
    have only_marks : ∀ c ∈ marks, c = ',' ∨ c = '.' := by
      intro c mem
      rw [commas] at mem
      exact .inl (List.eq_of_mem_replicate mem)
    have number_more : NumberAt tables (d :: (u ++ marks)) rest := by
      refine .whole digit ?_ ?_ ?_
      · intro c mem
        rcases List.mem_append.mp mem with mem | mem
        · exact only c mem
        · rw [commas] at mem
          rw [List.eq_of_mem_replicate mem, inNumber]
          exact Bool.or_true _
      · intro c mem
        rw [Option.mem_def.mp mem] at stop
        have no_comma : c ≠ ',' := by simpa using stop
        have no_digit : tables.digit c = false := by
          by_contra is_digit
          obtain ⟨after, rfl⟩ : ∃ after, rest = c :: after := ⟨rest.tail, (List.eq_cons_of_mem_head? mem)⟩
          exact closed ⟨marks.length, [], c, after, by rw [← commas]; exact split.symm, by simpa using is_digit, .inl rfl⟩
        rw [inNumber, no_digit, decide_eq_false no_comma]
        rfl
      · intro e more eq
        by_contra is_digit
        exact closed ⟨marks.length, ['.'], e, more, by rw [← commas, ← split, eq]; rfl, by simpa using is_digit, .inr rfl⟩
    rw [← split, ← List.append_assoc, List.cons_append, numbersIn_number digit_table number_more, ← List.cons_append,
      rstripMarks_append only_marks, numbersIn_marks digit_table only_marks]
  | @decimal d u e more _ digit only digits _ =>
    have opened : EndsOpen tables (d :: (u ++ '.' :: e :: more)) := by
      obtain ⟨before, last, eq⟩ := List.eq_nil_or_concat (e :: more) |>.resolve_left (List.cons_ne_nil _ _)
      refine ⟨d :: (u ++ '.' :: before), last, 0, [], ?_, digits last (by rw [eq]; simp), .inl rfl⟩
      rw [eq]
      simp
    have closed := open_only opened
    refine numbersIn_number digit_table (.decimal digit only digits ?_)
    intro c mem
    by_contra is_digit
    obtain ⟨after, rfl⟩ : ∃ after, text = c :: after := ⟨text.tail, (List.eq_cons_of_mem_head? mem)⟩
    exact closed ⟨0, [], c, after, rfl, by simpa using is_digit, .inl rfl⟩

/-- A number that something follows stays a number when more follows. -/
lemma NumberAt.longer {number rest text : List Char} (h : NumberAt tables number rest) (some_rest : rest ≠ [])
    (open_only : EndsOpen tables (number ++ rest) → ¬ BeginsClosing tables text) :
    NumberAt tables number (rest ++ text) := by
  obtain ⟨c, more, rfl⟩ := List.exists_cons_of_ne_nil some_rest
  cases h with
  | whole digit only stop none =>
    refine .whole digit only stop ?_
    intro e after eq
    cases more with
    | nil =>
      obtain ⟨rfl, rfl⟩ := List.cons.inj eq
      by_contra is_digit
      exact open_only (endsOpen_whole digit only (.inr rfl)) ⟨0, [], e, after, rfl, by simpa using is_digit, .inl rfl⟩
    | cons e' more =>
      obtain ⟨rfl, same⟩ := List.cons.inj eq
      obtain ⟨rfl, _⟩ := List.cons.inj same
      exact none e' more rfl
  | decimal digit only digits stop => exact .decimal digit only digits stop

/-- Where two texts meet no number begins in the one and ends in the other, unless the first ends open and the
    second closes it. -/
theorem numbersIn_append (digit_table : DigitTable tables) (a : List Char) {b : List Char}
    (apart : EndsOpen tables a → ¬ BeginsClosing tables b) :
    numbersIn tables (a ++ b) = numbersIn tables a ++ numbersIn tables b := by
  cases a with
  | nil => rfl
  | cons c a =>
    cases digit : tables.digit c with
    | false =>
      rw [List.cons_append, numbersIn_cons digit, numbersIn_cons digit]
      exact numbersIn_append digit_table a fun opened => apart (opened.append [c])
    | true =>
      obtain ⟨number, rest, eq, some_number, h⟩ := exists_numberAt digit a
      rw [eq] at apart ⊢
      cases rest with
      | nil =>
        rw [List.append_nil] at apart ⊢
        have alone := numbersIn_number digit_table h
        rw [List.append_nil] at alone
        rw [numbersIn_last digit_table h apart, alone]
        rfl
      | cons e rest =>
        have shorter : (e :: rest).length < (c :: a).length := by
          rw [eq, List.length_append]
          have := List.length_pos_iff.mpr some_number
          omega
        rw [List.append_assoc, numbersIn_number digit_table (h.longer (List.cons_ne_nil _ _) apart),
          numbersIn_number digit_table h,
          numbersIn_append digit_table (e :: rest) fun opened => apart (opened.append number)]
        rfl
  termination_by a.length

end ClientEngagement.Review
