import ClientEngagement.Lib.DecimalText

/-!
# Dates and times

The dates and times of Python's `datetime`, with or without an offset from UTC, their ISO 8601 text and
the instant they stand for. `fromisoformat` reads the form that `isoformat` writes (`fromisoformat_isoformat`).
`utcDateTime` is the date and time of an instant in UTC (`micros_utcDateTime`).
-/

namespace ClientEngagement

/-- The parts of a date and time. -/
structure DateParts where
  year : ℕ
  month : ℕ
  day : ℕ
  hour : ℕ
  minute : ℕ
  second : ℕ
  microsecond : ℕ
  /-- Seconds east of UTC; none where no zone is known. -/
  utcoffset : Option ℤ
deriving DecidableEq

def isLeap (year : ℕ) : Prop := year % 4 = 0 ∧ (year % 100 ≠ 0 ∨ year % 400 = 0)

instance : DecidablePred isLeap := fun _ => inferInstanceAs (Decidable (_ ∧ _))

def daysInMonth (year month : ℕ) : ℕ :=
  if month = 2 then if isLeap year then 29 else 28
  else if month = 4 ∨ month = 6 ∨ month = 9 ∨ month = 11 then 30
  else 31

/-- The parts `datetime` accepts. -/
def DateParts.Valid (p : DateParts) : Prop :=
  (1 ≤ p.year ∧ p.year ≤ 9999) ∧ (1 ≤ p.month ∧ p.month ≤ 12) ∧
    (1 ≤ p.day ∧ p.day ≤ daysInMonth p.year p.month) ∧
    p.hour < 24 ∧ p.minute < 60 ∧ p.second < 60 ∧ p.microsecond < 1000000 ∧
    ∀ offset ∈ p.utcoffset, -86400 < offset ∧ offset < 86400

instance : DecidablePred DateParts.Valid := fun _ => inferInstanceAs (Decidable (_ ∧ _))

abbrev DateTime := {p : DateParts // p.Valid}

/-! ## The text -/

/-- `+HH:MM`, with the seconds if there are any. -/
def writeOffset (offset : ℤ) : List Char :=
  let seconds := offset.natAbs
  (if offset < 0 then '-' else '+') :: (paddedDigits 2 (seconds / 3600) ++
    ':' :: (paddedDigits 2 (seconds / 60 % 60) ++
      if seconds % 60 = 0 then [] else ':' :: paddedDigits 2 (seconds % 60)))

def writeFraction (microsecond : ℕ) : List Char :=
  if microsecond = 0 then [] else '.' :: paddedDigits 6 microsecond

def DateParts.isoformat (p : DateParts) : List Char :=
  paddedDigits 4 p.year ++ '-' :: (paddedDigits 2 p.month ++ '-' :: (paddedDigits 2 p.day ++
    'T' :: (paddedDigits 2 p.hour ++ ':' :: (paddedDigits 2 p.minute ++ ':' :: (paddedDigits 2 p.second ++
      (writeFraction p.microsecond ++ (p.utcoffset.map writeOffset).getD []))))))

/-- A number of so many digits. -/
def readDigits (width : ℕ) (text : List Char) : Option (ℕ × List Char) :=
  if (text.take width).length = width ∧ (text.take width).all Char.isDigit then
    some (Nat.ofDigitChars 10 (text.take width) 0, text.drop width)
  else none

def readChar (c : Char) : List Char → Option (List Char)
  | d :: rest => if d = c then some rest else none
  | [] => none

def readFraction : List Char → Option (ℕ × List Char)
  | '.' :: rest => readDigits 6 rest
  | rest => some (0, rest)

def readOffset : List Char → Option (Option ℤ)
  | [] => some none
  | sign :: rest =>
    if sign = '+' ∨ sign = '-' then
      (readDigits 2 rest).bind fun (hours, rest) => (readChar ':' rest).bind fun rest =>
        (readDigits 2 rest).bind fun (minutes, rest) =>
          let seconds := if rest = [] then some (0, []) else (readChar ':' rest).bind (readDigits 2)
          seconds.bind fun (seconds, rest) =>
            let offset : ℤ := hours * 3600 + minutes * 60 + seconds
            if rest = [] then some (some (if sign = '-' then -offset else offset)) else none
    else none

def fromisoformat (text : List Char) : Option DateTime :=
  (readDigits 4 text).bind fun (year, rest) => (readChar '-' rest).bind fun rest =>
    (readDigits 2 rest).bind fun (month, rest) => (readChar '-' rest).bind fun rest =>
      (readDigits 2 rest).bind fun (day, rest) => (readChar 'T' rest).bind fun rest =>
        (readDigits 2 rest).bind fun (hour, rest) => (readChar ':' rest).bind fun rest =>
          (readDigits 2 rest).bind fun (minute, rest) => (readChar ':' rest).bind fun rest =>
            (readDigits 2 rest).bind fun (second, rest) =>
              (readFraction rest).bind fun (microsecond, rest) => (readOffset rest).bind fun utcoffset =>
                let p : DateParts := { year, month, day, hour, minute, second, microsecond, utcoffset }
                if valid : p.Valid then some ⟨p, valid⟩ else none

lemma length_paddedDigits {width n : ℕ} (pos : 0 < width) (small : n < 10 ^ width) :
    (paddedDigits width n).length = width := by
  have short : (digitsOf n).length ≤ width := Nat.toDigits_length 10 n width pos small
  rw [paddedDigits, List.leftpad, List.length_append, List.length_replicate]
  omega

lemma readDigits_paddedDigits {width n : ℕ} (pos : 0 < width) (small : n < 10 ^ width) (rest : List Char) :
    readDigits width (paddedDigits width n ++ rest) = some (n, rest) := by
  have length := length_paddedDigits pos small
  have digits : (paddedDigits width n).all Char.isDigit = true :=
    List.all_eq_true.mpr fun _ => isDigit_of_mem_paddedDigits
  have number : Nat.ofDigitChars 10 (paddedDigits width n) 0 = n := by
    rw [paddedDigits, List.leftpad, Nat.ofDigitChars_append, Nat.ofDigitChars_replicate_zero, Nat.mul_zero]
    exact Nat.ofDigitChars_ten_toDigits
  rw [readDigits, List.take_left' length, List.drop_left' length, if_pos ⟨length, digits⟩, number]

lemma readChar_cons (c : Char) (rest : List Char) : readChar c (c :: rest) = some rest := if_pos rfl

/-- What is written after the seconds begins with a sign, if it is anything. -/
lemma readFraction_write {microsecond : ℕ} (small : microsecond < 1000000) {rest : List Char}
    (stop : rest.head? ≠ some '.') : readFraction (writeFraction microsecond ++ rest) = some (microsecond, rest) := by
  rw [writeFraction]
  split_ifs with zero
  · subst zero
    rw [List.nil_append, readFraction]
    rintro more rfl
    exact stop rfl
  · exact readDigits_paddedDigits (by decide) small rest

lemma readOffset_write {offset : ℤ} (bounds : -86400 < offset ∧ offset < 86400) :
    readOffset (writeOffset offset) = some (some offset) := by
  have hours : offset.natAbs / 3600 < 10 ^ 2 := by omega
  have minutes : offset.natAbs / 60 % 60 < 10 ^ 2 := by omega
  have seconds : offset.natAbs % 60 < 10 ^ 2 := by omega
  have sign : (if offset < 0 then '-' else '+') = '+' ∨ (if offset < 0 then '-' else '+') = '-' := by
    split_ifs
    · exact .inr rfl
    · exact .inl rfl
  have total : (↑(offset.natAbs / 3600) * 3600 + ↑(offset.natAbs / 60 % 60) * 60 + ↑(offset.natAbs % 60) : ℤ) =
      offset.natAbs := by omega
  have signed : (if (if offset < 0 then '-' else '+') = '-' then -(offset.natAbs : ℤ) else offset.natAbs) = offset := by
    split_ifs with negative dash dash
    · omega
    · exact absurd rfl dash
    · exact absurd dash (by decide)
    · omega
  rw [writeOffset, readOffset, if_pos sign, readDigits_paddedDigits (by decide) hours, Option.bind_some]
  simp only
  rw [readChar_cons, Option.bind_some, readDigits_paddedDigits (by decide) minutes, Option.bind_some]
  simp only
  by_cases zero : offset.natAbs % 60 = 0
  · rw [zero, Nat.cast_zero] at total
    simp only [if_pos zero, if_true, Option.bind_some, Nat.cast_zero]
    rw [total, signed]
  · have read := readDigits_paddedDigits (by decide) seconds []
    rw [List.append_nil] at read
    simp only [if_neg zero, reduceCtorEq, if_false, readChar_cons, Option.bind_some, read, if_true]
    rw [total, signed]

/-- A written date and time is read back. -/
theorem fromisoformat_isoformat (t : DateTime) : fromisoformat t.1.isoformat = some t := by
  obtain ⟨⟨year, month, day, hour, minute, second, microsecond, utcoffset⟩, valid⟩ := t
  obtain ⟨years, months, days, hours, minutes, seconds, micros, offset⟩ := id valid
  have day_le : daysInMonth year month ≤ 31 := by
    rw [daysInMonth]
    split_ifs <;> decide
  simp only at years months days hours minutes seconds micros offset
  have tail : readOffset ((utcoffset.map writeOffset).getD []) = some utcoffset := by
    cases utcoffset with
    | none => rfl
    | some seconds => exact readOffset_write (offset seconds rfl)
  have stop : ((utcoffset.map writeOffset).getD []).head? ≠ some '.' := by
    cases utcoffset with
    | none => nofun
    | some seconds =>
      rw [Option.map_some, Option.getD_some, writeOffset, List.head?_cons]
      split_ifs <;> decide
  simp only [fromisoformat, DateParts.isoformat,
    readDigits_paddedDigits (by decide) (by omega : year < 10 ^ 4),
    readDigits_paddedDigits (by decide) (by omega : month < 10 ^ 2),
    readDigits_paddedDigits (by decide) (by omega : day < 10 ^ 2),
    readDigits_paddedDigits (by decide) (by omega : hour < 10 ^ 2),
    readDigits_paddedDigits (by decide) (by omega : minute < 10 ^ 2),
    readDigits_paddedDigits (by decide) (by omega : second < 10 ^ 2),
    Option.bind_some, readChar_cons, readFraction_write micros stop, tail]
  rw [dif_pos valid]

/-! ## The instant -/

/-- Days before January 1st. -/
def daysBeforeYear (year : ℕ) : ℕ :=
  (year - 1) * 365 + (year - 1) / 4 - (year - 1) / 100 + (year - 1) / 400

/-- Days of the year before the month. -/
def daysBeforeMonth (year month : ℕ) : ℕ := ((List.range' 1 (month - 1)).map (daysInMonth year)).sum

/-- Days since the first of January of the year 1, that day included. -/
def DateParts.toordinal (p : DateParts) : ℕ := daysBeforeYear p.year + daysBeforeMonth p.year p.month + p.day

/-- Microseconds since the beginning of the year 1, UTC; none without a zone. -/
def DateParts.micros (p : DateParts) : Option ℤ :=
  p.utcoffset.map fun offset =>
    (((p.toordinal - 1 : ℕ) * 86400 + p.hour * 3600 + p.minute * 60 + p.second : ℤ) - offset) * 1000000 +
      p.microsecond

/-- The days of the years 1 to 9999. -/
def maxOrdinal : ℕ := 3652059

def yearOf (ordinal : ℕ) : ℕ := Nat.findGreatest (fun year => daysBeforeYear year < ordinal) 9999

/-- The month that holds the day of the year. -/
def monthOf (year day : ℕ) : ℕ := Nat.findGreatest (fun month => daysBeforeMonth year month < day) 12

/-- The parts of an instant in UTC. -/
def utcParts (micros : ℕ) : DateParts :=
  let seconds := micros / 1000000
  let ordinal := seconds / 86400 + 1
  let year := yearOf ordinal
  let month := monthOf year (ordinal - daysBeforeYear year)
  { year, month, day := ordinal - daysBeforeYear year - daysBeforeMonth year month,
    hour := seconds / 3600 % 24, minute := seconds / 60 % 60, second := seconds % 60,
    microsecond := micros % 1000000, utcoffset := some 0 }

lemma daysInYear {year : ℕ} (pos : 1 ≤ year) :
    daysBeforeYear year + daysBeforeMonth year 12 + daysInMonth year 12 = daysBeforeYear (year + 1) := by
  obtain ⟨year, rfl⟩ : ∃ before, year = before + 1 := ⟨year - 1, by omega⟩
  have february : daysInMonth (year + 1) 2 = if isLeap (year + 1) then 29 else 28 := rfl
  have months : daysBeforeMonth (year + 1) 12 + daysInMonth (year + 1) 12 = 337 + daysInMonth (year + 1) 2 := by
    simp only [daysBeforeMonth, List.range'_succ, List.map_cons, List.sum_cons]
    simp [daysInMonth]
    omega
  rw [Nat.add_assoc, months, february, daysBeforeYear, daysBeforeYear, Nat.add_sub_cancel, Nat.add_sub_cancel]
  have fewer : year / 100 ≤ year / 4 := by omega
  have fourth : (year + 1) / 4 = _ := Nat.succ_div
  have hundredth : (year + 1) / 100 = _ := Nat.succ_div
  have four_hundredth : (year + 1) / 400 = _ := Nat.succ_div
  have leap : isLeap (year + 1) ↔ 4 ∣ year + 1 ∧ (¬ 100 ∣ year + 1 ∨ 400 ∣ year + 1) := by
    rw [isLeap, Nat.dvd_iff_mod_eq_zero, Nat.dvd_iff_mod_eq_zero, Nat.dvd_iff_mod_eq_zero]
  have inner : 400 ∣ year + 1 → 100 ∣ year + 1 := Nat.dvd_trans (by decide)
  have outer : 100 ∣ year + 1 → 4 ∣ year + 1 := Nat.dvd_trans (by decide)
  rw [if_congr leap rfl rfl, fourth, hundredth, four_hundredth]
  generalize year / 4 = fourths at fewer ⊢
  generalize year / 100 = hundredths at fewer ⊢
  generalize year / 400 = four_hundredths
  by_cases by400 : 400 ∣ year + 1
  · simp only [by400, inner by400, outer (inner by400), not_true, or_true, and_true, if_true]
    omega
  · by_cases by100 : 100 ∣ year + 1
    · simp only [by400, by100, outer by100, not_true, or_self, and_false, if_true, if_false]
      omega
    · by_cases by4 : 4 ∣ year + 1
      · simp only [by400, by100, by4, not_false_eq_true, or_false, and_true, if_true, if_false]
        omega
      · simp only [by400, by100, by4, false_and, if_false]
        omega

lemma daysBeforeMonth_succ {year month : ℕ} (pos : 1 ≤ month) :
    daysBeforeMonth year (month + 1) = daysBeforeMonth year month + daysInMonth year month := by
  obtain ⟨month, rfl⟩ : ∃ before, month = before + 1 := ⟨month - 1, by omega⟩
  rw [daysBeforeMonth, daysBeforeMonth, Nat.add_sub_cancel, Nat.add_sub_cancel, List.range'_1_concat,
    List.map_append, List.sum_append, List.map_singleton, List.sum_singleton, Nat.add_comm 1 month]

/-- The greatest number with a property that the number after it lacks. -/
lemma findGreatest_spec (P : ℕ → Prop) [DecidablePred P] {least : ℕ} (most : ℕ) (le : least ≤ most) (holds : P least) :
    least ≤ Nat.findGreatest P most ∧ Nat.findGreatest P most ≤ most ∧ P (Nat.findGreatest P most) ∧
      (Nat.findGreatest P most < most → ¬ P (Nat.findGreatest P most + 1)) :=
  ⟨Nat.le_findGreatest le holds, Nat.findGreatest_le most, Nat.findGreatest_spec le holds,
    fun below => Nat.findGreatest_is_greatest (Nat.lt_succ_self _) below⟩

/-- The day of the year that an ordinal is. -/
lemma yearOf_spec {ordinal : ℕ} (pos : 1 ≤ ordinal) (bound : ordinal ≤ maxOrdinal) :
    (1 ≤ yearOf ordinal ∧ yearOf ordinal ≤ 9999) ∧ daysBeforeYear (yearOf ordinal) < ordinal ∧
      ordinal ≤ daysBeforeYear (yearOf ordinal + 1) := by
  have first : daysBeforeYear 1 < ordinal := pos
  obtain ⟨low, high, before, after⟩ :=
    findGreatest_spec (fun year => daysBeforeYear year < ordinal) 9999 (by decide) first
  refine ⟨⟨low, high⟩, before, ?_⟩
  rcases Nat.lt_or_ge (yearOf ordinal) 9999 with below | last
  · exact Nat.le_of_not_lt (after below)
  · have last : yearOf ordinal = 9999 := Nat.le_antisymm high last
    have total : daysBeforeYear (9999 + 1) = maxOrdinal := by decide
    rw [last, total]
    exact bound

lemma monthOf_spec (year day : ℕ) (pos : 1 ≤ day)
    (bound : day ≤ daysBeforeMonth year 12 + daysInMonth year 12) :
    (1 ≤ monthOf year day ∧ monthOf year day ≤ 12) ∧ daysBeforeMonth year (monthOf year day) < day ∧
      day ≤ daysBeforeMonth year (monthOf year day) + daysInMonth year (monthOf year day) := by
  have first : daysBeforeMonth year 1 < day := pos
  obtain ⟨low, high, before, after⟩ :=
    findGreatest_spec (fun month => daysBeforeMonth year month < day) 12 (by decide) first
  refine ⟨⟨low, high⟩, before, ?_⟩
  rcases Nat.lt_or_ge (monthOf year day) 12 with below | last
  · rw [← daysBeforeMonth_succ (show 1 ≤ monthOf year day from low)]
    exact Nat.le_of_not_lt (after below)
  · have last : monthOf year day = 12 := Nat.le_antisymm high last
    rw [last]
    exact bound

section

variable {micros : ℕ} (bound : micros < maxOrdinal * 86400000000)
include bound

lemma utcParts_day : (utcParts micros).Valid ∧ (utcParts micros).toordinal = micros / 86400000000 + 1 := by
  have ordinal : 1 ≤ micros / 1000000 / 86400 + 1 ∧ micros / 1000000 / 86400 + 1 ≤ maxOrdinal := by
    rw [maxOrdinal] at bound ⊢
    omega
  obtain ⟨years, before, after⟩ := yearOf_spec ordinal.1 ordinal.2
  rw [← daysInYear years.1] at after
  obtain ⟨months, first, last⟩ := monthOf_spec (yearOf (micros / 1000000 / 86400 + 1))
    (micros / 1000000 / 86400 + 1 - daysBeforeYear (yearOf (micros / 1000000 / 86400 + 1)))
    (by omega) (by omega)
  constructor
  · refine ⟨years, months, ⟨?_, ?_⟩, Nat.mod_lt _ (by decide), Nat.mod_lt _ (by decide), Nat.mod_lt _ (by decide),
      Nat.mod_lt _ (by decide), ?_⟩
    · simp only [utcParts]
      omega
    · simp only [utcParts]
      omega
    · intro offset utc
      obtain rfl := Option.some_inj.mp utc
      decide
  · simp only [utcParts, DateParts.toordinal]
    omega

/-- The date and time of an instant in UTC. -/
def utcDateTime : DateTime := ⟨utcParts micros, (utcParts_day bound).1⟩

/-- It stands for that instant. -/
theorem micros_utcDateTime : (utcDateTime bound).1.micros = some (micros : ℤ) := by
  have day := (utcParts_day bound).2
  rw [utcDateTime, DateParts.micros, day]
  simp only [utcParts, Option.map_some]
  congr 1
  omega

end

end ClientEngagement
