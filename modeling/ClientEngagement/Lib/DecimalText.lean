import Mathlib

/-!
# Numbers in decimal digits

Natural numbers in digits, in digits grouped by thousands, and decimal fractions with a fixed number of places
or without their trailing zeros. All of them are figures (`Figure`): they begin and end with a digit, with
digits and commas between, and a fraction at most.
-/

namespace ClientEngagement

/-- The digits of a number. -/
def digitsOf (n : ℕ) : List Char := Nat.toDigits 10 n

/-- A comma after every three digits that others follow; the last digit of the number comes first. -/
def groupThrees : List Char → List Char
  | a :: b :: c :: d :: rest => a :: b :: c :: ',' :: groupThrees (d :: rest)
  | rest => rest

/-- The digits with commas between the thousands. -/
def groupedDigits (n : ℕ) : List Char := (groupThrees (digitsOf n).reverse).reverse

/-- The digits with zeros in front, up to a width. -/
def paddedDigits (width n : ℕ) : List Char := List.leftpad width '0' (digitsOf n)

/-- A number of `10 ^ -places`, with all its places. -/
def fixedPlaces (whole : ℕ → List Char) (places n : ℕ) : List Char :=
  whole (n / 10 ^ places) ++ if places = 0 then [] else '.' :: paddedDigits places (n % 10 ^ places)

/-- The same without trailing zeros. -/
def fewestPlaces (places n : ℕ) : List Char :=
  digitsOf (n / 10 ^ places) ++
    match ((paddedDigits places (n % 10 ^ places)).reverse.dropWhile (· = '0')).reverse with
    | [] => []
    | fraction => '.' :: fraction

/-- Digits and commas that begin and end with a digit, with a fraction at most. -/
structure Figure (text : List Char) : Prop where
  parts : ∃ first middle last fraction, text = first :: (middle ++ fraction) ∧ first.isDigit = true ∧
    (∀ c ∈ middle, c.isDigit = true ∨ c = ',') ∧ last ∈ (first :: middle).getLast? ∧ last.isDigit = true ∧
    (fraction = [] ∨ ∃ e more, fraction = '.' :: e :: more ∧ ∀ c ∈ e :: more, c.isDigit = true)

/-! ## Digits -/

lemma isDigit_of_mem_digitsOf {n : ℕ} {c : Char} (mem : c ∈ digitsOf n) : c.isDigit = true :=
  Nat.isDigit_of_mem_toDigits (by decide) (by decide) mem

lemma digitsOf_ne_nil (n : ℕ) : digitsOf n ≠ [] := Nat.toDigits_ne_nil

lemma isDigit_of_mem_paddedDigits {width n : ℕ} {c : Char} (mem : c ∈ paddedDigits width n) : c.isDigit = true := by
  rw [paddedDigits, List.leftpad, List.mem_append, List.mem_replicate] at mem
  rcases mem with ⟨_, rfl⟩ | mem
  · rfl
  · exact isDigit_of_mem_digitsOf mem

lemma paddedDigits_ne_nil (width n : ℕ) : paddedDigits width n ≠ [] := by
  rw [paddedDigits, List.leftpad]
  intro empty
  exact digitsOf_ne_nil n (List.append_eq_nil_iff.mp empty).2

/-- Grouping keeps the first and the last digit, and adds nothing but commas. -/
lemma groupThrees_parts (digits : List Char) (digit : ∀ c ∈ digits, c.isDigit = true) :
    (groupThrees digits).head? = digits.head? ∧ (groupThrees digits).getLast? = digits.getLast? ∧
      ∀ c ∈ groupThrees digits, c.isDigit = true ∨ c = ',' := by
  induction digits using groupThrees.induct with
  | case1 a b c d rest ih =>
    obtain ⟨head, last, only⟩ := ih fun x mem => digit x (by simp_all)
    rw [groupThrees]
    refine ⟨rfl, ?_, ?_⟩
    · cases grouped : groupThrees (d :: rest) with
      | nil =>
        rw [grouped] at head
        cases head
      | cons e more =>
        rw [grouped] at last
        simp only [List.getLast?_cons_cons]
        exact last
    · intro x mem
      simp only [List.mem_cons] at mem
      rcases mem with rfl | rfl | rfl | rfl | mem
      · exact .inl (digit _ (by simp))
      · exact .inl (digit _ (by simp))
      · exact .inl (digit _ (by simp))
      · exact .inr rfl
      · exact only x mem
  | case2 rest short =>
    have plain : groupThrees rest = rest := by
      rw [groupThrees]
      exact short
    rw [plain]
    exact ⟨rfl, rfl, fun c mem => .inl (digit c mem)⟩

/-! ## Figures -/

/-- Digits and commas between two digits, or one digit. -/
lemma Figure.of_whole {whole fraction : List Char} (first last : Char) (head : first ∈ whole.head?)
    (first_digit : first.isDigit = true) (only : ∀ c ∈ whole, c.isDigit = true ∨ c = ',')
    (tail : last ∈ whole.getLast?) (last_digit : last.isDigit = true)
    (decimal : fraction = [] ∨ ∃ e more, fraction = '.' :: e :: more ∧ ∀ c ∈ e :: more, c.isDigit = true) :
    Figure (whole ++ fraction) := by
  cases whole with
  | nil => cases head
  | cons c middle =>
    obtain rfl := Option.some_inj.mp head
    exact ⟨_, middle, last, fraction, rfl, first_digit, fun x mem => only x (List.mem_cons_of_mem _ mem), tail,
      last_digit, decimal⟩

/-- Digits, and a fraction of digits at most. -/
lemma Figure.of_digits {digits fraction : List Char} (some_digits : digits ≠ [])
    (digit : ∀ c ∈ digits, c.isDigit = true)
    (decimal : fraction = [] ∨ ∃ e more, fraction = '.' :: e :: more ∧ ∀ c ∈ e :: more, c.isDigit = true) :
    Figure (digits ++ fraction) :=
  .of_whole _ _ (List.head_mem_head? some_digits) (digit _ (List.head_mem some_digits)) (fun c mem => .inl (digit c mem))
    (List.getLast_mem_getLast? some_digits) (digit _ (List.getLast_mem some_digits)) decimal

lemma figure_digitsOf (n : ℕ) : Figure (digitsOf n) := by
  have figure := Figure.of_digits (digitsOf_ne_nil n) (fun _ => isDigit_of_mem_digitsOf) (.inl rfl)
  rwa [List.append_nil] at figure

/-- Grouped digits before a fraction. -/
lemma figure_groupedDigits (n : ℕ) {fraction : List Char}
    (decimal : fraction = [] ∨ ∃ e more, fraction = '.' :: e :: more ∧ ∀ c ∈ e :: more, c.isDigit = true) :
    Figure (groupedDigits n ++ fraction) := by
  have digit : ∀ c ∈ (digitsOf n).reverse, c.isDigit = true := fun c mem =>
    isDigit_of_mem_digitsOf (List.mem_reverse.mp mem)
  obtain ⟨head, last, only⟩ := groupThrees_parts _ digit
  rw [List.head?_reverse] at head
  rw [List.getLast?_reverse] at last
  refine .of_whole ((digitsOf n).head (digitsOf_ne_nil n)) ((digitsOf n).getLast (digitsOf_ne_nil n)) ?_ (isDigit_of_mem_digitsOf (List.head_mem _)) ?_ ?_ (isDigit_of_mem_digitsOf (List.getLast_mem _)) decimal
  · rw [groupedDigits, List.head?_reverse, last]
    exact List.head_mem_head? _
  · intro c mem
    exact only c (List.mem_reverse.mp mem)
  · rw [groupedDigits, List.getLast?_reverse, head]
    exact List.getLast_mem_getLast? _

lemma decimal_paddedDigits (width n : ℕ) : ∃ e more, '.' :: paddedDigits width n = '.' :: e :: more ∧
    ∀ c ∈ e :: more, c.isDigit = true := by
  obtain ⟨e, more, eq⟩ := List.exists_cons_of_ne_nil (paddedDigits_ne_nil width n)
  exact ⟨e, more, congrArg _ eq, fun c mem => isDigit_of_mem_paddedDigits (eq ▸ mem)⟩

lemma figure_fixedPlaces_grouped (places n : ℕ) : Figure (fixedPlaces groupedDigits places n) := by
  apply figure_groupedDigits
  split_ifs
  · exact .inl rfl
  · exact .inr (decimal_paddedDigits places _)

lemma figure_fewestPlaces (places n : ℕ) : Figure (fewestPlaces places n) := by
  apply Figure.of_digits (digitsOf_ne_nil _) fun _ => isDigit_of_mem_digitsOf
  cases kept : ((paddedDigits places (n % 10 ^ places)).reverse.dropWhile (· = '0')).reverse with
  | nil => exact .inl rfl
  | cons e more =>
    refine .inr ⟨e, more, rfl, fun c mem => ?_⟩
    rw [← kept, List.mem_reverse] at mem
    exact isDigit_of_mem_paddedDigits (List.mem_reverse.mp ((List.dropWhile_suffix _).mem mem))

example : groupedDigits 1234567 = "1,234,567".toList := by decide

example : fewestPlaces 5 320000 = "3.2".toList := by decide

end ClientEngagement
