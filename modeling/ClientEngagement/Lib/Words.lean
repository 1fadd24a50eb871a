import ClientEngagement.Lib.RegexScan
import Mathlib.Tactic.Ring

/-!
# Words

How many words a text has (`starts`), counted where they begin, so that a text may be counted part by part
(`starts_append`). A literal word replaced in a text adds the same number of characters wherever it stands
(`length_sub_lit`); the words it adds depend on the characters around it (`starts_sub_lit`), unless what
replaces it begins and ends inside a word (`wordGain_solid`).
-/

namespace ClientEngagement
open Regex (lit pieces sub source findall)

variable {α : Type*}

/-- The words that begin in a text, which goes on in a word or not. -/
def starts (blank : α → Bool) : Bool → List α → ℕ
  | _, [] => 0
  | inside, x :: text => if blank x then starts blank false text else (if inside then 0 else 1) + starts blank true text

/-- Whether a word goes on after the text. -/
def endsInside (blank : α → Bool) : Bool → List α → Bool
  | inside, [] => inside
  | _, x :: text => endsInside blank (!blank x) text

lemma starts_cons (blank : α → Bool) (inside : Bool) (x : α) (text : List α) :
    starts blank inside (x :: text) =
      if blank x then starts blank false text else (if inside then 0 else 1) + starts blank true text := rfl

lemma endsInside_cons (blank : α → Bool) (inside : Bool) (x : α) (text : List α) :
    endsInside blank inside (x :: text) = endsInside blank (!blank x) text := rfl

variable {blank : α → Bool} {inside : Bool}

lemma starts_append (a b : List α) :
    starts blank inside (a ++ b) = starts blank inside a + starts blank (endsInside blank inside a) b := by
  induction a generalizing inside with
  | nil => exact (Nat.zero_add _).symm
  | cons x a ih =>
    rw [List.cons_append, starts_cons, starts_cons, endsInside_cons]
    cases blank x with
    | true => exact ih
    | false =>
      show _ + starts blank true (a ++ b) = _ + starts blank true a + starts blank (endsInside blank true a) b
      rw [ih, Nat.add_assoc]

lemma endsInside_concat (text : List α) (x : α) : endsInside blank inside (text ++ [x]) = !blank x := by
  induction text generalizing inside with
  | nil => rfl
  | cons y text ih => exact ih

/-- A text without blanks is one word, or the rest of one. -/
lemma starts_solid {text : List α} (some_text : text ≠ []) (solid : ∀ x ∈ text, blank x = false)
    (inside : Bool) : starts blank inside text = (if inside then 0 else 1) ∧ endsInside blank inside text = true := by
  induction text generalizing inside with
  | nil => exact absurd rfl some_text
  | cons x text ih =>
    rw [starts_cons, endsInside_cons, solid x (List.mem_cons_self ..)]
    cases text with
    | nil => exact ⟨rfl, rfl⟩
    | cons y text =>
      obtain ⟨rest, ends⟩ := ih (List.cons_ne_nil _ _) (fun z mem => solid z (List.mem_cons_of_mem _ mem)) true
      refine ⟨?_, ends⟩
      show _ + starts blank true (y :: text) = _
      rw [rest]
      rfl

/-- The parts between the blanks that are not empty are the words. -/
theorem length_splitOnP (text : List α) :
    ((text.splitOnP blank).filter (· ≠ [])).length = starts blank false text := by
  have parts : ∀ text : List α, ∃ first rest, text.splitOnP blank = first :: rest ∧
      ((first :: rest).filter (· ≠ [])).length = starts blank false text ∧
      (rest.filter (· ≠ [])).length = starts blank true text := by
    intro text
    induction text with
    | nil => exact ⟨[], [], rfl, rfl, rfl⟩
    | cons x text ih =>
      obtain ⟨first, rest, split, all, others⟩ := ih
      rw [List.splitOnP_cons_eq_if_modifyHead, starts_cons, starts_cons, split]
      cases blank x with
      | true =>
        refine ⟨[], first :: rest, rfl, ?_, all⟩
        rw [List.filter_cons_of_neg (by simp)]
        exact all
      | false =>
        refine ⟨x :: first, rest, rfl, ?_, ?_⟩
        · rw [List.filter_cons_of_pos (by simp), List.length_cons, others]
          exact Nat.add_comm _ _
        · rw [others]
          exact (Nat.zero_add _).symm
  obtain ⟨first, rest, split, all, -⟩ := parts text
  rw [split, all]

/-- Beyond its first character a text does not show where it goes on. -/
lemma starts_next (blank : α → Bool) (inside : Bool) (text : List α) :
    starts blank inside text = starts blank true text + starts blank inside (text.take 1) := by
  cases text with
  | nil => rfl
  | cons x text =>
    rw [List.take_succ_cons, List.take_zero, starts_cons, starts_cons, starts_cons]
    cases blank x with
    | true => rfl
    | false =>
      show _ + starts blank true text = 0 + starts blank true text + (_ + 0)
      omega

/-- A text that begins and ends inside a word. -/
def SolidEnds (blank : α → Bool) (text : List α) : Prop :=
  (∃ x rest, text = x :: rest ∧ blank x = false) ∧ endsInside blank false text = true

lemma SolidEnds.starts_eq {repl : List α} (solid : SolidEnds blank repl) (inside : Bool) :
    (starts blank inside repl : ℤ) - (if inside then 0 else 1) = starts blank false repl - 1 ∧
      endsInside blank inside repl = true := by
  obtain ⟨⟨x, rest, rfl, no⟩, ends⟩ := solid
  refine ⟨?_, ends⟩
  rw [starts_cons, starts_cons, no]
  cases inside with
  | true =>
    show ((0 + starts blank true rest : ℕ) : ℤ) - 0 = (1 + starts blank true rest : ℕ) - 1
    omega
  | false => rfl

/-! ## A literal word replaced -/

/-- How often a word is found in a text, from left to right. -/
def occurrences [DecidableEq α] (w text : List α) : ℕ := (findall (lit w) text).length

/-- What the words of a text gain when the matches of a cut are replaced: the words that begin in the
    replacement and the character after it, where one began with the match. -/
def wordGain (blank : α → Bool) (repl : List α) : Bool → List (Piece α) → ℤ
  | _, [] => 0
  | _, .kept x :: cut => wordGain blank repl (!blank x) cut
  | inside, .matched _ :: cut =>
    (starts blank inside (repl ++ (source cut).take 1) - (if inside then 0 else 1)) +
      wordGain blank repl (endsInside blank inside repl) cut

variable [DecidableEq α] {w : List α}

lemma pieces_lit_append (some_word : w ≠ []) (text : List α) :
    pieces (lit w) (w ++ text) = .matched w :: pieces (lit w) text := by
  have first : (Regex.rests (lit w) (w ++ text)).head? = some text := by
    rw [Regex.rests_lit_append]
    rfl
  exact Regex.pieces_append (Regex.blind_lit w) some_word first

lemma pieces_lit_cons {x : α} {text : List α} (no : ¬ w <+: x :: text) :
    pieces (lit w) (x :: text) = .kept x :: pieces (lit w) text :=
  Regex.pieces_cons (Regex.blind_lit w) (Regex.rests_lit_elsewhere no)

/-- A text begins with the word, or with another character. -/
theorem literal_induction (some_word : w ≠ []) {motive : List α → Prop} (nil : motive [])
    (found : ∀ text, motive text → motive (w ++ text))
    (kept : ∀ x text, ¬ w <+: x :: text → motive text → motive (x :: text)) (text : List α) : motive text := by
  induction h : text.length using Nat.strong_induction_on generalizing text with
  | _ n ih =>
    subst h
    by_cases here : w <+: text
    · obtain ⟨rest, rfl⟩ := here
      refine found rest (ih _ ?_ rest rfl)
      have := List.length_pos_of_ne_nil some_word
      rw [List.length_append]
      omega
    · cases text with
      | nil => exact nil
      | cons x text => exact kept x text here (ih _ (Nat.lt_succ_self _) text rfl)

lemma occurrences_append (some_word : w ≠ []) (text : List α) :
    occurrences w (w ++ text) = occurrences w text + 1 := by
  rw [occurrences, findall, pieces_lit_append some_word]
  rfl

lemma occurrences_cons {x : α} {text : List α} (no : ¬ w <+: x :: text) :
    occurrences w (x :: text) = occurrences w text := by
  rw [occurrences, findall, pieces_lit_cons no]
  rfl

theorem length_sub_lit (some_word : w ≠ []) (repl text : List α) :
    ((sub (lit w) repl text).length : ℤ) =
      text.length + occurrences w text * (repl.length - w.length) := by
  induction text using literal_induction some_word with
  | nil =>
    have none : occurrences w [] = 0 := rfl
    rw [none, Nat.cast_zero, zero_mul, add_zero]
    rfl
  | found text ih =>
    rw [Regex.sub_lit_append some_word, occurrences_append some_word]
    push_cast [List.length_append]
    rw [ih]
    ring
  | kept x text no ih =>
    rw [Regex.sub_lit_cons repl no, occurrences_cons no]
    push_cast [List.length_cons]
    rw [ih]
    ring

/-- The words of a text in which a word without blanks is replaced. -/
theorem starts_sub_lit (some_word : w ≠ []) (solid : ∀ x ∈ w, blank x = false) (repl text : List α)
    (inside : Bool) : (starts blank inside (sub (lit w) repl text) : ℤ) =
      starts blank inside text + wordGain blank repl inside (pieces (lit w) text) := by
  induction text using literal_induction some_word generalizing inside with
  | nil => rfl
  | found text ih =>
    obtain ⟨begun, ends⟩ := starts_solid some_word solid inside
    have next := starts_next blank (endsInside blank inside repl) text
    rw [Regex.sub_lit_append some_word, pieces_lit_append some_word, starts_append, starts_append, begun, ends,
      wordGain, Regex.source_pieces, starts_append]
    push_cast
    rw [ih, next]
    push_cast
    ring
  | kept x text no ih =>
    rw [Regex.sub_lit_cons repl no, pieces_lit_cons no, wordGain, starts_cons, starts_cons]
    cases blank x with
    | true => exact ih false
    | false =>
      show ((_ + starts blank true (sub (lit w) repl text) : ℕ) : ℤ) =
        (_ + starts blank true text : ℕ) + wordGain blank repl true (pieces (lit w) text)
      push_cast
      rw [ih]
      ring

/-- A replacement that begins and ends inside a word adds its words, less the one replaced. -/
theorem wordGain_solid (some_word : w ≠ []) {repl : List α} (solid : SolidEnds blank repl) (text : List α)
    (inside : Bool) : wordGain blank repl inside (pieces (lit w) text) =
      occurrences w text * (starts blank false repl - 1) := by
  induction text using literal_induction some_word generalizing inside with
  | nil =>
    have none : occurrences w [] = 0 := rfl
    rw [none, Nat.cast_zero, zero_mul]
    rfl
  | found text ih =>
    obtain ⟨begun, ends⟩ := solid.starts_eq inside
    have no_more : starts blank true (text.take 1) = 0 := by
      have := starts_next blank true text
      omega
    rw [pieces_lit_append some_word, wordGain, Regex.source_pieces, starts_append, ends, no_more, ih,
      occurrences_append some_word, Nat.add_zero, begun]
    push_cast
    ring
  | kept x text no ih => rw [pieces_lit_cons no, wordGain, ih, occurrences_cons no]

end ClientEngagement
