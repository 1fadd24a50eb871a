import ClientEngagement.Lib.Regex

/-!
# What a match needs

An expression needs an element when it matches only where the text ahead has one that fails a test (`Needs`).
A text all of whose elements pass the test has no match then (`search_of_unmatched`), and a replacement leaves
it as it is (`sub_of_unmatched_all`).
-/

namespace ClientEngagement.Regex

variable {α : Type*} {p : α → Bool}

/-- No match begins where everything ahead passes the test. -/
def Needs (p : α → Bool) (r : Regex α) : Prop := ∀ c : Cursor α, (∀ x ∈ c.after, p x = true) → ends r c = []

lemma needs_one {q : α → Bool} (apart : ∀ x, p x = true → q x = false) : Needs p (.one q) := by
  intro c passes
  rw [ends_one]
  cases ahead : c.after with
  | nil => rfl
  | cons x after =>
    rw [ahead] at passes
    simp only [apart x (passes x List.mem_cons_self)]
    rfl

lemma needs_ahead {q : α → Bool} (apart : ∀ x, p x = true → q x = false) : Needs p (.ahead q) := by
  intro c passes
  rw [ends_ahead]
  cases ahead : c.after with
  | nil => rfl
  | cons x after =>
    rw [ahead] at passes
    simp only [List.head?_cons, Option.any_some, apart x (passes x List.mem_cons_self)]
    rfl

lemma needs_seq_left {r : Regex α} (needs : Needs p r) (s : Regex α) : Needs p (.seq r s) := by
  intro c passes
  rw [ends_seq, needs c passes, List.flatMap_nil]

/-- What a match leaves is a part of the text, so the second half needs as much. -/
lemma needs_seq_right (r : Regex α) {s : Regex α} (needs : Needs p s) : Needs p (.seq r s) := by
  intro c passes
  rw [ends_seq, List.flatMap_eq_nil_iff]
  intro d here
  obtain ⟨found, cut, -⟩ := reaches_of_mem_ends here
  apply needs
  intro x mem
  apply passes
  rw [cut]
  exact List.mem_append_right found mem

lemma needs_alt {r s : Regex α} (first : Needs p r) (second : Needs p s) : Needs p (.alt r s) := by
  intro c passes
  rw [ends_alt, first c passes, second c passes, List.append_nil]

lemma needs_seqs {r : Regex α} {rs : List (Regex α)} (mem : r ∈ rs) (needs : Needs p r) : Needs p (seqs rs) := by
  induction rs with
  | nil => cases mem
  | cons s rs ih =>
    cases List.mem_cons.mp mem with
    | inl same =>
      rw [← same]
      exact needs_seq_left needs (seqs rs)
    | inr later => exact needs_seq_right s (ih later)

lemma needs_alts {rs : List (Regex α)} (all : ∀ r ∈ rs, Needs p r) : Needs p (alts rs) := by
  induction rs with
  | nil => exact needs_one fun _ _ => rfl
  | cons r rs ih =>
    exact needs_alt (all r List.mem_cons_self) (ih fun s mem => all s (List.mem_cons_of_mem r mem))

lemma needs_plus {r : Regex α} (needs : Needs p r) : Needs p (plus r) := needs_seq_left needs (.star r)

lemma needs_lit [DecidableEq α] {w : List α} {x : α} (mem : x ∈ w) (fails : p x = false) : Needs p (lit w) := by
  induction w with
  | nil => cases mem
  | cons y w ih =>
    cases List.mem_cons.mp mem with
    | inl same =>
      apply needs_seq_left
      apply needs_one
      intro z passes
      apply decide_eq_false
      rintro rfl
      rw [← same, fails] at passes
      cases passes
    | inr later => exact needs_seq_right _ (ih later)

/-! ## Texts without a match -/

/-- No match begins anywhere in the text. -/
def Unmatched (r : Regex α) (text : List α) : Prop := ∀ c : Cursor α, c.after <:+ text → ends r c = []

lemma Needs.unmatched {r : Regex α} (needs : Needs p r) {text : List α} (passes : ∀ x ∈ text, p x = true) :
    Unmatched r text :=
  fun c within => needs c fun x mem => passes x (within.mem mem)

lemma Unmatched.tail {r : Regex α} {x : α} {text : List α} (unmatched : Unmatched r (x :: text)) :
    Unmatched r text :=
  fun c within => unmatched c (within.trans (List.suffix_cons x text))

lemma searchFrom_of_unmatched {r : Regex α} {text : List α} (unmatched : Unmatched r text) (before : List α) :
    searchFrom r before text = false := by
  induction text generalizing before with
  | nil =>
    rw [searchFrom, unmatched ⟨before, []⟩ List.suffix_rfl]
    rfl
  | cons x text ih =>
    rw [searchFrom, unmatched ⟨before, x :: text⟩ List.suffix_rfl, ih unmatched.tail]
    rfl

theorem search_of_unmatched {r : Regex α} {text : List α} (unmatched : Unmatched r text) : search r text = false :=
  searchFrom_of_unmatched unmatched []

lemma piecesFrom_of_unmatched {r : Regex α} {n : ℕ} {c : Cursor α} (unmatched : Unmatched r c.after) :
    piecesFrom r n c = c.after.map .kept ∨ n < c.after.length := by
  induction n generalizing c with
  | zero => exact .inl rfl
  | succ n ih =>
    rw [piecesFrom]
    cases ahead : c.after with
    | nil => exact .inl rfl
    | cons x after =>
      rw [ahead] at unmatched
      have none_here : ends r c = [] := unmatched c (by rw [ahead])
      simp only [none_here, List.head?_nil, List.map_cons, List.length_cons]
      rcases ih (c := ⟨x :: c.before, after⟩) unmatched.tail with pieces | short
      · rw [pieces]
        exact .inl rfl
      · exact .inr (Nat.succ_lt_succ short)

/-- Where nothing matches nothing is replaced. -/
theorem sub_of_unmatched_all {r : Regex α} {text : List α} (unmatched : Unmatched r text) (repl : List α) :
    sub r repl text = text := by
  have cut : pieces r text = text.map .kept :=
    (piecesFrom_of_unmatched (c := ⟨[], text⟩) unmatched).resolve_right (lt_irrefl _)
  rw [sub, cut, replaced, List.flatMap_map]
  exact List.flatMap_singleton' text

end ClientEngagement.Regex
