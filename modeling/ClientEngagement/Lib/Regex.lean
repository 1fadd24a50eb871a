import Mathlib

/-!
# Backtracking regular expressions

Regular expressions over an arbitrary alphabet as a backtracking matcher reads them. `ends` lists the
places where a match may end, in the order the matcher tries them; the first one is the match.
`pieces` cuts a text into the matches found from left to right and the elements between them, and
`sub` replaces the matches. An occurrence that no match touches is still there after `sub`
(`Spared`, `Spared.infix`).
-/

namespace ClientEngagement

inductive Regex (α : Type*) where
  | empty
  | one (p : α → Bool)
  | seq (r s : Regex α)
  | alt (r s : Regex α)
  | star (r : Regex α)
  /-- The elements just before satisfy the tests, the nearest first. -/
  | behind (ps : List (α → Bool))
  | ahead (p : α → Bool)
  /-- Exactly one of the neighbours satisfies the test. -/
  | boundary (p : α → Bool)
  | start
  /-- The end of the text, or just before a last element that satisfies the test. -/
  | stop (p : α → Bool)

/-- A place in a text: what lies before it, nearest first, and what lies after it. -/
structure Cursor (α : Type*) where
  before : List α
  after : List α

/-- A part of a text that was cut: an element left alone, or a match. -/
inductive Piece (α : Type*) where
  | kept (x : α)
  | matched (found : List α)

namespace Regex

variable {α : Type*}

/-- Greedy repetition; a round that consumes nothing ends it. -/
def iterate (step : Cursor α → List (Cursor α)) : ℕ → Cursor α → List (Cursor α)
  | 0, c => [c]
  | n + 1, c =>
    ((step c).filter fun d => d.after.length < c.after.length).flatMap (iterate step n) ++ [c]

/-- Where a match that begins at the cursor may end, the preferred end first. -/
def ends : Regex α → Cursor α → List (Cursor α)
  | .empty, c => [c]
  | .one p, c =>
    match c.after with
    | [] => []
    | x :: after => if p x then [⟨x :: c.before, after⟩] else []
  | .seq r s, c => (ends r c).flatMap (ends s)
  | .alt r s, c => ends r c ++ ends s c
  | .star r, c => iterate (ends r) c.after.length c
  | .behind ps, c =>
    if ps.length ≤ c.before.length ∧ ((ps.zip c.before).all fun (p, x) => p x) then [c] else []
  | .ahead p, c => if c.after.head?.any p then [c] else []
  | .boundary p, c => if c.before.head?.any p ≠ c.after.head?.any p then [c] else []
  | .start, c => if c.before.isEmpty then [c] else []
  | .stop p, c =>
    match c.after with
    | [] => [c]
    | [x] => if p x then [c] else []
    | _ => []

lemma ends_one (p : α → Bool) (c : Cursor α) :
    ends (.one p) c =
      match c.after with
      | [] => []
      | x :: after => if p x then [⟨x :: c.before, after⟩] else [] := rfl

lemma ends_seq (r s : Regex α) (c : Cursor α) : ends (.seq r s) c = (ends r c).flatMap (ends s) := rfl

lemma ends_alt (r s : Regex α) (c : Cursor α) : ends (.alt r s) c = ends r c ++ ends s c := rfl

lemma ends_star (r : Regex α) (c : Cursor α) : ends (.star r) c = iterate (ends r) c.after.length c := rfl

lemma ends_ahead (p : α → Bool) (c : Cursor α) : ends (.ahead p) c = if c.after.head?.any p then [c] else [] := rfl

/-! ## Derived forms -/

/-- A literal text. -/
def lit [DecidableEq α] : List α → Regex α
  | [] => .empty
  | x :: xs => .seq (.one fun y => y = x) (lit xs)

def opt (r : Regex α) : Regex α := .alt r .empty

def plus (r : Regex α) : Regex α := .seq r (.star r)

def times : ℕ → Regex α → Regex α
  | 0, _ => .empty
  | n + 1, r => .seq r (times n r)

/-- At least `n` rounds. -/
def atLeast (n : ℕ) (r : Regex α) : Regex α := .seq (times n r) (.star r)

/-- Between `n` and `n + m` rounds, as many as possible. -/
def between (n : ℕ) : ℕ → Regex α → Regex α
  | 0, r => times n r
  | m + 1, r => .seq (times n r) (opt (between 1 m r))

/-- The first of the expressions that matches. -/
def alts : List (Regex α) → Regex α
  | [] => .one fun _ => false
  | r :: rs => .alt r (alts rs)

/-- The expressions one after the other. -/
def seqs : List (Regex α) → Regex α
  | [] => .empty
  | r :: rs => .seq r (seqs rs)

/-! ## Searching and replacing -/

/-- Whether a match begins at the start of the text. -/
def matchesPrefix (r : Regex α) (text : List α) : Bool := !(ends r ⟨[], text⟩).isEmpty

/-- Whether a match begins somewhere. -/
def searchFrom (r : Regex α) (before : List α) : List α → Bool
  | [] => !(ends r ⟨before, []⟩).isEmpty
  | x :: after => !(ends r ⟨before, x :: after⟩).isEmpty || searchFrom r (x :: before) after

def search (r : Regex α) (text : List α) : Bool := searchFrom r [] text

/-- The pieces of the text after the cursor, within a number of steps. -/
def piecesFrom (r : Regex α) : ℕ → Cursor α → List (Piece α)
  | 0, c => c.after.map .kept
  | n + 1, c =>
    match c.after with
    | [] => []
    | x :: after =>
      match (ends r c).head? with
      | none => .kept x :: piecesFrom r n ⟨x :: c.before, after⟩
      | some d =>
        if d.after.length < c.after.length then
          .matched (c.after.take (c.after.length - d.after.length)) :: piecesFrom r n d
        else .matched [] :: .kept x :: piecesFrom r n ⟨x :: c.before, after⟩

/-- A text cut at the matches found from left to right. -/
def pieces (r : Regex α) (text : List α) : List (Piece α) :=
  piecesFrom r text.length ⟨[], text⟩

/-- The text the pieces were cut from. -/
def source (cut : List (Piece α)) : List α :=
  cut.flatMap fun
    | .kept x => [x]
    | .matched found => found

/-- The text with every match replaced. -/
def replaced (repl : List α) (cut : List (Piece α)) : List α :=
  cut.flatMap fun
    | .kept x => [x]
    | .matched _ => repl

def sub (r : Regex α) (repl text : List α) : List α := replaced repl (pieces r text)

/-- The matches, from left to right. -/
def findall (r : Regex α) (text : List α) : List (List α) :=
  (pieces r text).filterMap fun
    | .kept _ => none
    | .matched found => some found

/-- One replacement after the other. -/
def subs (repl : List α) (rs : List (Regex α)) (text : List α) : List α :=
  rs.foldl (fun text r => sub r repl text) text

/-! ## Where a match ends -/

/-- The cursor moved forward in its text. -/
def Reaches (c d : Cursor α) : Prop :=
  ∃ found, c.after = found ++ d.after ∧ d.before = found.reverse ++ c.before

lemma Reaches.refl (c : Cursor α) : Reaches c c := ⟨[], rfl, rfl⟩

lemma Reaches.trans {c d e : Cursor α} (h : Reaches c d) (h' : Reaches d e) : Reaches c e := by
  obtain ⟨u, hu, hu'⟩ := h
  obtain ⟨v, hv, hv'⟩ := h'
  refine ⟨u ++ v, ?_, ?_⟩
  · rw [hu, hv, List.append_assoc]
  · rw [hv', hu', List.reverse_append, List.append_assoc]

lemma reaches_of_mem_iterate {step : Cursor α → List (Cursor α)}
    (sound : ∀ c d, d ∈ step c → Reaches c d) {n : ℕ} {c d : Cursor α} (h : d ∈ iterate step n c) :
    Reaches c d := by
  induction n generalizing c with
  | zero =>
    rw [iterate, List.mem_singleton] at h
    rw [h]
    exact .refl c
  | succ n ih =>
    rw [iterate, List.mem_append] at h
    cases h with
    | inl h =>
      obtain ⟨mid, hmid, hd⟩ := List.mem_flatMap.mp h
      exact (sound c mid (List.mem_filter.mp hmid).1).trans (ih hd)
    | inr h =>
      rw [List.mem_singleton.mp h]
      exact .refl c

/-- A match is a stretch of the text. -/
theorem reaches_of_mem_ends {r : Regex α} {c d : Cursor α} (h : d ∈ ends r c) : Reaches c d := by
  induction r generalizing c d with
  | empty =>
    rw [ends, List.mem_singleton] at h
    rw [h]
    exact .refl c
  | one p =>
    cases c with
    | mk before after =>
      cases after with
      | nil => cases h
      | cons x after =>
        simp only [ends] at h
        split at h
        · rw [List.mem_singleton.mp h]
          exact ⟨[x], rfl, rfl⟩
        · cases h
  | seq r s ihr ihs =>
    rw [ends] at h
    obtain ⟨mid, hmid, hd⟩ := List.mem_flatMap.mp h
    exact (ihr hmid).trans (ihs hd)
  | alt r s ihr ihs =>
    rw [ends, List.mem_append] at h
    cases h with
    | inl h => exact ihr h
    | inr h => exact ihs h
  | star r ih =>
    rw [ends] at h
    exact reaches_of_mem_iterate (fun _ _ => ih) h
  | behind ps =>
    rw [ends] at h
    split at h
    · rw [List.mem_singleton.mp h]
      exact .refl c
    · cases h
  | ahead p =>
    rw [ends] at h
    split at h
    · rw [List.mem_singleton.mp h]
      exact .refl c
    · cases h
  | boundary p =>
    rw [ends] at h
    split at h
    · rw [List.mem_singleton.mp h]
      exact .refl c
    · cases h
  | start =>
    rw [ends] at h
    split at h
    · rw [List.mem_singleton.mp h]
      exact .refl c
    · cases h
  | stop p =>
    rw [ends] at h
    split at h
    · rw [List.mem_singleton.mp h]
      exact .refl c
    · split at h
      · rw [List.mem_singleton.mp h]
        exact .refl c
      · cases h
    · cases h

lemma source_map_kept (text : List α) : source (text.map .kept) = text := by
  induction text with
  | nil => rfl
  | cons x text ih => exact congrArg (x :: ·) ih

lemma source_piecesFrom (r : Regex α) (n : ℕ) (c : Cursor α) :
    source (piecesFrom r n c) = c.after := by
  induction n generalizing c with
  | zero =>
    rw [piecesFrom]
    exact source_map_kept c.after
  | succ n ih =>
    cases c with
    | mk before after =>
      rw [piecesFrom]
      cases after with
      | nil => rfl
      | cons x after =>
        simp only
        cases e : (ends r ⟨before, x :: after⟩).head? with
        | none => exact congrArg (x :: ·) (ih ⟨x :: before, after⟩)
        | some d =>
          simp only
          split
          · obtain ⟨found, cut, -⟩ := reaches_of_mem_ends (List.mem_of_head? e)
            have taken : (x :: after).take ((x :: after).length - d.after.length) = found := by
              simp only at cut
              rw [cut, List.length_append, Nat.add_sub_cancel, List.take_left']
              rfl
            show (x :: after).take _ ++ source (piecesFrom r n d) = x :: after
            rw [taken, ih d]
            exact cut.symm
          · exact congrArg (x :: ·) (ih ⟨x :: before, after⟩)

/-- The pieces of a text are all of it. -/
theorem source_pieces (r : Regex α) (text : List α) : source (pieces r text) = text :=
  source_piecesFrom r _ _

/-! ## Texts without a match -/

/-- When nothing is found, no match begins at any element. -/
lemma ends_eq_nil_of_piecesFrom {r : Regex α} {n : ℕ} {c : Cursor α}
    (none_found : ∀ found, .matched found ∉ piecesFrom r n c) (enough : c.after.length ≤ n)
    {a b : List α} (split : c.after = a ++ b) (more : b ≠ []) :
    ends r ⟨a.reverse ++ c.before, b⟩ = [] := by
  induction n generalizing c a with
  | zero =>
    rw [Nat.le_zero, List.length_eq_zero_iff] at enough
    rw [enough, eq_comm, List.append_eq_nil_iff] at split
    exact absurd split.2 more
  | succ n ih =>
    cases c with
    | mk before after =>
      cases after with
      | nil =>
        rw [eq_comm, List.append_eq_nil_iff] at split
        exact absurd split.2 more
      | cons x after =>
        rw [piecesFrom] at none_found
        cases e : (ends r ⟨before, x :: after⟩).head? with
        | some d =>
          simp only [e] at none_found
          split_ifs at none_found
          · exact absurd (List.mem_cons_self ..) (none_found _)
          · exact absurd (List.mem_cons_self ..) (none_found _)
        | none =>
          simp only [e] at none_found
          cases a with
          | nil =>
            cases split
            exact List.head?_eq_none_iff.mp e
          | cons y a =>
            cases split
            rw [List.reverse_cons, List.append_assoc]
            refine ih (c := ⟨x :: before, a ++ b⟩) ?_ (Nat.le_of_succ_le_succ enough) rfl
            intro found mem
            exact none_found found (List.mem_cons_of_mem _ mem)

theorem ends_eq_nil_of_findall {r : Regex α} {a b : List α} (none_found : findall r (a ++ b) = [])
    (more : b ≠ []) : ends r ⟨a.reverse, b⟩ = [] := by
  have unmatched : ∀ found, .matched found ∉ pieces r (a ++ b) := by
    intro found mem
    have listed : found ∈ findall r (a ++ b) := List.mem_filterMap.mpr ⟨_, mem, rfl⟩
    rw [none_found] at listed
    cases listed
  have h := ends_eq_nil_of_piecesFrom (c := ⟨[], a ++ b⟩) unmatched le_rfl rfl more
  rwa [List.append_nil] at h

/-- Where a match that begins with a literal text may end. -/
lemma mem_ends_lit [DecidableEq α] (w before after : List α) :
    ⟨w.reverse ++ before, after⟩ ∈ ends (lit w) ⟨before, w ++ after⟩ := by
  induction w generalizing before with
  | nil => exact List.mem_singleton_self _
  | cons x w ih =>
    rw [lit, ends_seq, List.mem_flatMap]
    refine ⟨⟨x :: before, w ++ after⟩, ?_, ?_⟩
    · rw [ends_one]
      simp
    · rw [List.reverse_cons, List.append_assoc]
      exact ih (x :: before)

/-- A repetition may take any stretch of elements that pass the test. -/
lemma mem_iterate_one {p : α → Bool} {n : ℕ} {w : List α} (pass : ∀ x ∈ w, p x = true)
    (enough : w.length ≤ n) (before after : List α) :
    ⟨w.reverse ++ before, after⟩ ∈ iterate (ends (.one p)) n ⟨before, w ++ after⟩ := by
  induction w generalizing before n with
  | nil =>
    cases n with
    | zero => exact List.mem_singleton_self _
    | succ n => exact List.mem_append_right _ (List.mem_singleton_self _)
  | cons x w ih =>
    cases n with
    | zero => cases enough
    | succ n =>
      refine List.mem_append_left _ (List.mem_flatMap.mpr ⟨⟨x :: before, w ++ after⟩, ?_, ?_⟩)
      · rw [ends_one]
        simp [pass x (List.mem_cons_self ..)]
      · rw [List.reverse_cons, List.append_assoc]
        exact ih (fun y mem => pass y (List.mem_cons_of_mem _ mem)) (Nat.le_of_succ_le_succ enough) _

lemma mem_ends_star_one {p : α → Bool} {w : List α} (pass : ∀ x ∈ w, p x = true)
    (before after : List α) :
    ⟨w.reverse ++ before, after⟩ ∈ ends (.star (.one p)) ⟨before, w ++ after⟩ := by
  rw [ends_star]
  apply mem_iterate_one pass
  rw [List.length_append]
  exact Nat.le_add_right _ _

/-! ## Occurrences no match touches -/

/-- The occurrence of `w` between `a` and `b` lies outside the matches of the first expression, and
    what becomes of it outside those of the next. -/
def Spared (repl : List α) : List (Regex α) → List α → List α → List α → Prop
  | [], _, _, _ => True
  | r :: rs, a, w, b => ∃ left right,
      pieces r (a ++ w ++ b) = left ++ w.map .kept ++ right ∧ source left = a ∧
        Spared repl rs (replaced repl left) w (replaced repl right)

lemma replaced_append (repl : List α) (u v : List (Piece α)) :
    replaced repl (u ++ v) = replaced repl u ++ replaced repl v := List.flatMap_append

lemma replaced_map_kept (repl text : List α) : replaced repl (text.map .kept) = text := by
  induction text with
  | nil => rfl
  | cons x text ih => exact congrArg (x :: ·) ih

/-- What no match touches is still there after the replacements. -/
theorem Spared.infix {repl : List α} {rs : List (Regex α)} {a w b : List α}
    (h : Spared repl rs a w b) : ∃ a' b', subs repl rs (a ++ w ++ b) = a' ++ w ++ b' := by
  induction rs generalizing a b with
  | nil => exact ⟨a, b, rfl⟩
  | cons r rs ih =>
    obtain ⟨left, right, cut, -, rest⟩ := h
    have step : sub r repl (a ++ w ++ b) = replaced repl left ++ w ++ replaced repl right := by
      rw [sub, cut, replaced_append, replaced_append, replaced_map_kept]
    rw [subs, List.foldl_cons, step]
    exact ih rest

end Regex

end ClientEngagement
