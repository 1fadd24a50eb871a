import Mathlib

/-!
# The first of each identity, and combinations

`distinctBy` keeps of a list the first element of each identity. It depends on which elements share an identity
alone (`distinctBy_congr`), and when the list is in order every element has one before it that is kept and shares
its identity (`exists_kept`). `combinations` are the subsequences of a length, as `itertools.combinations` lists
them.
-/

namespace ClientEngagement

section
variable {α ι ι' : Type*} [DecidableEq ι] [DecidableEq ι']

/-- The first element of each identity that was not seen. -/
def distinctBy (identity : α → ι) : List ι → List α → List α
  | _, [] => []
  | seen, a :: l =>
    if identity a ∈ seen then distinctBy identity seen l else a :: distinctBy identity (identity a :: seen) l

variable {identity : α → ι} {identity' : α → ι'} {seen : List ι} {l : List α} {a : α}

lemma distinctBy_cons (identity : α → ι) (seen : List ι) (a : α) (l : List α) :
    distinctBy identity seen (a :: l) =
      if identity a ∈ seen then distinctBy identity seen l else a :: distinctBy identity (identity a :: seen) l := rfl

lemma distinctBy_sublist (identity : α → ι) (seen : List ι) (l : List α) :
    (distinctBy identity seen l).Sublist l := by
  induction l generalizing seen with
  | nil => exact .slnil
  | cons a l ih =>
    rw [distinctBy_cons]
    split
    · exact (ih seen).cons a
    · exact (ih _).cons_cons a

lemma distinctBy_append (identity : α → ι) (seen : List ι) (l l' : List α) :
    distinctBy identity seen (l ++ l') = distinctBy identity seen l ++
      distinctBy identity ((distinctBy identity seen l).reverse.map identity ++ seen) l' := by
  induction l generalizing seen with
  | nil => rfl
  | cons a l ih =>
    rw [List.cons_append, distinctBy_cons, distinctBy_cons]
    split_ifs
    · exact ih seen
    · rw [ih, List.cons_append, List.reverse_cons, List.map_append, List.append_assoc]
      rfl

/-- What is kept has identities that were not seen, each once. -/
lemma distinctBy_distinct (identity : α → ι) (seen : List ι) (l : List α) :
    (∀ a ∈ distinctBy identity seen l, identity a ∉ seen) ∧
      (distinctBy identity seen l).Pairwise fun a b => identity a ≠ identity b := by
  induction l generalizing seen with
  | nil => exact ⟨nofun, .nil⟩
  | cons a l ih =>
    rw [distinctBy_cons]
    split_ifs with old
    · exact ih seen
    · obtain ⟨fresh, apart⟩ := ih (identity a :: seen)
      refine ⟨?_, List.pairwise_cons.mpr ⟨?_, apart⟩⟩
      · intro b mem
        obtain rfl | later := List.mem_cons.mp mem
        · exact old
        · exact fun there => fresh b later (List.mem_cons_of_mem _ there)
      · intro b later same
        exact fresh b later (same ▸ List.mem_cons_self ..)

/-- In a list in order, every element whose identity was not seen has one at or before it that is kept. -/
lemma exists_kept {r : α → α → Prop} (order : l.Pairwise r) (mem : a ∈ l) (new : identity a ∉ seen) :
    ∃ b ∈ distinctBy identity seen l, identity b = identity a ∧ (b = a ∨ r b a) := by
  induction l generalizing seen with
  | nil => cases mem
  | cons c l ih =>
    obtain ⟨first, order⟩ := List.pairwise_cons.mp order
    rw [distinctBy_cons]
    split_ifs with old
    · obtain rfl | later := List.mem_cons.mp mem
      · exact absurd old new
      · exact ih order later new
    · by_cases same : identity c = identity a
      · refine ⟨c, List.mem_cons_self .., same, ?_⟩
        obtain rfl | later := List.mem_cons.mp mem
        · exact .inl rfl
        · exact .inr (first a later)
      · have later : a ∈ l := (List.mem_cons.mp mem).resolve_left fun eq => same (eq ▸ rfl)
        have still : identity a ∉ identity c :: seen := by
          rw [List.mem_cons, not_or]
          exact ⟨fun eq => same eq.symm, new⟩
        obtain ⟨b, there, identities, before⟩ := ih order later still
        exact ⟨b, List.mem_cons_of_mem _ there, identities, before⟩

/-- Identities that tell the same elements apart keep the same elements. -/
lemma distinctBy_congr (kept : List α)
    (agree : ∀ a ∈ kept ++ l, ∀ b ∈ kept ++ l, identity a = identity b ↔ identity' a = identity' b) :
    distinctBy identity (kept.map identity) l = distinctBy identity' (kept.map identity') l := by
  induction l generalizing kept with
  | nil => rfl
  | cons a l ih =>
    have seen : identity a ∈ kept.map identity ↔ identity' a ∈ kept.map identity' := by
      rw [List.mem_map, List.mem_map]
      apply exists_congr
      intro b
      apply and_congr_right
      intro there
      exact agree b (List.mem_append_left _ there) a (by simp)
    rw [distinctBy_cons, distinctBy_cons]
    by_cases old : identity a ∈ kept.map identity
    · rw [if_pos old, if_pos (seen.mp old)]
      apply ih
      intro b mem c mem'
      exact agree b (by simp only [List.mem_append, List.mem_cons] at mem ⊢; tauto) c
        (by simp only [List.mem_append, List.mem_cons] at mem' ⊢; tauto)
    · rw [if_neg old, if_neg (seen.not.mp old)]
      refine congrArg (a :: ·) (ih (a :: kept) ?_)
      intro b mem c mem'
      exact agree b (by simp only [List.cons_append, List.mem_append, List.mem_cons] at mem ⊢; tauto) c
        (by simp only [List.cons_append, List.mem_append, List.mem_cons] at mem' ⊢; tauto)

end

/-! ## Combinations -/

section
variable {α : Type*}

/-- The subsequences of a length, in the order of their positions. -/
def combinations : ℕ → List α → List (List α)
  | 0, _ => [[]]
  | _ + 1, [] => []
  | n + 1, a :: l => (combinations n l).map (a :: ·) ++ combinations (n + 1) l

lemma mem_combinations {n : ℕ} {c l : List α} : c ∈ combinations n l ↔ c.Sublist l ∧ c.length = n := by
  induction l generalizing n c with
  | nil =>
    cases n with
    | zero => simp [combinations]
    | succ n =>
      simp only [combinations, List.not_mem_nil, false_iff, List.sublist_nil]
      rintro ⟨rfl, none_left⟩
      cases none_left
  | cons a l ih =>
    cases n with
    | zero =>
      simp only [combinations, List.mem_singleton, List.length_eq_zero_iff]
      constructor
      · rintro rfl
        exact ⟨List.nil_sublist _, rfl⟩
      · exact fun both => both.2
    | succ n =>
      rw [combinations, List.mem_append, List.mem_map, ih]
      constructor
      · rintro (⟨rest, mem, rfl⟩ | ⟨sub, length⟩)
        · obtain ⟨sub, length⟩ := ih.mp mem
          exact ⟨sub.cons_cons a, congrArg (· + 1) length⟩
        · exact ⟨sub.cons a, length⟩
      · rintro ⟨sub, length⟩
        cases sub with
        | cons _ sub => exact .inr ⟨sub, length⟩
        | cons_cons _ sub => exact .inl ⟨_, ih.mpr ⟨sub, Nat.succ.inj length⟩, rfl⟩

/-- Distinct elements have distinct combinations. -/
lemma nodup_combinations {l : List α} (nodup : l.Nodup) (n : ℕ) : (combinations n l).Nodup := by
  induction l generalizing n with
  | nil =>
    cases n with
    | zero => exact List.nodup_singleton _
    | succ n => exact .nil
  | cons a l ih =>
    obtain ⟨fresh, nodup⟩ := List.nodup_cons.mp nodup
    cases n with
    | zero => exact List.nodup_singleton _
    | succ n =>
      rw [combinations, List.nodup_append]
      refine ⟨(ih nodup n).map (List.cons_injective), ih nodup (n + 1), ?_⟩
      rintro c mem c' mem' rfl
      obtain ⟨rest, _, rfl⟩ := List.mem_map.mp mem
      exact fresh ((Iff.mp mem_combinations mem').1.subset (List.mem_cons_self ..))

end

end ClientEngagement
