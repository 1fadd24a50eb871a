import Mathlib

/-!
# Sorting and choosing by a key

`sortBy` is a stable sort by a key into a linear order and `minBy` the first element with the least
key. When the key separates the elements of a list, neither depends on the order the list was given
in: `sortBy_eq_of_perm` and `minBy_eq_of_perm`. The take/drop lemmas at the end say which elements a
cut through a sorted list keeps.
-/

namespace ClientEngagement

variable {α β : Type*} [LinearOrder β]

/-- A stable sort by a key. -/
def sortBy (f : α → β) (l : List α) : List α := l.insertionSort fun a b => f a ≤ f b

/-- The first element with the least key. -/
def minBy (f : α → β) (l : List α) : Option α := l.argmin f

lemma sortBy_perm (f : α → β) (l : List α) : (sortBy f l).Perm l := List.perm_insertionSort _ l

@[simp] lemma mem_sortBy {f : α → β} {l : List α} {a : α} : a ∈ sortBy f l ↔ a ∈ l :=
  (sortBy_perm f l).mem_iff

@[simp] lemma length_sortBy (f : α → β) (l : List α) : (sortBy f l).length = l.length :=
  (sortBy_perm f l).length_eq

lemma sortBy_pairwise (f : α → β) (l : List α) : (sortBy f l).Pairwise fun a b => f a ≤ f b := by
  have : IsTrans α fun a b => f a ≤ f b := ⟨fun _ _ _ => le_trans⟩
  have : Std.Total fun a b : α => f a ≤ f b := ⟨fun a b => le_total (f a) (f b)⟩
  exact List.pairwise_insertionSort _ l

/-- Sorting by a key that separates the elements forgets the order they were given in. -/
theorem sortBy_eq_of_perm {f : α → β} {l l' : List α} (p : l.Perm l')
    (inj : ∀ a ∈ l, ∀ b ∈ l, f a = f b → a = b) : sortBy f l = sortBy f l' := by
  apply List.Perm.eq_of_pairwise _ (sortBy_pairwise f l) (sortBy_pairwise f l')
  · exact (sortBy_perm f l).trans (p.trans (sortBy_perm f l').symm)
  · intro a b ha hb hab hba
    exact inj a (mem_sortBy.mp ha) b (p.mem_iff.mpr (mem_sortBy.mp hb)) (le_antisymm hab hba)

lemma filter_orderedInsert {f : α → β} {b : β} {x : α} {l : List α} :
    (l.orderedInsert (fun a b => f a ≤ f b) x).filter (fun a => f a = b) =
      (x :: l).filter fun a => f a = b := by
  induction l with
  | nil => rfl
  | cons y l ih =>
    rw [List.orderedInsert_cons]
    by_cases le : f x ≤ f y
    · rw [if_pos le]
    · rw [if_neg le, List.filter_cons, ih]
      -- what is passed over has another key
      by_cases first : f x = b
      · have other : ¬ f y = b := fun second => le (le_of_eq (first.trans second.symm))
        simp [first, other]
      · simp [first, List.filter_cons]

/-- Sorting keeps the order of the elements of one key. -/
lemma filter_sortBy (f : α → β) (b : β) (l : List α) :
    (sortBy f l).filter (fun a => f a = b) = l.filter fun a => f a = b := by
  induction l with
  | nil => rfl
  | cons x l ih =>
    rw [sortBy, List.insertionSort_cons, filter_orderedInsert, List.filter_cons, List.filter_cons]
    rw [sortBy] at ih
    rw [ih]

/-- Lists in the order of a key are the same when they have the same elements of each key in the same
    order. -/
lemma eq_of_sorted_of_filter {f : α → β} {l l' : List α} (sorted : l.Pairwise fun a b => f a ≤ f b)
    (sorted' : l'.Pairwise fun a b => f a ≤ f b)
    (same : ∀ b, l.filter (fun a => f a = b) = l'.filter fun a => f a = b) : l = l' := by
  have mem {l l' : List α} (same : ∀ b, l.filter (fun a => f a = b) = l'.filter fun a => f a = b)
      {a : α} (mem : a ∈ l) : a ∈ l' := by
    have kept : a ∈ l.filter fun x => f x = f a := List.mem_filter.mpr ⟨mem, decide_eq_true rfl⟩
    rw [same] at kept
    exact (List.mem_filter.mp kept).1
  induction l generalizing l' with
  | nil =>
    cases l' with
    | nil => rfl
    | cons y l' => cases mem (fun b => (same b).symm) List.mem_cons_self
  | cons x l ih =>
    cases l' with
    | nil => cases mem same List.mem_cons_self
    | cons y l' =>
      obtain ⟨least, rest⟩ := List.pairwise_cons.mp sorted
      obtain ⟨least', rest'⟩ := List.pairwise_cons.mp sorted'
      have le : f x ≤ f y := by
        rcases List.mem_cons.mp (mem (fun b => (same b).symm) List.mem_cons_self) with rfl | mem
        · exact le_rfl
        · exact least y mem
      have le' : f y ≤ f x := by
        rcases List.mem_cons.mp (mem same List.mem_cons_self) with rfl | mem
        · exact le_rfl
        · exact least' x mem
      have key : f x = f y := le_antisymm le le'
      have heads := same (f y)
      have kept : (x :: l).filter (fun a => f a = f y) = x :: l.filter fun a => f a = f y :=
        List.filter_cons_of_pos (decide_eq_true key)
      have kept' : (y :: l').filter (fun a => f a = f y) = y :: l'.filter fun a => f a = f y :=
        List.filter_cons_of_pos (decide_eq_true rfl)
      rw [kept, kept'] at heads
      obtain ⟨rfl, -⟩ := List.cons.inj heads
      refine congrArg (x :: ·) (ih rest rest' fun b => ?_)
      have tails := same b
      rw [List.filter_cons, List.filter_cons] at tails
      split at tails
      · exact (List.cons.inj tails).2
      · exact tails

/-- A sort depends on the order of the elements of each key alone. -/
theorem sortBy_eq_of_filter {f : α → β} {l l' : List α}
    (same : ∀ b, l.filter (fun a => f a = b) = l'.filter fun a => f a = b) :
    sortBy f l = sortBy f l' := by
  apply eq_of_sorted_of_filter (sortBy_pairwise f l) (sortBy_pairwise f l')
  intro b
  rw [filter_sortBy, filter_sortBy, same]

lemma minBy_mem {f : α → β} {l : List α} {m : α} (h : minBy f l = some m) : m ∈ l :=
  List.argmin_mem h

lemma minBy_le {f : α → β} {l : List α} {m a : α} (h : minBy f l = some m) (ha : a ∈ l) :
    f m ≤ f a :=
  List.le_of_mem_argmin ha h

@[simp] lemma minBy_eq_none {f : α → β} {l : List α} : minBy f l = none ↔ l = [] :=
  List.argmin_eq_none

lemma minBy_isSome {f : α → β} {l : List α} (h : l ≠ []) : ∃ m, minBy f l = some m := by
  cases e : minBy f l with
  | none => exact absurd (minBy_eq_none.mp e) h
  | some m => exact ⟨m, rfl⟩

/-- Choosing by a key that separates the elements forgets the order they were given in. -/
theorem minBy_eq_of_perm {f : α → β} {l l' : List α} (p : l.Perm l')
    (inj : ∀ a ∈ l, ∀ b ∈ l, f a = f b → a = b) : minBy f l = minBy f l' := by
  cases e : minBy f l with
  | none =>
    rw [minBy_eq_none] at e
    subst e
    obtain rfl := p.nil_eq
    rfl
  | some m =>
    have hm := minBy_mem e
    obtain ⟨m', e'⟩ := minBy_isSome (f := f) (List.ne_nil_of_mem (p.mem_iff.mp hm))
    have hm' := p.mem_iff.mpr (minBy_mem e')
    have hle : f m ≤ f m' := minBy_le e hm'
    have hge : f m' ≤ f m := minBy_le e' (p.mem_iff.mp hm)
    rw [e', inj m hm m' hm' (le_antisymm hle hge)]

/-! ## Cutting a sorted list -/

lemma le_of_mem_take_drop {f : α → β} {l : List α} {n : ℕ} {a b : α}
    (ha : a ∈ (sortBy f l).take n) (hb : b ∈ (sortBy f l).drop n) : f a ≤ f b := by
  have h := sortBy_pairwise f l
  rw [← List.take_append_drop n (sortBy f l), List.pairwise_append] at h
  exact h.2.2 a ha b hb

lemma take_drop_disjoint {l : List α} (hl : l.Nodup) (n : ℕ) : (l.take n).Disjoint (l.drop n) := by
  rw [← List.take_append_drop n l, List.nodup_append] at hl
  intro a ha hb
  exact hl.2.2 a ha a hb rfl

lemma mem_take_or_drop {l : List α} {a : α} (n : ℕ) (h : a ∈ l) : a ∈ l.take n ∨ a ∈ l.drop n := by
  rw [← List.take_append_drop n l] at h
  exact List.mem_append.mp h

end ClientEngagement
