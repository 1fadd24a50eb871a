import Mathlib

/-!
# Lists of results

`List.mapM` of a function that may give nothing relates each element to its result (`mapM_eq_some_iff`), so it
gives a list when the function gives something at each element (`exists_mapM_iff`). `List.filterM` of a test that
may give nothing keeps what passes it (`mem_of_filterM`).
-/

namespace ClientEngagement

variable {α β : Type*} {f : α → Option β} {l : List α} {out : List β}

/-- The results are those of the elements, in order. -/
theorem mapM_eq_some_iff : l.mapM f = some out ↔ List.Forall₂ (fun a b => f a = some b) l out := by
  induction l generalizing out with
  | nil =>
    rw [List.forall₂_nil_left_iff]
    exact ⟨fun made => (Option.some.inj made).symm, fun made => made ▸ rfl⟩
  | cons a l ih =>
    rw [List.mapM_cons, List.forall₂_cons_left_iff]
    constructor
    · intro made
      obtain ⟨b, first, made⟩ := Option.bind_eq_some_iff.mp made
      obtain ⟨tail, rest, made⟩ := Option.bind_eq_some_iff.mp made
      cases made
      exact ⟨b, tail, first, ih.mp rest, rfl⟩
    · rintro ⟨b, tail, first, rest, rfl⟩
      rw [first, ih.mpr rest]
      rfl

lemma length_of_mapM (made : l.mapM f = some out) : out.length = l.length :=
  (mapM_eq_some_iff.mp made).length_eq.symm

/-- A result is that of an element. -/
lemma exists_of_mapM_eq_some (made : l.mapM f = some out) : ∀ b ∈ out, ∃ a ∈ l, f a = some b := by
  induction mapM_eq_some_iff.mp made with
  | nil => exact fun b mem => absurd mem List.not_mem_nil
  | cons first rest ih =>
    intro b mem
    rcases List.mem_cons.mp mem with rfl | mem
    · exact ⟨_, List.mem_cons_self, first⟩
    · obtain ⟨a, mem', same⟩ := ih (mapM_eq_some_iff.mpr rest) b mem
      exact ⟨a, List.mem_cons_of_mem _ mem', same⟩

/-- There are results when there is one for each element. -/
theorem exists_mapM_iff : (∃ out, l.mapM f = some out) ↔ ∀ a ∈ l, ∃ b, f a = some b := by
  induction l with
  | nil => exact ⟨fun _ _ mem => absurd mem List.not_mem_nil, fun _ => ⟨[], rfl⟩⟩
  | cons a l ih =>
    simp only [mapM_eq_some_iff, List.forall₂_cons_left_iff] at ih ⊢
    constructor
    · rintro ⟨_, b, tail, first, rest, rfl⟩ x mem
      cases mem with
      | head => exact ⟨b, first⟩
      | tail _ mem => exact ih.mp ⟨tail, rest⟩ x mem
    · intro all
      obtain ⟨b, first⟩ := all a List.mem_cons_self
      obtain ⟨tail, rest⟩ := ih.mpr fun x mem => all x (List.mem_cons_of_mem a mem)
      exact ⟨b :: tail, b, tail, first, rest, rfl⟩

/-! ## Tests that may give nothing -/

section Tests

variable {α : Type} {l out : List α}

lemma mem_of_filterAuxM {p : α → Option Bool} {kept : List α} (made : l.filterAuxM p kept = some out) {a : α} :
    a ∈ out ↔ a ∈ kept ∨ a ∈ l ∧ p a = some true := by
  induction l generalizing kept with
  | nil =>
    cases made
    exact ⟨.inl, fun mem => mem.resolve_right fun none_left => List.not_mem_nil none_left.1⟩
  | cons x l ih =>
    rw [List.filterAuxM] at made
    obtain ⟨passes, tested, rest⟩ := Option.bind_eq_some_iff.mp made
    rw [ih rest, List.mem_cons]
    cases passes with
    | true =>
      simp only [cond_true, List.mem_cons]
      constructor
      · rintro ((rfl | mem) | mem)
        · exact .inr ⟨.inl rfl, tested⟩
        · exact .inl mem
        · exact .inr ⟨.inr mem.1, mem.2⟩
      · rintro (mem | ⟨rfl | mem, passed⟩)
        · exact .inl (.inr mem)
        · exact .inl (.inl rfl)
        · exact .inr ⟨mem, passed⟩
    | false =>
      simp only [cond_false]
      refine or_congr_right ⟨fun mem => ⟨.inr mem.1, mem.2⟩, fun mem => ⟨mem.1.resolve_left ?_, mem.2⟩⟩
      rintro rfl
      rw [tested] at mem
      cases mem.2

theorem mem_of_filterM {p : α → Option Bool} (made : l.filterM p = some out) {a : α} :
    a ∈ out ↔ a ∈ l ∧ p a = some true := by
  rw [List.filterM] at made
  obtain ⟨reversed, kept, same⟩ := Option.bind_eq_some_iff.mp made
  cases same
  rw [List.mem_reverse, mem_of_filterAuxM kept]
  exact or_iff_right List.not_mem_nil

end Tests

end ClientEngagement
